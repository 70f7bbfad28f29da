import BatchJob.Json.Record
import BatchJob.Trace

set_option autoImplicit false

/-!
Receivers of events: one keeps them, the other writes each into the log.
-/

namespace BatchJob

/-- An event as a receiver gets it: its name and perhaps a record. -/
structure Notice where
  name : String
  data : Option Json

namespace Notice

def ofEvent (e : Event) : Notice := ⟨e.name, some e.payload⟩

def hasPrefix (text : String) (n : Notice) : Bool :=
  text.toList.isPrefixOf n.name.toList

def member? (n : Notice) (name : String) : Option Json :=
  n.data.bind (·.member? name)

end Notice

/-- The notices kept so far whose names begin with the given text. -/
def noticesOf (kept : List Notice) (text : String) : List Notice :=
  kept.filter (Notice.hasPrefix text)

/-- A line of the log about an event, with the fields that its record has. -/
structure EventLine where
  level : LogLevel
  name : String
  operation : Option String
  attempt : Option UInt64
  message : Option String
  deriving DecidableEq

namespace EventLine

def text (l : EventLine) : String := "Event: " ++ l.name

/--
The level of a line, for a receiver that writes at `level`. A failure is a warning at least, and
there are lines of three levels only.
-/
def levelFor (level : LogLevel) (name : String) : LogLevel :=
  let failed := "failed".toList.isSuffixOf name.toList
  match level with
  | .trace | .debug => if failed then .warn else .debug
  | .info => if failed then .warn else .info
  | .warn | .error => .warn

def ofNotice (level : LogLevel) (n : Notice) : EventLine where
  level := levelFor level n.name
  name := n.name
  operation := (n.member? "operation").bind Json.text?
  attempt := (n.member? "attempt").bind Json.word64?
  message := (n.member? "message").bind Json.text?

end EventLine

end BatchJob
