import BatchJob.Host
import BatchJob.Script.Document

set_option autoImplicit false

/-!
Where a job description comes from.
-/

namespace BatchJob.Script

inductive Source where
  | command (line : String)
  | file (path : String)
  | input
  | text (text : String)
  deriving DecidableEq

namespace Source

/-- The source that a command or the path of a script names; the path `-` is the standard input. -/
def resolve (command script : Option String) : Except ConfigError Source :=
  match command.filter (· ≠ ""), script.filter (· ≠ "") with
  | some _, some _ => .error .multipleSources
  | some line, none => .ok (.command line)
  | none, some path => .ok (if path = "-" then .input else .file path)
  | none, none => .error .noCommand

def commandJob (images : Images) (line : String) : Except ParseError Job :=
  match parseLine images line.toList with
  | .error fault => .error ⟨none, .command fault⟩
  | .ok action => .ok (.actions action.toList)

def textOf (h : Host) : Source → Traced InputFault String
  | command line => pure line
  | file path => h.textOf path
  | input => h.inputText
  | text t => pure t

def read (images : Images) (h : Host) (s : Source) : Traced JobError Job :=
  match s with
  | command line => .ofExcept ((commandJob images line).mapError .parse)
  | source => do
    let text ← (textOf h source).mapError .input
    Traced.ofExcept ((parseDocument images text).mapError .parse)

end Source

end BatchJob.Script
