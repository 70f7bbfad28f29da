import BatchJob.Error.Parse
import BatchJob.Json.Record
import BatchJob.Text.Upper

set_option autoImplicit false

/-!
Flags that change how a step runs.
-/

namespace BatchJob

/-- How a step departs from running in the foreground, only after successes, without file mounts. -/
inductive Flag where
  | runInBackground
  | alwaysRun
  | enableFuse
  deriving DecidableEq

namespace Flag

def name : Flag → String
  | runInBackground => "RUN_IN_BACKGROUND"
  | alwaysRun => "ALWAYS_RUN"
  | enableFuse => "ENABLE_FUSE"

def ofName? (name : String) : Option Flag :=
  if name = "RUN_IN_BACKGROUND" then some runInBackground
  else if name = "ALWAYS_RUN" then some alwaysRun
  else if name = "ENABLE_FUSE" then some enableFuse
  else none

/-- Reads the name of a flag in letters of either case. -/
def parse (text : List Char) : Except ParseFault Flag :=
  let capitals := Text.upper text
  match ofName? (String.ofList capitals) with
  | some flag => .ok flag
  | none => .error (.unknownFlag capitals)

def toJson (f : Flag) : Json := .text f.name

/-- Reads a flag from its name, or from an object whose only member has that name and no value. -/
def ofJson? : Json → Option Flag
  | .string (some name) => ofName? name
  | .object [(some name, .null)] => ofName? name
  | _ => none

end Flag

end BatchJob
