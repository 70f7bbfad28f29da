import BatchJob.Action
import BatchJob.Error.Parse
import BatchJob.Text.Words

set_option autoImplicit false

/-!
Lines of a script: command words, an optional `&`, and options after a `#`. An option is the name of
a flag or a setting `key=value`; settings with unknown keys have no effect. Port mappings have the
form `name:port`, with semicolons between them.
-/

namespace BatchJob.Ports

/-- Reads digits from left to right, until one is missing or the number leaves 64 bits. -/
def readDigits (n : Nat) : List Char → Except PortFault Nat
  | [] => .ok n
  | c :: rest =>
    if !c.isDigit then .error .invalidDigit
    else
      let next := n * 10 + (c.toNat - '0'.toNat)
      if next < UInt64.size then readDigits next rest else .error .tooLarge

/-- Reads a number of 64 bits; one plus sign may stand in front. -/
def readNumber : List Char → Except PortFault UInt64
  | [] => .error .empty
  | ['+'] => .error .invalidDigit
  | '+' :: rest => (readDigits 0 rest).map UInt64.ofNat
  | text => (readDigits 0 text).map UInt64.ofNat

/-- Reads one piece. The name has one character at least. -/
def readPiece (piece : List Char) : Except ParseFault (String × UInt64) :=
  match Text.cut ':' piece with
  | none | some ([], _) => .error (.portMapping piece)
  | some (name, number) =>
    match readNumber number with
    | .error fault => .error (.hostPort piece fault)
    | .ok port => .ok (String.ofList name, port)

/-- Reads a mapping; of pieces with one name, the last decides. -/
def parse (text : List Char) : Except ParseFault (Dict UInt64) := do
  let pairs ← (text.splitOn ';').mapM readPiece
  return Dict.ofList pairs

end BatchJob.Ports

namespace BatchJob.Script

/-- The images that steps run in when no option names one. -/
structure Images where
  standard : String
  cloudSdk : String
  deriving DecidableEq

structure Options where
  flags : List Flag := []
  settings : Dict (List Char) := .empty

def Options.add (o : Options) (word : List Char) : Except ParseFault Options :=
  match Text.cut '=' word with
  | some (key, value) => .ok { o with settings := o.settings.insert (String.ofList key) value }
  | none => do
    let flag ← Flag.parse word
    return { o with flags := o.flags ++ [flag] }

def chooseImage (images : Images) (settings : Dict (List Char)) (tokens : List (List Char)) :
    String :=
  match settings.get? "image" with
  | some image => String.ofList image
  | none =>
    if tokens.head?.any fun first => isCloudCommand (String.ofList first) then images.cloudSdk
    else images.standard

/-- The timeout that a setting asks for, in whole seconds. -/
def readTimeout (settings : Dict (List Char)) : Except ParseFault (Option String) :=
  match settings.get? "timeout" with
  | none => .ok none
  | some text =>
    match Duration.parse text with
    | .error fault => .error (.actionTimeout fault)
    | .ok d => .ok (some d.format)

/-- The port mappings that a setting asks for. -/
def readPorts (settings : Dict (List Char)) : Except ParseFault (Dict UInt64) :=
  match settings.get? "ports" with
  | none => .ok .empty
  | some text => Ports.parse text

def buildAction (images : Images) (tokens : List (List Char)) (flags : List Flag)
    (settings : Dict (List Char)) : Except ParseFault Action := do
  let plain : Action := { imageUri := chooseImage images settings tokens }
  let flagged := flags.foldl Action.addFlag plain
  let timeout ← readTimeout settings
  let ports ← readPorts settings
  return {
    flagged with
    entrypoint := if tokens.isEmpty then none else some "bash"
    commands := if tokens.isEmpty then [] else ["-c", String.ofList (Text.unwords tokens)]
    mounts := [.workingRoot]
    portMappings := ports
    timeout := timeout }

/-- Reads one line. A line with neither words nor flags is no step. -/
def parseLine (images : Images) (line : List Char) : Except ParseFault (Option Action) := do
  let (command, comment) := (Text.cut '#' line).getD (line, [])
  let options ← (Text.words comment).foldlM Options.add {}
  let tokens := Text.words command
  let background := tokens.getLast? == some ['&']
  let tokens := if background then tokens.dropLast else tokens
  let flags := if background then options.flags ++ [.runInBackground] else options.flags
  if tokens.isEmpty && flags.isEmpty then return none
  else
    let action ← buildAction images tokens flags options.settings
    return some action

end BatchJob.Script
