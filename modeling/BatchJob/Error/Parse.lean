import BatchJob.Duration
import BatchJob.Text.Quoted

set_option autoImplicit false

/-!
Why a job description cannot be read, and the words in which that is reported.
-/

namespace BatchJob

/-- Why a text is not the number of a port. -/
inductive PortFault where
  | empty
  | invalidDigit
  | tooLarge
  deriving DecidableEq

inductive ParseFault where
  | unknownFlag (name : List Char)
  | duration (fault : DurationFault)
  | actionTimeout (fault : DurationFault)
  | portMapping (piece : List Char)
  | hostPort (piece : List Char) (fault : PortFault)
  | command (fault : ParseFault)
  | reported (message : String)
  deriving DecidableEq

/-- A parse error, with the number of the line at which it was found in a script. -/
structure ParseError where
  line : Option Nat
  fault : ParseFault
  deriving DecidableEq

def quotedChars (s : List Char) : String :=
  String.ofList (Text.quote s)

def DurationFault.message : DurationFault → String
  | malformed text => "invalid duration " ++ quotedChars text
  | outOfRange text => "duration " ++ quotedChars text ++ " is out of range"

def PortFault.message : PortFault → String
  | empty => "cannot parse integer from empty string"
  | invalidDigit => "invalid digit found in string"
  | tooLarge => "number too large to fit in target type"

def ParseFault.message : ParseFault → String
  | unknownFlag name => "unknown action flag " ++ quotedChars name
  | duration fault => fault.message
  | actionTimeout fault => "parsing action timeout: " ++ fault.message
  | portMapping piece => "invalid port mapping " ++ quotedChars piece
  | hostPort piece fault => "parsing host port in " ++ quotedChars piece ++ ": " ++ fault.message
  | command fault => "creating action from command: " ++ fault.message
  | reported message => message

def ParseError.message (e : ParseError) : String :=
  match e.line with
  | some n => "line " ++ toString n ++ ": " ++ e.fault.message
  | none => e.fault.message

end BatchJob
