import BatchJob.LogFilter.Value
import BatchJob.Text.Digits
import BatchJob.Text.Words

set_option autoImplicit false

/-!
Directives of a filter: a level, or a target, a span and a field in brackets, with a level after an
equals sign. A level is written as its name, in any case, or as its number.
-/

namespace BatchJob.LogFilter

/-- How much a directive lets through. -/
inductive Level where
  | off | error | warn | info | debug | trace
  deriving DecidableEq

namespace Level

/-- All levels; each stands at the place of its number. -/
def all : List Level := [off, error, warn, info, debug, trace]

def name : Level → String
  | off => "off"
  | error => "error"
  | warn => "warn"
  | info => "info"
  | debug => "debug"
  | trace => "trace"

/-- The level with a number, or with a name in letters of either case; no text stands for errors. -/
def ofText? (text : List Char) : Option Level :=
  let lower := String.ofList (text.map Char.toLower)
  match Text.digits? (if text.head? = some '+' then text.tail else text) with
  | some n => all[n]?
  | none => if text.isEmpty then some error else all.find? (·.name = lower)

end Level

/-- A field that a span must have, perhaps with a value. -/
structure Field where
  name : List Char
  value : Option Value
  deriving DecidableEq

structure Directive where
  target : Option (List Char) := none
  span : Option (List Char) := none
  field : Option Field := none
  level : Level := .trace
  deriving DecidableEq

/-- Reads a field; what follows a second equals sign does not count. -/
def Field.ofText? (text : List Char) : Option Field :=
  match text.splitOn '=' with
  | [] => none
  | [name] => if name.isEmpty then none else some ⟨name, none⟩
  | name :: value :: _ => (Value.ofText? value).map fun v => ⟨name, some v⟩

def Field.text (f : Field) : List Char :=
  f.name ++ (match f.value with | some v => '=' :: v.text | none => [])

/-- What is being read; a number is the place, in bytes, where it began. -/
inductive Reading where
  | start
  | levelOrTarget (start : Nat)
  | span (start : Nat)
  | field (start : Nat)
  | fieldEnd
  | target
  | level (start : Nat)

namespace Directive

def readChar? (text : List Char) (d : Directive) :
    Reading → Nat → Char → Option (Directive × Reading)
  | .start, i, c =>
    if c = '[' then some (d, .span (i + 1))
    else if ['-', ':', '_'].contains c || Text.isAlphanumeric c then some (d, .levelOrTarget i)
    else none
  | .levelOrTarget first, i, c =>
    if c = '=' then some ({ d with target := some (Text.slice text first i) }, .level (i + 1))
    else if c = '[' then some ({ d with target := some (Text.slice text first i) }, .span (i + 1))
    else some (d, .levelOrTarget first)
  | .target, i, c => if c = '=' then some (d, .level (i + 1)) else none
  | .span first, i, c =>
    if c = ']' then some ({ d with span := some (Text.slice text first i) }, .target)
    else if c = '\x7b' then
      let name := Text.slice text first i
      some ({ d with span := if name.isEmpty then none else some name }, .field (i + 1))
    else some (d, .span first)
  | .field first, i, c =>
    if c = '\x7d' then
      (Field.ofText? (Text.slice text first i)).map fun f => ({ d with field := some f }, .fieldEnd)
    else some (d, .field first)
  | .fieldEnd, _, c => if c = ']' then some (d, .target) else none
  | .level first, _, _ => some (d, .level first)

def readChars? (text : List Char) (d : Directive) (reading : Reading) (i : Nat) :
    List Char → Option (Directive × Reading)
  | [] => some (d, reading)
  | c :: rest =>
    match readChar? text d reading i c with
    | some (d, reading) => readChars? text d reading (i + c.utf8Size) rest
    | none => none

/-- Reads a directive. Places are found without the blanks at its ends, and taken with them. -/
def ofText? (text : List Char) : Option Directive :=
  match readChars? text {} .start 0 (Text.trim text) with
  | some (d, .levelOrTarget first) =>
    let rest := Text.dropBytes first text
    if rest.isEmpty then some d
    else
      match Level.ofText? rest with
      | some level => some { d with level := level, target := none }
      | none => some { d with level := .trace, target := some rest }
  | some (d, .level first) =>
    let rest := Text.dropBytes first text
    if rest.isEmpty then some d else (Level.ofText? rest).map fun level => { d with level := level }
  | some (d, .target) => some d
  | _ => none

/-- Whether the directive depends on spans. -/
def isDynamic (d : Directive) : Bool := d.span.isSome || d.field.isSome

/-- Whether the directive can also be applied where there is no span. -/
def isStatic (d : Directive) : Bool := d.span.isNone && d.field.all (·.value.isNone)

/-- The rank of a directive; the higher, the more specific. -/
def rank (d : Directive) : List (List Int) :=
  let code (text : Option (List Char)) : List Int :=
    match text with | none => [] | some cs => 0 :: cs.map fun c => (c.toNat : Int)
  let size : List Int :=
    match d.target with | none => [] | some cs => [Text.byteLength cs]
  [size, [d.span.isSome.toNat], [d.field.isSome.toNat], code d.target, code d.span] ++
    match d.field with
    | none => []
    | some f => [[f.value.isSome.toNat], code (some f.name), (f.value.map Value.rank).getD []]

def text (d : Directive) : List Char :=
  let field := match d.field with | some f => '\x7b' :: f.text ++ ['\x7d'] | none => []
  let bracket := if d.isDynamic then '[' :: d.span.getD [] ++ field ++ [']'] else []
  let place := d.target.getD [] ++ bracket
  (if d.target.isSome || d.isDynamic then place ++ ['='] else []) ++ d.level.name.toList

end Directive

end BatchJob.LogFilter
