import BatchJob.Dict
import BatchJob.Json.Basic

set_option autoImplicit false

/-!
Structures written as JSON objects. A structure may also be read from an array of its fields, in the
order of their declaration. Members with unknown names are passed over; a known name stands once.
-/

namespace BatchJob.Json

def text? : Json → Option String
  | .string s => s
  | _ => none

def bool? : Json → Option Bool
  | .bool b => some b
  | _ => none

/-- A natural number below a bound. -/
def natBelow? (bound : Nat) : Json → Option Nat
  | .number n => n.nat?.filter (· < bound)
  | _ => none

def word64? (j : Json) : Option UInt64 :=
  (natBelow? UInt64.size j).map UInt64.ofNat

def word32? (j : Json) : Option UInt32 :=
  (natBelow? UInt32.size j).map UInt32.ofNat

def int32? : Json → Option Int
  | .number n => n.int?.filter fun i => -2147483648 ≤ i ∧ i < 2147483648
  | _ => none

def list? {α : Type} (read : Json → Option α) : Json → Option (List α)
  | .array items => items.mapM read
  | _ => none

/-- The members of an object as a map; of members with one name, the last. -/
def dict? {α : Type} (read : Json → Option α) : Json → Option (Dict α)
  | .object members =>
    let pair? (m : Option String × Json) : Option (String × α) := do some (← m.1, ← read m.2)
    (members.mapM pair?).map Dict.ofList
  | _ => none

/-- A value, or `null` for none. -/
def nullable? {α : Type} (read : Json → Option α) : Json → Option (Option α)
  | .null => some none
  | j => (read j).map some

/-- The values of a structure's fields, as a text gives them. -/
structure Fields where
  /-- Whether the text gives the fields by position and not by name. -/
  positional : Bool
  find? : String → Option Json

/-- Opens a structure with the given field names. -/
def fields? (names : List String) : Json → Option Fields
  | .array items =>
    if items.length ≤ names.length then some ⟨true, fun name => (names.zip items).lookup name⟩
    else none
  | .object members =>
    if members.all (·.1.isSome) &&
        names.all fun name => (members.filter (·.1 == some name)).length ≤ 1 then
      some ⟨false, fun name => members.lookup (some name)⟩
    else none
  | _ => none

namespace Fields

variable {α : Type}

def required (f : Fields) (name : String) (read : Json → Option α) : Option α :=
  (f.find? name).bind read

/-- A field with a default. -/
def optional (f : Fields) (name : String) (default : α) (read : Json → Option α) : Option α :=
  match f.find? name with
  | none => some default
  | some j => read j

/-- A field that may be absent or `null`, but that a list of fields must name. -/
def absentable (f : Fields) (name : String) (read : Json → Option α) : Option (Option α) :=
  match f.find? name with
  | none => if f.positional then none else some none
  | some j => nullable? read j

end Fields

/-- The object of the fields that are present. -/
def ofFields (fields : List (String × Option Json)) : Json :=
  record (fields.filterMap fun (name, value) => value.map (name, ·))

def texts (items : List String) : Json := .array (items.map text)

/-- A map as an object, in the order of the names. -/
def ofDict {α : Type} (write : α → Json) (d : Dict α) : Json :=
  record (d.entries.map fun (name, value) => (name, write value))

def ofNullable {α : Type} (write : α → Json) : Option α → Json
  | none => .null
  | some a => write a

/-- A value that is left out when it is not wanted. -/
def presentIf (wanted : Bool) (value : Json) : Option Json :=
  if wanted then some value else none

end BatchJob.Json
