import BatchJob.Binary64
import BatchJob.Text.Digits
import BatchJob.Text.Words

set_option autoImplicit false

/-!
Spans of time and their notation: decimal numbers, each directly followed by a unit, such as
`1h30m` or `250ms`. The parts are added up as double-precision seconds.
-/

namespace BatchJob

/-- A span of time in whole nanoseconds, below `2 ^ 64` seconds. -/
structure Duration where
  nanoseconds : Nat
  lt_limit : nanoseconds < UInt64.size * 1000000000
  deriving DecidableEq

inductive DurationFault where
  | malformed (text : List Char)
  | outOfRange (text : List Char)
  deriving DecidableEq

namespace Duration

abbrev perSecond : Nat := 1000000000

def zero : Duration := ⟨0, by decide⟩

/-- Whole seconds and further nanoseconds, if the sum stays below the limit. -/
def ofParts? (seconds nanoseconds : Nat) : Option Duration :=
  if h : seconds * perSecond + nanoseconds < UInt64.size * perSecond then some ⟨_, h⟩ else none

def seconds (d : Duration) : Nat := d.nanoseconds / perSecond

def subsecond (d : Duration) : Nat := d.nanoseconds % perSecond

def inSeconds (d : Duration) : Binary64 :=
  (Binary64.ofNat d.seconds).add (Binary64.round d.subsecond perSecond)

/-- The span rounded to whole seconds, in digits. -/
def roundedSeconds (d : Duration) : List Char :=
  Nat.toDigits 10 (d.inSeconds.nearest?.getD 0)

/-- The notation in whole seconds, such as `90s`. -/
def format (d : Duration) : String :=
  String.ofList (d.roundedSeconds ++ ['s'])

/-- A unit of time as it is written; two letters are in use for the Greek mu. -/
inductive Symbol where
  | ns | us | microSign | greekMu | ms | s | m | h
  deriving DecidableEq

namespace Symbol

def text : Symbol → List Char
  | ns => ['n', 's']
  | us => ['u', 's']
  | microSign => ['\u00b5', 's']
  | greekMu => ['\u03bc', 's']
  | ms => ['m', 's']
  | s => ['s']
  | m => ['m']
  | h => ['h']

/-- The length of a unit in double-precision seconds. -/
def scale : Symbol → Binary64
  | ns => Binary64.round 1 1000000000
  | us | microSign | greekMu => Binary64.round 1 1000000
  | ms => Binary64.round 1 1000
  | s => Binary64.ofNat 1
  | m => Binary64.ofNat 60
  | h => Binary64.ofNat 3600

/-- Reads a unit off the front of a text, the longest that fits. -/
def read? : List Char → Option (Symbol × List Char)
  | 'n' :: 's' :: rest => some (ns, rest)
  | 'u' :: 's' :: rest => some (us, rest)
  | '\u00b5' :: 's' :: rest => some (microSign, rest)
  | '\u03bc' :: 's' :: rest => some (greekMu, rest)
  | 'm' :: 's' :: rest => some (ms, rest)
  | 's' :: rest => some (s, rest)
  | 'm' :: rest => some (m, rest)
  | 'h' :: rest => some (h, rest)
  | _ => none

end Symbol

/-- One number with its unit. Only a number with a point has a fraction, which may be empty. -/
structure Component where
  whole : List Char
  fraction : Option (List Char)
  symbol : Symbol
  deriving DecidableEq

namespace Component

def text (c : Component) : List Char :=
  c.whole ++ (match c.fraction with | some f => '.' :: f | none => []) ++ c.symbol.text

def inSeconds (c : Component) : Binary64 :=
  let places := c.fraction.getD []
  (Binary64.round (Nat.ofDigitChars 10 (c.whole ++ places) 0) (Nat.pow 10 places.length)).mul
    c.symbol.scale

def read? (s : List Char) : Option (Component × List Char) := do
  let (whole, fraction, rest) ← Text.readNumber? s
  let (symbol, rest) ← Symbol.read? rest
  some (⟨whole, fraction, symbol⟩, rest)

end Component

theorem Symbol.length_read?_lt {s rest : List Char} {symbol : Symbol}
    (h : Symbol.read? s = some (symbol, rest)) : rest.length < s.length := by
  unfold Symbol.read? at h
  split at h <;> grind

theorem Component.length_read?_lt {s rest : List Char} {c : Component}
    (h : Component.read? s = some (c, rest)) : rest.length < s.length := by
  simp only [Component.read?, Option.bind_eq_bind, Option.bind_eq_some_iff] at h
  obtain ⟨⟨whole, fraction, r⟩, hn, ⟨symbol, r'⟩, hs, h⟩ := h
  simp only [Option.some.injEq, Prod.mk.injEq] at h
  obtain ⟨-, rfl⟩ := h
  exact Nat.lt_of_lt_of_le (Symbol.length_read?_lt hs) (Text.length_readNumber?_le hn)

/-- Reads a text that is nothing but components, one after the other. -/
def components? (s : List Char) : Option (List Component) :=
  if s.isEmpty then some []
  else
    match _h : Component.read? s with
    | none => none
    | some (c, rest) => (components? rest).map (c :: ·)
termination_by s.length
decreasing_by exact Component.length_read?_lt _h

/-- The span of a sum of components, if it stays below the limit. -/
def ofComponents? (cs : List Component) : Option Duration :=
  match cs.foldl (fun sum c => sum.add c.inSeconds) (Binary64.fraction 0 1) with
  | .infinity => none
  | .fraction num den =>
    if UInt64.size * den ≤ num then none else ofParts? 0 (roundDiv (num * perSecond) den)

/-- Reads a span of time; blanks around it do not count, and `0` needs no unit. -/
def parse (text : List Char) : Except DurationFault Duration :=
  let s := Text.trim text
  if s = ['0'] then .ok zero
  else
    match components? s with
    | none | some [] => .error (.malformed s)
    | some cs =>
      match ofComponents? cs with
      | none => .error (.outOfRange s)
      | some d => .ok d

end Duration

end BatchJob
