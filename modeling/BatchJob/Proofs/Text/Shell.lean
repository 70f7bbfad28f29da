import BatchJob.Proofs.Text.Characters
import BatchJob.Text.Base64
import BatchJob.Text.Quoted

set_option autoImplicit false

/-!
What a shell reads between double quotes. Characters stand for themselves there, but a dollar sign
or a backtick starts an expansion, and a backslash goes with some of the characters behind it.
Quoted texts are escaped for people to read, which is not the same.
-/

namespace BatchJob.Shell

/-- Whether a character starts an expansion between double quotes. -/
def isExpanding (c : Char) : Bool := c == '$' || c == '`'

/-- Whether a character means something else between double quotes without a backslash before it. -/
def isSpecial (c : Char) : Bool := isExpanding c || c == '"' || c == '\\'

def behind (front : List Char) (read : Option (List Char × List Char)) :
    Option (List Char × List Char) :=
  read.map fun (text, rest) => (front ++ text, rest)

/-- Reads up to the closing quote: what stands for itself before it, and the rest behind it. Where
an expansion starts, nothing is read. `escaped` says whether a backslash stands before. -/
def readInner? (escaped : Bool) : List Char → Option (List Char × List Char)
  | [] => none
  | c :: rest =>
    match escaped with
    | true =>
      -- A backslash at the end of a line joins it to the next one.
      if c = '\n' then readInner? false rest
      else behind (if isSpecial c then [c] else ['\\', c]) (readInner? false rest)
    | false =>
      if c = '"' then some ([], rest)
      else if isExpanding c then none
      else if c = '\\' then readInner? true rest
      else behind [c] (readInner? false rest)

/-- Reads a word in double quotes, and the rest behind it. -/
def readQuoted? : List Char → Option (List Char × List Char)
  | [] => none
  | c :: rest => if c = '"' then readInner? false rest else none

theorem behind_behind (front next : List Char) (read : Option (List Char × List Char)) :
    behind front (behind next read) = behind (front ++ next) read := by
  simp only [behind, Option.map_map, Function.comp_def, List.append_assoc]

theorem readInner?_of_plain {c : Char} (plain : isSpecial c = false) (rest : List Char) :
    readInner? false (c :: rest) = behind [c] (readInner? false rest) := by
  simp only [isSpecial, Bool.or_eq_false_iff, beq_eq_false_iff_ne] at plain
  obtain ⟨⟨closed, noQuote⟩, noBackslash⟩ := plain
  rw [readInner?, if_neg noQuote, closed, if_neg Bool.false_ne_true, if_neg noBackslash]

theorem readInner?_append {s : List Char} (plain : ∀ c ∈ s, isSpecial c = false)
    (rest : List Char) : readInner? false (s ++ rest) = behind s (readInner? false rest) := by
  induction s with
  | nil =>
      rw [List.nil_append, behind]
      exact Option.map_id'.symm
  | cons c later ih =>
      have others := ih fun x member => plain x (List.mem_cons_of_mem c member)
      rw [List.cons_append, readInner?_of_plain (plain c List.mem_cons_self), others, behind_behind,
        List.singleton_append]

theorem readInner?_backslash {c : Char} (inLine : c ≠ '\n') (rest : List Char) :
    readInner? false ('\\' :: c :: rest) =
      behind (if isSpecial c then [c] else ['\\', c]) (readInner? false rest) :=
  if_neg inLine

/-- What a shell reads where a quoted text has a character: of those that are written in another
way, only a quote and a backslash come back. -/
def shown (c : Char) : List Char := if c = '"' ∨ c = '\\' then [c] else Text.quoteChar c

/-- Whether a quoted text has a character in a way that a shell reads back. -/
def Literal (c : Char) : Prop :=
  isExpanding c = false ∧ Text.isExtending c = false ∧ Text.isPrintable c = true

instance : DecidablePred Literal := fun _ => inferInstanceAs (Decidable (_ ∧ _))

theorem readInner?_escapedByNumber (c : Char) (rest : List Char) :
    readInner? false (Text.escapedByNumber c ++ rest) =
      behind (Text.escapedByNumber c) (readInner? false rest) := by
  have digit : ∀ d < 16, isSpecial (Nat.digitChar d) = false := by decide
  have plain : ∀ x ∈ '\x7b' :: Nat.toDigits 16 c.toNat ++ ['\x7d'], isSpecial x = false := by
    intro x member
    rcases List.mem_append.mp member with member | last
    · rcases List.mem_cons.mp member with rfl | member
      · decide
      · obtain ⟨d, small, rfl⟩ := Text.exists_digitChar_of_mem_toDigits member
        exact digit d small
    · rw [List.mem_singleton.mp last]
      decide
  have shape : Text.escapedByNumber c =
      '\\' :: 'u' :: ('\x7b' :: Nat.toDigits 16 c.toNat ++ ['\x7d']) := rfl
  rw [shape, List.cons_append, List.cons_append, readInner?_backslash (by decide),
    readInner?_append plain, behind_behind]
  rfl

/-- A character of a quoted text is read without regard to what follows, unless it starts an
expansion. -/
theorem readInner?_quoteChar {c : Char} (closed : isExpanding c = false) (rest : List Char) :
    readInner? false (Text.quoteChar c ++ rest) = behind (shown c) (readInner? false rest) := by
  by_cases quote : c = '"'
  · rw [quote]
    exact readInner?_backslash (by decide) rest
  by_cases backslash : c = '\\'
  · rw [backslash]
    exact readInner?_backslash (by decide) rest
  rw [shown, if_neg (not_or.mpr ⟨quote, backslash⟩)]
  unfold Text.quoteChar
  iterate 4
    split
    · exact readInner?_backslash (by decide) rest
  split
  · exact readInner?_escapedByNumber c rest
  · have plain : isSpecial c = false := by
      rw [isSpecial, closed, beq_eq_false_iff_ne.mpr quote, beq_eq_false_iff_ne.mpr backslash]
      rfl
    exact readInner?_of_plain plain rest

theorem readInner?_of_isExpanding {c : Char} (expands : isExpanding c = true) (rest : List Char) :
    readInner? false (Text.quoteChar c ++ rest) = none := by
  simp only [isExpanding, Bool.or_eq_true, beq_iff_eq] at expands
  rcases expands with rfl | rfl <;> rfl

/-- What a shell reads of a quoted text. -/
theorem readQuoted?_quote (s rest : List Char) :
    readQuoted? (Text.quote s ++ rest) =
      if s.any isExpanding then none else some (s.flatMap shown, rest) := by
  have inner : readQuoted? (Text.quote s ++ rest) =
      readInner? false (s.flatMap Text.quoteChar ++ '"' :: rest) := by
    rw [← List.singleton_append, ← List.append_assoc]
    rfl
  rw [inner]
  clear inner
  induction s with
  | nil => rfl
  | cons c later ih =>
      rw [List.flatMap_cons, List.append_assoc, List.any_cons]
      cases expands : isExpanding c with
      | true => exact readInner?_of_isExpanding expands _
      | false =>
          rw [readInner?_quoteChar expands, ih, Bool.false_or]
          by_cases expansion : later.any isExpanding = true
          · rw [if_pos expansion, if_pos expansion]
            rfl
          · rw [if_neg expansion, if_neg expansion]
            rfl

theorem shown_of_literal {c : Char} (literal : Literal c) : shown c = [c] := by
  obtain ⟨-, alone, printable⟩ := literal
  rw [shown]
  split
  · rfl
  · rename_i noEscape
    have control : ∀ x, Text.isPrintable x = false → c ≠ x := by
      rintro x unprintable rfl
      exact Bool.false_ne_true (unprintable.symm.trans printable)
    rw [Text.quoteChar, if_neg (control _ (by decide)), if_neg (control _ (by decide)),
      if_neg (control _ (by decide)), if_neg (control _ (by decide)),
      if_neg (fun same => noEscape (.inr same)), if_neg (fun same => noEscape (.inl same)), alone,
      printable]
    rfl

/-- What does not come back is seen as an escape, which has a backslash in front of it. -/
theorem shown_of_not_literal {c : Char} (closed : isExpanding c = false) (other : ¬ Literal c) :
    c ≠ '\\' ∧ (shown c).head? = some '\\' := by
  have escaped : c ≠ '"' ∧ c ≠ '\\' := by
    constructor <;> (rintro rfl; exact other (by decide))
  refine ⟨escaped.2, ?_⟩
  rw [shown, if_neg (not_or.mpr escaped)]
  unfold Text.quoteChar
  iterate 6
    split
    · rfl
  split
  · rfl
  · rename_i plain
    simp only [Bool.or_eq_true, Bool.not_eq_true', not_or, Bool.not_eq_true, Bool.not_eq_false]
      at plain
    exact absurd ⟨closed, plain⟩ other

theorem flatMap_shown_eq_iff {s : List Char} (closed : s.any isExpanding = false) :
    s.flatMap shown = s ↔ ∀ c ∈ s, Literal c := by
  induction s with
  | nil => exact iff_of_true rfl (by simp)
  | cons c later ih =>
      rw [List.any_cons, Bool.or_eq_false_iff] at closed
      rw [List.flatMap_cons, List.forall_mem_cons]
      by_cases literal : Literal c
      · rw [shown_of_literal literal, List.singleton_append, List.cons.injEq, ih closed.2]
        exact and_congr_left' (iff_of_true rfl literal)
      · obtain ⟨different, escape⟩ := shown_of_not_literal closed.1 literal
        refine iff_of_false (fun same => different ?_) fun all => literal all.1
        have start := congrArg List.head? same
        rw [List.head?_append, escape] at start
        exact (Option.some.inj start).symm

theorem any_isExpanding_of_literal {s : List Char} (literal : ∀ c ∈ s, Literal c) :
    s.any isExpanding = false :=
  List.any_eq_false.mpr fun c member => ne_true_of_eq_false (literal c member).1

/-- A shell reads a quoted text back exactly if it reads each character back. -/
theorem readQuoted?_quote_iff {s rest : List Char} :
    readQuoted? (Text.quote s ++ rest) = some (s, rest) ↔ ∀ c ∈ s, Literal c := by
  rw [readQuoted?_quote]
  cases expansion : s.any isExpanding with
  | true =>
      refine iff_of_false (by simp) fun literal => ?_
      exact Bool.false_ne_true ((any_isExpanding_of_literal literal).symm.trans expansion)
  | false =>
      rw [if_neg Bool.false_ne_true, ← flatMap_shown_eq_iff expansion, Option.some.injEq,
        Prod.mk.injEq]
      exact and_iff_left rfl

/-- Whatever bytes are written in base64, a shell reads it back. -/
theorem literal_encode (bytes : List UInt8) : ∀ c ∈ Base64.encode bytes, Literal c := by
  have digit : ∀ n < 64, Literal (Base64.digit n) := by decide
  have pad : Literal '=' := by decide
  fun_induction Base64.encode bytes with
  | case1 => simp
  | case2 a =>
      have bound := a.toNat_lt
      simp only [List.forall_mem_cons, List.not_mem_nil, false_implies, implies_true, and_true]
      exact ⟨digit _ (by omega), digit _ (by omega), pad, pad⟩
  | case3 a b =>
      have bound := a.toNat_lt
      have bound' := b.toNat_lt
      simp only [List.forall_mem_cons, List.not_mem_nil, false_implies, implies_true, and_true]
      exact ⟨digit _ (by omega), digit _ (by omega), digit _ (by omega), pad⟩
  | case4 a b c rest ih =>
      have bound := a.toNat_lt
      have bound' := b.toNat_lt
      have bound'' := c.toNat_lt
      simp only [List.forall_mem_cons]
      exact ⟨digit _ (by omega), digit _ (by omega), digit _ (by omega), digit _ (by omega), ih⟩

end BatchJob.Shell
