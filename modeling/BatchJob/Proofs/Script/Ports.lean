import BatchJob.Proofs.Dict
import BatchJob.Proofs.Text.Characters
import BatchJob.Proofs.Text.Words
import BatchJob.Proofs.Trace
import BatchJob.Script.Line

set_option autoImplicit false

/-!
The grammar of port mappings: which texts are read, as which map, and which piece is to blame for
any other text. Mappings are read as they were written, in whatever order the ports are listed.
-/

namespace BatchJob.Ports

theorem readDigits_eq_ok_iff {n m : Nat} {digits : List Char} (small : n < UInt64.size) :
    readDigits n digits = .ok m ↔ (∀ c ∈ digits, c.isDigit = true) ∧
      Nat.ofDigitChars 10 digits n = m ∧ m < UInt64.size := by
  induction digits generalizing n with
  | nil =>
      rw [readDigits, Except.ok.injEq, Nat.ofDigitChars_nil]
      constructor
      · rintro rfl
        exact ⟨List.forall_mem_nil _, rfl, small⟩
      · exact fun ⟨_, same, _⟩ => same
  | cons c rest ih =>
      rw [List.forall_mem_cons, Nat.ofDigitChars_cons, readDigits, Nat.mul_comm n 10]
      by_cases digit : c.isDigit = true
      · rw [digit, Bool.not_true, if_neg Bool.false_ne_true]
        by_cases fits : 10 * n + (c.toNat - '0'.toNat) < UInt64.size
        · simp only [if_pos fits, ih fits, true_and]
        · refine iff_of_false (by simp only [if_neg fits, reduceCtorEq, not_false_eq_true]) ?_
          rintro ⟨-, rfl, below⟩
          exact fits (Nat.lt_of_le_of_lt (Text.le_ofDigitChars rest _) below)
      · rw [Bool.not_eq_true] at digit
        simp [digit]

/-- Whether a text is a number in decimal digits; one plus sign may stand in front of them. -/
def Decimal (text : List Char) (value : Nat) : Prop :=
  ∃ sign digits, text = sign ++ digits ∧ (sign = [] ∨ sign = ['+']) ∧ digits ≠ [] ∧
    (∀ c ∈ digits, c.isDigit = true) ∧ Nat.ofDigitChars 10 digits 0 = value

/-- A sign is no digit, so it can stand in front only. -/
theorem decimal_plus_iff {rest : List Char} {value : Nat} : Decimal ('+' :: rest) value ↔
    rest ≠ [] ∧ (∀ c ∈ rest, c.isDigit = true) ∧ Nat.ofDigitChars 10 rest 0 = value := by
  constructor
  · rintro ⟨sign, digits, text, rfl | rfl, filled, all, same⟩
    · rw [List.nil_append] at text
      rw [← text] at all
      exact absurd (all '+' List.mem_cons_self) (by decide)
    · cases text
      exact ⟨filled, all, same⟩
  · rintro ⟨filled, all, same⟩
    exact ⟨['+'], rest, rfl, .inr rfl, filled, all, same⟩

theorem decimal_iff_of_unsigned {text : List Char} {value : Nat}
    (unsigned : text.head? ≠ some '+') :
    Decimal text value ↔
      text ≠ [] ∧ (∀ c ∈ text, c.isDigit = true) ∧ Nat.ofDigitChars 10 text 0 = value := by
  constructor
  · rintro ⟨sign, digits, rfl, rfl | rfl, filled, all, same⟩
    · exact ⟨filled, all, same⟩
    · exact absurd rfl unsigned
  · rintro ⟨filled, all, same⟩
    exact ⟨[], text, rfl, .inl rfl, filled, all, same⟩

theorem map_readDigits_eq_ok_iff {digits : List Char} {port : UInt64} :
    (readDigits 0 digits).map UInt64.ofNat = .ok port ↔
      (∀ c ∈ digits, c.isDigit = true) ∧ Nat.ofDigitChars 10 digits 0 = port.toNat := by
  have read (m : Nat) : readDigits 0 digits = .ok m ↔ (∀ c ∈ digits, c.isDigit = true) ∧
      Nat.ofDigitChars 10 digits 0 = m ∧ m < UInt64.size := readDigits_eq_ok_iff (by decide)
  constructor
  · intro mapped
    cases number : readDigits 0 digits with
    | error fault =>
        rw [number] at mapped
        cases mapped
    | ok m =>
        obtain ⟨all, same, small⟩ := (read m).mp number
        rw [number] at mapped
        cases mapped
        exact ⟨all, same.trans (UInt64.toNat_ofNat_of_lt small).symm⟩
  · rintro ⟨all, same⟩
    rw [(read port.toNat).mpr ⟨all, same, port.toNat_lt⟩]
    exact congrArg Except.ok port.ofNat_toNat

theorem readNumber_eq_ok_iff {text : List Char} {port : UInt64} :
    readNumber text = .ok port ↔ Decimal text port.toNat := by
  unfold readNumber
  split
  · rw [decimal_iff_of_unsigned (by decide)]
    simp
  · rw [decimal_plus_iff]
    simp
  · rename_i rest single
    have filled : rest ≠ [] := fun empty => single (empty ▸ rfl)
    rw [map_readDigits_eq_ok_iff, decimal_plus_iff, and_iff_right filled]
  · rename_i filled single signed
    have unsigned : text.head? ≠ some '+' := by
      intro plus
      obtain ⟨rest, shape⟩ := List.head?_eq_some_iff.mp plus
      exact signed rest shape
    rw [map_readDigits_eq_ok_iff, decimal_iff_of_unsigned unsigned, and_iff_right filled]

/-- A piece maps a name to a port: the name stands before its first colon, and the rest of it is the
number of the port. -/
structure Maps (piece : List Char) (name : String) (port : UInt64) : Prop where
  named : name ≠ ""
  unmarked : ':' ∉ name.toList
  written : ∃ number, piece = name.toList ++ ':' :: number ∧ Decimal number port.toNat

theorem readPiece_eq_ok_iff {piece : List Char} {name : String} {port : UInt64} :
    readPiece piece = .ok (name, port) ↔ Maps piece name port := by
  constructor
  · intro read
    unfold readPiece at read
    split at read
    · cases read
    · cases read
    · rename_i front number filled found
      obtain ⟨rfl, unmarked⟩ := Text.cut_eq_some_iff.mp found
      cases decimal : readNumber number with
      | error fault =>
          rw [decimal] at read
          cases read
      | ok value =>
          rw [decimal] at read
          cases read
          refine ⟨fun empty => ?_, ?_, number, ?_, readNumber_eq_ok_iff.mp decimal⟩
          · exact filled (String.ofList_eq_empty_iff.mp empty)
          · rwa [String.toList_ofList]
          · rw [String.toList_ofList]
  · rintro ⟨named, unmarked, number, rfl, decimal⟩
    have filled : name.toList ≠ [] := fun empty => named (String.toList_eq_nil_iff.mp empty)
    unfold readPiece
    rw [Text.cut_append unmarked]
    cases shape : name.toList with
    | nil => exact absurd shape filled
    | cons c rest =>
        dsimp only
        rw [readNumber_eq_ok_iff.mpr decimal, ← shape, String.ofList_toList]

def Quotes (fault : ParseFault) (piece : List Char) : Prop :=
  ∃ front back, fault.message = front ++ quotedChars piece ++ back

theorem quotes_of_readPiece {piece : List Char} {fault : ParseFault}
    (read : readPiece piece = .error fault) : Quotes fault piece := by
  unfold readPiece at read
  split at read
  · cases read
    exact ⟨"invalid port mapping ", "", String.append_empty.symm⟩
  · cases read
    exact ⟨"invalid port mapping ", "", String.append_empty.symm⟩
  · split at read
    · rename_i cause _
      cases read
      exact ⟨"parsing host port in ", ": " ++ cause.message, String.append_assoc⟩
    · cases read

def Mapping (piece : List Char) : Prop := ∃ name port, Maps piece name port

/-- Whether the last of the pieces with a name maps it to a port. -/
def LastMaps (pieces : List (List Char)) (name : String) (port : UInt64) : Prop :=
  ∃ before piece after, pieces = before ++ piece :: after ∧ Maps piece name port ∧
    ∀ later ∈ after, ∀ other, ¬ Maps later name other

theorem exists_readPiece_iff {piece : List Char} :
    (∃ entry, readPiece piece = .ok entry) ↔ Mapping piece := by
  simp only [Prod.exists, readPiece_eq_ok_iff, Mapping]

/-- A piece has one meaning only. -/
theorem Maps.eq {piece : List Char} {name other : String} {port value : UInt64}
    (first : Maps piece name port) (second : Maps piece other value) :
    (name, port) = (other, value) := by
  have read := readPiece_eq_ok_iff.mpr first
  rw [readPiece_eq_ok_iff.mpr second] at read
  exact (Except.ok.inj read).symm

/-- Of the entries that were read from pieces, the last of a name comes from the last piece of that
name. -/
theorem lastMaps_iff {pieces : List (List Char)} {entries : List (String × UInt64)}
    (read : List.Forall₂ (fun piece entry => Maps piece entry.1 entry.2) pieces entries)
    {name : String} {port : UInt64} : (Dict.ofList entries).get? name = some port ↔
      LastMaps pieces name port := by
  rw [Dict.get?_ofList_eq_some_iff]
  constructor
  · rintro ⟨front, back, rfl, others⟩
    obtain ⟨before, piece, after, split, maps, rest⟩ := Traced.exists_split_of_forall₂ read
    refine ⟨before, piece, after, split, maps, fun later member other again => ?_⟩
    obtain ⟨entry, within, meant⟩ := Traced.exists_of_forall₂ rest.flip member
    exact others entry within (congrArg Prod.fst (meant.eq again))
  · rintro ⟨before, piece, after, rfl, maps, others⟩
    obtain ⟨front, entry, back, split, meant, rest⟩ := Traced.exists_split_of_forall₂ read.flip
    obtain rfl : entry = (name, port) := meant.eq maps
    refine ⟨front, back, split, fun later member same => ?_⟩
    obtain ⟨again, within, last⟩ := Traced.exists_of_forall₂ rest.flip member
    exact others again within later.2 (same ▸ last)

def writePiece (entry : String × UInt64) : List Char :=
  entry.1.toList ++ ':' :: Nat.toDigits 10 entry.2.toNat

def write (entries : List (String × UInt64)) : List Char :=
  [';'].intercalate (entries.map writePiece)

/-- Whether a port of a name can be written: the name ends where its colon stands, and the piece
where the next semicolon or blank stands. -/
def Named (name : String) : Prop :=
  name ≠ "" ∧ name.toList.any (fun c => Text.isBlank c || c == ';' || c == ':') = false

instance (name : String) : Decidable (Named name) :=
  inferInstanceAs (Decidable (_ ∧ _))

theorem Named.of_mem {name : String} (named : Named name) {c : Char} (member : c ∈ name.toList) :
    Text.isBlank c = false ∧ c ≠ ';' ∧ c ≠ ':' := by
  have unmarked := List.any_eq_false.mp named.2 c member
  simp only [Bool.or_eq_true, beq_iff_eq, not_or, Bool.not_eq_true] at unmarked
  exact ⟨unmarked.1.1, unmarked.1.2, unmarked.2⟩

theorem decimal_toDigits (n : Nat) : Decimal (Nat.toDigits 10 n) n :=
  ⟨[], Nat.toDigits 10 n, rfl, .inl rfl, Nat.toDigits_ne_nil, Text.isDigit_toDigits n,
    Nat.ofDigitChars_toDigits (by decide) (by decide)⟩

theorem readPiece_writePiece {entry : String × UInt64} (named : Named entry.1) :
    readPiece (writePiece entry) = .ok entry := by
  have unmarked : ':' ∉ entry.1.toList := fun member => (named.of_mem member).2.2 rfl
  exact readPiece_eq_ok_iff.mpr ⟨named.1, unmarked, _, rfl, decimal_toDigits entry.2.toNat⟩

theorem not_mem_writePiece {entry : String × UInt64} (named : Named entry.1) :
    ';' ∉ writePiece entry := by
  refine List.not_mem_append (fun member => (named.of_mem member).2.1 rfl) ?_
  rintro (_ | ⟨_, member⟩)
  exact absurd (Text.isDigit_toDigits _ _ member) (by decide)

/-- Some ports are read as the map of their names. -/
theorem parse_write {entries : List (String × UInt64)} (filled : entries ≠ [])
    (named : ∀ e ∈ entries, Named e.1) : parse (write entries) = .ok (Dict.ofList entries) := by
  have pieces : (write entries).splitOn ';' = entries.map writePiece := by
    refine List.splitOn_intercalate ';' (fun piece member => ?_) (mt List.map_eq_nil_iff.mp filled)
    obtain ⟨e, within, rfl⟩ := List.mem_map.mp member
    exact not_mem_writePiece (named e within)
  have read (entries : List (String × UInt64)) (named : ∀ e ∈ entries, Named e.1) :
      (entries.map writePiece).mapM readPiece = .ok entries := by
    induction entries with
    | nil => rfl
    | cons e rest ih =>
        have first := readPiece_writePiece (named e List.mem_cons_self)
        have later := ih fun x member => named x (List.mem_cons_of_mem e member)
        rw [List.map_cons, List.mapM_cons, first, later]
        rfl
  rw [parse, pieces, read entries named]
  rfl

/-- The text of some ports is a single word. -/
theorem visible_write {entries : List (String × UInt64)} (named : ∀ e ∈ entries, Named e.1) :
    (write entries).any Text.isBlank = false := by
  have visible {e : String × UInt64} (named : Named e.1) :
      (writePiece e).any Text.isBlank = false := by
    have name : e.1.toList.any Text.isBlank = false :=
      Text.any_isBlank_eq_false_iff.mpr fun c member => (named.of_mem member).1
    have port : (Nat.toDigits 10 e.2.toNat).any Text.isBlank = false := by
      refine Text.any_isBlank_eq_false_iff.mpr fun c member => ?_
      have digit := Text.toNat_of_isDigit (Text.isDigit_toDigits _ c member)
      exact Text.isBlank_eq_false (by omega) (by omega)
    rw [writePiece, List.any_append, List.any_cons, name, port]
    rfl
  induction entries with
  | nil => rfl
  | cons e rest ih =>
      have first := visible (named e List.mem_cons_self)
      have later := ih fun x member => named x (List.mem_cons_of_mem e member)
      cases rest with
      | nil =>
          rw [write, List.map_singleton, List.intercalate_singleton, first]
      | cons next others =>
          rw [write] at later ⊢
          rw [List.map_cons, List.map_cons, List.intercalate_cons_cons, ← List.map_cons,
            List.any_append, List.any_append, first, later]
          rfl

end BatchJob.Ports
