import BatchJob.Proofs.Storage.Contents
import BatchJob.Proofs.Text.Words
import Mathlib.Data.List.Basic

set_option autoImplicit false

/-!
How a list of entries is read. An entry is cut at its first equals sign, so what was written is read
back unless a path without a name holds such a sign itself.
-/

namespace BatchJob.Specifier

variable {standard : String} {position : Nat}

theorem toList_marked (name path : String) :
    (name ++ "=" ++ path).toList = name.toList ++ '=' :: path.toList := by
  rw [String.toList_append, String.toList_append, List.append_assoc]
  rfl

theorem ofEntry?_named {name : String} (filled : name ≠ "") (plain : '=' ∉ name.toList)
    (path : String) : ofEntry? standard position (name ++ "=" ++ path) = some ⟨name, path⟩ := by
  unfold ofEntry?
  rw [toList_marked, Text.cut_append plain]
  cases front : name.toList with
  | nil => exact absurd (String.toList_eq_nil_iff.mp front) filled
  | cons c rest =>
      dsimp only
      rw [← front, String.ofList_toList, String.ofList_toList]

theorem ofEntry?_unnamed {entry : String} (filled : entry ≠ "")
    (nameless : '=' ∉ entry.toList ∨ entry.toList.head? = some '=') :
    ofEntry? standard position entry = some ⟨standard ++ toString position, entry⟩ := by
  have present : entry.isEmpty = false := by
    rw [Bool.eq_false_iff, ne_eq, String.isEmpty_iff]
    exact filled
  have uncut : ∀ c name path, Text.cut '=' entry.toList ≠ some (c :: name, path) := by
    intro c name path found
    rcases nameless with plain | leading
    · rw [Text.cut_eq_none plain] at found
      cases found
    · obtain ⟨rest, shape⟩ := List.head?_eq_some_iff.mp leading
      have start := Text.cut_append (List.not_mem_nil (a := '=')) rest
      rw [shape, ← List.nil_append ('=' :: rest), start] at found
      cases found
  unfold ofEntry?
  split
  · rename_i c name path found
    exact absurd found (uncut c name path)
  · rw [present, if_neg Bool.false_ne_true]

/-- The specifiers of some entries, the first of which stands at a position. -/
inductive Listed (standard : String) : Nat → List String → List Specifier → Prop where
  | nil (position : Nat) : Listed standard position [] []
  /-- An empty entry is skipped, but counts as a position. -/
  | skipped {position : Nat} {entries : List String} {specifiers : List Specifier}
      (later : Listed standard (position + 1) entries specifiers) :
      Listed standard position ("" :: entries) specifiers
  | named {position : Nat} {entries : List String} {specifiers : List Specifier}
      {name : String} (path : String) (filled : name ≠ "") (plain : '=' ∉ name.toList)
      (later : Listed standard (position + 1) entries specifiers) :
      Listed standard position ((name ++ "=" ++ path) :: entries) (⟨name, path⟩ :: specifiers)
  | unnamed {position : Nat} {entries : List String} {specifiers : List Specifier}
      {entry : String} (filled : entry ≠ "")
      (nameless : '=' ∉ entry.toList ∨ entry.toList.head? = some '=')
      (later : Listed standard (position + 1) entries specifiers) :
      Listed standard position (entry :: entries)
        (⟨standard ++ toString position, entry⟩ :: specifiers)

/-- An entry is empty, has a name before its first equals sign, or has none. -/
theorem entry_cases (entry : String) : entry = "" ∨
    (∃ name path, name ≠ "" ∧ '=' ∉ name.toList ∧ entry = name ++ "=" ++ path) ∨
    entry ≠ "" ∧ ('=' ∉ entry.toList ∨ entry.toList.head? = some '=') := by
  by_cases filled : entry = ""
  · exact .inl filled
  · by_cases marked : '=' ∈ entry.toList
    · obtain ⟨name, path, shape, plain⟩ := List.eq_append_cons_of_mem marked
      cases name with
      | nil => exact .inr (.inr ⟨filled, .inr (by rw [shape]; rfl)⟩)
      | cons c name =>
          refine .inr (.inl ⟨String.ofList (c :: name), String.ofList path, ?_, ?_, ?_⟩)
          · exact fun empty => List.cons_ne_nil c name (String.ofList_eq_empty_iff.mp empty)
          · rwa [String.toList_ofList]
          · apply String.toList_inj.mp
            rw [toList_marked, String.toList_ofList, String.toList_ofList, shape]
    · exact .inr (.inr ⟨filled, .inl marked⟩)

theorem listed_zipIdx (entries : List String) (position : Nat) :
    Listed standard position entries ((entries.zipIdx position).filterMap
      fun (entry, position) => ofEntry? standard position entry) := by
  induction entries generalizing position with
  | nil => exact .nil position
  | cons entry rest ih =>
      have later := ih (position + 1)
      rcases entry_cases entry with rfl | ⟨name, path, filled, plain, rfl⟩ | ⟨filled, nameless⟩
      · exact .skipped later
      · simp only [List.zipIdx_cons, List.filterMap_cons, ofEntry?_named filled plain]
        exact .named path filled plain later
      · simp only [List.zipIdx_cons, List.filterMap_cons, ofEntry?_unnamed filled nameless]
        exact .unnamed filled nameless later

/-- The specifiers of a list are named as its entries say, or by their positions. -/
theorem listed_parseList (standard : String) (entries : List String) :
    Listed standard 0 entries (parseList standard entries) :=
  listed_zipIdx entries 0

/-- What can be written into a list of inputs or outputs. -/
inductive Item where
  /-- A path under a name of its own. -/
  | named (name path : String)
  /-- The path of an object or of a directory of objects, to be named by its position. -/
  | object (path : String)
  /-- Nothing, which takes up a position. -/
  | empty
  deriving DecidableEq

namespace Item

def write : Item → String
  | named name path => name ++ "=" ++ path
  | object path => path
  | empty => ""

/-- Whether a name can be told from the path behind it, and a path without a name is an object's. -/
def Sound : Item → Prop
  | named name _ => name ≠ "" ∧ '=' ∉ name.toList
  | object path => (Path.bucket? path.toList).isSome = true
  | empty => True

instance : DecidablePred Sound
  | named name _ => inferInstanceAs (Decidable (name ≠ "" ∧ '=' ∉ name.toList))
  | object path => inferInstanceAs (Decidable ((Path.bucket? path.toList).isSome = true))
  | empty => inferInstanceAs (Decidable True)

def specifier? (standard : String) (position : Nat) : Item → Option Specifier
  | named name path => some ⟨name, path⟩
  | object path => some ⟨standard ++ toString position, path⟩
  | empty => none

def specifiers (standard : String) (items : List Item) : List Specifier :=
  items.zipIdx.filterMap fun (item, position) => item.specifier? standard position

/-- The item that an entry is taken for: what stands before an equals sign counts as a name. -/
def taken : Item → Item
  | named name path => named name path
  | object path =>
    match Text.cut '=' path.toList with
    | some (name, rest) => named (String.ofList name) (String.ofList rest)
    | none => object path
  | empty => empty

variable {item : Item}

theorem taken_of_plain {path : String} (plain : '=' ∉ path.toList) :
    (object path).taken = object path := by
  rw [taken, Text.cut_eq_none plain]

theorem taken_of_marked {name rest : String} (plain : '=' ∉ name.toList) :
    (object (name ++ "=" ++ rest)).taken = named name rest := by
  rw [taken, toList_marked, Text.cut_append plain]
  dsimp only
  rw [String.ofList_toList, String.ofList_toList]

/-- The path of an object starts with its scheme, and so with no equals sign. -/
theorem head_ne_of_object {path : List Char} (remote : (Path.bucket? path).isSome = true) :
    path.head? ≠ some '=' := by
  obtain ⟨scheme, rest, parts⟩ := Path.exists_parts remote
  rw [parts.whole]
  cases start : scheme with
  | nil => exact absurd start parts.named
  | cons c others =>
      intro leading
      have sign : c = '=' := Option.some.inj leading
      have plain := parts.plain
      rw [start, sign] at plain
      cases plain

/-- An entry is read as what its item is taken for. -/
theorem ofEntry?_write (sound : item.Sound) :
    ofEntry? standard position item.write = item.taken.specifier? standard position := by
  cases item with
  | named name path => exact ofEntry?_named sound.1 sound.2 path
  | empty => rfl
  | object path =>
      rcases entry_cases path with rfl | ⟨name, rest, filled, plain, rfl⟩ | ⟨filled, nameless⟩
      · cases sound
      · rw [taken_of_marked plain]
        exact ofEntry?_named filled plain rest
      · have unmarked := nameless.resolve_right (head_ne_of_object sound)
        rw [taken_of_plain unmarked]
        exact ofEntry?_unnamed filled nameless

/-- An item is taken for what it stands for unless it is an object whose path holds an equals sign:
that path loses its front. -/
theorem specifier?_taken_iff (sound : item.Sound) :
    item.taken.specifier? standard position = item.specifier? standard position ↔
      ∀ path, item = object path → '=' ∉ path.toList := by
  cases item with
  | named name path => exact iff_of_true rfl fun other same => by cases same
  | empty => exact iff_of_true rfl fun other same => by cases same
  | object path =>
      rcases entry_cases path with rfl | ⟨name, rest, filled, plain, rfl⟩ | ⟨filled, nameless⟩
      · cases sound
      · refine iff_of_false ?_ ?_
        · rw [taken_of_marked plain]
          intro same
          have paths := congrArg Specifier.path (Option.some.inj same)
          have lengths := congrArg (fun path => path.toList.length) paths
          simp only [toList_marked, List.length_append, List.length_cons] at lengths
          omega
        · intro unmarked
          apply unmarked _ rfl
          rw [toList_marked]
          exact List.mem_append_right _ List.mem_cons_self
      · have unmarked := nameless.resolve_right (head_ne_of_object sound)
        refine iff_of_true ?_ ?_
        · rw [taken_of_plain unmarked]
        · rintro other same
          cases same
          exact unmarked

end Item

/-- Two readings of a list that yield something for the same items are equal exactly if they are so
for every item. -/
theorem filterMap_inj {α β : Type} {f g : α → Option β} {items : List α}
    (alike : ∀ a ∈ items, (f a).isSome = (g a).isSome) :
    items.filterMap f = items.filterMap g ↔ ∀ a ∈ items, f a = g a := by
  induction items with
  | nil => exact iff_of_true rfl fun a none => absurd none List.not_mem_nil
  | cons a rest ih =>
      have later := ih fun x member => alike x (List.mem_cons_of_mem a member)
      have first := alike a List.mem_cons_self
      rw [List.forall_mem_cons, ← later]
      cases left : f a with
      | none =>
          rw [left, Option.isSome_none] at first
          have right := Option.isSome_eq_false_iff.mp first.symm
          rw [Option.isNone_iff_eq_none] at right
          rw [List.filterMap_cons_none left, List.filterMap_cons_none right, right]
          exact (and_iff_right rfl).symm
      | some b =>
          rw [left, Option.isSome_some] at first
          obtain ⟨c, right⟩ := Option.isSome_iff_exists.mp first.symm
          rw [List.filterMap_cons_some left, List.filterMap_cons_some right, right,
            List.cons.injEq, Option.some.injEq]

section

variable {items : List Item}

theorem parseList_write (sound : ∀ item ∈ items, item.Sound) :
    parseList standard (items.map Item.write) =
      items.zipIdx.filterMap fun entry => entry.1.taken.specifier? standard entry.2 := by
  rw [parseList, List.zipIdx_map, List.filterMap_map]
  apply List.filterMap_congr
  intro entry member
  exact Item.ofEntry?_write (sound entry.1 (List.fst_mem_of_mem_zipIdx member))

theorem isSome_taken (item : Item) :
    (item.taken.specifier? standard position).isSome =
      (item.specifier? standard position).isSome := by
  cases item with
  | named name path => rfl
  | empty => rfl
  | object path =>
      rw [Item.taken]
      split <;> rfl

/-- A written list is read item by item, and back as what it stands for exactly if no object without
a name of its own has an equals sign in its path. -/
theorem parseList_write_iff (standard : String) (sound : ∀ item ∈ items, item.Sound) :
    parseList standard (items.map Item.write) =
        items.zipIdx.filterMap (fun entry => entry.1.taken.specifier? standard entry.2) ∧
    (parseList standard (items.map Item.write) = Item.specifiers standard items ↔
      ∀ path, Item.object path ∈ items → '=' ∉ path.toList) := by
  refine ⟨parseList_write sound, ?_⟩
  rw [parseList_write sound, Item.specifiers, filterMap_inj fun entry _ => isSome_taken entry.1]
  constructor
  · intro same path given
    obtain ⟨position, found⟩ := List.getElem?_of_mem given
    have entry := same (.object path, position) (List.mem_zipIdx_iff_getElem?.mpr found)
    exact (Item.specifier?_taken_iff (sound _ given)).mp entry path rfl
  · intro plain entry member
    have given := List.fst_mem_of_mem_zipIdx member
    refine (Item.specifier?_taken_iff (sound _ given)).mpr fun path same => ?_
    exact plain path (same ▸ given)

end

theorem parseList_write_iff_mixed :
    let items : List Item :=
      [.named "REF" "gs://b/dt=2024/x", .object "gs://a/x", .empty, .object "gs://c/y/**",
        .named "INPUT1" ""]
    (∀ item ∈ items, item.Sound) ∧ (∀ path, Item.object path ∈ items → '=' ∉ path.toList) ∧
      parseList "INPUT" (items.map Item.write) =
        [⟨"REF", "gs://b/dt=2024/x"⟩, ⟨"INPUT1", "gs://a/x"⟩, ⟨"INPUT3", "gs://c/y/**"⟩,
          ⟨"INPUT1", ""⟩] := by
  intro items
  have sound : ∀ item ∈ items, item.Sound := by decide
  have plain : ∀ path, Item.object path ∈ items → '=' ∉ path.toList := by
    intro path given
    simp only [items, List.mem_cons, Item.object.injEq, reduceCtorEq, List.not_mem_nil, false_or,
      or_false] at given
    rcases given with rfl | rfl <;> decide
  have meant : Item.specifiers "INPUT" items =
      [⟨"REF", "gs://b/dt=2024/x"⟩, ⟨"INPUT1", "gs://a/x"⟩, ⟨"INPUT3", "gs://c/y/**"⟩,
        ⟨"INPUT1", ""⟩] := by decide
  exact ⟨sound, plain, ((parseList_write_iff "INPUT" sound).2.mpr plain).trans meant⟩

/-- The path of an object in a partition is taken for a name and another path. -/
theorem not_parseList_write_partitioned :
    let items : List Item := [.object "gs://b/dt=2024/x"]
    (∀ item ∈ items, item.Sound) ∧
      Item.specifiers "INPUT" items = [⟨"INPUT0", "gs://b/dt=2024/x"⟩] ∧
      parseList "INPUT" (items.map Item.write) = [⟨"gs://b/dt", "2024/x"⟩] ∧
      parseList "INPUT" (items.map Item.write) ≠ Item.specifiers "INPUT" items := by
  intro items
  exact ⟨by decide, by decide, by decide, by decide⟩

end BatchJob.Specifier
