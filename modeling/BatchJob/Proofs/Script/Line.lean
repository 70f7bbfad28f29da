import BatchJob.Proofs.Script.Ports
import BatchJob.Script.Line

set_option autoImplicit false

/-!
A line is read as the step that it was written for: command words, a `#`, and options in any order,
with blanks wherever they may stand.
-/

namespace BatchJob

namespace Flag

variable {flag : Flag} {letters : List Char}

theorem toNat_of_mem_name (flag : Flag) : ∀ c ∈ flag.name.toList, 65 ≤ c.toNat ∧ c.toNat ≤ 95 := by
  have all : flag.name.toList.all (fun c => 65 ≤ c.toNat && c.toNat ≤ 95) = true := by
    cases flag <;> rfl
  intro c member
  have bounds := List.all_eq_true.mp all c member
  rw [Bool.and_eq_true, decide_eq_true_eq, decide_eq_true_eq] at bounds
  exact bounds

theorem toNat_of_spelled (spelled : letters.map Char.toUpper = flag.name.toList) :
    ∀ c ∈ letters, 65 ≤ c.toNat ∧ c.toNat ≤ 122 := by
  intro c member
  have capital := toNat_of_mem_name flag c.toUpper (spelled ▸ List.mem_map_of_mem member)
  rcases Text.toUpper_cases c with same | small
  · rw [same] at capital
    omega
  · omega

theorem solid_of_spelled (spelled : letters.map Char.toUpper = flag.name.toList) :
    Text.Solid letters := by
  refine ⟨?_, Text.any_isBlank_eq_false_iff.mpr fun c member => ?_⟩
  · rintro rfl
    cases flag <;> cases spelled
  · have bounds := toNat_of_spelled spelled c member
    exact Text.isBlank_eq_false (by omega) (by omega)

theorem parse_of_spelled (spelled : letters.map Char.toUpper = flag.name.toList) :
    parse letters = .ok flag := by
  have ascii : ∀ c ∈ letters, c.toNat < 0x80 := by
    intro c member
    have bounds := toNat_of_spelled spelled c member
    omega
  rw [parse, Text.upper_of_ascii ascii, spelled, String.ofList_toList]
  cases flag <;> rfl

end Flag

theorem Action.foldl_addFlag {a : Action} {flags : List Flag}
    (distinct : (a.flags ++ flags).Nodup) :
    flags.foldl addFlag a = { a with flags := a.flags ++ flags } := by
  induction flags generalizing a with
  | nil =>
      rw [List.append_nil]
      rfl
  | cons flag rest ih =>
      have new : flag ∉ a.flags := fun old =>
        (List.nodup_append.mp distinct).2.2 flag old flag List.mem_cons_self rfl
      have moved : a.flags ++ flag :: rest = a.flags ++ [flag] ++ rest := List.append_cons ..
      rw [moved] at distinct ⊢
      rw [List.foldl_cons, addFlag, if_neg new, ih distinct]

namespace Script

def writeSetting (key : String) (value : List Char) : List Char := key.toList ++ '=' :: value

theorem solid_writeSetting {key : String} {value : List Char}
    (visible : key.toList.any Text.isBlank = false) (solid : value.any Text.isBlank = false) :
    Text.Solid (writeSetting key value) := by
  refine ⟨List.append_ne_nil_of_right_ne_nil _ (List.cons_ne_nil '=' value), ?_⟩
  rw [writeSetting, List.any_append, List.any_cons, visible, solid]
  rfl

/-- An option as it is written: the name of a flag in letters of either case, or a setting. -/
inductive Item where
  | flag (flag : Flag) (letters : List Char) (spelled : letters.map Char.toUpper = flag.name.toList)
  | image (image : List Char)
  | ports (entries : List (String × UInt64))

namespace Item

/-- The setting of an option that is not a flag. -/
def setting? : Item → Option (String × List Char)
  | flag .. => none
  | image name => some ("image", name)
  | ports entries => some ("ports", Ports.write entries)

def text : Item → List Char
  | flag _ letters _ => letters
  | image name => writeSetting "image" name
  | ports entries => writeSetting "ports" (Ports.write entries)

def flag? : Item → Option Flag
  | flag named .. => some named
  | _ => none

def image? : Item → Option (List Char)
  | image name => some name
  | _ => none

def ports? : Item → Option (List (String × UInt64))
  | ports entries => some entries
  | _ => none

end Item

/-- Options that name some flags in this order, one image, and all ports if there are any. -/
structure Lists (items : List Item) (image : List Char) (flags : List Flag) (ports : Dict UInt64) :
    Prop where
  flags_eq : items.filterMap Item.flag? = flags
  image_eq : items.filterMap Item.image? = [image]
  ports_eq : ∃ entries : List (String × UInt64), entries.Perm ports.entries ∧
    items.filterMap Item.ports? = if ports.isEmpty then [] else [entries]

theorem add_setting (o : Options) {key : String} (unmarked : '=' ∉ key.toList)
    (value : List Char) :
    o.add (writeSetting key value) = .ok { o with settings := o.settings.insert key value } := by
  rw [Options.add, writeSetting, Text.cut_append unmarked]
  dsimp only
  rw [String.ofList_toList]

theorem add_flag (o : Options) {flag : Flag} {letters : List Char}
    (spelled : letters.map Char.toUpper = flag.name.toList) :
    o.add letters = .ok { o with flags := o.flags ++ [flag] } := by
  have unmarked : '=' ∉ letters := fun member =>
    absurd (Flag.toNat_of_spelled spelled '=' member) (by decide)
  rw [Options.add, Text.cut_eq_none unmarked, Flag.parse_of_spelled spelled]
  rfl

/-- Options are read one after the other; what one of them says is kept beside what the others
say. -/
theorem foldlM_add (items : List Item) (o : Options) :
    (items.map Item.text).foldlM Options.add o =
      .ok ⟨o.flags ++ items.filterMap Item.flag?,
        (items.filterMap Item.setting?).foldl (fun d (key, value) => d.insert key value)
          o.settings⟩ := by
  induction items generalizing o with
  | nil =>
      rw [List.filterMap_nil, List.append_nil]
      rfl
  | cons item rest ih =>
      rw [List.map_cons, List.foldlM_cons]
      cases item with
      | flag named letters spelled =>
          rw [Item.text, add_flag o spelled]
          refine (ih _).trans ?_
          rw [List.append_assoc]
          rfl
      | image name =>
          have unmarked : '=' ∉ "image".toList := by decide
          rw [Item.text, add_setting o unmarked]
          exact ih _
      | ports entries =>
          have unmarked : '=' ∉ "ports".toList := by decide
          rw [Item.text, add_setting o unmarked]
          exact ih _

def settingsOf (items : List Item) : Dict (List Char) :=
  Dict.ofList (items.filterMap Item.setting?)

/-- The settings of one key come from the options of one kind. -/
theorem get?_settingsOf {α : Type} {key : String} {kind : Item → Option α}
    {write : α → List Char}
    (only : ∀ i : Item, i.setting?.filter (·.1 = key) = (kind i).map fun a => (key, write a))
    (items : List Item) :
    (settingsOf items).get? key = ((items.filterMap kind).getLast?).map write := by
  have same : (items.filterMap Item.setting?).filter (·.1 = key) =
      (items.filterMap kind).map fun a => (key, write a) := by
    rw [List.filter_filterMap, List.map_filterMap]
    exact congrArg (List.filterMap · items) (funext only)
  rw [settingsOf, Dict.get?_ofList, same, List.getLast?_map, Option.map_map]
  rfl

theorem get?_image (items : List Item) :
    (settingsOf items).get? "image" = (items.filterMap Item.image?).getLast? := by
  have only (i : Item) :
      i.setting?.filter (·.1 = "image") = i.image?.map fun name => ("image", name) := by
    cases i <;> rfl
  rw [get?_settingsOf only]
  exact Option.map_id'

theorem get?_ports (items : List Item) :
    (settingsOf items).get? "ports" = ((items.filterMap Item.ports?).getLast?).map Ports.write := by
  apply get?_settingsOf
  intro i
  cases i <;> rfl

theorem get?_timeout (items : List Item) : (settingsOf items).get? "timeout" = none := by
  have only (i : Item) : i.setting?.filter (·.1 = "timeout") =
      (none : Option Unit).map fun _ => ("timeout", []) := by
    cases i <;> rfl
  have nothing : items.filterMap (fun _ => (none : Option Unit)) = [] :=
    List.filterMap_eq_nil_iff.mpr fun _ _ => rfl
  rw [get?_settingsOf only, nothing]
  rfl

variable {image : List Char} {flags : List Flag} {ports : Dict UInt64} {items : List Item}

/-- Each option is a single word. -/
theorem solid_text (listed : Lists items image flags ports)
    (solid : image.any Text.isBlank = false) (named : ∀ e ∈ ports.entries, Ports.Named e.1) :
    ∀ w ∈ items.map Item.text, Text.Solid w := by
  intro w member
  obtain ⟨item, within, rfl⟩ := List.mem_map.mp member
  cases item with
  | flag flag letters spelled => exact Flag.solid_of_spelled spelled
  | image name =>
      have found : name ∈ items.filterMap Item.image? := List.mem_filterMap.mpr ⟨_, within, rfl⟩
      rw [listed.image_eq, List.mem_singleton] at found
      exact solid_writeSetting rfl (found ▸ solid)
  | ports entries =>
      obtain ⟨order, same, shape⟩ := listed.ports_eq
      have found : entries ∈ items.filterMap Item.ports? := List.mem_filterMap.mpr ⟨_, within, rfl⟩
      rw [shape] at found
      split at found
      · cases found
      · have visible := Ports.visible_write fun e member => named e (same.mem_iff.mp member)
        exact List.mem_singleton.mp found ▸ solid_writeSetting rfl visible

theorem readPorts_of_lists (listed : Lists items image flags ports)
    (named : ∀ e ∈ ports.entries, Ports.Named e.1) : readPorts (settingsOf items) = .ok ports := by
  obtain ⟨entries, same, shape⟩ := listed.ports_eq
  cases empty : ports.isEmpty with
  | true =>
      rw [empty] at shape
      rw [readPorts, get?_ports, shape]
      exact congrArg Except.ok (Dict.ext (List.isEmpty_iff.mp empty).symm)
  | false =>
      rw [empty] at shape
      have text : (settingsOf items).get? "ports" = some (Ports.write entries) := by
        rw [get?_ports, shape]
        rfl
      have filled : entries ≠ [] := by
        rintro rfl
        rw [Dict.isEmpty, List.nil_perm.mp same] at empty
        cases empty
      rw [readPorts, text]
      dsimp only
      rw [Ports.parse_write filled fun e member => named e (same.mem_iff.mp member),
        Dict.ofList_of_perm same]

/-- The step of some command words in an image, with flags and ports. -/
def stepOf (words : List (List Char)) (image : List Char) (flags : List Flag)
    (ports : Dict UInt64) : Action :=
  { imageUri := String.ofList image
    entrypoint := if words.isEmpty then none else some "bash"
    commands := if words.isEmpty then [] else ["-c", String.ofList (Text.unwords words)]
    flags := flags
    mounts := [.workingRoot]
    portMappings := ports }

theorem addFlag_stepOf (words : List (List Char)) (image : List Char) (flags : List Flag)
    (ports : Dict UInt64) (flag : Flag) : (stepOf words image flags ports).addFlag flag =
      stepOf words image (if flag ∈ flags then flags else flags ++ [flag]) ports := by
  by_cases listed : flag ∈ flags
  · rw [if_pos listed]
    exact if_pos listed
  · rw [if_neg listed]
    exact if_neg listed

theorem buildAction_eq (images : Images) (words : List (List Char)) {settings : Dict (List Char)}
    (named : settings.get? "image" = some image) (untimed : settings.get? "timeout" = none)
    (mapped : readPorts settings = .ok ports) (flags : List Flag) :
    buildAction images words flags settings =
      .ok (flags.foldl Action.addFlag (stepOf words image [] ports)) := by
  -- Flags are added before the rest of the step is known, and could as well be added last.
  let finish (a : Action) : Action :=
    { stepOf words image a.flags ports with imageUri := a.imageUri, pidNamespace := a.pidNamespace }
  have late (a : Action) (flag : Flag) : (finish a).addFlag flag = finish (a.addFlag flag) := by
    unfold Action.addFlag
    change (if flag ∈ a.flags then _ else _) = _
    split <;> rfl
  have timeout : readTimeout settings = .ok none := by
    rw [readTimeout, untimed]
  have chosen : chooseImage images settings words = String.ofList image := by
    rw [chooseImage, named]
  rw [buildAction, timeout, mapped, chosen]
  exact congrArg Except.ok (List.foldl_hom finish late).symm

/-- The words in front of the mark are a command, which may be run in the background, and what
stands behind it are its options. -/
theorem parseLine_eq (images : Images) {words : List (List Char)} {command comment : List Char}
    {options : Options} (plain : ∀ w ∈ words, Text.Solid w ∧ '#' ∉ w)
    (spaced : Text.Spaced words command)
    (read : (Text.words comment).foldlM Options.add {} = .ok options) :
    parseLine images (command ++ '#' :: comment) =
      let background := words.getLast? == some ['&']
      let tokens := if background then words.dropLast else words
      let flags := if background then options.flags ++ [.runInBackground] else options.flags
      if tokens.isEmpty && flags.isEmpty then .ok none
      else (buildAction images tokens flags options.settings).map some := by
  have unmarked : '#' ∉ command := spaced.not_mem (by decide) fun w member => (plain w member).2
  rw [parseLine, Text.cut_append unmarked, Option.getD_some]
  dsimp only
  rw [read, spaced.words_eq fun w member => (plain w member).1]
  split <;> rfl

end Script

end BatchJob
