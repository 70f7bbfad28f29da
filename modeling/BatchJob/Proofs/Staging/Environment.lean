import BatchJob.Proofs.Staging.Plan
import BatchJob.Proofs.Storage.Specifier

set_option autoImplicit false

/-!
The variables that a plan sets. Of all that share a name the last one counts, and outputs come after
inputs, and inputs after the directory for temporary files.
-/

namespace BatchJob

namespace Specifier

def LastNamed (specifiers : List Specifier) (name : String) (s : Specifier) : Prop :=
  ∃ before after, specifiers = before ++ s :: after ∧ s.name = name ∧
    ∀ later ∈ after, later.name ≠ name

def lastNamed? (specifiers : List Specifier) (name : String) : Option Specifier :=
  (specifiers.filter (·.name = name)).getLast?

variable {specifiers : List Specifier} {name : String} {s : Specifier}

theorem lastNamed?_eq_some_iff :
    lastNamed? specifiers name = some s ↔ LastNamed specifiers name s := by
  simp only [lastNamed?, LastNamed, Dict.getLast?_filter_eq_some_iff, decide_eq_true_eq,
    decide_eq_false_iff_not]

theorem lastNamed?_eq_none_iff :
    lastNamed? specifiers name = none ↔ ∀ s ∈ specifiers, s.name ≠ name := by
  simp only [lastNamed?, List.getLast?_eq_none_iff, List.filter_eq_nil_iff, decide_eq_true_eq]

end Specifier

namespace Staging

open Specifier (LastNamed lastNamed?)

def placed (root : List Char) (s : Specifier) : String := String.ofList (s.targetUnder root)

/-- What a variable holds in the end, where some variables were set before. -/
inductive Holds (inputs outputs : List Specifier) (earlier : Dict String) (name : String) :
    Option String → Prop where
  /-- An output wins over all others. -/
  | output {s : Specifier} (last : LastNamed outputs name s) :
      Holds inputs outputs earlier name (some (placed outputRoot s))
  | input {s : Specifier} (noOutput : ∀ t ∈ outputs, t.name ≠ name)
      (last : LastNamed inputs name s) :
      Holds inputs outputs earlier name (some (placed inputRoot s))
  | temporary (noOutput : ∀ t ∈ outputs, t.name ≠ name) (noInput : ∀ t ∈ inputs, t.name ≠ name)
      (standard : name = "TMPDIR") :
      Holds inputs outputs earlier name (some (String.ofList temporaryRoot))
  /-- A variable that is not set now stays as it was, be it set or not. -/
  | earlier (noOutput : ∀ t ∈ outputs, t.name ≠ name) (noInput : ∀ t ∈ inputs, t.name ≠ name)
      (other : name ≠ "TMPDIR") :
      Holds inputs outputs earlier name (earlier.get? name)

/-- A variable holds one value only. -/
theorem holds_iff {inputs outputs : List Specifier} {earlier : Dict String} {name : String}
    {value : Option String} : Holds inputs outputs earlier name value ↔
      value = ((lastNamed? outputs name).map (placed outputRoot)).or
        (((lastNamed? inputs name).map (placed inputRoot)).or
          ((if name = "TMPDIR" then some (String.ofList temporaryRoot) else none).or
            (earlier.get? name))) := by
  constructor
  · rintro (last | ⟨noOutput, last⟩ | ⟨noOutput, noInput, rfl⟩ | ⟨noOutput, noInput, other⟩)
    · rw [Specifier.lastNamed?_eq_some_iff.mpr last]
      rfl
    · rw [Specifier.lastNamed?_eq_none_iff.mpr noOutput,
        Specifier.lastNamed?_eq_some_iff.mpr last]
      rfl
    · rw [Specifier.lastNamed?_eq_none_iff.mpr noOutput,
        Specifier.lastNamed?_eq_none_iff.mpr noInput]
      rfl
    · rw [Specifier.lastNamed?_eq_none_iff.mpr noOutput,
        Specifier.lastNamed?_eq_none_iff.mpr noInput, if_neg other]
      rfl
  · rintro rfl
    cases ofOutput : lastNamed? outputs name with
    | some s => exact .output (Specifier.lastNamed?_eq_some_iff.mp ofOutput)
    | none =>
        have noOutput := Specifier.lastNamed?_eq_none_iff.mp ofOutput
        cases ofInput : lastNamed? inputs name with
        | some s => exact .input noOutput (Specifier.lastNamed?_eq_some_iff.mp ofInput)
        | none =>
            have noInput := Specifier.lastNamed?_eq_none_iff.mp ofInput
            by_cases standard : name = "TMPDIR"
            · rw [if_pos standard]
              exact .temporary noOutput noInput standard
            · rw [if_neg standard]
              exact .earlier noOutput noInput standard

theorem getLast?_placed (root : List Char) (specifiers : List Specifier) (name : String) :
    ((specifiers.map fun s => (s.name, placed root s)).filter (·.1 = name)).getLast?.map (·.2) =
      (lastNamed? specifiers name).map (placed root) := by
  rw [List.filter_map, List.getLast?_map, Option.map_map]
  rfl

section

variable {c : Config} {h : Host} {p : Plan}

theorem map_staged (root : List Char) {specifiers : List Specifier} {staged : List Staged}
    (related : List.Forall₂ (fun s x => (Staged.name x, Staged.target x) = (s.name, placed root s))
      specifiers staged) :
    (staged.map fun x => (x.name, x.target)) = specifiers.map fun s => (s.name, placed root s) := by
  induction related with
  | nil => rfl
  | cons first later ih => rw [List.map_cons, List.map_cons, first, ih]

/-- A plan sets the variable for temporary files first, then one for each input and then one for
each output. -/
theorem environment_of_plan (planned : (plan c h).result = .ok p) :
    p.environment = Dict.ofList (("TMPDIR", String.ofList temporaryRoot) ::
      ((Specifier.parseList "INPUT" c.inputs).map (fun s => (s.name, placed inputRoot s)) ++
        (Specifier.parseList "OUTPUT" c.outputs).map fun s => (s.name, placed outputRoot s))) := by
  obtain ⟨inputs, outputs, staged, collected, rfl⟩ := parts_of_plan planned
  have stagedNames := map_staged inputRoot (staged.imp fun s input read => by
    cases stagedInput_of_stageInput read <;> rfl)
  have collectedNames := map_staged outputRoot (collected.imp fun s output read => by
    rw [staged_of_stageOutput read]; rfl)
  rw [← stagedNames, ← collectedNames, ← List.map_append]
  rfl

theorem get?_environment (planned : (plan c h).result = .ok p) (name : String) :
    p.environment.get? name =
      ((lastNamed? (Specifier.parseList "OUTPUT" c.outputs) name).map (placed outputRoot)).or
        (((lastNamed? (Specifier.parseList "INPUT" c.inputs) name).map (placed inputRoot)).or
          (if name = "TMPDIR" then some (String.ofList temporaryRoot) else none)) := by
  have first : ((([("TMPDIR", String.ofList temporaryRoot)] : List (String × String)).filter
      (·.1 = name)).getLast?.map (·.2)) =
        if name = "TMPDIR" then some (String.ofList temporaryRoot) else none := by
    by_cases standard : name = "TMPDIR"
    · rw [if_pos standard, standard]
      rfl
    · have other : ¬ "TMPDIR" = name := fun same => standard same.symm
      simp only [List.filter_cons, other, decide_false, Bool.false_eq_true, if_false,
        List.filter_nil, List.getLast?_nil, Option.map_none, if_neg standard]
  rw [environment_of_plan planned, Dict.get?_ofList, ← List.singleton_append, List.filter_append,
    List.filter_append, List.getLast?_append, List.getLast?_append, Option.map_or, Option.map_or,
    getLast?_placed, getLast?_placed, first, Option.or_assoc]

/-- What a variable holds where those of a plan are added to others. -/
theorem holds_extend (planned : (plan c h).result = .ok p) (earlier : Dict String) (name : String) :
    Holds (Specifier.parseList "INPUT" c.inputs) (Specifier.parseList "OUTPUT" c.outputs) earlier
      name ((earlier.extend p.environment).get? name) := by
  rw [holds_iff, Dict.get?_extend, get?_environment planned, Option.or_assoc, Option.or_assoc]

/-- The last input of a name decides what its variable holds, unless there is an output of that
name. -/
theorem get?_input {s : Specifier} (planned : (plan c h).result = .ok p)
    (noOutput : ∀ t ∈ Specifier.parseList "OUTPUT" c.outputs, t.name ≠ s.name)
    (last : LastNamed (Specifier.parseList "INPUT" c.inputs) s.name s) :
    p.environment.get? s.name = some (placed inputRoot s) := by
  rw [get?_environment planned, Specifier.lastNamed?_eq_none_iff.mpr noOutput,
    Specifier.lastNamed?_eq_some_iff.mpr last]
  rfl

end

end Staging

end BatchJob
