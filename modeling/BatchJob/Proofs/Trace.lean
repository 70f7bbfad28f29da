import BatchJob.Trace
import Mathlib.Data.List.Forall2

set_option autoImplicit false

/-!
What a success says about the parts of a traced computation, and what is the same in two of them.
-/

namespace BatchJob.Traced

variable {ε ε' α β : Type}

theorem result_ofExcept (r : Except ε α) : (ofExcept r).result = r := rfl

theorem bind_eq_ok_iff {x : Except ε α} {next : α → Except ε β} {b : β} :
    x >>= next = .ok b ↔ ∃ a, x = .ok a ∧ next a = .ok b := by
  cases x with
  | error e => exact iff_of_false (fun success => nomatch success) fun ⟨_, part, _⟩ => nomatch part
  | ok a =>
      constructor
      · exact fun success => ⟨a, rfl, success⟩
      · rintro ⟨_, ⟨⟩, success⟩
        exact success

section

variable {f : α → Option β}

theorem mapM_eq_some_iff {items : List α} {results : List β} :
    items.mapM f = some results ↔ List.Forall₂ (fun a b => f a = some b) items results := by
  constructor
  · intro success
    induction items generalizing results with
    | nil =>
        cases success
        exact .nil
    | cons a rest ih =>
        simp only [List.mapM_cons, Option.bind_eq_bind, Option.bind_eq_some_iff] at success
        obtain ⟨b, first, others, later, same⟩ := success
        cases same
        exact .cons first (ih later)
  · intro related
    induction related with
    | nil => rfl
    | cons first later ih =>
        rw [List.mapM_cons, first, ih]
        rfl

theorem exists_mapM_eq_some_iff {items : List α} :
    (∃ results, items.mapM f = some results) ↔ ∀ a ∈ items, ∃ b, f a = some b := by
  induction items with
  | nil => exact iff_of_true ⟨[], rfl⟩ (List.forall_mem_nil _)
  | cons a rest ih =>
      rw [List.forall_mem_cons, ← ih, List.mapM_cons]
      constructor
      · rintro ⟨results, success⟩
        simp only [Option.bind_eq_bind, Option.bind_eq_some_iff] at success
        obtain ⟨b, first, others, later, -⟩ := success
        exact ⟨⟨b, first⟩, others, later⟩
      · rintro ⟨⟨b, first⟩, others, later⟩
        refine ⟨b :: others, ?_⟩
        rw [first, later]
        rfl

end

/-- A success without steps leaves only what follows it. -/
theorem ok_bind (a : α) (next : α → Traced ε β) :
    ((⟨.ok a, []⟩ : Traced ε α) >>= next) = next a := rfl

/-- Both parts of a successful computation succeed. -/
theorem result_bind_eq_ok {first : Traced ε α} {next : α → Traced ε β} {b : β} :
    (first >>= next).result = .ok b ↔
      ∃ a, first.result = .ok a ∧ (next a).result = .ok b := by
  constructor
  · intro success
    cases part : first.result with
    | error e =>
        rw [bind_of_error first next e part] at success
        cases success
    | ok a =>
        rw [result_bind_of_ok first next a part] at success
        exact ⟨a, rfl, success⟩
  · rintro ⟨a, part, success⟩
    rw [result_bind_of_ok first next a part]
    exact success

theorem result_mapError_eq_ok {f : ε → ε'} {t : Traced ε α} {a : α} :
    (t.mapError f).result = .ok a ↔ t.result = .ok a := by
  obtain ⟨result, steps⟩ := t
  cases result with
  | error e => constructor <;> intro success <;> cases success
  | ok b => constructor <;> intro success <;> cases success <;> rfl

/-- A computation comes to what its parts come to, whatever their steps are. -/
theorem result_bind (first : Traced ε α) (next : α → Traced ε β) :
    (first >>= next).result = first.result >>= fun a => (next a).result := by
  cases part : first.result with
  | error e =>
      rw [bind_of_error first next e part]
      rfl
  | ok a => exact result_bind_of_ok first next a part

theorem result_bind_congr {first other : Traced ε α} {next follows : α → Traced ε β}
    (begins : first.result = other.result) (goesOn : ∀ a, (next a).result = (follows a).result) :
    (first >>= next).result = (other >>= follows).result := by
  rw [result_bind, result_bind, begins]
  exact bind_congr goesOn

theorem bind_assoc {γ : Type} (first : Traced ε α) (second : α → Traced ε β)
    (third : β → Traced ε γ) :
    (first >>= second) >>= third = first >>= fun a => second a >>= third := by
  change bind (bind first second) third = bind first fun a => bind (second a) third
  cases success : first.result with
  | error e => simp only [bind, success]
  | ok a =>
      cases later : (second a).result with
      | error e => simp only [bind, success, later]
      | ok b => simp only [bind, success, later, List.append_assoc]

instance : LawfulMonad (Traced ε) :=
  LawfulMonad.mk' (Traced ε)
    (fun t => by
      obtain ⟨result, steps⟩ := t
      change bind ⟨result, steps⟩ _ = _
      cases result with
      | error e => rfl
      | ok a => exact congrArg (Traced.mk (.ok a)) (List.append_nil steps))
    (fun a next => rfl)
    bind_assoc

theorem exists_of_forall₂ {R : α → β → Prop} {items : List α} {results : List β} {b : β}
    (related : List.Forall₂ R items results) (member : b ∈ results) : ∃ a ∈ items, R a b := by
  induction related with
  | nil => cases member
  | cons first later ih =>
      rcases List.mem_cons.mp member with rfl | member
      · exact ⟨_, List.mem_cons_self, first⟩
      · obtain ⟨a, within, holds⟩ := ih member
        exact ⟨a, List.mem_cons_of_mem _ within, holds⟩

theorem exists_split_of_forall₂ {R : α → β → Prop} {items : List α} {front back : List β} {b : β}
    (related : List.Forall₂ R items (front ++ b :: back)) :
    ∃ before a after, items = before ++ a :: after ∧ R a b ∧ List.Forall₂ R after back := by
  obtain ⟨a, after, holds, later, rest⟩ :=
    List.forall₂_cons_right_iff.mp (List.forall₂_drop_append items front (b :: back) related)
  exact ⟨items.take front.length, a, after, by rw [← rest, List.take_append_drop], holds, later⟩
/-- A list comes to what its items come to one after the other. -/
theorem result_mapM (f : α → Traced ε β) (items : List α) :
    (items.mapM f).result = items.mapM fun a => (f a).result := by
  induction items with
  | nil => rfl
  | cons a rest ih =>
      rw [List.mapM_cons, List.mapM_cons, result_bind]
      simp only [result_bind, ih]
      rfl

theorem forall_of_mapM_except {f : α → Except ε β} {items : List α} {results : List β}
    (success : items.mapM f = .ok results) :
    List.Forall₂ (fun a b => f a = .ok b) items results := by
  induction items generalizing results with
  | nil =>
      cases success
      exact .nil
  | cons a rest ih =>
      rw [List.mapM_cons] at success
      obtain ⟨b, first, success⟩ := bind_eq_ok_iff.mp success
      obtain ⟨others, later, success⟩ := bind_eq_ok_iff.mp success
      cases success
      exact .cons first (ih later)

/-- A list is worked off successfully only if each of its items is. -/
theorem forall_of_mapM {f : α → Traced ε β} {items : List α} {results : List β}
    (success : (items.mapM f).result = .ok results) :
    List.Forall₂ (fun a b => (f a).result = .ok b) items results :=
  forall_of_mapM_except ((result_mapM f items).symm.trans success)

/-- The error in which the first item of a list fails that does not succeed. -/
def FirstError (f : α → Except ε β) (items : List α) (e : ε) : Prop :=
  ∃ before a after, items = before ++ a :: after ∧ (∀ b ∈ before, ∃ result, f b = .ok result) ∧
    f a = .error e

theorem firstError_cons {f : α → Except ε β} {a : α} {rest : List α} {e : ε} :
    FirstError f (a :: rest) e ↔
      f a = .error e ∨ (∃ b, f a = .ok b) ∧ FirstError f rest e := by
  constructor
  · rintro ⟨_ | ⟨x, before⟩, y, after, split, sound, fails⟩
    · cases split
      exact .inl fails
    · cases split
      obtain ⟨first, later⟩ := List.forall_mem_cons.mp sound
      exact .inr ⟨first, before, y, after, rfl, later, fails⟩
  · rintro (fails | ⟨first, before, y, after, rfl, later, fails⟩)
    · exact ⟨[], a, rest, rfl, List.forall_mem_nil _, fails⟩
    · exact ⟨a :: before, y, after, rfl, List.forall_mem_cons.mpr ⟨first, later⟩, fails⟩

/-- What does not succeed fails. -/
theorem exists_eq_error_iff {x : Except ε α} : (∃ e, x = .error e) ↔ ¬ ∃ a, x = .ok a := by
  cases x with
  | ok a => exact iff_of_false (fun ⟨_, failed⟩ => nomatch failed) fun no => no ⟨a, rfl⟩
  | error e => exact iff_of_true ⟨e, rfl⟩ fun ⟨_, success⟩ => nomatch success

theorem bind_eq_error_iff {x : Except ε α} {next : α → Except ε β} {e : ε} :
    x >>= next = .error e ↔ x = .error e ∨ ∃ a, x = .ok a ∧ next a = .error e := by
  cases x with
  | error other =>
      constructor
      · intro failed
        cases failed
        exact .inl rfl
      · rintro (failed | ⟨a, success, -⟩)
        · cases failed
          rfl
        · cases success
  | ok a =>
      constructor
      · exact fun failed => .inr ⟨a, rfl, failed⟩
      · rintro (failed | ⟨b, success, failed⟩)
        · cases failed
        · cases success
          exact failed

/-- A list fails in the error of its first item that fails. -/
theorem mapM_eq_error_iff {f : α → Except ε β} {items : List α} {e : ε} :
    items.mapM f = .error e ↔ FirstError f items e := by
  induction items with
  | nil =>
      refine iff_of_false (fun failed => nomatch failed) ?_
      rintro ⟨before, a, after, split, -⟩
      cases before <;> cases split
  | cons a rest ih =>
      have sound (all : List β) : (pure all : Except ε (List β)) ≠ .error e :=
        fun failed => nomatch failed
      simp only [List.mapM_cons, bind_eq_error_iff, firstError_cons, ← ih, sound, and_false,
        exists_false, or_false, exists_and_right]

/-- A list succeeds if all of its items do. -/
theorem exists_mapM_eq_ok_iff {f : α → Except ε β} {items : List α} :
    (∃ results, items.mapM f = .ok results) ↔ ∀ a ∈ items, ∃ b, f a = .ok b := by
  constructor
  · rintro ⟨results, success⟩ a member
    obtain ⟨b, -, first⟩ := exists_of_forall₂ (forall_of_mapM_except success).flip member
    exact ⟨b, first⟩
  · intro each
    cases all : items.mapM f with
    | ok results => exact ⟨results, rfl⟩
    | error e =>
        obtain ⟨before, a, after, rfl, -, fails⟩ := mapM_eq_error_iff.mp all
        obtain ⟨b, success⟩ := each a List.mem_append_cons_self
        rw [fails] at success
        cases success

/-- Each item has its own result, whatever stands around it. -/
theorem eq_filterMap_of_forall₂ {f : α → Except ε β} {items : List α} {results : List β}
    (related : List.Forall₂ (fun a b => f a = .ok b) items results) :
    results = items.filterMap fun a => (f a).toOption := by
  induction related with
  | nil => rfl
  | cons first later ih =>
      rw [List.filterMap_cons, first, ← ih]
      rfl

theorem exists_firstError_iff {f : α → Except ε β} {items : List α} :
    (∃ e, FirstError f items e) ↔ ∃ a ∈ items, ¬ ∃ b, f a = .ok b := by
  simp only [← mapM_eq_error_iff, exists_eq_error_iff, exists_mapM_eq_ok_iff, not_forall,
    exists_prop]

/-- If each item's partner yields something for it, what is yielded pairs with the items. -/
theorem forall_filterMap {γ : Type} {R : α → β → Prop} {Q : α → γ → Prop} {f : β → Option γ}
    (each : ∀ a b, R a b → ∃ c, f b = some c ∧ Q a c) {items : List α} {results : List β}
    (related : List.Forall₂ R items results) : List.Forall₂ Q items (results.filterMap f) := by
  induction related with
  | nil => exact .nil
  | cons first later ih =>
      obtain ⟨c, yields, holds⟩ := each _ _ first
      rw [List.filterMap_cons_some yields]
      exact .cons holds ih

def Only (P : Step → Prop) (t : Traced ε α) : Prop := ∀ s ∈ t.steps, P s

section

variable {P : Step → Prop}

theorem only_of_nil {result : Except ε α} : Only P ⟨result, []⟩ :=
  fun _ member => absurd member List.not_mem_nil

theorem only_of_singleton {result : Except ε α} {s : Step} (holds : P s) :
    Only P ⟨result, [s]⟩ := by
  intro x member
  rw [List.mem_singleton.mp member]
  exact holds

theorem Only.bind {first : Traced ε α} {next : α → Traced ε β} (begins : Only P first)
    (goesOn : ∀ a, Only P (next a)) : Only P (first >>= next) := by
  cases part : first.result with
  | error e =>
      rw [bind_of_error first next e part]
      exact begins
  | ok a =>
      intro s member
      rw [steps_bind_of_ok first next a part, List.mem_append] at member
      rcases member with early | late
      · exact begins s early
      · exact goesOn a s late

theorem Only.mapError {t : Traced ε α} {f : ε → ε'} (only : Only P t) : Only P (t.mapError f) :=
  only

theorem Only.mapM {f : α → Traced ε β} (each : ∀ a, Only P (f a)) (items : List α) :
    Only P (items.mapM f) := by
  induction items with
  | nil => exact only_of_nil
  | cons a rest ih =>
      rw [List.mapM_cons]
      exact (each a).bind fun _ => ih.bind fun _ => only_of_nil

end

section

/-- Two computations take the same steps and fail with the same errors, and they come to different
values exactly if `P` is the case. -/
structure DifferIf (P : Prop) (t u : Traced ε α) : Prop where
  steps : t.steps = u.steps
  errors : ∀ e, t.result = .error e ↔ u.result = .error e
  values : t.result = u.result ↔ ¬ P

variable {P : Prop} {t u : Traced ε α}

theorem DifferIf.congr {Q : Prop} (same : P ↔ Q) (differ : DifferIf P t u) : DifferIf Q t u :=
  ⟨differ.steps, differ.errors, differ.values.trans (not_congr same)⟩

theorem DifferIf.of_eq (same : t = u) (never : ¬ P) : DifferIf P t u := by
  subst same
  exact ⟨rfl, fun _ => Iff.rfl, iff_of_true rfl never⟩

theorem DifferIf.of_ok {a b : α} {steps others : List Step} (same : steps = others)
    (values : a = b ↔ ¬ P) : DifferIf P (⟨.ok a, steps⟩ : Traced ε α) ⟨.ok b, others⟩ := by
  refine ⟨same, fun e => ?_, ?_⟩
  · exact iff_of_false (fun fails => nomatch fails) fun fails => nomatch fails
  · rw [Except.ok.injEq, values]

theorem DifferIf.mapError (f : ε → ε') (differ : DifferIf P t u) :
    DifferIf P (t.mapError f) (u.mapError f) := by
  obtain ⟨first, steps⟩ := t
  obtain ⟨second, others⟩ := u
  obtain ⟨same, errors, values⟩ := differ
  dsimp only at same errors values
  cases first with
  | error e =>
      have failed : second = .error e := (errors e).mp rfl
      subst failed
      exact ⟨same, fun _ => Iff.rfl, iff_of_true rfl (values.mp rfl)⟩
  | ok a =>
      cases second with
      | error e => cases (errors e).mpr rfl
      | ok b =>
          rw [Except.ok.injEq] at values
          exact .of_ok same values

/-- After a common start, what matters is what comes of its value. -/
theorem DifferIf.bind {first : Traced ε α} {next follows : α → Traced ε β} {P : α → Prop}
    (each : ∀ a, first.result = .ok a → DifferIf (P a) (next a) (follows a)) :
    DifferIf (∃ a, first.result = .ok a ∧ P a) (first >>= next) (first >>= follows) := by
  cases begins : first.result with
  | error e =>
      rw [bind_of_error first next e begins, bind_of_error first follows e begins]
      exact ⟨rfl, fun _ => Iff.rfl, iff_of_true rfl fun ⟨_, succeeds, _⟩ => nomatch succeeds⟩
  | ok a =>
      obtain ⟨steps, errors, values⟩ := each a begins
      have only : (∃ b, Except.ok a = (.ok b : Except ε α) ∧ P b) ↔ P a :=
        ⟨fun ⟨_, same, holds⟩ => Except.ok.inj same ▸ holds, fun holds => ⟨a, rfl, holds⟩⟩
      refine ⟨?_, ?_, ?_⟩
      · rw [steps_bind_of_ok first next a begins, steps_bind_of_ok first follows a begins, steps]
      · rw [result_bind_of_ok first next a begins, result_bind_of_ok first follows a begins]
        exact errors
      · rw [result_bind_of_ok first next a begins, result_bind_of_ok first follows a begins, only]
        exact values

end

end BatchJob.Traced
