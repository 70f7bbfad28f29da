import BatchJob.Attempt

set_option autoImplicit false

/-!
How attempts are counted. A budget allows the sum of its two parts, as far as 32 bits can tell; a
failure that allows another attempt moves the count up to that sum, and no other failure moves it.
-/

namespace BatchJob

namespace AttemptBudget

theorem toNat_total (b : AttemptBudget) :
    b.total.toNat = min (b.preemptible.toNat + b.standard.toNat) (UInt32.size - 1) := by
  have size : min (b.preemptible.toNat + b.standard.toNat) (UInt32.size - 1) < UInt32.size :=
    Nat.lt_of_le_of_lt (Nat.min_le_right _ _) (by decide)
  exact Nat.mod_eq_of_lt size

theorem isEmpty_iff (b : AttemptBudget) :
    b.isEmpty = true ↔ b.preemptible = 0 ∧ b.standard = 0 := by
  have total := toNat_total b
  have positive : 0 < UInt32.size - 1 := by decide
  have zero (x : UInt32) : x = 0 ↔ x.toNat = 0 := by
    rw [← UInt32.toNat_inj]
    rfl
  simp only [isEmpty, beq_iff_eq, zero, total]
  omega

theorem total_pos {b : AttemptBudget} (filled : b.isEmpty = false) : 0 < b.total.toNat := by
  apply Nat.pos_of_ne_zero
  intro zero
  have empty : b.isEmpty = true := by
    rw [isEmpty, beq_iff_eq, ← UInt32.toNat_inj, zero]
    rfl
  rw [filled] at empty
  cases empty

end AttemptBudget

namespace AttemptState

theorem isPreemptible_eq (s : AttemptState) :
    s.isPreemptible = decide (s.attempt.toNat ≤ s.budget.preemptible.toNat) := by
  simp only [isPreemptible, UInt32.le_iff_toNat_le]

/-- A repeated attempt has the next number. -/
theorem toNat_next {s : AttemptState} (remains : s.attempt < s.budget.total) :
    (s.attempt + 1).toNat = s.attempt.toNat + 1 := by
  have lt : s.attempt.toNat < s.budget.total.toNat := UInt32.lt_iff_toNat_lt.mp remains
  have bound := s.budget.total.toNat_lt
  rw [UInt32.toNat_add, UInt32.toNat_one]
  omega

section

variable {s next : AttemptState} {retriable : Bool}

theorem retriable_of_fail (h : s.afterFailure retriable = (.fail, next)) : retriable = false := by
  unfold afterFailure at h
  split at h
  · simpa only [Bool.not_eq_true'] using ‹(!retriable) = true›
  · split at h <;> cases h

theorem spent_of_exhausted (h : s.afterFailure retriable = (.exhausted, next)) :
    retriable = true ∧ s.budget.total ≤ s.attempt := by
  unfold afterFailure at h
  split at h
  · cases h
  · next again =>
    split at h
    · cases h
    · next spent => exact ⟨by simpa using again, UInt32.not_lt.mp spent⟩

theorem next_of_retry (h : s.afterFailure retriable = (.retry, next)) :
    retriable = true ∧ s.attempt < s.budget.total ∧ next = { s with attempt := s.attempt + 1 } := by
  unfold afterFailure at h
  split at h
  · cases h
  · next again =>
    split at h
    · next left =>
      simp only [Prod.mk.injEq, true_and] at h
      exact ⟨by simpa using again, left, h.symm⟩
    · cases h

end

theorem afterFailure_of_lt {s : AttemptState} (left : s.attempt < s.budget.total) :
    s.afterFailure true = (.retry, { s with attempt := s.attempt + 1 }) :=
  if_pos left

theorem afterFailure_of_le {s : AttemptState} (spent : s.budget.total ≤ s.attempt) :
    s.afterFailure true = (.exhausted, s) :=
  if_neg (UInt32.not_lt.mpr spent)

/-- What a failure may be answered, and where it leaves the count. -/
structure Answers (s : AttemptState) (retriable : Bool) (decision : AttemptDecision)
    (next : AttemptState) : Prop where
  fail_iff : decision = .fail ↔ retriable = false
  retry_iff : decision = .retry ↔
    retriable = true ∧ s.attempt.toNat < s.budget.total.toNat
  exhausted_iff : decision = .exhausted ↔
    retriable = true ∧ s.budget.total.toNat ≤ s.attempt.toNat
  stays : decision ≠ .retry → next = s
  advances : decision = .retry → next = { s with attempt := s.attempt + 1 } ∧
    (s.attempt + 1).toNat = s.attempt.toNat + 1

theorem answers_afterFailure (s : AttemptState) (retriable : Bool) :
    Answers s retriable (s.afterFailure retriable).1 (s.afterFailure retriable).2 := by
  cases retriable with
  | false => exact {
      fail_iff := iff_of_true rfl rfl
      retry_iff := iff_of_false nofun nofun
      exhausted_iff := iff_of_false nofun nofun
      stays := fun _ => rfl
      advances := nofun }
  | true =>
      by_cases left : s.attempt < s.budget.total
      · have below : s.attempt.toNat < s.budget.total.toNat := UInt32.lt_iff_toNat_lt.mp left
        rw [afterFailure_of_lt left]
        exact {
          fail_iff := iff_of_false nofun nofun
          retry_iff := iff_of_true rfl ⟨rfl, below⟩
          exhausted_iff := iff_of_false nofun fun reached => Nat.not_le.mpr below reached.2
          stays := fun other => absurd rfl other
          advances := fun _ => ⟨rfl, toNat_next left⟩ }
      · have spent : s.budget.total ≤ s.attempt := UInt32.not_lt.mp left
        have reached : s.budget.total.toNat ≤ s.attempt.toNat := UInt32.le_iff_toNat_le.mp spent
        rw [afterFailure_of_le spent]
        exact {
          fail_iff := iff_of_false nofun nofun
          retry_iff := iff_of_false nofun fun below => Nat.not_lt.mpr reached below.2
          exhausted_iff := iff_of_true rfl ⟨rfl, reached⟩
          stays := fun _ => rfl
          advances := nofun }

theorem budget_afterFailure (s : AttemptState) (retriable : Bool) :
    (s.afterFailure retriable).2.budget = s.budget := by
  have answers := answers_afterFailure s retriable
  by_cases again : (s.afterFailure retriable).1 = .retry
  · rw [(answers.advances again).1]
  · rw [answers.stays again]

/-- A failure that allows another attempt moves the count up by one, but not above the total. -/
theorem toNat_afterFailure (s : AttemptState) (retriable : Bool) :
    (s.afterFailure retriable).2.attempt.toNat =
      max s.attempt.toNat
        (min s.budget.total.toNat (s.attempt.toNat + [retriable].count true)) := by
  cases retriable with
  | false =>
      change s.attempt.toNat = max s.attempt.toNat (min _ s.attempt.toNat)
      omega
  | true =>
      change _ = max s.attempt.toNat (min _ (s.attempt.toNat + 1))
      by_cases left : s.attempt < s.budget.total
      · have below : s.attempt.toNat < s.budget.total.toNat := UInt32.lt_iff_toNat_lt.mp left
        rw [afterFailure_of_lt left, toNat_next left]
        omega
      · have spent : s.budget.total ≤ s.attempt := UInt32.not_lt.mp left
        have reached : s.budget.total.toNat ≤ s.attempt.toNat := UInt32.le_iff_toNat_le.mp spent
        rw [afterFailure_of_le spent]
        change s.attempt.toNat = _
        omega

/-- Where failures leave the count, of which each may allow another attempt. -/
def afterFailures (s : AttemptState) (failures : List Bool) : AttemptState :=
  failures.foldl (fun s retriable => (s.afterFailure retriable).2) s

theorem afterFailures_append (s : AttemptState) (before after : List Bool) :
    s.afterFailures (before ++ after) = (s.afterFailures before).afterFailures after :=
  List.foldl_append

theorem budget_afterFailures (s : AttemptState) (failures : List Bool) :
    (s.afterFailures failures).budget = s.budget := by
  induction failures generalizing s with
  | nil => rfl
  | cons retriable rest ih => exact (ih _).trans (budget_afterFailure s retriable)

theorem toNat_afterFailures (s : AttemptState) (failures : List Bool) :
    (s.afterFailures failures).attempt.toNat =
      max s.attempt.toNat (min s.budget.total.toNat (s.attempt.toNat + failures.count true)) := by
  induction failures generalizing s with
  | nil =>
      change s.attempt.toNat = max s.attempt.toNat (min _ s.attempt.toNat)
      omega
  | cons retriable rest ih =>
      have first := toNat_afterFailure s retriable
      have later := ih (s.afterFailure retriable).2
      have counts : (retriable :: rest).count true = [retriable].count true + rest.count true := by
        rw [← List.singleton_append, List.count_append]
      rw [budget_afterFailure, first] at later
      rw [counts]
      change ((s.afterFailure retriable).2.afterFailures rest).attempt.toNat = _
      omega

/-- The count never goes down, so once it is beyond the preemptible attempts it stays there. -/
theorem isPreemptible_afterFailures {s : AttemptState} (standard : s.isPreemptible = false)
    (failures : List Bool) : (s.afterFailures failures).isPreemptible = false := by
  have count := toNat_afterFailures s failures
  rw [isPreemptible_eq, decide_eq_false_iff_not] at standard
  rw [isPreemptible_eq, decide_eq_false_iff_not, budget_afterFailures, count]
  omega

/-- An account of failures: where the count ends, what each of them is answered, and that the
attempts do not turn preemptible again. -/
structure Accounts (s : AttemptState) (failures : List Bool) : Prop where
  total : s.budget.total.toNat =
    min (s.budget.preemptible.toNat + s.budget.standard.toNat) (UInt32.size - 1)
  budget : (s.afterFailures failures).budget = s.budget
  attempt : (s.afterFailures failures).attempt.toNat =
    max s.attempt.toNat (min s.budget.total.toNat (s.attempt.toNat + failures.count true))
  answers : ∀ before retriable after, failures = before ++ retriable :: after →
    Answers (s.afterFailures before) retriable
      ((s.afterFailures before).afterFailure retriable).1
      (s.afterFailures (before ++ [retriable]))
  standard : ∀ before after, failures = before ++ after →
    (s.afterFailures before).isPreemptible = false →
      (s.afterFailures failures).isPreemptible = false

/-- Every list of failures is accounted for, whatever the budget is and wherever the count
starts. -/
theorem accounts_afterFailures (s : AttemptState) (failures : List Bool) :
    Accounts s failures where
  total := s.budget.toNat_total
  budget := budget_afterFailures s failures
  attempt := toNat_afterFailures s failures
  answers := by
    intro before retriable after _
    rw [afterFailures_append]
    exact answers_afterFailure _ retriable
  standard := by
    rintro before after rfl standard
    rw [afterFailures_append]
    exact isPreemptible_afterFailures standard after

example :
    (afterFailures ⟨⟨0xffffffff, 7⟩, 0xfffffffe⟩ [true, false, true]).attempt = 0xffffffff := by
  decide

end AttemptState

end BatchJob
