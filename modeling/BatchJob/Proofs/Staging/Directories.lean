import BatchJob.Proofs.Text.Bytes
import BatchJob.Staging.Plan
import Mathlib.Data.List.Sort
import Mathlib.Data.String.Basic

set_option autoImplicit false

/-!
Merging directories. In a sorted list every text that begins with a path stands right behind it, so
a path is dropped exactly if it is repeated or some other path begins with it.
-/

namespace BatchJob.Directories

theorem prefix_of_between {short middle long : List Char} (starts : short <+: long)
    (below : ¬ List.Lex (· < ·) middle short) (above : ¬ List.Lex (· < ·) long middle) :
    short <+: middle := by
  induction short generalizing middle long with
  | nil => exact List.nil_prefix
  | cons c rest ih =>
      obtain ⟨tail, rfl⟩ := starts
      cases middle with
      | nil => exact absurd List.Lex.nil below
      | cons d others =>
          rw [List.cons_lex_cons_iff, not_or] at below
          rw [List.cons_append, List.cons_lex_cons_iff, not_or] at above
          have same : c = d := Char.ltTrichotomous.trichotomous c d above.1 below.1
          subst same
          have begins := ih (List.prefix_append rest tail) (fun less => below.2 ⟨rfl, less⟩)
            (fun less => above.2 ⟨rfl, less⟩)
          exact List.cons_prefix_cons.mpr ⟨rfl, begins⟩

theorem not_lex_append (front back : List Char) : ¬ List.Lex (· < ·) (front ++ back) front := by
  induction front with
  | nil => exact List.not_lex_nil
  | cons c rest ih =>
      rw [List.cons_append, List.cons_lex_cons_iff, not_or]
      exact ⟨Char.lt_irrefl c, fun less => ih less.2⟩

theorem le_of_begins {p q : String} (starts : p.toList <+: q.toList) : p ≤ q := by
  obtain ⟨back, longer⟩ := starts
  have notLess := not_lex_append p.toList back
  rw [longer] at notLess
  exact notLess

/-- The paths between a path and one that begins with it begin with it too. -/
theorem prefix_between {p q r : String} (starts : p.toList <+: q.toList) (below : p ≤ r)
    (above : r ≤ q) : p.toList <+: r.toList :=
  prefix_of_between starts below above

theorem eq_of_begins_of_le {p q : String} (starts : p.toList <+: q.toList) (below : q ≤ p) :
    p = q :=
  String.le_antisymm (le_of_begins starts) below

theorem sorted_sort (paths : List String) : (sort paths).Pairwise (· ≤ ·) := by
  have transitive (a b c : String) (first : decide (a ≤ b) = true)
      (second : decide (b ≤ c) = true) : decide (a ≤ c) = true :=
    decide_eq_true (String.le_trans (of_decide_eq_true first) (of_decide_eq_true second))
  have total (a b : String) : (decide (a ≤ b) || decide (b ≤ a)) = true := by
    rcases String.le_total a b with below | above
    · rw [decide_eq_true below, Bool.true_or]
    · rw [decide_eq_true above, Bool.or_true]
  have sorted := List.pairwise_mergeSort transitive total paths
  exact sorted.imp fun below => of_decide_eq_true below

theorem mem_sort {p : String} {paths : List String} : p ∈ sort paths ↔ p ∈ paths :=
  List.mem_mergeSort

theorem mem_dropCovered {p : String} {paths : List String} (sorted : paths.Pairwise (· ≤ ·)) :
    p ∈ dropCovered paths ↔ p ∈ paths ∧ ∀ q ∈ paths, p.toList <+: q.toList → q = p := by
  fun_induction dropCovered paths with
  | case1 => simp only [List.not_mem_nil, false_and]
  | case2 path =>
      constructor
      · intro member
        refine ⟨member, fun q other _ => ?_⟩
        rw [List.mem_singleton.mp member, List.mem_singleton.mp other]
      · exact fun kept => kept.1
  | case3 path next rest covered ih =>
      have covers := List.isPrefixOf_iff_prefix.mp covered
      obtain ⟨first, sortedRest⟩ := List.pairwise_cons.mp sorted
      rw [ih sortedRest]
      constructor
      · rintro ⟨member, only⟩
        refine ⟨List.mem_cons_of_mem path member, fun q other starts => ?_⟩
        rcases List.mem_cons.mp other with rfl | other
        · exact (eq_of_begins_of_le starts (first p member)).symm
        · exact only q other starts
      · rintro ⟨member, only⟩
        refine ⟨?_, fun q other => only q (List.mem_cons_of_mem path other)⟩
        rcases List.mem_cons.mp member with rfl | member
        · have same := only next (List.mem_cons_of_mem p List.mem_cons_self) covers
          rw [← same]
          exact List.mem_cons_self
        · exact member
  | case4 path next rest apart ih =>
      obtain ⟨first, sortedRest⟩ := List.pairwise_cons.mp sorted
      rw [List.mem_cons, ih sortedRest]
      constructor
      · rintro (rfl | ⟨member, only⟩)
        · refine ⟨List.mem_cons_self, fun q other starts => ?_⟩
          rcases List.mem_cons.mp other with rfl | other
          · rfl
          · -- What stands between `p` and a path that begins with it begins with it too.
            have above : next ≤ q := by
              rcases List.mem_cons.mp other with rfl | later
              · exact String.le_refl q
              · exact (List.pairwise_cons.mp sortedRest).1 q later
            have covers := prefix_between starts (first next List.mem_cons_self) above
            exact absurd (List.isPrefixOf_iff_prefix.mpr covers) apart
        · refine ⟨List.mem_cons_of_mem path member, fun q other starts => ?_⟩
          rcases List.mem_cons.mp other with rfl | other
          · exact (eq_of_begins_of_le starts (first p member)).symm
          · exact only q other starts
      · rintro ⟨member, only⟩
        rcases List.mem_cons.mp member with same | member
        · exact .inl same
        · exact .inr ⟨member, fun q other => only q (List.mem_cons_of_mem path other)⟩

/-- What is merged away is the beginning of something that is kept. -/
theorem exists_mem_dropCovered {p : String} {paths : List String} (member : p ∈ paths) :
    ∃ m ∈ dropCovered paths, p.toList <+: m.toList := by
  fun_induction dropCovered paths generalizing p with
  | case1 => cases member
  | case2 path => exact ⟨p, member, List.prefix_refl _⟩
  | case3 path next rest covered ih =>
      rcases List.mem_cons.mp member with rfl | later
      · obtain ⟨m, kept, starts⟩ := ih List.mem_cons_self
        exact ⟨m, kept, (List.isPrefixOf_iff_prefix.mp covered).trans starts⟩
      · exact ih later
  | case4 path next rest apart ih =>
      rcases List.mem_cons.mp member with rfl | later
      · exact ⟨p, List.mem_cons_self, List.prefix_refl _⟩
      · obtain ⟨m, kept, starts⟩ := ih later
        exact ⟨m, List.mem_cons_of_mem path kept, starts⟩

/-- The merged paths are those that no other path begins with. -/
theorem mem_merge {p : String} {paths : List String} :
    p ∈ merge paths ↔ p ∈ paths ∧ ∀ q ∈ paths, p.toList <+: q.toList → q = p := by
  rw [merge, mem_dropCovered (sorted_sort paths)]
  simp only [mem_sort]

theorem exists_mem_merge {p : String} {paths : List String} (member : p ∈ paths) :
    ∃ m ∈ merge paths, p.toList <+: m.toList :=
  exists_mem_dropCovered (mem_sort.mpr member)

theorem mem_of_mem_dropCovered {p : String} {paths : List String} (kept : p ∈ dropCovered paths) :
    p ∈ paths := by
  fun_induction dropCovered paths with
  | case1 => cases kept
  | case2 path => exact kept
  | case3 path next rest covered ih => exact List.mem_cons_of_mem path (ih kept)
  | case4 path next rest apart ih =>
      rcases List.mem_cons.mp kept with rfl | later
      · exact List.mem_cons_self
      · exact List.mem_cons_of_mem path (ih later)

theorem increasing_dropCovered {paths : List String} (sorted : paths.Pairwise (· ≤ ·)) :
    (dropCovered paths).Pairwise (· < ·) := by
  fun_induction dropCovered paths with
  | case1 => exact .nil
  | case2 path => exact List.pairwise_singleton _ path
  | case3 path next rest covered ih => exact ih (List.pairwise_cons.mp sorted).2
  | case4 path next rest apart ih =>
      obtain ⟨first, sortedRest⟩ := List.pairwise_cons.mp sorted
      refine List.pairwise_cons.mpr ⟨fun m kept => ?_, ih sortedRest⟩
      have member := mem_of_mem_dropCovered kept
      refine String.not_le.mp fun below => apart (List.isPrefixOf_iff_prefix.mpr ?_)
      -- A path that is no less than all others is the next one too.
      have same : path = m := String.le_antisymm (first m member) below
      have above : next ≤ m := by
        rcases List.mem_cons.mp member with rfl | later
        · exact String.le_refl m
        · exact (List.pairwise_cons.mp sortedRest).1 m later
      have alike : path = next :=
        String.le_antisymm (first next List.mem_cons_self) (same ▸ above)
      exact alike ▸ List.prefix_refl path.toList

theorem increasing_merge (paths : List String) : (merge paths).Pairwise (· < ·) :=
  increasing_dropCovered (sorted_sort paths)

/-- Two lists of the same paths are merged alike. -/
theorem merge_eq_merge {paths others : List String} (same : ∀ p, p ∈ others ↔ p ∈ paths) :
    merge others = merge paths := by
  apply (increasing_merge others).eq_of_mem_iff (increasing_merge paths)
  intro p
  simp only [mem_merge, same]

theorem merge_merge (paths : List String) : merge (merge paths) = merge paths := by
  apply (increasing_merge _).eq_of_mem_iff (increasing_merge paths)
  intro p
  constructor
  · exact fun kept => (mem_merge.mp kept).1
  · intro kept
    refine mem_merge.mpr ⟨kept, fun q other => ?_⟩
    exact (mem_merge.mp kept).2 q (mem_merge.mp other).1

/-- Merging keeps the paths that no other path begins with, each once and in the order of their
bytes. So it loses nothing that is not the beginning of a path it keeps, keeps no path that another
one begins with, looks at nothing but which paths there are, and has no more to do after once. -/
theorem maximal_merge (paths : List String) :
    (∀ p, p ∈ merge paths ↔
      p ∈ paths ∧ ∀ q ∈ paths, p.toList <+: q.toList → q = p) ∧
    (merge paths).Pairwise (fun p q => Text.bytes p < Text.bytes q) ∧
    (∀ p ∈ paths, ∃ q ∈ merge paths, p.toList <+: q.toList) ∧
    (∀ p ∈ merge paths, ∀ q ∈ merge paths, p.toList <+: q.toList → q = p) ∧
    (∀ others, (∀ p, p ∈ others ↔ p ∈ paths) → merge others = merge paths) ∧
    merge (merge paths) = merge paths := by
  refine ⟨fun p => mem_merge, ?_, fun p => exists_mem_merge, ?_, fun others => merge_eq_merge,
    merge_merge paths⟩
  · exact (increasing_merge paths).imp fun less => Text.bytes_lt_of_lt less
  · intro p kept q other
    exact (mem_merge.mp kept).2 q (mem_merge.mp other).1

end BatchJob.Directories
