import BatchJob.Proofs.Placement
import Mathlib.Data.List.Nodup

set_option autoImplicit false

/-!
How often a place is named when entries are expanded. Wildcards share one search of the listing, so
however many of them cover a place, it is found once; but a place that is written out as well is
named a second time.
-/

namespace BatchJob

variable {h : Host} {project : String} {kind : LocationKind} {entries names : List String}

/-- Whether a place is the name of an entry; a name that ends in `*` cannot be written out. -/
def WrittenOut (entries : List String) (name : String) : Prop :=
  name ∈ entries ∧ ∀ front, name ≠ front ++ "*"

/-- Whether a place is listed, and its name begins with what stands before the `*` at the end of an
entry. -/
def Covered (h : Host) (project : String) (kind : LocationKind) (entries : List String)
    (name : String) : Prop :=
  (∃ listed, (h.locations project kind).result = .ok listed ∧ name ∈ listed) ∧
    ∃ front, front ++ "*" ∈ entries ∧ front.toList <+: name.toList

/-- If neither the entries nor the listing repeat a name, the two parts of an expansion do not
repeat one either. -/
theorem nodup_parts_of_expandPrefixes (distinct : entries.Nodup)
    (unrepeated : ∀ listed, (h.locations project kind).result = .ok listed → listed.Nodup)
    (success : (expandPrefixes h project kind entries).result = .ok names) :
    ∃ written found, names = written ++ found ∧ written.Nodup ∧ found.Nodup ∧
      (∀ name, name ∈ written ↔ WrittenOut entries name) ∧
      ∀ name, name ∈ found ↔ Covered h project kind entries name := by
  obtain ⟨found, shape, covered, sublist⟩ := parts_of_expandPrefixes success
  refine ⟨_, found, shape, distinct.filter _, ?_, fun name => ?_, covered⟩
  · cases answer : (h.locations project kind).result with
    | ok listed => exact (unrepeated listed answer).sublist (sublist listed answer)
    | error e =>
        have nothing : found = [] := by
          refine List.eq_nil_iff_forall_not_mem.mpr fun name member => ?_
          obtain ⟨⟨listed, success, -⟩, -⟩ := (covered name).mp member
          rw [answer] at success
          cases success
        rw [nothing]
        exact List.nodup_nil
  · rw [List.mem_filter, isNone_wildcard?_iff, WrittenOut]

/-- A place is named twice exactly if it is both written out and covered, and so no place is named
twice exactly if none that is written out is covered. That several wildcards cover it makes no
difference. -/
theorem nodup_expandPrefixes_iff (distinct : entries.Nodup)
    (unrepeated : ∀ listed, (h.locations project kind).result = .ok listed → listed.Nodup)
    (success : (expandPrefixes h project kind entries).result = .ok names) :
    (∀ name, names.count name ≤ 2 ∧
      (names.count name = 2 ↔ WrittenOut entries name ∧ Covered h project kind entries name) ∧
      (names.count name = 0 ↔
        ¬ WrittenOut entries name ∧ ¬ Covered h project kind entries name)) ∧
    (names.Nodup ↔
      ∀ name, WrittenOut entries name → ¬ Covered h project kind entries name) := by
  obtain ⟨written, found, rfl, writtenOnce, foundOnce, writtenOut, covered⟩ :=
    nodup_parts_of_expandPrefixes distinct unrepeated success
  constructor
  · intro name
    rw [List.count_append, writtenOnce.count, foundOnce.count, ← writtenOut, ← covered]
    by_cases isWritten : name ∈ written <;> by_cases isFound : name ∈ found <;>
      simp only [isWritten, isFound, if_true, if_false] <;> decide
  · simp only [List.nodup_append', writtenOnce, foundOnce, true_and, List.disjoint_left,
      writtenOut, covered]

/-- Two wildcards cover the same place, and another place is only written out. -/
theorem nodup_expandPrefixes_overlapping :
    let entries := ["us-*", "asia-east1-a", "us-east1-*"]
    let listed := ["asia-east1-a", "us-east1-b", "us-west1-a"]
    let h : Host := ⟨fun _ => .error .notFound, .error .notFound, some fun _ _ => .ok listed⟩
    entries.Nodup ∧ listed.Nodup ∧
      ∃ names, (expandPrefixes h "p" .zones entries).result = .ok names ∧ names.Nodup ∧
        names.count "us-east1-b" ≠ 0 := by
  intro entries listed h
  have distinct : entries.Nodup := by decide
  have unrepeated : ∀ all, (h.locations "p" .zones).result = .ok all → all.Nodup := by
    intro all answer
    rw [← Except.ok.inj answer]
    decide
  have success : ∃ names, (expandPrefixes h "p" .zones entries).result = .ok names := ⟨_, rfl⟩
  obtain ⟨names, success⟩ := success
  obtain ⟨counts, once⟩ := nodup_expandPrefixes_iff distinct unrepeated success
  have onlyCovered : Covered h "p" .zones entries "us-east1-b" :=
    ⟨⟨listed, rfl, by decide⟩, "us-", by decide, by decide⟩
  refine ⟨distinct, unrepeated listed rfl, names, success, once.mpr ?_, ?_⟩
  · rintro name ⟨member, literal⟩ ⟨-, covered⟩
    rw [← isNone_wildcard?_iff] at literal
    rw [← any_wildcards_iff] at covered
    simp only [entries, List.mem_cons, List.not_mem_nil, or_false] at member
    rcases member with rfl | rfl | rfl
    · exact absurd literal (by decide)
    · exact absurd covered (by decide)
    · exact absurd literal (by decide)
  · rw [ne_eq, (counts "us-east1-b").2.2]
    exact fun neither => neither.2 onlyCovered

/-- A zone that is written out beside a wildcard that covers it is named twice. -/
theorem not_nodup_expandPrefixes_beside :
    let entries := ["us-east1-b", "us-*"]
    let listed := ["us-east1-b", "us-west1-a"]
    let h : Host := ⟨fun _ => .error .notFound, .error .notFound, some fun _ _ => .ok listed⟩
    entries.Nodup ∧ (h.locations "p" .zones).result = .ok listed ∧ listed.Nodup ∧
      (expandPrefixes h "p" .zones entries).result =
        .ok ["us-east1-b", "us-east1-b", "us-west1-a"] ∧
      ¬ ["us-east1-b", "us-east1-b", "us-west1-a"].Nodup := by
  intro entries listed h
  exact ⟨by decide, rfl, by decide, by decide, by decide⟩

end BatchJob
