import BatchJob.LogFilter
import BatchJob.Proofs.Trace
import Mathlib.Data.List.Induction
import Mathlib.Data.List.Sort

set_option autoImplicit false

/-!
The filter that is in force: that of the setting if each of its pieces can be read, and else the
usual one. Its directives stand in order, and of those with one rank only the last counts.
-/

namespace BatchJob.LogFilter

variable {d e : Directive} {directives placed ordered : List Directive}

/-- Whether a directive is more specific than another. -/
def Outranks (d e : Directive) : Prop := compare d.rank e.rank = .gt

theorem Outranks.trans {f : Directive} (first : Outranks d e) (second : Outranks e f) :
    Outranks d f :=
  Std.TransCmp.gt_trans first second

theorem Outranks.rank_ne (above : Outranks d e) : d.rank ≠ e.rank := by
  intro same
  rw [Outranks, Std.compare_eq_iff_eq.mpr same] at above
  cases above

instance : Std.Irrefl Outranks := ⟨fun _ above => above.rank_ne rfl⟩

instance : Std.Antisymm Outranks := ⟨fun _ _ above below => absurd rfl (above.trans below).rank_ne⟩

theorem mem_place_iff (ordered : placed.Pairwise Outranks) :
    e ∈ place d placed ↔ e = d ∨ e ∈ placed ∧ e.rank ≠ d.rank := by
  induction placed with
  | nil => simp only [place, List.mem_singleton, List.not_mem_nil, false_and, or_false]
  | cons f rest ih =>
      obtain ⟨first, later⟩ := List.pairwise_cons.mp ordered
      unfold place
      split
      · rename_i above
        have apart : e ∈ f :: rest → e.rank ≠ d.rank := by
          intro member
          rcases List.mem_cons.mp member with rfl | member
          · exact (Outranks.rank_ne above).symm
          · exact (Outranks.trans above (first e member)).rank_ne.symm
        rw [List.mem_cons, and_iff_left_of_imp apart]
      · rename_i same
        have rank : d.rank = f.rank := Std.compare_eq_iff_eq.mp same
        rw [List.mem_cons, List.mem_cons, rank, or_and_right]
        have apart : e ∈ rest → e.rank ≠ f.rank := fun member => (first e member).rank_ne.symm
        rw [and_iff_left_of_imp apart]
        refine or_congr_right (or_iff_right ?_).symm
        rintro ⟨rfl, other⟩
        exact other rfl
      · rename_i under
        have apart : f.rank ≠ d.rank := (Outranks.rank_ne (Std.OrientedCmp.gt_iff_lt.mpr under))
        rw [List.mem_cons, ih later, List.mem_cons, or_and_right, or_left_comm]
        refine or_congr_right (or_congr_left (and_iff_left_of_imp ?_).symm)
        rintro rfl
        exact apart

theorem pairwise_place (ordered : placed.Pairwise Outranks) (d : Directive) :
    (place d placed).Pairwise Outranks := by
  induction placed with
  | nil => exact List.pairwise_singleton _ d
  | cons f rest ih =>
      obtain ⟨first, later⟩ := List.pairwise_cons.mp ordered
      unfold place
      split
      · rename_i above
        have highest : ∀ g ∈ f :: rest, Outranks d g :=
          List.forall_mem_cons.mpr ⟨above, fun g member => Outranks.trans above (first g member)⟩
        exact List.pairwise_cons.mpr ⟨highest, ordered⟩
      · rename_i same
        have rank : d.rank = f.rank := Std.compare_eq_iff_eq.mp same
        refine List.pairwise_cons.mpr ⟨fun g member => ?_, later⟩
        rw [Outranks, rank]
        exact first g member
      · rename_i under
        refine List.pairwise_cons.mpr ⟨fun g member => ?_, ih later⟩
        rcases (mem_place_iff later).mp member with rfl | ⟨member, -⟩
        · exact Std.OrientedCmp.gt_iff_lt.mpr under
        · exact first g member

/-- Whether a directive counts among others: no later one has its rank. -/
def Counts (directives : List Directive) (d : Directive) : Prop :=
  ∃ before after, directives = before ++ d :: after ∧ ∀ e ∈ after, e.rank ≠ d.rank

theorem counts_concat_iff :
    Counts (directives ++ [d]) e ↔ e = d ∨ Counts directives e ∧ e.rank ≠ d.rank := by
  constructor
  · rintro ⟨before, after, shape, apart⟩
    rcases List.eq_nil_or_concat after with rfl | ⟨front, last, rfl⟩
    · exact .inl (List.singleton_inj.mp (List.append_inj_right' shape rfl)).symm
    · rw [List.concat_eq_append, ← List.cons_append, ← List.append_assoc] at shape
      obtain ⟨rfl, same⟩ := List.append_inj' shape rfl
      cases List.singleton_inj.mp same
      rw [List.concat_eq_append] at apart
      obtain ⟨others, other⟩ := List.forall_mem_append.mp apart
      exact .inr ⟨⟨before, front, rfl, others⟩, (List.forall_mem_singleton.mp other).symm⟩
  · rintro (rfl | ⟨⟨before, after, rfl, apart⟩, other⟩)
    · exact ⟨directives, [], rfl, List.forall_mem_nil _⟩
    · refine ⟨before, after ++ [d], by rw [List.append_assoc, List.cons_append], ?_⟩
      exact List.forall_mem_append.mpr ⟨apart, List.forall_mem_singleton.mpr other.symm⟩

/-- Those of some directives that count, in their order. -/
structure Ranked (directives ordered : List Directive) : Prop where
  order : ordered.Pairwise Outranks
  mem_iff : ∀ d, d ∈ ordered ↔ Counts directives d

theorem ranked_inOrder (directives : List Directive) : Ranked directives (inOrder directives) := by
  induction directives using List.reverseRecOn with
  | nil =>
      refine ⟨.nil, fun d => iff_of_false List.not_mem_nil ?_⟩
      rintro ⟨before, after, shape, -⟩
      exact List.append_ne_nil_of_right_ne_nil _ (List.cons_ne_nil d after) shape.symm
  | append_singleton front last ih =>
      have step : inOrder (front ++ [last]) = place last (inOrder front) := by
        rw [inOrder, List.foldl_concat, ← inOrder]
      rw [step]
      refine ⟨pairwise_place ih.order last, fun d => ?_⟩
      rw [mem_place_iff ih.order, ih.mem_iff, counts_concat_iff]

theorem ranked_iff : Ranked directives ordered ↔ inOrder directives = ordered := by
  have placed := ranked_inOrder directives
  constructor
  · intro ranked
    exact placed.order.eq_of_mem_iff ranked.order fun d =>
      (placed.mem_iff d).trans (ranked.mem_iff d).symm
  · rintro rfl
    exact placed

def pieces (text : String) : List (List Char) :=
  (text.toList.splitOn ',').filter (!·.isEmpty)

/-- The texts of filters that may be in force for a setting. -/
inductive Chosen (verbose : Bool) (setting : Option String) : String → Prop where
  | own {text : String} {directives static dynamic : List Directive} (given : setting = some text)
      (read : List.Forall₂ (fun piece d => Directive.ofText? piece = some d) (pieces text)
        directives)
      (outside : Ranked (directives.filter (!·.isDynamic) ++
        (directives.filter (·.isDynamic)).filter (·.isStatic)) static)
      (inside : Ranked (directives.filter (·.isDynamic)) dynamic) :
      Chosen verbose setting
        (String.ofList ([','].intercalate ((static ++ dynamic).map Directive.text)))
  | usual (unread : ∀ text, setting = some text →
        ∃ piece ∈ pieces text, Directive.ofText? piece = none) :
      Chosen verbose setting (if verbose then "info" else "warn")

theorem ofText?_eq_some_iff {text : String} {f : LogFilter} : ofText? text.toList = some f ↔
    ∃ directives, List.Forall₂ (fun piece d => Directive.ofText? piece = some d) (pieces text)
      directives ∧ ofDirectives directives = f := by
  simp only [ofText?, Option.map_eq_some_iff, Traced.mapM_eq_some_iff, pieces]

theorem ofText?_eq_none_iff {text : String} : ofText? text.toList = none ↔
    ∃ piece ∈ pieces text, Directive.ofText? piece = none := by
  constructor
  · intro unread
    by_contra sound
    have each : ∀ piece ∈ pieces text, ∃ d, Directive.ofText? piece = some d := fun piece member =>
      Option.ne_none_iff_exists'.mp fun failed => sound ⟨piece, member, failed⟩
    obtain ⟨directives, read⟩ := Traced.exists_mapM_eq_some_iff.mpr each
    rw [ofText?_eq_some_iff.mpr ⟨directives, Traced.mapM_eq_some_iff.mp read, rfl⟩] at unread
    cases unread
  · rintro ⟨piece, member, failed⟩
    refine Option.eq_none_iff_forall_ne_some.mpr fun f read => ?_
    obtain ⟨directives, each, -⟩ := ofText?_eq_some_iff.mp read
    obtain ⟨d, -, found⟩ := Traced.exists_of_forall₂ each.flip member
    rw [failed] at found
    cases found

/-- The filter of a setting is in force exactly if each piece of it can be read. -/
theorem choose_eq_iff {verbose : Bool} {setting : Option String} {text : String} :
    choose verbose setting = text ↔ Chosen verbose setting text := by
  constructor
  · rintro rfl
    unfold choose
    split
    · rename_i f found
      obtain ⟨text, given, read⟩ := Option.bind_eq_some_iff.mp found
      obtain ⟨directives, each, rfl⟩ := ofText?_eq_some_iff.mp read
      exact .own given each (ranked_inOrder _) (ranked_inOrder _)
    · rename_i unread
      refine .usual fun text given => ofText?_eq_none_iff.mp ?_
      rwa [given] at unread
  · intro chosen
    cases chosen with
    | own given read outside inside =>
        have whole := ofText?_eq_some_iff.mpr ⟨_, read, rfl⟩
        rw [choose, given, Option.bind_some, whole, ← ranked_iff.mp outside, ← ranked_iff.mp inside]
        rfl
    | usual unread =>
        have nothing : setting.bind (ofText? ·.toList) = none := by
          rw [Option.bind_eq_none_iff]
          exact fun text given => ofText?_eq_none_iff.mpr (unread text given)
        rw [choose, nothing]

/-- The last directive for a target is the one that counts, and the longer target comes first. -/
example : choose true (some "a=info,debug,a::b=warn,,a=error") = "a::b=warn,a=error,debug" := by
  decide

end BatchJob.LogFilter
