import BatchJob.Proofs.Staging.Uploads

set_option autoImplicit false

/-!
When no plan can be made: a local input cannot be read, or an output lies in no bucket. The first
such entry is reported, and inputs are looked at before outputs. Otherwise each local input is sent
along once, and each output is brought back once.
-/

namespace BatchJob.Staging

variable {c : Config} {h : Host} {p : Plan}

/-- Whether an input is a local file that cannot be read. -/
def Unreadable (h : Host) (s : Specifier) : Prop :=
  s.bucket? = none ∧ ∃ fault, h.file (String.ofList s.base) = .error fault

/-- The error for the first entry that cannot be staged, with the path of the entry. -/
inductive Refused (c : Config) (h : Host) : ConfigError → Prop where
  | input {before after : List Specifier} {s : Specifier} {fault : InputFault}
      (given : Specifier.parseList "INPUT" c.inputs = before ++ s :: after)
      (readable : ∀ t ∈ before, ¬ Unreadable h t) (here : s.bucket? = none)
      (unread : h.file (String.ofList s.base) = .error fault) :
      Refused c h (.specifier s.path (.unreadable fault))
  | output {before after : List Specifier} {s : Specifier}
      (readable : ∀ t ∈ Specifier.parseList "INPUT" c.inputs, ¬ Unreadable h t)
      (asked : Specifier.parseList "OUTPUT" c.outputs = before ++ s :: after)
      (stored : ∀ t ∈ before, t.bucket? ≠ none) (here : s.bucket? = none) :
      Refused c h (.specifier s.path .outputNotStorage)

theorem stageInput_eq_error_iff {s : Specifier} {e : ConfigError} :
    (stageInput c h s).result = .error e ↔ s.bucket? = none ∧
      ∃ fault, h.file (String.ofList s.base) = .error fault ∧
        e = .specifier s.path (.unreadable fault) := by
  unfold stageInput
  cases s.bucket? with
  | some bucket =>
      refine iff_of_false ?_ fun ⟨remote, _⟩ => nomatch remote
      dsimp only
      split <;> intro failed <;> cases failed
  | none =>
      rw [Traced.result_bind]
      change (h.file (String.ofList s.base)).mapError _ >>= _ = _ ↔ _
      cases h.file (String.ofList s.base) with
      | error fault =>
          constructor
          · intro failed
            cases failed
            exact ⟨rfl, fault, rfl, rfl⟩
          · rintro ⟨-, other, same, rfl⟩
            cases same
            rfl
      | ok bytes =>
          refine iff_of_false (fun failed => nomatch failed) ?_
          rintro ⟨-, fault, read, -⟩
          cases read

theorem stageInput_eq_ok_iff {s : Specifier} :
    (∃ input, (stageInput c h s).result = .ok input) ↔ ¬ Unreadable h s := by
  cases staged : (stageInput c h s).result with
  | ok input =>
      refine iff_of_true ⟨input, rfl⟩ ?_
      rintro ⟨here, fault, unread⟩
      have failed := stageInput_eq_error_iff (c := c).mpr ⟨here, fault, unread, rfl⟩
      rw [staged] at failed
      cases failed
  | error e =>
      obtain ⟨here, fault, unread, -⟩ := stageInput_eq_error_iff.mp staged
      exact iff_of_false (fun ⟨_, success⟩ => nomatch success) fun readable =>
        readable ⟨here, fault, unread⟩

theorem stageOutput_eq_error_iff {s : Specifier} {e : ConfigError} :
    stageOutput c s = .error e ↔
      s.bucket? = none ∧ e = .specifier s.path .outputNotStorage := by
  unfold stageOutput
  cases s.bucket? with
  | some bucket =>
      exact iff_of_false (fun failed => nomatch failed) fun ⟨remote, _⟩ => nomatch remote
  | none =>
      constructor
      · intro failed
        cases failed
        exact ⟨rfl, rfl⟩
      · rintro ⟨-, rfl⟩
        rfl

theorem stageOutput_eq_ok_iff {s : Specifier} :
    (∃ output, stageOutput c s = .ok output) ↔ s.bucket? ≠ none := by
  unfold stageOutput
  cases s.bucket? with
  | some bucket => exact iff_of_true ⟨_, rfl⟩ (Option.some_ne_none _)
  | none => exact iff_of_false (fun ⟨_, success⟩ => nomatch success) fun stored => stored rfl

/-- A plan comes to what its inputs come to, and then to what its outputs come to. -/
theorem result_plan (c : Config) (h : Host) : (plan c h).result = do
    let inputs ← (Specifier.parseList "INPUT" c.inputs).mapM fun s => (stageInput c h s).result
    let outputs ← (Specifier.parseList "OUTPUT" c.outputs).mapM (stageOutput c)
    return Plan.ofStaged c inputs outputs := by
  unfold plan
  rw [Traced.result_bind, Traced.result_mapM]
  simp only [Traced.result_bind]
  rfl

theorem refused_iff {e : ConfigError} : Refused c h e ↔
    Traced.FirstError (fun s => (stageInput c h s).result)
      (Specifier.parseList "INPUT" c.inputs) e ∨
    (∀ s ∈ Specifier.parseList "INPUT" c.inputs, ∃ input, (stageInput c h s).result = .ok input) ∧
      Traced.FirstError (stageOutput c) (Specifier.parseList "OUTPUT" c.outputs) e := by
  simp only [Traced.FirstError, stageInput_eq_ok_iff, stageInput_eq_error_iff,
    stageOutput_eq_ok_iff, stageOutput_eq_error_iff]
  constructor
  · intro refused
    cases refused with
    | input given readable here unread =>
        exact .inl ⟨_, _, _, given, readable, here, _, unread, rfl⟩
    | output readable asked stored here =>
        exact .inr ⟨readable, _, _, _, asked, stored, here, rfl⟩
  · rintro (⟨before, s, after, given, readable, here, fault, unread, rfl⟩ |
      ⟨readable, before, s, after, asked, stored, here, rfl⟩)
    · exact .input given readable here unread
    · exact .output readable asked stored here

theorem plan_eq_error_iff {e : ConfigError} : (plan c h).result = .error e ↔ Refused c h e := by
  have sound (p : Plan) : (pure p : Except ConfigError Plan) ≠ .error e :=
    fun failed => nomatch failed
  rw [result_plan, refused_iff]
  simp only [Traced.bind_eq_error_iff, Traced.mapM_eq_error_iff, sound, and_false, exists_false,
    or_false, exists_and_right, Traced.exists_mapM_eq_ok_iff]

/-- Whether there is an entry that cannot be staged. -/
theorem exists_refused_iff : (∃ e, Refused c h e) ↔
    (∃ s ∈ Specifier.parseList "INPUT" c.inputs, Unreadable h s) ∨
      ∃ s ∈ Specifier.parseList "OUTPUT" c.outputs, s.bucket? = none := by
  simp only [refused_iff, exists_or, exists_and_left, Traced.exists_firstError_iff,
    stageInput_eq_ok_iff, stageOutput_eq_ok_iff, not_not, ne_eq]
  by_cases readable : ∀ s ∈ Specifier.parseList "INPUT" c.inputs, ¬ Unreadable h s
  · rw [and_iff_right readable]
  · have unread : ∃ s ∈ Specifier.parseList "INPUT" c.inputs, Unreadable h s := by
      simpa only [not_forall, not_not, exists_prop] using readable
    exact iff_of_true (.inl unread) (.inl unread)

/-- The step that brings an output back. -/
def collecting (c : Config) (s : Specifier) : Action :=
  let source := Transfer.sourceOf s.glob (s.targetUnder outputRoot)
  { imageUri := c.cloudSdkImage, entrypoint := some "bash",
    commands := ["-c", String.ofList (Text.unwords (Transfer.copyWords s.glob source s.base))],
    mounts := [{ disk := "google", path := "/mnt/google" }] }

/-- Of the steps before a job, those that send something along are those of the local inputs. -/
theorem filter_sends_localizers (planned : (plan c h).result = .ok p) :
    List.Forall₂ (Uploads c h)
      ((Specifier.parseList "INPUT" c.inputs).filter (·.bucket?.isNone))
      (p.localizers.filter Transfer.sends) := by
  obtain ⟨inputs, outputs, read, -, rfl⟩ := parts_of_plan planned
  have steps : (Plan.ofStaged c inputs outputs).localizers.filter Transfer.sends =
      (inputs.filterMap Staged.action?).filter Transfer.sends := by
    rw [Plan.ofStaged, List.filter_append]
    refine (congrArg (_ ++ ·) (List.filter_eq_nil_iff.mpr fun step member => ?_)).trans
      (List.append_nil _)
    obtain ⟨entry, -, mounts⟩ := List.mem_flatMap.mp member
    exact Bool.eq_false_iff.mp (Transfer.sends_mountBucket mounts)
  rw [steps]
  exact filter_sends_of_staged (read.imp fun s input => stagedInput_of_stageInput)

theorem actions_of_collected {specifiers : List Specifier} {outputs : List Staged}
    (collected : List.Forall₂ (fun s output => stageOutput c s = .ok output) specifiers outputs) :
    outputs.filterMap Staged.action? = specifiers.map (collecting c) := by
  induction collected with
  | nil => rfl
  | cons first later ih =>
      rw [staged_of_stageOutput first, Transfer.copy_eq, List.map_cons, ← ih]
      rfl

theorem delocalizers_eq (planned : (plan c h).result = .ok p) :
    p.delocalizers = (Specifier.parseList "OUTPUT" c.outputs).map (collecting c) ++
      (c.output.map (logging c)).toList := by
  have log : finalLogCopy c = logging c := funext (finalLogCopy_eq c)
  obtain ⟨inputs, outputs, -, collected, rfl⟩ := parts_of_plan planned
  rw [← log]
  exact congrArg (· ++ _) (actions_of_collected collected)

end BatchJob.Staging
