import BatchJob.Proofs.Assembly.Order
import BatchJob.Proofs.Script.Flags

set_option autoImplicit false

/-!
The machine of an assembled request. Its disks are those that the steps mount, each attached once.
Its scopes are those of the configuration and the one for the object storage, which is granted even
where the configuration lists it already, and then stands there twice.
-/

namespace BatchJob

/-- A list names all of the given items, each once, in the order in which they are first mentioned.
-/
structure FirstMentions (items names : List String) : Prop where
  mem_iff : ∀ name, name ∈ names ↔ name ∈ items
  once : names.Nodup
  ordered : names.Pairwise fun first second => items.idxOf first < items.idxOf second

theorem firstMentions_eraseDups (items : List String) : FirstMentions items items.eraseDups := by
  have ordered : items.eraseDups.Pairwise
      fun first second => items.idxOf first < items.idxOf second := by
    induction items using List.reverseRecOn with
    | nil => exact List.Pairwise.nil
    | append_singleton items name ih =>
        have earlier : items.eraseDups.Pairwise fun first second =>
            (items ++ [name]).idxOf first < (items ++ [name]).idxOf second := by
          refine ih.imp_of_mem fun inFirst inSecond less => ?_
          rwa [List.idxOf_append_of_mem (List.mem_eraseDups.mp inFirst),
            List.idxOf_append_of_mem (List.mem_eraseDups.mp inSecond)]
        rw [eraseDups_concat]
        by_cases known : name ∈ items
        · rwa [if_pos known]
        · rw [if_neg known]
          refine List.pairwise_append.mpr ⟨earlier, List.pairwise_singleton _ _, ?_⟩
          intro first member second last
          rw [List.mem_eraseDups] at member
          rw [List.mem_singleton.mp last, List.idxOf_append_of_mem member,
            List.idxOf_append_of_notMem known]
          exact Nat.lt_add_right _ (List.idxOf_lt_length_of_mem member)
  exact ⟨fun name => List.mem_eraseDups, nodup_eraseDups items, ordered⟩

namespace Assembly

def mentionedDisks (actions : List Action) : List String :=
  (actions.flatMap (·.mounts)).map (·.disk)

variable {c : Config} {h : Host} {r : Request} {p : Staging.Plan} {job : List Action}

theorem mem_mentionedDisks {actions : List Action} {name : String} :
    name ∈ mentionedDisks actions ↔ ∃ a ∈ actions, ∃ m ∈ a.mounts, m.disk = name := by
  simp only [mentionedDisks, List.mem_map, List.mem_flatMap]
  constructor
  · rintro ⟨m, ⟨a, step, mount⟩, same⟩
    exact ⟨a, step, m, mount, same⟩
  · rintro ⟨a, step, m, mount, same⟩
    exact ⟨m, ⟨a, step, mount⟩, same⟩

/-- Whose processes a step sees makes no difference to its mounts. -/
theorem mentionedDisks_inNamespace (actions : List Action) :
    mentionedDisks (actions.map (inNamespace c)) = mentionedDisks actions := by
  rw [mentionedDisks, List.flatMap_map]
  rfl

theorem names_disks (actions : List Action) :
    (machine c actions).disks.map (·.name) = (mentionedDisks actions).eraseDups := by
  change ((diskNames actions).map (diskNamed c)).map (·.name) = _
  rw [List.map_map]
  exact List.map_id _

/-- The step that makes directories mounts the working disk. -/
theorem mentionedDisks_arrange (planned : (Staging.plan c h).result = .ok p) (job : List Action) :
    ∃ later, mentionedDisks (arrange c p job) = workingDisk :: later := by
  rw [arrange_eq planned]
  exact ⟨_, rfl⟩

theorem sourceImage_diskNamed (name image : String) :
    (diskNamed c name).sourceImage = some image ↔
      name = workingDisk ∧ c.diskImage = some image ∧ image ≠ "" := by
  unfold diskNamed
  dsimp only
  split
  · next working => simp [working, Option.filter_eq_some_iff]
  · next other => simp [other]

/-- The disks of an assembled request are those that its steps mount, each once and in the order in
which they are first mentioned, the working disk as the first of them and the only one that starts
from the image of the configuration. -/
theorem disks_of_assemble (success : (assemble c h job).result = .ok r) :
    let disks := r.pipeline.resources.virtualMachine.disks
    FirstMentions (mentionedDisks r.pipeline.actions) (disks.map (·.name)) ∧
    (∀ a ∈ r.pipeline.actions, ∀ m ∈ a.mounts, ∃ d ∈ disks, d.name = m.disk) ∧
    (∀ d ∈ disks, ∃ a ∈ r.pipeline.actions, ∃ m ∈ a.mounts, m.disk = d.name) ∧
    (∃ first others, disks = first :: others ∧ first.name = workingDisk) ∧
    ∀ d ∈ disks, ∀ image, d.sourceImage = some image ↔
      d.name = workingDisk ∧ c.diskImage = some image ∧ image ≠ "" := by
  obtain ⟨plan, place, planned, -, rfl⟩ := parts_of_assemble success
  intro disks
  have mentions : mentionedDisks (build c plan job place).pipeline.actions =
      mentionedDisks (arrange c plan job) := by
    rw [actions_build, mentionedDisks_inNamespace]
  have names : disks.map (·.name) = (mentionedDisks (arrange c plan job)).eraseDups :=
    names_disks (arrange c plan job)
  have first := firstMentions_eraseDups (mentionedDisks (arrange c plan job))
  rw [← names, ← mentions] at first
  refine ⟨first, fun a step m mount => ?_, fun d attached => ?_, ?_, fun d attached image => ?_⟩
  · have mentioned := (first.mem_iff m.disk).mpr (mem_mentionedDisks.mpr ⟨a, step, m, mount, rfl⟩)
    exact List.mem_map.mp mentioned
  · have named := (first.mem_iff d.name).mp (List.mem_map_of_mem attached)
    exact mem_mentionedDisks.mp named
  · obtain ⟨later, begins⟩ := mentionedDisks_arrange planned job
    rw [begins, List.eraseDups_cons] at names
    cases shape : disks with
    | nil =>
        rw [shape] at names
        cases names
    | cons d others =>
        rw [shape, List.map_cons] at names
        exact ⟨d, others, rfl, (List.cons.inj names).1⟩
  · obtain ⟨name, -, rfl⟩ := List.mem_map.mp attached
    exact sourceImage_diskNamed name image

theorem disks_of_assemble_interleaved :
    let c : Config := { inputs := ["gs://b/x"], diskImage := some "refs", sharePids := true }
    let h : Host := ⟨fun _ => .error .notFound, .error .notFound, none⟩
    let job : List Action :=
      [{ imageUri := "a", mounts := [⟨"data", "/data", false⟩, .workingRoot] },
        { imageUri := "b", mounts := [⟨"refs", "/refs", true⟩, ⟨"data", "/again", false⟩] }]
    ∃ r, (assemble c h job).result = .ok r ∧
      r.pipeline.resources.virtualMachine.disks.map (·.name) = ["google", "data", "refs"] ∧
      FirstMentions (mentionedDisks r.pipeline.actions)
        (r.pipeline.resources.virtualMachine.disks.map (·.name)) := by
  intro c h job
  have assembled : ∃ r, (assemble c h job).result = .ok r ∧
      r.pipeline.resources.virtualMachine.disks.map (·.name) = ["google", "data", "refs"] := by
    refine ⟨_, rfl, ?_⟩
    change (machine c (arrange c _ job)).disks.map (·.name) = _
    rw [names_disks, arrange_eq (h := h) rfl]
    decide
  obtain ⟨r, assembled, names⟩ := assembled
  exact ⟨r, assembled, names, (disks_of_assemble assembled).1⟩

/-- The scopes that a machine is granted are those that are configured, in their order, and the one
for the object storage, each of them once. -/
structure GrantsOnce (configured granted : List String) : Prop where
  storage : granted.count storageScope = 1
  once : ∀ scope ∈ configured, granted.count scope = 1
  ordered : configured.Sublist granted
  only : ∀ scope ∈ granted, scope ∈ configured ∨ scope = storageScope

/-- The step that makes directories runs in the image of the cloud tools, so whatever else is done,
the object storage is used. -/
theorem scopesFor_arrange (planned : (Staging.plan c h).result = .ok p) (job : List Action) :
    scopesFor c (arrange c p job) = c.scopes ++ [storageScope] := by
  have used : (arrange c p job).any (usesStorage c) = true := by
    rw [arrange_eq planned, List.any_eq_true]
    refine ⟨_, List.mem_cons_self, ?_⟩
    rw [usesStorage, Bool.or_eq_true]
    exact .inl (beq_self_eq_true c.cloudSdkImage)
  rw [scopesFor, if_pos used]

theorem count_concat_storageScope {configured : List String} (distinct : configured.Nodup) :
    (configured ++ [storageScope]).count storageScope =
      if storageScope ∈ configured then 2 else 1 := by
  rw [List.count_append, List.count_singleton_self, distinct.count]
  split <;> rfl

theorem grantsOnce_concat_iff {configured : List String} (distinct : configured.Nodup) :
    GrantsOnce configured (configured ++ [storageScope]) ↔ storageScope ∉ configured := by
  have count := count_concat_storageScope distinct
  constructor
  · intro grants listed
    rw [if_pos listed] at count
    have one := grants.storage
    omega
  · intro unlisted
    rw [if_neg unlisted] at count
    refine ⟨count, fun scope member => ?_, List.sublist_append_left _ _, fun scope granted => ?_⟩
    · have other : scope ≠ storageScope := ne_of_mem_of_not_mem member unlisted
      rw [List.count_append, List.count_eq_one_of_mem distinct member,
        List.count_singleton, if_neg (by simpa using other.symm)]
    · rcases List.mem_append.mp granted with member | last
      · exact .inl member
      · exact .inr (List.mem_singleton.mp last)

/-- An assembled request is granted the scopes of its configuration and then always the one for the
object storage. Where the configuration does not repeat a scope, each is granted once exactly if the
one for the object storage is not among them; if it is, then it is granted twice. -/
theorem grantsOnce_iff (success : (assemble c h job).result = .ok r)
    (distinct : c.scopes.Nodup) :
    let granted := r.pipeline.resources.virtualMachine.serviceAccount.scopes
    granted = c.scopes ++ [storageScope] ∧
    granted.count storageScope = (if storageScope ∈ c.scopes then 2 else 1) ∧
    (GrantsOnce c.scopes granted ↔ storageScope ∉ c.scopes) := by
  obtain ⟨plan, place, planned, -, rfl⟩ := parts_of_assemble success
  intro granted
  have scopes : granted = c.scopes ++ [storageScope] := scopesFor_arrange planned job
  rw [scopes]
  exact ⟨rfl, count_concat_storageScope distinct, grantsOnce_concat_iff distinct⟩

theorem grantsOnce_other :
    let c : Config := { scopes := ["https://www.googleapis.com/auth/bigquery"] }
    let h : Host := ⟨fun _ => .error .notFound, .error .notFound, none⟩
    ∃ r, (assemble c h []).result = .ok r ∧ c.scopes.Nodup ∧
      GrantsOnce c.scopes r.pipeline.resources.virtualMachine.serviceAccount.scopes := by
  intro c h
  have assembled : ∃ r, (assemble c h []).result = .ok r := ⟨_, rfl⟩
  have distinct : c.scopes.Nodup := by decide
  obtain ⟨r, assembled⟩ := assembled
  obtain ⟨-, -, once⟩ := grantsOnce_iff assembled distinct
  exact ⟨r, assembled, distinct, once.mpr (by decide)⟩

/-- A configuration that lists the scope for the object storage has it granted twice. -/
theorem not_grantsOnce_listed :
    let c : Config := { scopes := [storageScope] }
    let h : Host := ⟨fun _ => .error .notFound, .error .notFound, none⟩
    ∃ r, (assemble c h []).result = .ok r ∧ c.scopes.Nodup ∧
      ¬ GrantsOnce c.scopes r.pipeline.resources.virtualMachine.serviceAccount.scopes := by
  intro c h
  refine ⟨_, rfl, by decide, fun grants => ?_⟩
  have once : (scopesFor c (arrange c _ [])).count storageScope = 1 := grants.storage
  rw [scopesFor_arrange (h := h) rfl] at once
  exact absurd once (by decide)

end Assembly

end BatchJob
