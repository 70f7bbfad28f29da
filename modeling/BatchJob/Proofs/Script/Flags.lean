import BatchJob.Proofs.Json.General
import BatchJob.Proofs.Json.Members
import BatchJob.Proofs.Script.Document
import BatchJob.Proofs.Text.Words
import BatchJob.Proofs.Trace
import Mathlib.Data.List.Induction

set_option autoImplicit false

/-!
The flags of described steps. A line of a script gives its step each flag once, in the order in
which the flags are first asked for; a step in JSON has its flags as they are listed, repeated or
not.
-/

namespace BatchJob

theorem eraseDups_concat {α : Type} [DecidableEq α] (items : List α) (a : α) :
    (items ++ [a]).eraseDups = if a ∈ items then items.eraseDups else items.eraseDups ++ [a] := by
  rw [List.eraseDups_append]
  by_cases member : a ∈ items <;> simp [List.removeAll, List.eraseDups_cons, member]

theorem nodup_eraseDups {α : Type} [DecidableEq α] (items : List α) : items.eraseDups.Nodup := by
  induction items using List.reverseRecOn with
  | nil => exact List.nodup_nil
  | append_singleton items a ih =>
      rw [eraseDups_concat]
      split
      · exact ih
      · next new =>
        refine List.nodup_append.mpr ⟨ih, List.pairwise_singleton _ a, ?_⟩
        intro b earlier c last same
        rw [List.mem_eraseDups, same, List.mem_singleton.mp last] at earlier
        exact new earlier

theorem Action.flags_foldl_addFlag {a : Action} (plain : a.flags = []) (flags : List Flag) :
    (flags.foldl addFlag a).flags = flags.eraseDups := by
  induction flags using List.reverseRecOn with
  | nil => exact plain
  | append_singleton flags flag ih =>
      rw [List.foldl_append, List.foldl_cons, List.foldl_nil, addFlag, ih, eraseDups_concat]
      simp only [List.mem_eraseDups]
      split
      · exact ih
      · rfl

namespace Script

variable {images : Images}

def flagOf? (option : List Char) : Option Flag :=
  if '=' ∈ option then none else Flag.ofName? (String.ofList (Text.upper option))

/-- The flags that a line asks for: by its options in their order, and by an `&` after its words. -/
def askedFlags (line : List Char) : List Flag :=
  let (command, comment) := (Text.cut '#' line).getD (line, [])
  (Text.words comment).filterMap flagOf? ++
    if (Text.words command).getLast? = some ['&'] then [.runInBackground] else []

theorem flags_of_add {o added : Options} {option : List Char}
    (success : o.add option = .ok added) : added.flags = o.flags ++ (flagOf? option).toList := by
  unfold Options.add at success
  cases parts : Text.cut '=' option with
  | some setting =>
      have marked : '=' ∈ option := by
        by_contra unmarked
        rw [Text.cut_eq_none_iff.mpr unmarked] at parts
        cases parts
      rw [parts] at success
      cases success
      rw [flagOf?, if_pos marked]
      exact (List.append_nil _).symm
  | none =>
      rw [parts] at success
      rw [flagOf?, if_neg (Text.cut_eq_none_iff.mp parts)]
      cases known : Flag.ofName? (String.ofList (Text.upper option)) with
      | none =>
          simp only [Flag.parse, known] at success
          cases success
      | some flag =>
          simp only [Flag.parse, known] at success
          cases success
          rfl

theorem flags_of_foldlM_add {o added : Options} {options : List (List Char)}
    (success : options.foldlM Options.add o = .ok added) :
    added.flags = o.flags ++ options.filterMap flagOf? := by
  induction options generalizing o with
  | nil =>
      cases success
      exact (List.append_nil _).symm
  | cons option rest ih =>
      rw [List.foldlM_cons] at success
      obtain ⟨next, first, success⟩ := Traced.bind_eq_ok_iff.mp success
      rw [ih success, flags_of_add first, List.filterMap_cons, List.append_assoc]
      cases flagOf? option <;> rfl

theorem flags_of_buildAction {tokens : List (List Char)} {flags : List Flag}
    {settings : Dict (List Char)} {a : Action}
    (success : buildAction images tokens flags settings = .ok a) : a.flags = flags.eraseDups := by
  unfold buildAction at success
  obtain ⟨timeout, -, success⟩ := Traced.bind_eq_ok_iff.mp success
  obtain ⟨ports, -, success⟩ := Traced.bind_eq_ok_iff.mp success
  cases success
  exact Action.flags_foldl_addFlag rfl flags

theorem flags_of_step {tokens : List (List Char)} {flags : List Flag}
    {settings : Dict (List Char)} {a : Action}
    (success : (if tokens.isEmpty && flags.isEmpty then pure none
      else do return some (← buildAction images tokens flags settings)) =
        (.ok (some a) : Except ParseFault (Option Action))) : a.flags = flags.eraseDups := by
  split at success
  · cases success
  · obtain ⟨action, built, success⟩ := Traced.bind_eq_ok_iff.mp success
    cases success
    exact flags_of_buildAction built

/-- The step of a line has the flags that the line asks for, each at its first mention. -/
theorem flags_of_parseLine {line : List Char} {a : Action}
    (success : parseLine images line = .ok (some a)) : a.flags = (askedFlags line).eraseDups := by
  unfold parseLine at success
  unfold askedFlags
  generalize (Text.cut '#' line).getD (line, []) = parts at success ⊢
  obtain ⟨command, comment⟩ := parts
  dsimp only at success ⊢
  obtain ⟨options, read, success⟩ := Traced.bind_eq_ok_iff.mp success
  have listed : options.flags = (Text.words comment).filterMap flagOf? := flags_of_foldlM_add read
  rw [← listed]
  by_cases background : (Text.words command).getLast? = some ['&']
  · simp only [background, beq_self_eq_true, if_true] at success ⊢
    exact flags_of_step success
  · have foreground : ((Text.words command).getLast? == some ['&']) = false :=
      beq_eq_false_iff_ne.mpr background
    simp only [foreground, background, Bool.false_eq_true, if_false, List.append_nil]
      at success ⊢
    exact flags_of_step success

theorem exists_line_of_parse {text : List Char} {actions : List Action}
    (success : parse images text = .ok actions) :
    ∀ a ∈ actions, ∃ line ∈ logicalLines 0 [] (Text.lines text),
      parseLine images line.2 = .ok (some a) := by
  unfold parse at success
  obtain ⟨steps, read, success⟩ := Traced.bind_eq_ok_iff.mp success
  cases success
  intro a member
  obtain ⟨step, present, same⟩ := List.mem_filterMap.mp member
  obtain ⟨line, within, parsed⟩ := Traced.exists_of_forall₂
    (Traced.forall_of_mapM_except read) present
  cases result : parseLine images line.2 with
  | error fault =>
      rw [parseNumbered, result] at parsed
      cases parsed
  | ok found =>
      rw [parseNumbered, result] at parsed
      cases parsed
      cases same
      exact ⟨line, within, result⟩

end Script

/-- The name that stands for a flag: a text, or the name of the only member of an object. -/
def flagName? : Json → Option String
  | .string name => name
  | .object [(name, .null)] => name
  | _ => none

theorem Flag.flagName?_of_ofJson? {j : Json} {flag : Flag} (read : ofJson? j = some flag) :
    flagName? j = some flag.name := by
  have known {name : String} (here : ofName? name = some flag) : name = flag.name := by
    unfold ofName? at here
    split at here
    · cases here
      assumption
    · split at here
      · cases here
        assumption
      · split at here
        · cases here
          assumption
        · cases here
  unfold ofJson? at read
  split at read
  · exact congrArg some (known read)
  · exact congrArg some (known read)
  · cases read

theorem Flag.names_of_forall₂ {items : List Json} {flags : List Flag}
    (each : List.Forall₂ (fun j flag => ofJson? j = some flag) items flags) :
    flags.map name = items.filterMap flagName? := by
  induction each with
  | nil => rfl
  | cons first later ih =>
      rw [List.map_cons, List.filterMap_cons_some (flagName?_of_ofJson? first), ih]

def flagsIn (step : Json) : List String :=
  ((step.field? "flags" 3).elim [] Json.items).filterMap flagName?

def stepsOf (request : Json) : List Json :=
  ((request.field? "pipeline" 0).bind (Json.field? "actions" 0)).elim [] Json.items

theorem forall₂_of_optional_list {α : Type} {read : Json → Option α} {f : Json.Fields}
    {name : String} {results : List α}
    (success : f.optional name [] (Json.list? read) = some results) :
    List.Forall₂ (fun j a => read j = some a) ((f.find? name).elim [] Json.items) results := by
  unfold Json.Fields.optional at success
  cases here : f.find? name with
  | none =>
      rw [here] at success
      cases success
      exact .nil
  | some j =>
      rw [here] at success
      cases j with
      | array items => exact Traced.mapM_eq_some_iff.mp success
      | null | bool | number | string | object => cases success

/-- A step has the flags that its JSON lists, each as often as it is listed. -/
theorem Action.flags_of_ofJson? {step : Json} {a : Action} (read : ofJson? step = some a) :
    a.flags.map Flag.name = flagsIn step := by
  simp only [ofJson?, Option.bind_eq_bind, Option.bind_eq_some_iff, Option.some.injEq] at read
  obtain ⟨f, opened, image, -, entrypoint, -, commands, -, flags, listed, rest⟩ := read
  obtain ⟨mounts, -, ports, -, timeout, -, processes, -, rfl⟩ := rest
  have each := forall₂_of_optional_list listed
  rw [Json.find?_of_fields? opened (by decide)] at each
  exact Flag.names_of_forall₂ each

theorem Request.forall₂_of_ofJson? {j : Json} {r : Request} (read : ofJson? j = some r) :
    List.Forall₂ (fun step a => Action.ofJson? step = some a) (stepsOf j) r.pipeline.actions := by
  simp only [ofJson?, Option.bind_eq_bind, Option.bind_eq_some_iff, Option.some.injEq] at read
  obtain ⟨f, opened, pipeline, within, labels, -, rfl⟩ := read
  obtain ⟨inner, here, read⟩ := Option.bind_eq_some_iff.mp within
  simp only [Pipeline.ofJson?, Option.bind_eq_bind, Option.bind_eq_some_iff, Option.some.injEq]
    at read
  obtain ⟨g, entered, actions, listed, environment, -, resources, -, timeout, -, rfl⟩ := read
  have each := forall₂_of_optional_list listed
  rw [Json.find?_of_fields? opened (by decide)] at here
  rw [Json.find?_of_fields? entered (by decide)] at each
  have place : j.field? "pipeline" 0 = some inner := here
  rw [stepsOf, place]
  exact each

namespace Script

def Job.steps : Job → List Action
  | .request r => r.pipeline.actions
  | .actions steps => steps

def stepsIn (text : String) : List Json :=
  match (Json.parse? text).bind (Json.settle? maxLevels) with
  | some (.array items) => items
  | some j => stepsOf j
  | none => []

variable {images : Images} {text : String} {job : Job}

theorem forall₂_of_readJson? (read : readJson? text = some job) :
    List.Forall₂ (fun step a => Action.ofJson? step = some a) (stepsIn text) job.steps := by
  unfold readJson? at read
  unfold stepsIn
  split at read
  · next members settled =>
    obtain ⟨r, request, rfl⟩ := Option.map_eq_some_iff.mp read
    rw [settled]
    exact Request.forall₂_of_ofJson? request
  · next items settled =>
    obtain ⟨actions, listed, rfl⟩ := Option.map_eq_some_iff.mp read
    rw [settled]
    exact Traced.mapM_eq_some_iff.mp listed
  · cases read

theorem flags_of_readJson? (read : readJson? text = some job) :
    job.steps.map (fun a => a.flags.map Flag.name) = (stepsIn text).map flagsIn := by
  have each := forall₂_of_readJson? read
  generalize stepsIn text = items at each
  generalize job.steps = steps at each
  clear read
  induction each with
  | nil => rfl
  | cons first later ih =>
      rw [List.map_cons, List.map_cons, ih, Action.flags_of_ofJson? first]

/-- No step that a text describes in JSON lists a flag twice. -/
def FlagsOnce (text : String) : Prop :=
  readJson? text = none ∨ ∀ step ∈ stepsIn text, (flagsIn step).Nodup

theorem nodup_names_iff {flags : List Flag} : (flags.map Flag.name).Nodup ↔ flags.Nodup := by
  have named (flag : Flag) : Flag.ofName? flag.name = some flag := flag.ofJson?_toJson
  have injective : Function.Injective Flag.name := by
    intro a b same
    have known := congrArg Flag.ofName? same
    rw [named, named] at known
    exact Option.some.inj known
  exact List.nodup_map_iff injective

/-- The step of a script comes from one of its lines. -/
theorem flags_of_script (parsed : parseDocument images text = .ok job)
    (script : readJson? text = none) :
    ∀ a ∈ job.steps, ∃ line ∈ logicalLines 0 [] (Text.lines text.toList),
      parseLine images line.2 = .ok (some a) ∧ a.flags = (askedFlags line.2).eraseDups := by
  rw [parseDocument, script] at parsed
  cases read : parse images text.toList with
  | error e =>
      rw [read] at parsed
      cases parsed
  | ok actions =>
      rw [read] at parsed
      cases parsed
      intro a member
      obtain ⟨line, within, result⟩ := exists_line_of_parse read a member
      exact ⟨line, within, result, flags_of_parseLine result⟩

theorem nodup_steps_iff (parsed : parseDocument images text = .ok job) :
    (∀ a ∈ job.steps, a.flags.Nodup) ↔ FlagsOnce text := by
  cases read : readJson? text with
  | none =>
      refine iff_of_true (fun a member => ?_) (.inl read)
      obtain ⟨line, -, -, flags⟩ := flags_of_script parsed read a member
      rw [flags]
      exact nodup_eraseDups _
  | some described =>
      have same : described = job := by
        rw [parseDocument, read] at parsed
        exact Except.ok.inj parsed
      subst described
      have listed : (∀ names ∈ job.steps.map fun a => a.flags.map Flag.name, names.Nodup) ↔
          ∀ names ∈ (stepsIn text).map flagsIn, names.Nodup := by
        rw [flags_of_readJson? read]
      simp only [List.forall_mem_map, nodup_names_iff] at listed
      rw [listed, FlagsOnce, read]
      simp

end Script

end BatchJob
