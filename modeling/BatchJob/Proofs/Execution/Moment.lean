import BatchJob.Execution.Controller

set_option autoImplicit false

/-!
What the steps of a run tell about it, to one who knows how the outside answers: how many calls of
each kind were made, and whether the token is cancelled. Every operation of a run is then described
by the steps that it makes.
-/

namespace BatchJob

namespace Step

def submitted? : Step → Option Request
  | submit request => some request
  | _ => none

def waited? : Step → Option String
  | wait operation _ => some operation
  | _ => none

def cancelled? : Step → Option String
  | cancel operation => some operation
  | _ => none

def isLog : Step → Bool
  | log .. => true
  | _ => false

end Step

namespace Steps

def submissions (steps : List Step) : List Request := steps.filterMap Step.submitted?

def waits (steps : List Step) : List String := steps.filterMap Step.waited?

def cancels (steps : List Step) : List String := steps.filterMap Step.cancelled?

def Logs (steps : List Step) : Prop := ∀ s ∈ steps, s.isLog = true

@[simp] theorem submissions_append (first second : List Step) :
    submissions (first ++ second) = submissions first ++ submissions second :=
  List.filterMap_append

@[simp] theorem waits_append (first second : List Step) :
    waits (first ++ second) = waits first ++ waits second :=
  List.filterMap_append

@[simp] theorem cancels_append (first second : List Step) :
    cancels (first ++ second) = cancels first ++ cancels second :=
  List.filterMap_append

@[simp] theorem submissions_cons (s : Step) (steps : List Step) :
    submissions (s :: steps) = s.submitted?.toList ++ submissions steps := by
  cases s <;> rfl

@[simp] theorem waits_cons (s : Step) (steps : List Step) :
    waits (s :: steps) = s.waited?.toList ++ waits steps := by
  cases s <;> rfl

@[simp] theorem cancels_cons (s : Step) (steps : List Step) :
    cancels (s :: steps) = s.cancelled?.toList ++ cancels steps := by
  cases s <;> rfl

/-- What holds of every line of the log holds of all steps that are nothing else. -/
theorem Logs.forall_mem {P : Step → Prop} {steps : List Step} (quiet : Logs steps)
    (log : ∀ level message, P (.log level message)) : ∀ s ∈ steps, P s := by
  intro s member
  cases s with
  | log level message => exact log level message
  | _ => cases quiet _ member

theorem Logs.filterMap_eq {α : Type} (read : Step → Option α)
    (unread : ∀ level message, read (.log level message) = none) {steps : List Step}
    (quiet : Logs steps) : steps.filterMap read = [] :=
  List.filterMap_eq_nil_iff.mpr (quiet.forall_mem unread)

theorem Logs.submissions_eq {steps : List Step} (quiet : Logs steps) : submissions steps = [] :=
  quiet.filterMap_eq _ fun _ _ => rfl

theorem Logs.waits_eq {steps : List Step} (quiet : Logs steps) : waits steps = [] :=
  quiet.filterMap_eq _ fun _ _ => rfl

theorem Logs.cancels_eq {steps : List Step} (quiet : Logs steps) : cancels steps = [] :=
  quiet.filterMap_eq _ fun _ _ => rfl

/-- Every step stands in a given relation to the steps before and after it. -/
def Everywhere (P : List Step → Step → List Step → Prop) (steps : List Step) : Prop :=
  ∀ before s after, steps = before ++ s :: after → P before s after

theorem everywhere_nil (P : List Step → Step → List Step → Prop) : Everywhere P [] := by
  intro before s after split
  cases before <;> cases split

theorem everywhere_cons (P : List Step → Step → List Step → Prop) (s : Step) (rest : List Step) :
    Everywhere P (s :: rest) ↔
      P [] s rest ∧ Everywhere (fun before x after => P (s :: before) x after) rest := by
  constructor
  · intro all
    refine ⟨all [] s rest rfl, ?_⟩
    intro before x after split
    exact all (s :: before) x after (congrArg (s :: ·) split)
  · rintro ⟨head, tail⟩ before x after split
    cases before with
    | nil =>
        cases split
        exact head
    | cons y before =>
        cases split
        exact tail before x after rfl

theorem everywhere_append (P : List Step → Step → List Step → Prop) (first second : List Step) :
    Everywhere P (first ++ second) ↔
      Everywhere (fun before x after => P before x (after ++ second)) first ∧
        Everywhere (fun before x after => P (first ++ before) x after) second := by
  induction first generalizing P with
  | nil => exact ⟨fun all => ⟨everywhere_nil _, all⟩, fun both => both.2⟩
  | cons s rest ih => rw [List.cons_append, everywhere_cons, ih, everywhere_cons, and_assoc]; rfl

theorem everywhere_of_forall {P : List Step → Step → List Step → Prop} {steps : List Step}
    (all : ∀ s ∈ steps, ∀ before after, P before s after) : Everywhere P steps := by
  intro before s after split
  exact all s (split ▸ List.mem_append_cons_self) before after

/-- A step of two lists of steps is one of the first or one of the second. -/
theorem split_append {first second before after : List Step} {s : Step}
    (split : first ++ second = before ++ s :: after) :
    (∃ since, first = before ++ s :: since ∧ after = since ++ second) ∨
      ∃ begun, before = first ++ begun ∧ second = begun ++ s :: after := by
  let P (before : List Step) (s : Step) (after : List Step) : Prop :=
    (∃ since, first = before ++ s :: since ∧ after = since ++ second) ∨
      ∃ begun, before = first ++ begun ∧ second = begun ++ s :: after
  have both : Everywhere P (first ++ second) := by
    rw [everywhere_append]
    constructor
    · intro before s since opens
      exact .inl ⟨since, opens, rfl⟩
    · intro begun s after closes
      exact .inr ⟨begun, rfl, closes⟩
  exact both before s after split

theorem Logs.append {first second : List Step} (left : Logs first) (right : Logs second) :
    Logs (first ++ second) := by
  intro s member
  rcases List.mem_append.mp member with inFirst | inSecond
  · exact left s inFirst
  · exact right s inSecond

end Steps

/--
How far a run has come, as it is seen from the outside. What happens to the token during a wait
counts with the step that begins the wait.
-/
structure Moment where
  submits : Nat
  waits : Nat
  cancels : Nat
  /-- Whether the token is cancelled. -/
  isCancelled : Bool
  /-- The steps so far, the latest first. -/
  history : List Step

namespace Moment

def next (w : World) (m : Moment) (s : Step) : Moment :=
  match s with
  | .submit request =>
    { m with
      submits := m.submits + 1
      isCancelled := m.isCancelled || (w.submit m.submits request).cancelled.isSome
      history := s :: m.history }
  | .wait operation _ =>
    { m with
      waits := m.waits + 1
      isCancelled := m.isCancelled || !(w.wait m.waits operation).cancelled.isEmpty
      history := s :: m.history }
  | .cancel _ => { m with cancels := m.cancels + 1, history := s :: m.history }
  | .event e =>
    { m with
      isCancelled := m.isCancelled || (w.onEvent m.history e).isSome
      history := s :: m.history }
  | _ => { m with history := s :: m.history }

def after (w : World) (m : Moment) (steps : List Step) : Moment := steps.foldl (next w) m

variable (w : World) (m : Moment)

@[simp] theorem after_nil : m.after w [] = m := rfl

@[simp] theorem after_cons (s : Step) (steps : List Step) :
    m.after w (s :: steps) = (m.next w s).after w steps := rfl

@[simp] theorem after_append (first second : List Step) :
    m.after w (first ++ second) = (m.after w first).after w second :=
  List.foldl_append

@[simp] theorem history_next (s : Step) : (m.next w s).history = s :: m.history := by
  cases s <;> rfl

theorem history_after (steps : List Step) :
    (m.after w steps).history = steps.reverse ++ m.history := by
  induction steps generalizing m with
  | nil => rfl
  | cons s rest ih =>
      rw [after_cons, ih, history_next, List.reverse_cons, List.append_assoc]
      rfl

theorem submits_after (steps : List Step) :
    (m.after w steps).submits = m.submits + (Steps.submissions steps).length := by
  induction steps generalizing m with
  | nil => rfl
  | cons s rest ih =>
      rw [after_cons, ih, Steps.submissions_cons, List.length_append]
      cases s <;> simp only [next, Step.submitted?, Option.toList, List.length_cons,
        List.length_nil] <;> omega

theorem waits_after (steps : List Step) :
    (m.after w steps).waits = m.waits + (Steps.waits steps).length := by
  induction steps generalizing m with
  | nil => rfl
  | cons s rest ih =>
      rw [after_cons, ih, Steps.waits_cons, List.length_append]
      cases s <;> simp only [next, Step.waited?, Option.toList, List.length_cons,
        List.length_nil] <;> omega

theorem isCancelled_next (s : Step) (already : m.isCancelled = true) :
    (m.next w s).isCancelled = true := by
  cases s <;> simp only [next, already, Bool.true_or]

/-- A token stays cancelled. -/
theorem isCancelled_after (steps : List Step) (already : m.isCancelled = true) :
    (m.after w steps).isCancelled = true := by
  induction steps generalizing m with
  | nil => exact already
  | cons s rest ih => exact ih (m.next w s) (isCancelled_next w m s already)

theorem isCancelled_of_after {steps : List Step} (calm : (m.after w steps).isCancelled = false) :
    m.isCancelled = false := by
  cases cancelled : m.isCancelled with
  | false => rfl
  | true =>
      rw [isCancelled_after w m steps cancelled] at calm
      cases calm

end Moment

/-- The steps that ask the service to cancel an operation; a refusal is reported. -/
inductive CancelCall (w : World) (number : Nat) (operation : String) : List Step → Prop where
  | accepted {logs : List Step} (quiet : Steps.Logs logs)
      (answer : w.cancel number operation = none) :
      CancelCall w number operation
        (logs ++ [.event (.cancelRequested operation), .cancel operation])
  | refused {logs later : List Step} {e : JobError} (quiet : Steps.Logs logs)
      (answer : w.cancel number operation = some e) (quietLater : Steps.Logs later) :
      CancelCall w number operation
        (logs ++ [.event (.cancelRequested operation), .cancel operation] ++ later ++
          [.event (.cancelFailed operation e.message)])

/-- The steps of a wait after its beginning: the operation is cancelled if the token is. -/
def Reaction (w : World) (m : Moment) (operation : String) (steps : List Step) : Prop :=
  if m.isCancelled then CancelCall w m.cancels operation steps else steps = []

section

variable {w : World} {m : Moment} {number : Nat} {operation : String} {steps : List Step}

theorem CancelCall.forall_mem (P : Step → Prop) (call : CancelCall w number operation steps)
    (log : ∀ level message, P (.log level message)) (cancel : P (.cancel operation))
    (requested : P (.event (.cancelRequested operation)))
    (failed : ∀ message, P (.event (.cancelFailed operation message))) : ∀ s ∈ steps, P s := by
  intro s member
  cases call with
  | accepted quiet answer =>
      simp only [List.mem_append, List.mem_cons, List.not_mem_nil, or_false] at member
      rcases member with member | rfl | rfl
      · exact quiet.forall_mem log s member
      · exact requested
      · exact cancel
  | refused quiet answer quietLater =>
      simp only [List.mem_append, List.mem_cons, List.not_mem_nil, or_false] at member
      rcases member with ((member | rfl | rfl) | member) | rfl
      · exact quiet.forall_mem log s member
      · exact requested
      · exact cancel
      · exact quietLater.forall_mem log s member
      · exact failed _

theorem Reaction.forall_mem (P : Step → Prop) (reacts : Reaction w m operation steps)
    (log : ∀ level message, P (.log level message)) (cancel : P (.cancel operation))
    (requested : P (.event (.cancelRequested operation)))
    (failed : ∀ message, P (.event (.cancelFailed operation message))) : ∀ s ∈ steps, P s := by
  unfold Reaction at reacts
  split at reacts
  · exact reacts.forall_mem P log cancel requested failed
  · intro s member
    rw [reacts] at member
    cases member

theorem Reaction.submissions_eq (reacts : Reaction w m operation steps) :
    Steps.submissions steps = [] :=
  List.filterMap_eq_nil_iff.mpr
    (reacts.forall_mem (·.submitted? = none) (fun _ _ => rfl) rfl rfl (fun _ => rfl))

theorem Reaction.waits_eq (reacts : Reaction w m operation steps) : Steps.waits steps = [] :=
  List.filterMap_eq_nil_iff.mpr
    (reacts.forall_mem (·.waited? = none) (fun _ _ => rfl) rfl rfl (fun _ => rfl))

end

namespace Run

variable (w : World) (r : Run)

def moment (r : Run) : Moment where
  submits := r.submitted
  waits := r.waited
  cancels := r.cancelled
  isCancelled := r.token.isCancelled
  history := r.history

theorem logs_singleton (level : LogLevel) (message : String) :
    Steps.Logs [.log level message] := by
  intro s member
  rw [List.mem_singleton.mp member]
  rfl

theorem moment_log (level : LogLevel) (message : String) :
    (r.log level message).moment = r.moment.next w (.log level message) := rfl

theorem isCancelled_cancelToken (reason : String) :
    (r.cancelToken reason).token.isCancelled = true := by
  change (r.token.cancel reason).1.isCancelled = true
  unfold Token.cancel
  split
  · assumption
  · rfl

theorem moment_cancelToken (reason : String) :
    (r.cancelToken reason).moment = { r.moment with isCancelled := true } := by
  have cancelled := isCancelled_cancelToken r reason
  change Moment.mk _ _ _ (r.cancelToken reason).token.isCancelled _ = _
  rw [cancelled]
  rfl

/-- A token that is cancelled already does not tell anybody again. -/
theorem cancelToken_of_isCancelled (reason : String) (already : r.token.isCancelled = true) :
    r.cancelToken reason = r := by
  simp only [cancelToken, Token.cancel, already, if_true, call, List.contains_nil, Bool.or_false,
    List.filterMap_nil, List.append_nil]

theorem moment_emit (e : Event) : (r.emit w e).moment = r.moment.next w (.event e) := by
  unfold emit
  cases answer : w.onEvent r.history e with
  | none =>
      simp only [Moment.next, moment, record, answer, Option.isSome_none, Bool.or_false]
  | some reason =>
      dsimp only
      rw [moment_cancelToken]
      simp only [Moment.next, moment, record, answer, Option.isSome_some, Bool.or_true]

/-- Once the token is cancelled an event has no effect. -/
theorem emit_of_isCancelled (e : Event) (cancelled : r.token.isCancelled = true) :
    r.emit w e = r.record (.event e) := by
  unfold emit
  split
  · exact cancelToken_of_isCancelled (r.record (.event e)) _ cancelled
  · rfl

theorem fst_submit (request : Request) :
    (r.submit w request).1 = (w.submit r.submitted request).result := by
  unfold submit
  dsimp only
  split <;> rfl

theorem moment_submit (request : Request) :
    (r.submit w request).2.moment = r.moment.next w (.submit request) := by
  unfold submit
  cases answer : (w.submit r.submitted request).cancelled with
  | none =>
      simp only [Moment.next, moment, record, answer, Option.isSome_none, Bool.or_false]
  | some reason =>
      dsimp only
      rw [answer]
      dsimp only
      rw [moment_cancelToken]
      simp only [Moment.next, moment, record, answer, Option.isSome_some, Bool.or_true]

/-- A run that has asked the service to cancel an operation, and has no answer yet. -/
def askedToCancel (w : World) (r : Run) (operation : String) : Run :=
  let asked := (r.log .info "Cancelling operation...").emit w (.cancelRequested operation)
  { asked with cancelled := asked.cancelled + 1 }.record (.cancel operation)

theorem moment_askedToCancel (operation : String) :
    (r.askedToCancel w operation).moment = r.moment.after w
      [.log .info "Cancelling operation...", .event (.cancelRequested operation),
        .cancel operation] := by
  have asked := moment_emit w (r.log .info "Cancelling operation...") (.cancelRequested operation)
  exact congrArg (Moment.next w · (.cancel operation)) asked

theorem moment_cancelOperation (operation : String) :
    ∃ steps, CancelCall w r.cancelled operation steps ∧
      (r.cancelOperation w operation).moment = r.moment.after w steps := by
  have asked := moment_askedToCancel w r operation
  have sameNumber : ((r.log .info "Cancelling operation...").emit w
      (.cancelRequested operation)).cancelled = r.cancelled :=
    congrArg Moment.cancels (moment_emit w _ _)
  have announced := logs_singleton .info "Cancelling operation..."
  unfold cancelOperation
  dsimp only
  split
  · next accepted =>
      have answer : w.cancel r.cancelled operation = none := sameNumber ▸ accepted
      exact ⟨_, .accepted announced answer, asked⟩
  · next e refused =>
      have answer : w.cancel r.cancelled operation = some e := sameNumber ▸ refused
      refine ⟨_, .refused announced answer (logs_singleton .warn "Failed to cancel operation"), ?_⟩
      rw [moment_emit, moment_log w]
      exact congrArg (fun m => (Moment.next w m _).next w _) asked

/-- A wait in the course of which the token is cancelled, time and again. -/
def reactions (w : World) (operation : String) (reasons : List String) (p : Bool × Run) :
    Bool × Run :=
  reasons.foldl (fun (sent, r) reason => react w operation sent (r.cancelToken reason)) p

/-- After the one cancel call of a wait, further cancellations have no effect. -/
theorem reactions_sent (operation : String) (reasons : List String)
    (cancelled : r.token.isCancelled = true) :
    reactions w operation reasons (true, r) = (true, r) := by
  unfold reactions
  induction reasons with
  | nil => rfl
  | cons reason rest ih =>
      rw [List.foldl_cons]
      simp only [cancelToken_of_isCancelled r reason cancelled, react, Bool.not_true,
        Bool.and_false, Bool.false_eq_true, if_false]
      exact ih

/-- A wait that was told of a cancellation sends one cancel call, whatever else happens. -/
theorem moment_reactions_of_pending (operation : String) (reasons : List String)
    (told : r.pending = true) (cancelled : r.token.isCancelled = true) :
    ∃ steps, CancelCall w r.cancelled operation steps ∧
      (reactions w operation reasons (react w operation false r)).2.moment =
        r.moment.after w steps := by
  let cleared : Run := { r with pending := false }
  obtain ⟨steps, call, reached⟩ := moment_cancelOperation w cleared operation
  have reacted : react w operation false r = (true, cleared.cancelOperation w operation) := by
    simp only [react, told, Bool.not_false, Bool.and_self, if_true, cleared]
  have stays : (cleared.cancelOperation w operation).token.isCancelled = true := by
    have still := Moment.isCancelled_after w cleared.moment steps cancelled
    rw [← reached] at still
    exact still
  refine ⟨steps, call, ?_⟩
  rw [reacted, reactions_sent w _ operation reasons stays]
  exact reached

/-- A wait that nobody told of a cancellation reacts to the first one that comes. -/
theorem moment_reactions_of_calm (operation : String) (reasons : List String)
    (calm : r.pending = false) (fresh : r.token.isCancelled = false)
    (listening : (r.token.callbacks.map (·.2)).contains .waiter = true) :
    ∃ steps, (if reasons.isEmpty then steps = [] else CancelCall w r.cancelled operation steps) ∧
      (reactions w operation reasons (react w operation false r)).2.moment =
        { r.moment with isCancelled := !reasons.isEmpty }.after w steps := by
  have untouched : react w operation false r = (false, r) := by
    simp only [react, calm, Bool.false_and, Bool.false_eq_true, if_false]
  rw [untouched]
  cases reasons with
  | nil =>
      refine ⟨[], rfl, ?_⟩
      simp only [reactions, List.foldl_nil, List.isEmpty_nil, Bool.not_true, Moment.after_nil,
        moment, fresh]
  | cons reason rest =>
      have told : (r.cancelToken reason).pending = true := by
        simp only [cancelToken, Token.cancel, fresh, Bool.false_eq_true, if_false, call, calm,
          listening, Bool.or_true]
      have cancelled := isCancelled_cancelToken r reason
      obtain ⟨steps, called, reached⟩ :=
        moment_reactions_of_pending w (r.cancelToken reason) operation rest told cancelled
      refine ⟨steps, called, ?_⟩
      rw [moment_cancelToken] at reached
      exact reached

/-- A run that has begun to wait, with the number of callbacks that are registered. -/
def begunToWait (r : Run) (operation : String) : Run :=
  let registration := r.token.register .waiter
  ({ r with token := registration.1, pending := false, waited := r.waited + 1 }.call
    registration.2).record (.wait operation registration.1.registered)

theorem isCancelled_begunToWait (operation : String) :
    (r.begunToWait operation).token.isCancelled = r.token.isCancelled := by
  unfold begunToWait Token.register
  dsimp only
  split <;> rfl

/-- A wait is told of a cancellation as it begins exactly if the token is cancelled. -/
theorem pending_begunToWait (operation : String) :
    (r.begunToWait operation).pending = r.token.isCancelled := by
  unfold begunToWait Token.register
  cases r.token.isCancelled <;> rfl

theorem callbacks_begunToWait (operation : String) (fresh : r.token.isCancelled = false) :
    (r.begunToWait operation).token.callbacks =
      r.token.callbacks ++ [(r.token.next, .waiter)] := by
  unfold begunToWait Token.register
  rw [fresh]
  rfl

theorem waitFor_eq (operation : String) :
    r.waitFor w operation =
      let ended := (reactions w operation (w.wait r.waited operation).cancelled
        (react w operation false (r.begunToWait operation))).2
      ((w.wait r.waited operation).failure,
        { ended with token := ended.token.drop r.token.next }) := rfl

theorem fst_waitFor (operation : String) :
    (r.waitFor w operation).1 = (w.wait r.waited operation).failure := rfl

theorem moment_waitFor (operation : String) :
    let registered := (r.token.register .waiter).1.registered
    ∃ steps, Reaction w (r.moment.next w (.wait operation registered)) operation steps ∧
      (r.waitFor w operation).2.moment =
        r.moment.after w (.wait operation registered :: steps) := by
  intro registered
  let reasons := (w.wait r.waited operation).cancelled
  let begun := r.begunToWait operation
  have unfolded : (r.waitFor w operation).2.moment =
      (reactions w operation reasons (react w operation false begun)).2.moment := rfl
  have begins : { begun.moment with isCancelled := r.token.isCancelled || !reasons.isEmpty } =
      r.moment.next w (.wait operation registered) := rfl
  have sameToken := isCancelled_begunToWait r operation
  have told := pending_begunToWait r operation
  -- A cancelled token tells the wait as it registers; any other tells it when a reason comes.
  cases cancelled : r.token.isCancelled with
  | true =>
      rw [cancelled] at sameToken told
      obtain ⟨steps, call, reached⟩ :=
        moment_reactions_of_pending w begun operation reasons told sameToken
      refine ⟨steps, ?_, ?_⟩
      · rw [← begins, cancelled]
        exact call
      · rw [unfolded, reached, Moment.after_cons, ← begins, cancelled, Bool.true_or, ← sameToken]
        rfl
  | false =>
      rw [cancelled] at sameToken told
      have listening : (begun.token.callbacks.map (·.2)).contains .waiter = true := by
        rw [callbacks_begunToWait r operation cancelled]
        simp only [List.map_append, List.map_cons, List.map_nil, List.contains_eq_mem,
          List.mem_append, List.mem_singleton, or_true, decide_true]
      obtain ⟨steps, call, reached⟩ :=
        moment_reactions_of_calm w begun operation reasons told sameToken listening
      refine ⟨steps, ?_, ?_⟩
      · rw [← begins, cancelled]
        cases none : reasons.isEmpty with
        | true =>
            rw [none, if_pos rfl] at call
            exact call
        | false =>
            rw [none, if_neg Bool.false_ne_true] at call
            exact call
      · rw [unfolded, reached, Moment.after_cons, ← begins, cancelled, Bool.false_or]

end Run

end BatchJob
