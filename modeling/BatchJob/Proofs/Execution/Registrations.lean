import BatchJob.Proofs.Execution.Course

set_option autoImplicit false

/-!
Registrations: a run listens to its token only while it waits, and takes back what it registers.
The callbacks of others stand as before, and the first cancellation runs them. Only others cancel
the token, so its reason is the first of theirs.
-/

namespace BatchJob

namespace Token

section

variable {κ : Type} {t later : Token κ} {made count : Nat}

/-- The number of the registration that so many others precede. -/
def numberAfter (t : Token κ) : Nat → Nat
  | 0 => t.next
  | count + 1 => (t.numberAfter count + 1) % UInt64.size

/-- None of the next registrations gets the number of one that stands. -/
def Free (t : Token κ) (count : Nat) : Prop :=
  ∀ k < count, ∀ p ∈ t.callbacks, p.1 ≠ t.numberAfter k

theorem numberAfter_add (number : later.next = t.numberAfter made) (count : Nat) :
    later.numberAfter count = t.numberAfter (made + count) := by
  induction count with
  | zero => exact number
  | succ count ih =>
      rw [numberAfter, ih]
      rfl

theorem Free.first (free : t.Free (made + count)) : t.Free made :=
  fun k below => free k (by omega)

theorem Free.rest (free : t.Free (made + count)) (callbacks : later.callbacks = t.callbacks)
    (number : later.next = t.numberAfter made) : later.Free count := by
  intro k below p member
  rw [callbacks] at member
  rw [numberAfter_add number]
  exact free (made + k) (by omega) p member

/-- Tokens in use, with the number of registrations that were ever made on them. -/
inductive Made : Nat → Token κ → Prop where
  | new : Made 0 {}
  | register {n : Nat} {t : Token κ} (callback : κ) (made : Made n t) :
      Made (n + 1) (t.register callback).1
  | drop {n : Nat} {t : Token κ} (number : Nat) (made : Made n t) : Made n (t.drop number)
  | cancel {n : Nat} {t : Token κ} (reason : String) (made : Made n t) :
      Made n (t.cancel reason).1

theorem callbacks_cancel (t : Token κ) (reason : String) :
    (t.cancel reason).1.callbacks = t.callbacks := by
  unfold cancel
  split <;> rfl

theorem next_cancel (t : Token κ) (reason : String) : (t.cancel reason).1.next = t.next := by
  unfold cancel
  split <;> rfl

theorem callbacks_register (t : Token κ) (callback : κ) :
    (t.register callback).1.callbacks =
      t.callbacks ++ if t.isCancelled then [] else [(t.next, callback)] := by
  unfold register
  cases t.isCancelled <;> simp

theorem next_register (t : Token κ) (callback : κ) :
    (t.register callback).1.next = (t.next + 1) % UInt64.size := by
  unfold register
  cases t.isCancelled <;> rfl

theorem reason_register (t : Token κ) (callback : κ) :
    (t.register callback).1.reason = t.reason := by
  unfold register
  cases t.isCancelled <;> rfl

theorem registered_register (t : Token κ) (callback : κ) :
    (t.register callback).1.registered = t.registered + if t.isCancelled then 0 else 1 := by
  rw [registered, callbacks_register, List.length_append]
  cases t.isCancelled <;> rfl

/-- A callback that is taken back leaves those that have other numbers. -/
theorem callbacks_drop_register {t later : Token κ} {callback : κ} (free : t.Free 1)
    (kept : later.callbacks = (t.register callback).1.callbacks) :
    (later.drop t.next).callbacks = t.callbacks := by
  have others : t.callbacks.filter (·.1 ≠ t.next) = t.callbacks := by
    rw [List.filter_eq_self]
    intro p member
    exact decide_eq_true (free 0 Nat.zero_lt_one p member)
  have own : (if t.isCancelled then [] else [(t.next, callback)]).filter (·.1 ≠ t.next) = [] := by
    cases t.isCancelled <;> simp
  rw [drop, kept, callbacks_register, List.filter_append, others, own, List.append_nil]

theorem Made.next_eq {n : Nat} (made : Made n t) : t.next = n % UInt64.size := by
  induction made with
  | new => rfl
  | register callback _ ih => rw [next_register, ih, Nat.mod_add_mod]
  | drop number _ ih => exact ih
  | cancel reason _ ih => rw [next_cancel, ih]

theorem Made.number_lt {n : Nat} (made : Made n t) (few : n ≤ UInt64.size) :
    ∀ p ∈ t.callbacks, p.1 < n := by
  induction made with
  | new => simp
  | @register n t callback made ih =>
      have number : t.next = n := made.next_eq.trans (Nat.mod_eq_of_lt (by omega))
      intro p member
      rw [callbacks_register, List.mem_append] at member
      rcases member with before | own
      · have below := ih (by omega) p before
        omega
      · split at own
        · cases own
        · rw [List.mem_singleton.mp own]
          change t.next < n + 1
          omega
  | drop number _ ih => exact fun p member => ih few p (List.mem_filter.mp member).1
  | cancel reason _ ih =>
      rw [callbacks_cancel]
      exact ih few

/-- As long as fewer than `2 ^ 64` registrations are made, no number is given out twice. -/
theorem Made.free {n : Nat} (made : Made n t) (few : n + count ≤ UInt64.size) : t.Free count := by
  have number (k : Nat) (below : n + k < UInt64.size) : t.numberAfter k = n + k := by
    induction k with
    | zero => exact made.next_eq.trans (Nat.mod_eq_of_lt (by omega))
    | succ k ih =>
        rw [numberAfter, ih (by omega)]
        exact Nat.mod_eq_of_lt below
  intro k below p member
  have lower := made.number_lt (by omega) p member
  have upper := number k (by omega)
  omega

end

end Token

namespace Moment

def reasonsAt (w : World) (m : Moment) : Step → List String
  | .submit request => (w.submit m.submits request).cancelled.toList
  | .wait operation _ => (w.wait m.waits operation).cancelled
  | .event e => (w.onEvent m.history e).toList
  | _ => []

def reasons (w : World) (m : Moment) : List Step → List String
  | [] => []
  | s :: rest => m.reasonsAt w s ++ (m.next w s).reasons w rest

theorem reasons_append (w : World) (m : Moment) (first second : List Step) :
    m.reasons w (first ++ second) = m.reasons w first ++ (m.after w first).reasons w second := by
  induction first generalizing m with
  | nil => rfl
  | cons s rest ih =>
      rw [List.cons_append, reasons, reasons, ih, List.append_assoc]
      rfl

theorem reasons_singleton (w : World) (m : Moment) (s : Step) :
    m.reasons w [s] = m.reasonsAt w s := List.append_nil _

end Moment

namespace Run

/-- The callbacks of others that are registered, in their order. -/
def others (r : Run) : List String := r.token.callbacks.filterMap (·.2.foreignName?)

/--
A later state of a run, as far as its token goes: so many registrations were made and taken back
since, and others cancelled the token with some reasons.
-/
structure Since (r : Run) (made : Nat) (reasons : List String) (later : Run) : Prop where
  callbacks : later.token.callbacks = r.token.callbacks
  number : later.token.next = r.token.numberAfter made
  /-- The first reason stays. -/
  reason : later.token.reason = r.token.reason.or reasons.head?
  /-- The first cancellation runs what others have registered. -/
  called : later.called =
    r.called ++ if !r.token.isCancelled && later.token.isCancelled then r.others else []

/-- Two states of a run between which nothing has happened to the token. -/
def Unmoved (r later : Run) : Prop := later.token = r.token ∧ later.called = r.called

section

variable {r later last : Run} {made again : Nat} {reasons more : List String}

theorem Unmoved.trans (first : Unmoved r later) (second : Unmoved later last) : Unmoved r last :=
  ⟨second.1.trans first.1, second.2.trans first.2⟩

theorem Unmoved.since (unmoved : Unmoved r later) : Since r 0 [] later where
  callbacks := by rw [unmoved.1]
  number := by rw [unmoved.1, Token.numberAfter]
  reason := by rw [unmoved.1, List.head?_nil, Option.or_none]
  called := by rw [unmoved.1, unmoved.2, Bool.not_and_self, if_neg Bool.false_ne_true,
    List.append_nil]

theorem Since.isCancelled_of_isCancelled (since : Since r made reasons later)
    (cancelled : r.token.isCancelled = true) : later.token.isCancelled = true := by
  rw [Token.isCancelled, since.reason, Option.or_of_isSome cancelled]
  exact cancelled

theorem Since.others_eq (since : Since r made reasons later) : later.others = r.others := by
  rw [others, since.callbacks, others]

theorem Since.trans (first : Since r made reasons later) (second : Since later again more last) :
    Since r (made + again) (reasons ++ more) last where
  callbacks := second.callbacks.trans first.callbacks
  number := second.number.trans (Token.numberAfter_add first.number again)
  reason := by rw [second.reason, first.reason, List.head?_append, Option.or_assoc]
  called := by
    have stays := first.isCancelled_of_isCancelled
    have staysLater := second.isCancelled_of_isCancelled
    rw [second.called, first.called, first.others_eq, List.append_assoc]
    cases before : r.token.isCancelled with
    | true => simp only [stays before, Bool.not_true, Bool.false_and, Bool.false_eq_true, if_false,
        List.append_nil]
    | false =>
        cases between : later.token.isCancelled with
        | true => simp only [staysLater between, Bool.not_true, Bool.not_false, Bool.and_true,
            Bool.false_eq_true, if_true, if_false, List.append_nil]
        | false => simp only [Bool.not_false, Bool.and_false, Bool.false_eq_true, if_false,
            List.nil_append]

/-- Once the token is cancelled, further reasons have no effect. -/
theorem Since.extend (since : Since r made reasons later)
    (settled : later.token.isCancelled = true ∨ more = []) :
    Since r made (reasons ++ more) later := by
  refine ⟨since.callbacks, since.number, ?_, since.called⟩
  rcases settled with cancelled | rfl
  · rw [List.head?_append, ← Option.or_assoc, ← since.reason, Option.or_of_isSome cancelled]
  · rw [List.append_nil, since.reason]

theorem since_cancelToken (r : Run) (reason : String) :
    Since r 0 [reason] (r.cancelToken reason) := by
  cases cancelled : r.token.isCancelled with
  | true =>
      rw [cancelToken_of_isCancelled r reason cancelled]
      have same : Since r 0 [] r := Unmoved.since ⟨rfl, rfl⟩
      exact same.extend (.inl cancelled)
  | false =>
      have now : r.token.cancel reason =
          ({ r.token with reason := some reason }, r.token.callbacks.map (·.2)) :=
        if_neg (Bool.eq_false_iff.mp cancelled)
      have unset : r.token.reason = none := by
        rw [← Option.not_isSome_iff_eq_none]
        exact Bool.eq_false_iff.mp cancelled
      rw [cancelToken, now]
      refine ⟨rfl, rfl, ?_, ?_⟩
      · rw [unset]
        rfl
      · rw [cancelled]
        change r.called ++ (r.token.callbacks.map (·.2)).filterMap _ = r.called ++ r.others
        rw [List.filterMap_map]
        rfl

end

section

variable (w : World) (r : Run)

theorem since_emit (e : Event) : Since r 0 (r.moment.reasonsAt w (.event e)) (r.emit w e) := by
  change Since r 0 (w.onEvent r.history e).toList _
  unfold emit
  cases w.onEvent r.history e with
  | none => exact Unmoved.since ⟨rfl, rfl⟩
  | some reason =>
      have heard : Since r 0 [] (r.record (.event e)) := Unmoved.since ⟨rfl, rfl⟩
      exact heard.trans (since_cancelToken _ reason)

theorem since_submit (request : Request) :
    Since r 0 (r.moment.reasonsAt w (.submit request)) (r.submit w request).2 := by
  change Since r 0 (w.submit r.submitted request).cancelled.toList _
  have sent : Since r 0 [] ({ r with submitted := r.submitted + 1 }.record (.submit request)) :=
    Unmoved.since ⟨rfl, rfl⟩
  unfold submit
  dsimp only
  cases (w.submit r.submitted request).cancelled with
  | none => exact sent
  | some reason => exact sent.trans (since_cancelToken _ reason)

theorem reactions_cons (operation reason : String) (rest : List String) (p : Bool × Run) :
    reactions w operation (reason :: rest) p =
      reactions w operation rest (react w operation p.1 (p.2.cancelToken reason)) := rfl

section

variable {r} (operation : String) (cancelled : r.token.isCancelled = true)

include cancelled

theorem unmoved_emit (e : Event) : Unmoved r (r.emit w e) := by
  rw [emit_of_isCancelled w r e cancelled]
  exact ⟨rfl, rfl⟩

theorem unmoved_cancelOperation : Unmoved r (r.cancelOperation w operation) := by
  have announced : (r.log .info "Cancelling operation...").token.isCancelled = true := cancelled
  have asked : Unmoved r (r.askedToCancel w operation) := unmoved_emit w announced _
  unfold cancelOperation
  dsimp only
  split
  · exact asked
  · have logged : ((r.askedToCancel w operation).log .warn
        "Failed to cancel operation").token.isCancelled = true :=
      (congrArg Token.isCancelled asked.1).trans cancelled
    exact asked.trans (unmoved_emit w logged _)

theorem unmoved_react (sent : Bool) : Unmoved r (react w operation sent r).2 := by
  unfold react
  split
  · have cleared : ({ r with pending := false } : Run).token.isCancelled = true := cancelled
    exact unmoved_cancelOperation w operation cleared
  · exact ⟨rfl, rfl⟩

theorem unmoved_reactions (reasons : List String) (sent : Bool) :
    Unmoved r (reactions w operation reasons (react w operation sent r)).2 := by
  induction reasons generalizing r sent with
  | nil => exact unmoved_react w operation cancelled sent
  | cons reason rest ih =>
      have first := unmoved_react w operation cancelled sent
      have still := (congrArg Token.isCancelled first.1).trans cancelled
      rw [reactions_cons, cancelToken_of_isCancelled _ reason still]
      exact first.trans (ih still _)

end

/-- Whatever a wait does when the token is cancelled, it leaves the token to others. -/
theorem since_reactions (operation : String) (reasons : List String)
    (told : r.pending = r.token.isCancelled) :
    Since r 0 reasons (reactions w operation reasons (react w operation false r)).2 := by
  cases cancelled : r.token.isCancelled with
  | true =>
      have same := (unmoved_reactions w operation cancelled reasons false).since
      exact same.extend (.inl (same.isCancelled_of_isCancelled cancelled))
  | false =>
      have untouched : react w operation false r = (false, r) := by
        simp only [react, told, cancelled, Bool.false_and, Bool.false_eq_true, if_false]
      rw [untouched]
      cases reasons with
      | nil => exact Unmoved.since ⟨rfl, rfl⟩
      | cons reason rest =>
          have hears := since_cancelToken r reason
          have now := isCancelled_cancelToken r reason
          have same := (unmoved_reactions w operation now rest false).since
          exact hears.trans (same.extend (.inl (same.isCancelled_of_isCancelled now)))

theorem called_begunToWait (operation : String) : (r.begunToWait operation).called = r.called := by
  unfold begunToWait Token.register
  cases r.token.isCancelled <;> exact List.append_nil _

theorem others_begunToWait (operation : String) : (r.begunToWait operation).others = r.others := by
  change (r.token.register .waiter).1.callbacks.filterMap _ = _
  rw [Token.callbacks_register, List.filterMap_append]
  cases r.token.isCancelled <;> exact List.append_nil _

/-- A wait takes its registration back, and removes no other. -/
theorem since_waitFor (operation : String) (free : r.token.Free 1) :
    Since r 1 (w.wait r.waited operation).cancelled (r.waitFor w operation).2 := by
  let begun := r.begunToWait operation
  let ended :=
    (reactions w operation (w.wait r.waited operation).cancelled (react w operation false begun)).2
  have sameToken : begun.token.isCancelled = r.token.isCancelled :=
    isCancelled_begunToWait r operation
  have told : begun.pending = begun.token.isCancelled :=
    (pending_begunToWait r operation).trans sameToken.symm
  have during : Since begun 0 _ ended := since_reactions w begun operation _ told
  rw [waitFor_eq]
  refine ⟨Token.callbacks_drop_register free during.callbacks, ?_, ?_, ?_⟩
  · exact during.number.trans (Token.next_register r.token .waiter)
  · refine during.reason.trans (congrArg (Option.or · _) ?_)
    exact Token.reason_register r.token .waiter
  · have called := during.called
    rw [sameToken, called_begunToWait, others_begunToWait] at called
    exact called

end

/-- Every wait begins with one more callback registered than before the run, or with none more when
the token is cancelled already. -/
def Listens (w : World) (m : Moment) (registered : Nat) (steps : List Step) : Prop :=
  Steps.Everywhere (fun before s _ => ∀ operation count, s = .wait operation count →
    count = registered + if (m.after w before).isCancelled then 0 else 1) steps

theorem listens_of_unwaited (w : World) (m : Moment) (registered : Nat) {steps : List Step}
    (unwaited : Steps.waits steps = []) : Listens w m registered steps := by
  apply Steps.everywhere_of_forall
  rintro s member before - operation count rfl
  exact nomatch List.filterMap_eq_nil_iff.mp unwaited _ member

structure Follows (w : World) (r : Run) (steps : List Step) (later : Run) : Prop where
  moment : later.moment = r.moment.after w steps
  /-- The run takes back what it registers, if the numbers for it are free. -/
  since : r.token.Free (Steps.waits steps).length →
    Since r (Steps.waits steps).length (r.moment.reasons w steps) later ∧
      Listens w r.moment r.token.registered steps

section

variable {w : World} {r later last : Run} {steps more : List Step}

theorem Follows.refl (w : World) (r : Run) : Follows w r [] r :=
  ⟨rfl, fun _ => ⟨Unmoved.since ⟨rfl, rfl⟩, Steps.everywhere_nil _⟩⟩

theorem Follows.trans (first : Follows w r steps later) (second : Follows w later more last) :
    Follows w r (steps ++ more) last := by
  refine ⟨?_, ?_⟩
  · rw [second.moment, first.moment, Moment.after_append]
  · rw [Steps.waits_append, List.length_append]
    intro free
    obtain ⟨since, listens⟩ := first.since free.first
    obtain ⟨sinceLater, listensLater⟩ :=
      second.since (free.rest since.callbacks since.number)
    rw [first.moment] at sinceLater listensLater
    refine ⟨?_, (Steps.everywhere_append _ _ _).mpr ⟨listens, ?_⟩⟩
    · rw [Moment.reasons_append]
      exact since.trans sinceLater
    · have same : later.token.registered = r.token.registered :=
        congrArg List.length since.callbacks
      rw [same] at listensLater
      intro before s after split
      rw [Moment.after_append]
      exact listensLater before s after split

/-- A step that is no wait. -/
theorem follows_of_unwaited {s : Step} (unwaited : s.waited? = none)
    (moment : later.moment = r.moment.next w s)
    (since : Since r 0 (r.moment.reasonsAt w s) later) : Follows w r [s] later := by
  have none : Steps.waits [s] = [] := by
    rw [Steps.waits_cons, unwaited]
    rfl
  refine ⟨moment, fun _ => ?_⟩
  rw [none, Moment.reasons_singleton]
  exact ⟨since, listens_of_unwaited w r.moment _ none⟩

theorem follows_waitFor (w : World) (r : Run) (operation : String) :
    ∃ steps, Follows w r steps (r.waitFor w operation).2 := by
  obtain ⟨reaction, reacts, moment⟩ := moment_waitFor w r operation
  refine ⟨_, moment, ?_⟩
  rw [Steps.waits_cons, reacts.waits_eq]
  intro free
  have since := since_waitFor w r operation free
  refine ⟨?_, (Steps.everywhere_cons _ _ _).mpr ⟨?_, ?_⟩⟩
  · rw [Moment.reasons]
    refine since.extend ?_
    -- The service is asked to cancel the operation only if the token is cancelled.
    cases calm : (r.moment.next w (.wait operation _)).isCancelled with
    | false =>
        rw [Reaction, calm, if_neg Bool.false_ne_true] at reacts
        rw [reacts]
        exact .inr rfl
    | true =>
        refine .inl ?_
        have still := Moment.isCancelled_after w _ reaction calm
        rw [← Moment.after_cons, ← moment] at still
        exact still
  · rintro named count opens
    cases opens
    exact Token.registered_register r.token .waiter
  · intro before s after split named count opens
    rw [split, opens] at reacts
    have none := reacts.waits_eq
    rw [Steps.waits_append, Steps.waits_cons] at none
    cases (List.append_eq_nil_iff.mp none).2

end

end Run

namespace Controller

/-- What all operations of a run keep. -/
structure Invariant (w : World) (P : Run → Prop) : Prop where
  log : ∀ r level message, P r → P (r.log level message)
  emit : ∀ r e, P r → P (r.emit w e)
  submit : ∀ r request, P r → P (r.submit w request).2
  waitFor : ∀ r operation, P r → P (r.waitFor w operation).2

section

variable {w : World} {P : Run → Prop} {r : Run}

theorem Invariant.announce (invariant : Invariant w P) (c : Controller) (operation : String)
    (s : AttemptState) (holds : P r) : P (c.announce operation s r) := by
  unfold Controller.announce
  cases c.output with
  | none => exact invariant.log _ _ _ holds
  | some output => exact invariant.log _ _ _ (invariant.log _ _ _ holds)

/-- What all operations of a run keep, every attempt keeps with all that follow it. -/
theorem Invariant.attempt (invariant : Invariant w P) (c : Controller) (request : Request)
    (s : AttemptState) (holds : P r) : P (Controller.attempt w c request s r).2 := by
  have submitted (s : AttemptState) {r sent : Run} {result : Except SubmissionError String}
      (holds : P r)
      (answer : r.submit w (request.setPreemptible s.isPreemptible) = (result, sent)) :
      P sent := by
    have kept := invariant.submit r (request.setPreemptible s.isPreemptible) holds
    rwa [answer] at kept
  have reported (s : AttemptState) (operation : String) {sent : Run} (holds : P sent) :
      P ((c.announce operation s sent).emit w
        (.attemptSubmitted operation s.attempt.toNat s.isPreemptible)) :=
    invariant.emit _ _ (invariant.announce c operation s holds)
  have waited (operation : String) {r ended : Run} {failure : Option ExecutionError} (holds : P r)
      (ends : r.waitFor w operation = (failure, ended)) : P ended := by
    have kept := invariant.waitFor r operation holds
    rwa [ends] at kept
  fun_induction Controller.attempt w c request s r with
  | case1 s r e sent answer => exact invariant.emit _ _ (submitted s holds answer)
  | case2 s r number operation sent answer begun leaves =>
      exact invariant.emit _ _ (reported s operation (submitted s holds answer))
  | case3 s r number operation sent answer begun waits ended success =>
      have done := waited operation (reported s operation (submitted s holds answer)) success
      exact invariant.emit _ _ done
  | case4 s r number operation sent answer begun waits e ended failure failed next decision =>
      have done := waited operation (reported s operation (submitted s holds answer)) failure
      exact invariant.emit _ _ (invariant.emit _ _ done)
  | case5 s r number operation sent answer begun waits e ended failure failed next decision =>
      have done := waited operation (reported s operation (submitted s holds answer)) failure
      exact invariant.emit _ _ (invariant.emit _ _ done)
  | case6 s r number operation sent answer begun waits e ended failure failed next decision
      cancelled =>
      have done := waited operation (reported s operation (submitted s holds answer)) failure
      exact invariant.emit _ _ (invariant.log _ _ _ (invariant.emit _ _ done))
  | case7 s r number operation sent answer begun waits e ended failure failed next decision calm
      ih =>
      have done := waited operation (reported s operation (submitted s holds answer)) failure
      exact ih (invariant.emit _ _ (invariant.log _ _ _ (invariant.emit _ _ done)))

theorem Invariant.execute (invariant : Invariant w P) (c : Controller) (request : Request)
    (holds : P r) : P (c.execute w request r).2 := by
  unfold Controller.execute
  split
  · exact invariant.log _ _ _ holds
  · exact invariant.attempt c request (.start c.budget) holds

end

theorem invariant_follows (w : World) (r : Run) :
    Invariant w fun later => ∃ steps, Run.Follows w r steps later where
  log := by
    rintro later level message ⟨steps, follows⟩
    have logged : Run.Follows w later [.log level message] (later.log level message) :=
      Run.follows_of_unwaited rfl rfl (Run.Unmoved.since ⟨rfl, rfl⟩)
    exact ⟨_, follows.trans logged⟩
  emit := by
    rintro later e ⟨steps, follows⟩
    exact ⟨_, follows.trans
      (Run.follows_of_unwaited rfl (Run.moment_emit w later e) (Run.since_emit w later e))⟩
  submit := by
    rintro later request ⟨steps, follows⟩
    exact ⟨_, follows.trans (Run.follows_of_unwaited rfl (Run.moment_submit w later request)
      (Run.since_submit w later request))⟩
  waitFor := by
    rintro later operation ⟨steps, follows⟩
    obtain ⟨more, goesOn⟩ := Run.follows_waitFor w later operation
    exact ⟨_, follows.trans goesOn⟩

theorem follows_execute (w : World) (c : Controller) (request : Request) (r : Run) :
    Run.Follows w r (c.trace w request r) (c.execute w request r).2 := by
  obtain ⟨steps, follows⟩ :=
    (invariant_follows w r).execute c request ⟨[], Run.Follows.refl w r⟩
  rw [trace_of_moment w c request r follows.moment]
  exact follows

/--
An execution takes back whatever it registers, however it ends: as many callbacks are registered
afterwards as before, and they are the same. Every wait begins with one more, or with none more when
the token is cancelled already. What others have registered runs with the first cancellation, once
and in order, be it that of this run or one that comes later. Only others cancel the token, and the
first of their reasons stays. The numbers that the run gives out have to be free, as they are on any
token with fewer than `2 ^ 64` registrations.
-/
theorem token_of_execute (w : World) (c : Controller) (request : Request) (r : Run)
    (free : r.token.Free (Steps.waits (c.trace w request r)).length) :
    let steps := c.trace w request r
    let ended := (c.execute w request r).2
    ended.token.registered = r.token.registered ∧
    ended.token.callbacks = r.token.callbacks ∧
    (∀ before operation count after, steps = before ++ .wait operation count :: after →
      count = r.token.registered + if (r.moment.after w before).isCancelled then 0 else 1) ∧
    ended.called =
      r.called ++ (if !r.token.isCancelled && ended.token.isCancelled then r.others else []) ∧
    (∀ reason, (ended.cancelToken reason).called =
      r.called ++ if r.token.isCancelled then [] else r.others) ∧
    ended.token.reason = r.token.reason.or (r.moment.reasons w steps).head? := by
  intro steps ended
  obtain ⟨since, listens⟩ := (follows_execute w c request r).since free
  refine ⟨congrArg List.length since.callbacks, since.callbacks, ?_, since.called, ?_,
    since.reason⟩
  · intro before operation count after split
    exact listens before _ after split operation count rfl
  · intro reason
    have cancelled := Run.isCancelled_cancelToken ended reason
    have afterwards := (since.trans (Run.since_cancelToken ended reason)).called
    rw [cancelled, Bool.and_true] at afterwards
    rw [afterwards]
    cases r.token.isCancelled <;> rfl

theorem token_of_execute_interrupted :
    let w : World :=
      { submit := fun _ _ => ⟨none, .ok "operation"⟩
        wait := fun n _ => ⟨if n = 0 then [] else ["stop", "again"], some ⟨"operation", "", true⟩⟩
        cancel := fun _ _ => none
        onEvent := fun _ _ => none }
    let c : Controller := { budget := ⟨1, 2⟩ }
    let request : Request := { pipeline := {} }
    let r : Run := { token := (({} : Token Callback).register (.foreign "alarm")).1 }
    let ended := (c.execute w request r).2
    r.token.Free (Steps.waits (c.trace w request r)).length ∧
      Steps.waits (c.trace w request r) = ["operation", "operation"] ∧
      ended.token.callbacks = [(0, .foreign "alarm")] ∧
      (ended.cancelToken "later").called = ["alarm"] := by
  intro w c request r ended
  have waits : Steps.waits (c.trace w request r) = ["operation", "operation"] := by
    decide +kernel +revert
  have made : Token.Made 1 r.token := .register _ .new
  have free : r.token.Free (Steps.waits (c.trace w request r)).length := by
    rw [waits]
    exact made.free (by decide)
  obtain ⟨-, callbacks, -, -, called, -⟩ := token_of_execute w c request r free
  exact ⟨free, waits, callbacks, called "later"⟩

end Controller

end BatchJob
