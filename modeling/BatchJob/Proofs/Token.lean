import BatchJob.Token
import Mathlib.Data.List.Induction
import Mathlib.Data.List.Nodup
import Mathlib.Data.List.TakeWhile

set_option autoImplicit false

/-!
What becomes of the callbacks of a token, whatever is done with it and in whatever order. The
invariant ties the state of a token to all that was done with it so far: its callbacks are those of
the registrations that were made before the first cancellation and have not been taken back.
-/

namespace BatchJob.Token

section

variable {κ : Type}

def Effect.callback? : Effect κ → Option κ
  | ran callback => some callback
  | warned _ => none

def runsOf (effects : List (Effect κ)) : List κ := effects.filterMap Effect.callback?

theorem runsOf_append (first second : List (Effect κ)) :
    runsOf (first ++ second) = runsOf first ++ runsOf second := List.filterMap_append

theorem bind_of_ok {α β : Type} {first : Calls κ α} {next : α → Calls κ β}
    {before between : List (Effect κ)} {a : α} (success : first before = (.ok a, between)) :
    (first >>= next) before = next a between := by
  change StateT.bind first (ExceptT.bindCont next) before = _
  rw [StateT.bind, success]
  rfl

/-- A callback runs, and no panic comes out of it. -/
theorem run_invoke (panics : κ → Bool) (callback : κ) (effects : List (Effect κ)) :
    ∃ more, invoke panics callback effects = (.ok (), effects ++ more) ∧
      runsOf more = [callback] := by
  cases ends : panics callback with
  | false =>
      refine ⟨[.ran callback], ?_, rfl⟩
      simp only [invoke, call, ends]
      rfl
  | true =>
      refine ⟨[.ran callback, .warned "Cancellation callback panicked: Any \x7b .. \x7d"],
        ?_, rfl⟩
      rw [List.append_cons]
      simp only [invoke, call, ends]
      rfl

/-- All callbacks run, whichever of them panic. -/
theorem run_invokeAll (panics : κ → Bool) (callbacks : List κ) (effects : List (Effect κ)) :
    ∃ more, invokeAll panics callbacks effects = (.ok (), effects ++ more) ∧
      runsOf more = callbacks := by
  induction callbacks generalizing effects with
  | nil => exact ⟨[], congrArg (Prod.mk _) (List.append_nil effects).symm, rfl⟩
  | cons callback rest ih =>
      obtain ⟨first, begins, here⟩ := run_invoke panics callback effects
      obtain ⟨later, goesOn, others⟩ := ih (effects ++ first)
      refine ⟨first ++ later, ?_, ?_⟩
      · rw [← List.append_assoc, ← goesOn]
        exact bind_of_ok begins
      · rw [runsOf_append, here, others]
        rfl

end

/-- One thing that is done with a token. A registration is known by its position among all of
them. -/
inductive Use where
  | register
  | drop (position : Nat)
  | cancel (reason : String)
  deriving DecidableEq

namespace Use

def registers : Use → Bool
  | register => true
  | _ => false

def reason? : Use → Option String
  | cancel reason => some reason
  | _ => none

def registrations (uses : List Use) : Nat := uses.countP registers

def cancels (uses : List Use) : Bool := uses.any (·.reason?.isSome)

/-- What is done before the first cancellation. -/
def early (uses : List Use) : List Use := uses.takeWhile (·.reason?.isNone)

/-- The registrations that are taken back, if `made` registrations were made before. -/
def withdrawn (made : Nat) : List Use → List Nat
  | [] => []
  | register :: rest => withdrawn (made + 1) rest
  | drop position :: rest =>
    if position < made then position :: withdrawn made rest else withdrawn made rest
  | cancel _ :: rest => withdrawn made rest

/-- The registrations that were made before the first cancellation and are not taken back, in their
order. -/
def standing (uses : List Use) : List Nat :=
  (List.range (registrations (early uses))).filter fun position => position ∉ withdrawn 0 uses

theorem registrations_append (first second : List Use) :
    registrations (first ++ second) = registrations first + registrations second :=
  List.countP_append

theorem cancels_append (first second : List Use) :
    cancels (first ++ second) = (cancels first || cancels second) := List.any_append

section

variable (uses : List Use)

theorem registrations_register : registrations (uses ++ [register]) = registrations uses + 1 :=
  registrations_append uses [register]

theorem registrations_drop (position : Nat) :
    registrations (uses ++ [drop position]) = registrations uses :=
  registrations_append uses [drop position]

theorem registrations_cancel (reason : String) :
    registrations (uses ++ [cancel reason]) = registrations uses :=
  registrations_append uses [cancel reason]

theorem cancels_register : cancels (uses ++ [register]) = cancels uses := by
  rw [cancels_append]
  exact Bool.or_false _

theorem cancels_drop (position : Nat) : cancels (uses ++ [drop position]) = cancels uses := by
  rw [cancels_append]
  exact Bool.or_false _

theorem cancels_cancel (reason : String) : cancels (uses ++ [cancel reason]) = true := by
  rw [cancels_append]
  exact Bool.or_true _

end

theorem withdrawn_append (made : Nat) (first second : List Use) :
    withdrawn made (first ++ second) =
      withdrawn made first ++ withdrawn (made + registrations first) second := by
  induction first generalizing made with
  | nil => rfl
  | cons use rest ih =>
      have count : registrations (use :: rest) = registrations rest + registrations [use] := by
        rw [Nat.add_comm]
        exact registrations_append [use] rest
      rw [List.cons_append, count]
      cases use with
      | register =>
          have next : made + (registrations rest + registrations [register]) =
              made + 1 + registrations rest := by
            change made + (registrations rest + 1) = _
            omega
          rw [withdrawn, withdrawn, ih, next]
      | drop position =>
          rw [withdrawn, withdrawn, ih]
          split <;> rfl
      | cancel reason =>
          rw [withdrawn, withdrawn, ih]
          rfl

theorem withdrawn_register (uses : List Use) :
    withdrawn 0 (uses ++ [register]) = withdrawn 0 uses := by
  rw [withdrawn_append]
  exact List.append_nil _

theorem withdrawn_cancel (uses : List Use) (reason : String) :
    withdrawn 0 (uses ++ [cancel reason]) = withdrawn 0 uses := by
  rw [withdrawn_append]
  exact List.append_nil _

/-- Only registrations that were made are taken back. -/
theorem lt_of_mem_withdrawn {made position : Nat} {uses : List Use}
    (member : position ∈ withdrawn made uses) : position < made + registrations uses := by
  induction uses generalizing made with
  | nil => cases member
  | cons use rest ih =>
      have count : registrations (use :: rest) = registrations [use] + registrations rest :=
        registrations_append [use] rest
      cases use with
      | register =>
          have below := ih member
          have one : registrations [register] = 1 := rfl
          omega
      | drop other =>
          rw [withdrawn] at member
          split at member
          · rename_i within
            rcases List.mem_cons.mp member with rfl | later
            · omega
            · have below := ih later
              omega
          · have below := ih member
            omega
      | cancel reason =>
          have below := ih member
          omega

theorem early_of_calm {uses : List Use} (calm : cancels uses = false) : early uses = uses := by
  apply List.takeWhile_eq_self_iff.mpr
  intro use member
  have calmHere := List.any_eq_false.mp calm use member
  rw [Option.isNone_iff_eq_none, ← Option.not_isSome_iff_eq_none]
  exact calmHere

/-- Once the token is cancelled, nothing more is done before the first cancellation. -/
theorem early_append_of_cancels {uses : List Use} (cancelled : cancels uses = true)
    (later : List Use) : early (uses ++ later) = early uses := by
  induction uses with
  | nil => cases cancelled
  | cons use rest ih =>
      cases use with
      | cancel reason => rfl
      | register => exact congrArg (List.cons register) (ih cancelled)
      | drop position => exact congrArg (List.cons (drop position)) (ih cancelled)

theorem early_append_of_calm {uses : List Use} (calm : cancels uses = false) {reason : String}
    {later : List Use} : early (uses ++ cancel reason :: later) = uses := by
  have calmEach : ∀ use ∈ uses, use.reason?.isNone = true := by
    rw [← List.takeWhile_eq_self_iff]
    exact early_of_calm calm
  rw [early, List.takeWhile_append_of_pos calmEach]
  exact List.append_nil uses

theorem registrations_early_le (uses : List Use) :
    registrations (early uses) ≤ registrations uses :=
  (List.takeWhile_sublist _).countP_le

/-- While the token is not cancelled, a new registration stands behind all others. -/
theorem standing_register_of_calm {uses : List Use} (calm : cancels uses = false) :
    standing (uses ++ [register]) = standing uses ++ [registrations uses] := by
  have calmer := (cancels_register uses).trans calm
  have fresh : registrations uses ∉ withdrawn 0 uses := by
    intro member
    have below := lt_of_mem_withdrawn member
    omega
  have kept : [registrations uses].filter (fun position => position ∉ withdrawn 0 uses) =
      [registrations uses] := List.filter_cons_of_pos (decide_eq_true fresh)
  rw [standing, early_of_calm calmer, withdrawn_register, registrations_register, List.range_succ,
    List.filter_append, kept, standing, early_of_calm calm]

theorem standing_register_of_cancels {uses : List Use} (cancelled : cancels uses = true) :
    standing (uses ++ [register]) = standing uses := by
  rw [standing, early_append_of_cancels cancelled, withdrawn_register, standing]

theorem standing_cancel (uses : List Use) (reason : String) :
    standing (uses ++ [cancel reason]) = standing uses := by
  have same : early (uses ++ [cancel reason]) = early uses := by
    cases cancelled : cancels uses with
    | true => exact early_append_of_cancels cancelled _
    | false => rw [early_append_of_calm cancelled, early_of_calm cancelled]
  rw [standing, same, withdrawn_cancel, standing]

theorem lt_of_mem_standing {uses : List Use} {position : Nat} (member : position ∈ standing uses) :
    position < registrations uses :=
  Nat.lt_of_lt_of_le (List.mem_range.mp (List.mem_of_mem_filter member))
    (registrations_early_le uses)

theorem registrations_early_drop (uses : List Use) (position : Nat) :
    registrations (early (uses ++ [drop position])) = registrations (early uses) := by
  cases cancelled : cancels uses with
  | true => rw [early_append_of_cancels cancelled]
  | false =>
      have calmer := (cancels_drop uses position).trans cancelled
      rw [early_of_calm calmer, early_of_calm cancelled, registrations_drop]

/-- A registration that is taken back does not stand any more, and all others do as before. -/
theorem standing_drop (uses : List Use) (position : Nat) :
    standing (uses ++ [drop position]) = (standing uses).filter (· ≠ position) := by
  rw [standing, registrations_early_drop, standing, List.filter_filter]
  apply List.filter_congr
  intro other member
  have made : other < registrations uses := by
    have early := registrations_early_le uses
    have below := List.mem_range.mp member
    omega
  have taken : other ∈ withdrawn 0 (uses ++ [drop position]) ↔
      other ∈ withdrawn 0 uses ∨ other = position := by
    rw [withdrawn_append, List.mem_append, Nat.zero_add]
    refine or_congr_right ?_
    rw [withdrawn]
    split
    · exact List.mem_singleton
    · rename_i notMade
      exact iff_of_false List.not_mem_nil (by omega)
  rw [Bool.eq_iff_iff, decide_eq_true_iff, taken, Bool.and_eq_true, decide_eq_true_iff,
    decide_eq_true_iff, not_or, and_comm]

/-- The registrations whose callbacks run: those that stand at the first cancellation, and then all
that are made later. -/
def heard (uses : List Use) : List Nat :=
  if cancels uses then
    standing (early uses) ++
      List.range' (registrations (early uses)) (registrations uses - registrations (early uses))
  else []

theorem heard_of_calm {uses : List Use} (calm : cancels uses = false) : heard uses = [] := by
  rw [heard, calm]
  rfl

theorem heard_register (uses : List Use) :
    heard (uses ++ [register]) =
      heard uses ++ if cancels uses then [registrations uses] else [] := by
  have same := cancels_register uses
  cases cancelled : cancels uses with
  | false =>
      rw [heard_of_calm cancelled, heard_of_calm (same.trans cancelled)]
      rfl
  | true =>
      have below := registrations_early_le uses
      have more : registrations uses + 1 - registrations (early uses) =
          registrations uses - registrations (early uses) + 1 := by omega
      have last : registrations (early uses) +
          (registrations uses - registrations (early uses)) = registrations uses := by omega
      rw [heard, heard, same, cancelled, if_pos rfl, if_pos rfl, if_pos rfl,
        early_append_of_cancels cancelled, registrations_register, more, List.range'_1_concat, last,
        List.append_assoc]

theorem heard_drop (uses : List Use) (position : Nat) :
    heard (uses ++ [drop position]) = heard uses := by
  have same := cancels_drop uses position
  cases cancelled : cancels uses with
  | false => rw [heard_of_calm cancelled, heard_of_calm (same.trans cancelled)]
  | true => rw [heard, heard, same, early_append_of_cancels cancelled, registrations_drop]

theorem heard_cancel (uses : List Use) (reason : String) :
    heard (uses ++ [cancel reason]) =
      heard uses ++ if cancels uses then [] else standing uses := by
  have now := cancels_cancel uses reason
  have count := registrations_cancel uses reason
  cases cancelled : cancels uses with
  | true =>
      rw [heard, heard, now, cancelled, if_pos rfl, if_pos rfl, if_pos rfl,
        early_append_of_cancels cancelled, count, List.append_nil]
  | false =>
      rw [heard, now, if_pos rfl, heard_of_calm cancelled, early_append_of_calm cancelled, count,
        Nat.sub_self, List.range'_zero, List.append_nil]
      rfl

theorem mem_heard {uses : List Use} {position : Nat} :
    position ∈ heard uses ↔ cancels uses = true ∧ (position ∈ standing (early uses) ∨
      registrations (early uses) ≤ position ∧ position < registrations uses) := by
  cases cancelled : cancels uses with
  | false =>
      rw [heard_of_calm cancelled]
      exact iff_of_false List.not_mem_nil fun reached => Bool.false_ne_true reached.1
  | true =>
      have below := registrations_early_le uses
      have whole : registrations (early uses) +
          (registrations uses - registrations (early uses)) = registrations uses := by omega
      rw [heard, cancelled, if_pos rfl, List.mem_append, List.mem_range'_1, whole]
      exact (and_iff_right rfl).symm

theorem nodup_heard (uses : List Use) : (heard uses).Nodup := by
  cases cancelled : cancels uses with
  | false =>
      rw [heard_of_calm cancelled]
      exact List.nodup_nil
  | true =>
      rw [heard, cancelled, if_pos rfl]
      refine List.nodup_append.mpr ⟨?_, List.nodup_range', ?_⟩
      · exact List.Nodup.filter _ List.nodup_range
      · intro first standing second later
        have below := lt_of_mem_standing standing
        have above := (List.mem_range'_1.mp later).1
        omega

end Use

/-- A token in use. The callback of a registration is known by the position of the registration. -/
structure Session where
  token : Token Nat := {}
  /-- The numbers that the registrations have, in their order. -/
  numbers : List Nat := []
  /-- What the callbacks have left behind. -/
  effects : List (Effect Nat) := []
  /-- Whether a panic came out of the token. -/
  panicked : Bool := false

namespace Session

variable (panics : Nat → Bool)

def call (s : Session) (callbacks : List Nat) : Session :=
  match invokeAll panics callbacks s.effects with
  | (.ok (), effects) => { s with effects := effects }
  | (.error .panicked, effects) => { s with effects := effects, panicked := true }

def perform (s : Session) : Use → Session
  | .register =>
    let (token, callbacks) := s.token.register s.numbers.length
    { s with token := token, numbers := s.numbers ++ [s.token.next] }.call panics callbacks
  | .drop position =>
    match s.numbers[position]? with
    | some number => { s with token := s.token.drop number }
    | none => s
  | .cancel reason =>
    let (token, callbacks) := s.token.cancel reason
    { s with token := token }.call panics callbacks

/-- A new token after all that was done with it. -/
def after (uses : List Use) : Session := uses.foldl (perform panics) {}

def ran (s : Session) : List Nat := runsOf s.effects

theorem after_concat (uses : List Use) (use : Use) :
    after panics (uses ++ [use]) = (after panics uses).perform panics use := List.foldl_concat ..

theorem call_eq (s : Session) (callbacks : List Nat) :
    ∃ more, s.call panics callbacks = { s with effects := s.effects ++ more } ∧
      runsOf more = callbacks := by
  obtain ⟨more, runs, same⟩ := run_invokeAll panics callbacks s.effects
  refine ⟨more, ?_, same⟩
  rw [call, runs]

/-- A token in use shows exactly what was done with it. -/
structure Shows (uses : List Use) (s : Session) : Prop where
  reason : s.token.reason = uses.findSome? Use.reason?
  callbacks : s.token.callbacks = (Use.standing uses).map fun position => (position, position)
  next : s.token.next = Use.registrations uses % UInt64.size
  numbers : s.numbers = List.range (Use.registrations uses)
  ran : s.ran = Use.heard uses
  sound : s.panicked = false

variable {panics} {uses : List Use} {s : Session}

/-- A token is in step again once it has run the callbacks that are due. -/
theorem shows_call {token : Token Nat} {numbers callbacks : List Nat}
    (reason : token.reason = uses.findSome? Use.reason?)
    (standing : token.callbacks = (Use.standing uses).map fun position => (position, position))
    (next : token.next = Use.registrations uses % UInt64.size)
    (numbered : numbers = List.range (Use.registrations uses))
    (due : s.ran ++ callbacks = Use.heard uses) (sound : s.panicked = false) :
    Shows uses ({ s with token := token, numbers := numbers }.call panics callbacks) := by
  obtain ⟨more, called, runs⟩ :=
    call_eq panics { s with token := token, numbers := numbers } callbacks
  rw [called]
  refine ⟨reason, standing, next, numbered, ?_, sound⟩
  rw [← due, ran, ran, runsOf_append, runs]

theorem Shows.isCancelled_eq (shows : Shows uses s) : s.token.isCancelled = Use.cancels uses := by
  rw [isCancelled, shows.reason, Use.cancels, Bool.eq_iff_iff, List.findSome?_isSome_iff,
    List.any_eq_true]

theorem Shows.length_numbers (shows : Shows uses s) :
    s.numbers.length = Use.registrations uses := by
  rw [shows.numbers, List.length_range]

/-- The reason after one thing more. -/
theorem findSome?_concat (uses : List Use) (use : Use) :
    (uses ++ [use]).findSome? Use.reason? = (uses.findSome? Use.reason?).or use.reason? := by
  rw [List.findSome?_append]
  cases use <;> rfl

theorem shows_register (shows : Shows uses s) (few : Use.registrations uses < UInt64.size) :
    Shows (uses ++ [.register]) (s.perform panics .register) := by
  have count := Use.registrations_register uses
  have number : s.token.next = Use.registrations uses := by
    rw [shows.next, Nat.mod_eq_of_lt few]
  have next : (s.token.next + 1) % UInt64.size =
      Use.registrations (uses ++ [Use.register]) % UInt64.size := by rw [number, count]
  have numbers : s.numbers ++ [s.token.next] =
      List.range (Use.registrations (uses ++ [Use.register])) := by
    rw [shows.numbers, number, count, List.range_succ]
  have reason : s.token.reason = (uses ++ [Use.register]).findSome? Use.reason? := by
    rw [findSome?_concat, shows.reason]
    exact Option.or_none.symm
  have position := shows.length_numbers
  cases cancelled : Use.cancels uses with
  | true =>
      have registered : s.token.register s.numbers.length =
          ({ s.token with next := (s.token.next + 1) % UInt64.size }, [s.numbers.length]) :=
        if_pos (shows.isCancelled_eq.trans cancelled)
      have standing : s.token.callbacks =
          (Use.standing (uses ++ [Use.register])).map fun position => (position, position) := by
        rw [Use.standing_register_of_cancels cancelled, shows.callbacks]
      have due : s.ran ++ [s.numbers.length] = Use.heard (uses ++ [Use.register]) := by
        rw [Use.heard_register, cancelled, if_pos rfl, shows.ran, position]
      rw [perform, registered]
      exact shows_call reason standing next numbers due shows.sound
  | false =>
      have registered : s.token.register s.numbers.length =
          ({ s.token with
              callbacks := s.token.callbacks ++ [(s.token.next, s.numbers.length)]
              next := (s.token.next + 1) % UInt64.size }, []) :=
        if_neg (Bool.eq_false_iff.mp (shows.isCancelled_eq.trans cancelled))
      have standing : s.token.callbacks ++ [(s.token.next, s.numbers.length)] =
          (Use.standing (uses ++ [Use.register])).map fun position => (position, position) := by
        rw [Use.standing_register_of_calm cancelled, shows.callbacks, number, position,
          List.map_append, List.map_singleton]
      have due : s.ran ++ [] = Use.heard (uses ++ [Use.register]) := by
        rw [Use.heard_register, cancelled, if_neg Bool.false_ne_true, shows.ran]
      rw [perform, registered]
      exact shows_call reason standing next numbers due shows.sound

theorem shows_drop (shows : Shows uses s) (position : Nat) :
    Shows (uses ++ [.drop position]) (s.perform panics (.drop position)) := by
  have reason : s.token.reason = (uses ++ [Use.drop position]).findSome? Use.reason? := by
    rw [findSome?_concat, shows.reason]
    exact Option.or_none.symm
  have count := Use.registrations_drop uses position
  have next : s.token.next = Use.registrations (uses ++ [Use.drop position]) % UInt64.size := by
    rw [count, shows.next]
  have numbers : s.numbers = List.range (Use.registrations (uses ++ [Use.drop position])) := by
    rw [count, shows.numbers]
  have ran : s.ran = Use.heard (uses ++ [Use.drop position]) := by
    rw [Use.heard_drop, shows.ran]
  by_cases made : position < Use.registrations uses
  · have number : s.numbers[position]? = some position := by
      rw [shows.numbers, List.getElem?_range made]
    rw [perform, number]
    refine ⟨reason, ?_, next, numbers, ran, shows.sound⟩
    change s.token.callbacks.filter (·.1 ≠ position) = _
    rw [shows.callbacks, Use.standing_drop, List.filter_map]
    rfl
  · have number : s.numbers[position]? = none := by
      rw [shows.numbers, List.getElem?_eq_none]
      rw [List.length_range]
      omega
    rw [perform, number]
    refine ⟨reason, ?_, next, numbers, ran, shows.sound⟩
    have none : (Use.standing uses).filter (· ≠ position) = Use.standing uses := by
      apply List.filter_eq_self.mpr
      intro other member
      have below := Use.lt_of_mem_standing member
      exact decide_eq_true (by omega)
    rw [Use.standing_drop, none, shows.callbacks]

theorem shows_cancel (shows : Shows uses s) (reason : String) :
    Shows (uses ++ [.cancel reason]) (s.perform panics (.cancel reason)) := by
  have count := Use.registrations_cancel uses reason
  have next : s.token.next = Use.registrations (uses ++ [Use.cancel reason]) % UInt64.size := by
    rw [count, shows.next]
  have numbers : s.numbers = List.range (Use.registrations (uses ++ [Use.cancel reason])) := by
    rw [count, shows.numbers]
  have callbacks : s.token.callbacks =
      (Use.standing (uses ++ [Use.cancel reason])).map fun position => (position, position) := by
    rw [Use.standing_cancel, shows.callbacks]
  cases cancelled : Use.cancels uses with
  | true =>
      have known := shows.isCancelled_eq.trans cancelled
      have same : s.token.cancel reason = (s.token, []) := if_pos known
      have first : s.token.reason = (uses ++ [Use.cancel reason]).findSome? Use.reason? := by
        rw [findSome?_concat, ← shows.reason, Option.or_of_isSome known]
      have due : s.ran ++ [] = Use.heard (uses ++ [Use.cancel reason]) := by
        rw [Use.heard_cancel, cancelled, if_pos rfl, shows.ran]
      rw [perform, same]
      exact shows_call first callbacks next numbers due shows.sound
  | false =>
      have calm := shows.isCancelled_eq.trans cancelled
      have now : s.token.cancel reason =
          ({ s.token with reason := some reason }, s.token.callbacks.map (·.2)) :=
        if_neg (Bool.eq_false_iff.mp calm)
      have unset : s.token.reason = none := by
        rw [← Option.not_isSome_iff_eq_none]
        exact Bool.eq_false_iff.mp calm
      have first : some reason = (uses ++ [Use.cancel reason]).findSome? Use.reason? := by
        rw [findSome?_concat, ← shows.reason, unset]
        rfl
      have positions : s.token.callbacks.map (·.2) = Use.standing uses := by
        rw [shows.callbacks, List.map_map]
        exact List.map_id _
      have due : s.ran ++ s.token.callbacks.map (·.2) =
          Use.heard (uses ++ [Use.cancel reason]) := by
        rw [Use.heard_cancel, cancelled, if_neg Bool.false_ne_true, shows.ran, positions]
      rw [perform, now]
      exact shows_call first callbacks next numbers due shows.sound

theorem shows_perform (shows : Shows uses s) (use : Use)
    (few : Use.registrations (uses ++ [use]) ≤ UInt64.size) :
    Shows (uses ++ [use]) (s.perform panics use) := by
  cases use with
  | register =>
      rw [Use.registrations_register] at few
      exact shows_register shows (by omega)
  | drop position => exact shows_drop shows position
  | cancel reason => exact shows_cancel shows reason

/-- The numbers of registrations do not repeat before there are `2 ^ 64` of them. -/
theorem shows_after (panics : Nat → Bool) (uses : List Use)
    (few : Use.registrations uses ≤ UInt64.size) : Shows uses (after panics uses) := by
  induction uses using List.reverseRecOn with
  | nil => exact ⟨rfl, rfl, rfl, rfl, rfl, rfl⟩
  | append_singleton uses use ih =>
      have fewer : Use.registrations uses ≤ UInt64.size := by
        rw [Use.registrations_append] at few
        omega
      rw [after_concat]
      exact shows_perform (ih fewer) use few

end Session

open Session (after)

/-- How a token deals with its callbacks, some of which panic, when so much is done with it. -/
structure NotifiesOnce (panics : Nat → Bool) (uses : List Use) : Prop where
  /-- No callback runs twice. -/
  once : ∀ position, (after panics uses).ran.count position ≤ 1
  /-- A callback runs exactly if its registration stands when the token is cancelled first, or is
  made later. -/
  reached : ∀ position, (after panics uses).ran.count position = 1 ↔
    Use.cancels uses = true ∧ (position ∈ Use.standing (Use.early uses) ∨
      Use.registrations (Use.early uses) ≤ position ∧ position < Use.registrations uses)
  /-- The first cancellation runs the callbacks whose registrations stand, all of them and in their
  order. Later ones run nothing. -/
  cancelling : ∀ before reason later, uses = before ++ .cancel reason :: later →
    (after panics (before ++ [.cancel reason])).ran =
      (after panics before).ran ++ if Use.cancels before then [] else Use.standing before
  /-- A registration runs its callback at once if the token is cancelled. -/
  registering : ∀ before later, uses = before ++ .register :: later →
    (after panics (before ++ [.register])).ran =
      (after panics before).ran ++ if Use.cancels before then [Use.registrations before] else []
  /-- A registration that is taken back runs nothing, and removes its own callback only. -/
  dropping : ∀ before position later, uses = before ++ .drop position :: later →
    (after panics (before ++ [.drop position])).ran = (after panics before).ran ∧
    (after panics (before ++ [.drop position])).token.callbacks =
      (after panics before).token.callbacks.filter (·.2 ≠ position)
  /-- The first reason stays. -/
  reason : (after panics uses).token.reason = uses.findSome? Use.reason?
  /-- What is registered are the registrations from before the first cancellation that have not been
  taken back. -/
  standing : (after panics uses).token.registered = (Use.standing uses).length
  /-- No panic comes out of the token. -/
  sound : (after panics uses).panicked = false

/-- What a token shows before and after one of the things that are done with it. -/
theorem shows_around (panics : Nat → Bool) {uses before later : List Use} {use : Use}
    (split : uses = before ++ use :: later) (few : Use.registrations uses < UInt64.size) :
    Session.Shows before (after panics before) ∧
      Session.Shows (before ++ [use]) (after panics (before ++ [use])) := by
  rw [split, List.append_cons, Use.registrations_append, Use.registrations_append] at few
  refine ⟨Session.shows_after panics before (by omega),
    Session.shows_after panics (before ++ [use]) ?_⟩
  rw [Use.registrations_append]
  omega

/-- Every callback runs once at most, and exactly if it is registered when the token is cancelled or
afterwards. -/
theorem notifiesOnce (panics : Nat → Bool) {uses : List Use}
    (few : Use.registrations uses < UInt64.size) : NotifiesOnce panics uses := by
  have shows := Session.shows_after panics uses (Nat.le_of_lt few)
  have distinct : (after panics uses).ran.Nodup := shows.ran ▸ Use.nodup_heard uses
  refine ⟨?_, ?_, ?_, ?_, ?_, shows.reason, ?_, shows.sound⟩
  · exact fun position => List.nodup_iff_count_le_one.mp distinct position
  · intro position
    have atMost := List.nodup_iff_count_le_one.mp distinct position
    have ran : (after panics uses).ran.count position = 1 ↔ position ∈ (after panics uses).ran := by
      rw [← List.count_pos_iff]
      omega
    rw [ran, shows.ran, Use.mem_heard]
  · intro before reason later split
    obtain ⟨first, second⟩ := shows_around panics split few
    rw [first.ran, second.ran, Use.heard_cancel]
  · intro before later split
    obtain ⟨first, second⟩ := shows_around panics split few
    rw [first.ran, second.ran, Use.heard_register]
  · intro before position later split
    obtain ⟨first, second⟩ := shows_around panics split few
    refine ⟨?_, ?_⟩
    · rw [first.ran, second.ran, Use.heard_drop]
    · rw [first.callbacks, second.callbacks, Use.standing_drop, List.filter_map]
      rfl
  · rw [registered, shows.callbacks, List.length_map]

theorem notifiesOnce_panic :
    let uses : List Use := [.register, .register, .register, .drop 1, .cancel "first", .register,
      .drop 0, .cancel "second"]
    Use.registrations uses < UInt64.size ∧ NotifiesOnce (· == 0) uses ∧
      (after (· == 0) uses).ran = [0, 2, 3] := by
  intro uses
  have few : Use.registrations uses < UInt64.size := by decide
  exact ⟨few, notifiesOnce (· == 0) few, rfl⟩

end BatchJob.Token
