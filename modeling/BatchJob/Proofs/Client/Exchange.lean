import BatchJob.Client.Exchange

set_option autoImplicit false

/-!
What replies say, and in which order a service gives them.
-/

namespace BatchJob

namespace Replies

/-- The reply to a request that so many others went before. -/
def nth (r : Replies) (n : Nat) : Reply := r.left[n]?.getD r.refusal.reply

def after (r : Replies) (n : Nat) : Replies := { r with left := r.left.drop n }

/-- Behind the last reply stands the refusal. -/
theorem nth_length (r : Replies) : r.nth r.left.length = r.refusal.reply := by
  rw [nth, List.getElem?_eq_none (Nat.le_refl _)]
  rfl

@[simp] theorem nth_after (r : Replies) (m n : Nat) : (r.after m).nth n = r.nth (m + n) := by
  rw [nth, after, List.getElem?_drop]
  rfl

@[simp] theorem after_after (r : Replies) (m n : Nat) : (r.after m).after n = r.after (m + n) := by
  rw [after, after, List.drop_drop]
  rfl

end Replies

namespace Reply

variable {α : Type} {url : String} {read : Json → Option α} {reply : Reply}

/-- What a reply tells a client that reads values in its own way: the value in the body of an answer
with a status of success, or why there is none. -/
inductive Tells (url : String) (read : Json → Option α) : Reply → Except JobError α → Prop where
  | lost : Tells url read .unreachable (.error (.transport (.unreachable url)))
  | refused {status : Nat} {body : String} (failed : ¬ (200 ≤ status ∧ status < 300)) :
      Tells url read (.answer status body) (.error (serviceError status body))
  | foreign {status : Nat} {body : String} (success : 200 ≤ status ∧ status < 300)
      (unread : ∀ j, Json.parse? body = some j → read j = none) :
      Tells url read (.answer status body) (.error (.transport .undecodable))
  | value {status : Nat} {body : String} {j : Json} {a : α} (success : 200 ≤ status ∧ status < 300)
      (parsed : Json.parse? body = some j) (value : read j = some a) :
      Tells url read (.answer status body) (.ok a)

theorem Tells.of_read {status : Nat} {body : String} {a : α} (success : 200 ≤ status ∧ status < 300)
    (found : (Json.parse? body).bind read = some a) :
    Tells url read (.answer status body) (.ok a) := by
  obtain ⟨j, parsed, value⟩ := Option.bind_eq_some_iff.mp found
  exact .value success parsed value

theorem tells_decode (url : String) (read : Json → Option α) (reply : Reply) :
    Tells url read reply (decode url read reply) := by
  cases reply with
  | unreachable => exact .lost
  | answer status body =>
      by_cases success : 200 ≤ status ∧ status < 300
      · rw [decode, if_pos success]
        cases parsed : (Json.parse? body).bind read with
        | none => exact .foreign success (Option.bind_eq_none_iff.mp parsed)
        | some a => exact .of_read success parsed
      · rw [decode, if_neg success]
        exact .refused success

/-- A reply tells one thing only. -/
theorem Tells.decode_eq {answer : Except JobError α} (told : Tells url read reply answer) :
    decode url read reply = answer := by
  cases told with
  | lost => rfl
  | refused failed => rw [decode, if_neg failed]
  | foreign success unread =>
      rename_i body
      have none : (Json.parse? body).bind read = none := Option.bind_eq_none_iff.mpr unread
      rw [decode, if_pos success, none]
  | value success parsed value => rw [decode, if_pos success, parsed, Option.bind_some, value]

theorem received_of_tells {a : α} (told : Tells url read reply (.ok a)) (request : HttpRequest) :
    Client.received request reply = [request] := by
  cases told
  rfl

/-- There is no value in a refusal. -/
theorem decode_refusal (url : String) (read : Json → Option α) (refusal : Refusal) :
    ∃ e, decode url read refusal.reply = .error e := by
  cases refusal with
  | unreachable => exact ⟨_, rfl⟩
  | broken body =>
      have failed : ¬ (200 ≤ 500 ∧ 500 < 300) := by decide
      exact ⟨_, (Tells.refused failed).decode_eq⟩

end Reply

end BatchJob
