import BatchJob.Client.Operation.Calls
import BatchJob.Proofs.Client.Exchange
import BatchJob.Proofs.Json.Members
import Mathlib.Data.Nat.Find

set_option autoImplicit false

/-!
Waiting for the end of an operation. The state of the operation is asked for until a reply tells
that it is done, or does not tell its state; how the wait ends depends on that reply alone.
-/

namespace BatchJob

theorem OperationStatus.isRetriable_iff {status : OperationStatus} :
    status.isRetriable = true ↔ status.code = 10 ∨ status.code = 14 := by
  rw [isRetriable, List.contains_iff_mem]
  simp only [retriableCodes, List.mem_cons, List.not_mem_nil, or_false]

theorem OperationStatus.code_of_uncoded {j : Json} {status : OperationStatus}
    (read : OperationStatus.ofJson? j = some status) (uncoded : j.field? "code" 0 = none) :
    status.code = 0 := by
  simp only [ofJson?, Option.bind_eq_bind, Option.bind_eq_some_iff, Option.some.injEq] at read
  obtain ⟨f, opened, code, found, message, -, rfl⟩ := read
  have known : "code" ∈ ["code", "message"] := by decide
  have absent : f.find? "code" = none := (Json.find?_of_fields? opened known).trans uncoded
  rw [Json.Fields.optional, absent] at found
  exact (Option.some.inj found).symm

theorem Operation.error_of_field {j e : Json} {o : Operation} (read : Operation.ofJson? j = some o)
    (given : j.field? "error" 2 = some e) :
    Json.nullable? OperationStatus.ofJson? e = some o.error := by
  simp only [ofJson?, Option.bind_eq_bind, Option.bind_eq_some_iff, Option.some.injEq] at read
  obtain ⟨f, opened, name, -, done, -, error, found, rfl⟩ := read
  have known : "error" ∈ ["name", "done", "error"] := by decide
  have here : f.find? "error" = some e := (Json.find?_of_fields? opened known).trans given
  rw [Json.Fields.optional, here] at found
  exact found

/-- A failure without a code is of the code 0. -/
theorem Operation.code_of_uncoded {j e : Json} {o : Operation} {status : OperationStatus}
    (read : Operation.ofJson? j = some o) (given : j.field? "error" 2 = some e)
    (uncoded : e.field? "code" 0 = none) (failed : o.error = some status) : status.code = 0 := by
  have value := Operation.error_of_field read given
  rw [failed] at value
  unfold Json.nullable? at value
  split at value
  · cases value
  · obtain ⟨status', value, same⟩ := Option.map_eq_some_iff.mp value
    cases same
    exact OperationStatus.code_of_uncoded value uncoded

namespace Client

open OperationStatus (isRetriable_iff)

section

variable (c : Client) (name : String)

/-- A poll of an operation: its path is asked for, with nothing else in the request. -/
def poll : HttpRequest :=
  { method := .get, url := c.baseUrl ++ "/v2alpha1/" ++ name, query := [], headers := c.headers,
    body := none }

theorem operationRequest_eq : c.operationRequest name = c.poll name := by
  have path : ("v2alpha1/" ++ name).toList.dropWhile (· == '/') = ("v2alpha1/" ++ name).toList := by
    rw [String.toList_append]
    rfl
  have address : c.baseUrl ++ "/" ++ ("v2alpha1/" ++ name) = c.baseUrl ++ "/v2alpha1/" ++ name := by
    have parts : "/v2alpha1/" = "/" ++ "v2alpha1/" := rfl
    simp only [parts, String.append_assoc]
  rw [operationRequest, getRequest, operationPath, url, path, String.ofList_toList, address]
  rfl

def StateTells (reply : Reply) (answer : Except JobError Operation) : Prop :=
  Reply.Tells (c.poll name).url Operation.ofJson? reply answer

/-- Whether a reply tells that an operation is not done, whatever else it tells. -/
def Running (reply : Reply) : Prop := ∃ o, StateTells c name reply (.ok o) ∧ o.done = false

/-- How a wait for an operation ends by the reply to its last poll. -/
inductive Ends (reply : Reply) : Option ExecutionError → Prop where
  | well {o : Operation} (told : StateTells c name reply (.ok o)) (done : o.done = true)
      (sound : o.error = none) : Ends reply none
  | retriable {o : Operation} {status : OperationStatus} (told : StateTells c name reply (.ok o))
      (done : o.done = true) (failed : o.error = some status)
      (code : status.code = 10 ∨ status.code = 14) : Ends reply (some ⟨name, status.message, true⟩)
  | fatal {o : Operation} {status : OperationStatus} (told : StateTells c name reply (.ok o))
      (done : o.done = true) (failed : o.error = some status)
      (code : status.code ≠ 10 ∧ status.code ≠ 14) : Ends reply (some ⟨name, status.message, false⟩)
  | unknown {e : JobError} (told : StateTells c name reply (.error e)) :
      Ends reply (some ⟨name, "polling operation: " ++ e.message, false⟩)

end

variable {c : Client} {name : String} {reply : Reply} {r : Replies}

theorem running_iff : Running c name reply ↔
    verdict? name (Reply.decode (c.poll name).url Operation.ofJson? reply) = none := by
  constructor
  · rintro ⟨o, told, running⟩
    rw [told.decode_eq, verdict?, running]
    rfl
  · intro pending
    have told := Reply.tells_decode (c.poll name).url Operation.ofJson? reply
    cases answer : Reply.decode (c.poll name).url Operation.ofJson? reply with
    | error e =>
        rw [answer] at pending
        cases pending
    | ok o =>
        rw [answer] at pending told
        refine ⟨o, told, Bool.eq_false_iff.mpr fun done => ?_⟩
        rw [verdict?, if_pos done] at pending
        cases pending

theorem ends_of_done {o : Operation} (told : StateTells c name reply (.ok o))
    (done : o.done = true) : Ends c name reply (o.failure? name) := by
  cases failed : o.error with
  | none =>
      rw [Operation.failure?, failed]
      exact .well told done failed
  | some status =>
      rw [Operation.failure?, failed, Option.map_some]
      cases code : status.isRetriable with
      | true => exact .retriable told done failed (isRetriable_iff.mp code)
      | false =>
          refine .fatal told done failed (not_or.mp fun coded => ?_)
          rw [isRetriable_iff.mpr coded] at code
          cases code

theorem ends_iff {result : Option ExecutionError} : Ends c name reply result ↔
    verdict? name (Reply.decode (c.poll name).url Operation.ofJson? reply) =
      some result := by
  constructor
  · intro ends
    cases ends with
    | well told done sound =>
        rw [told.decode_eq, verdict?, if_pos done, Operation.failure?, sound]
        rfl
    | retriable told done failed code =>
        rw [told.decode_eq, verdict?, if_pos done, Operation.failure?, failed, Option.map_some,
          isRetriable_iff.mpr code]
    | fatal told done failed code =>
        have final := Bool.eq_false_iff.mpr (mt isRetriable_iff.mp (not_or.mpr code))
        rw [told.decode_eq, verdict?, if_pos done, Operation.failure?, failed, Option.map_some,
          final]
    | unknown told =>
        rw [told.decode_eq]
        rfl
  · intro closed
    have told := Reply.tells_decode (c.poll name).url Operation.ofJson? reply
    cases answer : Reply.decode (c.poll name).url Operation.ofJson? reply with
    | error e =>
        rw [answer] at closed told
        cases closed
        exact .unknown told
    | ok o =>
        rw [answer] at closed told
        rw [verdict?] at closed
        split at closed
        · next done =>
          cases closed
          exact ends_of_done told done
        · cases closed

theorem wait_eq (c : Client) (name : String) (r : Replies) :
    let request := c.poll name
    c.wait name r =
      match verdict? name (Reply.decode request.url Operation.ofJson? (r.nth 0)) with
      | some result => ⟨result, received request (r.nth 0), r.after 1⟩
      | none =>
        let later := c.wait name (r.after 1)
        { later with requests := received request (r.nth 0) ++ later.requests } := by
  intro request
  obtain ⟨left, refusal⟩ := r
  cases left with
  | nil =>
      obtain ⟨e, refused⟩ := Reply.decode_refusal request.url Operation.ofJson? refusal
      have here : Reply.decode request.url Operation.ofJson? (Replies.nth ⟨[], refusal⟩ 0) =
        .error e := refused
      rw [here, wait, pollAll, operationRequest_eq, refused]
      rfl
  | cons reply left =>
      rw [wait, pollAll, operationRequest_eq]
      rfl

/-- A poll that finds the operation running leads to the next. -/
theorem wait_of_running (running : Running c name (r.nth 0)) :
    let later := c.wait name (r.after 1)
    c.wait name r = { later with requests := c.poll name :: later.requests } := by
  intro later
  have pending := running_iff.mp running
  obtain ⟨o, told, -⟩ := running
  simp only [wait_eq c name r, pending, Reply.received_of_tells told, List.singleton_append]
  rfl

theorem wait_of_ends {result : Option ExecutionError} (ends : Ends c name (r.nth 0) result) :
    c.wait name r = ⟨result, received (c.poll name) (r.nth 0), r.after 1⟩ := by
  simp only [wait_eq, ends_iff.mp ends]

/-- Polls that find the operation running do nothing but ask for its state. -/
theorem wait_of_allRunning {n : Nat} (running : ∀ i < n, Running c name (r.nth i)) :
    let later := c.wait name (r.after n)
    c.wait name r =
      { later with requests := List.replicate n (c.poll name) ++ later.requests } := by
  induction n generalizing r with
  | zero => rfl
  | succ n ih =>
      have rest : ∀ i < n, Running c name ((r.after 1).nth i) := by
        intro i less
        rw [Replies.nth_after, Nat.add_comm]
        exact running (i + 1) (Nat.succ_lt_succ less)
      have run := ih rest
      rw [Replies.after_after, Nat.add_comm] at run
      rw [wait_of_running (running 0 n.succ_pos), run]
      rfl

/-- No operation runs for ever: in the end the service refuses the polls. -/
theorem exists_last_poll (c : Client) (name : String) (r : Replies) :
    ∃ n, (∀ i < n, Running c name (r.nth i)) ∧ ¬ Running c name (r.nth n) := by
  classical
  have stops : ∃ n, ¬ Running c name (r.nth n) := by
    refine ⟨r.left.length, ?_⟩
    rintro ⟨o, told, -⟩
    obtain ⟨e, refused⟩ :=
      Reply.decode_refusal (c.poll name).url Operation.ofJson? r.refusal
    rw [StateTells, r.nth_length] at told
    cases refused.symm.trans told.decode_eq
  exact ⟨Nat.find stops, fun i less => not_not.mp (Nat.find_min stops less), Nat.find_spec stops⟩

/-- A failure without a code is never retriable. -/
theorem Ends.fatal_of_uncoded {status : Nat} {body : String} {j e : Json}
    {failure : ExecutionError} (ends : Ends c name (.answer status body) (some failure))
    (parsed : Json.parse? body = some j) (given : j.field? "error" 2 = some e)
    (uncoded : e.field? "code" 0 = none) : failure.retriable = false := by
  cases ends with
  | retriable told done failed code =>
      cases told with
      | value success parsed' read =>
          cases parsed.symm.trans parsed'
          rw [Operation.code_of_uncoded read given uncoded failed] at code
          exact absurd code (by decide)
  | fatal => rfl
  | unknown => rfl

end Client

end BatchJob
