import BatchJob.Client.Exchange
import BatchJob.Request

set_option autoImplicit false

/-!
The service that lists places, page by page.
-/

namespace BatchJob.Client

structure Page where
  names : List String := []
  next : Option String := none
  deriving DecidableEq

def Page.ofJson? (j : Json) : Option Page := do
  let name? (j : Json) : Option String := do
    let f ← j.fields? ["name"]
    f.required "name" Json.text?
  let f ← j.fields? ["items", "nextPageToken"]
  some {
    names := ← f.optional "items" [] (Json.list? name?)
    next := ← f.optional "nextPageToken" none (Json.nullable? Json.text?) }

/-- The token of the page after this one; an empty token is none. -/
def Page.nextToken? (p : Page) : Option String := p.next.filter (· ≠ "")

def pageRequest (c : Client) (project : String) (kind : LocationKind) (token : Option String) :
    HttpRequest :=
  c.getRequest ("compute/v1/projects/" ++ project ++ "/" ++ kind.name)
    (token.toList.map (("pageToken", ·)))

/-- Lists the page of a token and all pages after it. -/
def listFrom (c : Client) (project : String) (kind : LocationKind) (refusal : Refusal)
    (token : Option String) : List Reply → Exchanged (Except JobError (List String))
  | [] =>
    let request := c.pageRequest project kind token
    let reply := refusal.reply
    ⟨(Reply.decode request.url Page.ofJson? reply).map (·.names), received request reply,
      ⟨[], refusal⟩⟩
  | reply :: left =>
    let request := c.pageRequest project kind token
    match Reply.decode request.url Page.ofJson? reply with
    | .error e => ⟨.error e, received request reply, ⟨left, refusal⟩⟩
    | .ok page =>
      match page.nextToken? with
      | none => ⟨.ok page.names, received request reply, ⟨left, refusal⟩⟩
      | some next =>
        let later := listFrom c project kind refusal (some next) left
        { later with
          result := later.result.map (page.names ++ ·)
          requests := received request reply ++ later.requests }

def list (c : Client) (project : String) (kind : LocationKind) (r : Replies) :
    Exchanged (Except JobError (List String)) :=
  listFrom c project kind r.refusal none r.left

end BatchJob.Client
