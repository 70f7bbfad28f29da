import BatchJob.Client.Listing
import BatchJob.Proofs.Client.Exchange

set_option autoImplicit false

/-!
Listings of several pages. Pages that lead from one to the next are asked for one by one, each with
the token of the page before it, and their names are joined in the order of the pages.
-/

namespace BatchJob.Client

structure Leading where
  names : List String
  token : String
  filled : token ≠ ""

def Leading.page (p : Leading) : Page := ⟨p.names, some p.token⟩

/-- Whether no page follows: there is no token, or an empty one. -/
def Page.IsLast (page : Page) : Prop := page.next = none ∨ page.next = some ""

theorem Leading.nextToken?_page (p : Leading) : p.page.nextToken? = some p.token := by
  rw [Page.nextToken?, Leading.page, Option.filter_some, if_pos (decide_eq_true p.filled)]

theorem Page.IsLast.nextToken?_eq {page : Page} (last : page.IsLast) : page.nextToken? = none := by
  unfold Page.nextToken?
  rcases last with none | empty
  · rw [none]
    rfl
  · rw [empty]
    rfl

section

variable (c : Client) (project : String) (kind : LocationKind)

def listingPath : String := "compute/v1/projects/" ++ project ++ "/" ++ kind.name

/-- What a reply to the request for a page tells. -/
def PageTells (reply : Reply) (answer : Except JobError Page) : Prop :=
  Reply.Tells (c.url (listingPath project kind)) Page.ofJson? reply answer

/-- The replies begin with pages that lead from one to the next. -/
def Serves (r : Replies) (chain : List Leading) : Prop :=
  ∀ n p, chain[n]? = some p → PageTells c project kind (r.nth n) (.ok p.page)

/-- The requests for some pages and the one that they lead to: the first without a token, and each
other with the token of the page before it. -/
def asked (chain : List Leading) : List HttpRequest :=
  ([] :: chain.map fun p => [("pageToken", p.token)]).map (c.getRequest (listingPath project kind))

def listOn (token : Option String) (r : Replies) : Exchanged (Except JobError (List String)) :=
  listFrom c project kind r.refusal token r.left

end

variable {c : Client} {project : String} {kind : LocationKind} {r : Replies} {token : Option String}

/-- A listing asks for a page, and goes on with the replies behind it if the page names another. -/
theorem listOn_eq (c : Client) (project : String) (kind : LocationKind) (token : Option String)
    (r : Replies) :
    let request := c.pageRequest project kind token
    c.listOn project kind token r =
      match Reply.decode request.url Page.ofJson? (r.nth 0) with
      | .error e => ⟨.error e, received request (r.nth 0), r.after 1⟩
      | .ok page =>
        match page.nextToken? with
        | none => ⟨.ok page.names, received request (r.nth 0), r.after 1⟩
        | some next =>
          let later := c.listOn project kind (some next) (r.after 1)
          ⟨later.result.map (page.names ++ ·), received request (r.nth 0) ++ later.requests,
            later.replies⟩ := by
  intro request
  obtain ⟨left, refusal⟩ := r
  cases left with
  | nil =>
      obtain ⟨e, refused⟩ := Reply.decode_refusal request.url Page.ofJson? refusal
      have here : Reply.decode request.url Page.ofJson? (Replies.nth ⟨[], refusal⟩ 0) = .error e :=
        refused
      rw [here, listOn, listFrom, refused]
      rfl
  | cons reply left =>
      rw [listOn, listFrom]
      rfl

theorem listOn_of_error {e : JobError} (told : PageTells c project kind (r.nth 0) (.error e)) :
    c.listOn project kind token r =
      ⟨.error e, received (c.pageRequest project kind token) (r.nth 0), r.after 1⟩ := by
  have decoded : Reply.decode (c.pageRequest project kind token).url Page.ofJson? (r.nth 0) =
      .error e := told.decode_eq
  rw [listOn_eq, decoded]

theorem listOn_of_last {page : Page} (told : PageTells c project kind (r.nth 0) (.ok page))
    (last : page.IsLast) : c.listOn project kind token r =
      ⟨.ok page.names, [c.pageRequest project kind token], r.after 1⟩ := by
  have decoded : Reply.decode (c.pageRequest project kind token).url Page.ofJson? (r.nth 0) =
      .ok page := told.decode_eq
  simp only [listOn_eq, decoded, last.nextToken?_eq, Reply.received_of_tells told]

/-- A page that leads to another puts its names before those of the others. -/
theorem listOn_of_leading {p : Leading} (told : PageTells c project kind (r.nth 0) (.ok p.page)) :
    let later := c.listOn project kind (some p.token) (r.after 1)
    c.listOn project kind token r =
      ⟨later.result.map (p.names ++ ·), c.pageRequest project kind token :: later.requests,
        later.replies⟩ := by
  have decoded : Reply.decode (c.pageRequest project kind token).url Page.ofJson? (r.nth 0) =
      .ok p.page := told.decode_eq
  simp only [listOn_eq c project kind token r, decoded, p.nextToken?_page,
    Reply.received_of_tells told, List.singleton_append]
  rfl

/-- The token that led to the first of some pages, and those that they have. -/
def tokens (token : Option String) (chain : List Leading) : List (Option String) :=
  token :: chain.map fun p => some p.token

theorem tokens_ne_nil (token : Option String) (chain : List Leading) : tokens token chain ≠ [] :=
  List.cons_ne_nil _ _

theorem list_eq (c : Client) (project : String) (kind : LocationKind) (r : Replies) :
    c.list project kind r = c.listOn project kind none r := rfl

theorem asked_eq (c : Client) (project : String) (kind : LocationKind) (chain : List Leading) :
    c.asked project kind chain = (tokens none chain).map (c.pageRequest project kind) := by
  rw [asked, tokens, List.map_cons, List.map_cons, List.map_map, List.map_map]
  rfl

theorem Serves.tail {p : Leading} {chain : List Leading}
    (served : c.Serves project kind r (p :: chain)) : c.Serves project kind (r.after 1) chain := by
  intro n q found
  rw [Replies.nth_after, Nat.add_comm]
  exact served (n + 1) q found

/-- Pages that lead to others are asked for in their order, and their names are put before the
rest. -/
theorem listOn_of_serves {chain : List Leading} (served : c.Serves project kind r chain) :
    let last := (tokens token chain).getLast (tokens_ne_nil token chain)
    let later := c.listOn project kind last (r.after chain.length)
    c.listOn project kind token r =
      ⟨later.result.map (chain.flatMap Leading.names ++ ·),
        (tokens token chain).dropLast.map (c.pageRequest project kind) ++ later.requests,
        later.replies⟩ := by
  induction chain generalizing r token with
  | nil =>
      intro last later
      have whole :
          later.result.map (([] : List Leading).flatMap Leading.names ++ ·) = later.result := by
        cases later.result <;> rfl
      rw [whole]
      rfl
  | cons p chain ih =>
      have run : c.listOn project kind (some p.token) (r.after 1) = _ := ih served.tail
      rw [Replies.after_after, Nat.add_comm] at run
      intro last later
      have same : last = (tokens (some p.token) chain).getLast (tokens_ne_nil _ _) :=
        List.getLast_cons (tokens_ne_nil _ _)
      have joined : (later.result.map (chain.flatMap Leading.names ++ ·)).map (p.names ++ ·) =
          later.result.map ((p :: chain).flatMap Leading.names ++ ·) := by
        cases later.result with
        | error e => rfl
        | ok names => exact congrArg Except.ok (List.append_assoc _ _ names).symm
      rw [listOn_of_leading (served 0 p rfl), run, ← same, ← joined]
      rfl

theorem Page.exists_leading {page : Page} (leads : ¬ page.IsLast) :
    ∃ p : Leading, p.page = page := by
  obtain ⟨names, next⟩ := page
  cases next with
  | none => exact absurd (.inl rfl) leads
  | some token =>
      have filled : token ≠ "" := fun empty => leads (.inr (congrArg some empty))
      exact ⟨⟨names, token, filled⟩, rfl⟩

theorem Serves.cons {p : Leading} {chain : List Leading}
    (told : PageTells c project kind (r.nth 0) (.ok p.page))
    (served : c.Serves project kind (r.after 1) chain) : c.Serves project kind r (p :: chain) := by
  intro n q found
  cases n with
  | zero =>
      cases found
      exact told
  | succ n =>
      have next := served n q found
      rwa [Replies.nth_after, Nat.add_comm] at next

/-- Whatever a service replies, the pages that lead from one to the next come to an end. -/
theorem exists_serves (c : Client) (project : String) (kind : LocationKind) (r : Replies) :
    ∃ chain, c.Serves project kind r chain ∧
      ((∃ page : Page, page.IsLast ∧ PageTells c project kind (r.nth chain.length) (.ok page)) ∨
        ∃ e, PageTells c project kind (r.nth chain.length) (.error e)) := by
  obtain ⟨left, refusal⟩ := r
  have none (r : Replies) : c.Serves project kind r [] := fun n p found => by cases found
  induction left with
  | nil =>
      have told := Reply.tells_decode (c.url (listingPath project kind)) Page.ofJson? refusal.reply
      obtain ⟨e, refused⟩ :=
        Reply.decode_refusal (c.url (listingPath project kind)) Page.ofJson? refusal
      exact ⟨[], none _, .inr ⟨e, refused ▸ told⟩⟩
  | cons reply left ih =>
      have told := Reply.tells_decode (c.url (listingPath project kind)) Page.ofJson? reply
      cases answer : Reply.decode (c.url (listingPath project kind)) Page.ofJson? reply with
      | error e => exact ⟨[], none _, .inr ⟨e, answer ▸ told⟩⟩
      | ok page =>
          rw [answer] at told
          by_cases last : page.IsLast
          · exact ⟨[], none _, .inl ⟨page, last, told⟩⟩
          · obtain ⟨p, rfl⟩ := Page.exists_leading last
            obtain ⟨chain, served, ends⟩ := ih
            exact ⟨p :: chain, .cons told served, ends⟩

/-- The listing of a service whose pages lead from one to the next. Behind them comes either a page
that leads to none, and the listing has the names of all pages in their order; or a reply with no
page in it, and the listing fails with that. In each case the pages are asked for once, and none
behind them; a request for which the service was not reached is not seen there. -/
theorem list_of_serves {chain : List Leading} (served : c.Serves project kind r chain) :
    (∀ page : Page, page.IsLast → PageTells c project kind (r.nth chain.length) (.ok page) →
      c.list project kind r = ⟨.ok (chain.flatMap Leading.names ++ page.names),
        c.asked project kind chain, r.after (chain.length + 1)⟩) ∧
    ∀ e, PageTells c project kind (r.nth chain.length) (.error e) →
      c.list project kind r = ⟨.error e,
        if r.nth chain.length = .unreachable then (c.asked project kind chain).dropLast
        else c.asked project kind chain, r.after (chain.length + 1)⟩ := by
  have run : c.listOn project kind none r = _ := listOn_of_serves served
  have first : (c.asked project kind chain).dropLast =
      (tokens none chain).dropLast.map (c.pageRequest project kind) := by
    rw [asked_eq, List.map_dropLast]
  have whole : (tokens none chain).dropLast.map (c.pageRequest project kind) ++
      [c.pageRequest project kind ((tokens none chain).getLast (tokens_ne_nil none chain))] =
        c.asked project kind chain := by
    rw [asked_eq, ← List.map_singleton, ← List.map_append, List.dropLast_concat_getLast]
  have here : (r.after chain.length).nth 0 = r.nth chain.length := r.nth_after _ _
  rw [list_eq, run]
  constructor
  · intro page last told
    rw [← here] at told
    rw [listOn_of_last told last, Replies.after_after, whole]
    rfl
  · intro e told
    rw [← here] at told
    rw [listOn_of_error told, Replies.after_after, here]
    cases r.nth chain.length with
    | unreachable =>
        rw [first, if_pos rfl]
        exact congrArg (Exchanged.mk _ · _) (List.append_nil _)
    | answer status body =>
        rw [if_neg Reply.noConfusion, ← whole]
        rfl

/-- A page without names lies between two others; an error may come in the place of the last one. -/
theorem list_of_serves_emptyPage :
    let c : Client := ⟨"http://localhost", []⟩
    let chain : List Leading := [⟨["a"], "t", by decide⟩, ⟨[], "u", by decide⟩]
    let leading : List Reply :=
      [.answer 200 "\x7b\"items\": [\x7b\"name\": \"a\"\x7d], \"nextPageToken\": \"t\"\x7d",
        .answer 200 "\x7b\"nextPageToken\": \"u\"\x7d"]
    let last : Reply :=
      .answer 200 "\x7b\"items\": [\x7b\"name\": \"b\"\x7d], \"nextPageToken\": \"\"\x7d"
    c.Serves "p" .zones ⟨leading ++ [last], .unreachable⟩ chain ∧
      c.list "p" .zones ⟨leading ++ [last], .unreachable⟩ =
        ⟨.ok ["a", "b"], c.asked "p" .zones chain, ⟨[], .unreachable⟩⟩ ∧
      c.list "p" .zones ⟨leading ++ [.answer 503 ""], .unreachable⟩ =
        ⟨.error (Reply.serviceError 503 ""), c.asked "p" .zones chain, ⟨[], .unreachable⟩⟩ ∧
      (c.asked "p" .zones chain).map HttpRequest.query =
        [[], [("pageToken", "t")], [("pageToken", "u")]] := by
  intro c chain leading last
  have served (reply : Reply) : c.Serves "p" .zones ⟨leading ++ [reply], .unreachable⟩ chain := by
    intro n p found
    match n, found with
    | 0, rfl => exact .of_read (by decide) (by decide +kernel)
    | 1, rfl => exact .of_read (by decide) (by decide +kernel)
  refine ⟨served last, ?_, ?_, rfl⟩
  · exact (list_of_serves (served last)).1 ⟨["b"], some ""⟩ (.inr rfl)
      (.of_read (by decide) (by decide +kernel))
  · exact (list_of_serves (served (.answer 503 ""))).2 _ (.refused (by decide))

end BatchJob.Client
