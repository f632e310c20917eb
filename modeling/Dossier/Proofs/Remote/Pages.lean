import Mathlib.Data.List.Forall2
import Dossier.Proofs.Remote.Bodies
import Dossier.Proofs.Table
import Dossier.Remote.Client
import Dossier.Store.Fixture

/-!
Reading the pages of a query to the end.

A query is asked for once, and then every page is asked for where the one before it points, until
there is one which is done or points nowhere.  If all of them are there, the rows of all of them are
what was asked for; if one is not, nothing is left of those before it but the requests.
-/

namespace Dossier

namespace Record

/-- The scalar under a name in a row, of which the last member of the name counts. -/
def held? (members : List (String × Json)) (name : String) : Option Scalar :=
  match members.reverse.lookup name with
  | some (.scalar value) => some value
  | _ => none

/-- A record has the scalars of a row, and nothing else. -/
def Holds (members : List (String × Json)) (record : Record) : Prop :=
  ∀ name, record.get? name = held? members name

theorem lookup_scalars {members : List (String × Json)} (unique : (members.map (·.1)).Nodup)
    (name : String) :
    (scalars members).lookup name =
      match members.lookup name with
      | some (.scalar value) => some value
      | _ => none := by
  induction members with
  | nil => rfl
  | cons member rest ih =>
      obtain ⟨first, json⟩ := member
      obtain ⟨new, others⟩ := List.nodup_cons.mp unique
      rw [List.lookup_cons]
      by_cases own : name = first
      · have absent : rest.lookup first = none := Table.lookup_eq_none new
        subst own
        cases json with
        | scalar value => simp [scalars]
        | array items => simp [scalars, ih others, absent]
        | object members => simp [scalars, ih others, absent]
      · have apart : (name == first) = false := beq_false_of_ne own
        cases json with
        | scalar value => simp [scalars, List.lookup_cons, apart, ih others]
        | array items => simp [scalars, apart, ih others]
        | object members => simp [scalars, apart, ih others]

theorem ofJson?_object (members : List (String × Json)) :
    ∃ record, ofJson? (.object members) = some record ∧ record.Holds members := by
  refine ⟨_, rfl, fun name => ?_⟩
  rw [get?, lookup_scalars (Table.sort_unique members), Table.lookup_sort_reverse]
  rfl

/-- The records of rows are those of the objects among them, in their order. -/
theorem ofRows_holds (rows : List Json) :
    List.Forall₂ Holds (rows.filterMap Fixture.members?) (ofRows rows) := by
  induction rows with
  | nil => exact .nil
  | cons row rest ih =>
      cases row with
      | scalar value => exact ih
      | array items => exact ih
      | object members =>
          obtain ⟨record, read, holds⟩ := ofJson?_object members
          have first : ofRows (.object members :: rest) = record :: ofRows rest :=
            List.filterMap_cons_some read
          rw [first]
          exact .cons holds ih

end Record

namespace Remote

/-- What is asked for: a query, or the page at a locator. -/
inductive Inquiry where
  | query (soql : String)
  | page (locator : String)

namespace Inquiry

def path : Inquiry → String
  | query _ => Client.queryPath
  | page locator => locator

def form : Inquiry → List (String × String)
  | query soql => [("q", soql)]
  | page _ => []

end Inquiry

/-- An inquiry which was answered with a page. -/
structure Turn where
  inquiry : Inquiry
  request : Request
  response : Response
  page : Page

variable {client : Client}

structure Turn.Succeeds (client : Client) (turn : Turn) : Prop where
  sent : client.request turn.inquiry.path turn.inquiry.form = .ok turn.request
  success : turn.response.isSuccess = true
  read : turn.response.Tells turn.page

/-- Page after page from one inquiry to another: none of them is the last one, and each is asked for
where the one before it points. -/
structure Leads (client : Client) (first : Inquiry) (turns : List Turn) (last : Inquiry) : Prop where
  succeed : ∀ turn ∈ turns, turn.Succeeds client
  unfinished : ∀ turn ∈ turns, turn.page.isDone = false ∧ turn.page.locator.isSome = true
  inquiries : turns.map (·.inquiry) ++ [last] =
    first :: turns.filterMap fun turn => turn.page.locator.map Inquiry.page

/-- What the instance says next. -/
def Exchange.answer (exchange : Exchange) : Response :=
  exchange.responses.head?.getD unavailable

def Exchange.after (exchange : Exchange) (request : Request) : Exchange :=
  ⟨exchange.responses.tail, exchange.requests ++ [request]⟩

/-- How an inquiry fails: there is no request for it, or its answer is not read as a page, or it is
no success. -/
inductive Inquiry.Fails (client : Client) (inquiry : Inquiry) (exchange : Exchange) :
    StoreError → Exchange → Prop where
  | unsent {error : StoreError}
      (refused : client.request inquiry.path inquiry.form = .error error) :
      Fails client inquiry exchange error exchange
  | unread {request : Request} (sent : client.request inquiry.path inquiry.form = .ok request)
      (success : exchange.answer.isSuccess = true) (unread : ∀ page, ¬exchange.answer.Tells page) :
      Fails client inquiry exchange .undecodable (exchange.after request)
  | api {request : Request} {errors : List ApiError}
      (sent : client.request inquiry.path inquiry.form = .ok request)
      (failure : exchange.answer.isSuccess = false) (filled : errors ≠ [])
      (read : exchange.answer.Blames errors) :
      Fails client inquiry exchange (.api errors) (exchange.after request)
  | transport {request : Request} (sent : client.request inquiry.path inquiry.form = .ok request)
      (failure : exchange.answer.isSuccess = false)
      (unread : ∀ errors, exchange.answer.Blames errors → errors = []) :
      Fails client inquiry exchange
        (.transport ("GET " ++ inquiry.path ++ ": " ++ statusText exchange.answer.status ++ ": " ++
          exchange.answer.content)) (exchange.after request)

/-- All pages from an inquiry on, of which the last one is done or points nowhere. -/
structure Client.Reads (client : Client) (first : Inquiry) (exchange : Exchange) (turns : List Turn)
    (last : Turn) (after : Exchange) : Prop where
  leads : Leads client first turns last.inquiry
  succeeds : last.Succeeds client
  ends : last.page.isDone = true ∨ last.page.locator = none
  responses : exchange.responses = (turns ++ [last]).map (·.response) ++ after.responses
  requests : after.requests = exchange.requests ++ (turns ++ [last]).map (·.request)

/-- The pages from an inquiry on up to one which fails. -/
structure Client.Breaks (client : Client) (first : Inquiry) (exchange : Exchange)
    (turns : List Turn) (inquiry : Inquiry) (between : Exchange) (error : StoreError)
    (after : Exchange) : Prop where
  leads : Leads client first turns inquiry
  responses : exchange.responses = turns.map (·.response) ++ between.responses
  requests : between.requests = exchange.requests ++ turns.map (·.request)
  fails : inquiry.Fails client between error after

namespace Page

variable {page : Page}

theorem next?_eq_none : page.next? = none ↔ page.isDone = true ∨ page.locator = none := by
  cases done : page.isDone <;> simp [next?, done]

theorem next?_eq_some {locator : String} :
    page.next? = some locator ↔ page.isDone = false ∧ page.locator = some locator := by
  cases done : page.isDone <;> simp [next?, done]

end Page

namespace Response

variable {response : Response}

/-- The page of which this much is known. -/
theorem tells_of_gist {done : Bool} {locator : Option String} {ids : List (Option String)}
    (read : (Document.read? .json response.content >>= Page.ofDocument?).map
      (fun page => (page.isDone, page.locator, (Record.ofRows page.rows).map (·.id?))) =
        some (done, locator, ids)) :
    ∃ page, response.Tells page ∧ page.isDone = done ∧ page.locator = locator ∧
      (Record.ofRows page.rows).map (·.id?) = ids := by
  obtain ⟨page, told, same⟩ := Option.map_eq_some_iff.mp read
  cases same
  exact ⟨page, page_iff.mp told, rfl, rfl, rfl⟩

theorem decode_of_tells {page : Page} (success : response.isSuccess = true)
    (read : response.Tells page) (path : String) :
    response.decode path Page.ofDocument? = .ok page := by
  rw [decode, if_pos success, page_iff.mpr read]

theorem decode_of_unread (success : response.isSuccess = true)
    (unread : ∀ page, ¬response.Tells page) (path : String) :
    response.decode path Page.ofDocument? = .error .undecodable := by
  have none : (Document.read? .json response.content >>= Page.ofDocument?) = none :=
    Option.eq_none_iff_forall_ne_some.mpr fun page read => unread page (page_iff.mp read)
  rw [decode, if_pos success, none]

theorem decode_of_blames {errors : List ApiError} (failure : response.isSuccess = false)
    (filled : errors ≠ []) (read : response.Blames errors) (path : String) :
    response.decode path Page.ofDocument? = .error (.api errors) := by
  obtain ⟨first, rest, rfl⟩ := List.exists_cons_of_ne_nil filled
  rw [decode, if_neg (Bool.eq_false_iff.mp failure), error, errors_iff.mpr read]

theorem decode_of_unblamed (failure : response.isSuccess = false)
    (unread : ∀ errors, response.Blames errors → errors = []) (path : String) :
    response.decode path Page.ofDocument? = .error (.transport
      ("GET " ++ path ++ ": " ++ statusText response.status ++ ": " ++ response.content)) := by
  rw [decode, if_neg (Bool.eq_false_iff.mp failure), error]
  cases read : Document.read? .json response.content >>= Document.list? ApiError.ofDocument? with
  | none => rfl
  | some errors =>
      cases unread errors (errors_iff.mp read)
      rfl

end Response

theorem leads_nil {first last : Inquiry} : Leads client first [] last ↔ last = first := by
  constructor
  · intro leads
    exact (List.cons.inj leads.inquiries).1
  · rintro rfl
    exact ⟨List.forall_mem_nil _, List.forall_mem_nil _, rfl⟩

/-- What leads on from an inquiry is its own page and what leads on from there. -/
theorem leads_cons {first last : Inquiry} {turn : Turn} {turns : List Turn} :
    Leads client first (turn :: turns) last ↔
      turn.inquiry = first ∧ turn.Succeeds client ∧
        ∃ locator, turn.page.next? = some locator ∧ Leads client (.page locator) turns last := by
  constructor
  · rintro ⟨succeed, unfinished, inquiries⟩
    obtain ⟨succeeds, others⟩ := List.forall_mem_cons.mp succeed
    obtain ⟨⟨more, points⟩, unfinished⟩ := List.forall_mem_cons.mp unfinished
    obtain ⟨locator, found⟩ := Option.isSome_iff_exists.mp points
    rw [List.map_cons, List.cons_append, List.filterMap_cons, found] at inquiries
    obtain ⟨same, inquiries⟩ := List.cons.inj inquiries
    exact ⟨same, succeeds, locator, Page.next?_eq_some.mpr ⟨more, found⟩,
      others, unfinished, inquiries⟩
  · rintro ⟨rfl, succeeds, locator, next, others, unfinished, inquiries⟩
    obtain ⟨more, found⟩ := Page.next?_eq_some.mp next
    refine ⟨List.forall_mem_cons.mpr ⟨succeeds, others⟩,
      List.forall_mem_cons.mpr ⟨⟨more, by rw [found]; rfl⟩, unfinished⟩, ?_⟩
    rw [List.map_cons, List.cons_append, List.filterMap_cons, found, inquiries]
    rfl

namespace Client

theorem readPages_unsent {path : String} {form : List (String × String)} {error : StoreError}
    (refused : client.request path form = .error error) (responses : List Response) :
    client.readPages path form responses = ⟨.error error, [], responses⟩ := by
  cases responses <;> simp [readPages, refused]

theorem readPages_unanswered {path : String} {form : List (String × String)} {request : Request}
    (sent : client.request path form = .ok request) {responses : List Response} {error : StoreError}
    (failed : (responses.head?.getD Exchange.unavailable).decode path Page.ofDocument? =
      .error error) :
    client.readPages path form responses = ⟨.error error, [request], responses.tail⟩ := by
  cases responses with
  | nil =>
      cases failed
      simp only [readPages, sent]
      rfl
  | cons response rest =>
      rw [List.head?_cons, Option.getD_some] at failed
      simp only [readPages, sent, failed, List.tail_cons]

/-- What is read after these rows, with these requests before it. -/
def Reading.behind (reading : Reading) (rows : List Json) (requests : List Request) : Reading :=
  ⟨reading.rows.map (rows ++ ·), requests ++ reading.requests, reading.rest⟩

theorem Reading.behind_nil (reading : Reading) : reading.behind [] [] = reading := by
  obtain ⟨rows, requests, rest⟩ := reading
  cases rows <;> rfl

theorem Reading.behind_behind (reading : Reading) (rows earlier : List Json)
    (requests sooner : List Request) :
    (reading.behind rows requests).behind earlier sooner =
      reading.behind (earlier ++ rows) (sooner ++ requests) := by
  obtain ⟨found, told, rest⟩ := reading
  cases found <;> simp [behind, Except.map]

theorem readPages_last {turn : Turn} (succeeds : turn.Succeeds client)
    (ends : turn.page.next? = none) (rest : List Response) :
    client.readPages turn.inquiry.path turn.inquiry.form (turn.response :: rest) =
      ⟨.ok turn.page.rows, [turn.request], rest⟩ := by
  simp only [readPages, succeeds.sent, Response.decode_of_tells succeeds.success succeeds.read, ends]

theorem readPages_next {turn : Turn} (succeeds : turn.Succeeds client) {locator : String}
    (next : turn.page.next? = some locator) (rest : List Response) :
    client.readPages turn.inquiry.path turn.inquiry.form (turn.response :: rest) =
      (client.readPages locator [] rest).behind turn.page.rows [turn.request] := by
  simp only [readPages, succeeds.sent, Response.decode_of_tells succeeds.success succeeds.read, next]
  rfl

/-- What is read from an inquiry on is what is read on the way to another one, and from there on. -/
theorem readPages_leads {first last : Inquiry} {turns : List Turn}
    (leads : Leads client first turns last) (rest : List Response) :
    client.readPages first.path first.form (turns.map (·.response) ++ rest) =
      (client.readPages last.path last.form rest).behind (turns.flatMap (·.page.rows))
        (turns.map (·.request)) := by
  induction turns generalizing first with
  | nil =>
      rw [leads_nil.mp leads]
      exact (Reading.behind_nil _).symm
  | cons turn turns ih =>
      obtain ⟨rfl, succeeds, locator, next, leads⟩ := leads_cons.mp leads
      rw [List.map_cons, List.cons_append, readPages_next succeeds next]
      exact (congrArg (Reading.behind · _ _) (ih leads)).trans (Reading.behind_behind _ _ _ _ _)

variable {first : Inquiry} {exchange after : Exchange} {turns : List Turn}

theorem Reads.readPages {last : Turn} (reads : client.Reads first exchange turns last after) :
    client.readPages first.path first.form exchange.responses =
      ⟨.ok ((turns ++ [last]).flatMap (·.page.rows)), (turns ++ [last]).map (·.request),
        after.responses⟩ := by
  have final : client.readPages last.inquiry.path last.inquiry.form
      (last.response :: after.responses) = ⟨.ok last.page.rows, [last.request], after.responses⟩ :=
    readPages_last reads.succeeds (Page.next?_eq_none.mpr reads.ends) _
  rw [reads.responses, List.map_append, List.append_assoc, List.map_singleton,
    List.singleton_append, readPages_leads reads.leads, final]
  simp [Reading.behind, Except.map]

/-- Whatever it is that fails, it ends the reading. -/
theorem readPages_fails {inquiry : Inquiry} {error : StoreError}
    (fails : inquiry.Fails client exchange error after) :
    ∃ requests, client.readPages inquiry.path inquiry.form exchange.responses =
      ⟨.error error, requests, after.responses⟩ ∧ after.requests = exchange.requests ++ requests := by
  cases fails with
  | unsent refused => exact ⟨[], readPages_unsent refused _, (List.append_nil _).symm⟩
  | unread sent success unread =>
      exact ⟨_, readPages_unanswered sent (Response.decode_of_unread success unread _), rfl⟩
  | api sent failure filled read =>
      exact ⟨_, readPages_unanswered sent (Response.decode_of_blames failure filled read _), rfl⟩
  | transport sent failure unread =>
      exact ⟨_, readPages_unanswered sent (Response.decode_of_unblamed failure unread _), rfl⟩

theorem Breaks.readPages {inquiry : Inquiry} {between : Exchange} {error : StoreError}
    (breaks : client.Breaks first exchange turns inquiry between error after) :
    ∃ requests, client.readPages first.path first.form exchange.responses =
      ⟨.error error, requests, after.responses⟩ ∧ after.requests = exchange.requests ++ requests := by
  obtain ⟨requests, failed, told⟩ := readPages_fails breaks.fails
  refine ⟨turns.map (·.request) ++ requests, ?_, ?_⟩
  · rw [breaks.responses, readPages_leads breaks.leads, failed]
    rfl
  · rw [told, breaks.requests, List.append_assoc]

/-- Every inquiry is answered with a page, or fails. -/
theorem succeeds_or_fails (client : Client) (inquiry : Inquiry) (exchange : Exchange) :
    (∃ turn : Turn, turn.inquiry = inquiry ∧ turn.Succeeds client ∧
      ∃ rest, exchange.responses = turn.response :: rest) ∨
    ∃ error after, inquiry.Fails client exchange error after := by
  cases sent : client.request inquiry.path inquiry.form with
  | error error => exact .inr ⟨error, exchange, .unsent sent⟩
  | ok request =>
      cases success : exchange.answer.isSuccess with
      | false =>
          by_cases told : ∃ errors, errors ≠ [] ∧ exchange.answer.Blames errors
          · obtain ⟨errors, filled, read⟩ := told
            exact .inr ⟨_, _, .api sent success filled read⟩
          · refine .inr ⟨_, _, .transport sent success fun errors read => ?_⟩
            exact not_not.mp fun filled => told ⟨errors, filled, read⟩
      | true =>
          by_cases told : ∃ page, exchange.answer.Tells page
          · obtain ⟨page, read⟩ := told
            cases given : exchange.responses with
            | nil =>
                -- An instance with nothing more to say is unavailable, which is no success.
                rw [Exchange.answer, given] at success
                contradiction
            | cons response rest =>
                have answered : exchange.answer = response := by
                  rw [Exchange.answer, given]
                  rfl
                rw [answered] at success read
                exact .inl ⟨⟨inquiry, request, response, page⟩, rfl, ⟨sent, success, read⟩, rest, rfl⟩
          · exact .inr ⟨_, _, .unread sent success (not_exists.mp told)⟩

/-- However the instance answers, a query is read to its last page, or to the first inquiry which
fails. -/
theorem reads_or_breaks (client : Client) (first : Inquiry) (exchange : Exchange) :
    (∃ turns last after, client.Reads first exchange turns last after) ∨
    ∃ turns inquiry between error after,
      client.Breaks first exchange turns inquiry between error after := by
  obtain ⟨responses, requests⟩ := exchange
  induction responses generalizing first requests with
  | nil =>
      rcases client.succeeds_or_fails first ⟨[], requests⟩ with ⟨_, _, _, _, none⟩ | ⟨_, _, fails⟩
      · contradiction
      · exact .inr ⟨[], _, _, _, _, leads_nil.mpr rfl, rfl, (List.append_nil _).symm, fails⟩
  | cons response rest ih =>
      rcases client.succeeds_or_fails first ⟨response :: rest, requests⟩ with
        ⟨turn, rfl, succeeds, others, given⟩ | ⟨_, _, fails⟩
      · cases given
        cases next : turn.page.next? with
        | none =>
            exact .inl ⟨[], turn, ⟨rest, requests ++ [turn.request]⟩, leads_nil.mpr rfl, succeeds,
              Page.next?_eq_none.mp next, rfl, rfl⟩
        | some locator =>
            have leads : ∀ {turns last}, Leads client (.page locator) turns last →
                Leads client turn.inquiry (turn :: turns) last := fun onward =>
              leads_cons.mpr ⟨rfl, succeeds, locator, next, onward⟩
            rcases ih (.page locator) (requests ++ [turn.request]) with
              ⟨turns, last, after, reads⟩ | ⟨turns, inquiry, between, error, after, breaks⟩
            · refine .inl ⟨turn :: turns, last, after, leads reads.leads, reads.succeeds, reads.ends,
                congrArg (turn.response :: ·) reads.responses, ?_⟩
              exact reads.requests.trans (List.append_assoc ..)
            · refine .inr ⟨turn :: turns, inquiry, between, error, after, leads breaks.leads,
                congrArg (turn.response :: ·) breaks.responses, ?_, breaks.fails⟩
              exact breaks.requests.trans (List.append_assoc ..)
      · exact .inr ⟨[], _, _, _, _, leads_nil.mpr rfl, rfl, (List.append_nil _).symm, fails⟩

theorem Reads.queryAll {soql : String} {last : Turn}
    (reads : client.Reads (.query soql) exchange turns last after) :
    client.queryAll soql exchange =
      (.ok (Record.ofRows ((turns ++ [last]).flatMap (·.page.rows))), after) := by
  have read := reads.readPages
  have requests := reads.requests
  simp only [Inquiry.path, Inquiry.form] at read
  obtain ⟨responses, told⟩ := after
  cases requests
  rw [Client.queryAll, read]
  rfl

theorem Breaks.queryAll {soql : String} {inquiry : Inquiry} {between : Exchange} {error : StoreError}
    (breaks : client.Breaks (.query soql) exchange turns inquiry between error after) :
    client.queryAll soql exchange = (.error error, after) := by
  obtain ⟨requests, read, told⟩ := breaks.readPages
  simp only [Inquiry.path, Inquiry.form] at read
  obtain ⟨responses, requested⟩ := after
  cases told
  rw [Client.queryAll, read]
  rfl

theorem request_of_join {path : String} {url : Url}
    (joined : client.instanceUrl.join path = .ok url) (takes : url.takesRequests = true)
    (clean : client.token.toList.any isForbiddenInHeader = false)
    (form : List (String × String)) :
    client.request path form = .ok ⟨url.target form, "Bearer " ++ client.token⟩ := by
  have sendable : client.token.any isForbiddenInHeader = false :=
    String.contains_bool_eq.trans clean
  rw [request, joined]
  change (if !url.takesRequests then _ else if client.token.any isForbiddenInHeader then _
    else _ : Except StoreError Request) = _
  rw [takes, sendable]
  rfl

theorem request_refused {path : String} {form : List (String × String)} {error : StoreError}
    (refused : client.request path form = .error error) : ∃ text, error = .transport text := by
  rw [request] at refused
  cases joined : client.instanceUrl.join path with
  | error problem =>
      rw [joined] at refused
      cases refused
      exact ⟨_, rfl⟩
  | ok url =>
      rw [joined] at refused
      change (if !url.takesRequests then _ else if client.token.any isForbiddenInHeader then _
        else _ : Except StoreError Request) = _ at refused
      split at refused
      · cases refused
        exact ⟨_, rfl⟩
      · split at refused
        · cases refused
          exact ⟨_, rfl⟩
        · cases refused

/-- An inquiry fails as the instance says only where it was unsuccessful, and says what is wrong. -/
theorem api_iff {inquiry : Inquiry} {error : StoreError}
    (fails : inquiry.Fails client exchange error after) (errors : List ApiError) :
    error = .api errors ↔
      (∃ request, client.request inquiry.path inquiry.form = .ok request) ∧
        exchange.answer.isSuccess = false ∧ errors ≠ [] ∧
          exchange.answer.Blames errors := by
  cases fails with
  | unsent refused =>
      obtain ⟨text, rfl⟩ := request_refused refused
      simp [refused]
  | unread sent success unread => simp [success]
  | api sent failure filled read =>
      constructor
      · intro same
        cases same
        exact ⟨⟨_, sent⟩, failure, filled, read⟩
      · intro ⟨_, _, _, again⟩
        have same := (Response.errors_iff.mpr read).symm.trans (Response.errors_iff.mpr again)
        rw [Option.some.inj same]
  | transport sent failure unread =>
      constructor
      · intro same
        cases same
      · intro ⟨_, _, filled, read⟩
        exact absurd (unread errors read) filled

/-- A query has records if and only if its pages are there up to one which is done or points
nowhere, and then they are those of all of these pages, each of them asked for once.  It has an error
if and only if one of them fails, and then it is that one. -/
theorem queryAll_exact (client : Client) (soql : String) (exchange after : Exchange) :
    (∀ records, client.queryAll soql exchange = (.ok records, after) ↔
      ∃ turns last, client.Reads (.query soql) exchange turns last after ∧
        let rows := (turns ++ [last]).flatMap (·.page.rows)
        records = Record.ofRows rows ∧
          List.Forall₂ Record.Holds (rows.filterMap Fixture.members?) records) ∧
    ∀ error, client.queryAll soql exchange = (.error error, after) ↔
      ∃ turns inquiry between,
        client.Breaks (.query soql) exchange turns inquiry between error after ∧
          ∀ errors, error = .api errors ↔
            (∃ request, client.request inquiry.path inquiry.form = .ok request) ∧
              between.answer.isSuccess = false ∧ errors ≠ [] ∧
                between.answer.Blames errors := by
  constructor
  · intro records
    constructor
    · intro queried
      rcases client.reads_or_breaks (.query soql) exchange with
        ⟨turns, last, _, reads⟩ | ⟨_, _, _, _, _, breaks⟩
      · cases reads.queryAll.symm.trans queried
        exact ⟨turns, last, reads, rfl, Record.ofRows_holds _⟩
      · cases breaks.queryAll.symm.trans queried
    · intro ⟨turns, last, reads, same, _⟩
      rw [same]
      exact reads.queryAll
  · intro error
    constructor
    · intro queried
      rcases client.reads_or_breaks (.query soql) exchange with
        ⟨_, _, _, reads⟩ | ⟨turns, inquiry, between, _, _, breaks⟩
      · cases reads.queryAll.symm.trans queried
      · cases breaks.queryAll.symm.trans queried
        exact ⟨turns, inquiry, between, breaks, api_iff breaks.fails⟩
    · intro ⟨_, _, _, breaks, _⟩
      exact breaks.queryAll

/-- A page on which one row is no object, and the other one has a member which is no scalar. -/
def fullPage : Response :=
  ⟨200, "\x7b\"records\":[\x7b\"Id\":\"1\",\"Owner\":[]\x7d,7]," ++
    "\"nextRecordsUrl\":\"/rest\",\"done\":false\x7d"⟩

/-- A page of which nothing is said but where the next one is. -/
def barePage : Response := ⟨200, "\x7b\"nextRecordsUrl\":\"/last\"\x7d"⟩

/-- A page which is done, and yet points to another one. -/
def donePage : Response :=
  ⟨200, "\x7b\"records\":[\x7b\"Id\":\"2\"\x7d]," ++
    "\"nextRecordsUrl\":\"/more\",\"done\":true\x7d"⟩

def brokenPage : Response := ⟨200, "\x7b\"records\":null\x7d"⟩

def exampleClient : Client :=
  ⟨⟨"https", some (.name "example.com"), .segments [""], none⟩, "token", "example.com"⟩

/-- Three pages are read to the one which is done, whatever is missing on the second of them and
wherever the third one points.  If the second one is no page, nothing is left of the first one. -/
theorem queryAll_exact_threePages :
    let first : Request := ⟨"/services/data/v57.0/query?q=contacts", "Bearer token"⟩
    let rest : Request := ⟨"/rest", "Bearer token"⟩
    let last : Request := ⟨"/last", "Bearer token"⟩
    (∃ records, records.map (·.id?) = [some "1", some "2"] ∧
      exampleClient.queryAll "contacts" ⟨[fullPage, barePage, donePage, brokenPage], []⟩ =
        (.ok records, ⟨[brokenPage], [first, rest, last]⟩)) ∧
      exampleClient.queryAll "contacts" ⟨[fullPage, brokenPage, donePage], []⟩ =
        (.error .undecodable, ⟨[donePage], [first, rest]⟩) := by
  intro first rest last
  obtain ⟨full, fullTold, fullMore, fullOnward, fullIds⟩ :=
    @Response.tells_of_gist fullPage false (some "/rest") [some "1"] (by decide +kernel)
  obtain ⟨bare, bareTold, bareMore, bareOnward, bareIds⟩ :=
    @Response.tells_of_gist barePage false (some "/last") [] (by decide +kernel)
  obtain ⟨done, doneTold, doneLast, -, doneIds⟩ :=
    @Response.tells_of_gist donePage true (some "/more") [some "2"] (by decide +kernel)
  let firstTurn : Turn := ⟨.query "contacts", first, fullPage, full⟩
  let restTurn : Turn := ⟨.page "/rest", rest, barePage, bare⟩
  let lastTurn : Turn := ⟨.page "/last", last, donePage, done⟩
  let url (segments : List String) : Url :=
    ⟨"https", some (.name "example.com"), .segments segments, none⟩
  have sent : ∀ path form segments, exampleClient.instanceUrl.join path = .ok (url segments) →
      exampleClient.request path form = .ok ⟨(url segments).target form, "Bearer token"⟩ :=
    fun _ form _ joined => request_of_join joined rfl (by decide) form
  have sentRest : exampleClient.request "/rest" [] = .ok rest := sent _ _ ["rest"] rfl
  have sentLast : exampleClient.request "/last" [] = .ok last := sent _ _ ["last"] rfl
  have sentFirst : exampleClient.request queryPath [("q", "contacts")] = .ok first :=
    sent _ _ ["services", "data", "v57.0", "query"] rfl
  have firstSucceeds : firstTurn.Succeeds exampleClient := ⟨sentFirst, rfl, fullTold⟩
  have onward : firstTurn.page.next? = some "/rest" := Page.next?_eq_some.mpr ⟨fullMore, fullOnward⟩
  constructor
  · have leads : Leads exampleClient (.query "contacts") [firstTurn, restTurn] (.page "/last") :=
      leads_cons.mpr ⟨rfl, firstSucceeds, "/rest", onward,
        leads_cons.mpr ⟨rfl, ⟨sentRest, rfl, bareTold⟩, "/last",
          Page.next?_eq_some.mpr ⟨bareMore, bareOnward⟩, leads_nil.mpr rfl⟩⟩
    have reads : exampleClient.Reads (.query "contacts")
        ⟨[fullPage, barePage, donePage, brokenPage], []⟩ [firstTurn, restTurn] lastTurn
          ⟨[brokenPage], [first, rest, last]⟩ :=
      ⟨leads, ⟨sentLast, rfl, doneTold⟩, .inl doneLast, rfl, rfl⟩
    refine ⟨_, ?_, ((queryAll_exact exampleClient "contacts" _ _).1 _).mpr
      ⟨_, _, reads, rfl, Record.ofRows_holds _⟩⟩
    simp only [Record.ofRows] at fullIds bareIds doneIds
    simp [Record.ofRows, List.filterMap_append, firstTurn, restTurn, lastTurn, fullIds, bareIds,
      doneIds]
  · have unread : ∀ page, ¬brokenPage.Tells page := by
      intro page told
      have none : (Document.read? .json brokenPage.content >>= Page.ofDocument?).isNone = true := by
        decide +kernel
      rw [Response.page_iff.mpr told] at none
      contradiction
    have leads : Leads exampleClient (.query "contacts") [firstTurn] (.page "/rest") :=
      leads_cons.mpr ⟨rfl, firstSucceeds, "/rest", onward, leads_nil.mpr rfl⟩
    have fails : Inquiry.Fails exampleClient (.page "/rest") ⟨[brokenPage, donePage], [first]⟩
        .undecodable ⟨[donePage], [first, rest]⟩ := .unread sentRest rfl unread
    exact ((queryAll_exact exampleClient "contacts" _ _).2 _).mpr
      ⟨[firstTurn], _, _, ⟨leads, rfl, rfl, fails⟩, api_iff fails⟩

end Client

end Remote

end Dossier
