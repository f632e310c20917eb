import Dossier.Remote.Response
import Dossier.Remote.Soql
import Dossier.Remote.Url

/-!
Remote instances as stores.

A client describes types and runs queries through the instance's interface for programs.  The rows
of a query come in pages, of which each one says where the next one is; they are read to the end.
-/

namespace Dossier.Remote

def version : String := "v57.0"

structure Request where
  target : String
  authorization : String
deriving DecidableEq, Repr

/-- An instance which gives the responses at hand to one request after the other. -/
structure Exchange where
  responses : List Response
  requests : List Request
deriving DecidableEq, Repr

namespace Exchange

/-- What an instance says which has nothing more to say. -/
def unavailable : Response := ⟨503, "no more responses"⟩

end Exchange

structure Client where
  instanceUrl : Url
  token : String
  org : String

namespace Client

/-- The organization of an instance is that of its host where nothing else is said. -/
def make (instanceUrl : Url) (token : String) : Client :=
  ⟨instanceUrl, token, (instanceUrl.host.map Host.text).getD ""⟩

/-- Control characters but the tab end a header, or are lost in it. -/
def isForbiddenInHeader (c : Char) : Bool :=
  (c.toNat < 0x20 && c != '\t') || c.toNat == 0x7f

/-- The request of a path, which the instance may give. -/
def request (client : Client) (path : String) (form : List (String × String)) :
    Except StoreError Request := do
  let url ← (client.instanceUrl.join path).mapError fun error => .transport error.message
  if !url.takesRequests then throw (.transport "builder error: URL scheme is not allowed")
  else if client.token.any isForbiddenInHeader then
    throw (.transport "builder error: failed to parse header value")
  else return ⟨url.target form, "Bearer " ++ client.token⟩

def describePath (object : String) : String :=
  "/services/data/" ++ version ++ "/sobjects/" ++ object ++ "/describe"

def queryPath : String :=
  "/services/data/" ++ version ++ "/query"

def describe (client : Client) (object : String) (exchange : Exchange) :
    Except StoreError (List String) × Exchange :=
  let path := describePath object
  match client.request path [] with
  | .error error => (.error error, exchange)
  | .ok request =>
      let response := exchange.responses.head?.getD Exchange.unavailable
      (response.decode path describedFields?,
        ⟨exchange.responses.tail, exchange.requests ++ [request]⟩)

structure Reading where
  rows : Except StoreError (List Json)
  requests : List Request
  rest : List Response

/-- Reads from the page at `path` on.  An error leaves nothing of the pages before it. -/
def readPages (client : Client) (path : String) (form : List (String × String)) :
    List Response → Reading
  | [] =>
      match client.request path form with
      | .error error => ⟨.error error, [], []⟩
      | .ok request => ⟨.error (Exchange.unavailable.error path), [request], []⟩
  | response :: rest =>
      match client.request path form with
      | .error error => ⟨.error error, [], response :: rest⟩
      | .ok request =>
          match response.decode path Page.ofDocument? with
          | .error error => ⟨.error error, [request], rest⟩
          | .ok page =>
              match page.next? with
              | none => ⟨.ok page.rows, [request], rest⟩
              | some locator =>
                  let others := readPages client locator [] rest
                  ⟨others.rows.map (page.rows ++ ·), request :: others.requests, others.rest⟩

def queryAll (client : Client) (soql : String) (exchange : Exchange) :
    Except StoreError (List Record) × Exchange :=
  let reading := client.readPages queryPath [("q", soql)] exchange.responses
  (reading.rows.map Record.ofRows, ⟨reading.rest, exchange.requests ++ reading.requests⟩)

def store (client : Client) : Store Exchange where
  org := client.org
  responsive := true
  describe := client.describe
  query query := client.queryAll (Soql.select query)

end Client

end Dossier.Remote
