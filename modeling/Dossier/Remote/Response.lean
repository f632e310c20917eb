import Dossier.Document.Reader
import Dossier.Store.Basic

/-!
Responses of a remote instance, and what they say.
-/

namespace Dossier.Remote

structure Response where
  status : Nat
  body : String
deriving DecidableEq, Repr

def reasonPhrases : List (Nat × String) := [
  (100, "Continue"), (101, "Switching Protocols"), (102, "Processing"),
  (200, "OK"), (201, "Created"), (202, "Accepted"), (203, "Non Authoritative Information"),
  (204, "No Content"), (205, "Reset Content"), (206, "Partial Content"), (207, "Multi-Status"),
  (208, "Already Reported"), (226, "IM Used"),
  (300, "Multiple Choices"), (301, "Moved Permanently"), (302, "Found"), (303, "See Other"),
  (304, "Not Modified"), (305, "Use Proxy"), (307, "Temporary Redirect"),
  (308, "Permanent Redirect"),
  (400, "Bad Request"), (401, "Unauthorized"), (402, "Payment Required"), (403, "Forbidden"),
  (404, "Not Found"), (405, "Method Not Allowed"), (406, "Not Acceptable"),
  (407, "Proxy Authentication Required"), (408, "Request Timeout"), (409, "Conflict"),
  (410, "Gone"), (411, "Length Required"), (412, "Precondition Failed"),
  (413, "Payload Too Large"), (414, "URI Too Long"), (415, "Unsupported Media Type"),
  (416, "Range Not Satisfiable"), (417, "Expectation Failed"), (418, "I'm a teapot"),
  (421, "Misdirected Request"), (422, "Unprocessable Entity"), (423, "Locked"),
  (424, "Failed Dependency"), (426, "Upgrade Required"), (428, "Precondition Required"),
  (429, "Too Many Requests"), (431, "Request Header Fields Too Large"),
  (451, "Unavailable For Legal Reasons"),
  (500, "Internal Server Error"), (501, "Not Implemented"), (502, "Bad Gateway"),
  (503, "Service Unavailable"), (504, "Gateway Timeout"), (505, "HTTP Version Not Supported"),
  (506, "Variant Also Negotiates"), (507, "Insufficient Storage"), (508, "Loop Detected"),
  (510, "Not Extended"), (511, "Network Authentication Required")]

def statusText (status : Nat) : String :=
  toString status ++ " " ++ (reasonPhrases.lookup status).getD "<unknown status code>"

namespace Response

def isSuccess (response : Response) : Bool :=
  200 ≤ response.status && response.status < 300

/-- Some codes say that there is no body, whatever follows them. -/
def content (response : Response) : String :=
  if response.status == 204 || response.status == 304 then "" else response.body

/-- An unsuccessful response to a request of `path`: the errors it lists, or its text. -/
def error (path : String) (response : Response) : StoreError :=
  let listed := Document.read? .json response.content >>= Document.list? ApiError.ofDocument?
  match listed with
  | some (first :: rest) => .api (first :: rest)
  | _ => .transport ("GET " ++ path ++ ": " ++ statusText response.status ++ ": " ++
      response.content)

/-- What a response to a request of `path` says, if it is a success. -/
def decode (path : String) (read : Document → Option α) (response : Response) :
    Except StoreError α :=
  if response.isSuccess then
    match Document.read? .json response.content >>= read with
    | some value => .ok value
    | none => .error .undecodable
  else .error (response.error path)

end Response

structure Page where
  rows : List Json
  isDone : Bool
  locator : Option String

namespace Page

open Document (defaulted list? flag? text? nullable?) in
def ofDocument? (document : Document) : Option Page := do
  let members ← document.structure? ["records", "done", "nextRecordsUrl"] .allowed
  return ⟨← defaulted members "records" (list? Document.toJson?) [],
    ← defaulted members "done" flag? false,
    ← defaulted members "nextRecordsUrl" (nullable? text?) none⟩

/-- Where to go on: a page which is done is the last one, whatever it points to. -/
def next? (page : Page) : Option String :=
  if page.isDone then none else page.locator

end Page

def describedFields? (document : Document) : Option (List String) := do
  let name (field : Document) : Option String := do
    let members ← field.structure? ["name"] .allowed
    Document.required members "name" Document.text?
  let members ← document.structure? ["fields"] .allowed
  return sortNames (← Document.required members "fields" (Document.list? name))

end Dossier.Remote
