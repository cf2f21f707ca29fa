import LinkRegistry.Registry.Operation
import LinkRegistry.Service.Route
import LinkRegistry.Wire.Message
import LinkRegistry.Wire.Quote

/-!
# Requests and responses

**Input.** Method, path, query and body of a request; what the registry replies.

**Rule.** A body is a JSON value by the time that it gets here.  The last of several query
values counts.  A body has to be there where one is read.  A reply with a link is answered
with its wire form; a link that has none breaks the answer, but not the write.  Faults about
unknown ids are answered with status 404, other faults with 400, and problems of the query
or the body with 422.  An answer with problems quotes what they were found in, so one that
would quote a number that is not finite cannot be written, and fails.  A path that is
unknown only for the slashes at its end is answered with status 307.

**Results.** Problems of a body whose numbers are finite are answered
(`ofProblems_eq_invalid`).
-/

namespace LinkRegistry
namespace Service

open Wire

/-- A request; the path and the query are decoded, and the body is parsed. -/
structure Request where
  method : String
  path : String
  query : List (String × String)
  body : Option Json

namespace Request

/-- The last value of a query key. -/
def queryValue? (r : Request) (key : String) : Option String :=
  r.query.reverse.lookup key

/-- The request as one value, of which the body is a field. -/
def document (r : Request) : Json :=
  .object (r.body.toList.map fun j => ("body", j))

theorem document_isFinite {r : Request} (h : ∀ j ∈ r.body, j.isFinite = true) :
    r.document.isFinite = true := by
  unfold document
  cases hb : r.body with
  | none => rfl
  | some j =>
      have finite := h j hb
      simp [Json.isFinite, Json.fieldsFinite, finite]

/-- Read the body. -/
def readBody {α : Type} (r : Request) (read : Json → Reading α) : Reading α :=
  Reading.inside (.field "body")
    (match r.body with
    | none => Reading.fail .missing
    | some j => read j)

/-- Read the size of a page from the query. -/
def pageSize (r : Request) : Reading (Option Nat) :=
  match r.queryValue? "per_page" with
  | none => .ok none
  | some s =>
      Reading.inside (.field "query")
        (Reading.inside (.field "per_page") ((positive (.text s)).map some))

/-- Read the query as a request for a listing. -/
def listRequest (r : Request) : Reading ListRequest :=
  r.pageSize.map fun size =>
    { interface := r.queryValue? "interface_id"
      node := r.queryValue? "node_id"
      network := r.queryValue? "network_id"
      options :=
        { idStart := r.queryValue? "prefix", size, token := r.queryValue? "next_token" } }

/-- What the request asks for, or else the methods that its path knows. -/
def action? (r : Request) : Option Action :=
  (actions r.path).lookup r.method

end Request

/-- The answer to a request. -/
inductive Response where
  | link (a : LinkAnswer)
  | page (a : ListAnswer)
  | note (n : Note)
  /-- The registry, or the link in the body, is at fault. -/
  | refused (f : Fault)
  /-- The query or the body has problems. -/
  | invalid (ps : List Problem)
  /-- The link of the answer has no wire form. -/
  | broken (ps : List Problem)
  /-- The body has problems that cannot be quoted. -/
  | unwritable
  /-- The path is known without the slashes at its end. -/
  | moved (path : String)
  | unknownPath
  | wrongMethod
  deriving DecidableEq

namespace Response

/-- Status number. -/
def status : Response → Nat
  | link _ | page _ | note _ => 200
  | refused (.unknownId _) => 404
  | refused _ => 400
  | invalid _ => 422
  | broken _ | unwritable => 500
  | moved _ => 307
  | unknownPath => 404
  | wrongMethod => 405

/-- An answer that explains an error. -/
def detail (s : String) : Json :=
  .object [("detail", .text s)]

/-- The JSON value of an answer, unless it consists of problems or of a path. -/
def body? : Response → Option Json
  | link a => some a.write
  | page a => some a.write
  | note n => some n.write
  | refused f => some (detail f.message)
  | unknownPath => some (detail "Not Found")
  | wrongMethod => some (detail "Method Not Allowed")
  | invalid _ | broken _ | unwritable | moved _ => none

/-- Why an answer that could not be written failed. -/
def failure? : Response → Option String
  | unwritable => some "Out of range float values are not JSON compliant"
  | _ => none

/-- The answer at a path where the request asks for nothing. -/
def unrouted (path : String) : Response :=
  if (actions path).isEmpty then
    match redirect? path with
    | some known => moved known
    | none => unknownPath
  else wrongMethod

/-- The answer to a request that has problems. -/
def ofProblems (r : Request) (ps : List Problem) : Response :=
  if ps.all (Problem.isWritable · r.document) then invalid ps else unwritable

theorem ofProblems_eq_invalid {r : Request} (ps : List Problem)
    (h : ∀ j ∈ r.body, j.isFinite = true) : ofProblems r ps = invalid ps := by
  have writable : ps.all (Problem.isWritable · r.document) = true :=
    List.all_eq_true.mpr fun p _ => p.isWritable_of_isFinite (Request.document_isFinite h)
  rw [ofProblems, if_pos writable]

/-- The answer with a link. -/
def ofLink (l : Link) (index : Nat) : Response :=
  match LinkBody.ofLink l with
  | .ok b => link ⟨b, Note.ofIndex index⟩
  | .error ps => broken ps

/-- The answer with the page that the options ask for. -/
def ofListing (options : PageOptions) (index : Nat) (ss : List Summary) : Response :=
  let p := Page.ofListing options.token options.size ss
  page ⟨p.items, p.next, Note.ofIndex index⟩

/-- The answer to what the registry replies. -/
def ofOutcome (options : PageOptions) (o : Outcome) : Response :=
  match o.reply with
  | .error f => refused f
  | .ok (.written l n) => ofLink l n
  | .ok (.found l n) => ofLink l n
  | .ok (.deleted n) => note (Note.ofIndex n)
  | .ok (.listed ss) => ofListing options o.registry.index ss
  | .ok .cleared => note (Note.ofIndex o.registry.index)

end Response
end Service
end LinkRegistry
