import LinkRegistry.Link.Fresh
import LinkRegistry.Service.Exchange

/-!
# The service

**Input.** The state of the service, a request and the time.

**Rule.** The query or the body is read before the registry is asked.  A link without an
id gets a fresh one, and then the time of creation is now; the source of ids has moved on
even if the link is refused later.  A link without a keepalive interval gets the default
one, if there is one.

**Results.** A request that is not understood leaves the service as it was
(`handle_of_invalid`).
-/

namespace LinkRegistry
namespace Service

open Wire

/-- State of the service. -/
structure State where
  registry : Registry
  ids : IdSource
  defaultKeepalive : Option Int

/-- What is asked of the registry, and the source of ids that remains. -/
structure Order where
  operation : Operation
  options : PageOptions
  ids : IdSource

/-- The conditions of a request for a listing. -/
def filterOf (q : ListRequest) : Filter :=
  ⟨q.interface, q.node, q.network, q.options.idStart⟩

/-- The answer to a request, what was reported, and what it leaves behind. -/
structure Reaction where
  response : Response
  events : List Event
  state : State

namespace State

/-- The link with an id and a keepalive interval, and the source of ids that remains. -/
def complete (s : State) (now : Time.Timestamp) (l : Link) : Link × IdSource :=
  let withKeepalive (l : Link) : Link :=
    { l with keepalive := l.keepalive.or s.defaultKeepalive }
  if l.id = "" then
    let (fresh, rest) := Link.fresh l.network s.ids now
    (withKeepalive { l with id := fresh.id, created := fresh.created }, rest)
  else (withKeepalive l, s.ids)

/-- An order that draws no id and wants no page. -/
def plainOrder (s : State) (op : Operation) : Order :=
  ⟨op, PageOptions.all, s.ids⟩

/-- The order of a listing. -/
def listOrder (s : State) (q : ListRequest) : Order :=
  ⟨.list (filterOf q), q.options, s.ids⟩

/-- The operation for an action of a request. -/
def order (s : State) (now : Time.Timestamp) (r : Request) : Action → Except Response Order
  | .upsert =>
      match r.readBody UpsertRequest.read with
      | .error ps => .error (.ofProblems r ps)
      | .ok u =>
          match u.link.toLink with
          | .error f => .error (.refused f)
          | .ok l =>
              let (l, rest) := s.complete now l
              .ok ⟨.upsert l, PageOptions.all, rest⟩
  | .list =>
      match r.listRequest with
      | .error ps => .error (.ofProblems r ps)
      | .ok q => .ok (s.listOrder q)
  | .delete =>
      match r.readBody DeleteRequest.read with
      | .error ps => .error (.ofProblems r ps)
      | .ok d => .ok (s.plainOrder (.delete d.ids))
  | .fetch id => .ok (s.plainOrder (.get id))
  | .patch id =>
      match r.readBody LinkBody.read with
      | .error ps => .error (.ofProblems r ps)
      | .ok b => .ok (s.plainOrder (.patch id b.toPatch))
  | .allow id =>
      match r.readBody AllowRequest.read with
      | .error ps => .error (.ofProblems r ps)
      | .ok a => .ok (s.plainOrder (.allow id a.ip))

/-- Ask the registry. -/
def execute (s : State) (now : Time.Timestamp) (o : Order) : Reaction :=
  let out := s.registry.step now o.operation
  ⟨Response.ofOutcome o.options out, out.events,
    { s with registry := out.registry, ids := o.ids }⟩

/-- Answer a request. -/
def handle (s : State) (now : Time.Timestamp) (r : Request) : Reaction :=
  match r.action? with
  | none => ⟨.unrouted r.path, [], s⟩
  | some a =>
      match s.order now r a with
      | .error response => ⟨response, [], s⟩
      | .ok o => s.execute now o

/-- Answer requests, each at its time. -/
def serve : State → List (Time.Timestamp × Request) → List Reaction × State
  | s, [] => ([], s)
  | s, (now, r) :: rs =>
      let x := s.handle now r
      let (xs, last) := serve x.state rs
      (x :: xs, last)

/-- Forget all links and count anew; ids go on. -/
def reset (s : State) : State :=
  { s with registry := Registry.empty }

theorem handle_of_invalid (s : State) (now : Time.Timestamp) (r : Request)
    (ps : List Problem) (h : (s.handle now r).response = .invalid ps) :
    (s.handle now r).state = s := by
  unfold handle at h ⊢
  cases ha : r.action? with
  | none => rfl
  | some a =>
      simp only [ha] at h ⊢
      cases ho : s.order now r a with
      | error response => rfl
      | ok o =>
          simp only [ho, execute, Response.ofOutcome] at h
          split at h <;> simp_all [Response.ofLink, Response.ofListing]
          all_goals split at h <;> simp_all

end State
end Service
end LinkRegistry
