import LinkRegistry.Registry.Event
import LinkRegistry.Registry.Filter

/-!
# Operations on a registry

**Input.** A registry, an operation and the time.

**Rule.** Storing a link requires an id and a sound link.  Both ends get routing, the time
of creation is that of the replaced link, or else the link's own, or else now, and the
time of change is now.  A patch and an allowed range apply to the stored link, whose
time of change becomes now.  Links are deleted all together or not at all.  Every
write that succeeds raises the index by one; clearing takes it back to zero.

**Results.** An operation that is refused leaves the registry as it was
(`step_registry_of_error`).
-/

namespace LinkRegistry

/-- An operation on a registry. -/
inductive Operation where
  /-- Store the link, replacing the one with its id. -/
  | upsert (l : Link)
  /-- Change the stored link. -/
  | patch (id : String) (p : Patch)
  /-- Allow the range at both ends of the stored link. -/
  | allow (id ip : String)
  /-- Look up the stored link. -/
  | get (id : String)
  /-- Delete the stored links. -/
  | delete (ids : List String)
  /-- List the stored links that the filter admits. -/
  | list (f : Filter)
  /-- Delete everything and count anew. -/
  | clear
  deriving DecidableEq

/-- What a successful operation returns. -/
inductive Reply where
  /-- The stored link and the index that the write reached. -/
  | written (l : Link) (index : Nat)
  /-- The stored link and the index of the registry. -/
  | found (l : Link) (index : Nat)
  /-- The index that the deletion reached. -/
  | deleted (index : Nat)
  | listed (ss : List Summary)
  | cleared
  deriving DecidableEq

/-- What an operation returns, reports and leaves behind. -/
structure Outcome where
  reply : Except Fault Reply
  events : List Event
  registry : Registry

namespace Registry

/-- The operation is refused without a report. -/
def refuse (r : Registry) (f : Fault) : Outcome :=
  ⟨.error f, [], r⟩

/-- A link is written under a key. -/
def commit (r : Registry) (key : String) (l : Link) (event : Nat → Event) : Outcome :=
  let r' := r.write (r.entries.store key l)
  ⟨.ok (.written l r'.index), [event r'.index], r'⟩

/-- The time of creation of a link that is stored now. -/
def creationTime (r : Registry) (l : Link) (now : Time.Timestamp) :
    Option Time.Timestamp :=
  match r.find? l.id with
  | some old => old.created
  | none => some (l.created.getD now)

/-- A link in the form in which it is stored now. -/
def stored (r : Registry) (now : Time.Timestamp) (l : Link) : Link :=
  { l.withRouting with created := r.creationTime l now, updated := some now }

/-- Store a link. -/
def upsert (r : Registry) (now : Time.Timestamp) (l : Link) : Outcome :=
  if l.id = "" then r.refuse .noId
  else
    match l.validate with
    | .error f => ⟨.error f, [.rejected l.id f], r⟩
    | .ok () =>
        r.commit l.id (r.stored now l)
          (if (r.find? l.id).isSome then Event.updated l.id else Event.created l.id)

/-- Change a stored link. -/
def patch (r : Registry) (now : Time.Timestamp) (id : String) (p : Patch) : Outcome :=
  match r.find? id with
  | none => r.refuse (.unknownId id)
  | some l =>
      match l.merge p with
      | .error f => r.refuse f
      | .ok merged =>
          match merged.validate with
          | .error f => ⟨.error f, [.rejected merged.id f], r⟩
          | .ok () =>
              r.commit id { merged.withRouting with updated := some now } (Event.patched id)

/-- Allow a range at both ends of a stored link. -/
def allow (r : Registry) (now : Time.Timestamp) (id ip : String) : Outcome :=
  match r.find? id with
  | none => r.refuse (.unknownId id)
  | some l =>
      match l.allow ip with
      | .error f => r.refuse f
      | .ok changed => r.commit id { changed with updated := some now } (Event.allowed ip id)

/-- Look up a stored link. -/
def get (r : Registry) (id : String) : Outcome :=
  match r.find? id with
  | none => r.refuse (.unknownId id)
  | some l => ⟨.ok (.found l r.index), [], r⟩

/-- Delete stored links. -/
def delete (r : Registry) (ids : List String) : Outcome :=
  match ids.find? fun id => (r.find? id).isNone with
  | some id => r.refuse (.unknownId id)
  | none =>
      let r' := r.write (r.entries.remove ids)
      ⟨.ok (.deleted r'.index), [.deleted ids.eraseDups.length r'.index], r'⟩

/-- List stored links. -/
def list (r : Registry) (f : Filter) : Outcome :=
  match f.summaries r.entries with
  | .error fault => r.refuse fault
  | .ok ss => ⟨.ok (.listed ss), [], r⟩

/-- Carry out an operation. -/
def step (r : Registry) (now : Time.Timestamp) : Operation → Outcome
  | .upsert l => r.upsert now l
  | .patch id p => r.patch now id p
  | .allow id ip => r.allow now id ip
  | .get id => r.get id
  | .delete ids => r.delete ids
  | .list f => r.list f
  | .clear => ⟨.ok .cleared, [], empty⟩

/-- Carry out operations, each at its time. -/
def run : Registry → List (Time.Timestamp × Operation) → List Outcome × Registry
  | r, [] => ([], r)
  | r, (now, op) :: ops =>
      let o := r.step now op
      let (os, last) := run o.registry ops
      (o :: os, last)

theorem step_registry_of_error (r : Registry) (now : Time.Timestamp) (op : Operation)
    (f : Fault) (h : (r.step now op).reply = .error f) :
    (r.step now op).registry = r := by
  cases op with
  | upsert l =>
      simp only [step, upsert] at h ⊢
      by_cases hid : l.id = ""
      · simp [hid, refuse]
      · cases hv : l.validate <;> simp_all [commit]
  | patch id p =>
      simp only [step, patch] at h ⊢
      cases hl : r.find? id with
      | none => rfl
      | some l =>
          cases hm : l.merge p with
          | error f => simp [hm, refuse]
          | ok merged => cases hv : merged.validate <;> simp_all [commit]
  | allow id ip =>
      simp only [step, allow] at h ⊢
      cases hl : r.find? id with
      | none => rfl
      | some l => cases hc : l.allow ip <;> simp_all [commit, refuse]
  | get id =>
      simp only [step, get]
      cases r.find? id <;> rfl
  | delete ids =>
      simp only [step, delete] at h ⊢
      cases hf : ids.find? fun id => (r.find? id).isNone <;> simp_all [refuse]
  | list f =>
      simp only [step, list]
      cases f.summaries r.entries <;> rfl
  | clear => simp [step] at h

end Registry
end LinkRegistry
