import LinkRegistry.Wire.Message

/-!
# Messages field by field

**Input.** JSON values that are read as messages or as parts of them.

**Rule.** A reading in several fields gives a value exactly if each field does, in whatever
order the problems of the others are collected.  An object is needed even where no field is.

**Results.**
* One equivalence for each kind of object, such as `LinkBody.read_eq_ok_iff`: it is read as a
  value exactly if it is an object and each field is read as that part of the value.
* `nullable_orNull`, `array_map`, `Peer.ofWire_toRecord`: what is printed is read back where its
  parts are; peers always are.
-/

namespace LinkRegistry

/-- The value is an object. -/
def Json.IsObject (j : Json) : Prop :=
  ∃ fields, j = .object fields

namespace Wire

section Readings

variable {α β : Type}

/-- The reading gives a value with the property. -/
def Reading.Gives (r : Reading α) (P : α → Prop) : Prop :=
  ∃ a, r = .ok a ∧ P a

/-- The property passes from a result to the function, so the fields come in their order. -/
theorem Reading.gives_arg {f : Reading (α → β)} {a : Reading α} {P : β → Prop} :
    (arg a f).Gives P ↔ f.Gives fun g => ∃ x, a = .ok x ∧ P (g x) := by
  cases f <;> cases a <;> simp [Gives, arg]

theorem Reading.gives_of {a : α} {P : α → Prop} : (of a).Gives P ↔ P a := by
  simp [Gives, of]

theorem object_eq_ok_iff {read : Json → Reading α} {j : Json} {a : α} :
    object read j = .ok a ↔ j.IsObject ∧ (read j).Gives (· = a) := by
  cases j <;> simp [object, Json.IsObject, Reading.fail, Reading.Gives]

theorem required_eq_ok_iff {name : String} {read : Json → Reading α} {j : Json} {a : α} :
    required name read j = .ok a ↔ ∃ v, j.field? name = some v ∧ read v = .ok a := by
  unfold required
  cases j.field? name with
  | none => simp [Reading.inside, Reading.fail]
  | some v => simp [Reading.inside_eq_ok_iff]

theorem optional_eq_ok_iff {name : String} {absent : α} {read : Json → Reading α} {j : Json}
    {a : α} :
    optional name absent read j = .ok a ↔
      (j.field? name = none ∧ absent = a) ∨ ∃ v, j.field? name = some v ∧ read v = .ok a := by
  unfold optional
  cases j.field? name with
  | none => simp
  | some v => simp [Reading.inside_eq_ok_iff]

theorem itemsFrom_cons_eq_ok_iff {read : Json → Reading α} {k : Nat} {j : Json} {js : List Json}
    {as : List α} :
    itemsFrom read k (j :: js) = .ok as ↔
      ∃ a as', read j = .ok a ∧ itemsFrom read (k + 1) js = .ok as' ∧ a :: as' = as := by
  constructor
  · intro h
    obtain ⟨g, as', hhead, htail, rfl⟩ := Reading.arg_eq_ok_iff.mp h
    obtain ⟨_, a, hof, hitem, rfl⟩ := Reading.arg_eq_ok_iff.mp hhead
    cases hof
    exact ⟨a, as', Reading.inside_eq_ok_iff.mp hitem, htail, rfl⟩
  · rintro ⟨a, as', hitem, htail, rfl⟩
    simp [itemsFrom, Reading.of, Reading.arg, Reading.inside, hitem, htail]

theorem optional_of_field {name : String} {absent : α} {read : Json → Reading α} {j v : Json}
    {a : α} (hfield : j.field? name = some v) (hv : read v = .ok a) :
    optional name absent read j = .ok a :=
  optional_eq_ok_iff.mpr (Or.inr ⟨v, hfield, hv⟩)

end Readings

section Printed

variable {α : Type} {read : Json → Reading α} {write : α → Json}

theorem nullable_of_ne {j : Json} (hj : j ≠ .null) : nullable read j = (read j).map some := by
  unfold nullable
  split
  · exact absurd rfl hj
  · rfl

theorem read_of_nullable {j : Json} {a : α} (h : nullable read j = .ok (some a)) :
    read j = .ok a := by
  have hj : j ≠ .null := by
    rintro rfl
    cases h
  rw [nullable_of_ne hj] at h
  obtain ⟨a', ha, heq⟩ := Reading.exists_of_map_eq_ok h
  cases heq
  exact ha

/-- What may be null has to be printed apart from null. -/
theorem nullable_orNull (hne : ∀ a, write a ≠ .null) {o : Option α}
    (h : ∀ a, o = some a → read (write a) = .ok a) :
    nullable read (Json.orNull write o) = .ok o := by
  cases o with
  | none => rfl
  | some a =>
      change nullable read (write a) = _
      rw [nullable_of_ne (hne a), h a rfl]
      rfl

theorem itemsFrom_map {as : List α} (h : ∀ a ∈ as, read (write a) = .ok a) (k : Nat) :
    itemsFrom read k (as.map write) = .ok as := by
  induction as generalizing k with
  | nil => rfl
  | cons a as ih =>
      have hhead := h a List.mem_cons_self
      have htail := ih (fun x hx => h x (List.mem_cons_of_mem a hx)) (k + 1)
      exact itemsFrom_cons_eq_ok_iff.mpr ⟨a, as, hhead, htail, rfl⟩

theorem array_map {as : List α} (h : ∀ a ∈ as, read (write a) = .ok a) :
    array read (.array (as.map write)) = .ok as :=
  itemsFrom_map h 0

theorem array_texts (ss : List String) : array text (Json.texts ss) = .ok ss :=
  array_map fun _ _ => rfl

end Printed

end Wire

section Domain

open Wire

theorem Routing.ofWire_eq_ok_iff {j : Json} {r : Routing} :
    ofWire j = .ok r ↔ j.IsObject ∧
      optional "allowed_ips" none (nullable (array text)) j = .ok r.allowed := by
  cases r
  simp only [ofWire, object_eq_ok_iff, Reading.gives_arg, Reading.gives_of, mk.injEq]
  -- each field that was read is the part of the value that it has to be
  grind

theorem Routing.ofWire_toRecord (r : Routing) : ofWire r.toRecord = .ok r :=
  ofWire_eq_ok_iff.mpr
    ⟨⟨_, rfl⟩, optional_of_field rfl (nullable_orNull nofun fun ips _ => array_texts ips)⟩

theorem Peer.ofWire_eq_ok_iff {j : Json} {p : Peer} :
    ofWire j = .ok p ↔ j.IsObject ∧
      optional "node_id" "" text j = .ok p.node ∧
      optional "interface_id" "" text j = .ok p.interface ∧
      optional "routing_rules" none (nullable Routing.ofWire) j = .ok p.routing := by
  cases p
  simp only [ofWire, object_eq_ok_iff, Reading.gives_arg, Reading.gives_of, mk.injEq]
  grind

theorem Peer.ofWire_toRecord (p : Peer) : ofWire p.toRecord = .ok p :=
  ofWire_eq_ok_iff.mpr
    ⟨⟨_, rfl⟩, optional_of_field rfl rfl, optional_of_field rfl rfl,
      optional_of_field rfl (nullable_orNull nofun fun r _ => r.ofWire_toRecord)⟩

theorem array_peersToRecord (ps : List Peer) : array Peer.ofWire (peersToRecord ps) = .ok ps :=
  array_map fun p _ => p.ofWire_toRecord

theorem Summary.ofWire_eq_ok_iff {j : Json} {s : Summary} :
    ofWire j = .ok s ↔ j.IsObject ∧
      required "id" text j = .ok s.id ∧
      required "network_id" text j = .ok s.network ∧
      optional "node_ids" [] (array text) j = .ok s.nodes ∧
      optional "peers" [] (array text) j = .ok s.interfaces ∧
      optional "peer_settings" [] (array Peer.ofWire) j = .ok s.peers ∧
      optional "persistent_keepalive" none (nullable integer) j = .ok s.keepalive ∧
      optional "bytes_transferred" 0 integer j = .ok s.bytes ∧
      optional "created_at" none (nullable time) j = .ok s.created ∧
      optional "updated_at" none (nullable time) j = .ok s.updated := by
  cases s
  simp only [ofWire, object_eq_ok_iff, Reading.gives_arg, Reading.gives_of, mk.injEq]
  grind

end Domain

namespace Wire

theorem LinkBody.read_eq_ok_iff {j : Json} {b : LinkBody} :
    read j = .ok b ↔ j.IsObject ∧
      optional "id" "" text j = .ok b.id ∧
      optional "network_id" "" text j = .ok b.network ∧
      optional "peer_settings" none (nullable (array Peer.ofWire)) j = .ok b.peers ∧
      optional "persistent_keepalive" none (nullable natural) j = .ok b.keepalive ∧
      optional "created_at" none (nullable time) j = .ok b.created ∧
      optional "updated_at" none (nullable time) j = .ok b.updated := by
  cases b
  simp only [read, object_eq_ok_iff, Reading.gives_arg, Reading.gives_of, mk.injEq]
  grind

theorem PageOptions.read_eq_ok_iff {j : Json} {o : PageOptions} :
    read j = .ok o ↔ j.IsObject ∧
      optional "prefix" none (nullable text) j = .ok o.idStart ∧
      optional "per_page" none (nullable positive) j = .ok o.size ∧
      optional "next_token" none (nullable text) j = .ok o.token := by
  cases o
  simp only [read, object_eq_ok_iff, Reading.gives_arg, Reading.gives_of, mk.injEq]
  grind

theorem WriteOptions.read_eq_ok_iff {j : Json} {o : WriteOptions} :
    read j = .ok o ↔ j.IsObject := by
  rw [read, object_eq_ok_iff]
  exact and_iff_left ⟨_, rfl, rfl⟩

theorem Note.read_eq_ok_iff {j : Json} {n : Note} :
    read j = .ok n ↔ j.IsObject ∧
      optional "last_index" Note.initial.lastIndex integer j = .ok n.lastIndex ∧
      optional "known_leader" Note.initial.knownLeader boolean j = .ok n.knownLeader := by
  cases n
  simp only [read, object_eq_ok_iff, Reading.gives_arg, Reading.gives_of, mk.injEq]
  grind

theorem FetchRequest.read_eq_ok_iff {j : Json} {r : FetchRequest} :
    read j = .ok r ↔ j.IsObject ∧
      required "connection_id" text j = .ok r.id ∧
      optional "query_options" PageOptions.all PageOptions.read j = .ok r.options := by
  cases r
  simp only [read, object_eq_ok_iff, Reading.gives_arg, Reading.gives_of, mk.injEq]
  grind

theorem LinkAnswer.read_eq_ok_iff {j : Json} {a : LinkAnswer} :
    read j = .ok a ↔ j.IsObject ∧
      required "connection" LinkBody.read j = .ok a.link ∧
      optional "meta" Note.initial Note.read j = .ok a.note := by
  cases a
  simp only [read, object_eq_ok_iff, Reading.gives_arg, Reading.gives_of, mk.injEq]
  grind

theorem UpsertRequest.read_eq_ok_iff {j : Json} {r : UpsertRequest} :
    read j = .ok r ↔ j.IsObject ∧
      required "connection" LinkBody.read j = .ok r.link ∧
      optional "write_options" {} WriteOptions.read j = .ok r.options := by
  cases r
  simp only [read, object_eq_ok_iff, Reading.gives_arg, Reading.gives_of, mk.injEq]
  grind

theorem DeleteRequest.read_eq_ok_iff {j : Json} {r : DeleteRequest} :
    read j = .ok r ↔ j.IsObject ∧
      required "connection_ids" (nonemptyArray text) j = .ok r.ids ∧
      optional "write_options" {} WriteOptions.read j = .ok r.options := by
  cases r
  simp only [read, object_eq_ok_iff, Reading.gives_arg, Reading.gives_of, mk.injEq]
  grind

theorem ListRequest.read_eq_ok_iff {j : Json} {r : ListRequest} :
    read j = .ok r ↔ j.IsObject ∧
      optional "interface_id" none (nullable text) j = .ok r.interface ∧
      optional "node_id" none (nullable text) j = .ok r.node ∧
      optional "network_id" none (nullable text) j = .ok r.network ∧
      optional "query_options" PageOptions.all PageOptions.read j = .ok r.options := by
  cases r
  simp only [read, object_eq_ok_iff, Reading.gives_arg, Reading.gives_of, mk.injEq]
  grind

theorem ListAnswer.read_eq_ok_iff {j : Json} {a : ListAnswer} :
    read j = .ok a ↔ j.IsObject ∧
      optional "items" [] (array Summary.ofWire) j = .ok a.items ∧
      optional "next_token" none (nullable text) j = .ok a.next ∧
      optional "meta" Note.initial Note.read j = .ok a.note := by
  cases a
  simp only [read, object_eq_ok_iff, Reading.gives_arg, Reading.gives_of, mk.injEq]
  grind

theorem AllowRequest.read_eq_ok_iff {j : Json} {r : AllowRequest} :
    read j = .ok r ↔ j.IsObject ∧
      required "ip" nonemptyText j = .ok r.ip ∧
      optional "write_options" {} WriteOptions.read j = .ok r.options := by
  cases r
  simp only [read, object_eq_ok_iff, Reading.gives_arg, Reading.gives_of, mk.injEq]
  grind

end Wire
end LinkRegistry
