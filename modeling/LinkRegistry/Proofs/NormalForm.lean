import LinkRegistry.Proofs.FieldReading
import LinkRegistry.Proofs.WireTime

/-!
# The printed form of a message is a normal form

**Input.** JSON values that are accepted as messages, in any of the forms that stand for a
text, a number, a truth value or a time, with fields left out and unknown ones.

**Rule.** Printing writes every field in one form, which reading takes for the same value: a
time keeps its offset, what is absent is null where null is allowed, and a default is
accepted where it stands.

**Results.**
* `Stable`, with one lemma for each way to build a reading: what is read is read again from
  its printed form.
* `Message.stable`: this holds of every kind of message.
* `Message.normalize_of_normalize`: the printed form is accepted, and printed unchanged.
-/

namespace LinkRegistry
namespace Wire

/-- Whatever is read, its printed form is read as the same. -/
def Stable {α : Type} (read : Json → Reading α) (write : α → Json) : Prop :=
  ∀ j a, read j = .ok a → read (write a) = .ok a

section Scalars

theorem stable_text : Stable text Json.text :=
  fun _ _ _ => rfl

theorem stable_nonemptyText : Stable nonemptyText Json.text := by
  intro j s h
  unfold nonemptyText at h
  split at h
  · cases h
  · cases h
    simp [nonemptyText]
  · cases h

theorem stable_integer : Stable integer Json.int :=
  fun _ _ _ => rfl

theorem stable_natural : Stable natural fun n : Nat => Json.int n :=
  fun _ _ _ => rfl

theorem stable_positive : Stable positive fun n : Nat => Json.int n := by
  intro j n h
  unfold positive at h
  split at h
  · cases h
    rfl
  · cases h
  · cases h

theorem stable_boolean : Stable boolean Json.bool :=
  fun _ _ _ => rfl

theorem stable_time : Stable time timeJson :=
  fun _ _ h => time_timeJson (wholeMinutes_of_time h)

end Scalars

section Parts

variable {α : Type} {read : Json → Reading α} {write : α → Json}

theorem Stable.nullable (h : Stable read write) (hne : ∀ a, write a ≠ .null) :
    Stable (nullable read) (Json.orNull write) := by
  intro j o ho
  refine nullable_orNull hne ?_
  rintro a rfl
  exact h j a (read_of_nullable ho)

/-- Each item that is read is read from some value. -/
theorem exists_of_mem_itemsFrom {js : List Json} {k : Nat} {as : List α}
    (h : itemsFrom read k js = .ok as) : ∀ a ∈ as, ∃ j, read j = .ok a := by
  -- on the items, from whatever index they are counted
  induction js generalizing k as with
  | nil =>
      cases h
      exact fun a ha => nomatch ha
  | cons j js ih =>
      obtain ⟨a, as', hitem, htail, rfl⟩ := itemsFrom_cons_eq_ok_iff.mp h
      intro x hx
      rcases List.mem_cons.mp hx with rfl | hx
      · exact ⟨j, hitem⟩
      · exact ih htail x hx

theorem Stable.array (h : Stable read write) :
    Stable (array read) fun as => .array (as.map write) := by
  intro j as has
  cases j with
  | array items =>
      refine array_map fun a ha => ?_
      obtain ⟨j, hj⟩ := exists_of_mem_itemsFrom has a ha
      exact h j a hj
  | null | bool _ | int _ | real _ | nonFinite | text _ | object _ => cases has

theorem nonemptyArray_eq_ok_iff {j : Json} {as : List α} :
    nonemptyArray read j = .ok as ↔ array read j = .ok as ∧ as ≠ [] := by
  unfold nonemptyArray
  split
  · rename_i hempty
    simp only [hempty, Reading.fail]
    grind
  · rename_i hne
    refine ⟨fun h => ⟨h, ?_⟩, And.left⟩
    rintro rfl
    exact hne h

theorem Stable.nonemptyArray (h : Stable read write) :
    Stable (nonemptyArray read) fun as => .array (as.map write) := by
  intro j as has
  obtain ⟨hread, hne⟩ := nonemptyArray_eq_ok_iff.mp has
  exact nonemptyArray_eq_ok_iff.mpr ⟨h.array j as hread, hne⟩

theorem stable_texts : Stable (Wire.array text) Json.texts :=
  stable_text.array

theorem stable_textOrNull : Stable (Wire.nullable text) (Json.orNull .text) :=
  stable_text.nullable nofun

theorem stable_timeOrNull : Stable (Wire.nullable time) (Json.orNull timeJson) := by
  refine stable_time.nullable fun t => ?_
  simp [timeJson]

variable {name : String} {j j' : Json} {a absent : α}

theorem Stable.required (h : Stable read write) (ha : required name read j = .ok a)
    (hfield : j'.field? name = some (write a)) : required name read j' = .ok a := by
  obtain ⟨v, -, hv⟩ := required_eq_ok_iff.mp ha
  exact required_eq_ok_iff.mpr ⟨write a, hfield, h v a hv⟩

/-- A field that was left out is printed as its default, which has to be accepted. -/
theorem Stable.optional (h : Stable read write) (habsent : read (write absent) = .ok absent)
    (ha : optional name absent read j = .ok a) (hfield : j'.field? name = some (write a)) :
    optional name absent read j' = .ok a := by
  refine optional_of_field hfield ?_
  rcases optional_eq_ok_iff.mp ha with ⟨-, rfl⟩ | ⟨v, -, hv⟩
  · exact habsent
  · exact h v a hv

end Parts

end Wire

section Domain

open Wire

theorem Routing.stable : Stable ofWire toRecord :=
  fun _ r _ => r.ofWire_toRecord

theorem Peer.stable : Stable ofWire toRecord :=
  fun _ p _ => p.ofWire_toRecord

theorem Summary.stable : Stable ofWire toWire := by
  intro j s h
  obtain ⟨-, hid, hnetwork, hnodes, hinterfaces, hpeers, hkeepalive, hbytes, hcreated,
    hupdated⟩ := ofWire_eq_ok_iff.mp h
  exact ofWire_eq_ok_iff.mpr
    ⟨⟨_, rfl⟩,
      stable_text.required hid rfl,
      stable_text.required hnetwork rfl,
      stable_texts.optional rfl hnodes rfl,
      stable_texts.optional rfl hinterfaces rfl,
      Peer.stable.array.optional rfl hpeers rfl,
      (stable_integer.nullable nofun).optional rfl hkeepalive rfl,
      stable_integer.optional rfl hbytes rfl,
      stable_timeOrNull.optional rfl hcreated rfl,
      stable_timeOrNull.optional rfl hupdated rfl⟩

end Domain

namespace Wire

theorem LinkBody.stable : Stable read write := by
  intro j b h
  obtain ⟨-, hid, hnetwork, hpeers, hkeepalive, hcreated, hupdated⟩ := read_eq_ok_iff.mp h
  exact read_eq_ok_iff.mpr
    ⟨⟨_, rfl⟩,
      stable_text.optional rfl hid rfl,
      stable_text.optional rfl hnetwork rfl,
      (Peer.stable.array.nullable nofun).optional rfl hpeers rfl,
      (stable_natural.nullable nofun).optional rfl hkeepalive rfl,
      stable_timeOrNull.optional rfl hcreated rfl,
      stable_timeOrNull.optional rfl hupdated rfl⟩

theorem PageOptions.stable : Stable read write := by
  intro j o h
  obtain ⟨-, hstart, hsize, htoken⟩ := read_eq_ok_iff.mp h
  exact read_eq_ok_iff.mpr
    ⟨⟨_, rfl⟩,
      stable_textOrNull.optional rfl hstart rfl,
      (stable_positive.nullable nofun).optional rfl hsize rfl,
      stable_textOrNull.optional rfl htoken rfl⟩

theorem WriteOptions.stable : Stable read write :=
  fun _ _ _ => read_eq_ok_iff.mpr ⟨_, rfl⟩

theorem Note.stable : Stable read write := by
  intro j n h
  obtain ⟨-, hindex, hleader⟩ := read_eq_ok_iff.mp h
  exact read_eq_ok_iff.mpr
    ⟨⟨_, rfl⟩, stable_integer.optional rfl hindex rfl, stable_boolean.optional rfl hleader rfl⟩

theorem FetchRequest.stable : Stable read write := by
  intro j r h
  obtain ⟨-, hid, hoptions⟩ := read_eq_ok_iff.mp h
  exact read_eq_ok_iff.mpr
    ⟨⟨_, rfl⟩, stable_text.required hid rfl, PageOptions.stable.optional rfl hoptions rfl⟩

theorem LinkAnswer.stable : Stable read write := by
  intro j a h
  obtain ⟨-, hlink, hnote⟩ := read_eq_ok_iff.mp h
  exact read_eq_ok_iff.mpr
    ⟨⟨_, rfl⟩, LinkBody.stable.required hlink rfl, Note.stable.optional rfl hnote rfl⟩

theorem UpsertRequest.stable : Stable read write := by
  intro j r h
  obtain ⟨-, hlink, hoptions⟩ := read_eq_ok_iff.mp h
  exact read_eq_ok_iff.mpr
    ⟨⟨_, rfl⟩, LinkBody.stable.required hlink rfl, WriteOptions.stable.optional rfl hoptions rfl⟩

theorem DeleteRequest.stable : Stable read write := by
  intro j r h
  obtain ⟨-, hids, hoptions⟩ := read_eq_ok_iff.mp h
  exact read_eq_ok_iff.mpr
    ⟨⟨_, rfl⟩, stable_text.nonemptyArray.required hids rfl,
      WriteOptions.stable.optional rfl hoptions rfl⟩

theorem ListRequest.stable : Stable read write := by
  intro j r h
  obtain ⟨-, hinterface, hnode, hnetwork, hoptions⟩ := read_eq_ok_iff.mp h
  exact read_eq_ok_iff.mpr
    ⟨⟨_, rfl⟩,
      stable_textOrNull.optional rfl hinterface rfl,
      stable_textOrNull.optional rfl hnode rfl,
      stable_textOrNull.optional rfl hnetwork rfl,
      PageOptions.stable.optional rfl hoptions rfl⟩

theorem ListAnswer.stable : Stable read write := by
  intro j a h
  obtain ⟨-, hitems, hnext, hnote⟩ := read_eq_ok_iff.mp h
  exact read_eq_ok_iff.mpr
    ⟨⟨_, rfl⟩,
      Summary.stable.array.optional rfl hitems rfl,
      stable_textOrNull.optional rfl hnext rfl,
      Note.stable.optional rfl hnote rfl⟩

theorem AllowRequest.stable : Stable read write := by
  intro j r h
  obtain ⟨-, hip, hoptions⟩ := read_eq_ok_iff.mp h
  exact read_eq_ok_iff.mpr
    ⟨⟨_, rfl⟩, stable_nonemptyText.required hip rfl, WriteOptions.stable.optional rfl hoptions rfl⟩

theorem Reading.eq_ok_of_toOption {α : Type} {r : Reading α} {a : α}
    (h : r.toOption = some a) : r = .ok a := by
  cases r with
  | error ps => cases h
  | ok b =>
      cases h
      rfl

namespace Message

/-- The laws of all kinds, one for each. -/
theorem stable (k : Message) : Stable k.read k.write := by
  cases k with
  | pageOptions => exact PageOptions.stable
  | writeOptions => exact WriteOptions.stable
  | note => exact Note.stable
  | routing => exact Routing.stable
  | peer => exact Peer.stable
  | link => exact LinkBody.stable
  | summary => exact Summary.stable
  | fetchRequest => exact FetchRequest.stable
  | linkAnswer => exact LinkAnswer.stable
  | upsertRequest => exact UpsertRequest.stable
  | deleteRequest => exact DeleteRequest.stable
  | listRequest => exact ListRequest.stable
  | listAnswer => exact ListAnswer.stable
  | allowRequest => exact AllowRequest.stable

/-- Whatever is accepted as a message, its printed form is accepted as a message of the same
kind, and is printed as it is. -/
theorem normalize_of_normalize {k : Message} {j j' : Json} (h : k.normalize j = .ok j') :
    k.normalize j' = .ok j' := by
  obtain ⟨a, ha, rfl⟩ := Reading.exists_of_map_eq_ok h
  have hread := k.stable j a ha
  unfold normalize
  rw [hread]
  rfl

/-- A numeral with blanks around it and a grouping mark, seconds since 1970, an offset of no
size to the west, a field that is not known, and fields that are left out. -/
def trialMessage : Json :=
  .object [("kind", .bool true), ("id", .text "c"), ("persistent_keepalive", .text " 2_5.0 "),
    ("created_at", .int 1700000000), ("updated_at", .text "2024-03-01 05:30:00.5-00:00"),
    ("peer_settings",
      .array [.object [("interface_id", .text "i"), ("routing_rules", .object [])]])]

/-- What the message carries. -/
def trialPayload : LinkBody where
  id := "c"
  network := ""
  peers := some [⟨"", "i", some ⟨none⟩⟩]
  keepalive := some 25
  created := some ⟨⟨2023, 11, 14, by decide⟩, ⟨22, 13, 20, 0, by decide⟩, some Time.Offset.utc⟩
  updated := some ⟨⟨2024, 3, 1, by decide⟩, ⟨5, 30, 0, 500000, by decide⟩,
    some Time.Offset.utc⟩

theorem normalize_of_normalize_trial :
    link.normalize trialMessage = .ok trialPayload.write ∧
      link.normalize trialPayload.write = .ok trialPayload.write := by
  have hread : link.read trialMessage = .ok trialPayload :=
    Reading.eq_ok_of_toOption (show (LinkBody.read trialMessage).toOption = some trialPayload by
      decide +kernel)
  have hnormal : link.normalize trialMessage = .ok trialPayload.write := by
    unfold normalize
    rw [hread]
    rfl
  exact ⟨hnormal, normalize_of_normalize hnormal⟩

end Message
end Wire
end LinkRegistry
