import LinkRegistry.Proofs.NormalForm
import LinkRegistry.Proofs.RecordRoundTrip
import LinkRegistry.Proofs.WireLink

/-!
# Records and wire forms stand for each other

**Input.** Links with offsets of whole minutes only, as records and as bodies of messages.

**Rule.** Both print the same fields with the same peers, and differ in how they print times.
Each of the two accepts the times of the other.

**Results.**
* `Describes.read_toRecord`: the record of a link is accepted as its body.
* `Describes.ofRecord_write`: the body of a link is accepted as its record.
* `interchangeable`: for every link that has a wire form, either way gives back the link.
-/

namespace LinkRegistry

/-- The times of the link, as far as known, have offsets of whole minutes only. -/
structure Link.WholeMinutes (l : Link) : Prop where
  created : ∀ t, l.created = some t → t.WholeMinutes
  updated : ∀ t, l.updated = some t → t.WholeMinutes

theorem Json.orNull_map {α β : Type} (write : β → Json) (f : α → β) (o : Option α) :
    orNull write (o.map f) = orNull (fun a => write (f a)) o := by
  cases o <;> rfl

open Wire

section Times

variable {time : Option Time.Timestamp} (ht : ∀ t, time = some t → t.WholeMinutes)
include ht

theorem nullable_timeToRecord : nullable Wire.time (timeToRecord time) = .ok time := by
  unfold timeToRecord
  refine nullable_orNull (fun t => ?_) fun t h => ?_
  · simp
  · exact time_text_eq_ok_iff.mpr (Time.ofWireText_text (ht t h))

theorem timeOfRecord_orNull : timeOfRecord (Json.orNull timeJson time) = .ok time := by
  cases time with
  | none => rfl
  | some t =>
      have hread := Time.ofText?_wireText (ht t rfl)
      have hne : t.wireText ≠ "" := by
        intro hempty
        rw [hempty] at hread
        cases hread
      have hreadable : (Time.RawTime.text t.wireText).readable? = some t.wireText := if_neg hne
      change timeOfRecord (.text t.wireText) = _
      simp only [timeOfRecord, Json.rawTime, hreadable, hread]

end Times

namespace Wire.LinkBody

variable {b : LinkBody} {l : Link}

theorem Describes.read_toRecord (h : b.Describes l) (ht : l.WholeMinutes) :
    read l.toRecord = .ok b := by
  have hpeers : nullable (array Peer.ofWire)
      (Json.orNull (fun e => peersToRecord e.toList) l.ends) = .ok b.peers := by
    rw [h.peers, ← Json.orNull_map peersToRecord Ends.toList]
    exact nullable_orNull nofun fun ps _ => array_peersToRecord ps
  have hkeepalive : nullable natural (Json.orNull Json.int l.keepalive) = .ok b.keepalive := by
    rw [h.keepalive, Json.orNull_map]
    exact nullable_orNull nofun fun n _ => rfl
  have hcreated : nullable time (timeToRecord l.created) = .ok b.created := by
    rw [← h.created]
    exact nullable_timeToRecord ht.created
  have hupdated : nullable time (timeToRecord l.updated) = .ok b.updated := by
    rw [← h.updated]
    exact nullable_timeToRecord ht.updated
  exact read_eq_ok_iff.mpr
    ⟨⟨_, rfl⟩, optional_of_field rfl (congrArg Except.ok h.id),
      optional_of_field rfl (congrArg Except.ok h.network), optional_of_field rfl hpeers,
      optional_of_field rfl hkeepalive, optional_of_field rfl hcreated,
      optional_of_field rfl hupdated⟩

theorem Describes.ofRecord_write (h : b.Describes l) (ht : l.WholeMinutes) :
    Link.ofRecord b.write = .ok l := by
  have hends : endsOfRecord (Json.orNull peersToRecord b.peers) = .ok l.ends := by
    rw [h.peers, Json.orNull_map]
    exact endsOfRecord_toRecord l.ends
  have hkeepalive : (Json.orNull (fun n : Nat => Json.int n) b.keepalive).int? = l.keepalive := by
    rw [h.keepalive]
    cases b.keepalive <;> rfl
  have hcreated : timeOfRecord (Json.orNull timeJson b.created) = .ok l.created := by
    rw [← h.created]
    exact timeOfRecord_orNull ht.created
  have hupdated : timeOfRecord (Json.orNull timeJson b.updated) = .ok l.updated := by
    rw [← h.updated]
    exact timeOfRecord_orNull ht.updated
  exact Link.ofRecord_eq_ok_iff.mpr
    ⟨h.id.symm, h.network.symm, hends, hkeepalive, hcreated, hupdated⟩

/-- A link that has a wire form, and offsets of whole minutes, is given back by either of the
two from what the other prints; the body that its record is read as is its wire form. -/
theorem interchangeable {l : Link} (hl : l.HasWireForm) (ht : l.WholeMinutes) :
    ∃ b, ofLink l = .ok b ∧ read l.toRecord = .ok b ∧ b.toLink = .ok l ∧
      Link.ofRecord b.write = .ok l := by
  obtain ⟨b, hb⟩ := exists_ofLink hl
  have hdescribes := ofLink_eq_ok_iff.mp hb
  exact ⟨b, hb, hdescribes.read_toRecord ht, toLink_ofLink hb, hdescribes.ofRecord_write ht⟩

/-- Routing without a list and none at all, an interval of zero, an offset of zero that the two
print apart, and an odd one to the west. -/
def trialTimed : Link where
  id := "c"
  network := ""
  ends := some ⟨⟨"", "i", some ⟨none⟩⟩, ⟨"n", "i", none⟩⟩
  keepalive := some 0
  created := some ⟨⟨2024, 2, 29, by decide⟩, ⟨23, 59, 59, 5, by decide⟩, some Time.Offset.utc⟩
  updated := some ⟨⟨1, 1, 1, by decide⟩, Time.TimeOfDay.midnight, some ⟨-34140000000, by decide⟩⟩

theorem interchangeable_trial :
    trialTimed.HasWireForm ∧ trialTimed.WholeMinutes ∧
      ∃ b, ofLink trialTimed = .ok b ∧ read trialTimed.toRecord = .ok b ∧
        b.toLink = .ok trialTimed ∧ Link.ofRecord b.write = .ok trialTimed := by
  have hwire : trialTimed.HasWireForm := by
    rintro k ⟨⟩
    exact Int.le_refl 0
  have htimes : trialTimed.WholeMinutes := by
    constructor
    · rintro t ⟨⟩ o ⟨⟩
      exact Time.wholeMinutes_utc
    · rintro t ⟨⟩ o ⟨⟩
      exact ⟨569, rfl⟩
  exact ⟨hwire, htimes, interchangeable hwire htimes⟩

end Wire.LinkBody
end LinkRegistry
