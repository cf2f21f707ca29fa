import LinkRegistry.Link.Record
import LinkRegistry.Proofs.RecordTime

/-!
# Links in records

**Input.** A record, and the link that is read from it, if one is.

**Rule.** Reading fills in what a record leaves out and settles the form of its times.
Printing writes every field in one form, so nothing is left to be filled in when the
printed record is read again.

**Results.**
* `legible_of_ofRecord`: the times of a link that is read are legible.
* `ofRecord_toRecord_of_legible`: a link with such times reads back as printed.
* `ofRecord_toRecord_of_read`: so does every link that is read from any record, and printing
  it again gives the same record.
-/

namespace LinkRegistry

theorem exists_of_bind_eq_ok {α β : Type} {x : Except Fault α} {f : α → Except Fault β} {b : β}
    (h : x >>= f = .ok b) : ∃ a, x = .ok a ∧ f a = .ok b := by
  cases x with
  | error fault => cases h
  | ok a => exact ⟨a, rfl, h⟩

/-- The times of the link read back as printed. -/
structure Link.Legible (l : Link) : Prop where
  created : ∀ t, l.created = some t → t.Legible
  updated : ∀ t, l.updated = some t → t.Legible

section Times

theorem legible_of_timeOfRecord {j : Json} {time : Option Time.Timestamp}
    (h : timeOfRecord j = .ok time) : ∀ t, time = some t → t.Legible := by
  rintro t rfl
  unfold timeOfRecord at h
  dsimp only at h
  split at h
  · cases h
  · split at h
    · rename_i hread
      cases h
      exact Time.legible_of_ofText? hread
    · cases h

theorem text_ne_empty {t : Time.Timestamp} (ht : t.Legible) : t.text ≠ "" := by
  intro hempty
  have hread := Time.ofText?_text ht
  rw [hempty] at hread
  cases hread

theorem timeOfRecord_timeToRecord {time : Option Time.Timestamp}
    (h : ∀ t, time = some t → t.Legible) : timeOfRecord (timeToRecord time) = .ok time := by
  cases time with
  | none => rfl
  | some t =>
      have ht := h t rfl
      have hreadable : (Time.RawTime.text t.text).readable? = some t.text :=
        if_neg (text_ne_empty ht)
      change timeOfRecord (.text t.text) = _
      simp only [timeOfRecord, Json.rawTime, hreadable, Time.ofText?_text ht]

end Times

section Links

theorem endsOfRecord_toRecord (ends : Option Ends) :
    endsOfRecord (Json.orNull (fun e => peersToRecord e.toList) ends) = .ok ends := by
  cases ends with
  | none => rfl
  | some e =>
      have hpeers : (e.toList.map Peer.toRecord).map Peer.ofRecord = e.toList := by
        rw [List.map_map]
        refine (List.map_congr_left fun p _ => Peer.ofRecord_toRecord p).trans ?_
        exact List.map_id' e.toList
      change (Ends.ofList ((e.toList.map Peer.toRecord).map Peer.ofRecord)).map some = _
      rw [hpeers, Ends.ofList_toList]
      rfl

theorem int?_orNull (n : Option Int) : (Json.orNull Json.int n).int? = n := by
  cases n <;> rfl

/-- A record is read as a link exactly if each field is read as that part of the link. -/
theorem Link.ofRecord_eq_ok_iff {j : Json} {l : Link} :
    ofRecord j = .ok l ↔
      (j.fieldOrNull "id").textOrEmpty = l.id ∧
      (j.fieldOrNull "network_id").textOrEmpty = l.network ∧
      endsOfRecord (j.fieldOrNull "peer_settings") = .ok l.ends ∧
      (j.fieldOrNull "persistent_keepalive").int? = l.keepalive ∧
      timeOfRecord (j.fieldOrNull "created_at") = .ok l.created ∧
      timeOfRecord (j.fieldOrNull "updated_at") = .ok l.updated := by
  constructor
  · intro h
    obtain ⟨ends, hends, h⟩ := exists_of_bind_eq_ok h
    obtain ⟨created, hcreated, h⟩ := exists_of_bind_eq_ok h
    obtain ⟨updated, hupdated, h⟩ := exists_of_bind_eq_ok h
    cases h
    exact ⟨rfl, rfl, hends, rfl, hcreated, hupdated⟩
  · rintro ⟨hid, hnetwork, hends, hkeepalive, hcreated, hupdated⟩
    unfold ofRecord
    rw [hends, hcreated, hupdated, hkeepalive, hid, hnetwork]
    rfl

/-- A link with legible times reads back as printed. -/
theorem Link.ofRecord_toRecord_of_legible {l : Link} (hl : l.Legible) :
    ofRecord l.toRecord = .ok l :=
  ofRecord_eq_ok_iff.mpr ⟨rfl, rfl, endsOfRecord_toRecord l.ends, int?_orNull l.keepalive,
    timeOfRecord_timeToRecord hl.created, timeOfRecord_timeToRecord hl.updated⟩

theorem Link.legible_of_ofRecord {j : Json} {l : Link} (h : ofRecord j = .ok l) : l.Legible := by
  obtain ⟨-, -, -, -, hcreated, hupdated⟩ := ofRecord_eq_ok_iff.mp h
  exact ⟨legible_of_timeOfRecord hcreated, legible_of_timeOfRecord hupdated⟩

/-- What is read from any record reads back as printed, in every field, and printing what was
read back gives the same record again. -/
theorem Link.ofRecord_toRecord_of_read {j : Json} {l : Link} (h : ofRecord j = .ok l) :
    ofRecord l.toRecord = .ok l ∧ (ofRecord l.toRecord).map toRecord = .ok l.toRecord := by
  have hread := ofRecord_toRecord_of_legible (legible_of_ofRecord h)
  refine ⟨hread, ?_⟩
  rw [hread]
  rfl

/-- Routing without a list and with an empty one, a peer that leaves its routing out, a week
date, a fraction that is cut, and an offset of a second and a half to the west. -/
def trialRecord : Json :=
  .object [("id", .text "c"), ("kind", .null),
    ("peer_settings", .array [
      .object [("interface_id", .text "i"), ("routing_rules", .object [])],
      .object [("node_id", .null), ("routing_rules", .object [("allowed_ips", .array [])])]]),
    ("persistent_keepalive", .int (-5)), ("updated_at", .text ""),
    ("created_at", .text "2020W536+235959,1234567-00:00:01.5")]

/-- The link of the record. -/
def trialRecordLink : Link where
  id := "c"
  network := ""
  ends := some ⟨⟨"", "i", some ⟨none⟩⟩, ⟨"", "", some ⟨some []⟩⟩⟩
  keepalive := some (-5)
  created := some ⟨⟨2021, 1, 2, by decide⟩, ⟨23, 59, 59, 123456, by decide⟩,
    some ⟨-1500000, by decide⟩⟩
  updated := none

theorem Link.ofRecord_toRecord_of_read_trial :
    ofRecord trialRecord = .ok trialRecordLink ∧
      ofRecord trialRecordLink.toRecord = .ok trialRecordLink ∧
      (ofRecord trialRecordLink.toRecord).map toRecord = .ok trialRecordLink.toRecord := by
  have hread : ofRecord trialRecord = .ok trialRecordLink := by rfl
  exact ⟨hread, ofRecord_toRecord_of_read hread⟩

end Links
end LinkRegistry
