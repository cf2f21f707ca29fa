import LinkRegistry.Proofs.NormalForm
import LinkRegistry.Proofs.RecordRoundTrip
import LinkRegistry.Proofs.TimeAgreement
import LinkRegistry.Proofs.WireLink

/-!
# Objects that are read as records and as messages

**Input.** A JSON object that is accepted as the record of a link and as its body.

**Rule.** A record puts up with values of any kind, and a message does not.  What a message
accepts, in the fields that both have, a record takes for the same: texts, lists of texts,
routing, peers, and intervals that are written as integers.  A time that is written as a text
is the same in both, unless the text is a numeral: a record takes it for the digits of a date,
and a message for a time counted from 1970.

**Results.**
* `Follows`, with one lemma for each part that both read: a record follows the message.
* `ReadAlike.eq`: if no time is a numeral, the two links are the same.
* `readAlike_of_read`: all of this for every object with fields of their declared types.
* `numeral_read_apart`: the exception is needed.
-/

namespace LinkRegistry

namespace Json

/-- The value is a text or null. -/
def IsTextOrNull (v : Json) : Prop :=
  v = .null ∨ ∃ s, v = .text s

/-- The value is an integer or null. -/
def IsIntOrNull (v : Json) : Prop :=
  v = .null ∨ ∃ n, v = .int n

/-- The value is the text of a decimal numeral. -/
def IsNumeral (v : Json) : Prop :=
  ∃ s, v = .text s ∧ Time.IsNumeral s

/-- The value is the text of a decimal numeral without an exponent. -/
def IsPlainNumeral (v : Json) : Prop :=
  ∃ s, v = .text s ∧ Time.IsPlainNumeral s

end Json

namespace Wire

/-- What a message accepts, the other reading takes for the same. -/
def Follows {α : Type} (record : Json → α) (read : Json → Reading α) : Prop :=
  ∀ v a, read v = .ok a → record v = a

section Parts

variable {α : Type} {record : Json → α} {read : Json → Reading α}

theorem follows_text : Follows Json.textOrEmpty text := by
  intro v s h
  cases v with
  | text s' =>
      cases h
      rfl
  | null | bool _ | int _ | real _ | nonFinite | array _ | object _ => cases h

theorem Follows.itemsFrom (h : Follows record read) {items : List Json} {k : Nat} {as : List α}
    (has : itemsFrom read k items = .ok as) : items.map record = as := by
  -- on the items, from whatever index they are counted
  induction items generalizing k as with
  | nil =>
      cases has
      rfl
  | cons v items ih =>
      obtain ⟨a, as', hitem, htail, rfl⟩ := itemsFrom_cons_eq_ok_iff.mp has
      rw [List.map_cons, h v a hitem, ih htail]

/-- A list that may be null; anything else counts as null in a record. -/
theorem Follows.nullableArray (h : Follows record read) :
    Follows (fun v => v.items?.map (·.map record)) (nullable (array read)) := by
  intro v o ho
  cases v with
  | null =>
      cases ho
      rfl
  | array items =>
      obtain ⟨as, has, rfl⟩ := Reading.exists_of_map_eq_ok ho
      exact congrArg some (h.itemsFrom has)
  | bool _ | int _ | real _ | nonFinite | text _ | object _ => cases ho

/-- A missing field counts as null in a record, and as its default in a message. -/
theorem Follows.optional (h : Follows record read) {name : String} {absent a : α} {j : Json}
    (habsent : record .null = absent) (ha : optional name absent read j = .ok a) :
    record (j.fieldOrNull name) = a := by
  unfold Json.fieldOrNull
  rcases optional_eq_ok_iff.mp ha with ⟨hnone, rfl⟩ | ⟨v, hv, hread⟩
  · rw [hnone]
    exact habsent
  · rw [hv]
    exact h v a hread

theorem nullable_fieldOrNull {name : String} {o : Option α} {j : Json}
    (ho : Wire.optional name none (nullable read) j = .ok o) :
    nullable read (j.fieldOrNull name) = .ok o := by
  unfold Json.fieldOrNull
  rcases optional_eq_ok_iff.mp ho with ⟨hnone, rfl⟩ | ⟨v, hv, hread⟩
  · rw [hnone]
    rfl
  · rw [hv]
    exact hread

end Parts

end Wire

section Domain

open Wire

theorem Routing.follows : Follows ofRecord ofWire := by
  intro v r h
  obtain ⟨-, hallowed⟩ := ofWire_eq_ok_iff.mp h
  have hsame := follows_text.nullableArray.optional rfl hallowed
  exact congrArg Routing.mk hsame

theorem Peer.follows_routing : Follows routingOfRecord (nullable Routing.ofWire) := by
  intro v o ho
  cases v with
  | null =>
      cases ho
      rfl
  | object fields =>
      obtain ⟨r, hr, rfl⟩ := Reading.exists_of_map_eq_ok ho
      exact congrArg some (Routing.follows _ r hr)
  | bool _ | int _ | real _ | nonFinite | text _ | array _ => cases ho

theorem Peer.follows : Follows ofRecord ofWire := by
  intro v p h
  obtain ⟨-, hnode, hinterface, hrouting⟩ := ofWire_eq_ok_iff.mp h
  unfold Peer.ofRecord
  rw [follows_text.optional rfl hnode, follows_text.optional rfl hinterface,
    Peer.follows_routing.optional rfl hrouting]

theorem endsOfRecord_of_items {v : Json} {b : LinkBody}
    (h : v.items?.map (·.map Peer.ofRecord) = b.peers) : endsOfRecord v = b.ends := by
  unfold endsOfRecord LinkBody.ends
  rw [← h]
  cases v.items? <;> rfl

theorem int?_of_natural {v : Json} (hv : v.IsIntOrNull) {k : Option Nat}
    (h : nullable natural v = .ok k) : v.int? = k.map Int.ofNat := by
  rcases hv with rfl | ⟨n, rfl⟩
  · cases h
    rfl
  · obtain ⟨k', hk, rfl⟩ := Reading.exists_of_map_eq_ok h
    cases n with
    | ofNat n =>
        cases hk
        rfl
    | negSucc n => cases hk

/-- The fields of a link that a record would take in other types too have their declared ones. -/
structure Json.DeclaresLink (j : Json) : Prop where
  keepalive : (j.fieldOrNull "persistent_keepalive").IsIntOrNull
  created : (j.fieldOrNull "created_at").IsTextOrNull
  updated : (j.fieldOrNull "updated_at").IsTextOrNull

/-- The value is read as the same time in both ways, unless it is a numeral; one without an
exponent is read as different times. -/
structure ReadAlikeAt (v : Json) (a b : Option Time.Timestamp) : Prop where
  eq : ¬ v.IsNumeral → a = b
  apart : v.IsPlainNumeral → Link.sameTime a b = false

/-- The object is read as the same link in both ways, up to times that are numerals. -/
structure ReadAlike (j : Json) (a b : Link) : Prop where
  id : a.id = b.id
  network : a.network = b.network
  ends : a.ends = b.ends
  keepalive : a.keepalive = b.keepalive
  created : ReadAlikeAt (j.fieldOrNull "created_at") a.created b.created
  updated : ReadAlikeAt (j.fieldOrNull "updated_at") a.updated b.updated

theorem readAlikeAt_null : ReadAlikeAt .null none none where
  eq _ := rfl
  apart h := by
    obtain ⟨s, hs, -⟩ := h
    cases hs

theorem readAlikeAt_text {s : String} {t t' : Time.Timestamp}
    (hrecord : Time.Timestamp.ofText? s = some t)
    (hread : Time.Timestamp.ofWireText s = .ok t') :
    ReadAlikeAt (.text s) (some t) (some t') where
  eq h := congrArg some (Time.eq_of_not_numeral hread hrecord fun hs => h ⟨s, rfl, hs⟩)
  apart h := by
    obtain ⟨s', hs, hnumeral⟩ := h
    cases hs
    exact Time.same_of_plainNumeral hread hrecord hnumeral

theorem readAlikeAt_of_read {v : Json} (hv : v.IsTextOrNull) {t t' : Option Time.Timestamp}
    (hrecord : timeOfRecord v = .ok t) (hread : nullable time v = .ok t') :
    ReadAlikeAt v t t' := by
  rcases hv with rfl | ⟨s, rfl⟩
  · cases hrecord
    cases hread
    exact readAlikeAt_null
  · obtain ⟨w, hw, rfl⟩ := Reading.exists_of_map_eq_ok hread
    have hwire := time_text_eq_ok_iff.mp hw
    have hne : s ≠ "" := by
      rintro rfl
      cases hwire
    have hreadable : (Time.RawTime.text s).readable? = some s := if_neg hne
    simp only [timeOfRecord, Json.rawTime, hreadable] at hrecord
    split at hrecord
    · rename_i x hx
      cases hrecord
      exact readAlikeAt_text hx hwire
    · cases hrecord

/-- If no time is a numeral, the two links are the same. -/
theorem ReadAlike.eq {j : Json} {a b : Link} (h : ReadAlike j a b)
    (hcreated : ¬ (j.fieldOrNull "created_at").IsNumeral)
    (hupdated : ¬ (j.fieldOrNull "updated_at").IsNumeral) : a = b := by
  obtain ⟨id, network, ends, keepalive, created, updated⟩ := a
  obtain ⟨hid, hnetwork, hends, hkeepalive, hc, hu⟩ := h
  cases hid
  cases hnetwork
  cases hends
  cases hkeepalive
  cases hc.eq hcreated
  cases hu.eq hupdated
  rfl

/-- An object with fields of the declared types that is accepted both as a record and as a body
which makes a link: the two links are the same in every part, except for times that are written
as numerals, and such a time without an exponent is never the same. -/
theorem readAlike_of_read {j : Json} {l l' : Link} {b : LinkBody} (hj : j.DeclaresLink)
    (hrecord : Link.ofRecord j = .ok l) (hread : LinkBody.read j = .ok b)
    (hlink : b.toLink = .ok l') :
    ReadAlike j l l' ∧
      (¬ (j.fieldOrNull "created_at").IsNumeral → ¬ (j.fieldOrNull "updated_at").IsNumeral →
        l = l') := by
  obtain ⟨-, hid, hnetwork, hpeers, hkeepalive, hcreated, hupdated⟩ :=
    LinkBody.read_eq_ok_iff.mp hread
  have hbody := LinkBody.toLink_eq_ok_iff.mp hlink
  obtain ⟨hrecordId, hrecordNetwork, hrecordEnds, hrecordKeepalive, hrecordCreated,
    hrecordUpdated⟩ := Link.ofRecord_eq_ok_iff.mp hrecord
  have hends : l.ends = l'.ends := by
    rw [endsOfRecord_of_items (Peer.follows.nullableArray.optional rfl hpeers),
      LinkBody.ends_eq_ok_iff.mpr hbody.peers] at hrecordEnds
    exact (Except.ok.inj hrecordEnds).symm
  have hinterval := int?_of_natural hj.keepalive (nullable_fieldOrNull hkeepalive)
  have hcreatedAlike : ReadAlikeAt (j.fieldOrNull "created_at") l.created l'.created := by
    rw [hbody.created]
    exact readAlikeAt_of_read hj.created hrecordCreated (nullable_fieldOrNull hcreated)
  have hupdatedAlike : ReadAlikeAt (j.fieldOrNull "updated_at") l.updated l'.updated := by
    rw [hbody.updated]
    exact readAlikeAt_of_read hj.updated hrecordUpdated (nullable_fieldOrNull hupdated)
  have halike : ReadAlike j l l' :=
    { id := hrecordId.symm.trans ((follows_text.optional rfl hid).trans hbody.id.symm)
      network :=
        hrecordNetwork.symm.trans ((follows_text.optional rfl hnetwork).trans hbody.network.symm)
      ends := hends
      keepalive := hrecordKeepalive.symm.trans (hinterval.trans hbody.keepalive.symm)
      created := hcreatedAlike
      updated := hupdatedAlike }
  exact ⟨halike, halike.eq⟩

/-- An offset without a colon behind a fraction with a comma, peers that leave out what they do
not need, and a text for the time of change. -/
def trialObject (updated : String) : Json :=
  .object [("id", .text "c"), ("kind", .bool true), ("persistent_keepalive", .int 25),
    ("created_at", .text "2016-02-28_06:07:08,1234567-0145"), ("updated_at", .text updated),
    ("peer_settings", .array [
      .object [("interface_id", .text "i"), ("routing_rules", .object [])],
      .object [("node_id", .text "n"),
        ("routing_rules", .object [("allowed_ips", .array [.text "10.0.0.0/8"])])]])]

/-- The body of the object. -/
def trialObjectBody (updated : Time.Timestamp) : LinkBody where
  id := "c"
  network := ""
  peers := some [⟨"", "i", some ⟨none⟩⟩, ⟨"n", "", some ⟨some ["10.0.0.0/8"]⟩⟩]
  keepalive := some 25
  created := some ⟨⟨2016, 2, 28, by decide⟩, ⟨6, 7, 8, 123456, by decide⟩,
    some ⟨-6300000000, by decide⟩⟩
  updated := some updated

/-- The link of the object. -/
def trialObjectLink (updated : Time.Timestamp) : Link where
  id := "c"
  network := ""
  ends := some ⟨⟨"", "i", some ⟨none⟩⟩, ⟨"n", "", some ⟨some ["10.0.0.0/8"]⟩⟩⟩
  keepalive := some 25
  created := (trialObjectBody updated).created
  updated := some updated

/-- A leap day. -/
def trialDay : Time.Timestamp :=
  ⟨⟨2016, 2, 29, by decide⟩, Time.TimeOfDay.midnight, none⟩

/-- As many seconds after the start of 1970 as the digits of the leap day count. -/
def trialCount : Time.Timestamp :=
  ⟨⟨1970, 8, 22, by decide⟩, ⟨8, 3, 49, 0, by decide⟩, some Time.Offset.utc⟩

theorem declaresLink_trialObject (updated : String) : (trialObject updated).DeclaresLink :=
  ⟨Or.inr ⟨25, rfl⟩, Or.inr ⟨_, rfl⟩, Or.inr ⟨_, rfl⟩⟩

theorem not_isNumeral_text {s : String} (h : Text.Decimal.ofText? s.toList = none) :
    ¬ (Json.text s).IsNumeral := by
  rintro ⟨s', hs, d, hd⟩
  cases hs
  rw [h] at hd
  cases hd

/-- The leap day in hyphens makes the same link in both ways, and its digits alone do not. -/
theorem readAlike_of_read_trial :
    (∃ l l' b, (trialObject "2016-02-29").DeclaresLink ∧
      Link.ofRecord (trialObject "2016-02-29") = .ok l ∧
      LinkBody.read (trialObject "2016-02-29") = .ok b ∧ b.toLink = .ok l' ∧ l = l') ∧
    ∃ l l' b, (trialObject "20160229").DeclaresLink ∧
      Link.ofRecord (trialObject "20160229") = .ok l ∧
      LinkBody.read (trialObject "20160229") = .ok b ∧ b.toLink = .ok l' ∧
      ReadAlike (trialObject "20160229") l l' ∧ Link.sameTime l.updated l'.updated = false := by
  constructor
  · have hread : LinkBody.read (trialObject "2016-02-29") = .ok (trialObjectBody trialDay) :=
      Reading.eq_ok_of_toOption (by decide +kernel)
    have hdeclared := declaresLink_trialObject "2016-02-29"
    have hsame := (readAlike_of_read (l := trialObjectLink trialDay) hdeclared rfl hread rfl).2
      (not_isNumeral_text (by decide)) (not_isNumeral_text (by decide))
    exact ⟨_, _, _, hdeclared, rfl, hread, rfl, hsame⟩
  · have hread : LinkBody.read (trialObject "20160229") = .ok (trialObjectBody trialCount) :=
      Reading.eq_ok_of_toOption (by decide +kernel)
    have hdeclared := declaresLink_trialObject "20160229"
    have hnumeral : ((trialObject "20160229").fieldOrNull "updated_at").IsPlainNumeral :=
      ⟨_, rfl, ⟨20160229, none, none⟩, by decide, rfl⟩
    have halike := (readAlike_of_read (l := trialObjectLink trialDay) hdeclared rfl hread rfl).1
    exact ⟨_, _, _, hdeclared, rfl, hread, rfl, halike, halike.updated.apart hnumeral⟩

/-- The digits of the leap day as the time of creation, and nothing else but an id. -/
def trialDigits : Json :=
  .object [("created_at", .text "20160229"), ("id", .text "c")]

/-- The body of those digits. -/
def trialDigitsBody : LinkBody :=
  ⟨"c", "", none, none, some trialCount, none⟩

/-- A link with a time of creation, and nothing else but an id. -/
def trialCreated (created : Time.Timestamp) : Link :=
  ⟨"c", "", none, none, some created, none⟩

/-- Without the exception for numerals the two links need not be the same. -/
theorem numeral_read_apart :
    ¬ ∀ (j : Json) (l l' : Link) (b : LinkBody), j.DeclaresLink → Link.ofRecord j = .ok l →
      LinkBody.read j = .ok b → b.toLink = .ok l' → l.same l' = true := by
  intro hall
  have hdeclared : trialDigits.DeclaresLink :=
    ⟨Or.inl rfl, Or.inr ⟨_, rfl⟩, Or.inl rfl⟩
  have hrecord : Link.ofRecord trialDigits = .ok (trialCreated trialDay) := rfl
  have hread : LinkBody.read trialDigits = .ok trialDigitsBody :=
    Reading.eq_ok_of_toOption (by decide +kernel)
  have hlink : trialDigitsBody.toLink = .ok (trialCreated trialCount) := rfl
  have hsame := hall _ _ _ _ hdeclared hrecord hread hlink
  exact absurd hsame (by decide)

end Domain

end LinkRegistry
