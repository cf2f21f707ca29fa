import LinkRegistry.Proofs.Entries
import LinkRegistry.Proofs.SoundLink
import LinkRegistry.Registry.Operation

/-!
# What holds of every registry that operations lead to

**Input.** Operations on a new registry, in any order and with any arguments, each at a
time of its own; some of them may be refused.

**Rule.** Every entry keeps a sound link under its own id.  On such a registry a patch and
an allowed range cannot be refused for any reason but an unknown id, so each of them is
one write that is given in advance.

**Results.**
* `Sound.patch_eq`, `Sound.allow_eq`: what the two changes write.
* `Sound.effect`: what any operation can come to.
* `Sound.step`, `Sound.run`: soundness is kept by every operation and by every run.
* `storedAs_of_mem_after`: soundness of what is stored after any operations.
-/

namespace LinkRegistry

/-- The operation writes to the registry. -/
def Operation.isWrite : Operation → Bool
  | .upsert _ | .patch _ _ | .allow _ _ | .delete _ => true
  | .get _ | .list _ | .clear => false

/-- The operation only looks at the registry. -/
def Operation.isLook : Operation → Bool
  | .get _ | .list _ => true
  | .upsert _ | .patch _ _ | .allow _ _ | .delete _ | .clear => false

/-- Every entry of the registry is a sound link under its own id. -/
structure Registry.Sound (r : Registry) : Prop where
  ascending : r.entries.Ascending
  storedAs : ∀ x ∈ r.entries, x.2.StoredAs x.1

namespace Registry

@[simp] theorem find?_commit (r : Registry) (key k : String) (l : Link)
    (event : Nat → Event) :
    (r.commit key l event).registry.find? k = if k = key then some l else r.find? k :=
  Entries.lookup_store key k l r.entries

theorem find?_removed (r : Registry) (ids : List String) (key : String) :
    (r.write (r.entries.remove ids)).find? key = if key ∈ ids then none else r.find? key :=
  Entries.lookup_remove ids key r.entries

theorem Sound.storedAs_of_find? {r : Registry} (hr : r.Sound) {key : String} {l : Link}
    (h : r.find? key = some l) : l.StoredAs key :=
  hr.storedAs _ (Entries.mem_of_lookup h)

theorem Sound.commit {r : Registry} (hr : r.Sound) {key : String} {l : Link}
    (hl : l.StoredAs key) (event : Nat → Event) : (r.commit key l event).registry.Sound where
  ascending := hr.ascending.store key l
  storedAs := by
    intro x hx
    rcases Entries.mem_of_mem_store hx with rfl | hx
    · exact hl
    · exact hr.storedAs x hx

theorem sound_empty : empty.Sound :=
  ⟨List.Pairwise.nil, fun _ hx => nomatch hx⟩

/-- A patch of a stored link is one write: neither merging nor validating can fail. -/
theorem Sound.patch_eq {r : Registry} (hr : r.Sound) {id : String} {l : Link}
    (h : r.find? id = some l) (now : Time.Timestamp) (p : Patch) :
    r.patch now id p = r.commit id (l.patched p now) (Event.patched id) := by
  obtain ⟨e, hends, he⟩ := (hr.storedAs_of_find? h).joined
  obtain ⟨merged, hmerge, hvalid, hstored⟩ := Link.merge_of_sound hends he p now
  unfold patch
  rw [h]
  simp only [hmerge, hvalid, hstored]

/-- Allowing a range at a stored link is one write: both ends have routing. -/
theorem Sound.allow_eq {r : Registry} (hr : r.Sound) {id : String} {l : Link}
    (h : r.find? id = some l) (now : Time.Timestamp) (ip : String) :
    r.allow now id ip = r.commit id (l.allowed ip now) (Event.allowed ip id) := by
  obtain ⟨e, hends, he⟩ := (hr.storedAs_of_find? h).joined
  unfold allow
  rw [h]
  simp only [Link.allow_of_sound hends he, Link.allowed, hends, Option.map_some]

theorem Sound.creationTime_ne_none {r : Registry} (hr : r.Sound) (l : Link) (now : Time.Timestamp) :
    r.creationTime l now ≠ none := by
  unfold creationTime
  cases h : r.find? l.id with
  | none => exact Option.some_ne_none _
  | some old => exact (hr.storedAs_of_find? h).created_ne

theorem Sound.storedAs_stored {r : Registry} (hr : r.Sound) {l : Link} {e : Ends}
    (hid : l.id ≠ "") (hends : l.ends = some e)
    (hne : e.first.interface ≠ e.second.interface) (now : Time.Timestamp) :
    (r.stored now l).StoredAs l.id where
  key_ne := hid
  id_eq := rfl
  joined := by
    refine ⟨e.map Peer.withRouting, ?_, Ends.sound_map_withRouting hne⟩
    simp only [stored, Link.withRouting, hends, Option.map_some]
  created_ne := hr.creationTime_ne_none l now
  updated_ne := Option.some_ne_none _

theorem upsert_of_noId {r : Registry} {l : Link} (hid : l.id = "") (now : Time.Timestamp) :
    r.upsert now l = r.refuse .noId := by
  unfold upsert
  rw [if_pos hid]

theorem upsert_of_invalid {r : Registry} {l : Link} (hid : l.id ≠ "") {f : Fault}
    (hvalid : l.validate = .error f) (now : Time.Timestamp) :
    r.upsert now l = ⟨.error f, [.rejected l.id f], r⟩ := by
  unfold upsert
  rw [if_neg hid]
  simp only [hvalid]

theorem upsert_eq_of_valid {r : Registry} {l : Link} (hid : l.id ≠ "")
    (hvalid : l.validate = .ok ()) (now : Time.Timestamp) :
    r.upsert now l = r.commit l.id (r.stored now l)
      (if (r.find? l.id).isSome then Event.updated l.id else Event.created l.id) := by
  unfold upsert
  rw [if_neg hid]
  simp only [hvalid]

theorem upsert_of_valid {r : Registry} {l : Link} (hid : l.id ≠ "") (hvalid : l.validate = .ok ())
    (now : Time.Timestamp) : ∃ event, r.upsert now l = r.commit l.id (r.stored now l) event :=
  ⟨_, upsert_eq_of_valid hid hvalid now⟩

theorem patch_of_unknown {r : Registry} {id : String} (h : r.find? id = none)
    (now : Time.Timestamp) (p : Patch) : r.patch now id p = r.refuse (.unknownId id) := by
  unfold patch
  rw [h]

theorem allow_of_unknown {r : Registry} {id : String} (h : r.find? id = none)
    (now : Time.Timestamp) (ip : String) : r.allow now id ip = r.refuse (.unknownId id) := by
  unfold allow
  rw [h]

theorem delete_of_unknown {r : Registry} {ids : List String} {id : String}
    (h : ids.find? (fun id => (r.find? id).isNone) = some id) :
    r.delete ids = r.refuse (.unknownId id) := by
  unfold delete
  rw [h]

theorem delete_of_known {r : Registry} {ids : List String}
    (h : ids.find? (fun id => (r.find? id).isNone) = none) :
    r.delete ids = ⟨.ok (.deleted (r.index + 1)), [.deleted ids.eraseDups.length (r.index + 1)],
      r.write (r.entries.remove ids)⟩ := by
  unfold delete
  rw [h]
  rfl

theorem get_of_unknown {r : Registry} {id : String} (h : r.find? id = none) :
    r.get id = r.refuse (.unknownId id) := by
  unfold get
  rw [h]

theorem get_of_known {r : Registry} {id : String} {l : Link} (h : r.find? id = some l) :
    r.get id = ⟨.ok (.found l r.index), [], r⟩ := by
  unfold get
  rw [h]

theorem Sound.remove {r : Registry} (hr : r.Sound) (ids : List String) :
    (r.write (r.entries.remove ids)).Sound :=
  ⟨hr.ascending.remove ids, fun x hx => hr.storedAs x (Entries.mem_remove.mp hx).1⟩

/-- The operation stores the link of the entry under its key. -/
def Stores (r : Registry) (now : Time.Timestamp) : Operation → String × Link → Prop
  | .upsert l, x => l.id ≠ "" ∧ l.validate = .ok () ∧ x = (l.id, r.stored now l)
  | .patch id p, x => ∃ l, r.find? id = some l ∧ x = (id, l.patched p now)
  | .allow id ip, x => ∃ l, r.find? id = some l ∧ x = (id, l.allowed ip now)
  | .get _, _ | .delete _, _ | .list _, _ | .clear, _ => False

/-- What an operation can come to. -/
inductive Effect (r : Registry) (now : Time.Timestamp) : Operation → Outcome → Prop
  | refused (op : Operation) (f : Fault) (events : List Event) :
      Effect r now op ⟨.error f, events, r⟩
  | looked {op : Operation} (hop : op.isLook = true) (reply : Reply) :
      Effect r now op ⟨.ok reply, [], r⟩
  | stored {op : Operation} {x : String × Link} (hx : r.Stores now op x) (event : Nat → Event) :
      Effect r now op (r.commit x.1 x.2 event)
  | removed (ids : List String) (events : List Event) :
      Effect r now (.delete ids)
        ⟨.ok (.deleted (r.index + 1)), events, r.write (r.entries.remove ids)⟩
  | cleared : Effect r now .clear ⟨.ok .cleared, [], empty⟩

theorem effect_upsert (r : Registry) (now : Time.Timestamp) (l : Link) :
    r.Effect now (.upsert l) (r.upsert now l) := by
  by_cases hid : l.id = ""
  · rw [upsert_of_noId hid]
    exact .refused _ _ _
  · cases hvalid : l.validate with
    | error f =>
        rw [upsert_of_invalid hid hvalid]
        exact .refused _ _ _
    | ok u =>
        obtain ⟨event, h⟩ := upsert_of_valid (r := r) hid hvalid now
        have hstores : r.Stores now (.upsert l) (l.id, r.stored now l) := ⟨hid, hvalid, rfl⟩
        rw [h]
        exact .stored hstores event

theorem Sound.effect_patch {r : Registry} (hr : r.Sound) (now : Time.Timestamp) (id : String)
    (p : Patch) : r.Effect now (.patch id p) (r.patch now id p) := by
  cases h : r.find? id with
  | none =>
      rw [patch_of_unknown h]
      exact .refused _ _ _
  | some l =>
      have hstores : r.Stores now (.patch id p) (id, l.patched p now) := ⟨l, h, rfl⟩
      rw [hr.patch_eq h]
      exact .stored hstores _

theorem Sound.effect_allow {r : Registry} (hr : r.Sound) (now : Time.Timestamp) (id ip : String) :
    r.Effect now (.allow id ip) (r.allow now id ip) := by
  cases h : r.find? id with
  | none =>
      rw [allow_of_unknown h]
      exact .refused _ _ _
  | some l =>
      have hstores : r.Stores now (.allow id ip) (id, l.allowed ip now) := ⟨l, h, rfl⟩
      rw [hr.allow_eq h]
      exact .stored hstores _

theorem effect_get (r : Registry) (now : Time.Timestamp) (id : String) :
    r.Effect now (.get id) (r.get id) := by
  cases h : r.find? id with
  | none =>
      rw [get_of_unknown h]
      exact .refused _ _ _
  | some l =>
      rw [get_of_known h]
      exact .looked rfl _

theorem effect_delete (r : Registry) (now : Time.Timestamp) (ids : List String) :
    r.Effect now (.delete ids) (r.delete ids) := by
  cases h : ids.find? fun id => (r.find? id).isNone with
  | some id =>
      rw [delete_of_unknown h]
      exact .refused _ _ _
  | none =>
      rw [delete_of_known h]
      exact .removed _ _

theorem effect_list (r : Registry) (now : Time.Timestamp) (f : Filter) :
    r.Effect now (.list f) (r.list f) := by
  unfold list
  cases f.summaries r.entries with
  | error fault => exact .refused _ _ _
  | ok ss => exact .looked rfl _

theorem Sound.effect {r : Registry} (hr : r.Sound) (now : Time.Timestamp) (op : Operation) :
    r.Effect now op (r.step now op) := by
  cases op with
  | upsert l => exact effect_upsert r now l
  | patch id p => exact hr.effect_patch now id p
  | allow id ip => exact hr.effect_allow now id ip
  | get id => exact effect_get r now id
  | delete ids => exact effect_delete r now ids
  | list f => exact effect_list r now f
  | clear => exact .cleared

theorem Sound.storedAs_of_stores {r : Registry} (hr : r.Sound) {now : Time.Timestamp}
    {op : Operation} {x : String × Link} (hx : r.Stores now op x) : x.2.StoredAs x.1 := by
  cases op with
  | upsert l =>
      obtain ⟨hid, hvalid, rfl⟩ := hx
      obtain ⟨e, hends, hne⟩ := (Link.validate_eq_ok_iff l).mp hvalid
      exact hr.storedAs_stored hid hends hne now
  | patch id p =>
      obtain ⟨l, hl, rfl⟩ := hx
      exact (hr.storedAs_of_find? hl).patched p now
  | allow id ip =>
      obtain ⟨l, hl, rfl⟩ := hx
      exact (hr.storedAs_of_find? hl).allowed ip now
  | get _ | delete _ | list _ | clear => cases hx

theorem Sound.of_effect {r : Registry} (hr : r.Sound) {now : Time.Timestamp} {op : Operation}
    {o : Outcome} (h : r.Effect now op o) : o.registry.Sound := by
  cases h with
  | refused f events => exact hr
  | looked hop reply => exact hr
  | stored hx event => exact hr.commit (hr.storedAs_of_stores hx) event
  | removed ids events => exact hr.remove ids
  | cleared => exact sound_empty

theorem Sound.step {r : Registry} (hr : r.Sound) (now : Time.Timestamp) (op : Operation) :
    (r.step now op).registry.Sound :=
  hr.of_effect (hr.effect now op)

theorem Sound.run {r : Registry} (hr : r.Sound)
    (ops : List (Time.Timestamp × Operation)) : (r.run ops).2.Sound := by
  induction ops generalizing r with
  | nil => exact hr
  | cons op ops ih => exact ih (hr.step op.1 op.2)

/-- The registry that operations lead to from a new one. -/
def after (ops : List (Time.Timestamp × Operation)) : Registry :=
  (empty.run ops).2

theorem sound_after (ops : List (Time.Timestamp × Operation)) : (after ops).Sound :=
  sound_empty.run ops

/-- Whatever operations were carried out or refused, each entry is a sound link that is
stored under its own id. -/
theorem storedAs_of_mem_after (ops : List (Time.Timestamp × Operation))
    (x : String × Link) (hx : x ∈ (after ops).entries) : x.2.StoredAs x.1 :=
  (sound_after ops).storedAs x hx

/-- The start of 2024, in UTC. -/
def trialTime : Time.Timestamp :=
  ⟨⟨2024, 1, 1, by decide⟩, Time.TimeOfDay.midnight, some Time.Offset.utc⟩

/-- A link between two interfaces of which nothing else is known. -/
def trialLink (id i j : String) : Link :=
  ⟨id, "", some ⟨⟨"", i, none⟩, ⟨"", j, none⟩⟩, none, none, none⟩

/-- Operations that write three links; the first end of one is patched twice by one
patch, and a loop and a deletion are refused. -/
def trial : List (Time.Timestamp × Operation) :=
  [.upsert (trialLink "b" "i" "j"), .upsert (trialLink "a" "i" "i"),
    .patch "b" ⟨some [⟨"m", "i", some ⟨some ["x"]⟩⟩, ⟨"n", "i", some ⟨none⟩⟩, ⟨"o", "k", none⟩],
      some 25⟩,
    .allow "b" "y", .upsert (trialLink "a" "j" "k"), .delete ["a", "z"],
    .upsert (trialLink "c" "k" "i")].map fun op => (trialTime, op)

/-- The link that the operations leave under the key of the patch. -/
def trialResult : Link :=
  ⟨"b", "", some ⟨⟨"n", "i", some ⟨some ["x", "y"]⟩⟩, ⟨"", "j", some ⟨some ["y"]⟩⟩⟩, some 25,
    some trialTime, some trialTime⟩

theorem storedAs_of_mem_after_trial :
    ("b", trialResult) ∈ (after trial).entries ∧ trialResult.StoredAs "b" := by
  have hmem : ("b", trialResult) ∈ (after trial).entries := by decide +kernel
  exact ⟨hmem, storedAs_of_mem_after trial ("b", trialResult) hmem⟩

end Registry
end LinkRegistry
