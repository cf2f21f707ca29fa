import Mathlib
import LinkRegistry.Proofs.Demand

/-!
# A link without an id gets a new one

**Input.** A service that draws numbered ids, any requests to it that bring no id of that form,
and a request to store a link without an id.

**Rule.** The number goes up with every draw, also if the link is refused after it, and
different numbers are written differently.  So an id is drawn once, and before that nothing is
stored under it: neither by a request that brings an id of its own nor by one that got another
number.

**Results.**
* `numberedId_injective`: which ids are the same.
* `Unspent.handle`, `Unspent.serve`: the ids of all numbers that are still to be drawn are
  free, whatever is requested.
* `Takes.creates`: what it means to store a link under a free id.
* `creates_after`: a link without an id is always created, under an id of its own.
-/

namespace LinkRegistry

namespace IdSource

theorem numberedId_injective (stem : String) : Function.Injective (numberedId stem) := by
  intro m n h
  have hchars :
      (stem.toList ++ ['-']) ++ m.repr.toList = (stem.toList ++ ['-']) ++ n.repr.toList := by
    simpa [numberedId, String.toList_append] using congrArg String.toList h
  exact Int.repr_injective (String.toList_injective (List.append_cancel_left hchars))

end IdSource

/-- The link as it is stored if it came without an id. -/
def Link.newAs (l : Link) (id : String) (interval : Option Int) (now : Time.Timestamp) : Link :=
  { l.withRouting with
    id := id
    keepalive := l.keepalive.or interval
    created := some now
    updated := some now }

/-- The key of every entry after an operation was there before, or it is the id of a link that
the operation is to store. -/
theorem Registry.Effect.key_cases {r : Registry} {now : Time.Timestamp} {op : Operation}
    {o : Outcome} (h : r.Effect now op o) {x : String × Link} (hx : x ∈ o.registry.entries) :
    (∃ l, (x.1, l) ∈ r.entries) ∨ ∃ l, op = .upsert l ∧ x.1 = l.id := by
  rcases h.mem hx with hx | hstores
  · exact Or.inl ⟨x.2, hx⟩
  · cases op with
    | upsert l =>
        obtain ⟨-, -, rfl⟩ := hstores
        exact Or.inr ⟨l, rfl, rfl⟩
    | patch id p =>
        obtain ⟨l, hl, rfl⟩ := hstores
        exact Or.inl ⟨l, Entries.mem_of_lookup hl⟩
    | allow id ip =>
        obtain ⟨l, hl, rfl⟩ := hstores
        exact Or.inl ⟨l, Entries.mem_of_lookup hl⟩
    | get _ | delete _ | list _ | clear => cases hstores

namespace Service

open Wire

/-- The request is to store a link, and brings this id for it. -/
def Request.Brings (r : Request) (id : String) : Prop :=
  ∃ b, r.action? = some .upsert ∧ r.demand .upsert = .ok (.store b) ∧ b.id = id

/-- The link is stored under its id, which was free, and nothing else changes; the answer is
the link. -/
structure Reaction.Creates (x : Reaction) (s : State) (l : Link) : Prop where
  free : s.registry.find? l.id = none
  stored : x.state.registry.find? l.id = some l
  others : ∀ key, key ≠ l.id → x.state.registry.find? key = s.registry.find? key
  size_eq : x.state.registry.entries.length = s.registry.entries.length + 1
  answered : ∃ b : LinkBody, b.Describes l ∧
    x.response = .link ⟨b, Note.ofIndex (s.registry.index + 1)⟩

namespace State

/-- The service draws the numbered ids from a number on, and has stored nothing under them. -/
structure Unspent (stem : String) (next : Int) (s : State) : Prop where
  registry : s.registry.Sound
  ids_eq : s.ids = .numbered stem next
  unused : ∀ x ∈ s.registry.entries, ∀ n, next ≤ n → x.1 ≠ IdSource.numberedId stem n

section Keeping

variable {stem : String} {next : Int} {s : State}

theorem unspent_start (stem : String) (first : Int) (interval : Option Int) :
    (start (.numbered stem first) interval).Unspent stem first where
  registry := Registry.sound_empty
  ids_eq := rfl
  unused := fun _ hx => nomatch hx

theorem Unspent.find?_eq_none (hs : s.Unspent stem next) {n : Int} (hn : next ≤ n) :
    s.registry.find? (IdSource.numberedId stem n) = none := by
  cases hfind : s.registry.find? (IdSource.numberedId stem n) with
  | none => rfl
  | some l => exact absurd rfl (hs.unused _ (Entries.mem_of_lookup hfind) n hn)

/-- An operation that stores under none of the ids that are still to be drawn leaves them
free. -/
theorem Unspent.execute (hs : s.Unspent stem next) {later : Int} (hle : next ≤ later)
    {o : Order} (hids : o.ids = .numbered stem later)
    (hkey : ∀ l, o.operation = .upsert l → ∀ n, later ≤ n → l.id ≠ IdSource.numberedId stem n)
    (now : Time.Timestamp) : (s.execute now o).state.Unspent stem later where
  registry := hs.registry.step now o.operation
  ids_eq := hids
  unused := by
    intro x hx n hn
    rcases (hs.registry.effect now o.operation).key_cases hx with ⟨l, hmem⟩ | ⟨l, hop, hid⟩
    · exact hs.unused _ hmem n (Int.le_trans hle hn)
    · rw [hid]
      exact hkey l hop n hn

/-- A link takes the next number, which is not drawn again, or its own id. -/
theorem Unspent.execute_store (hs : s.Unspent stem next) {b : LinkBody}
    (hown : ∀ n, b.id ≠ IdSource.numberedId stem n) {now : Time.Timestamp} {o : Order}
    (ho : s.orderFor now (.store b) = .ok o) :
    ∃ later, next ≤ later ∧ (s.execute now o).state.Unspent stem later := by
  obtain ⟨l, hlink, rfl⟩ := exists_of_orderFor_store ho
  have hid : l.id = b.id := (LinkBody.toLink_eq_ok_iff.mp hlink).id
  have hkey : (s.complete now l).1.id = s.keyFor b := complete_id hlink s now
  have hids := s.complete_ids now l
  rw [hid] at hids
  by_cases hblank : b.id = ""
  · rw [if_pos hblank, hs.ids_eq, IdSource.draw_numbered] at hids
    refine ⟨next + 1, by omega, hs.execute (by omega) hids ?_ now⟩
    rintro _ ⟨⟩ n hn heq
    rw [hkey, keyFor, if_pos hblank, hs.ids_eq, IdSource.draw_numbered] at heq
    have hsame : next = n := IdSource.numberedId_injective stem heq
    omega
  · rw [if_neg hblank, hs.ids_eq] at hids
    refine ⟨next, Int.le_refl next, hs.execute (Int.le_refl next) hids ?_ now⟩
    rintro _ ⟨⟩ n -
    rw [hkey, keyFor, if_neg hblank]
    exact hown n

theorem Unspent.handle (hs : s.Unspent stem next) {r : Request}
    (hr : ∀ n, ¬ r.Brings (IdSource.numberedId stem n)) (now : Time.Timestamp) :
    ∃ later, next ≤ later ∧ (s.handle now r).state.Unspent stem later := by
  refine handle_keeps (P := fun t => ∃ later, next ≤ later ∧ t.Unspent stem later)
    ⟨next, Int.le_refl next, hs⟩ ?_
  intro a d o ha hd ho
  cases d with
  | store b =>
      obtain rfl : Action.upsert = a := Request.action_of_demand hd
      exact hs.execute_store (fun n heq => hr n ⟨b, ha, hd, heq⟩) ho
  | list _ | delete _ | fetch _ | patch _ _ | allow _ _ =>
      cases ho
      refine ⟨next, Int.le_refl next, hs.execute (Int.le_refl next) hs.ids_eq ?_ now⟩
      intro l hop
      cases hop

theorem Unspent.serve (hs : s.Unspent stem next) {rs : List (Time.Timestamp × Request)}
    (hrs : ∀ x ∈ rs, ∀ n, ¬ x.2.Brings (IdSource.numberedId stem n)) :
    ∃ later, next ≤ later ∧ (s.serve rs).2.Unspent stem later := by
  refine serve_keeps_for (P := fun t => ∃ later, next ≤ later ∧ t.Unspent stem later)
    (T := fun _ r => ∀ n, ¬ r.Brings (IdSource.numberedId stem n)) ?_
    ⟨next, Int.le_refl next, hs⟩ hrs
  rintro t now r hr ⟨reached, hle, ht⟩
  obtain ⟨later, hlater, hunspent⟩ := ht.handle hr now
  exact ⟨later, Int.le_trans hle hlater, hunspent⟩

end Keeping

section Creating

variable {stem : String} {next : Int} {s : State} {b : LinkBody} {own : Link}

/-- A link that is stored under a free id changes nothing else. -/
theorem Takes.creates {l : Link} {x : Reaction} (h : s.Takes l x)
    (hfree : s.registry.find? l.id = none) (hok : x.response.status = 200) : x.Creates s l := by
  have hfind (key : String) :
      x.state.registry.find? key = if key = l.id then some l else s.registry.find? key := by
    rw [h.1]
    exact Entries.lookup_store l.id key l s.registry.entries
  refine ⟨hfree, ?_, ?_, ?_, h.answers hok⟩
  · rw [hfind, if_pos rfl]
  · intro key hkey
    rw [hfind, if_neg hkey]
  · rw [h.1]
    exact Entries.length_store_of_lookup hfree l

/-- The form in which a link without an id is stored, if its new id is free. -/
theorem stored_complete_of_blank (hid : own.id = "")
    (hfree : s.registry.find? s.ids.draw.1 = none) (now : Time.Timestamp) :
    s.registry.stored now (s.complete now own).1 =
      own.newAs s.ids.draw.1 s.defaultKeepalive now := by
  have hcomplete : (s.complete now own).1 =
      { own with
        id := s.ids.draw.1
        keepalive := own.keepalive.or s.defaultKeepalive
        created := some now } := by
    simp only [complete, hid, if_true]
    rfl
  rw [hcomplete]
  simp only [Registry.stored, Registry.creationTime, hfree]
  rfl

theorem Unspent.creates (hs : s.Unspent stem next) {now : Time.Timestamp} (hid : b.id = "")
    (hok : (s.react now (.store b)).response.status = 200) :
    ∃ own, b.toLink = .ok own ∧ (s.react now (.store b)).Creates s
      (own.newAs (IdSource.numberedId stem next) s.defaultKeepalive now) := by
  obtain ⟨hjoins, hkey⟩ := Bool.and_eq_true_iff.mp (accepts_of_status hok)
  have hdraw : s.ids.draw.1 = IdSource.numberedId stem next := by
    rw [hs.ids_eq, IdSource.draw_numbered]
  have hfree := hs.find?_eq_none (Int.le_refl next)
  cases hlink : b.toLink with
  | error f => exact absurd hjoins (by simp [(LinkBody.toLink_eq_error hlink).2])
  | ok own =>
      rcases LinkBody.validate_of_toLink hlink with ⟨-, hvalid⟩ | ⟨hno, -⟩
      · have htakes := takes_of_valid hlink (bne_iff_ne.mp hkey) hvalid now
        have hown : own.id = "" := (LinkBody.toLink_eq_ok_iff.mp hlink).id.trans hid
        rw [← hdraw] at hfree ⊢
        rw [stored_complete_of_blank hown hfree now] at htakes
        exact ⟨own, rfl, htakes.creates hfree hok⟩
      · exact absurd hjoins (by simp [hno])

/-- A request to store a link without an id, if it is answered with 200, creates the link under
a numbered id that nothing was stored under after any of the requests before, as long as none
of these brought an id of that form. -/
theorem creates_after (stem : String) (first : Int) (interval : Option Int)
    {rs : List (Time.Timestamp × Request)}
    (hrs : ∀ x ∈ rs, ∀ n, ¬ x.2.Brings (IdSource.numberedId stem n)) {now : Time.Timestamp}
    {r : Request} (ha : r.action? = some .upsert) (hb : r.demand .upsert = .ok (.store b))
    (hid : b.id = "")
    (hok : (((start (.numbered stem first) interval).serve rs).2.handle now r).response.status =
      200) :
    let s := ((start (.numbered stem first) interval).serve rs).2
    ∃ own n, b.toLink = .ok own ∧ first ≤ n ∧
      (s.handle now r).Creates s (own.newAs (IdSource.numberedId stem n) interval now) ∧
      ∀ before, before <+: rs →
        ((start (.numbered stem first) interval).serve before).2.registry.find?
          (IdSource.numberedId stem n) = none := by
  intro s
  have hstart := unspent_start stem first interval
  obtain ⟨n, hn, hs⟩ := hstart.serve hrs
  have hhandle : s.handle now r = s.react now (.store b) := handle_of_demand s now ha hb
  rw [hhandle] at hok ⊢
  obtain ⟨own, hlink, hcreates⟩ := hs.creates hid hok
  have hinterval : s.defaultKeepalive = interval :=
    defaultKeepalive_serve (start (.numbered stem first) interval) rs
  rw [hinterval] at hcreates
  refine ⟨own, n, hlink, hn, hcreates, ?_⟩
  -- the number was still to be drawn after each of the requests
  rintro before ⟨rest, rfl⟩
  rw [serve_append] at hs
  obtain ⟨reached, -, hbefore⟩ := hstart.serve fun x hx => hrs x (List.mem_append_left rest hx)
  obtain ⟨later, hlater, hlast⟩ := hbefore.serve fun x hx => hrs x (List.mem_append_right before hx)
  have hsame : later = n := by
    have hids := hlast.ids_eq.symm.trans hs.ids_eq
    injection hids
  exact hbefore.find?_eq_none (hsame ▸ hlater)

/-- A link that brings its id, one that is refused after the number -1 was drawn for it, one that
gets the number 0, and the deletion of the latter. -/
def trialDraws : List (Time.Timestamp × Request) :=
  [.storing "x" "i" "j", .storing "" "i" "i", .storing "" "i" "j",
    .deleting "connection_ids" (Json.texts ["conn-0"])].map fun r => (Registry.trialTime, r)

theorem not_brings_of_mem_trialDraws :
    ∀ x ∈ trialDraws, ∀ n, ¬ x.2.Brings (IdSource.numberedId "conn" n) := by
  have hforeign (id : String) (hid : id = "" ∨ id = "x") (n : Int) :
      id ≠ IdSource.numberedId "conn" n := by
    intro h
    have hchars := congrArg String.toList h
    rcases hid with rfl | rfl <;> simp [IdSource.numberedId, String.toList_append] at hchars
  have hstoring (id i j : String) (hid : id = "" ∨ id = "x") (n : Int) :
      ¬ (Request.storing id i j).Brings (IdSource.numberedId "conn" n) := by
    rintro ⟨b, -, hb, heq⟩
    cases hb
    exact hforeign id hid n heq
  have hdeleting (n : Int) : ¬ (Request.deleting "connection_ids" (Json.texts ["conn-0"])).Brings
      (IdSource.numberedId "conn" n) := by
    rintro ⟨b, ha, -⟩
    have haction : (Request.deleting "connection_ids" (Json.texts ["conn-0"])).action? =
        some .delete := by
      decide +kernel
    cases haction.symm.trans ha
  intro x hx n
  simp only [trialDraws, List.map_cons, List.map_nil, List.mem_cons, List.not_mem_nil,
    or_false] at hx
  rcases hx with rfl | rfl | rfl | rfl
  · exact hstoring "x" "i" "j" (Or.inr rfl) n
  · exact hstoring "" "i" "i" (Or.inl rfl) n
  · exact hstoring "" "i" "j" (Or.inl rfl) n
  · exact hdeleting n

/-- The link gets the number 1. -/
theorem creates_after_trial :
    let s := ((start (.numbered "conn" (-1)) none).serve trialDraws).2
    let r := Request.storing "" "k" "j"
    let x := s.handle Registry.trialTime r
    (∀ y ∈ trialDraws, ∀ n, ¬ y.2.Brings (IdSource.numberedId "conn" n)) ∧
      r.action? = some .upsert ∧ x.response.status = 200 ∧
      x.state.registry.ids = ["conn-1", "x"] ∧
      ∃ l, x.Creates s l ∧ ∀ before, before <+: trialDraws →
        ((start (.numbered "conn" (-1)) none).serve before).2.registry.find? l.id = none := by
  intro s r x
  have haction : r.action? = some .upsert := by decide +kernel
  have hok : x.response.status = 200 := by decide +kernel
  obtain ⟨own, n, -, -, hcreates, hnever⟩ :=
    creates_after "conn" (-1) none not_brings_of_mem_trialDraws haction rfl rfl hok
  exact ⟨not_brings_of_mem_trialDraws, haction, hok, by decide +kernel, _, hcreates, hnever⟩

end Creating
end State
end Service
end LinkRegistry
