import LinkRegistry.Proofs.Paging

/-!
# Pages of a listing that changes

**Input.** A service whose registry operations have led to, and a request for a listing whose
pages are asked for one after the other, while any operations change the registry between
them.  Each page may have a size of its own.

**Rule.** A token divides the ids: those before it were due on the pages so far, and those
from it on are still to come.  A page lists exactly the ids from its token up to the token
of the next page, of the links that are stored and match at that moment.  So the pages
never overlap, whatever happens to the link that a token names, and no id falls between
two of them.

**Results.**
* `Page.mem_ofListing_iff`: which summaries are on a page.
* `faithful_visit`: which ids an answer lists.
* `Tour.listsOnce`: what any end of a tour through the pages lists.
* `tour_lists_once`: a tour through all pages.
-/

namespace LinkRegistry

namespace Page

/-- The id is on the page of the token or on a later one. -/
def Due (token : Option String) (id : String) : Prop :=
  ∀ t, Filter.restriction? token = some t → t ≤ id

/-- The id is before the token of the next page, if there is one. -/
def Before (next : Option String) (id : String) : Prop :=
  ∀ t, next = some t → id < t

section Cutting

variable {ss : List Summary} {s : Summary}

theorem mem_dropBefore_iff {token : Option String} :
    s ∈ dropBefore token ss ↔ s ∈ ss ∧ Due token s.id := by
  unfold dropBefore Due
  cases Filter.restriction? token with
  | none => simp
  | some t =>
      have hkept : (!decide (s.id < t)) = true ↔ t ≤ s.id := by
        rw [Bool.not_eq_true', decide_eq_false_iff_not]
        exact String.not_lt
      rw [List.mem_filter, hkept]
      refine and_congr_right fun _ => ⟨?_, fun h => h t rfl⟩
      rintro hle u hu
      cases hu
      exact hle

theorem dropBefore_sublist (token : Option String) (ss : List Summary) :
    (dropBefore token ss).Sublist ss := by
  unfold dropBefore
  split
  · exact List.Sublist.refl ss
  · exact List.filter_sublist

theorem cut_sublist (size : Option Nat) (ss : List Summary) :
    (cut size ss).items.Sublist ss := by
  cases size with
  | none => exact List.Sublist.refl ss
  | some n => exact List.take_sublist n ss

/-- The next page is named by a link that the listing has. -/
theorem exists_of_cut_next {size : Option Nat} {t : String} (h : (cut size ss).next = some t) :
    ∃ x ∈ ss, x.id = t := by
  cases size with
  | none => cases h
  | some n =>
      obtain ⟨x, hx, hid⟩ := Option.map_eq_some_iff.mp h
      exact ⟨x, List.mem_of_getElem? hx, hid⟩

/-- A link before the one at a place of the listing is among those in front of that place. -/
theorem mem_take_of_id_lt {x : Summary} {n : Nat} (hasc : ss.Pairwise fun a b => a.id < b.id)
    (hx : ss[n]? = some x) (hs : s ∈ ss) (hlt : s.id < x.id) : s ∈ ss.take n := by
  obtain ⟨hn, hget⟩ := List.getElem?_eq_some_iff.mp hx
  have hsplit : ss = ss.take n ++ x :: ss.drop (n + 1) := by
    rw [← hget, ← List.drop_eq_getElem_cons hn, List.take_append_drop]
  rw [hsplit] at hasc hs
  obtain ⟨-, hrest, -⟩ := List.pairwise_append.mp hasc
  rcases List.mem_append.mp hs with hs | hs
  · exact hs
  · rcases List.mem_cons.mp hs with rfl | hs
    · exact absurd hlt (String.lt_irrefl _)
    · exact absurd hlt (String.lt_asymm ((List.pairwise_cons.mp hrest).1 s hs))

theorem id_lt_of_mem_take {x : Summary} {n : Nat} (hasc : ss.Pairwise fun a b => a.id < b.id)
    (hx : ss[n]? = some x) (hs : s ∈ ss.take n) : s.id < x.id := by
  obtain ⟨hn, hget⟩ := List.getElem?_eq_some_iff.mp hx
  have hsplit : ss = ss.take n ++ x :: ss.drop (n + 1) := by
    rw [← hget, ← List.drop_eq_getElem_cons hn, List.take_append_drop]
  rw [hsplit] at hasc
  obtain ⟨-, -, hbefore⟩ := List.pairwise_append.mp hasc
  exact hbefore s hs x List.mem_cons_self

theorem mem_cut_iff {size : Option Nat} (hasc : ss.Pairwise fun a b => a.id < b.id) :
    s ∈ (cut size ss).items ↔ s ∈ ss ∧ Before (cut size ss).next s.id := by
  cases size with
  | none =>
      constructor
      · intro hs
        exact ⟨hs, fun t ht => nomatch ht⟩
      · rintro ⟨hs, -⟩
        exact hs
  | some n =>
      cases hn : ss[n]? with
      | none =>
          have hall : ss.take n = ss := List.take_of_length_le (List.getElem?_eq_none_iff.mp hn)
          simp [cut, hn, hall, Before]
      | some x =>
          have hnext : (cut (some n) ss).next = some x.id := by
            simp only [cut, hn, Option.map_some]
          change s ∈ ss.take n ↔ s ∈ ss ∧ Before (cut (some n) ss).next s.id
          rw [hnext]
          constructor
          · intro hs
            refine ⟨List.mem_of_mem_take hs, ?_⟩
            rintro t ⟨⟩
            exact id_lt_of_mem_take hasc hn hs
          · rintro ⟨hs, hbefore⟩
            exact mem_take_of_id_lt hasc hn hs (hbefore x.id rfl)

/-- A page lists what is due from its token on and comes before the next token. -/
theorem mem_ofListing_iff {token : Option String} {size : Option Nat}
    (hasc : ss.Pairwise fun a b => a.id < b.id) :
    s ∈ (ofListing token size ss).items ↔
      s ∈ ss ∧ Due token s.id ∧ Before (ofListing token size ss).next s.id := by
  have hdue : (dropBefore token ss).Pairwise fun a b => a.id < b.id :=
    hasc.sublist (dropBefore_sublist token ss)
  unfold ofListing
  rw [mem_cut_iff hdue, mem_dropBefore_iff, and_assoc]

theorem ofListing_sublist (token : Option String) (size : Option Nat) (ss : List Summary) :
    (ofListing token size ss).items.Sublist ss :=
  (cut_sublist size _).trans (dropBefore_sublist token ss)

theorem exists_of_ofListing_next {token : Option String} {size : Option Nat} {t : String}
    (h : (ofListing token size ss).next = some t) : ∃ x ∈ ss, x.id = t ∧ Due token x.id := by
  obtain ⟨x, hx, hid⟩ := exists_of_cut_next h
  obtain ⟨hmem, hdue⟩ := mem_dropBefore_iff.mp hx
  exact ⟨x, hmem, hid, hdue⟩

end Cutting
end Page

namespace Service

open Wire

/-- An answer with a page, and the registry that it was given from. -/
structure Visit where
  registry : Registry
  answer : ListAnswer

namespace Visit

/-- Ids that the answer lists. -/
def ids (v : Visit) : List String :=
  v.answer.items.map Summary.id

/-- A link is stored under the id, and the filter holds for it. -/
def Matches (f : Filter) (id : String) (v : Visit) : Prop :=
  ∃ l, v.registry.find? id = some l ∧ f.holds l = true

/-- The answer lists the matching ids from the token up to the next one, in order. -/
structure Faithful (f : Filter) (token : Option String) (v : Visit) : Prop where
  ascending : v.ids.Pairwise (· < ·)
  mem_iff : ∀ id, id ∈ v.ids ↔ v.Matches f id ∧ Page.Due token id ∧ Page.Before v.answer.next id
  next_ne : v.answer.next ≠ some ""
  next_due : ∀ t, v.answer.next = some t → Page.Due token t

end Visit

namespace State

/-- The service after operations on its registry. -/
def changed (s : State) (ops : List (Time.Timestamp × Operation)) : State :=
  { s with registry := (s.registry.run ops).2 }

/-- The visit of a service whose listings cannot be refused. -/
def visit (s : State) (q : ListRequest) (size : Option Nat) (token : Option String) : Visit :=
  ⟨s.registry, s.pageAnswer (Page.ofListing token size (s.registry.listing (filterOf q)))⟩

/-- The visits from a token on, whatever operations come between two of them.  Each but the
last names the token of the next. -/
inductive Tour (q : ListRequest) : State → Option String → List Visit → Prop
  | last {s : State} {token : Option String} {size : Option Nat} {now : Time.Timestamp}
      {a : ListAnswer} :
      (s.list now (q.page size token)).response = .page a →
      a.next = none →
      Tour q s token [⟨s.registry, a⟩]
  | next {s : State} {token : Option String} {size : Option Nat} {now : Time.Timestamp}
      {a : ListAnswer} {t : String} {rest : List Visit}
      (ops : List (Time.Timestamp × Operation)) :
      (s.list now (q.page size token)).response = .page a →
      a.next = some t →
      Tour q ((s.list now (q.page size token)).state.changed ops) (some t) rest →
      Tour q s token (⟨s.registry, a⟩ :: rest)

section Tours

variable {s : State} {q : ListRequest} {token : Option String}

theorem list_eq_visit (hs : s.registry.Sound) (q : ListRequest) (size : Option Nat)
    (token : Option String) (now : Time.Timestamp) :
    s.list now (q.page size token) = ⟨.page (s.visit q size token).answer, [], s⟩ :=
  list_of_sound hs now (q.page size token)

theorem faithful_visit (hs : s.registry.Sound) (size : Option Nat) :
    (s.visit q size token).Faithful (filterOf q) token := by
  let ss := s.registry.listing (filterOf q)
  let p := Page.ofListing token size ss
  have hasc : ss.Pairwise fun a b => a.id < b.id := hs.listing_ascending (filterOf q)
  refine ⟨?_, ?_, ?_, ?_⟩
  · exact List.pairwise_map.mpr (hasc.sublist (Page.ofListing_sublist token size ss))
  · intro id
    have hmatch := hs.id_mem_listing_iff (filterOf q) id
    change id ∈ p.items.map Summary.id ↔
      (∃ l, s.registry.find? id = some l ∧ (filterOf q).holds l = true) ∧
        Page.Due token id ∧ Page.Before p.next id
    rw [← hmatch]
    constructor
    · intro hid
      obtain ⟨x, hx, rfl⟩ := List.mem_map.mp hid
      obtain ⟨hmem, hplace⟩ := (Page.mem_ofListing_iff hasc).mp hx
      exact ⟨List.mem_map_of_mem hmem, hplace⟩
    · rintro ⟨hid, hplace⟩
      obtain ⟨x, hmem, rfl⟩ := List.mem_map.mp hid
      exact List.mem_map_of_mem ((Page.mem_ofListing_iff hasc).mpr ⟨hmem, hplace⟩)
  · intro hnext
    obtain ⟨x, hmem, hid, -⟩ := Page.exists_of_ofListing_next hnext
    exact hs.listing_id_ne (filterOf q) x hmem hid
  · intro t hnext
    obtain ⟨x, -, rfl, hdue⟩ := Page.exists_of_ofListing_next hnext
    exact hdue

theorem Tour.last_of_sound (hs : s.registry.Sound) {size : Option Nat}
    (hnext : (s.visit q size token).answer.next = none) : Tour q s token [s.visit q size token] :=
  .last (congrArg Reaction.response (list_eq_visit hs q size token Registry.trialTime)) hnext

theorem Tour.next_of_sound (hs : s.registry.Sound) {size : Option Nat} {t : String}
    {rest : List Visit} (ops : List (Time.Timestamp × Operation))
    (hnext : (s.visit q size token).answer.next = some t)
    (hrest : Tour q (s.changed ops) (some t) rest) :
    Tour q s token (s.visit q size token :: rest) := by
  have hlist := list_eq_visit hs q size token Registry.trialTime
  refine .next ops (congrArg Reaction.response hlist) hnext ?_
  rw [hlist]
  exact hrest

/-- Ids in strictly ascending order, none before the token, and among them all that match at
every visit and are not before the token. -/
structure ListsOnce (f : Filter) (token : Option String) (vs : List Visit) : Prop where
  ascending : (vs.flatMap Visit.ids).Pairwise (· < ·)
  due : ∀ id ∈ vs.flatMap Visit.ids, Page.Due token id
  complete : ∀ id, Page.Due token id → (∀ v ∈ vs, v.Matches f id) → id ∈ vs.flatMap Visit.ids

theorem listsOnce_last {f : Filter} {v : Visit} (hv : v.Faithful f token)
    (hnext : v.answer.next = none) : ListsOnce f token [v] := by
  have hids : [v].flatMap Visit.ids = v.ids := List.append_nil v.ids
  refine ⟨?_, ?_, ?_⟩
  · rw [hids]
    exact hv.ascending
  · intro id hid
    rw [hids] at hid
    exact ((hv.mem_iff id).mp hid).2.1
  · intro id hdue hmatch
    have hbefore : Page.Before v.answer.next id := by
      intro t ht
      rw [hnext] at ht
      cases ht
    rw [hids]
    exact (hv.mem_iff id).mpr ⟨hmatch v List.mem_cons_self, hdue, hbefore⟩

theorem listsOnce_next {f : Filter} {v : Visit} {t : String} {rest : List Visit}
    (hv : v.Faithful f token) (hnext : v.answer.next = some t)
    (hrest : ListsOnce f (some t) rest) : ListsOnce f token (v :: rest) := by
  have ht : t ≠ "" := by
    rintro rfl
    exact hv.next_ne hnext
  have hsome : Filter.restriction? (some t) = some t := Filter.restriction?_of_ne ht
  have hids : (v :: rest).flatMap Visit.ids = v.ids ++ rest.flatMap Visit.ids :=
    List.flatMap_cons
  refine ⟨?_, ?_, ?_⟩
  · rw [hids]
    refine List.pairwise_append.mpr ⟨hv.ascending, hrest.ascending, ?_⟩
    intro a ha b hb
    have hat : a < t := ((hv.mem_iff a).mp ha).2.2 t hnext
    have htb : t ≤ b := hrest.due b hb t hsome
    exact Std.lt_of_lt_of_le hat htb
  · intro id hid
    rw [hids] at hid
    rcases List.mem_append.mp hid with hid | hid
    · exact ((hv.mem_iff id).mp hid).2.1
    · intro t' ht'
      have hle : t' ≤ t := hv.next_due t hnext t' ht'
      exact String.le_trans hle (hrest.due id hid t hsome)
  · intro id hdue hmatch
    rw [hids]
    by_cases hid : id < t
    · have hbefore : Page.Before v.answer.next id := by
        intro t' ht'
        cases hnext.symm.trans ht'
        exact hid
      have hmem := (hv.mem_iff id).mpr ⟨hmatch v List.mem_cons_self, hdue, hbefore⟩
      exact List.mem_append_left _ hmem
    · have hlater : Page.Due (some t) id := by
        intro t' ht'
        cases hsome.symm.trans ht'
        exact String.not_lt.mp hid
      have hmem := hrest.complete id hlater fun w hw => hmatch w (List.mem_cons_of_mem v hw)
      exact List.mem_append_right _ hmem

theorem Tour.listsOnce {vs : List Visit} (h : Tour q s token vs) (hs : s.registry.Sound) :
    ListsOnce (filterOf q) token vs := by
  -- on the tour: what happens between two visits leaves the registry sound
  induction h with
  | @last s token size now a hpage hnext =>
      rw [list_eq_visit hs] at hpage
      cases hpage
      exact listsOnce_last (faithful_visit hs size) hnext
  | @next s token size now a t rest ops hpage hnext _ ih =>
      rw [list_eq_visit hs] at hpage ih
      cases hpage
      exact listsOnce_next (faithful_visit hs size) hnext (ih (hs.run ops))

/-- Whatever operations come between the pages, the ids that they list ascend strictly, and an
id that matches whenever a page is asked for is listed exactly once. -/
theorem tour_lists_once {ops : List (Time.Timestamp × Operation)}
    (hs : s.registry = Registry.after ops) {vs : List Visit} (h : Tour q s none vs) :
    (vs.flatMap Visit.ids).Pairwise (· < ·) ∧
      ∀ id, (∀ v ∈ vs, v.Matches (filterOf q) id) → (vs.flatMap Visit.ids).count id = 1 := by
  have hsound : s.registry.Sound := hs ▸ Registry.sound_after ops
  have hlists := h.listsOnce hsound
  refine ⟨hlists.ascending, ?_⟩
  intro id hmatch
  have hdistinct : (vs.flatMap Visit.ids).Nodup := by
    refine hlists.ascending.imp ?_
    rintro a b hlt rfl
    exact String.lt_irrefl a hlt
  have hdue : Page.Due none id := fun t ht => nomatch ht
  have hmem : id ∈ vs.flatMap Visit.ids := hlists.complete id hdue hmatch
  rw [hdistinct.count, if_pos hmem]

/-- Between two pages of one link each, the link that the token names is deleted, another one
takes up the interface before the token, and a new one behind it. -/
theorem tour_lists_once_trial :
    let s : State := ⟨Registry.after Registry.trial, .numbered "conn" 1, none⟩
    let q : ListRequest := ⟨some "i", none, some "", PageOptions.all⟩
    ∃ vs, Tour q s none vs ∧ vs.flatMap Visit.ids = ["b", "d"] ∧
      (∀ v ∈ vs, v.Matches (filterOf q) "b") ∧ (vs.flatMap Visit.ids).count "b" = 1 := by
  intro s q
  let ops : List (Time.Timestamp × Operation) :=
    [.delete ["c"], .upsert (Registry.trialLink "a" "i" "k"),
      .upsert (Registry.trialLink "d" "i" "j")].map fun op => (Registry.trialTime, op)
  have hafter : s.registry = Registry.after Registry.trial := rfl
  have hs : s.registry.Sound := Registry.sound_after Registry.trial
  have hchanged : (s.changed ops).registry.Sound := hs.run ops
  let v := s.visit q (some 1) none
  let w := (s.changed ops).visit q (some 1) (some "c")
  have htour : Tour q s none [v, w] := by
    have hnext : v.answer.next = some "c" := by decide +kernel
    refine .next_of_sound hs ops hnext ?_
    exact .last_of_sound hchanged (by decide +kernel)
  have hfind : ∀ u ∈ [v, w], u.registry.find? "b" = some Registry.trialResult := by
    decide +kernel
  have hmatch : ∀ u ∈ [v, w], u.Matches (filterOf q) "b" := by
    intro u hu
    exact ⟨Registry.trialResult, hfind u hu, by decide +kernel⟩
  obtain ⟨-, honce⟩ := tour_lists_once hafter htour
  exact ⟨[v, w], htour, by decide +kernel, hmatch, honce "b" hmatch⟩

end Tours
end State
end Service
end LinkRegistry
