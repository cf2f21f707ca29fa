import LinkRegistry.Proofs.Listing
import LinkRegistry.Service.Basic

/-!
# Pages of a listing

**Input.** A service whose registry operations have led to, a request for a listing, and the
number of links that a page holds.

**Rule.** The first page is asked for without a token, and each page that names a next one
is followed by the page at that token, asked of the service as it was left.  A token is
the id of the first link that was cut off.  Since ids ascend strictly and none is empty,
the page at that token begins with that very link.

**Results.**
* `Page.dropBefore_append`: what a token cuts off.
* `list_of_sound`: the reaction to a request for a listing, at any time.
* `covers_last`, `covers_next`, `covers_of_suffix`: the walk over any end of a listing.
* `walk_covers_listing`: the walk over a whole listing.
-/

namespace LinkRegistry

namespace Filter

theorem restriction?_of_ne {s : String} (h : s ≠ "") : restriction? (some s) = some s := by
  unfold restriction?
  split
  · rename_i heq
    exact absurd (Option.some.inj heq) h
  · rfl

end Filter

namespace Page

/-- The token of a link leads to that link, whatever comes before it. -/
theorem dropBefore_append {before rest : List Summary} {s : Summary}
    (hasc : (before ++ s :: rest).Pairwise fun a b => a.id < b.id) (hne : s.id ≠ "") :
    dropBefore (some s.id) (before ++ s :: rest) = s :: rest := by
  obtain ⟨-, hrest, hbefore⟩ := List.pairwise_append.mp hasc
  have hcut : before.filter (fun x => !decide (x.id < s.id)) = [] := by
    refine List.filter_eq_nil_iff.mpr fun x hx => ?_
    have hlt : x.id < s.id := hbefore x hx s List.mem_cons_self
    rw [decide_eq_true hlt]
    exact Bool.false_ne_true
  have hkeep : (s :: rest).filter (fun x => !decide (x.id < s.id)) = s :: rest := by
    refine List.filter_eq_self.mpr fun x hx => ?_
    have hnot : ¬ x.id < s.id := by
      rcases List.mem_cons.mp hx with rfl | hx
      · exact String.lt_irrefl _
      · exact String.lt_asymm ((List.pairwise_cons.mp hrest).1 x hx)
    rw [decide_eq_false hnot]
    rfl
  unfold dropBefore
  rw [Filter.restriction?_of_ne hne]
  change (before ++ s :: rest).filter (fun x => !decide (x.id < s.id)) = _
  rw [List.filter_append, hcut, hkeep, List.nil_append]

/-- What follows a page of the rest of a listing begins at the token that the page names. -/
theorem dropBefore_next {ss rest : List Summary} {x : Summary} {n : Nat}
    (hasc : ss.Pairwise fun a b => a.id < b.id) (hne : ∀ s ∈ ss, s.id ≠ "")
    (hsuffix : rest <:+ ss) (hx : rest[n]? = some x) :
    dropBefore (some x.id) ss = rest.drop n := by
  obtain ⟨hlt, hget⟩ := List.getElem?_eq_some_iff.mp hx
  have hdrop : rest.drop n = x :: rest.drop (n + 1) := by
    rw [← hget]
    exact List.drop_eq_getElem_cons hlt
  obtain ⟨before, rfl⟩ := hsuffix
  have hsplit : before ++ rest = (before ++ rest.take n) ++ x :: rest.drop (n + 1) := by
    rw [← hdrop, List.append_assoc, List.take_append_drop]
  have hmem : x ∈ before ++ rest := List.mem_append_right _ (List.mem_of_getElem? hx)
  have hid := hne x hmem
  rw [hsplit] at hasc ⊢
  rw [hdrop]
  exact dropBefore_append hasc hid

end Page

/-- The same request for pages of a size, at a token. -/
def Wire.ListRequest.page (q : Wire.ListRequest) (size : Option Nat) (token : Option String) :
    Wire.ListRequest :=
  { q with options := { q.options with size := size, token := token } }

namespace Service
namespace State

open Wire

/-- The reaction to a request for a listing. -/
def list (s : State) (now : Time.Timestamp) (q : ListRequest) : Reaction :=
  s.execute now (s.listOrder q)

/-- The answers from a token on, each at its time.  Each but the last names the token of the
next, which is asked of the state that is left. -/
inductive Walk (q : ListRequest) (size : Nat) :
    State → Option String → List (Time.Timestamp × ListAnswer) → Prop
  | last {s : State} {token : Option String} {now : Time.Timestamp} {a : ListAnswer} :
      (s.list now (q.page (some size) token)).response = .page a →
      a.next = none →
      Walk q size s token [(now, a)]
  | next {s : State} {token : Option String} {now : Time.Timestamp} {a : ListAnswer}
      {t : String} {rest : List (Time.Timestamp × ListAnswer)} :
      (s.list now (q.page (some size) token)).response = .page a →
      a.next = some t →
      Walk q size (s.list now (q.page (some size) token)).state (some t) rest →
      Walk q size s token ((now, a) :: rest)

/-- The answer with a page. -/
def pageAnswer (s : State) (p : Page) : ListAnswer :=
  ⟨p.items, p.next, Note.ofIndex s.registry.index⟩

section Walks

variable {s : State} {q : ListRequest} {size : Nat} {token : Option String} {a : ListAnswer}

theorem walk_iff_of_last
    (hlist : ∀ now, s.list now (q.page (some size) token) = ⟨.page a, [], s⟩)
    (hnext : a.next = none) (as : List (Time.Timestamp × ListAnswer)) :
    Walk q size s token as ↔ as.map Prod.snd = [a] := by
  constructor
  · intro hwalk
    cases hwalk with
    | last hpage _ =>
        rw [hlist] at hpage
        cases hpage
        rfl
    | next hpage hnext' _ =>
        rw [hlist] at hpage
        cases hpage
        cases hnext.symm.trans hnext'
  · intro hmap
    obtain ⟨⟨now, b⟩, rfl, rfl⟩ := List.map_eq_singleton_iff.mp hmap
    exact Walk.last (congrArg Reaction.response (hlist now)) hnext

theorem walk_iff_of_next {t : String}
    (hlist : ∀ now, s.list now (q.page (some size) token) = ⟨.page a, [], s⟩)
    (hnext : a.next = some t) (as : List (Time.Timestamp × ListAnswer)) :
    Walk q size s token as ↔
      ∃ now rest, as = (now, a) :: rest ∧ Walk q size s (some t) rest := by
  constructor
  · intro hwalk
    cases hwalk with
    | last hpage hnext' =>
        rw [hlist] at hpage
        cases hpage
        cases hnext.symm.trans hnext'
    | next hpage hnext' hrest =>
        rw [hlist] at hpage hrest
        cases hpage
        cases hnext.symm.trans hnext'
        exact ⟨_, _, rfl, hrest⟩
  · rintro ⟨now, rest, rfl, hrest⟩
    refine Walk.next (congrArg Reaction.response (hlist now)) hnext ?_
    rw [hlist]
    exact hrest

theorem list_of_sound (hs : s.registry.Sound) (now : Time.Timestamp) (q : ListRequest) :
    s.list now q =
      ⟨.page (s.pageAnswer
        (Page.ofListing q.options.token q.options.size (s.registry.listing (filterOf q)))),
        [], s⟩ := by
  have hstep : s.registry.step now (.list (filterOf q)) =
      ⟨.ok (.listed (s.registry.listing (filterOf q))), [], s.registry⟩ :=
    hs.list_eq (filterOf q)
  unfold list execute listOrder
  rw [hstep]
  rfl

theorem list_at (hs : s.registry.Sound) {rest : List Summary}
    (hrest : Page.dropBefore token (s.registry.listing (filterOf q)) = rest) (size : Nat)
    (now : Time.Timestamp) :
    s.list now (q.page (some size) token) =
      ⟨.page (s.pageAnswer ⟨rest.take size, (rest[size]?).map Summary.id⟩), [], s⟩ := by
  rw [list_of_sound hs, ← hrest]
  rfl

theorem pages_succ {n length : Nat} (hn : 0 < n) (h : n < length) :
    (length - n - 1) / n + 1 + 1 = (length - 1) / n + 1 := by
  have hsplit : length - 1 = length - n - 1 + n := by omega
  rw [hsplit, Nat.add_div_right _ hn]

theorem pages_eq_max {n length : Nat} (hn : 0 < n) :
    (length - 1) / n + 1 = max 1 ((length + n - 1) / n) := by
  cases length with
  | zero =>
      have hzero : (0 + n - 1) / n = 0 := Nat.div_eq_of_lt (by omega)
      rw [hzero, Nat.zero_sub, Nat.zero_div]
      rfl
  | succ k =>
      have hsplit : k + 1 + n - 1 = k + n := by omega
      rw [hsplit, Nat.add_div_right _ hn, Nat.add_sub_cancel]
      exact (Nat.max_eq_right (Nat.le_add_left 1 _)).symm

/-- The answers are all that a walk from the token on can get, and put together they are the
rest of a listing. -/
structure Covers (s : State) (q : ListRequest) (size : Nat) (token : Option String)
    (rest : List Summary) (answers : List ListAnswer) : Prop where
  walk_iff : ∀ as, Walk q size s token as ↔ as.map Prod.snd = answers
  length_eq : answers.length = (rest.length - 1) / size + 1
  full : ∀ a ∈ answers.dropLast, a.items.length = size
  items_eq : answers.flatMap ListAnswer.items = rest

theorem covers_last {rest : List Summary}
    (hlist : ∀ now, s.list now (q.page (some size) token) =
      ⟨.page (s.pageAnswer ⟨rest.take size, none⟩), [], s⟩)
    (hsize : 0 < size) (hle : rest.length ≤ size) :
    s.Covers q size token rest [s.pageAnswer ⟨rest.take size, none⟩] where
  walk_iff := walk_iff_of_last hlist rfl
  length_eq := by
    have hdiv : (rest.length - 1) / size = 0 := Nat.div_eq_of_lt (by omega)
    rw [hdiv]
    rfl
  full := fun a ha => nomatch ha
  items_eq := by
    change rest.take size ++ [] = rest
    rw [List.append_nil, List.take_of_length_le hle]

theorem covers_next {rest : List Summary} {t : String} {answers : List ListAnswer}
    (hlist : ∀ now, s.list now (q.page (some size) token) =
      ⟨.page (s.pageAnswer ⟨rest.take size, some t⟩), [], s⟩)
    (hsize : 0 < size) (hlt : size < rest.length)
    (hothers : s.Covers q size (some t) (rest.drop size) answers) :
    s.Covers q size token rest (s.pageAnswer ⟨rest.take size, some t⟩ :: answers) where
  walk_iff := by
    intro as
    rw [walk_iff_of_next hlist rfl, List.map_eq_cons_iff]
    constructor
    · rintro ⟨now, others, rfl, hwalk⟩
      exact ⟨_, _, rfl, rfl, (hothers.walk_iff others).mp hwalk⟩
    · rintro ⟨⟨now, a⟩, others, rfl, rfl, hwalk⟩
      exact ⟨now, others, rfl, (hothers.walk_iff others).mpr hwalk⟩
  length_eq := by
    rw [List.length_cons, hothers.length_eq, List.length_drop]
    exact pages_succ hsize hlt
  full := by
    intro a ha
    have hnonempty : answers ≠ [] := by
      rintro rfl
      cases hothers.length_eq
    rw [List.dropLast_cons_of_ne_nil hnonempty] at ha
    rcases List.mem_cons.mp ha with rfl | ha
    · change (rest.take size).length = size
      rw [List.length_take]
      omega
    · exact hothers.full a ha
  items_eq := by
    change rest.take size ++ answers.flatMap ListAnswer.items = rest
    rw [hothers.items_eq, List.take_append_drop]

theorem covers_of_suffix (hs : s.registry.Sound) (hsize : 0 < size) (length : Nat) :
    ∀ (rest : List Summary) (token : Option String), rest.length = length →
      rest <:+ s.registry.listing (filterOf q) →
      Page.dropBefore token (s.registry.listing (filterOf q)) = rest →
      ∃ answers, s.Covers q size token rest answers := by
  -- on the length of the rest: the next token leads to what is left behind one page
  induction length using Nat.strongRecOn with
  | ind length ih =>
      intro rest token hlength hsuffix hrest
      have hlist := list_at hs hrest size
      cases hcut : rest[size]? with
      | none =>
          rw [hcut] at hlist
          exact ⟨_, covers_last hlist hsize (List.getElem?_eq_none_iff.mp hcut)⟩
      | some x =>
          obtain ⟨hlt, -⟩ := List.getElem?_eq_some_iff.mp hcut
          have hshorter : (rest.drop size).length < length := by
            rw [List.length_drop]
            omega
          have hnext := Page.dropBefore_next (hs.listing_ascending (filterOf q))
            (hs.listing_id_ne (filterOf q)) hsuffix hcut
          obtain ⟨answers, hothers⟩ := ih _ hshorter (rest.drop size) (some x.id) rfl
            ((List.drop_suffix size rest).trans hsuffix) hnext
          rw [hcut] at hlist
          exact ⟨_, covers_next hlist hsize hlt hothers⟩

/-- At whatever times they are asked for, the pages of a listing that does not change are
full but for the last one, and put together they are the listing. -/
theorem walk_covers_listing {s : State} {ops : List (Time.Timestamp × Operation)}
    (hs : s.registry = Registry.after ops) (q : ListRequest) {size : Nat} (hsize : 0 < size) :
    ∃ whole answers,
      (∀ now, (s.list now (q.page none none)).response = .page whole) ∧
      (∀ as, Walk q size s none as ↔ as.map Prod.snd = answers) ∧
      answers.length = max 1 ((whole.items.length + size - 1) / size) ∧
      (∀ a ∈ answers.dropLast, a.items.length = size) ∧
      answers.flatMap ListAnswer.items = whole.items := by
  have hsound : s.registry.Sound := hs ▸ Registry.sound_after ops
  obtain ⟨answers, hcovers⟩ :=
    covers_of_suffix hsound hsize _ _ none rfl (List.suffix_refl _) rfl
  let whole : Page := ⟨s.registry.listing (filterOf q), none⟩
  refine ⟨s.pageAnswer whole, answers, fun now => ?_, hcovers.walk_iff, ?_, hcovers.full,
    hcovers.items_eq⟩
  · rw [list_of_sound hsound]
    rfl
  · rw [hcovers.length_eq]
    exact pages_eq_max hsize

/-- One link to a page, and two links with an end at the interface. -/
theorem walk_covers_listing_trial :
    let s : State := ⟨Registry.after Registry.trial, .numbered "conn" 1, none⟩
    let q : ListRequest := ⟨some "i", none, some "", PageOptions.all⟩
    0 < 1 ∧ ∃ as, Walk q 1 s none as ∧ as.length = 2 ∧
      (as.flatMap fun x => x.2.items.map Summary.id) = ["b", "c"] := by
  intro s q
  obtain ⟨whole, answers, hwhole, hwalk, hcount, -, hitems⟩ :=
    walk_covers_listing (s := s) rfl q (by decide : 0 < 1)
  have hids : (match (s.list Registry.trialTime (q.page none none)).response with
      | .page a => a.items.map Summary.id
      | _ => []) = ["b", "c"] := by decide +kernel
  rw [hwhole] at hids
  change whole.items.map Summary.id = ["b", "c"] at hids
  have hlength : whole.items.length = 2 := by
    rw [← List.length_map Summary.id, hids]
    rfl
  refine ⟨by decide, answers.map (Prod.mk Registry.trialTime), (hwalk _).mpr ?_, ?_, ?_⟩
  · simp [Function.comp_def]
  · rw [List.length_map, hcount, hlength]
    decide
  · rw [← hids, ← hitems, List.map_flatMap, List.flatMap_map]

end Walks
end State
end Service
end LinkRegistry
