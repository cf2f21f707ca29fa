import LinkRegistry.Link.Peer

/-!
# Laws of merging

**Input.** A way of merging a change into a value, and the change that says nothing.

**Rule.** Changes are merged in turn, so merging has to be associative with the change that says
nothing as its unit.  Of a change that is merged in twice only the second time counts, and a
value that is merged into itself stays as it is.  A name and a list of ranges are replaced as a
whole by every change that says something; routing may be missing on either side; a peer is
merged part by part.  The laws pass from the parts to the whole.

**Results.**
* `MergeLaws.override`: a value that is replaced as a whole.
* `MergeLaws.option`: a value that may be missing.
* `MergeLaws.prod`, `MergeLaws.of_injective`: a value of several parts.
* `routing_and_peer_merge_laws`: routing and peers.
-/

namespace LinkRegistry

/-- Merging is an idempotent monoid in which only the last one of equal changes counts. -/
structure MergeLaws {α : Type} (merge : α → α → α) (unit : α) : Prop where
  assoc : ∀ a b c, merge (merge a b) c = merge a (merge b c)
  merge_unit : ∀ a, merge a unit = a
  unit_merge : ∀ a, merge unit a = a
  self : ∀ a, merge a a = a
  again : ∀ a b, merge (merge a b) a = merge b a

namespace MergeLaws

variable {α β : Type} {merge : α → α → α} {unit : α}

/-- Merging a value into itself is merging it again, over the unit. -/
theorem of_again (assoc : ∀ a b c, merge (merge a b) c = merge a (merge b c))
    (merge_unit : ∀ a, merge a unit = a) (unit_merge : ∀ a, merge unit a = a)
    (again : ∀ a b, merge (merge a b) a = merge b a) : MergeLaws merge unit where
  assoc := assoc
  merge_unit := merge_unit
  unit_merge := unit_merge
  self := by
    intro a
    calc merge a a = merge (merge a unit) a := by rw [merge_unit]
      _ = merge unit a := again a unit
      _ = a := unit_merge a
  again := again

/-- A change replaces the value, unless it says nothing. -/
theorem override [DecidableEq α] (nothing : α) :
    MergeLaws (fun own change => if change = nothing then own else change) nothing := by
  refine of_again ?_ ?_ ?_ ?_
  · intro a b c
    by_cases hc : c = nothing <;> simp [hc]
  · intro a
    exact if_pos rfl
  · intro a
    by_cases ha : a = nothing <;> simp [ha]
  · intro a b
    by_cases ha : a = nothing
    · by_cases hb : b = nothing <;> simp [ha, hb]
    · simp [ha]

/-- The value, the change or both may be missing. -/
theorem option (h : MergeLaws merge unit) : MergeLaws (Option.merge merge) none := by
  have hassoc : Std.Associative merge := ⟨h.assoc⟩
  refine of_again Std.Associative.assoc ?_ ?_ ?_
  · exact fun _ => Option.merge_none_right
  · exact fun _ => Option.merge_none_left
  · rintro (_ | a) (_ | b)
    · rfl
    · rfl
    · exact congrArg some (h.self a)
    · exact congrArg some (h.again a b)

/-- Both parts of a pair are merged by themselves. -/
theorem prod {merge' : β → β → β} {unit' : β} (h : MergeLaws merge unit)
    (h' : MergeLaws merge' unit') :
    MergeLaws (fun a b : α × β => (merge a.1 b.1, merge' a.2 b.2)) (unit, unit') := by
  refine of_again ?_ ?_ ?_ ?_
  · exact fun a b c => Prod.ext (h.assoc a.1 b.1 c.1) (h'.assoc a.2 b.2 c.2)
  · exact fun a => Prod.ext (h.merge_unit a.1) (h'.merge_unit a.2)
  · exact fun a => Prod.ext (h.unit_merge a.1) (h'.unit_merge a.2)
  · exact fun a b => Prod.ext (h.again a.1 b.1) (h'.again a.2 b.2)

/-- A value is merged as its parts are, which determine it. -/
theorem of_injective {merge' : β → β → β} {unit' : β} (h : MergeLaws merge' unit')
    {parts : α → β} (hparts : Function.Injective parts)
    (hmerge : ∀ a b, parts (merge a b) = merge' (parts a) (parts b))
    (hunit : parts unit = unit') : MergeLaws merge unit := by
  refine of_again ?_ ?_ ?_ ?_
  · intro a b c
    apply hparts
    simp only [hmerge, h.assoc]
  · intro a
    apply hparts
    rw [hmerge, hunit, h.merge_unit]
  · intro a
    apply hparts
    rw [hmerge, hunit, h.unit_merge]
  · intro a b
    apply hparts
    simp only [hmerge, h.again]

end MergeLaws

namespace Routing

/-- A list replaces what there is, also if it is empty. -/
theorem merge_eq_override (own change : Routing) :
    own.merge change = if change = unset then own else change := by
  obtain ⟨_ | ips⟩ := change <;> simp [merge, unset]

theorem mergeLaws : MergeLaws merge unset := by
  have hmerge : merge = fun own change => if change = unset then own else change := by
    funext own change
    exact merge_eq_override own change
  rw [hmerge]
  exact MergeLaws.override unset

end Routing

namespace Peer

/-- Missing routing is merged as a missing value, and so is no unset list. -/
theorem mergeRouting_eq (own change : Option Routing) :
    mergeRouting own change = Option.merge Routing.merge own change := by
  cases own <;> cases change <;> rfl

/-- Everything that a peer consists of. -/
def parts (p : Peer) : String × String × Option Routing :=
  (p.node, p.interface, p.routing)

theorem parts_injective : Function.Injective parts := by
  rintro ⟨node, interface, routing⟩ ⟨node', interface', routing'⟩ h
  cases h
  rfl

theorem mergeLaws : MergeLaws merge blank := by
  have hname : MergeLaws nameOr "" := MergeLaws.override ""
  refine (hname.prod (hname.prod Routing.mergeLaws.option)).of_injective parts_injective ?_ rfl
  intro own change
  simp only [parts, merge, mergeRouting_eq]

end Peer

/-- Routing and peers are merged as changes of each other: the unit is routing without a list,
and a peer without names and without routing. -/
theorem routing_and_peer_merge_laws :
    MergeLaws Routing.merge Routing.unset ∧ MergeLaws Peer.merge Peer.blank :=
  ⟨Routing.mergeLaws, Peer.mergeLaws⟩

/-- Missing routing, an unset list and an empty list are three different changes. -/
example :
    let own : Peer := ⟨"n", "i", some ⟨some ["x"]⟩⟩
    let change (r : Option Routing) : Peer := ⟨"", "", r⟩
    own.merge (change none) = own ∧ own.merge (change (some ⟨none⟩)) = own ∧
      own.merge (change (some ⟨some []⟩)) = ⟨"n", "i", some ⟨some []⟩⟩ ∧
      Peer.blank.merge (change none) ≠ Peer.blank.merge (change (some ⟨none⟩)) := by
  decide

end LinkRegistry
