import LinkRegistry.Proofs.Listing

/-!
# The order of the two ends

**Input.** A link between two different interfaces, and the one with its ends exchanged.

**Rule.** The order of the ends is only that of their storage.  Questions look at the first end
and then at the second one, but at most one of them is at an interface, so the answers are the
same in either order.  Two ends may be on one node; then a question for that node is answered
by the end that is stored first.  Changes are made at each end by itself, so they may as well
be made before the ends are exchanged.

**Results.**
* `ask_swap`: what a question that is put to both ends has to satisfy.
* `Ends.mergeEntry_swap`, `Ends.mergeAll_swap`: merging listed peers into exchanged ends.
* `unordered_of_ne`: all questions about a link, and all changes of it.
-/

namespace LinkRegistry

theorem sortedPair_comm (a b : String) : sortedPair a b = sortedPair b a := by
  by_cases hba : b < a
  · simp [sortedPair, hba, String.lt_asymm hba]
  · by_cases hab : a < b
    · simp [sortedPair, hab, hba]
    · have heq : a = b := String.le_antisymm (String.not_lt.mp hba) (String.not_lt.mp hab)
      rw [heq]

namespace Ends

variable {e : Ends}

/-- At most one end is at an interface, so it does not matter which one is looked at first. -/
theorem ite_interface_comm {α : Type} (h : e.first.interface ≠ e.second.interface) (i : String)
    (first second neither : α) :
    (if e.second.interface = i then second else if e.first.interface = i then first else neither) =
      if e.first.interface = i then first else if e.second.interface = i then second
        else neither := by
  by_cases hfirst : e.first.interface = i
  · have hsecond : e.second.interface ≠ i := fun hi => h (hfirst.trans hi.symm)
    simp [hfirst, hsecond]
  · simp [hfirst]

theorem mergeEntry_swap (h : e.first.interface ≠ e.second.interface) (p : Peer) :
    e.swap.mergeEntry p = (e.mergeEntry p).swap := by
  have hcomm := ite_interface_comm h p.interface
    (⟨e.second, e.first.merge p⟩ : Ends) ⟨e.second.merge p, e.first⟩ e.swap
  refine hcomm.trans ?_
  unfold mergeEntry
  split
  · rfl
  · split <;> rfl

theorem mergeAll_swap (h : e.first.interface ≠ e.second.interface) (ps : List Peer) :
    e.swap.mergeAll ps = (e.mergeAll ps).swap := by
  induction ps generalizing e with
  | nil => rfl
  | cons p ps ih =>
      obtain ⟨hfirst, hsecond⟩ := e.mergeEntry_interfaces p
      have hmerged : (e.mergeEntry p).first.interface ≠ (e.mergeEntry p).second.interface := by
        rwa [hfirst, hsecond]
      change (e.swap.mergeEntry p).mergeAll ps = ((e.mergeEntry p).mergeAll ps).swap
      rw [mergeEntry_swap h, ih hmerged]

end Ends

namespace Link

/-- Exchanging the ends of the link changes no answer, except that a question for a node may
find another end there, and commutes with every change of the link. -/
structure Unordered (l : Link) : Prop where
  validate : l.swap.validate = l.validate
  interfacePair : l.swap.interfacePair = l.interfacePair
  nodePair : l.swap.nodePair = l.nodePair
  peerAt? : ∀ i, l.swap.peerAt? i = l.peerAt? i
  peerOpposite? : ∀ i, l.swap.peerOpposite? i = l.peerOpposite? i
  reaches : ∀ i, l.swap.reaches i = l.reaches i
  reachesBoth : ∀ i j, l.swap.reachesBoth i j = l.reachesBoth i j
  peerOnNode? : ∀ n, (l.swap.peerOnNode? n).map Option.isSome =
    (l.peerOnNode? n).map Option.isSome
  merge : ∀ p, l.swap.merge p = (l.merge p).map Link.swap
  withRouting : l.swap.withRouting = l.withRouting.swap
  allow : ∀ ip changed, l.swap.allow ip = .ok changed.swap ↔ l.allow ip = .ok changed

section Questions

variable {l : Link} {e : Ends}

theorem swap_of_ends (he : l.ends = some e) : l.swap.ends = some e.swap := by
  simp [swap, he]

theorem swap_swap (l : Link) : l.swap.swap = l := by
  have hends (e : Ends) : e.swap.swap = e := rfl
  simp [swap, Function.comp_def, hends]

/-- A question that is put to both ends has the same answer for exchanged ones, if the rule
that answers it gives one. -/
theorem ask_swap {α : Type} {rule : Ends → α} (h : ∀ e, l.ends = some e → rule e.swap = rule e) :
    (l.swap.endsOrFault >>= fun e => pure (rule e)) =
      l.endsOrFault >>= fun e => pure (rule e) := by
  cases hends : l.ends with
  | none => simp [endsOrFault, swap, hends]
  | some e =>
      simp only [endsOrFault, swap_of_ends hends, hends]
      exact congrArg Except.ok (h e hends)

theorem validate_swap (l : Link) : l.swap.validate = l.validate := by
  cases hends : l.ends with
  | none => simp [validate, swap, hends]
  | some e => simp [validate, swap_of_ends hends, hends, Ends.swap, eq_comm]

theorem peerAt?_swap (h : ∀ e, l.ends = some e → e.first.interface ≠ e.second.interface)
    (i : String) : l.swap.peerAt? i = l.peerAt? i :=
  ask_swap fun e he => Ends.ite_interface_comm (h e he) i (some e.first) (some e.second) none

theorem peerOpposite?_swap (h : ∀ e, l.ends = some e → e.first.interface ≠ e.second.interface)
    (i : String) : l.swap.peerOpposite? i = l.peerOpposite? i :=
  ask_swap fun e he => Ends.ite_interface_comm (h e he) i (some e.second) (some e.first) none

theorem reaches_swap (l : Link) (i : String) : l.swap.reaches i = l.reaches i :=
  ask_swap fun _ _ => Bool.or_comm _ _

theorem reachesBoth_swap (l : Link) (i j : String) :
    l.swap.reachesBoth i j = l.reachesBoth i j := by
  simp only [reachesBoth, reaches_swap]

theorem isSome_peerOnNode?_swap (l : Link) (n : String) :
    (l.swap.peerOnNode? n).map Option.isSome = (l.peerOnNode? n).map Option.isSome := by
  cases hends : l.ends with
  | none => simp [peerOnNode?, endsOrFault, swap, hends]
  | some e =>
      rw [Filter.peerOnNode?_of_ends hends, Filter.peerOnNode?_of_ends (swap_of_ends hends)]
      simp [peers, swap, hends, Ends.toList, Ends.swap, Bool.or_comm]

end Questions

section Changes

variable {l changed : Link} {e : Ends} {ip : String}

theorem merge_swap (he : l.ends = some e) (h : e.first.interface ≠ e.second.interface)
    (p : Patch) : l.swap.merge p = (l.merge p).map Link.swap := by
  rw [merge_of_ends (swap_of_ends he), merge_of_ends he, Ends.mergeAll_swap h]
  rfl

theorem withRouting_swap (l : Link) : l.swap.withRouting = l.withRouting.swap := by
  simp [withRouting, swap, Function.comp_def, Ends.map, Ends.swap]

theorem allow_swap_of_allow (h : l.allow ip = .ok changed) :
    l.swap.allow ip = .ok changed.swap := by
  obtain ⟨e, he, hrouting, rfl⟩ := allow_eq_ok_iff.mp h
  have hswapped : ∀ p ∈ e.swap.toList, p.routing ≠ none := by
    intro p hp
    refine hrouting p ?_
    simpa [Ends.toList, Ends.swap, or_comm] using hp
  exact allow_eq_ok_iff.mpr ⟨e.swap, swap_of_ends he, hswapped, rfl⟩

theorem allow_swap_eq_ok_iff :
    l.swap.allow ip = .ok changed.swap ↔ l.allow ip = .ok changed := by
  constructor
  · intro h
    have hback := allow_swap_of_allow h
    rwa [swap_swap, swap_swap] at hback
  · exact allow_swap_of_allow

end Changes

/-- Nothing but the order of storage tells a link between two different interfaces from the one
with its ends exchanged. -/
theorem unordered_of_ne {l : Link} {e : Ends} (he : l.ends = some e)
    (h : e.first.interface ≠ e.second.interface) : l.Unordered := by
  have hdistinct : ∀ f, l.ends = some f → f.first.interface ≠ f.second.interface := by
    intro f hf
    cases he.symm.trans hf
    exact h
  exact {
    validate := l.validate_swap
    interfacePair := ask_swap fun _ _ => sortedPair_comm _ _
    nodePair := ask_swap fun _ _ => sortedPair_comm _ _
    peerAt? := peerAt?_swap hdistinct
    peerOpposite? := peerOpposite?_swap hdistinct
    reaches := l.reaches_swap
    reachesBoth := l.reachesBoth_swap
    peerOnNode? := l.isSome_peerOnNode?_swap
    merge := merge_swap he h
    withRouting := l.withRouting_swap
    allow := fun _ _ => allow_swap_eq_ok_iff }

/-- Two ends on one node, of which only the second one has a list. -/
def trialTwin : Link :=
  ⟨"l", "", some ⟨⟨"n", "i", some ⟨none⟩⟩, ⟨"n", "", some ⟨some ["x"]⟩⟩⟩, none, none, none⟩

theorem unordered_of_ne_trial :
    ∃ e, trialTwin.ends = some e ∧ e.first.interface ≠ e.second.interface ∧
      trialTwin.Unordered := by
  refine ⟨_, rfl, ?_, unordered_of_ne rfl ?_⟩ <;> decide

/-- The end that is found on a node may be another one. -/
example : (trialTwin.swap.peerOnNode? "n").toOption ≠ (trialTwin.peerOnNode? "n").toOption := by
  decide

end Link
end LinkRegistry
