import LinkRegistry.Proofs.AllowedRanges
import LinkRegistry.Proofs.EndOrder
import Mathlib.Data.String.Basic

/-!
# The end at an interface and the one opposite to it

**Input.** A link and an interface, about which several questions are asked.

**Rule.** All questions look for the first side whose end is at the interface.  They differ only in
what they tell of that side: its end, the end on the other side, or that there is one.  So they
agree on whether there is an end at the interface, also in a link that joins an interface to
itself.  In such a link, however, the end opposite to the one at an interface is at the same
interface.  In every other link each end is opposite to the other one.

**Results.**
* `peerAt?_of_ends`, `peerOpposite?_of_ends`, `reaches_of_side?`: the questions in terms of the
  side that is found.
* `agrees_of_ends`: what holds of every link with ends.
* `validate_eq_ok_iff_faces`: what the check of a link adds to that.
* `questions_agree`: all questions together, and their refusal for a link without ends.
-/

namespace LinkRegistry

theorem sortedPair_eq_min_max (a b : String) : sortedPair a b = (min a b, max a b) := by
  by_cases h : b < a
  · rw [sortedPair, if_pos h, min_eq_right h.le, max_eq_left h.le]
  · have hle : a ≤ b := String.not_lt.mp h
    rw [sortedPair, if_neg h, min_eq_left hle, max_eq_right hle]

theorem mem_sortedPair_iff {a b i : String} :
    (sortedPair a b).1 = i ∨ (sortedPair a b).2 = i ↔ a = i ∨ b = i := by
  by_cases h : b < a
  · simp only [sortedPair, if_pos h, or_comm]
  · simp only [sortedPair, if_neg h]

/-- The other side. -/
def Side.opposite : Side → Side
  | .first => .second
  | .second => .first

@[simp] theorem Side.opposite_opposite (s : Side) : s.opposite.opposite = s := by
  cases s <;> rfl

namespace Ends

variable {e : Ends} {i : String} {s : Side}

/-- The first side whose end is at the interface. -/
def side? (e : Ends) (interface : String) : Option Side :=
  [Side.first, .second].find? fun s => (e.peer s).interface = interface

/-- A question that tells something of the side that is found. -/
theorem map_side? {α : Type} (e : Ends) (i : String) (tell : Side → α) :
    (e.side? i).map tell =
      if e.first.interface = i then some (tell .first)
      else if e.second.interface = i then some (tell .second)
      else none := by
  by_cases hfirst : e.first.interface = i
  · simp [side?, peer, hfirst]
  · by_cases hsecond : e.second.interface = i <;> simp [side?, peer, hfirst, hsecond]

theorem isSome_side?_iff :
    (e.side? i).isSome = true ↔ e.first.interface = i ∨ e.second.interface = i := by
  rw [side?, List.find?_isSome]
  constructor
  · rintro ⟨s, -, hs⟩
    have hat : (e.peer s).interface = i := of_decide_eq_true hs
    cases s with
    | first => exact Or.inl hat
    | second => exact Or.inr hat
  · rintro (hfirst | hsecond)
    · exact ⟨.first, by simp, decide_eq_true hfirst⟩
    · exact ⟨.second, by simp, decide_eq_true hsecond⟩

theorem interface_of_side? (h : e.side? i = some s) : (e.peer s).interface = i := by
  simpa using List.find?_some h

theorem interface_opposite_ne (h : e.first.interface ≠ e.second.interface) (s : Side) :
    (e.peer s.opposite).interface ≠ (e.peer s).interface := by
  cases s with
  | first => exact h.symm
  | second => exact h

/-- Where the interfaces differ, each side is found at its own. -/
theorem side?_interface (h : e.first.interface ≠ e.second.interface) (s : Side) :
    e.side? (e.peer s).interface = some s := by
  cases s <;> simp [side?, peer, h]

theorem sortedPair_interfaces (e : Ends) (s : Side) :
    sortedPair e.first.interface e.second.interface =
      sortedPair (e.peer s).interface (e.peer s.opposite).interface := by
  cases s with
  | first => rfl
  | second => exact sortedPair_comm _ _

end Ends

namespace Link

/-- The link answers no question about its ends, and fails the check for another reason. -/
structure Silent (l : Link) : Prop where
  interfacePair : l.interfacePair = .error .noEnds
  nodePair : l.nodePair = .error .noEnds
  peerOnNode? : ∀ n, l.peerOnNode? n = .error .noEnds
  peerAt? : ∀ i, l.peerAt? i = .error .noEnds
  peerOpposite? : ∀ i, l.peerOpposite? i = .error .noEnds
  reaches : ∀ i, l.reaches i = .error .noEnds
  reachesBoth : ∀ i j, l.reachesBoth i j = .error .noEnds
  validate : l.validate = .error .endCount

/-- All questions about the interface are answered, either all with an end that is found, or all
with none. -/
structure Agrees (l : Link) (i : String) (found : Bool) : Prop where
  reaches : l.reaches i = .ok found
  peerAt? : ∃ own, l.peerAt? i = .ok own ∧ own.isSome = found
  peerOpposite? : ∃ far, l.peerOpposite? i = .ok far ∧ far.isSome = found
  interfacePair : ∃ low high, l.interfacePair = .ok (low, high) ∧
    (found = true ↔ low = i ∨ high = i)

/-- An end is at the interface, the other one is at a different interface, and from there the
first one is opposite again. -/
structure Faces (l : Link) (i : String) (own far : Peer) : Prop where
  peerAt? : l.peerAt? i = .ok (some own)
  interface_eq : own.interface = i
  peerOpposite? : l.peerOpposite? i = .ok (some far)
  interface_ne : far.interface ≠ i
  back : l.peerOpposite? far.interface = .ok (some own)
  interfacePair : l.interfacePair = .ok (min i far.interface, max i far.interface)
  ascending : min i far.interface < max i far.interface

section Answers

variable {l : Link} {e : Ends}

/-- A question that is put to both ends is answered by the rule for it. -/
theorem ask_of_ends {α : Type} (he : l.ends = some e) (rule : Ends → α) :
    (l.endsOrFault >>= fun e => pure (rule e)) = .ok (rule e) := by
  simp only [endsOrFault, he]
  rfl

theorem ask_of_no_ends {α : Type} (he : l.ends = none) (rule : Ends → Except Fault α) :
    l.endsOrFault >>= rule = .error .noEnds := by
  simp only [endsOrFault, he]
  rfl

theorem peerAt?_of_ends (he : l.ends = some e) (i : String) :
    l.peerAt? i = .ok ((e.side? i).map e.peer) := by
  rw [e.map_side? i]
  exact ask_of_ends he _

theorem peerOpposite?_of_ends (he : l.ends = some e) (i : String) :
    l.peerOpposite? i = .ok ((e.side? i).map fun s => e.peer s.opposite) := by
  rw [e.map_side? i]
  exact ask_of_ends he _

theorem reaches_of_side? (he : l.ends = some e) (i : String) :
    l.reaches i = .ok (e.side? i).isSome := by
  have hfound : (l.peers.any fun p => p.interface = i) = (e.side? i).isSome := by
    rw [Bool.eq_iff_iff, Ends.isSome_side?_iff]
    simp [peers, he, Ends.toList]
  rw [Filter.reaches_of_ends he, hfound]

theorem interfacePair_of_ends (he : l.ends = some e) :
    l.interfacePair = .ok (sortedPair e.first.interface e.second.interface) :=
  ask_of_ends he _

theorem agrees_of_ends (he : l.ends = some e) (i : String) :
    l.Agrees i (e.side? i).isSome where
  reaches := reaches_of_side? he i
  peerAt? := ⟨_, peerAt?_of_ends he i, Option.isSome_map⟩
  peerOpposite? := ⟨_, peerOpposite?_of_ends he i, Option.isSome_map⟩
  interfacePair :=
    ⟨_, _, interfacePair_of_ends he, Ends.isSome_side?_iff.trans mem_sortedPair_iff.symm⟩

/-- Where the interfaces differ, the side that is found and the other one face each other. -/
theorem faces_of_distinct (he : l.ends = some e) (h : e.first.interface ≠ e.second.interface)
    (s : Side) : l.Faces (e.peer s).interface (e.peer s) (e.peer s.opposite) where
  peerAt? := by
    rw [peerAt?_of_ends he, Ends.side?_interface h]
    rfl
  interface_eq := rfl
  peerOpposite? := by
    rw [peerOpposite?_of_ends he, Ends.side?_interface h]
    rfl
  interface_ne := Ends.interface_opposite_ne h s
  back := by
    rw [peerOpposite?_of_ends he, Ends.side?_interface h, Option.map_some, s.opposite_opposite]
  interfacePair := by
    rw [interfacePair_of_ends he, e.sortedPair_interfaces s, sortedPair_eq_min_max]
  ascending := min_lt_max.mpr (Ends.interface_opposite_ne h s).symm

/-- The first end faces an end at another interface only if the interfaces differ. -/
theorem distinct_of_faces (he : l.ends = some e) {own far : Peer}
    (h : l.Faces e.first.interface own far) : e.first.interface ≠ e.second.interface := by
  have hside : e.side? e.first.interface = some .first := by simp [Ends.side?, Ends.peer]
  have hfar := h.peerOpposite?
  rw [peerOpposite?_of_ends he, hside] at hfar
  cases hfar
  exact h.interface_ne.symm

/-- The check passes exactly the links in which each end faces one at another interface. -/
theorem validate_eq_ok_iff_faces (he : l.ends = some e) :
    l.validate = .ok () ↔ ∀ i, l.reaches i = .ok true → ∃ own far, l.Faces i own far := by
  constructor
  · intro hvalid i hreaches
    obtain ⟨f, hf, hdistinct⟩ := (validate_eq_ok_iff l).mp hvalid
    rw [reaches_of_side? hf] at hreaches
    obtain ⟨s, hs⟩ := Option.isSome_iff_exists.mp (Except.ok.inj hreaches)
    obtain rfl := Ends.interface_of_side? hs
    exact ⟨_, _, faces_of_distinct hf hdistinct s⟩
  · intro hfaces
    -- Whatever the check says, the first end is at an interface that the link reaches.
    have hreaches : l.reaches e.first.interface = .ok true := by
      rw [reaches_of_side? he, Ends.isSome_side?_iff.mpr (Or.inl rfl)]
    obtain ⟨own, far, h⟩ := hfaces _ hreaches
    exact (validate_eq_ok_iff l).mpr ⟨e, he, distinct_of_faces he h⟩

theorem silent_of_no_ends (he : l.ends = none) : l.Silent where
  interfacePair := ask_of_no_ends he _
  nodePair := ask_of_no_ends he _
  peerOnNode? _ := ask_of_no_ends he _
  peerAt? _ := ask_of_no_ends he _
  peerOpposite? _ := ask_of_no_ends he _
  reaches _ := ask_of_no_ends he _
  reachesBoth i j := by
    have hreaches : l.reaches i = .error .noEnds := ask_of_no_ends he _
    rw [reachesBoth, hreaches]
    rfl
  validate := validate_of_no_ends he

end Answers

/-- Without ends no question is answered.  With ends all questions about an interface agree, and
the link passes the check exactly if each end faces one at another interface. -/
theorem questions_agree (l : Link) :
    (l.ends = none → l.Silent) ∧
      ∀ e, l.ends = some e →
        (∀ i, ∃ found, l.Agrees i found) ∧
          (l.validate = .ok () ↔
            ∀ i, l.reaches i = .ok true → ∃ own far, l.Faces i own far) := by
  refine ⟨silent_of_no_ends, ?_⟩
  intro e he
  refine ⟨?_, validate_eq_ok_iff_faces he⟩
  intro i
  exact ⟨_, agrees_of_ends he i⟩

/-- A link that joins an interface to itself, on two nodes. -/
def trialLoop : Link :=
  ⟨"l", "", some ⟨⟨"m", "i", none⟩, ⟨"n", "i", none⟩⟩, none, none, none⟩

theorem questions_agree_trial :
    (trialTwin.validate = .ok () ∧ trialTwin.reaches "" = .ok true ∧
      ∃ own far, trialTwin.Faces "" own far) ∧
    (∃ e, trialLoop.ends = some e ∧ ∃ found, trialLoop.Agrees "i" found) ∧
    (Link.create "l" "" trialTime).ends = none ∧ (Link.create "l" "" trialTime).Silent := by
  have hvalid : trialTwin.validate = .ok () := rfl
  have hreaches : trialTwin.reaches "" = .ok true := congrArg Except.ok (by decide)
  obtain ⟨-, htwin⟩ := questions_agree trialTwin
  obtain ⟨-, hfaces⟩ := htwin _ rfl
  obtain ⟨-, hloop⟩ := questions_agree trialLoop
  obtain ⟨hagree, -⟩ := hloop _ rfl
  obtain ⟨hsilent, -⟩ := questions_agree (Link.create "l" "" trialTime)
  exact ⟨⟨hvalid, hreaches, hfaces.mp hvalid "" hreaches⟩, ⟨_, rfl, hagree "i"⟩, rfl, hsilent rfl⟩

/-- Without the check, the opposite end may be at the same interface. -/
example : (trialLoop.peerOpposite? "i").toOption = some (some ⟨"n", "i", none⟩) := by
  decide

end Link
end LinkRegistry
