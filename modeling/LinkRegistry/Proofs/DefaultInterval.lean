import LinkRegistry.Proofs.Demand
import LinkRegistry.Settings

/-!
# Links that get the default interval

**Input.** A service with any default interval, any requests to it, and a request to store a
link that names no interval.

**Rule.** The link gets the default interval, and is stored before the answer is made.  A
negative interval has no wire form, so where the default one is negative, the answer breaks
although the link is stored, and every answer to a request for the link breaks as well.
Where it is not negative, both answers carry the link.

**Results.**
* `Takes.breaks`: what becomes of a link that is stored and has no wire form.
* `handle_safe_iff`: when the answer tells what was done.
* `unsafe_at_negative_interval`: an environment that makes a service unsafe.
-/

namespace LinkRegistry

theorem Registry.write_ne (r : Registry) (es : Entries) : r.write es ≠ r := by
  intro h
  have hindex : r.index + 1 = r.index := congrArg Registry.index h
  exact absurd hindex (Nat.succ_ne_self r.index)

namespace Service

open Wire

/-- The registry changes only with status 200, and a change is answered with a link, as is the
next request for the link under the key. -/
structure Reaction.Safe (x : Reaction) (s : State) (key : String) : Prop where
  unchanged : x.response.status ≠ 200 → x.state.registry = s.registry
  answered : x.state.registry ≠ s.registry → ∃ a, x.response = .link a
  fetched : x.state.registry ≠ s.registry →
    ∀ now, ∃ a, (x.state.react now (.fetch key)).response = .link a

namespace State

section Safety

variable {s : State} {x : Reaction} {l : Link} {b : LinkBody}

theorem Refuses.safe (h : s.Refuses x) (key : String) : x.Safe s key := by
  obtain ⟨hregistry, -⟩ := h
  exact ⟨fun _ => hregistry, fun hne => absurd hregistry hne, fun hne => absurd hregistry hne⟩

theorem Takes.registry_ne (h : s.Takes l x) : x.state.registry ≠ s.registry := by
  rw [h.1]
  exact s.registry.write_ne _

theorem Takes.safe (h : s.Takes l x) (hl : l.HasWireForm) : x.Safe s l.id := by
  obtain ⟨b, hb⟩ := Response.ofLink_of_hasWireForm hl (s.registry.index + 1)
  have hresponse : x.response = .link ⟨b, Note.ofIndex (s.registry.index + 1)⟩ := h.2.trans hb
  refine ⟨?_, fun _ => ⟨_, hresponse⟩, ?_⟩
  · intro hne
    rw [hresponse] at hne
    exact absurd rfl hne
  · intro _ now
    exact ⟨_, (h.react_fetch now).trans hb⟩

/-- A stored link without a wire form breaks the answer, and every answer to a request for it. -/
theorem Takes.breaks (h : s.Takes l x) (hl : ¬ l.HasWireForm) :
    x.response.status = 500 ∧ x.state.registry ≠ s.registry ∧
      ∀ now, (x.state.react now (.fetch l.id)).response.status = 500 := by
  obtain ⟨ps, hps⟩ := Response.ofLink_of_not_hasWireForm hl (s.registry.index + 1)
  refine ⟨?_, h.registry_ne, ?_⟩
  · rw [h.2, hps]
    rfl
  · intro now
    rw [h.react_fetch now, hps]
    rfl

theorem Takes.safe_iff (h : s.Takes l x) : x.Safe s l.id ↔ l.HasWireForm := by
  rcases LinkBody.ofLink_cases l with ⟨hl, -⟩ | ⟨hl, -⟩
  · exact iff_of_true (h.safe hl) hl
  · refine iff_of_false ?_ hl
    intro hsafe
    obtain ⟨hstatus, hne, -⟩ := h.breaks hl
    have hfailed : x.response.status ≠ 200 := by
      rw [hstatus]
      decide
    exact hne (hsafe.unchanged hfailed)

theorem react_safe_iff (s : State) (now : Time.Timestamp) (hnone : b.keepalive = none) :
    (s.react now (.store b)).Safe s (s.keyFor b) ↔
      (∀ k ∈ s.defaultKeepalive, 0 ≤ k) ∨ s.accepts b = false := by
  rcases s.react_store_cases now b with ⟨hrefused, hrefuses⟩ | ⟨htaken, l, htakes, hkey, hl⟩
  · exact iff_of_true (hrefuses.safe _) (Or.inr hrefused)
  · have hinterval : l.keepalive = s.defaultKeepalive := by
      rw [hl, hnone]
      rfl
    rw [← hkey, htakes.safe_iff, htaken]
    unfold Link.HasWireForm
    rw [hinterval]
    simp

/-- Whatever the default interval is and whatever happened before, the answer to a request to
store a link that names no interval can be relied on exactly if the default interval is not
negative or the link is refused. -/
theorem handle_safe_iff (ids : IdSource) (interval : Option Int)
    (rs : List (Time.Timestamp × Request)) (now : Time.Timestamp) {r : Request}
    (ha : r.action? = some .upsert) (hb : r.demand .upsert = .ok (.store b))
    (hnone : b.keepalive = none) :
    let s := ((start ids interval).serve rs).2
    (s.handle now r).Safe s (s.keyFor b) ↔
      (∀ k ∈ interval, 0 ≤ k) ∨ s.accepts b = false := by
  intro s
  have hinterval : s.defaultKeepalive = interval := defaultKeepalive_serve (start ids interval) rs
  rw [handle_of_demand s now ha hb, react_safe_iff s now hnone, hinterval]

/-- The body of a request to store a link between two interfaces. -/
def storedBody (id i j : String) : LinkBody :=
  ⟨id, "", some [⟨"", i, none⟩, ⟨"", j, none⟩], none, none, none⟩

/-- With an interval of 25 seconds the answer can be relied on, with one of -1 it cannot. -/
theorem handle_safe_iff_trial :
    let r := Request.storing "c" "i" "j"
    let s (interval : Int) := ((start (.numbered "conn" 1) (some interval)).serve []).2
    r.action? = some .upsert ∧ r.demand .upsert = .ok (.store (storedBody "c" "i" "j")) ∧
      ((s 25).handle Registry.trialTime r).Safe (s 25) "c" ∧
      ¬ ((s (-1)).handle Registry.trialTime r).Safe (s (-1)) "c" := by
  intro r s
  have haction : r.action? = some .upsert := by decide +kernel
  have hdemand : r.demand .upsert = .ok (.store (storedBody "c" "i" "j")) := rfl
  have hiff (interval : Int) :
      ((s interval).handle Registry.trialTime r).Safe (s interval) "c" ↔
        (∀ k ∈ some interval, 0 ≤ k) ∨
          (s interval).accepts (storedBody "c" "i" "j") = false :=
    handle_safe_iff (.numbered "conn" 1) (some interval) [] Registry.trialTime haction hdemand rfl
  refine ⟨haction, hdemand, ?_, ?_⟩
  · rw [hiff 25]
    exact Or.inl (by decide)
  · rw [hiff (-1)]
    decide

/-- The service that the environment starts stores the link, fails to answer, and fails to
answer when the link is fetched. -/
theorem unsafe_at_negative_interval :
    let env : Environment := [("MESHLINK_DEFAULT_KEEPALIVE", "-1")]
    let s := ((start (.numbered "conn" 1) (some (-1))).serve []).2
    let x := s.handle Registry.trialTime (.storing "c" "i" "j")
    env.integer? "MESHLINK_DEFAULT_KEEPALIVE" = .ok (some (-1)) ∧
      x.response.status = 500 ∧ x.state.registry.ids = ["c"] ∧ x.state.registry.index = 1 ∧
      (x.state.react Registry.trialTime (.fetch "c")).response.status = 500 ∧
      ¬ x.Safe s "c" := by
  intro env s x
  have hstatus : x.response.status = 500 := by decide +kernel
  have hindex : x.state.registry.index = 1 := by decide +kernel
  refine ⟨by rfl, hstatus, by decide +kernel, hindex, by decide +kernel, ?_⟩
  intro hsafe
  have hsame : x.state.registry = s.registry := by
    refine hsafe.unchanged ?_
    rw [hstatus]
    decide
  rw [hsame] at hindex
  cases hindex

end Safety
end State
end Service
end LinkRegistry
