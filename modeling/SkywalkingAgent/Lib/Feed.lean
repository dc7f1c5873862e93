import SkywalkingAgent.Lib.Execution

/-!
# A system that is fed by another one

A source is a step function whose steps also give out items; a sink is a system in which some events
take an item. `Wiring.step` puts the items of a step of the source into the sink before anything
else happens, and interleaves these steps with the other events of the sink. The sink may hold the
source back, as a call that has not returned holds back its caller.

`Wiring.run_fed` says what a run of the whole is for its parts: a run of the sink, and a run of the
source whose items are those that the sink has taken, in order.
-/

set_option autoImplicit false

namespace SkywalkingAgent.Lib

universe u v w x y

/-- A source and a sink, and the events of the sink that take an item. -/
structure Wiring (σ : Type u) (ε : Type v) (β : Type w) (τ : Type x) (δ : Type y) where
  source : σ → ε → Option (σ × List β)
  /-- Whether the sink lets the source take this step. -/
  ready : τ → ε → Bool
  sink : τ → δ → Option τ
  accept : β → δ
  accepted? : δ → Option β
  accepted_accept : ∀ item, accepted? (accept item) = some item

namespace Wiring

variable {σ : Type u} {ε : Type v} {β : Type w} {τ : Type x} {δ : Type y}

/-- One step of the source with what it feeds, or one of the sink on its own. -/
def step (wiring : Wiring σ ε β τ δ) (s : σ × τ) : ε ⊕ δ → Option (σ × τ)
  | .inl e =>
      if wiring.ready s.2 e then
        (wiring.source s.1 e).bind fun next =>
          (Execution.run wiring.sink s.2 (next.2.map wiring.accept)).map fun t => (next.1, t)
      else none
  | .inr d =>
      match wiring.accepted? d with
      -- nobody else feeds the sink
      | some _ => none
      | none => (wiring.sink s.2 d).map fun t => (s.1, t)

/-- The run of a list of steps. -/
abbrev run (wiring : Wiring σ ε β τ δ) : σ × τ → List (ε ⊕ δ) → Option (σ × τ) :=
  Execution.run wiring.step

/-- What each step does: the source gives items that the sink takes at once, or the sink takes a
step of its own. -/
inductive Effect (wiring : Wiring σ ε β τ δ) (s : σ × τ) : ε ⊕ δ → σ × τ → Prop where
  | fed (e : ε) (a : σ) (items : List β) (t : τ) (ready : wiring.ready s.2 e = true)
      (source : wiring.source s.1 e = some (a, items))
      (sink : Execution.run wiring.sink s.2 (items.map wiring.accept) = some t) :
      Effect wiring s (.inl e) (a, t)
  | own (d : δ) (t : τ) (other : wiring.accepted? d = none) (sink : wiring.sink s.2 d = some t) :
      Effect wiring s (.inr d) (s.1, t)

variable {wiring : Wiring σ ε β τ δ} {s s' : σ × τ} {es : List (ε ⊕ δ)}

theorem step_effect {e : ε ⊕ δ} (h : wiring.step s e = some s') : wiring.Effect s e s' := by
  cases e with
  | inl e =>
    simp only [step, Option.ite_none_right_eq_some, Option.bind_eq_some_iff,
      Option.map_eq_some_iff] at h
    obtain ⟨hready, ⟨a, items⟩, hsource, t, hsink, rfl⟩ := h
    exact .fed e a items t hready hsource hsink
  | inr d =>
    simp only [step] at h
    split at h
    · cases h
    · next hother =>
      obtain ⟨t, hsink, rfl⟩ := Option.map_eq_some_iff.1 h
      exact .own d t hother hsink

theorem accepted_map (wiring : Wiring σ ε β τ δ) (items : List β) :
    (items.map wiring.accept).filterMap wiring.accepted? = items := by
  induction items with
  | nil => rfl
  | cons item items ih =>
    rw [List.map_cons, List.filterMap_cons, wiring.accepted_accept, ih]

/-- The sink has taken a run of its own; what the source keeps of the items that it has given out
holds of the items that this run has taken. -/
theorem run_fed {I : List β → σ → Prop} (hinit : I [] s.1)
    (hstep : ∀ given a e a' items, I given a → wiring.source a e = some (a', items) →
      I (given ++ items) a')
    (hrun : wiring.run s es = some s') :
    ∃ ds, Execution.run wiring.sink s.2 ds = some s'.2 ∧
      I (ds.filterMap wiring.accepted?) s'.1 := by
  have hstart : ∃ ds, Execution.run wiring.sink s.2 ds = some s.2 ∧
      I (ds.filterMap wiring.accepted?) s.1 := ⟨[], rfl, hinit⟩
  refine Execution.run_invariant (I := fun t => ∃ ds, Execution.run wiring.sink s.2 ds = some t.2 ∧
    I (ds.filterMap wiring.accepted?) t.1) hstart ?_ hrun
  rintro a b e ⟨ds, hds, hI⟩ hab
  cases step_effect hab with
  | fed e a' items t _ hsource hsink =>
    refine ⟨ds ++ items.map wiring.accept, Execution.run_append_iff.2 ⟨_, hds, hsink⟩, ?_⟩
    rw [List.filterMap_append, accepted_map]
    exact hstep _ _ _ _ _ hI hsource
  | own d t hother hsink =>
    refine ⟨ds ++ [d], Execution.run_concat_iff.2 ⟨_, hds, hsink⟩, ?_⟩
    have hnothing : [d].filterMap wiring.accepted? = [] := by
      rw [List.filterMap_cons, hother, List.filterMap_nil]
    rw [List.filterMap_append, hnothing, List.append_nil]
    exact hI

/-- While the source does nothing, the whole goes on as its sink does. -/
theorem run_own {ds : List δ} {t : τ} (hother : ∀ d ∈ ds, wiring.accepted? d = none)
    (hrun : Execution.run wiring.sink s.2 ds = some t) :
    wiring.run s (ds.map .inr) = some (s.1, t) := by
  induction ds generalizing s with
  | nil =>
    obtain rfl := Option.some.inj hrun
    rfl
  | cons d ds ih =>
    obtain ⟨m, hm, hrest⟩ := Execution.run_cons_iff.1 hrun
    have hstep : wiring.step s (.inr d) = some (s.1, m) := by
      simp only [step, hother d List.mem_cons_self, hm, Option.map_some]
    refine Execution.run_cons_iff.2 ⟨_, hstep, ?_⟩
    exact ih (fun d' hd' => hother d' (List.mem_cons_of_mem d hd')) hrest

/-- An invariant of the whole: the steps of the source keep it with what they feed, and so do the
steps that the sink takes on its own. -/
theorem run_invariant {I : σ → τ → Prop} (hinit : I s.1 s.2)
    (hfed : ∀ a t e a' items t', I a t → wiring.ready t e = true →
      wiring.source a e = some (a', items) →
      Execution.run wiring.sink t (items.map wiring.accept) = some t' → I a' t')
    (hown : ∀ a t d t', I a t → wiring.accepted? d = none → wiring.sink t d = some t' → I a t')
    (hrun : wiring.run s es = some s') : I s'.1 s'.2 := by
  refine Execution.run_invariant (I := fun t => I t.1 t.2) hinit ?_ hrun
  intro a b e hI hab
  cases step_effect hab with
  | fed e a' items t hready hsource hsink => exact hfed _ _ _ _ _ _ hI hready hsource hsink
  | own d t hother hsink => exact hown _ _ _ _ hI hother hsink

end Wiring

end SkywalkingAgent.Lib
