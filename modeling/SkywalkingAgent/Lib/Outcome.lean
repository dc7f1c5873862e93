/-!
# Outcomes of a call that may panic

A call on a state returns a value, panics, or aborts the process. A panic unwinds and can be caught,
so it leaves a state behind, with every change made before it; a panic raised while another one is
unwinding aborts, and nothing is left.
-/

set_option autoImplicit false

namespace SkywalkingAgent.Lib

universe u v w x

/-- The outcome of a call on a state of type `σ` with a result of type `α`. -/
inductive Outcome (σ : Type u) (α : Type v) where
  | ok (value : α) (state : σ)
  | panic (message : String) (state : σ)
  | abort (message : String)

namespace Outcome

variable {σ : Type u} {α : Type v} {τ : Type w} {β : Type x}

/-- Continue after a return; a panic or an abort ends the sequence. -/
def bind (o : Outcome σ α) (f : α → σ → Outcome σ β) : Outcome σ β :=
  match o with
  | ok a s => f a s
  | panic m s => panic m s
  | abort m => abort m

/-- Put the state left by a call on a part back into the whole. -/
def mapState (o : Outcome σ α) (f : σ → τ) : Outcome τ α :=
  match o with
  | ok a s => ok a (f s)
  | panic m s => panic m (f s)
  | abort m => abort m

/-- The state left behind, if the process still runs. -/
def state? : Outcome σ α → Option σ
  | ok _ s => some s
  | panic _ s => some s
  | abort _ => none

/-- The state after a return, and nothing after a panic. -/
def returned? : Outcome σ α → Option σ
  | ok _ s => some s
  | panic _ _ => none
  | abort _ => none

theorem bind_eq_ok_iff {o : Outcome σ α} {f : α → σ → Outcome σ β} {b : β} {t : σ} :
    o.bind f = ok b t ↔ ∃ a s, o = ok a s ∧ f a s = ok b t := by
  cases o with
  | ok a s => simp [bind, and_assoc]
  | panic m s => simp [bind]
  | abort m => simp [bind]

theorem mapState_eq_ok_iff {o : Outcome σ α} {f : σ → τ} {a : α} {t : τ} :
    o.mapState f = ok a t ↔ ∃ s, o = ok a s ∧ f s = t := by
  cases o with
  | ok b s => simp [mapState, and_assoc]
  | panic m s => simp [mapState]
  | abort m => simp [mapState]

theorem returned?_eq_some_iff {o : Outcome σ α} {t : σ} :
    o.returned? = some t ↔ ∃ a, o = ok a t := by
  cases o with
  | ok a s => simp [returned?]
  | panic m s => simp [returned?]
  | abort m => simp [returned?]

/-- A state is left behind by a return or by a panic. -/
theorem state?_eq_some_iff {o : Outcome σ α} {t : σ} :
    o.state? = some t ↔ (∃ a, o = ok a t) ∨ ∃ m, o = panic m t := by
  cases o with
  | ok a s => simp [state?]
  | panic m s => simp [state?]
  | abort m => simp [state?]

/-- A call on a part leaves the whole behind as it leaves the part. -/
theorem exists_of_mapState {o : Outcome σ α} {f : σ → τ} {a : α} {t : τ}
    (h : o.mapState f = ok a t ∨ ∃ m, o.mapState f = panic m t) :
    ∃ s, t = f s ∧ (o = ok a s ∨ ∃ m, o = panic m s) := by
  cases o with
  | ok b s =>
    rcases h with h | ⟨m, h⟩
    · obtain ⟨rfl, rfl⟩ := ok.inj h
      exact ⟨s, rfl, Or.inl rfl⟩
    · cases h
  | panic m s =>
    rcases h with h | ⟨m', h⟩
    · cases h
    · obtain ⟨-, rfl⟩ := panic.inj h
      exact ⟨s, rfl, Or.inr ⟨m, rfl⟩⟩
  | abort m =>
    rcases h with h | ⟨m', h⟩
    · cases h
    · cases h

/-- What a return leaves behind. -/
theorem eq_of_ok {a : α} {s t : σ}
    (h : (ok a s : Outcome σ α) = ok a t ∨ ∃ m, (ok a s : Outcome σ α) = panic m t) : t = s := by
  rcases h with h | ⟨m, h⟩
  · exact (ok.inj h).2.symm
  · cases h

end Outcome

end SkywalkingAgent.Lib
