import Mathlib.Data.List.Induction
import Mathlib.Logic.Function.Basic

/-!
# Executions of a partial step function

A system is a step function `step : σ → ε → Option σ`: the event `e` is enabled in the state `s`
when `step s e` is a state. Nondeterminism is the choice of the next event, so one list of events
is one interleaving. `run step s es` is the state after the events `es`; a state is reachable from
`s` when some list of events leads to it.

The module gives the rules that every run-level proof of the development goes through: splitting a
run at an event (`run_append_iff`, `run_cons_iff`), invariants that may mention the events executed
so far (`run_history`), forward simulation (`run_simulation`), the step at which a measure passes a
value (`run_crossing`) or a flag is raised (`run_raises`), what a run gives out on its way
(`outputs_concat`, `run_outputs`), the order in which things appear in a run (`Before`), and the
projection of an interleaved run of several components to one of them (`run_interleave_component`).
-/

set_option autoImplicit false

namespace SkywalkingAgent.Lib.Execution

universe u v w x

variable {σ : Type u} {ε : Type v}

section Run

variable (step : σ → ε → Option σ)

/-- The state after a list of events, when every event is enabled where it stands. -/
def run : σ → List ε → Option σ
  | s, [] => some s
  | s, e :: es =>
    match step s e with
    | some t => run t es
    | none => none

/-- `t` is reachable from `s`. -/
def Reachable (s t : σ) : Prop := ∃ es, run step s es = some t

variable {step}

@[simp] theorem run_nil (s : σ) : run step s [] = some s := rfl

theorem run_cons_iff {s t : σ} {e : ε} {es : List ε} :
    run step s (e :: es) = some t ↔ ∃ m, step s e = some m ∧ run step m es = some t := by
  simp only [run]
  cases hm : step s e with
  | none => simp
  | some m => simp

/-- A run of two lists is a run of the first followed by a run of the second. -/
theorem run_append_iff {es fs : List ε} {s t : σ} :
    run step s (es ++ fs) = some t ↔ ∃ m, run step s es = some m ∧ run step m fs = some t := by
  induction es generalizing s with
  | nil => simp
  | cons e es ih =>
    rw [List.cons_append, run_cons_iff]
    constructor
    · rintro ⟨m, hm, hrest⟩
      obtain ⟨m', hm', hfs⟩ := ih.1 hrest
      exact ⟨m', run_cons_iff.2 ⟨m, hm, hm'⟩, hfs⟩
    · rintro ⟨m', hm', hfs⟩
      obtain ⟨m, hm, hes⟩ := run_cons_iff.1 hm'
      exact ⟨m, hm, ih.2 ⟨m', hes, hfs⟩⟩

theorem run_concat_iff {es : List ε} {e : ε} {s t : σ} :
    run step s (es ++ [e]) = some t ↔ ∃ m, run step s es = some m ∧ step m e = some t := by
  rw [run_append_iff]
  constructor
  · rintro ⟨m, hm, hlast⟩
    obtain ⟨t', ht', hnil⟩ := run_cons_iff.1 hlast
    rw [run_nil, Option.some.injEq] at hnil
    exact ⟨m, hm, hnil ▸ ht'⟩
  · rintro ⟨m, hm, hlast⟩
    exact ⟨m, hm, run_cons_iff.2 ⟨t, hlast, rfl⟩⟩

/-- The step that a run takes at an event. -/
theorem exists_step_at {es : List ε} {e : ε} {s t : σ} {n : Nat} (hrun : run step s es = some t)
    (he : es[n]? = some e) :
    ∃ a b, run step s (es.take n) = some a ∧ step a e = some b ∧
      run step b (es.drop (n + 1)) = some t := by
  obtain ⟨hlt, rfl⟩ := List.getElem?_eq_some_iff.1 he
  rw [← List.take_append_drop n es, List.drop_eq_getElem_cons hlt] at hrun
  obtain ⟨a, ha, hrest⟩ := run_append_iff.1 hrun
  obtain ⟨b, hb, hrest⟩ := run_cons_iff.1 hrest
  exact ⟨a, b, ha, hb, hrest⟩

/-- The part of a run between two of its states. -/
theorem run_between {es : List ε} {s a b : σ} {m n : Nat} (ha : run step s (es.take m) = some a)
    (hb : run step s (es.take n) = some b) (hle : m ≤ n) :
    run step a ((es.take n).drop m) = some b := by
  have htake : (es.take n).take m = es.take m := by
    rw [List.take_take, Nat.min_eq_left hle]
  rw [← List.take_append_drop m (es.take n), htake] at hb
  obtain ⟨a', ha', hrest⟩ := run_append_iff.1 hb
  obtain rfl := Option.some.inj (ha.symm.trans ha')
  exact hrest

/-- An invariant of the state and of the events executed so far: it holds after every run when it
holds at the start and every enabled step keeps it. -/
theorem run_history {I : List ε → σ → Prop} {s t : σ} {es : List ε} (hinit : I [] s)
    (hstep : ∀ (h : List ε) (a b : σ) (e : ε), I h a → step a e = some b → I (h ++ [e]) b)
    (hrun : run step s es = some t) : I es t := by
  induction es using List.reverseRecOn generalizing t with
  | nil =>
    rw [run_nil, Option.some.injEq] at hrun
    exact hrun ▸ hinit
  | append_singleton es e ih =>
    obtain ⟨m, hm, hlast⟩ := run_concat_iff.1 hrun
    exact hstep es m t e (ih hm) hlast

/-- The invariant rule without the events. -/
theorem run_invariant {I : σ → Prop} {s t : σ} {es : List ε} (hinit : I s)
    (hstep : ∀ (a b : σ) (e : ε), I a → step a e = some b → I b)
    (hrun : run step s es = some t) : I t :=
  run_history (I := fun _ a => I a) hinit (fun _ a b e => hstep a b e) hrun

/-- The invariant rule for a run of events that all satisfy `P`. -/
theorem run_invariant_of_forall {P : ε → Prop} {I : σ → Prop} {s t : σ} {es : List ε}
    (hes : ∀ e ∈ es, P e) (hinit : I s)
    (hstep : ∀ (a b : σ) (e : ε), P e → I a → step a e = some b → I b)
    (hrun : run step s es = some t) : I t := by
  refine run_history (I := fun h a => (∀ e ∈ h, P e) → I a) (fun _ => hinit) ?_ hrun hes
  intro h a b e hI hab hP
  exact hstep a b e (hP e List.mem_concat_self)
    (hI fun e' he' => hP e' (List.mem_append_left _ he')) hab

/-- The invariant rule for every reachable state. -/
theorem reachable_invariant {I : σ → Prop} {s t : σ} (hinit : I s)
    (hstep : ∀ (a b : σ) (e : ε), I a → step a e = some b → I b)
    (hreach : Reachable step s t) : I t := by
  obtain ⟨es, hrun⟩ := hreach
  exact run_invariant hinit hstep hrun

/-- Forward simulation: where every event is a step of the abstract system or none, related states
stay related along every run. -/
theorem run_simulation {τ : Type w} {δ : Type x} {astep : τ → δ → Option τ} {R : σ → τ → Prop}
    (g : ε → Option δ) {s s' : σ} {a : τ} {es : List ε}
    (hstep : ∀ e ∈ es, ∀ (s s' : σ) (a : τ), R s a → step s e = some s' →
      ∃ a', run astep a (g e).toList = some a' ∧ R s' a')
    (hR : R s a) (hrun : run step s es = some s') :
    ∃ a', run astep a (es.filterMap g) = some a' ∧ R s' a' := by
  induction es generalizing s a with
  | nil =>
    rw [run_nil, Option.some.injEq] at hrun
    exact ⟨a, rfl, hrun ▸ hR⟩
  | cons e es ih =>
    obtain ⟨m, hm, hrest⟩ := run_cons_iff.1 hrun
    obtain ⟨b, hb, hRb⟩ := hstep e List.mem_cons_self s m a hR hm
    obtain ⟨a', ha', hR'⟩ := ih (fun e' he' => hstep e' (List.mem_cons_of_mem _ he')) hRb hrest
    have hevents : (e :: es).filterMap g = (g e).toList ++ es.filterMap g := by
      cases hg : g e with
      | none => simp [hg]
      | some d => simp [hg]
    rw [hevents]
    exact ⟨a', run_append_iff.2 ⟨b, hb, ha'⟩, hR'⟩

/-- A measure that grows by at most one per step passes every value on its way. -/
theorem run_crossing {f : σ → Nat} (hstep : ∀ a b e, step a e = some b → f b ≤ f a + 1)
    {s t : σ} {es : List ε} (hrun : run step s es = some t) {n : Nat} (hs : f s ≤ n)
    (ht : n < f t) :
    ∃ pre e post a b, es = pre ++ e :: post ∧ run step s pre = some a ∧ f a = n ∧
      step a e = some b ∧ f b = n + 1 ∧ run step b post = some t := by
  induction es generalizing s with
  | nil =>
    rw [run_nil, Option.some.injEq] at hrun
    subst hrun
    omega
  | cons e es ih =>
    obtain ⟨m, hm, hrest⟩ := run_cons_iff.1 hrun
    have hle := hstep s m e hm
    -- either the rest of the run passes the value, or this step does
    by_cases hlt : f m ≤ n
    · obtain ⟨pre, e', post, a, b, rfl, hpre, ha, hab, hb, hpost⟩ := ih hrest hlt
      exact ⟨e :: pre, e', post, a, b, rfl, run_cons_iff.2 ⟨m, hm, hpre⟩, ha, hab, hb, hpost⟩
    · exact ⟨[], e, es, s, m, rfl, rfl, by omega, hm, by omega, hrest⟩

/-- A flag that is down at the start and up at the end is raised by some step. -/
theorem run_raises {p : σ → Bool} {s t : σ} {es : List ε} (hrun : run step s es = some t)
    (hs : p s = false) (ht : p t = true) :
    ∃ pre e post a b, es = pre ++ e :: post ∧ run step s pre = some a ∧ p a = false ∧
      step a e = some b ∧ p b = true ∧ run step b post = some t := by
  obtain ⟨pre, e, post, a, b, hes, hpre, ha, hab, hb, hpost⟩ :=
    run_crossing (f := fun x => (p x).toNat) (n := 0)
      (fun a b _ _ => Nat.le_trans (Bool.toNat_le (p b)) (Nat.le_add_left 1 _)) hrun
      (by simp [hs]) (by simp [ht])
  exact ⟨pre, e, post, a, b, hes, hpre, by simpa using ha, hab, by simpa using hb, hpost⟩

/-- Charging: where each step that `p` counts is paid out of the measure `m`, to which only a step
that `q` marks adds, `k` at most, a run counts no more steps than its start and its marked steps pay
for. -/
theorem run_countP_le {I : σ → Prop} {m : σ → Nat} {p q : ε → Bool} {k : Nat}
    (hstep : ∀ a b e, I a → step a e = some b →
      I b ∧ m b + (if p e then 1 else 0) ≤ m a + (if q e then k else 0))
    {s t : σ} {es : List ε} (hs : I s) (hrun : run step s es = some t) :
    m t + es.countP p ≤ m s + k * es.countP q := by
  induction es generalizing s with
  | nil =>
    rw [run_nil, Option.some.injEq] at hrun
    simp [hrun]
  | cons e es ih =>
    obtain ⟨a, ha, hrest⟩ := run_cons_iff.1 hrun
    obtain ⟨hI, hpaid⟩ := hstep s a e hs ha
    have hle := ih hI hrest
    have hmarked : k * (e :: es).countP q = k * es.countP q + if q e then k else 0 := by
      rw [List.countP_cons, Nat.mul_add]
      split <;> simp
    rw [List.countP_cons, hmarked]
    omega

/-- Charging where nothing is added. -/
theorem run_countP_le_start {I : σ → Prop} {m : σ → Nat} {p : ε → Bool}
    (hstep : ∀ a b e, I a → step a e = some b → I b ∧ m b + (if p e then 1 else 0) ≤ m a)
    {s t : σ} {es : List ε} (hs : I s) (hrun : run step s es = some t) :
    m t + es.countP p ≤ m s := by
  have hle := run_countP_le (q := fun _ => false) (k := 0) (by simpa using hstep) hs hrun
  simpa using hle

end Run

/-! ## What a run gives out -/

section Output

variable {β : Type w} (step : σ → ε → Option σ) (out : σ → ε → Option β)

/-- What the steps of a run give out, each by the state before it. -/
def outputs : σ → List ε → List β
  | _, [] => []
  | s, e :: es =>
    match step s e with
    | some t => (out s e).toList ++ outputs t es
    | none => []

variable {step} {out}

theorem outputs_concat {s t u : σ} {es : List ε} {e : ε} (hrun : run step s es = some t)
    (hstep : step t e = some u) :
    outputs step out s (es ++ [e]) = outputs step out s es ++ (out t e).toList := by
  induction es generalizing s with
  | nil =>
    rw [run_nil, Option.some.injEq] at hrun
    subst hrun
    simp [outputs, hstep]
  | cons f es ih =>
    obtain ⟨m, hm, hrest⟩ := run_cons_iff.1 hrun
    simp only [List.cons_append, outputs, hm, ih hrest, List.append_assoc]

/-- Commit points: where every step does to the abstraction of the state what it gives out, a run
does what it gives out. -/
theorem run_outputs {τ : Type x} {astep : τ → β → Option τ} {I : σ → Prop} {abs : σ → τ}
    (hstep : ∀ a b e, I a → step a e = some b →
      I b ∧ run astep (abs a) (out a e).toList = some (abs b))
    {s t : σ} {es : List ε} (hs : I s) (hrun : run step s es = some t) :
    run astep (abs s) (outputs step out s es) = some (abs t) := by
  induction es generalizing s with
  | nil =>
    rw [run_nil, Option.some.injEq] at hrun
    rw [outputs, run_nil, hrun]
  | cons e es ih =>
    obtain ⟨m, hm, hrest⟩ := run_cons_iff.1 hrun
    obtain ⟨hI, hcommit⟩ := hstep s m e hs hm
    simp only [outputs, hm]
    exact run_append_iff.2 ⟨abs m, hcommit, ih hI hrest⟩

end Output

/-! ## The order of appearance -/

section Appearance

variable {κ : Type w} (step : σ → ε → Option σ) (p : κ → σ → Prop)

/-- On its way the run passes a state in which `x` is there and `y` is not. -/
def Before (s : σ) (es : List ε) (x y : κ) : Prop :=
  ∃ pre post t, es = pre ++ post ∧ run step s pre = some t ∧ p x t ∧ ¬p y t

variable {step} {p} {s : σ} {es : List ε} {x y z : κ}

theorem Before.irrefl : ¬Before step p s es x x := by
  rintro ⟨pre, post, t, -, -, hx, hnot⟩
  exact hnot hx

/-- What stays once it is there appears in a strict order. -/
theorem Before.trans (hstable : ∀ k a b e, p k a → step a e = some b → p k b)
    (hxy : Before step p s es x y) (hyz : Before step p s es y z) : Before step p s es x z := by
  obtain ⟨pre₁, post₁, t₁, rfl, hrun₁, hx₁, hy₁⟩ := hxy
  obtain ⟨pre₂, post₂, t₂, hsplit, hrun₂, hy₂, hz₂⟩ := hyz
  rcases List.append_eq_append_iff.1 hsplit with ⟨mid, rfl, -⟩ | ⟨mid, rfl, -⟩
  · -- `x` stays until `y` is there and `z` is not
    obtain ⟨t, ht, hmid⟩ := run_append_iff.1 hrun₂
    obtain rfl := Option.some.inj (hrun₁.symm.trans ht)
    exact ⟨pre₁ ++ mid, post₂, t₂, hsplit, hrun₂,
      run_invariant hx₁ (fun a b e ha hstep => hstable x a b e ha hstep) hmid, hz₂⟩
  · -- `y` would be there before it is
    obtain ⟨t, ht, hmid⟩ := run_append_iff.1 hrun₁
    obtain rfl := Option.some.inj (hrun₂.symm.trans ht)
    exact absurd (run_invariant hy₂ (fun a b e ha hstep => hstable y a b e ha hstep) hmid) hy₁

end Appearance

/-! ## Several components side by side -/

section Interleave

variable {ι : Type w} [DecidableEq ι] (step : σ → ε → Option σ)

/-- One step of a family of components: the event names the component that takes it. -/
def interleave (s : ι → σ) (e : ι × ε) : Option (ι → σ) :=
  (step (s e.1) e.2).map fun t => Function.update s e.1 t

/-- The events of component `i`, in order. -/
def component (i : ι) (es : List (ι × ε)) : List ε :=
  es.filterMap fun e => if e.1 = i then some e.2 else none

omit step in
theorem component_cons_self (i : ι) (e : ε) (es : List (ι × ε)) :
    component i ((i, e) :: es) = e :: component i es := by
  simp [component]

omit step in
theorem mem_component {i : ι} {e : ε} {es : List (ι × ε)} : e ∈ component i es ↔ (i, e) ∈ es := by
  constructor
  · intro he
    obtain ⟨⟨j, e'⟩, hmem, heq⟩ := List.mem_filterMap.1 he
    obtain ⟨rfl, hevent⟩ := Option.ite_none_right_eq_some.1 heq
    obtain rfl := Option.some.inj hevent
    exact hmem
  · intro he
    exact List.mem_filterMap.2 ⟨(i, e), he, if_pos rfl⟩

omit step in
/-- An event of a component, where it stands among those of the others. -/
theorem component_eq_append_cons {i : ι} {es : List (ι × ε)} {pre post : List ε} {e : ε}
    (h : component i es = pre ++ e :: post) :
    ∃ before after, es = before ++ (i, e) :: after ∧ component i before = pre := by
  obtain ⟨l₁, l₂, rfl, hpre, hrest⟩ := List.filterMap_eq_append_iff.1 h
  obtain ⟨m₁, ⟨j, e'⟩, m₂, rfl, hnone, he, -⟩ := List.filterMap_eq_cons_iff.1 hrest
  obtain ⟨rfl, hevent⟩ := Option.ite_none_right_eq_some.1 he
  obtain rfl := Option.some.inj hevent
  refine ⟨l₁ ++ m₁, m₂, by simp, ?_⟩
  have hskip : component j m₁ = [] := List.filterMap_eq_nil_iff.2 hnone
  rw [component, List.filterMap_append, hpre]
  exact (congrArg (pre ++ ·) hskip).trans (List.append_nil pre)

variable {step}

/-- A component of an interleaved run takes exactly its own events. -/
theorem run_interleave_component {s t : ι → σ} {es : List (ι × ε)} (i : ι)
    (hrun : run (interleave step) s es = some t) :
    run step (s i) (component i es) = some (t i) := by
  induction es generalizing s with
  | nil =>
    rw [run_nil, Option.some.injEq] at hrun
    simp [component, hrun]
  | cons e es ih =>
    obtain ⟨j, e⟩ := e
    obtain ⟨m, hm, hrest⟩ := run_cons_iff.1 hrun
    obtain ⟨b, hb, rfl⟩ := Option.map_eq_some_iff.1 hm
    have htail := ih hrest
    -- a step of another component leaves this one alone
    by_cases hji : j = i
    · subst hji
      rw [component_cons_self, run_cons_iff]
      exact ⟨b, hb, by simpa using htail⟩
    · have hskip : component i ((j, e) :: es) = component i es := by
        simp [component, hji]
      rw [hskip]
      simpa [Function.update_of_ne (Ne.symm hji)] using htail

end Interleave

end SkywalkingAgent.Lib.Execution
