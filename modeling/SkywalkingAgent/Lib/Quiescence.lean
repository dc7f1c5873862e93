import SkywalkingAgent.Lib.Monitor
import Mathlib.Algebra.BigOperators.Group.Finset.Basic
import Mathlib.Algebra.Order.BigOperators.Group.Finset

/-!
# Monitors come to rest

The threads of a monitor take finitely many steps between two events from outside, which are the
start of a call and a wake-up for no reason: every such event pays for a bounded number of steps
(`run_acts_le`). A notification wakes up all sleepers, so it has to pay for two more steps of each.
Where no thread can take a step, nobody is on the way (`resting_of_stuck`).
-/

set_option autoImplicit false

namespace SkywalkingAgent.Lib.Monitor

universe u v w x y

variable {T : Type y} {P : Type w} {U : Type u} {C : Type v} {D : Type x}

/-- A step of a thread. -/
def Event.isAct : Event T P → Bool
  | act _ => true
  | _ => false

/-! ## The cost of a call -/

/-- The steps to the end of the call among `n` threads, with those that its notifications cause. -/
def cost (n : Nat) : List (Instr U C) → Nat
  | [] => 1
  | .update _ :: rest => 1 + cost n rest
  | .notifyAllIf _ :: rest => 2 + 2 * n + cost n rest
  | .notifyAll :: rest => 1 + 2 * n + cost n rest
  | .waitWhile :: rest => 1 + cost n rest

/-- What a thread can still cost. A sleeper costs what comes after its wait; whoever wakes it up
pays for the lock and the test. -/
def Phase.cost (m : Interface P U C D) (n : Nat) : Phase P U C → Nat
  | .idle => 0
  | .locking call => 1 + Monitor.cost n (m.body call)
  | .inside _ rest => Monitor.cost n rest
  | .asleep _ rest => Monitor.cost n rest
  | .notified _ rest => 2 + Monitor.cost n rest
  | .panicked => 0

variable {m : Interface P U C D} {n : Nat}

theorem cost_pos (rest : List (Instr U C)) : 0 < cost n rest := by
  cases rest with
  | nil => exact Nat.one_pos
  | cons i rest =>
    cases i with
    | _ => simp only [cost]; omega

theorem Phase.cost_notify_le (phase : Phase P U C) :
    phase.notify.cost m n ≤ phase.cost m n + 2 := by
  cases phase with
  | asleep call rest =>
    simp only [notify, Phase.cost]
    omega
  | _ => exact Nat.le_add_right _ 2

section Total

variable [Fintype T]

/-- What all threads can still cost. -/
def total (m : Interface P U C D) (phase : T → Phase P U C) : Nat :=
  ∑ t, (phase t).cost m (Fintype.card T)

theorem total_update [DecidableEq T] (phase : T → Phase P U C) (t : T) (next : Phase P U C) :
    total m (Function.update phase t next) + (phase t).cost m (Fintype.card T) =
      total m phase + next.cost m (Fintype.card T) := by
  have hold := Finset.add_sum_erase Finset.univ (fun t' => (phase t').cost m (Fintype.card T))
    (Finset.mem_univ t)
  have hnew := Finset.add_sum_erase Finset.univ
    (fun t' => (Function.update phase t next t').cost m (Fintype.card T)) (Finset.mem_univ t)
  have hothers : (∑ t' ∈ Finset.univ.erase t,
      (Function.update phase t next t').cost m (Fintype.card T)) =
        ∑ t' ∈ Finset.univ.erase t, (phase t').cost m (Fintype.card T) := by
    refine Finset.sum_congr rfl ?_
    intro t' ht'
    rw [Function.update_of_ne (Finset.ne_of_mem_erase ht')]
  simp only [Function.update_self] at hnew
  unfold total
  omega

/-- A notification makes every sleeper cost two steps more. -/
theorem total_notify_le (phase : T → Phase P U C) :
    total m (fun t => (phase t).notify) ≤ total m phase + 2 * Fintype.card T := by
  have hle : total m (fun t => (phase t).notify) ≤
      ∑ t, ((phase t).cost m (Fintype.card T) + 2) :=
    Finset.sum_le_sum fun t _ => (phase t).cost_notify_le
  have htwo : (∑ _t : T, 2) = Fintype.card T * 2 := Finset.sum_const_nat fun _ _ => rfl
  rw [Finset.sum_add_distrib, htwo, Nat.mul_comm] at hle
  exact hle

/-- Where no thread costs more than `bound`. -/
theorem total_le (phase : T → Phase P U C) {bound : Nat}
    (h : ∀ t, (phase t).cost m (Fintype.card T) ≤ bound) :
    total m phase ≤ Fintype.card T * bound := by
  calc total m phase ≤ ∑ _t : T, bound := Finset.sum_le_sum fun t _ => h t
    _ = Fintype.card T * bound := Finset.sum_const_nat fun _ _ => rfl

variable [DecidableEq T] {s s' : State T P U C D} {e : Event T P} {es : List (Event T P)}
  {data : D} {bound : Nat}

/-- A thread pays for a step. -/
theorem total_pay {phase : T → Phase P U C} {t : T} {next : Phase P U C}
    (h : next.cost m (Fintype.card T) + 1 ≤ (phase t).cost m (Fintype.card T)) :
    total m (Function.update phase t next) + 1 ≤ total m phase + 0 := by
  have hupdate := total_update (m := m) phase t next
  omega

/-- A thread gets new costs. -/
theorem total_charge {phase : T → Phase P U C} {t : T} {next : Phase P U C} {k : Nat}
    (h : next.cost m (Fintype.card T) ≤ (phase t).cost m (Fintype.card T) + k) :
    total m (Function.update phase t next) + 0 ≤ total m phase + k := by
  have hupdate := total_update (m := m) phase t next
  omega

omit [Fintype T] in
/-- Who takes a step has still something to do. -/
theorem cost_pos_of_act {t : T} (h : act m s t = some s') : 0 < (s.phase t).cost m n := by
  unfold act at h
  cases hphase : s.phase t with
  | idle => simp [hphase] at h
  | locking call => exact Nat.add_pos_left Nat.one_pos _
  | inside call rest => exact cost_pos rest
  | asleep call rest => simp [hphase] at h
  | notified call rest => exact Nat.add_pos_left Nat.two_pos _
  | panicked => simp [hphase] at h

/-- A step of a thread is paid out of the costs; a start of a call adds at most the cost of one, and
a wake-up adds two steps. -/
theorem total_step (hbody : ∀ call, 1 + cost (Fintype.card T) (m.body call) ≤ bound)
    (htwo : 2 ≤ bound) (hstep : step m s e = some s') :
    total m s'.phase + (if e.isAct then 1 else 0) ≤
      total m s.phase + (if !e.isAct then bound else 0) := by
  cases step_effect hstep with
  | started t call hidle =>
    apply total_charge
    rw [hidle]
    exact Nat.le_trans (hbody call) (Nat.le_add_left bound _)
  | locked t call rest hfree hfrom =>
    apply total_pay
    rcases hfrom with ⟨hphase, rfl⟩ | ⟨later, hphase, rfl⟩
    · rw [hphase, Nat.add_comm]
      exact Nat.le_refl _
    · rw [hphase]
      simp only [Phase.cost, cost]
      omega
  | refused t hfree hpoisoned houtside =>
    apply total_pay
    exact cost_pos_of_act hstep
  | unlocked t call hinside =>
    apply total_pay
    rw [hinside]
    exact Nat.le_refl _
  | updated t call u rest data hinside =>
    apply total_pay
    rw [hinside, Nat.add_comm]
    exact Nat.le_refl _
  | raised t call u rest message data hinside =>
    apply total_pay
    rw [hinside]
    exact cost_pos _
  | tested t call c rest hinside =>
    apply total_pay
    rw [hinside]
    split
    · simp only [Phase.cost, cost]
      omega
    · simp only [Phase.cost, cost]
      omega
  | notifiedAll t call rest hinside =>
    -- the owner has paid for all that it wakes up
    have hwoken := total_notify_le (m := m) s.phase
    have hupdate := total_update (m := m) (fun t' => (s.phase t').notify) t (.inside call rest)
    have hcost : (s.phase t).notify.cost m (Fintype.card T) =
        1 + 2 * Fintype.card T + cost (Fintype.card T) rest := by
      rw [hinside]
      rfl
    rw [hcost] at hupdate
    simp only [Phase.cost] at hupdate
    show total m (Function.update (fun t' => (s.phase t').notify) t (.inside call rest)) + 1 ≤
      total m s.phase + 0
    omega
  | slept t call rest hinside =>
    apply total_pay
    rw [hinside, Nat.add_comm]
    exact Nat.le_refl _
  | passed t call rest hinside =>
    apply total_pay
    rw [hinside, Nat.add_comm]
    exact Nat.le_refl _
  | woken t call rest hasleep =>
    apply total_charge
    rw [hasleep]
    show 2 + cost (Fintype.card T) rest ≤ cost (Fintype.card T) rest + bound
    omega

/-- Where no call costs more than `bound`, the threads of a run take no more steps than what they
owe at the start and the events from outside pay for. -/
theorem run_acts_le (hbody : ∀ call, 1 + cost (Fintype.card T) (m.body call) ≤ bound)
    (htwo : 2 ≤ bound) (hrun : run m s es = some s') :
    total m s'.phase + es.countP Event.isAct ≤
      total m s.phase + bound * es.countP fun e => !e.isAct := by
  apply Execution.run_countP_le (I := fun _ => True) _ trivial hrun
  intro a b e _ hab
  exact ⟨trivial, total_step hbody htwo hab⟩

/-- What the rest of a call costs is no more than what the call costs. -/
theorem closed_cost (n : Nat) :
    Closed m fun call rest => cost n rest ≤ cost n (m.body call) where
  body _ := Nat.le_refl _
  tail call i rest h := by
    refine Nat.le_trans ?_ h
    cases i with
    | _ => simp only [cost]; omega
  test call c rest h := by
    refine Nat.le_trans ?_ h
    simp only [cost]
    omega

/-- In every reachable state a thread costs no more than a call. -/
theorem run_total_le (hbody : ∀ call, 1 + cost (Fintype.card T) (m.body call) ≤ bound)
    (hrun : run m (.new data) es = some s) : total m s.phase ≤ Fintype.card T * bound := by
  apply total_le
  intro t
  have hwithin := run_within (closed_cost (Fintype.card T)) hrun t
  cases hphase : s.phase t with
  | idle => exact Nat.zero_le bound
  | locking call => exact hbody call
  | inside call rest =>
    have hrest := hwithin call rest (by rw [hphase]; rfl)
    exact Nat.le_trans hrest (Nat.le_trans (Nat.le_add_left _ 1) (hbody call))
  | asleep call rest =>
    have hrest := hwithin call (.waitWhile :: rest) (by rw [hphase]; rfl)
    have hcall := hbody call
    simp only [Phase.cost, cost] at hrest ⊢
    omega
  | notified call rest =>
    have hrest := hwithin call (.waitWhile :: rest) (by rw [hphase]; rfl)
    have hcall := hbody call
    simp only [Phase.cost, cost] at hrest ⊢
    omega
  | panicked => exact Nat.zero_le bound

end Total

section Stuck

variable [DecidableEq T] {s : State T P U C D}

/-- The owner of the lock can always go on, where no update aborts. -/
theorem exists_act_of_inside (hreturns : ∀ u d message, m.perform u d ≠ .abort message) {t : T}
    (hinside : (s.phase t).isInside = true) : ∃ s', act m s t = some s' := by
  cases hphase : s.phase t with
  | inside call rest =>
    unfold act
    rw [hphase]
    cases rest with
    | nil => exact ⟨_, rfl⟩
    | cons i rest =>
      cases i with
      | update u =>
        cases hperform : m.perform u s.data with
        | ok _ data => simp [hperform]
        | panic message data => simp [hperform]
        | abort message => exact absurd hperform (hreturns u s.data message)
      | notifyAllIf c => exact ⟨_, rfl⟩
      | notifyAll => exact ⟨_, rfl⟩
      | waitWhile =>
        by_cases hmust : m.mustWait s.data = true
        · exact ⟨_, if_pos hmust⟩
        · exact ⟨_, if_neg hmust⟩
  | _ =>
    rw [hphase] at hinside
    cases hinside

/-- A free lock goes to whoever asks for it. -/
theorem exists_lock (hfree : s.owner = none) (t : T) (phase : Phase P U C) :
    ∃ s', lock s t phase = some s' := by
  unfold lock
  rw [hfree]
  by_cases hpoisoned : s.poisoned = true
  · exact ⟨_, if_pos hpoisoned⟩
  · exact ⟨_, if_neg hpoisoned⟩

/-- Where no thread can take a step, each is out of its call, asleep or panicked. -/
theorem resting_of_stuck (hreturns : ∀ u d message, m.perform u d ≠ .abort message)
    (howned : Owned s) (hstuck : ∀ t, act m s t = none) (t : T) :
    s.phase t = .idle ∨ (s.phase t).isAsleep = true ∨ s.phase t = .panicked := by
  have houtside (t : T) : (s.phase t).isInside = false := by
    by_contra hinside
    obtain ⟨s', hact⟩ := exists_act_of_inside hreturns (Bool.eq_true_of_not_eq_false hinside)
    rw [hstuck t] at hact
    cases hact
  have hfree : s.owner = none := by
    cases howner : s.owner with
    | none => rfl
    | some u =>
      have hinside := (howned u).2 howner
      rw [houtside u] at hinside
      cases hinside
  have hnext := hstuck t
  unfold act at hnext
  cases hphase : s.phase t with
  | idle => exact Or.inl rfl
  | locking call =>
    obtain ⟨s', hlock⟩ := exists_lock hfree t (.inside call (m.body call))
    simp only [hphase, hlock] at hnext
    cases hnext
  | inside call rest =>
    have hinside := houtside t
    rw [hphase] at hinside
    cases hinside
  | asleep call rest => exact Or.inr (Or.inl rfl)
  | notified call rest =>
    obtain ⟨s', hlock⟩ := exists_lock hfree t (.inside call (.waitWhile :: rest))
    simp only [hphase, hlock] at hnext
    cases hnext
  | panicked => exact Or.inr (Or.inr rfl)

end Stuck

end SkywalkingAgent.Lib.Monitor
