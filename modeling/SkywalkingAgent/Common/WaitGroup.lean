import SkywalkingAgent.Common
import SkywalkingAgent.Lib.Quiescence

/-!
# The wait group and its threads

`WaitGroup` of `common/wait_group.rs` as a monitor: the count behind its mutex, the condition
variable, and the place of every thread that calls `add`, `done` or `wait`. The only call of `add`
is `add(1)`, for an asynchronous span that is in memory, so the count stays far below the limit of
`usize` and is a natural number here.
-/

set_option autoImplicit false

namespace SkywalkingAgent.Common.WaitGroup

open SkywalkingAgent.Lib SkywalkingAgent.Lib.Monitor

universe u

/-- The calls of the threads. -/
inductive Call where
  /-- `add(1)` -/
  | add
  | done
  | wait
  deriving DecidableEq, Repr

/-- What is done to the count. -/
inductive Update where
  /-- `*count += 1` -/
  | add
  /-- `*count -= 1` -/
  | done
  deriving DecidableEq, Repr

/-- The test before `notify_all`. -/
inductive Condition where
  | zero
  deriving DecidableEq, Repr

/-- The methods, between the lock and the end of the guard. -/
def body : Call → List (Instr Update Condition)
  | .add => [.update .add]
  | .done => [.update .done, .notifyAllIf .zero]
  | .wait => [.waitWhile]

/-- The wait group as a monitor. -/
def monitor (overflowChecks : Bool) : Interface Call Update Condition WaitGroup where
  body := body
  perform
    | .add, self => .ok () (self.add 1)
    | .done, self => self.done overflowChecks
  holds
    | .zero, self => decide (self.count = 0)
  mustWait := mustWait

variable {T : Type u}

/-- The threads, the lock and the count. -/
abbrev System (T : Type u) := State T Call Update Condition WaitGroup

/-- A start of `done`. -/
def startsDone : Event T Call → Bool
  | .start _ .done => true
  | _ => false

/-- The phases of a call of `done` that has still to decrement the count. -/
def owes : Phase Call Update Condition → Bool
  | .locking .done => true
  | .inside _ (.update .done :: _) => true
  | _ => false

/-- Where a call past its lock can stand. -/
def Stands : Call → List (Instr Update Condition) → Prop
  | .add, rest => rest = [.update .add] ∨ rest = []
  | .done, rest => rest = [.update .done, .notifyAllIf .zero] ∨ rest = [.notifyAllIf .zero] ∨
      rest = [.notifyAll] ∨ rest = []
  | .wait, rest => rest = [.waitWhile] ∨ rest = []

section Run

variable [DecidableEq T] (overflowChecks : Bool)

/-- What the threads have done to the count so far. -/
def performed (es : List (Event T Call)) : List Update :=
  Execution.outputs (step (monitor overflowChecks)) performs (.new new) es

/-- Every `done` starts after an add for it has been performed. -/
def Matched (es : List (Event T Call)) : Prop :=
  ∀ pre, pre <+: es → pre.countP startsDone ≤ (performed overflowChecks pre).count .add

variable {overflowChecks} {es : List (Event T Call)} {s s' : System T} {e : Event T Call}

theorem closed_stands : Closed (monitor overflowChecks) Stands where
  body call := by
    cases call with
    | add => exact Or.inl rfl
    | done => exact Or.inl rfl
    | wait => exact Or.inl rfl
  tail call i rest h := by
    cases call with
    | add =>
      rcases h with h | h
      · exact Or.inr (List.cons.inj h).2
      · cases h
    | done =>
      rcases h with h | h | h | h
      · exact Or.inr (Or.inl (List.cons.inj h).2)
      · exact Or.inr (Or.inr (Or.inr (List.cons.inj h).2))
      · exact Or.inr (Or.inr (Or.inr (List.cons.inj h).2))
      · cases h
    | wait =>
      rcases h with h | h
      · exact Or.inr (List.cons.inj h).2
      · cases h
  test call c rest h := by
    cases call with
    | add => simp [Stands] at h
    | done => simp_all [Stands]
    | wait => simp [Stands] at h

/-- The decrement that ends the condition is followed by the test for zero. -/
theorem wakes_body (call : Call) :
    Wakes (monitor overflowChecks) ((monitor overflowChecks).body call) := by
  cases call with
  | add =>
    refine ⟨fun self hmust => ⟨?_, nofun⟩, trivial⟩
    intro self' hself'
    obtain ⟨-, rfl⟩ := Outcome.ok.inj hself'
    left
    simp only [monitor, mustWait, add, decide_eq_true_eq] at hmust ⊢
    omega
  | done =>
    refine ⟨fun self hmust => ?_, trivial⟩
    obtain ⟨_ | n⟩ := self
    · cases hmust
    · refine ⟨?_, nofun⟩
      intro self' hself'
      obtain ⟨-, rfl⟩ := Outcome.ok.inj hself'
      cases n with
      | zero => exact Or.inr (Or.inl rfl)
      | succ n => exact Or.inl (by simp [monitor, mustWait])
  | wait => trivial

/-! ## The count -/

/-- A decrement of a positive count returns. -/
theorem exists_done (overflowChecks : Bool) {self : WaitGroup} (hpos : 0 < self.count) :
    ∃ self', self.done overflowChecks = .ok () self' ∧ self'.count + 1 = self.count := by
  obtain ⟨_ | n⟩ := self
  · cases hpos
  · exact ⟨⟨n⟩, rfl, rfl⟩

/-- The accounts of a run: what was done to the count, and which calls have still to decrement
it. -/
structure Counted (overflowChecks : Bool) (es : List (Event T Call)) (s : System T) : Prop where
  count : s.data.count + (performed overflowChecks es).count .done =
    (performed overflowChecks es).count .add
  sound : s.poisoned = false
  alive : ∀ t, (s.phase t).isPanicked = false
  due : ∃ n, es.countP startsDone = (performed overflowChecks es).count .done + n ∧
    Tally owes s.phase n

theorem performed_concat (hrun : run (monitor overflowChecks) (.new new) es = some s)
    (hstep : step (monitor overflowChecks) s e = some s') :
    performed overflowChecks (es ++ [e]) = performed overflowChecks es ++ (performs s e).toList :=
  Execution.outputs_concat hrun hstep

theorem owes_notify (phase : Phase Call Update Condition) : owes phase.notify = owes phase := by
  cases phase <;> rfl

/-- No decrement is ahead of a call after its first instruction. -/
theorem owes_tail {call : Call} {i : Instr Update Condition} {rest : List (Instr Update Condition)}
    (h : Stands call (i :: rest)) : owes (.inside call rest) = false := by
  cases call with
  | add =>
    rcases h with h | h
    · obtain ⟨-, rfl⟩ := List.cons.inj h
      rfl
    · cases h
  | done =>
    rcases h with h | h | h | h
    · obtain ⟨-, rfl⟩ := List.cons.inj h
      rfl
    · obtain ⟨-, rfl⟩ := List.cons.inj h
      rfl
    · obtain ⟨-, rfl⟩ := List.cons.inj h
      rfl
    · cases h
  | wait =>
    rcases h with h | h
    · obtain ⟨-, rfl⟩ := List.cons.inj h
      rfl
    · cases h

namespace Counted

theorem alive_update (h : Counted overflowChecks es s) {t : T} {phase : Phase Call Update Condition}
    (hphase : phase.isPanicked = false) (t' : T) :
    (Function.update s.phase t phase t').isPanicked = false := by
  by_cases ht : t' = t
  · subst ht
    rw [Function.update_self]
    exact hphase
  · rw [Function.update_of_ne ht]
    exact h.alive t'

/-- The accounts after one more event. -/
theorem next (h : Counted overflowChecks es s) {updates : List Update} {self : WaitGroup}
    {owner : Option T} {phase : T → Phase Call Update Condition}
    (hperformed : performed overflowChecks (es ++ [e]) = performed overflowChecks es ++ updates)
    (hcount : self.count + updates.count .done = s.data.count + updates.count .add)
    (halive : ∀ t, (phase t).isPanicked = false)
    (hdue : ∀ n, Tally owes s.phase n →
      ∃ k, n + [e].countP startsDone = updates.count .done + k ∧ Tally owes phase k) :
    Counted overflowChecks (es ++ [e]) ⟨self, owner, s.poisoned, phase⟩ where
  count := by
    show self.count + _ = _
    rw [hperformed, List.count_append, List.count_append, ← h.count]
    omega
  sound := h.sound
  alive := halive
  due := by
    obtain ⟨n, hn, htally⟩ := h.due
    obtain ⟨k, hk, htally'⟩ := hdue n htally
    refine ⟨k, ?_, htally'⟩
    rw [List.countP_append, hperformed, List.count_append, hn]
    omega

/-- A step that neither starts a `done` nor changes the count. -/
theorem quiet (h : Counted overflowChecks es s) {t : T} {phase : Phase Call Update Condition}
    {owner : Option T} (hperformed : performed overflowChecks (es ++ [e]) =
      performed overflowChecks es ++ []) (hstart : startsDone e = false)
    (howes : owes phase = owes (s.phase t)) (halive : phase.isPanicked = false) :
    Counted overflowChecks (es ++ [e])
      ⟨s.data, owner, s.poisoned, Function.update s.phase t phase⟩ := by
  apply h.next hperformed rfl (h.alive_update halive)
  intro n htally
  exact ⟨n, by simp [hstart], htally.keep howes⟩

/-- Where a decrement is ahead, the count is positive. -/
theorem pos (h : Counted overflowChecks es s)
    (hmatched : es.countP startsDone ≤ (performed overflowChecks es).count .add) {t : T}
    (howes : owes (s.phase t) = true) : 0 < s.data.count := by
  obtain ⟨n, hn, htally⟩ := h.due
  obtain ⟨k, rfl, -⟩ := htally.leave (b := .idle) howes rfl
  have hcount := h.count
  omega

/-- A step keeps the accounts: an event is either a start of `done`, a performed add or decrement,
or one that neither the count nor the tally sees. -/
theorem step (h : Counted overflowChecks es s)
    (hrun : run (monitor overflowChecks) (.new new) es = some s)
    (hmatched : es.countP startsDone ≤ (performed overflowChecks es).count .add)
    (hstep : Monitor.step (monitor overflowChecks) s e = some s') :
    Counted overflowChecks (es ++ [e]) s' := by
  have hstands : Within Stands s := run_within closed_stands hrun
  have hperformed := performed_concat hrun hstep
  have hnothing (hnone : performs s e = none) :
      performed overflowChecks (es ++ [e]) = performed overflowChecks es ++ [] := by
    rw [hperformed, hnone]
    rfl
  -- the decrement stands first in its call, so a call that has moved past an item owes none
  have hmoved {t : T} {call : Call} {item rest}
      (hinside : s.phase t = .inside call (item :: rest)) :
      owes (.inside call rest) = false :=
    owes_tail (hstands t call _ (by rw [hinside]; rfl))
  cases step_effect hstep with
  | started t call hidle =>
    cases call with
    | add => exact h.quiet hperformed rfl (by rw [hidle]; rfl) rfl
    | wait => exact h.quiet hperformed rfl (by rw [hidle]; rfl) rfl
    | done =>
      apply h.next hperformed rfl (h.alive_update rfl)
      intro n htally
      exact ⟨n + 1, (Nat.zero_add _).symm, htally.enter (by rw [hidle]; rfl) rfl⟩
  | locked t call rest hfree hfrom =>
    rcases hfrom with ⟨hphase, rfl⟩ | ⟨later, hphase, rfl⟩
    · have hnone := hnothing (by simp only [performs, hphase])
      refine h.quiet hnone rfl ?_ rfl
      rw [hphase]
      cases call with
      | add => rfl
      | done => rfl
      | wait => rfl
    · have hnone := hnothing (by simp only [performs, hphase])
      exact h.quiet hnone rfl (by rw [hphase]; rfl) rfl
  | refused t hfree hpoisoned houtside =>
    rw [h.sound] at hpoisoned
    cases hpoisoned
  | unlocked t call hinside =>
    have hnone := hnothing (by simp only [performs, hinside])
    exact h.quiet hnone rfl (by rw [hinside]; rfl) rfl
  | updated t call u rest self hinside hperform =>
    have hsome : performs s (.act t : Event T Call) = some u := by simp only [performs, hinside]
    rw [hsome] at hperformed
    have htail := hmoved hinside
    cases u with
    | add =>
      obtain ⟨-, rfl⟩ := Outcome.ok.inj hperform
      apply h.next hperformed rfl (h.alive_update rfl)
      intro k htally
      exact ⟨k, (Nat.zero_add _).symm, htally.keep (by rw [htail, hinside]; rfl)⟩
    | done =>
      have howes : owes (s.phase t) = true := by rw [hinside]; rfl
      have hpos : 0 < s.data.count := h.pos hmatched howes
      obtain ⟨self', hdone, hcount⟩ := exists_done overflowChecks hpos
      obtain ⟨-, rfl⟩ := Outcome.ok.inj (hdone.symm.trans hperform)
      apply h.next hperformed hcount (h.alive_update rfl)
      intro n htally
      obtain ⟨k, rfl, htally'⟩ := htally.leave howes htail
      exact ⟨k, Nat.add_comm k 1, htally'⟩
  | raised t call u rest message self hinside hperform =>
    cases u with
    | add => cases hperform
    | done =>
      -- only the decrement at zero panics, and a `done` that is matched never meets it
      have hpos : 0 < s.data.count := h.pos hmatched (t := t) (by rw [hinside]; rfl)
      obtain ⟨self', hdone, -⟩ := exists_done overflowChecks hpos
      cases hdone.symm.trans hperform
  | tested t call c rest hinside =>
    have hnone := hnothing (by simp only [performs, hinside])
    have htail := hmoved hinside
    refine h.quiet hnone rfl ?_ rfl
    rw [hinside]
    split
    · rfl
    · exact htail
  | notifiedAll t call rest hinside =>
    have hnone := hnothing (by simp only [performs, hinside])
    have htail := hmoved hinside
    apply h.next hnone rfl
    · intro t'
      by_cases ht : t' = t
      · subst ht
        rw [Function.update_self]
        rfl
      · rw [Function.update_of_ne ht, Phase.isPanicked_notify]
        exact h.alive t'
    · intro n htally
      have hnotified : Tally owes (fun t' => (s.phase t').notify) n :=
        htally.congr fun t' => owes_notify (s.phase t')
      exact ⟨n, (Nat.zero_add _).symm, hnotified.keep (by rw [htail, hinside]; rfl)⟩
  | slept t call rest hinside hmust =>
    have hnone := hnothing (by simp only [performs, hinside])
    exact h.quiet hnone rfl (by rw [hinside]; rfl) rfl
  | passed t call rest hinside hends =>
    have hnone := hnothing (by simp only [performs, hinside])
    have htail := hmoved hinside
    exact h.quiet hnone rfl (by rw [htail, hinside]; rfl) rfl
  | woken t call rest hasleep => exact h.quiet hperformed rfl (by rw [hasleep]; rfl) rfl

end Counted

/-- Where every `done` has its add, the accounts balance after every run. -/
theorem run_counted (hrun : run (monitor overflowChecks) (.new new) es = some s)
    (hmatched : Matched overflowChecks es) : Counted overflowChecks es s := by
  have hall : run (monitor overflowChecks) (.new new) es = some s ∧
      (Matched overflowChecks es → Counted overflowChecks es s) := by
    apply Execution.run_history (I := fun h a =>
      run (monitor overflowChecks) (.new new) h = some a ∧
        (Matched overflowChecks h → Counted overflowChecks h a)) _ _ hrun
    · refine ⟨rfl, fun _ => ?_⟩
      exact ⟨rfl, rfl, fun t => rfl, 0, rfl, .zero fun t => rfl⟩
    · rintro h a b e ⟨ha, hcounted⟩ hab
      refine ⟨Execution.run_concat_iff.2 ⟨a, ha, hab⟩, fun hmatched => ?_⟩
      have hbefore : Matched overflowChecks h :=
        fun pre hpre => hmatched pre (hpre.trans (List.prefix_append h [e]))
      exact (hcounted hbefore).step ha (hbefore h List.prefix_rfl) hab
  exact hall.2 hmatched

/-- A call of `wait` passes its loop only while the count is zero. -/
theorem count_of_passes (hstands : Within Stands s)
    (hstep : step (monitor overflowChecks) s e = some s') {t : T}
    (hbefore : s.phase t ≠ .inside .wait []) (hafter : s'.phase t = .inside .wait []) :
    s.data.count = 0 ∧ s'.data = s.data := by
  -- who steps into the place behind the loop comes from its condition
  have hmoved {t' : T} {phase : Phase Call Update Condition}
      (hphase : Function.update s.phase t' phase t = .inside .wait []) :
      t' = t ∧ phase = .inside .wait [] := by
    by_cases ht : t = t'
    · subst ht
      rw [Function.update_self] at hphase
      exact ⟨rfl, hphase⟩
    · rw [Function.update_of_ne ht] at hphase
      exact absurd hphase hbefore
  cases step_effect hstep with
  | started t' call hidle => cases (hmoved hafter).2
  | locked t' call rest hfree hfrom =>
    obtain ⟨-, hinside⟩ := hmoved hafter
    obtain ⟨rfl, rfl⟩ := Phase.inside.inj hinside
    rcases hfrom with ⟨-, hbody⟩ | ⟨later, -, hlater⟩
    · cases hbody
    · cases hlater
  | refused t' hfree hpoisoned houtside => cases (hmoved hafter).2
  | unlocked t' call hinside => cases (hmoved hafter).2
  | updated t' call u rest self hinside hperform =>
    obtain ⟨-, hwait⟩ := hmoved hafter
    obtain ⟨rfl, rfl⟩ := Phase.inside.inj hwait
    have hstood : Stands .wait [.update u] := hstands t' .wait _ (by rw [hinside]; rfl)
    simp [Stands] at hstood
  | raised t' call u rest message self hinside hperform => cases (hmoved hafter).2
  | tested t' call c rest hinside =>
    obtain ⟨-, hwait⟩ := hmoved hafter
    obtain ⟨rfl, -⟩ := Phase.inside.inj hwait
    have hstood : Stands .wait (.notifyAllIf c :: rest) :=
      hstands t' .wait _ (by rw [hinside]; rfl)
    simp [Stands] at hstood
  | notifiedAll t' call rest hinside =>
    by_cases ht : t = t'
    · subst ht
      replace hafter : Function.update (fun t' => (s.phase t').notify) t (.inside call rest) t =
        .inside .wait [] := hafter
      rw [Function.update_self] at hafter
      obtain ⟨rfl, rfl⟩ := Phase.inside.inj hafter
      have hstood : Stands .wait [.notifyAll] := hstands t .wait _ (by rw [hinside]; rfl)
      simp [Stands] at hstood
    · replace hafter : Function.update (fun t' => (s.phase t').notify) t' (.inside call rest) t =
        .inside .wait [] := hafter
      rw [Function.update_of_ne ht] at hafter
      exact absurd (Phase.eq_inside_of_notify hafter) hbefore
  | slept t' call rest hinside hmust => cases (hmoved hafter).2
  | passed t' call rest hinside hends =>
    refine ⟨?_, rfl⟩
    simpa [monitor, mustWait] using hends
  | woken t' call rest hasleep => cases (hmoved hafter).2

/-- A sleeper while the count is zero: a `done` holds the lock and is about to notify. -/
theorem done_of_asleep (hrun : run (monitor overflowChecks) (.new new) es = some s) {t : T}
    (hasleep : (s.phase t).isAsleep = true) (hzero : s.data.count = 0) :
    ∃ u, s.owner = some u ∧ (s.phase u).call? = some .done := by
  rcases run_attended wakes_body hrun t hasleep with hmust | ⟨u, call, rest, hinside, hwill⟩
  · simp [monitor, mustWait, hzero] at hmust
  · refine ⟨u, (run_owned hrun u).1 (by rw [hinside]; rfl), ?_⟩
    have hstood : Stands call rest :=
      run_within closed_stands hrun u call rest (by rw [hinside]; rfl)
    rw [hinside]
    cases call with
    | add =>
      -- an add does not notify
      rcases hstood with rfl | rfl
      · obtain ⟨self', -, hwill⟩ := hwill
        exact hwill.elim
      · exact hwill.elim
    | done => rfl
    | wait =>
      rcases hstood with rfl | rfl
      · exact hwill.elim
      · exact hwill.elim

/-- For any threads and every interleaving of their calls in which every `done` follows an add for
it, spurious wake-ups included: whoever passes the loop of `wait` does so while the count is zero;
the count is the number of adds minus the number of dones, no `done` is about to decrement a count
of zero, and nobody panics; and while the count is zero and no `done` is in progress nobody sleeps.
-/
theorem run_wait (hrun : run (monitor overflowChecks) (.new new) es = some s)
    (hmatched : Matched overflowChecks es) :
    (∀ e s' t, step (monitor overflowChecks) s e = some s' → s.phase t ≠ .inside .wait [] →
      s'.phase t = .inside .wait [] → s.data.count = 0 ∧ s'.data = s.data) ∧
    s.data.count + (performed overflowChecks es).count .done =
      (performed overflowChecks es).count .add ∧
    (∀ t, owes (s.phase t) = true → 0 < s.data.count) ∧
    s.poisoned = false ∧ (∀ t, s.phase t ≠ .panicked) ∧
    (s.data.count = 0 → (∀ t, (s.phase t).call? ≠ some .done) →
      ∀ t, (s.phase t).isAsleep = false) := by
  have hcounted := run_counted hrun hmatched
  refine ⟨?_, hcounted.count, ?_, hcounted.sound, ?_, ?_⟩
  · intro e s' t hstep hbefore hafter
    exact count_of_passes (run_within closed_stands hrun) hstep hbefore hafter
  · intro t howes
    exact hcounted.pos (hmatched es List.prefix_rfl) howes
  · intro t hpanicked
    have halive := hcounted.alive t
    rw [hpanicked] at halive
    cases halive
  · intro hzero hnone t
    by_contra hasleep
    obtain ⟨u, -, hdone⟩ := done_of_asleep hrun (Bool.eq_true_of_not_eq_false hasleep) hzero
    exact hnone u hdone

/-- A thread adds, another falls asleep in `wait`, and the first is done. -/
def handover : List (Event Bool Call) :=
  [.start false .add, .act false, .act false, .act false,
    .start true .wait, .act true, .act true,
    .start false .done, .act false, .act false, .act false, .act false, .act false]

theorem matched_handover : Matched true handover := by
  intro pre hpre
  have hall : ∀ pre ∈ handover.inits, pre.countP startsDone ≤ (performed true pre).count .add := by
    decide
  exact hall pre ((List.mem_inits pre handover).2 hpre)

theorem run_wait_handover :
    ∃ s, run (monitor true) (.new new) handover = some s ∧
      s.data.count + 1 = 1 ∧ (s.phase true).isAsleep = false := by
  have hrun : ∃ s, run (monitor true) (.new new) handover = some s ∧ s.data.count = 0 ∧
      ∀ t, (s.phase t).call? ≠ some .done := ⟨_, rfl, rfl, by decide⟩
  obtain ⟨s, hrun, hzero, hdone⟩ := hrun
  obtain ⟨-, hcount, -, -, -, hawake⟩ := run_wait hrun matched_handover
  exact ⟨s, hrun, hcount, hawake hzero hdone true⟩

end Run

/-! ## At rest -/

section Rest

variable [DecidableEq T] {overflowChecks : Bool} {es : List (Event T Call)} {s s' : System T}

/-- The count never aborts the process. -/
theorem perform_returns (overflowChecks : Bool) (update : Update) (self : WaitGroup)
    (message : String) : (monitor overflowChecks).perform update self ≠ .abort message := by
  cases update with
  | add => exact nofun
  | done =>
    obtain ⟨_ | n⟩ := self
    · cases overflowChecks with
      | true => exact nofun
      | false => exact nofun
    · exact nofun

/-- The dearest call is `done`, which may wake up all the others. -/
theorem cost_body_le (n : Nat) (call : Call) :
    1 + cost n ((monitor overflowChecks).body call) ≤ 5 + 2 * n := by
  cases call with
  | add =>
    show 1 + (1 + 1) ≤ 5 + 2 * n
    omega
  | done =>
    show 1 + (1 + (2 + 2 * n + 1)) ≤ 5 + 2 * n
    omega
  | wait =>
    show 1 + (1 + 1) ≤ 5 + 2 * n
    omega

/-- Where no thread can take a step, no decrement is ahead. -/
theorem Counted.count_of_stuck (h : Counted overflowChecks es s)
    (hrun : run (monitor overflowChecks) (.new new) es = some s)
    (hstuck : ∀ t, act (monitor overflowChecks) s t = none) :
    s.data.count + es.countP startsDone = (performed overflowChecks es).count .add := by
  obtain ⟨n, hn, htally⟩ := h.due
  have hnone (t : T) : owes (s.phase t) = false := by
    rcases resting_of_stuck (perform_returns overflowChecks) (run_owned hrun) hstuck t with
      hidle | hasleep | hpanicked
    · rw [hidle]
      rfl
    · cases hphase : s.phase t with
      | asleep call rest => rfl
      | _ =>
        rw [hphase] at hasleep
        cases hasleep
    · rw [hpanicked]
      rfl
  rw [hn, htally.eq_zero hnone]
  exact h.count

/-- Only `wait` falls asleep. -/
theorem wait_of_asleep (hrun : run (monitor overflowChecks) (.new new) es = some s) {t : T}
    (hasleep : (s.phase t).isAsleep = true) : s.phase t = .asleep .wait [] := by
  cases hphase : s.phase t with
  | asleep call rest =>
    have hstood : Stands call (.waitWhile :: rest) :=
      run_within closed_stands hrun t call _ (by rw [hphase]; rfl)
    cases call with
    | wait =>
      rcases hstood with h | h
      · rw [(List.cons.inj h).2]
      · cases h
    | _ => simp [Stands] at hstood
  | _ =>
    rw [hphase] at hasleep
    cases hasleep

/-- Where no thread can take a step and one sleeps, the count is positive: at zero a `done` would be
about to notify. -/
theorem pos_of_stuck (hrun : run (monitor overflowChecks) (.new new) es = some s)
    (hstuck : ∀ t, act (monitor overflowChecks) s t = none) {t : T}
    (hasleep : (s.phase t).isAsleep = true) : 0 < s.data.count := by
  rw [Nat.pos_iff_ne_zero]
  intro hzero
  obtain ⟨u, howner, -⟩ := done_of_asleep hrun hasleep hzero
  have hinside : (s.phase u).isInside = true := (run_owned hrun u).2 howner
  obtain ⟨s', hact⟩ := exists_act_of_inside (perform_returns overflowChecks) hinside
  rw [hstuck u] at hact
  cases hact

/-- For any threads, finitely many, and every interleaving in which every `done` follows an add for
it: however a run goes on, the threads take no more steps than `5 + 2 * n` for each of the `n`
threads and for each start of a call and spurious wake-up; and where none of them can take a step,
the count is the number of adds without a `done`, and each thread is out of its call, or asleep in
`wait` while the count is positive. -/
theorem run_rests [Fintype T] (hrun : run (monitor overflowChecks) (.new new) es = some s)
    (hmatched : Matched overflowChecks es) :
    (∀ ds s', run (monitor overflowChecks) s ds = some s' →
      ds.countP Event.isAct ≤ (5 + 2 * Fintype.card T) *
        (Fintype.card T + ds.countP fun e => !e.isAct)) ∧
    ((∀ t, act (monitor overflowChecks) s t = none) →
      s.data.count + es.countP startsDone = (performed overflowChecks es).count .add ∧
      ∀ t, s.phase t = .idle ∨ s.phase t = .asleep .wait [] ∧ 0 < s.data.count) := by
  have hcounted := run_counted hrun hmatched
  constructor
  · intro ds s' hrest
    have hpaid := run_acts_le (cost_body_le _) (Nat.le_add_right_of_le (by decide)) hrest
    have hstart := run_total_le (cost_body_le _) hrun
    rw [Nat.mul_add, Nat.mul_comm _ (Fintype.card T)]
    omega
  · intro hstuck
    refine ⟨hcounted.count_of_stuck hrun hstuck, ?_⟩
    intro t
    rcases resting_of_stuck (perform_returns overflowChecks) (run_owned hrun) hstuck t with
      hidle | hasleep | hpanicked
    · exact Or.inl hidle
    · exact Or.inr ⟨wait_of_asleep hrun hasleep, pos_of_stuck hrun hstuck hasleep⟩
    · have halive := hcounted.alive t
      rw [hpanicked] at halive
      cases halive

/-- The second thread of `handover` sleeps until the first one is done. -/
theorem run_rests_handover :
    ∃ s, run (monitor true) (.new new) (handover.take 7) = some s ∧ s.data.count + 0 = 1 ∧
      (s.phase true = .idle ∨ s.phase true = .asleep .wait [] ∧ 0 < s.data.count) ∧
      ∀ ds s', run (monitor true) s ds = some s' →
        ds.countP Event.isAct ≤ 9 * (2 + ds.countP fun e => !e.isAct) := by
  have hrun : ∃ s, run (monitor true) (.new new) (handover.take 7) = some s ∧
      ∀ t, act (monitor true) s t = none := by
    refine ⟨_, rfl, ?_⟩
    intro t
    cases t with
    | false => rfl
    | true => rfl
  obtain ⟨s, hrun, hstuck⟩ := hrun
  have hmatched : Matched true (handover.take 7) :=
    fun pre hpre => matched_handover pre (hpre.trans (List.take_prefix 7 handover))
  obtain ⟨hsteps, hrests⟩ := run_rests hrun hmatched
  obtain ⟨hcount, hphase⟩ := hrests hstuck
  exact ⟨s, hrun, hcount, hphase true, hsteps⟩

end Rest

end SkywalkingAgent.Common.WaitGroup
