import SkywalkingAgent.Lib.Execution
import SkywalkingAgent.Lib.Outcome
import Mathlib.Data.Finset.Card

/-!
# Monitors

A mutex around some data, with one condition variable. A call locks the mutex, runs a list of
instructions on the data and unlocks; an instruction updates the data, notifies all sleepers, or
waits while the monitor's condition holds, which gives the lock up and goes to sleep in one step. A
sleeper wakes up when it is notified or for no reason, and has to lock the mutex again before it
tests the condition again. An update that panics drops the lock and poisons the mutex, and whoever
locks it from then on panics too.

The module gives mutual exclusion (`run_owned`) and the rule for wake-ups (`run_attended`): where
every update that ends the condition is followed by a notification, a thread sleeps only while the
condition holds, or while the owner of the lock is about to notify.
-/

set_option autoImplicit false

namespace SkywalkingAgent.Lib.Monitor

universe u v w x y

/-- The instructions between lock and unlock, with the names of updates and conditions. -/
inductive Instr (U : Type u) (C : Type v) where
  | update (u : U)
  | notifyAllIf (c : C)
  | notifyAll
  | waitWhile
  deriving DecidableEq, Repr

/-- The calls of a monitor, and what their updates and conditions mean. -/
structure Interface (P : Type w) (U : Type u) (C : Type v) (D : Type x) where
  body : P → List (Instr U C)
  perform : U → D → Outcome D Unit
  holds : C → D → Bool
  /-- The condition of `waitWhile`. -/
  mustWait : D → Bool

/-- Where a thread is. -/
inductive Phase (P : Type w) (U : Type u) (C : Type v) where
  | idle
  | locking (call : P)
  /-- With the lock, and the rest of the call. -/
  | inside (call : P) (rest : List (Instr U C))
  /-- In the condition variable. -/
  | asleep (call : P) (rest : List (Instr U C))
  /-- Out of the condition variable, and to lock the mutex again. -/
  | notified (call : P) (rest : List (Instr U C))
  | panicked
  deriving DecidableEq, Repr

namespace Phase

variable {P : Type w} {U : Type u} {C : Type v}

/-- The call in progress. -/
def call? : Phase P U C → Option P
  | locking call => some call
  | inside call _ => some call
  | asleep call _ => some call
  | notified call _ => some call
  | _ => none

/-- The thread has locked the mutex. -/
def isInside : Phase P U C → Bool
  | inside _ _ => true
  | _ => false

/-- The thread waits for a notification. -/
def isAsleep : Phase P U C → Bool
  | asleep _ _ => true
  | _ => false

/-- The thread has panicked. -/
def isPanicked : Phase P U C → Bool
  | panicked => true
  | _ => false

/-- A wake-up. -/
def notify : Phase P U C → Phase P U C
  | asleep call rest => notified call rest
  | phase => phase

/-- The call in progress after its lock, and the instructions that it has still to go through. -/
def todo? : Phase P U C → Option (P × List (Instr U C))
  | inside call rest => some (call, rest)
  | asleep call rest => some (call, .waitWhile :: rest)
  | notified call rest => some (call, .waitWhile :: rest)
  | _ => none

@[simp] theorem isInside_notify (phase : Phase P U C) : phase.notify.isInside = phase.isInside := by
  cases phase <;> rfl

@[simp] theorem isAsleep_notify (phase : Phase P U C) : phase.notify.isAsleep = false := by
  cases phase <;> rfl

@[simp] theorem isPanicked_notify (phase : Phase P U C) :
    phase.notify.isPanicked = phase.isPanicked := by
  cases phase <;> rfl

@[simp] theorem todo?_notify (phase : Phase P U C) : phase.notify.todo? = phase.todo? := by
  cases phase <;> rfl

theorem eq_inside_of_notify {phase : Phase P U C} {call : P} {rest : List (Instr U C)}
    (h : phase.notify = inside call rest) : phase = inside call rest := by
  cases phase with
  | asleep call' rest' => cases h
  | idle => exact h
  | locking call' => exact h
  | inside call' rest' => exact h
  | notified call' rest' => exact h
  | panicked => exact h

end Phase

/-- The data under the mutex, the thread that has locked it, whether a panic has poisoned it, and
where each thread stands. -/
structure State (T : Type y) (P : Type w) (U : Type u) (C : Type v) (D : Type x) where
  data : D
  owner : Option T
  poisoned : Bool
  phase : T → Phase P U C

/-- What the threads do: a thread begins a call or goes on with it. -/
inductive Event (T : Type y) (P : Type w) where
  | start (t : T) (call : P)
  /-- The next step of the thread, which may have to lock the mutex. -/
  | act (t : T)
  /-- A wake-up for no reason. -/
  | wake (t : T)
  deriving DecidableEq, Repr

section Step

variable {T : Type y} {P : Type w} {U : Type u} {C : Type v} {D : Type x} [DecidableEq T]
  (m : Interface P U C D)

/-- No thread is in a call. -/
def State.new (data : D) : State T P U C D := ⟨data, none, false, fun _ => .idle⟩

/-- Locking the mutex; nothing while another thread has it. -/
def lock (s : State T P U C D) (t : T) (phase : Phase P U C) : Option (State T P U C D) :=
  match s.owner with
  | some _ => none
  | none =>
      -- the error of a poisoned mutex is unwrapped, and its guard goes with it
      if s.poisoned then some { s with phase := Function.update s.phase t .panicked }
      else some { s with owner := some t, phase := Function.update s.phase t phase }

/-- The next step of a thread. -/
def act (s : State T P U C D) (t : T) : Option (State T P U C D) :=
  match s.phase t with
  | .locking call => lock s t (.inside call (m.body call))
  | .notified call rest => lock s t (.inside call (.waitWhile :: rest))
  | .inside _ [] =>
      some { s with owner := none, phase := Function.update s.phase t .idle }
  | .inside call (.update u :: rest) =>
      match m.perform u s.data with
      | .ok () data =>
          some { s with data := data, phase := Function.update s.phase t (.inside call rest) }
      -- the guard is dropped while the panic unwinds
      | .panic _ data => some ⟨data, none, true, Function.update s.phase t .panicked⟩
      | .abort _ => none
  | .inside call (.notifyAllIf c :: rest) =>
      let rest := if m.holds c s.data then .notifyAll :: rest else rest
      some { s with phase := Function.update s.phase t (.inside call rest) }
  | .inside call (.notifyAll :: rest) =>
      let woken := fun t' => (s.phase t').notify
      some { s with phase := Function.update woken t (.inside call rest) }
  | .inside call (.waitWhile :: rest) =>
      if m.mustWait s.data then
        some { s with owner := none, phase := Function.update s.phase t (.asleep call rest) }
      else some { s with phase := Function.update s.phase t (.inside call rest) }
  | _ => none

/-- One step of one thread. -/
def step (s : State T P U C D) (e : Event T P) : Option (State T P U C D) :=
  match e with
  | .start t call =>
      match s.phase t with
      | .idle => some { s with phase := Function.update s.phase t (.locking call) }
      | _ => none
  | .act t => act m s t
  | .wake t =>
      match s.phase t with
      | .asleep call rest =>
          some { s with phase := Function.update s.phase t (.notified call rest) }
      | _ => none

/-- The run of a list of steps. -/
abbrev run : State T P U C D → List (Event T P) → Option (State T P U C D) :=
  Execution.run (step m)

/-- The update that a step performs. -/
def performs (s : State T P U C D) (e : Event T P) : Option U :=
  match e with
  | .act t =>
      match s.phase t with
      | .inside _ (.update u :: _) => some u
      | _ => none
  | _ => none

/-! ## What a step does -/

/-- What each step does, with the condition under which it is possible. -/
inductive Effect (s : State T P U C D) : Event T P → State T P U C D → Prop where
  | started (t : T) (call : P) (idle : s.phase t = .idle) :
      Effect s (.start t call) { s with phase := Function.update s.phase t (.locking call) }
  /-- The mutex is locked, at the start of a call or after a wake-up. -/
  | locked (t : T) (call : P) (rest : List (Instr U C)) (free : s.owner = none)
      (from_ : s.phase t = .locking call ∧ rest = m.body call ∨
        ∃ later, s.phase t = .notified call later ∧ rest = .waitWhile :: later) :
      Effect s (.act t) { s with
        owner := some t
        phase := Function.update s.phase t (.inside call rest) }
  | refused (t : T) (free : s.owner = none) (poisoned : s.poisoned = true)
      (outside : (s.phase t).isInside = false) :
      Effect s (.act t) { s with phase := Function.update s.phase t .panicked }
  | unlocked (t : T) (call : P) (inside : s.phase t = .inside call []) :
      Effect s (.act t) { s with owner := none, phase := Function.update s.phase t .idle }
  | updated (t : T) (call : P) (u : U) (rest : List (Instr U C)) (data : D)
      (inside : s.phase t = .inside call (.update u :: rest))
      (perform : m.perform u s.data = .ok () data) :
      Effect s (.act t) { s with
        data := data
        phase := Function.update s.phase t (.inside call rest) }
  | raised (t : T) (call : P) (u : U) (rest : List (Instr U C)) (message : String) (data : D)
      (inside : s.phase t = .inside call (.update u :: rest))
      (perform : m.perform u s.data = .panic message data) :
      Effect s (.act t) ⟨data, none, true, Function.update s.phase t .panicked⟩
  | tested (t : T) (call : P) (c : C) (rest : List (Instr U C))
      (inside : s.phase t = .inside call (.notifyAllIf c :: rest)) :
      Effect s (.act t) { s with
        phase := Function.update s.phase t
          (.inside call (if m.holds c s.data then .notifyAll :: rest else rest)) }
  | notifiedAll (t : T) (call : P) (rest : List (Instr U C))
      (inside : s.phase t = .inside call (.notifyAll :: rest)) :
      Effect s (.act t) { s with
        phase := Function.update (fun t' => (s.phase t').notify) t (.inside call rest) }
  | slept (t : T) (call : P) (rest : List (Instr U C))
      (inside : s.phase t = .inside call (.waitWhile :: rest))
      (waits : m.mustWait s.data = true) :
      Effect s (.act t) { s with
        owner := none
        phase := Function.update s.phase t (.asleep call rest) }
  | passed (t : T) (call : P) (rest : List (Instr U C))
      (inside : s.phase t = .inside call (.waitWhile :: rest))
      (ends : m.mustWait s.data = false) :
      Effect s (.act t) { s with phase := Function.update s.phase t (.inside call rest) }
  | woken (t : T) (call : P) (rest : List (Instr U C)) (asleep : s.phase t = .asleep call rest) :
      Effect s (.wake t) { s with phase := Function.update s.phase t (.notified call rest) }

variable {m} {s s' : State T P U C D} {e : Event T P} {es : List (Event T P)} {data : D}

theorem effect_lock {t : T} {call : P} {rest : List (Instr U C)}
    (hfrom : s.phase t = .locking call ∧ rest = m.body call ∨
      ∃ later, s.phase t = .notified call later ∧ rest = .waitWhile :: later)
    (h : lock s t (.inside call rest) = some s') : Effect m s (.act t) s' := by
  have houtside : (s.phase t).isInside = false := by
    rcases hfrom with ⟨hphase, -⟩ | ⟨later, hphase, -⟩
    · rw [hphase]
      rfl
    · rw [hphase]
      rfl
  unfold lock at h
  split at h
  · cases h
  · next hfree =>
    split at h
    · next hpoisoned =>
      obtain rfl := Option.some.inj h
      exact .refused t hfree hpoisoned houtside
    · obtain rfl := Option.some.inj h
      exact .locked t call rest hfree hfrom

theorem effect_act {t : T} (h : act m s t = some s') : Effect m s (.act t) s' := by
  unfold act at h
  split at h
  · next call hphase => exact effect_lock (Or.inl ⟨hphase, rfl⟩) h
  · next call rest hphase => exact effect_lock (Or.inr ⟨rest, hphase, rfl⟩) h
  · next call hphase =>
    obtain rfl := Option.some.inj h
    exact .unlocked t call hphase
  · next call u rest hphase =>
    split at h
    · next data hperform =>
      obtain rfl := Option.some.inj h
      exact .updated t call u rest data hphase hperform
    · next message data hperform =>
      obtain rfl := Option.some.inj h
      exact .raised t call u rest message data hphase hperform
    · cases h
  · next call c rest hphase =>
    obtain rfl := Option.some.inj h
    exact .tested t call c rest hphase
  · next call rest hphase =>
    obtain rfl := Option.some.inj h
    exact .notifiedAll t call rest hphase
  · next call rest hphase =>
    split at h
    · next hwaits =>
      obtain rfl := Option.some.inj h
      exact .slept t call rest hphase hwaits
    · next hends =>
      obtain rfl := Option.some.inj h
      exact .passed t call rest hphase (by simpa using hends)
  · cases h

theorem step_effect (h : step m s e = some s') : Effect m s e s' := by
  cases e with
  | start t call =>
    simp only [step] at h
    split at h
    · next hidle =>
      obtain rfl := Option.some.inj h
      exact .started t call hidle
    · cases h
  | act t => exact effect_act h
  | wake t =>
    simp only [step] at h
    split at h
    · next call rest hphase =>
      obtain rfl := Option.some.inj h
      exact .woken t call rest hphase
    · cases h

/-! ## The instructions of a call -/

/-- A relation between calls and instructions that holds wherever a call can stand. -/
structure Closed (m : Interface P U C D) (R : P → List (Instr U C) → Prop) : Prop where
  body : ∀ call, R call (m.body call)
  tail : ∀ call i rest, R call (i :: rest) → R call rest
  test : ∀ call c rest, R call (.notifyAllIf c :: rest) → R call (.notifyAll :: rest)

/-- Every call past its lock stands where `R` holds. -/
def Within (R : P → List (Instr U C) → Prop) (s : State T P U C D) : Prop :=
  ∀ t call rest, (s.phase t).todo? = some (call, rest) → R call rest

variable {R : P → List (Instr U C) → Prop}

/-- One thread changes its phase. -/
theorem Within.update (h : Within R s) {t : T} {phase : Phase P U C} {data : D} {owner : Option T}
    {poisoned : Bool} (hphase : ∀ call rest, phase.todo? = some (call, rest) → R call rest) :
    Within R ⟨data, owner, poisoned, Function.update s.phase t phase⟩ := by
  intro t' call rest htodo
  replace htodo : (Function.update s.phase t phase t').todo? = some (call, rest) := htodo
  by_cases ht : t' = t
  · subst ht
    rw [Function.update_self] at htodo
    exact hphase call rest htodo
  · rw [Function.update_of_ne ht] at htodo
    exact h t' call rest htodo

/-- One thread leaves its call, or has not locked it. -/
theorem Within.drop (h : Within R s) {t : T} {phase : Phase P U C} {data : D} {owner : Option T}
    {poisoned : Bool} (hphase : phase.todo? = none) :
    Within R ⟨data, owner, poisoned, Function.update s.phase t phase⟩ := by
  apply h.update
  intro call rest htodo
  rw [hphase] at htodo
  cases htodo

/-- One thread moves on in its call. -/
theorem Within.move (h : Within R s) {t : T} {phase : Phase P U C} {data : D} {owner : Option T}
    {poisoned : Bool} {call : P} {rest : List (Instr U C)}
    (hphase : phase.todo? = some (call, rest)) (hstands : R call rest) :
    Within R ⟨data, owner, poisoned, Function.update s.phase t phase⟩ := by
  apply h.update
  intro call' rest' htodo
  rw [hphase] at htodo
  obtain ⟨rfl, rfl⟩ := Prod.mk.inj (Option.some.inj htodo)
  exact hstands

theorem Within.step (hR : Closed m R) (h : Within R s) (hstep : Monitor.step m s e = some s') :
    Within R s' := by
  cases step_effect hstep with
  | started t call hidle => exact h.drop rfl
  | locked t call rest hfree hfrom =>
    refine h.move rfl ?_
    rcases hfrom with ⟨-, rfl⟩ | ⟨later, hphase, rfl⟩
    · exact hR.body call
    · -- a woken thread takes its call up where it left it
      exact h t call _ (by rw [hphase]; rfl)
  | refused t hfree hpoisoned houtside => exact h.drop rfl
  | unlocked t call hinside => exact h.drop rfl
  | updated t call u rest data hinside =>
    exact h.move rfl (hR.tail call _ rest (h t call _ (by rw [hinside]; rfl)))
  | raised t call u rest message data hinside => exact h.drop rfl
  | tested t call c rest hinside =>
    have hold : R call (.notifyAllIf c :: rest) := h t call _ (by rw [hinside]; rfl)
    refine h.move rfl ?_
    split
    · exact hR.test call c rest hold
    · exact hR.tail call _ rest hold
  | notifiedAll t call rest hinside =>
    -- every phase changes here, but a notified thread still stands where it slept
    intro t' call' rest' htodo
    replace htodo :
        (Function.update (fun t' => (s.phase t').notify) t (.inside call rest) t').todo? =
      some (call', rest') := htodo
    by_cases ht : t' = t
    · subst ht
      rw [Function.update_self] at htodo
      obtain ⟨rfl, rfl⟩ := Prod.mk.inj (Option.some.inj htodo)
      exact hR.tail call _ rest (h t' call _ (by rw [hinside]; rfl))
    · rw [Function.update_of_ne ht, Phase.todo?_notify] at htodo
      exact h t' call' rest' htodo
  | slept t call rest hinside => exact h.move rfl (h t call _ (by rw [hinside]; rfl))
  | passed t call rest hinside =>
    exact h.move rfl (hR.tail call _ rest (h t call _ (by rw [hinside]; rfl)))
  | woken t call rest hasleep => exact h.move rfl (h t call _ (by rw [hasleep]; rfl))

/-- In every reachable state every call past its lock stands where a closed relation holds. -/
theorem run_within (hR : Closed m R) (hrun : run m (.new data) es = some s) : Within R s := by
  apply Execution.run_invariant _ _ hrun
  · intro t call rest htodo
    cases htodo
  · intro a b e ha hab
    exact ha.step hR hab

/-! ## Mutual exclusion -/

/-- The owner of the lock is the one thread inside. -/
def Owned (s : State T P U C D) : Prop := ∀ t, (s.phase t).isInside = true ↔ s.owner = some t

/-- The owner stays inside, or a thread outside changes its phase. -/
theorem Owned.update (h : Owned s) {t : T} {phase : Phase P U C} {data : D}
    (hphase : phase.isInside = (s.phase t).isInside) :
    Owned { s with data := data, phase := Function.update s.phase t phase } := by
  intro t'
  by_cases ht : t' = t
  · subst ht
    show (Function.update s.phase t' phase t').isInside = true ↔ _
    rw [Function.update_self, hphase]
    exact h t'
  · show (Function.update s.phase t phase t').isInside = true ↔ _
    rw [Function.update_of_ne ht]
    exact h t'

/-- The owner leaves. -/
theorem Owned.leave (h : Owned s) {t : T} {phase : Phase P U C} {data : D} {poisoned : Bool}
    (hinside : (s.phase t).isInside = true) (hphase : phase.isInside = false) :
    Owned ⟨data, none, poisoned, Function.update s.phase t phase⟩ := by
  intro t'
  show (Function.update s.phase t phase t').isInside = true ↔ none = some t'
  by_cases ht : t' = t
  · subst ht
    simp [hphase]
  · rw [Function.update_of_ne ht, h t', (h t).1 hinside]
    simp [Ne.symm ht]

theorem Owned.step (h : Owned s) (hstep : Monitor.step m s e = some s') : Owned s' := by
  cases step_effect hstep with
  | started t call hidle => exact h.update (by rw [hidle]; rfl)
  | locked t call rest hfree hfrom =>
    intro t'
    show (Function.update s.phase t _ t').isInside = true ↔ some t = some t'
    by_cases ht : t' = t
    · subst ht
      simp [Phase.isInside]
    · -- nobody was inside while the lock was free
      rw [Function.update_of_ne ht, h t', hfree]
      simp [Ne.symm ht]
  | refused t hfree hpoisoned houtside => exact h.update houtside.symm
  | unlocked t call hinside => exact h.leave (by rw [hinside]; rfl) rfl
  | updated t call u rest data hinside => exact h.update (by rw [hinside]; rfl)
  | raised t call u rest message data hinside => exact h.leave (by rw [hinside]; rfl) rfl
  | tested t call c rest hinside => exact h.update (by rw [hinside]; rfl)
  | notifiedAll t call rest hinside =>
    intro t'
    show (Function.update (fun t' => (s.phase t').notify) t
      (.inside call rest) t').isInside = true ↔ s.owner = some t'
    by_cases ht : t' = t
    · subst ht
      rw [Function.update_self, ← h t', hinside]
      simp [Phase.isInside]
    · rw [Function.update_of_ne ht, Phase.isInside_notify]
      exact h t'
  | slept t call rest hinside => exact h.leave (by rw [hinside]; rfl) rfl
  | passed t call rest hinside => exact h.update (by rw [hinside]; rfl)
  | woken t call rest hasleep => exact h.update (by rw [hasleep]; rfl)

/-- In every reachable state the owner of the lock is the one thread inside. -/
theorem run_owned (hrun : run m (.new data) es = some s) : Owned s := by
  apply Execution.run_invariant _ _ hrun
  · intro t
    simp [State.new, Phase.isInside]
  · intro a b e ha hab
    exact ha.step hab

/-! ## Wake-ups -/

variable (m)

/-- From the data `d`, the instructions notify the sleepers before the lock is free again. -/
def WillNotify : D → List (Instr U C) → Prop
  | _, .notifyAll :: _ => True
  | d, .notifyAllIf c :: rest => m.holds c d = true ∨ WillNotify d rest
  | d, .update u :: rest => ∃ d', m.perform u d = .ok () d' ∧ WillNotify d' rest
  | _, _ => False

/-- An update that ends the condition is followed by a notification; one that panics does not end
it. -/
def Wakes : List (Instr U C) → Prop
  | .update u :: rest =>
      (∀ d, m.mustWait d = true →
        (∀ d', m.perform u d = .ok () d' → m.mustWait d' = true ∨ WillNotify m d' rest) ∧
        ∀ message d', m.perform u d = .panic message d' → m.mustWait d' = true) ∧
      Wakes rest
  | _ :: rest => Wakes rest
  | [] => True

variable {m}

theorem Wakes.tail {i : Instr U C} {rest : List (Instr U C)} (h : Wakes m (i :: rest)) :
    Wakes m rest := by
  cases i with
  | update u => exact h.2
  | notifyAllIf c => exact h
  | notifyAll => exact h
  | waitWhile => exact h

theorem closed_wakes (h : ∀ call, Wakes m (m.body call)) :
    Closed m fun _ rest => Wakes m rest where
  body := h
  tail _ _ _ hrest := hrest.tail
  test _ _ _ hrest := hrest

variable (m)

/-- A thread inside is about to notify. -/
def Notifying (s : State T P U C D) : Prop :=
  ∃ t call rest, s.phase t = .inside call rest ∧ WillNotify m s.data rest

/-- A thread sleeps only while the condition holds, or while the owner is about to notify. -/
def Attended (s : State T P U C D) : Prop :=
  ∀ t, (s.phase t).isAsleep = true → m.mustWait s.data = true ∨ Notifying m s

variable {m}

omit [DecidableEq T] in
/-- The owner is the only one that can be about to notify. -/
theorem Notifying.of_inside (h : Notifying m s) (howned : Owned s) {t : T} {call : P}
    {rest : List (Instr U C)} (hinside : s.phase t = .inside call rest) :
    WillNotify m s.data rest := by
  obtain ⟨u, call', rest', hu, hwill⟩ := h
  have hut : u = t := by
    have hu' := (howned u).1 (by rw [hu]; rfl)
    have ht' := (howned t).1 (by rw [hinside]; rfl)
    exact Option.some.inj (hu'.symm.trans ht')
  subst hut
  rw [hinside] at hu
  obtain ⟨rfl, rfl⟩ := Phase.inside.inj hu
  exact hwill

/-- A thread without the lock changes its phase and does not fall asleep. -/
theorem Attended.outside (h : Attended m s) {t : T} {phase : Phase P U C} {owner : Option T}
    (houtside : (s.phase t).isInside = false) (hphase : phase.isAsleep = false) :
    Attended m { s with owner := owner, phase := Function.update s.phase t phase } := by
  intro t' hasleep
  replace hasleep : (Function.update s.phase t phase t').isAsleep = true := hasleep
  by_cases ht : t' = t
  · subst ht
    rw [Function.update_self, hphase] at hasleep
    cases hasleep
  · rw [Function.update_of_ne ht] at hasleep
    refine (h t' hasleep).imp_right ?_
    rintro ⟨u, call, rest, hu, hwill⟩
    refine ⟨u, call, rest, ?_, hwill⟩
    have hut : u ≠ t := by
      rintro rfl
      rw [hu] at houtside
      cases houtside
    exact (Function.update_of_ne hut _ _).trans hu

/-- The owner goes on, to data for which the condition holds or from which it notifies. -/
theorem Attended.inside (h : Attended m s) (howned : Owned s) {t : T} {call : P}
    {rest rest' : List (Instr U C)} {data : D} (hinside : s.phase t = .inside call rest)
    (hwaits : m.mustWait s.data = true → m.mustWait data = true ∨ WillNotify m data rest')
    (hwill : WillNotify m s.data rest → WillNotify m data rest') :
    Attended m
      { s with data := data, phase := Function.update s.phase t (.inside call rest') } := by
  intro t' hasleep
  replace hasleep : (Function.update s.phase t (.inside call rest') t').isAsleep = true := hasleep
  have hnotifying (hnext : WillNotify m data rest') :
      Notifying m { s with
        data := data
        phase := Function.update s.phase t (.inside call rest') } :=
    ⟨t, call, rest', Function.update_self _ _ _, hnext⟩
  by_cases ht : t' = t
  · subst ht
    rw [Function.update_self] at hasleep
    cases hasleep
  · rw [Function.update_of_ne ht] at hasleep
    rcases h t' hasleep with hmust | hnotify
    · exact (hwaits hmust).imp_right hnotifying
    · exact Or.inr (hnotifying (hwill (hnotify.of_inside howned hinside)))

theorem Attended.step (h : Attended m s) (howned : Owned s)
    (hwakes : Within (fun _ rest => Wakes m rest) s) (hstep : Monitor.step m s e = some s') :
    Attended m s' := by
  cases step_effect hstep with
  | started t call hidle => exact h.outside (by rw [hidle]; rfl) rfl
  | locked t call rest hfree hfrom =>
    refine h.outside ?_ rfl
    rcases hfrom with ⟨hphase, -⟩ | ⟨later, hphase, -⟩
    · rw [hphase]
      rfl
    · rw [hphase]
      rfl
  | refused t hfree hpoisoned houtside => exact h.outside houtside rfl
  | unlocked t call hinside =>
    intro t' hasleep
    replace hasleep : (Function.update s.phase t .idle t').isAsleep = true := hasleep
    by_cases ht : t' = t
    · subst ht
      rw [Function.update_self] at hasleep
      cases hasleep
    · rw [Function.update_of_ne ht] at hasleep
      -- the owner had nothing left to do, so that it was not about to notify
      rcases h t' hasleep with hmust | hnotify
      · exact Or.inl hmust
      · exact (hnotify.of_inside howned hinside).elim
  | updated t call u rest data hinside hperform =>
    have hrest : Wakes m (.update u :: rest) := hwakes t call _ (by rw [hinside]; rfl)
    refine h.inside howned hinside ?_ ?_
    · intro hmust
      exact (hrest.1 s.data hmust).1 data hperform
    · rintro ⟨d', hd', hwill⟩
      rw [hperform] at hd'
      obtain ⟨-, rfl⟩ := Outcome.ok.inj hd'
      exact hwill
  | raised t call u rest message data hinside hperform =>
    have hrest : Wakes m (.update u :: rest) := hwakes t call _ (by rw [hinside]; rfl)
    intro t' hasleep
    replace hasleep : (Function.update s.phase t .panicked t').isAsleep = true := hasleep
    by_cases ht : t' = t
    · subst ht
      rw [Function.update_self] at hasleep
      cases hasleep
    · rw [Function.update_of_ne ht] at hasleep
      rcases h t' hasleep with hmust | hnotify
      · exact Or.inl ((hrest.1 s.data hmust).2 message data hperform)
      · -- an update from which the owner goes on to notify does not panic
        obtain ⟨d', hd', -⟩ := hnotify.of_inside howned hinside
        rw [hperform] at hd'
        cases hd'
  | tested t call c rest hinside =>
    refine h.inside howned hinside Or.inl ?_
    intro hwill
    by_cases hholds : m.holds c s.data = true
    · rw [if_pos hholds]
      trivial
    · rw [if_neg hholds]
      exact hwill.resolve_left hholds
  | notifiedAll t call rest hinside =>
    intro t' hasleep
    replace hasleep : (Function.update (fun t' => (s.phase t').notify) t (.inside call rest)
      t').isAsleep = true := hasleep
    by_cases ht : t' = t
    · subst ht
      rw [Function.update_self] at hasleep
      cases hasleep
    · -- nobody sleeps after the notification
      rw [Function.update_of_ne ht, Phase.isAsleep_notify] at hasleep
      cases hasleep
  | slept t call rest hinside hmust => exact fun _ _ => Or.inl hmust
  | passed t call rest hinside => exact h.inside howned hinside Or.inl False.elim
  | woken t call rest hasleep => exact h.outside (by rw [hasleep]; rfl) rfl

/-- Where every update that ends the condition is followed by a notification, a thread of a
reachable state sleeps only while the condition holds, or while the owner of the lock is about to
notify. -/
theorem run_attended (hbody : ∀ call, Wakes m (m.body call))
    (hrun : run m (.new data) es = some s) : Attended m s := by
  have hall : Owned s ∧ Within (fun _ rest => Wakes m rest) s ∧ Attended m s := by
    apply Execution.run_invariant _ _ hrun
    · have hnil : run m (.new data) [] = some (State.new data : State T P U C D) := rfl
      refine ⟨run_owned hnil, run_within (closed_wakes hbody) hnil, ?_⟩
      intro t hasleep
      cases hasleep
    · rintro a b e ⟨howned, hwakes, hattended⟩ hab
      exact ⟨howned.step hab, hwakes.step (closed_wakes hbody) hab,
        hattended.step howned hwakes hab⟩
  exact hall.2.2

end Step

/-! ## Counting threads -/

section Tally

variable {T : Type y} {β : Type w} {p : β → Bool} {f : T → β} {n : Nat}

/-- The places of `n` threads satisfy `p`. -/
def Tally (p : β → Bool) (f : T → β) (n : Nat) : Prop :=
  ∃ threads : Finset T, (∀ t, t ∈ threads ↔ p (f t) = true) ∧ threads.card = n

theorem Tally.zero (h : ∀ t, p (f t) = false) : Tally p f 0 :=
  ⟨∅, fun t => by simp [h t], rfl⟩

theorem Tally.eq_zero (h : Tally p f n) (hnone : ∀ t, p (f t) = false) : n = 0 := by
  obtain ⟨threads, hmem, rfl⟩ := h
  rw [Finset.card_eq_zero]
  apply Finset.eq_empty_of_forall_notMem
  intro t ht
  have hone := (hmem t).1 ht
  rw [hnone t] at hone
  cases hone

theorem Tally.congr {g : T → β} (h : Tally p f n) (heq : ∀ t, p (g t) = p (f t)) :
    Tally p g n := by
  obtain ⟨threads, hmem, hcard⟩ := h
  refine ⟨threads, fun t => ?_, hcard⟩
  rw [heq t]
  exact hmem t

variable [DecidableEq T] {t : T} {b : β}

theorem Tally.keep (h : Tally p f n) (heq : p b = p (f t)) :
    Tally p (Function.update f t b) n := by
  apply h.congr
  intro t'
  by_cases ht : t' = t
  · subst ht
    rw [Function.update_self, heq]
  · rw [Function.update_of_ne ht]

theorem Tally.enter (h : Tally p f n) (hold : p (f t) = false) (hnew : p b = true) :
    Tally p (Function.update f t b) (n + 1) := by
  obtain ⟨threads, hmem, rfl⟩ := h
  have hout : t ∉ threads := by simp [hmem, hold]
  refine ⟨insert t threads, fun t' => ?_, Finset.card_insert_of_notMem hout⟩
  by_cases ht : t' = t
  · subst ht
    simp [hnew]
  · rw [Function.update_of_ne ht, Finset.mem_insert, ← hmem t']
    simp [ht]

theorem Tally.leave (h : Tally p f n) (hold : p (f t) = true) (hnew : p b = false) :
    ∃ k, n = k + 1 ∧ Tally p (Function.update f t b) k := by
  obtain ⟨threads, hmem, rfl⟩ := h
  have hin : t ∈ threads := (hmem t).2 hold
  refine ⟨_, (Finset.card_erase_add_one hin).symm, threads.erase t, fun t' => ?_, rfl⟩
  by_cases ht : t' = t
  · subst ht
    simp [hnew]
  · rw [Function.update_of_ne ht, Finset.mem_erase, ← hmem t']
    simp [ht]

end Tally

end SkywalkingAgent.Lib.Monitor
