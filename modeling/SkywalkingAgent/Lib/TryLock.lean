import SkywalkingAgent.Lib.Execution

/-!
# Threads that try locks

Threads run straight-line programs over shared data. An action acquires a read-write lock, releases
one, or performs an update; an attempt to acquire never waits: where the guards that are out forbid
it, the thread fails and its program is over. The history of a run lists the attempts and the
releases, and `Compatible` says of a history that no attempt comes inside an access that excludes
it. `Recorded` is the invariant that relates the two: no thread has failed exactly when the history
of the contended lock is compatible. The attempts at the other locks succeed by
`Guarded.guards_eq_nil`, where only one thread uses them.
-/

set_option autoImplicit false

namespace SkywalkingAgent.Lib.TryLock

universe u v w x

/-- How a lock is taken. -/
inductive Mode where
  | read
  | write
  deriving DecidableEq, Repr

/-- What a thread does next: it tries to take a lock, gives one back, or works on the data. -/
inductive Action (L : Type u) (U : Type v) where
  | acquire (lock : L) (mode : Mode)
  | release (lock : L) (mode : Mode)
  | perform (update : U)

/-- An attempt to acquire a lock, or a release. -/
structure Access (L : Type u) where
  lock : L
  mode : Mode
  attempt : Bool
  deriving DecidableEq, Repr

/-- The access that an action is. -/
def Action.access? {L : Type u} {U : Type v} : Action L U → Option (Access L)
  | .acquire lock mode => some ⟨lock, mode, true⟩
  | .release lock mode => some ⟨lock, mode, false⟩
  | .perform _ => none

/-- Whether a lock with these guards out can be acquired. -/
def admits {T : Type w} (guards : List (T × Mode)) : Mode → Bool
  | .read => guards.all fun guard => guard.2 = .read
  | .write => guards.isEmpty

/-- Shared data, the guards of every lock that are out, the rest of every thread's program, and the
threads that have failed. -/
structure Threads (T : Type w) (L : Type u) (U : Type v) (D : Type x) where
  data : D
  guards : L → List (T × Mode)
  program : T → List (Action L U)
  failed : List T

namespace Threads

variable {T : Type w} {L : Type u} {U : Type v} {D : Type x} [DecidableEq T] [DecidableEq L]

/-- A thread that is not running starts a program. -/
def start (s : Threads T L U D) (t : T) (program : List (Action L U)) (data : D) :
    Option (Threads T L U D) :=
  if (s.program t).isEmpty && !decide (t ∈ s.failed) then
    some { s with data := data, program := Function.update s.program t program }
  else none

/-- The next action of a thread. -/
def act (perform : U → D → Option D) (s : Threads T L U D) (t : T) : Option (Threads T L U D) :=
  match s.program t with
  | [] => none
  | .acquire lock mode :: rest =>
      if admits (s.guards lock) mode then
        some { s with
          guards := Function.update s.guards lock ((t, mode) :: s.guards lock)
          program := Function.update s.program t rest }
      else some { s with
        program := Function.update s.program t []
        failed := t :: s.failed }
  | .release lock mode :: rest =>
      some { s with
        guards := Function.update s.guards lock ((s.guards lock).erase (t, mode))
        program := Function.update s.program t rest }
  | .perform update :: rest =>
      (perform update s.data).map fun data =>
        { s with data := data, program := Function.update s.program t rest }

/-- The access that the next action of a thread is. -/
def access? (s : Threads T L U D) (t : T) : Option (Access L) :=
  (s.program t).head?.bind Action.access?

omit [DecidableEq L] in
/-- A thread starts a program when it has none left and has not failed. -/
theorem start_eq_some_iff {s s' : Threads T L U D} {t : T} {program : List (Action L U)}
    {data : D} : s.start t program data = some s' ↔ s.program t = [] ∧ t ∉ s.failed ∧
      s' = { s with data := data, program := Function.update s.program t program } := by
  unfold start
  split
  · next h =>
    simp only [Bool.and_eq_true, List.isEmpty_iff, Bool.not_eq_true', decide_eq_false_iff_not] at h
    simp [h.1, h.2, eq_comm]
  · next h =>
    simp only [Bool.and_eq_true, List.isEmpty_iff, Bool.not_eq_true', decide_eq_false_iff_not,
      not_and] at h
    constructor
    · intro hnone
      cases hnone
    · rintro ⟨hempty, hmem, -⟩
      exact absurd hmem (h hempty)

/-- What an action of a thread does, with the condition under which it is possible. -/
inductive Acted (perform : U → D → Option D) (s : Threads T L U D) (t : T) :
    Threads T L U D → Prop where
  | acquired (lock : L) (mode : Mode) (rest : List (Action L U))
      (program : s.program t = .acquire lock mode :: rest)
      (admitted : admits (s.guards lock) mode = true) :
      Acted perform s t { s with
        guards := Function.update s.guards lock ((t, mode) :: s.guards lock)
        program := Function.update s.program t rest }
  | failed (lock : L) (mode : Mode) (rest : List (Action L U))
      (program : s.program t = .acquire lock mode :: rest)
      (refused : admits (s.guards lock) mode = false) :
      Acted perform s t { s with
        program := Function.update s.program t []
        failed := t :: s.failed }
  | released (lock : L) (mode : Mode) (rest : List (Action L U))
      (program : s.program t = .release lock mode :: rest) :
      Acted perform s t { s with
        guards := Function.update s.guards lock ((s.guards lock).erase (t, mode))
        program := Function.update s.program t rest }
  | performed (update : U) (rest : List (Action L U)) (data : D)
      (program : s.program t = .perform update :: rest)
      (effect : perform update s.data = some data) :
      Acted perform s t { s with data := data, program := Function.update s.program t rest }

theorem acted_of_act {perform : U → D → Option D} {s s' : Threads T L U D} {t : T}
    (h : s.act perform t = some s') : Acted perform s t s' := by
  unfold act at h
  split at h
  · cases h
  · next lock mode rest hprogram =>
    split at h
    · next hadmits =>
      obtain rfl := Option.some.inj h
      exact .acquired lock mode rest hprogram hadmits
    · next hadmits =>
      obtain rfl := Option.some.inj h
      exact .failed lock mode rest hprogram (by simpa using hadmits)
  · next lock mode rest hprogram =>
    obtain rfl := Option.some.inj h
    exact .released lock mode rest hprogram
  · next update rest hprogram =>
    obtain ⟨data, heffect, rfl⟩ := Option.map_eq_some_iff.1 h
    exact .performed update rest data hprogram heffect

variable {perform : U → D → Option D} {s s' : Threads T L U D} {t : T}

/-- An attempt takes the lock, or ends the program. -/
theorem Acted.of_acquire (h : Acted perform s t s') {lock : L} {mode : Mode}
    {rest : List (Action L U)} (hprogram : s.program t = .acquire lock mode :: rest) :
    (admits (s.guards lock) mode = true ∧ s' = { s with
      guards := Function.update s.guards lock ((t, mode) :: s.guards lock)
      program := Function.update s.program t rest }) ∨
    (admits (s.guards lock) mode = false ∧ s' = { s with
      program := Function.update s.program t []
      failed := t :: s.failed }) := by
  cases h with
  | acquired lock' mode' rest' hprogram' hadmits =>
    cases hprogram.symm.trans hprogram'
    exact Or.inl ⟨hadmits, rfl⟩
  | failed lock' mode' rest' hprogram' hrefused =>
    cases hprogram.symm.trans hprogram'
    exact Or.inr ⟨hrefused, rfl⟩
  | released lock' mode' rest' hprogram' => cases hprogram.symm.trans hprogram'
  | performed update rest' data hprogram' _ => cases hprogram.symm.trans hprogram'

theorem Acted.of_release (h : Acted perform s t s') {lock : L} {mode : Mode}
    {rest : List (Action L U)} (hprogram : s.program t = .release lock mode :: rest) :
    s' = { s with
      guards := Function.update s.guards lock ((s.guards lock).erase (t, mode))
      program := Function.update s.program t rest } := by
  cases h with
  | acquired lock' mode' rest' hprogram' _ => cases hprogram.symm.trans hprogram'
  | failed lock' mode' rest' hprogram' _ => cases hprogram.symm.trans hprogram'
  | released lock' mode' rest' hprogram' =>
    cases hprogram.symm.trans hprogram'
    rfl
  | performed update rest' data hprogram' _ => cases hprogram.symm.trans hprogram'

theorem Acted.of_perform (h : Acted perform s t s') {update : U}
    {rest : List (Action L U)} (hprogram : s.program t = .perform update :: rest) :
    ∃ data, perform update s.data = some data ∧
      s' = { s with data := data, program := Function.update s.program t rest } := by
  cases h with
  | acquired lock' mode' rest' hprogram' _ => cases hprogram.symm.trans hprogram'
  | failed lock' mode' rest' hprogram' _ => cases hprogram.symm.trans hprogram'
  | released lock' mode' rest' hprogram' => cases hprogram.symm.trans hprogram'
  | performed update' rest' data hprogram' heffect =>
    cases hprogram.symm.trans hprogram'
    exact ⟨data, heffect, rfl⟩

/-- A thread whose program is over does nothing. -/
theorem Acted.program_ne_nil (h : Acted perform s t s') : s.program t ≠ [] := by
  intro hnil
  cases h with
  | acquired lock mode rest hprogram _ => cases hnil.symm.trans hprogram
  | failed lock mode rest hprogram _ => cases hnil.symm.trans hprogram
  | released lock mode rest hprogram => cases hnil.symm.trans hprogram
  | performed update rest data hprogram _ => cases hnil.symm.trans hprogram

/-- A thread moves itself alone. -/
theorem Acted.program_of_ne (h : Acted perform s t s') {t' : T} (ht : t' ≠ t) :
    s'.program t' = s.program t' := by
  cases h with
  | acquired | failed | released | performed => exact Function.update_of_ne ht _ _

theorem Acted.program_subset (h : Acted perform s t s') (t' : T) :
    s'.program t' ⊆ s.program t' := by
  by_cases ht : t' = t
  · subst ht
    intro action hmem
    cases h with
    | acquired lock mode rest hprogram _ =>
      simp only [Function.update_self] at hmem
      exact hprogram ▸ List.mem_cons_of_mem _ hmem
    | failed lock mode rest hprogram _ =>
      simp only [Function.update_self, List.not_mem_nil] at hmem
    | released lock mode rest hprogram =>
      simp only [Function.update_self] at hmem
      exact hprogram ▸ List.mem_cons_of_mem _ hmem
    | performed update rest data hprogram _ =>
      simp only [Function.update_self] at hmem
      exact hprogram ▸ List.mem_cons_of_mem _ hmem
  · rw [h.program_of_ne ht]
    exact List.Subset.refl _

theorem Acted.mem_failed_of_ne (h : Acted perform s t s') {t' : T} (ht : t' ≠ t)
    (hmem : t' ∈ s'.failed) : t' ∈ s.failed := by
  cases h with
  | failed => exact (List.mem_cons.1 hmem).resolve_left ht
  | acquired | released | performed => exact hmem

theorem Acted.failed_subset (h : Acted perform s t s') : s.failed ⊆ s'.failed := by
  cases h with
  | failed => exact List.subset_cons_self _ _
  | acquired | released | performed => exact List.Subset.refl _

end Threads

/-! ## Accesses one after the other -/

section Bracketed

variable {L : Type u} {U : Type v}

/-- A program, from where it holds the given guard on, that acquires and releases in turns. -/
def Bracketed : Option (L × Mode) → List (Action L U) → Prop
  | none, [] => True
  | none, .acquire lock mode :: rest => Bracketed (some (lock, mode)) rest
  | some held, .release lock mode :: rest => held = (lock, mode) ∧ Bracketed none rest
  | held, .perform _ :: rest => Bracketed held rest
  | _, _ => False

/-- Whether a program has an access to the lock. -/
def Uses (lock : L) (program : List (Action L U)) : Prop :=
  ∃ mode, .acquire lock mode ∈ program ∨ .release lock mode ∈ program

theorem bracketed_acquire {held : Option (L × Mode)} {lock : L} {mode : Mode}
    {rest : List (Action L U)} :
    Bracketed held (.acquire lock mode :: rest) ↔
      held = none ∧ Bracketed (some (lock, mode)) rest := by
  cases held <;> simp [Bracketed]

theorem bracketed_release {held : Option (L × Mode)} {lock : L} {mode : Mode}
    {rest : List (Action L U)} :
    Bracketed held (.release lock mode :: rest) ↔
      held = some (lock, mode) ∧ Bracketed none rest := by
  cases held <;> simp [Bracketed]

theorem bracketed_perform {held : Option (L × Mode)} {update : U} {rest : List (Action L U)} :
    Bracketed held (.perform update :: rest) ↔ Bracketed held rest := by
  cases held <;> simp [Bracketed]

theorem bracketed_nil {held : Option (L × Mode)} :
    Bracketed held ([] : List (Action L U)) ↔ held = none := by
  cases held <;> simp [Bracketed]

/-- A guard that is held is still to be released. -/
theorem uses_of_held {lock : L} {mode : Mode} {program : List (Action L U)}
    (h : Bracketed (some (lock, mode)) program) : Uses lock program := by
  -- nothing is acquired before the release
  induction program with
  | nil => cases h
  | cons action rest ih =>
    cases action with
    | acquire lock' mode' => cases h
    | release lock' mode' =>
      obtain ⟨heq, -⟩ := h
      obtain ⟨rfl, rfl⟩ := Prod.mk.inj heq
      exact ⟨mode, Or.inr List.mem_cons_self⟩
    | perform update =>
      obtain ⟨mode', hmem⟩ := ih h
      exact ⟨mode', hmem.imp (List.mem_cons_of_mem _) (List.mem_cons_of_mem _)⟩

end Bracketed

namespace Threads

variable {T : Type w} {L : Type u} {U : Type v} {D : Type x} [DecidableEq T] [DecidableEq L]
  {perform : U → D → Option D} {s s' : Threads T L U D} {t : T}

/-- Every guard that is out is held by its thread, and the threads hold nothing else. -/
structure Guarded (s : Threads T L U D) : Prop where
  held : ∃ held : T → Option (L × Mode), (∀ t, Bracketed (held t) (s.program t)) ∧
    ∀ lock t mode, (t, mode) ∈ s.guards lock ↔ held t = some (lock, mode)
  nodup : ∀ lock, (s.guards lock).Nodup

omit [DecidableEq L] in
theorem Guarded.start (h : s.Guarded) {program : List (Action L U)} {data : D}
    (hprogram : Bracketed none program) (hstart : s.start t program data = some s') :
    s'.Guarded := by
  obtain ⟨hempty, -, rfl⟩ := start_eq_some_iff.1 hstart
  obtain ⟨held, hheld, hguards⟩ := h.held
  refine ⟨⟨held, fun t' => ?_, hguards⟩, h.nodup⟩
  by_cases ht : t' = t
  · subst ht
    have hnone := hheld t'
    rw [hempty, bracketed_nil] at hnone
    rw [hnone]
    simpa using hprogram
  · simpa [Function.update_of_ne ht] using hheld t'

theorem Guarded.act (h : s.Guarded) (hact : Acted perform s t s') : s'.Guarded := by
  obtain ⟨held, hheld, hguards⟩ := h.held
  have hown := hheld t
  -- the other threads keep their programs and their guards
  have hother : ∀ {rest : List (Action L U)} {guard : Option (L × Mode)},
      Bracketed guard rest → ∀ t', Bracketed (Function.update held t guard t')
        (Function.update s.program t rest t') := by
    intro rest guard hrest t'
    by_cases ht : t' = t
    · subst ht
      simpa using hrest
    · simpa [Function.update_of_ne ht] using hheld t'
  cases hact with
  | acquired lock mode rest hprogram hadmits =>
    rw [hprogram, bracketed_acquire] at hown
    obtain ⟨hnone, hrest⟩ := hown
    refine ⟨⟨Function.update held t (some (lock, mode)), hother hrest, ?_⟩, fun lock' => ?_⟩
    · intro lock' t' mode'
      by_cases ht : t' = t
      · subst ht
        -- the thread held nothing before
        have hout : ∀ l m, (t', m) ∉ s.guards l := by
          intro l m hmem
          rw [(hguards l t' m).1 hmem] at hnone
          cases hnone
        by_cases hl : lock' = lock
        · subst hl
          simp [hout, eq_comm]
        · simp [Function.update_of_ne hl, hout, Ne.symm hl]
      · rw [Function.update_of_ne ht, ← hguards]
        by_cases hl : lock' = lock
        · subst hl
          simp [ht]
        · simp [Function.update_of_ne hl]
    · by_cases hl : lock' = lock
      · subst hl
        show (Function.update s.guards lock' _ lock').Nodup
        rw [Function.update_self]
        refine List.nodup_cons.2 ⟨fun hmem => ?_, h.nodup lock'⟩
        rw [(hguards lock' t mode).1 hmem] at hnone
        cases hnone
      · show (Function.update s.guards lock _ lock').Nodup
        rw [Function.update_of_ne hl]
        exact h.nodup lock'
  | failed lock mode rest hprogram hrefused =>
    rw [hprogram, bracketed_acquire] at hown
    -- a thread that comes for a lock holds nothing, so failing leaves no guard behind
    have hsame : Function.update held t none = held := by
      rw [← hown.1, Function.update_eq_self]
    refine ⟨⟨held, ?_, hguards⟩, h.nodup⟩
    rw [← hsame]
    exact hother (bracketed_nil.2 rfl)
  | released lock mode rest hprogram =>
    rw [hprogram, bracketed_release] at hown
    obtain ⟨hsome, hrest⟩ := hown
    refine ⟨⟨Function.update held t none, hother hrest, ?_⟩, fun lock' => ?_⟩
    · intro lock' t' mode'
      -- a guard is listed once, so the release removes this one and no other
      have hmem : (t', mode') ∈ Function.update s.guards lock
          ((s.guards lock).erase (t, mode)) lock' ↔
            (t', mode') ∈ s.guards lock' ∧ ¬ (lock' = lock ∧ t' = t ∧ mode' = mode) := by
        by_cases hl : lock' = lock
        · subst hl
          rw [Function.update_self, (h.nodup lock').mem_erase_iff]
          simp [and_comm]
        · simp [hl]
      rw [hmem, hguards]
      by_cases ht : t' = t
      · subst ht
        rw [Function.update_self, hsome]
        simp only [Option.some.injEq, Prod.mk.injEq, reduceCtorEq, iff_false, not_and]
        rintro ⟨rfl, rfl⟩ hne
        exact hne rfl trivial rfl
      · simp [ht]
    · by_cases hl : lock' = lock
      · subst hl
        show (Function.update s.guards lock' _ lock').Nodup
        rw [Function.update_self]
        exact (h.nodup lock').erase _
      · show (Function.update s.guards lock _ lock').Nodup
        rw [Function.update_of_ne hl]
        exact h.nodup lock'
  | performed update rest data hprogram heffect =>
    rw [hprogram, bracketed_perform] at hown
    have hsame : Function.update held t (held t) = held := Function.update_eq_self _ _
    refine ⟨⟨held, ?_, hguards⟩, h.nodup⟩
    rw [← hsame]
    exact hother hown

omit [DecidableEq L] in
/-- A lock that no other thread uses is free when its thread comes for it. -/
theorem Guarded.guards_eq_nil (h : s.Guarded) {lock : L} {mode : Mode}
    {rest : List (Action L U)} (hprogram : s.program t = .acquire lock mode :: rest)
    (hothers : ∀ t', t' ≠ t → ¬ Uses lock (s.program t')) : s.guards lock = [] := by
  obtain ⟨held, hheld, hguards⟩ := h.held
  rw [List.eq_nil_iff_forall_not_mem]
  rintro ⟨t', mode'⟩ hmem
  have hholds := (hguards lock t' mode').1 hmem
  by_cases ht : t' = t
  · -- the thread itself comes empty-handed
    subst ht
    have hown := hheld t'
    rw [hprogram, bracketed_acquire, hholds] at hown
    cases hown.1
  · have hprogram' := hheld t'
    rw [hholds] at hprogram'
    exact hothers t' ht (uses_of_held hprogram')

end Threads

/-! ## The history of a lock -/

section History

variable {T : Type w} {L : Type u} {U : Type v} {D : Type x} [DecidableEq L]

/-- Every access that was begun is over. -/
def Closed (lock : L) (mode : Mode) (history : List (Access L)) : Prop :=
  history.count ⟨lock, mode, true⟩ = history.count ⟨lock, mode, false⟩

/-- No attempt at the lock comes inside an access that excludes it. -/
def Compatible (lock : L) (history : List (Access L)) : Prop :=
  ∀ (n : Nat) (mode : Mode), history[n]? = some ⟨lock, mode, true⟩ →
    Closed lock .write (history.take n) ∧ (mode = .write → Closed lock .read (history.take n))

instance (lock : L) (mode : Mode) (history : List (Access L)) :
    Decidable (Closed lock mode history) :=
  inferInstanceAs (Decidable (_ = _))

theorem compatible_iff_bounded {lock : L} {history : List (Access L)} :
    Compatible lock history ↔ ∀ n < history.length, ∀ mode ∈ [Mode.read, Mode.write],
      history[n]? = some ⟨lock, mode, true⟩ →
        Closed lock .write (history.take n) ∧
          (mode = .write → Closed lock .read (history.take n)) := by
  constructor
  · intro h n _ mode _ hn
    exact h n mode hn
  · intro h n mode hn
    refine h n (List.getElem?_eq_some_iff.1 hn).1 mode ?_ hn
    cases mode with
    | read => exact List.mem_cons_self
    | write => exact List.mem_cons_of_mem _ List.mem_cons_self

instance (lock : L) (history : List (Access L)) : Decidable (Compatible lock history) :=
  decidable_of_iff _ compatible_iff_bounded.symm

theorem compatible_nil (lock : L) : Compatible lock [] := nofun

theorem compatible_concat_iff {lock : L} {history : List (Access L)} {a : Access L} :
    Compatible lock (history ++ [a]) ↔ Compatible lock history ∧
      ∀ mode, a = ⟨lock, mode, true⟩ →
        Closed lock .write history ∧ (mode = .write → Closed lock .read history) := by
  constructor
  · intro h
    refine ⟨fun n mode hn => ?_, fun mode ha => ?_⟩
    · have hlt := (List.getElem?_eq_some_iff.1 hn).1
      have hwhole := h n mode (by rw [List.getElem?_append_left hlt]; exact hn)
      rwa [List.take_append_of_le_length (Nat.le_of_lt hlt)] at hwhole
    · have hwhole := h history.length mode (by rw [ha]; exact List.getElem?_concat_length)
      rwa [List.take_left] at hwhole
  · rintro ⟨hold, hnew⟩ n mode hn
    rcases Nat.lt_or_ge n history.length with hlt | hge
    · rw [List.getElem?_append_left hlt] at hn
      rw [List.take_append_of_le_length (Nat.le_of_lt hlt)]
      exact hold n mode hn
    · have heq : n = history.length := by
        have hlen := (List.getElem?_eq_some_iff.1 hn).1
        rw [List.length_append, List.length_singleton] at hlen
        omega
      subst heq
      rw [List.getElem?_concat_length, Option.some.injEq] at hn
      rw [List.take_left]
      exact hnew mode hn

/-- The guards that are out are the accesses that are not over. -/
def Balanced (s : Threads T L U D) (history : List (Access L)) : Prop :=
  ∀ lock mode, (s.guards lock).countP (fun guard => guard.2 = mode) +
    history.count ⟨lock, mode, false⟩ = history.count ⟨lock, mode, true⟩

variable {perform : U → D → Option D} {s s' : Threads T L U D} {t : T}
  {history : List (Access L)}

theorem Balanced.closed_iff (h : Balanced s history) {lock : L} {mode : Mode} :
    Closed lock mode history ↔ (s.guards lock).countP (fun guard => guard.2 = mode) = 0 := by
  have hcount := h lock mode
  unfold Closed
  omega

/-- An attempt succeeds when the accesses that exclude it are over. -/
theorem admits_iff_closed (h : Balanced s history) {lock : L} {mode : Mode} :
    admits (s.guards lock) mode = true ↔
      Closed lock .write history ∧ (mode = .write → Closed lock .read history) := by
  rw [h.closed_iff, h.closed_iff, List.countP_eq_zero, List.countP_eq_zero]
  cases mode with
  | read =>
    simp only [admits, List.all_eq_true, decide_eq_true_eq, reduceCtorEq, false_imp_iff, and_true]
    refine forall_congr' fun guard => forall_congr' fun _ => ?_
    cases guard.2 <;> simp
  | write =>
    simp only [admits, List.isEmpty_iff, decide_eq_true_eq, true_imp_iff]
    constructor
    · intro hnone
      simp [hnone]
    · rintro ⟨hwrite, hread⟩
      rw [List.eq_nil_iff_forall_not_mem]
      rintro ⟨t, mode⟩ hmem
      cases mode with
      | read => exact hread _ hmem rfl
      | write => exact hwrite _ hmem rfl

variable [DecidableEq T]

/-- An action that does not fail keeps the balance. -/
theorem Balanced.act (h : Balanced s history) (hguarded : s.Guarded)
    (hact : Threads.Acted perform s t s') (hfailed : s'.failed = s.failed) :
    Balanced s' (history ++ (s.access? t).toList) := by
  intro lock' mode'
  have hold := h lock' mode'
  cases hact with
  | acquired lock mode rest hprogram hadmits =>
    have haccess : s.access? t = some ⟨lock, mode, true⟩ := by
      simp [Threads.access?, hprogram, Action.access?]
    rw [haccess]
    by_cases hl : lock' = lock
    · subst hl
      by_cases hm : mode = mode'
      · subst hm
        simp
        omega
      · simp [hm]
        omega
    · simp [Function.update_of_ne hl, Ne.symm hl]
      omega
  | failed lock mode rest hprogram hrefused =>
    exact absurd (congrArg List.length hfailed) (by simp)
  | released lock mode rest hprogram =>
    have haccess : s.access? t = some ⟨lock, mode, false⟩ := by
      simp [Threads.access?, hprogram, Action.access?]
    -- there is a guard to release, so one count goes down as the other goes up
    have hmem : (t, mode) ∈ s.guards lock := by
      obtain ⟨held, hheld, hguards⟩ := hguarded.held
      have hown := hheld t
      rw [hprogram, bracketed_release] at hown
      exact (hguards lock t mode).2 hown.1
    rw [haccess]
    by_cases hl : lock' = lock
    · subst hl
      have hperm := (List.perm_cons_erase hmem).countP_eq (fun guard => guard.2 = mode')
      rw [List.countP_cons] at hperm
      by_cases hm : mode = mode'
      · subst hm
        simp at hperm ⊢
        omega
      · simp [hm] at hperm ⊢
        omega
    · simp [Function.update_of_ne hl, Ne.symm hl]
      omega
  | performed update rest data hprogram heffect =>
    have haccess : s.access? t = none := by
      simp [Threads.access?, hprogram, Action.access?]
    rw [haccess]
    simpa using hold

/-- The history so far and the threads that failed: `lock` is the one lock whose attempts can
fail. -/
structure Recorded (lock : L) (s : Threads T L U D) (history : List (Access L)) : Prop where
  balanced : s.failed = [] → Balanced s history
  failed : s.failed = [] ↔ Compatible lock history

omit [DecidableEq T] in
theorem Recorded.congr {lock : L} (h : Recorded lock s history) (hguards : s'.guards = s.guards)
    (hfailed : s'.failed = s.failed) : Recorded lock s' history := by
  refine ⟨fun hnone => ?_, by rw [hfailed, h.failed]⟩
  unfold Balanced
  rw [hguards]
  exact h.balanced (hfailed ▸ hnone)

theorem Recorded.act {lock : L} (h : Recorded lock s history) (hguarded : s.Guarded)
    (hother : ∀ lock' mode rest, s.program t = .acquire lock' mode :: rest → lock' ≠ lock →
      admits (s.guards lock') mode = true)
    (hact : Threads.Acted perform s t s') :
    Recorded lock s' (history ++ (s.access? t).toList) := by
  -- an action that is no attempt, and one whose attempt comes where it may
  have hquiet : s'.failed = s.failed →
      (s.failed = [] → ∀ lock' mode, s.access? t = some ⟨lock', mode, true⟩ →
        admits (s.guards lock') mode = true) →
      Recorded lock s' (history ++ (s.access? t).toList) := by
    intro hsame hadmits
    refine ⟨fun hnone => (h.balanced (hsame ▸ hnone)).act hguarded hact hsame, ?_⟩
    rw [hsame, h.failed]
    cases haccess : s.access? t with
    | none => simp
    | some a =>
      rw [Option.toList_some, compatible_concat_iff, iff_self_and]
      rintro hcompatible mode rfl
      have hnone := h.failed.2 hcompatible
      exact (admits_iff_closed (h.balanced hnone)).1 (hadmits hnone lock mode haccess)
  cases hact with
  | acquired lock' mode rest hprogram hadmits =>
    refine hquiet rfl fun _ l m haccess => ?_
    rw [Threads.access?, hprogram] at haccess
    obtain ⟨rfl, rfl, -⟩ := Access.mk.inj (Option.some.inj haccess)
    exact hadmits
  | released lock' mode rest hprogram =>
    refine hquiet rfl fun _ l m haccess => ?_
    rw [Threads.access?, hprogram] at haccess
    cases haccess
  | performed update rest data hprogram heffect =>
    refine hquiet rfl fun _ l m haccess => ?_
    rw [Threads.access?, hprogram] at haccess
    cases haccess
  | failed lock' mode rest hprogram hrefused =>
    -- only an attempt at `lock` is refused, and it comes inside an access that excludes it
    have hlock : lock' = lock := by
      by_contra hne
      rw [hother lock' mode rest hprogram hne] at hrefused
      cases hrefused
    subst hlock
    have haccess : s.access? t = some ⟨lock', mode, true⟩ := by
      simp [Threads.access?, hprogram, Action.access?]
    refine ⟨fun hnone => ?_, iff_of_false (List.cons_ne_nil _ _) fun hcompatible => ?_⟩
    · cases hnone
    · rw [haccess, Option.toList_some, compatible_concat_iff] at hcompatible
      have hbalanced := h.balanced (h.failed.2 hcompatible.1)
      rw [(admits_iff_closed hbalanced).2 (hcompatible.2 mode rfl)] at hrefused
      cases hrefused

end History

end SkywalkingAgent.Lib.TryLock
