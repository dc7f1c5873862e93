import SkywalkingAgent.Lib.TryLock
import SkywalkingAgent.Trace.Async

/-!
# The locks of the span stack

The two vectors of a `SpanStack` stand behind read-write locks that nobody waits for: every access
tries its lock, and where the lock is held the `expect` panics with `LOCK_MSG`. Here an access is an
attempt, what is done under the guard, and the release, in steps of their own: the owner of a live
context makes its calls, and every asynchronous span is dropped in a thread of its own.

Between the two vectors, in `finalize_span`, a span is in neither of them. `StackData.restored` puts
it back; `perform_refines` says that the steps under the locks are then steps of `AsyncSystem`, or
no step.
-/

set_option autoImplicit false

namespace SkywalkingAgent.Trace

open SkywalkingAgent.Lib SkywalkingAgent.Lib.TryLock SkywalkingAgent.Common SkywalkingAgent.Proto
open SkywalkingAgent.Propagation SkywalkingAgent.Reporter

/-- The locks of the two vectors of a `SpanStack`. -/
inductive StackLock where
  | finalized
  | active
  deriving DecidableEq, Repr

/-- The owner of the context, and for each asynchronous span the thread that drops it. -/
inductive StackThread where
  | owner
  | asyncSpan (h : Nat)
  deriving DecidableEq, Repr

/-- What a thread does in one piece. -/
inductive Update where
  | call (e : Event)
  | prepareAdd (clock : Clock) (h : Nat)
  | popActive (h : Nat)
  | pushFinalized (clock : Clock)
  | fill (clock : Clock) (h : Nat)
  | done (h : Nat)

/-- What the threads of the locks work on. -/
structure StackData where
  system : AsyncSystem
  /-- The span that the owner has popped and not yet pushed, with its number. -/
  popped : Option (Nat × ActiveSpan)
  /-- The asynchronous spans whose drop has begun. -/
  dropped : List Nat
  deriving DecidableEq, Repr

/-- An action of a thread on the stack. -/
abbrev StackAction := TryLock.Action StackLock Update

/-- The threads of a context with the locks that they hold. -/
abbrev LockSystem := TryLock.Threads StackThread StackLock Update StackData

/-! ## The updates -/

/-- Another active vector. -/
def AsyncSystem.setActive (s : AsyncSystem) (active : List ActiveSpan) : AsyncSystem :=
  let c := s.world.context
  { s with world := s.world.setShared ({ c.spanStack with active := active }, c.wg) }

namespace StackData

/-- `SpanStack::pop_active` of span `h`. -/
def popActive (d : StackData) (h : Nat) : Option StackData :=
  let w := d.system.world
  match d.popped, w.handles[h]? with
  | none, some (.span span) =>
      (w.context.spanStack.popActive span.uid).map fun (activeSpan, stack) => { d with
        system := d.system.setActive stack.active
        popped := some (h, activeSpan) }
  | _, _ => none

/-- The push at the end of `SpanStack::finalize_span`. The `Span` is gone after it, or goes on as
the `AsyncSpan` that `prepare_for_async` returns. -/
def pushFinalized (clock : Clock) (d : StackData) : Option StackData :=
  let w := d.system.world
  match d.popped with
  | some (h, activeSpan) =>
      match w.handles[h]? with
      | some (.span span) =>
          let entry := SpanStack.closedEntry clock activeSpan span.obj
          let stack := w.context.spanStack
          let shared := ({ stack with finalized := stack.finalized ++ [entry] }, w.context.wg)
          let system : AsyncSystem :=
            match d.system.owner with
            | .preparing _ asyncSpan => { d.system with
                world := (w.setHandle h (.asyncSpan asyncSpan)).setShared shared
                owner := .idle }
            | _ => { d.system with world := (w.setHandle h .closed).setShared shared }
          some { d with system := system, popped := none }
      | _ => none
  | none => none

/-- The owner makes its other updates only outside `finalize_span`. -/
def perform (overflowChecks : Bool) : Update → StackData → Option StackData
  | .call e, d =>
      if d.popped = none then
        (d.system.step overflowChecks (.call e)).map fun s => { d with system := s }
      else none
  | .prepareAdd clock h, d =>
      if d.popped = none then
        (d.system.prepareAdd clock h).map fun s => { d with system := s }
      else none
  | .popActive h, d => d.popActive h
  | .pushFinalized clock, d => d.pushFinalized clock
  | .fill clock h, d => (d.system.fill clock h).map fun s => { d with system := s }
  | .done h, d => (d.system.done overflowChecks h).map fun s => { d with system := s }

end StackData

/-! ## The programs -/

/-- One access of a method to a vector. -/
def access (lock : StackLock) (mode : Mode) (body : List StackAction) : List StackAction :=
  .acquire lock mode :: body ++ [.release lock mode]

/-- `SpanStack::finalize_span` of the span `h`, the top of the stack. -/
def finalizeProgram (clock : Clock) (h : Nat) : List StackAction :=
  access .active .write [.perform (.popActive h)] ++
    access .finalized .write [.perform (.pushFinalized clock)]

/-- The accesses of a call of the owner. What they depend on (the top of the stack, the next id) is
changed by the owner alone, so it is known when the call begins. -/
def ownerProgram (overflowChecks : Bool) (d : StackData) (e : Event) : Option (List StackAction) :=
  let w := d.system.world
  let call : StackAction := .perform (.call e)
  let idLeft := (succI32 overflowChecks w.context.nextSpanId).isSome
  -- `peek_active_span_id`
  let peek := access .active .read []
  match e.op with
  | .createEntrySpan _ | .createEntrySpanWithPropagation _ _ =>
      -- the id is drawn before the parent is read
      some (if idLeft then peek ++ access .active .write [call] else [call])
  | .createExitSpan _ _ | .createLocalSpan _ =>
      -- and here after it
      some (peek ++ if w.context.nextSpanId ≠ 0 && idLeft then access .active .write [call]
        else [call])
  | .capture => some (access .active .read [call])
  | .continued snapshot =>
      some (if snapshot.isValid && w.context.tracer.isSome then access .active .write [call]
        else [call])
  | .dropSpan h =>
      match w.handles[h]? with
      | some (.span span) =>
          some (if span.isActiveSpan w.context.spanStack then finalizeProgram e.clock h
            else access .active .write [] ++ [call])
      | _ => none
  | .prepareForAsync h =>
      match w.handles[h]? with
      | some (.span span) =>
          -- otherwise the process aborts
          if span.isActiveSpan w.context.spanStack then
            some (access .active .read [] ++ [.perform (.prepareAdd e.clock h)] ++
              finalizeProgram e.clock h)
          else none
      | _ => none
  | .addTag h _ _ => if h ∈ d.dropped then none else some [call]
  | .addLog h _ => if h ∈ d.dropped then none else some [call]
  | .dropTracer => some [call]
  | .dropAsyncSpan _ => none
  | .dropContext => none

/-- `Drop for AsyncSpan`, with the whole search of `finalize_async_span` under the lock. -/
def dropProgram (clock : Clock) (h : Nat) : List StackAction :=
  access .finalized .write [.perform (.fill clock h)] ++ [.perform (.done h)]

/-- A thread begins a call, or goes on with the one it has begun. -/
inductive LockEvent where
  /-- The owner begins a call. -/
  | call (e : Event)
  /-- The owner begins `last_span`. -/
  | lastSpan
  /-- Some thread begins the drop of an asynchronous span. -/
  | drop (clock : Clock) (h : Nat)
  | act (t : StackThread)

namespace LockSystem

/-- One step of one thread; a call is the program of its actions. -/
def step (overflowChecks : Bool) (s : LockSystem) : LockEvent → Option LockSystem
  | .call e => (ownerProgram overflowChecks s.data e).bind fun program =>
      s.start .owner program s.data
  | .lastSpan => s.start .owner (access .finalized .read []) s.data
  | .drop clock h =>
      if s.data.system.world.isAsync h && !decide (h ∈ s.data.dropped) then
        s.start (.asyncSpan h) (dropProgram clock h)
          { s.data with dropped := h :: s.data.dropped }
      else none
  | .act t => s.act (StackData.perform overflowChecks) t

/-- The access to a lock that an event is. -/
def access? (s : LockSystem) : LockEvent → Option (Access StackLock)
  | .act t => Threads.access? s t
  | _ => none

/-- A fresh context. -/
def init (serviceName instanceName traceId traceSegmentId : String) (tracer : WeakTracer) :
    LockSystem :=
  ⟨⟨.init serviceName instanceName traceId traceSegmentId tracer, none, []⟩, fun _ => [],
    fun _ => [], []⟩

/-- The accesses of a run. -/
def history (overflowChecks : Bool) (s : LockSystem) (events : List LockEvent) :
    List (Access StackLock) :=
  Execution.outputs (step overflowChecks) access? s events

end LockSystem

/-! ## The updates are the steps of `AsyncSystem` -/

/-- Neither half of the search reads the active vector. -/
theorem AsyncSpan.fill_active (clock : Clock) (a : AsyncSpan) (stackAlive : Bool)
    (stack : SpanStack) (active : List ActiveSpan) :
    a.fill clock stackAlive { stack with active := active } =
      (a.fill clock stackAlive stack).mapState fun t => { t with active := active } := by
  unfold AsyncSpan.fill SpanStack.finalizeAsyncSpan
  cases stackAlive with
  | false => rfl
  | true =>
    cases a.obj with
    | none => rfl
    | some obj =>
      simp only [if_true]
      cases SpanStack.fill clock a.uid obj stack.finalized with
      | none => rfl
      | some finalized => rfl

theorem AsyncSpan.fill_panic {clock : Clock} {a : AsyncSpan} {stackAlive : Bool}
    {stack t : SpanStack} {m : String} (h : a.fill clock stackAlive stack = .panic m t) :
    t = stack := by
  unfold AsyncSpan.fill SpanStack.finalizeAsyncSpan at h
  split at h
  · split at h
    · split at h
      · cases h
      · exact (Outcome.panic.inj h).2.symm
    · exact (Outcome.panic.inj h).2.symm
  · exact (Outcome.panic.inj h).2.symm

namespace AsyncSystem

variable {s t : AsyncSystem} {overflowChecks : Bool} {clock : Clock} {h : Nat}

theorem fill_setActive (s : AsyncSystem) (active : List ActiveSpan) :
    (s.setActive active).fill clock h = (s.fill clock h).map fun t => t.setActive active := by
  have hhandles : (s.setActive active).world.handles = s.world.handles := rfl
  have hfill : ∀ a : AsyncSpan, a.fill clock (s.setActive active).world.stackAlive
      (s.setActive active).world.context.spanStack =
        (a.fill clock s.world.stackAlive s.world.context.spanStack).mapState fun t =>
          { t with active := active } :=
    fun a => AsyncSpan.fill_active clock a s.world.stackAlive s.world.context.spanStack active
  cases hh : s.world.handles[h]? with
  | none => simp only [fill, hhandles, hh, Option.map_none]
  | some x =>
    cases x with
    | span span => simp only [fill, hhandles, hh, Option.map_none]
    | closed => simp only [fill, hhandles, hh, Option.map_none]
    | asyncSpan a =>
      simp only [fill, hhandles, hh, hfill]
      cases a.fill clock s.world.stackAlive s.world.context.spanStack with
      | ok u stack => rfl
      | panic m stack => rfl
      | abort m => rfl

theorem done_setActive (s : AsyncSystem) (active : List ActiveSpan) :
    (s.setActive active).done overflowChecks h =
      (s.done overflowChecks h).map fun t => t.setActive active := by
  have hwg : (s.setActive active).world.context.wg = s.world.context.wg := rfl
  by_cases hmem : h ∈ s.ending
  · have hmem' : h ∈ (s.setActive active).ending := hmem
    simp only [done, if_pos hmem, if_pos hmem', hwg]
    cases s.world.context.wg.done overflowChecks with
    | ok u wg => rfl
    | panic m wg => rfl
    | abort m => rfl
  · have hmem' : h ∉ (s.setActive active).ending := hmem
    simp only [done, if_neg hmem, if_neg hmem', Option.map_none]

/-- The end of an asynchronous span is none of the owner's business. -/
theorem fill_keeps (hfill : s.fill clock h = some t) :
    s.world.isAsync h ∧ t.world.handles = s.world.handles.set h .closed ∧ t.owner = s.owner ∧
      t.world.context.spanStack.active = s.world.context.spanStack.active := by
  simp only [fill] at hfill
  split at hfill
  · next a ha =>
    refine ⟨World.isAsync_iff.2 ⟨a, ha⟩, ?_⟩
    split at hfill
    · next stack hok =>
      obtain ⟨-, obj, finalized, -, -, heq⟩ := AsyncSpan.fill_eq_ok_iff.1 hok
      obtain rfl := (Option.some.inj hfill).symm
      refine ⟨rfl, rfl, ?_⟩
      show stack.active = _
      rw [heq]
    · next m stack hpanic =>
      obtain rfl := (Option.some.inj hfill).symm
      exact ⟨rfl, rfl, congrArg SpanStack.active (AsyncSpan.fill_panic hpanic)⟩
    · cases hfill
  · cases hfill

theorem done_keeps (hdone : s.done overflowChecks h = some t) :
    h ∈ s.ending ∧ t.ending = s.ending.erase h ∧ t.world.handles = s.world.handles ∧
      t.owner = s.owner ∧ t.world.context.spanStack = s.world.context.spanStack := by
  simp only [done] at hdone
  split at hdone
  · next hmem =>
    refine ⟨hmem, ?_⟩
    split at hdone
    · obtain rfl := (Option.some.inj hdone).symm
      exact ⟨rfl, rfl, rfl, rfl⟩
    · obtain rfl := (Option.some.inj hdone).symm
      exact ⟨rfl, rfl, rfl, rfl⟩
    · cases hdone
  · cases hdone

end AsyncSystem

namespace StackData

/-- The system without the locks, where a popped span is still on the active vector. -/
def restored (d : StackData) : AsyncSystem :=
  match d.popped with
  | none => d.system
  | some (_, activeSpan) =>
      d.system.setActive (d.system.world.context.spanStack.active ++ [activeSpan])

/-- The step of the system without the locks that an update is. A span closes when it is pushed. -/
def event? (d : StackData) : Update → Option AsyncEvent
  | .call e => some (.call e)
  | .prepareAdd clock h => some (.prepareAdd clock h)
  | .popActive _ => none
  | .pushFinalized clock =>
      match d.system.owner, d.popped with
      | .preparing _ _, _ => some (.preparePush clock)
      | _, some (h, _) => some (.call ⟨clock, .dropSpan h⟩)
      | _, none => none
  | .fill clock h => some (.fill clock h)
  | .done h => some (.done h)

/-- What holds between any two steps. -/
structure Inv (d : StackData) : Prop where
  restored : d.restored.Inv
  popped : ∀ (h : Nat) (activeSpan : ActiveSpan), d.popped = some (h, activeSpan) →
    activeSpan.uid = h ∧ ∃ obj, d.system.world.handles[h]? = some (.span ⟨h, obj⟩)
  owner : d.system.owner = .idle ∨ ∃ h a, d.system.owner = .preparing h a

variable {d d' : StackData} {overflowChecks : Bool} {update : Update}

theorem restored_world (d : StackData) :
    d.restored.world.handles = d.system.world.handles ∧
      d.restored.world.context.spanStack.finalized =
        d.system.world.context.spanStack.finalized ∧
      d.restored.world.context.wg = d.system.world.context.wg ∧
      d.restored.ending = d.system.ending ∧ d.restored.owner = d.system.owner := by
  unfold restored
  cases d.popped with
  | none => exact ⟨rfl, rfl, rfl, rfl, rfl⟩
  | some p => exact ⟨rfl, rfl, rfl, rfl, rfl⟩

theorem popActive_refines {h : Nat} (hpop : d.popActive h = some d') :
    d'.restored = d.restored ∧ d.popped = none ∧ d'.system.owner = d.system.owner ∧
      d'.system.world.handles = d.system.world.handles ∧
      ∃ span a, d.system.world.handles[h]? = some (.span span) ∧
        d'.popped = some (h, a) ∧ a.uid = span.uid := by
  simp only [popActive] at hpop
  split at hpop
  · next span hnone hspan =>
    obtain ⟨⟨a, stack⟩, htop, rfl⟩ := Option.map_eq_some_iff.1 hpop
    obtain ⟨hactive, hauid, -⟩ := SpanStack.popActive_eq_some_iff.1 htop
    refine ⟨?_, hnone, rfl, rfl, span, a, hspan, rfl, hauid⟩
    simp only [restored, hnone]
    show (d.system.setActive stack.active).setActive (stack.active ++ [a]) = d.system
    rw [← hactive]
    rfl
  · cases hpop

/-- The push is the drop of the span, or the second half of `prepare_for_async`. -/
theorem pushFinalized_refines (hd : d.Inv) {clock : Clock}
    (hpush : d.pushFinalized clock = some d') :
    (∃ e, d.event? (.pushFinalized clock) = some e ∧
      d.restored.step overflowChecks e = some d'.restored) ∧
      d'.popped = none ∧ d'.system.owner = .idle := by
  simp only [pushFinalized] at hpush
  split at hpush
  · next h a hpopped =>
    obtain ⟨hauid, obj, hspan⟩ := hd.popped h a hpopped
    simp only [hspan, Option.some.injEq] at hpush
    have hrestored : d.restored =
        d.system.setActive (d.system.world.context.spanStack.active ++ [a]) := by
      simp only [restored, hpopped]
    have hhandle : d.restored.world.handles[h]? = some (.span ⟨h, obj⟩) := by
      rw [hrestored]
      exact hspan
    -- the closing of the span on the restored stack
    have hdrop : Span.drop clock ⟨h, obj⟩ d.restored.world.context.spanStack =
        .ok () ⟨d.system.world.context.spanStack.finalized ++ [SpanStack.closedEntry clock a obj],
          d.system.world.context.spanStack.active⟩ := by
      rw [hrestored]
      exact SpanStack.finalizeSpan_eq_ok_iff.2
        ⟨d.system.world.context.spanStack.active, a, rfl, hauid, rfl⟩
    rcases hd.owner with hidle | ⟨h', asyncSpan, hpreparing⟩
    · simp only [hidle] at hpush
      subst hpush
      refine ⟨⟨.call ⟨clock, .dropSpan h⟩, by simp only [event?, hidle, hpopped], ?_⟩, rfl, rfl⟩
      have hcall : d.restored.world.after overflowChecks ⟨clock, .dropSpan h⟩ =
          some ((d.restored.world.setHandle h .closed).setShared
            (⟨d.system.world.context.spanStack.finalized ++ [SpanStack.closedEntry clock a obj],
              d.system.world.context.spanStack.active⟩, d.restored.world.context.wg)) := by
        refine World.after_eq_some_iff.2 ⟨_, ?_, Or.inl rfl⟩
        simp only [World.call, World.dropSpan, hhandle, hdrop, Outcome.mapState]
      have howner : d.restored.owner = .idle ∧ (Op.dropSpan h).isOwnerCall := by
        rw [hrestored]
        exact ⟨hidle, rfl⟩
      simp only [AsyncSystem.step, hcall, Option.map_some, howner.1]
      rw [hrestored]
      rfl
    · -- the span inside `prepare_for_async` is the top of the restored stack
      have hh : h' = h := by
        obtain ⟨-, -, -, u, top, hu, htop⟩ := hd.restored.preparing h' asyncSpan (by
          rw [hrestored]
          exact hpreparing)
        rw [hrestored] at hu
        obtain ⟨-, rfl⟩ := List.append_singleton_inj.1 hu
        exact htop.symm.trans hauid
      subst hh
      simp only [hpreparing] at hpush
      subst hpush
      refine ⟨⟨.preparePush clock, by simp only [event?, hpreparing], ?_⟩, rfl, rfl⟩
      have howner : d.restored.owner = .preparing h' asyncSpan := by
        rw [hrestored]
        exact hpreparing
      simp only [AsyncSystem.step, AsyncSystem.preparePush, howner, hhandle, hdrop]
      rw [hrestored]
      rfl
  · cases hpush

/-- An update is the step of the system without the locks that `event?` names, or leaves that system
as it is. -/
theorem perform_refines (hd : d.Inv) (hperform : perform overflowChecks update d = some d') :
    match d.event? update with
    | some e => d.restored.step overflowChecks e = some d'.restored
    | none => d'.restored = d.restored := by
  cases update with
  | call e =>
    simp only [perform] at hperform
    split at hperform
    · next hnone =>
      obtain ⟨s, hs, rfl⟩ := Option.map_eq_some_iff.1 hperform
      simpa only [event?, restored, hnone] using hs
    · cases hperform
  | prepareAdd clock h =>
    simp only [perform] at hperform
    split at hperform
    · next hnone =>
      obtain ⟨s, hs, rfl⟩ := Option.map_eq_some_iff.1 hperform
      simpa only [event?, restored, hnone, AsyncSystem.step] using hs
    · cases hperform
  | popActive h =>
    -- the span is in neither vector, and is put back
    exact (popActive_refines hperform).1
  | pushFinalized clock =>
    obtain ⟨⟨e, he, hstep⟩, -⟩ := @pushFinalized_refines d d' overflowChecks hd clock hperform
    rw [he]
    exact hstep
  | fill clock h =>
    obtain ⟨s, hs, rfl⟩ := Option.map_eq_some_iff.1 hperform
    show d.restored.fill clock h = some _
    cases hpopped : d.popped with
    | none => simpa only [restored, hpopped] using hs
    | some p =>
      -- a drop between the owner's two accesses
      simp only [restored, hpopped, AsyncSystem.fill_setActive, hs, Option.map_some,
        (AsyncSystem.fill_keeps hs).2.2.2]
  | done h =>
    obtain ⟨s, hs, rfl⟩ := Option.map_eq_some_iff.1 hperform
    show d.restored.done overflowChecks h = some _
    cases hpopped : d.popped with
    | none => simpa only [restored, hpopped] using hs
    | some p =>
      simp only [restored, hpopped, AsyncSystem.done_setActive, hs, Option.map_some,
        (AsyncSystem.done_keeps hs).2.2.2.2]

theorem init_inv (serviceName instanceName traceId traceSegmentId : String)
    (tracer : WeakTracer) :
    (LockSystem.init serviceName instanceName traceId traceSegmentId tracer).data.Inv where
  restored := AsyncSystem.inv_init serviceName instanceName traceId traceSegmentId tracer
  popped h activeSpan hpopped := by cases hpopped
  owner := Or.inl rfl

/-- Every update keeps the invariant. -/
theorem Inv.perform (hd : d.Inv) (hperform : perform overflowChecks update d = some d') :
    d'.Inv := by
  have hrestored : d'.restored.Inv := by
    have hrefines := perform_refines hd hperform
    cases hevent : d.event? update with
    | none =>
      rw [hevent] at hrefines
      rw [hrefines]
      exact hd.restored
    | some e =>
      rw [hevent] at hrefines
      exact AsyncSystem.inv_step hd.restored hrefines
  cases update with
  | call e =>
    simp only [StackData.perform] at hperform
    split at hperform
    · next hnone =>
      obtain ⟨s, hs, rfl⟩ := Option.map_eq_some_iff.1 hperform
      refine ⟨hrestored, fun h a hpopped => ?_, ?_⟩
      · rw [hnone] at hpopped
        cases hpopped
      · simp only [AsyncSystem.step] at hs
        split at hs
        · next howner =>
          obtain ⟨w, -, rfl⟩ := Option.map_eq_some_iff.1 hs
          exact Or.inl howner.1
        · cases hs
    · cases hperform
  | prepareAdd clock h =>
    simp only [StackData.perform] at hperform
    split at hperform
    · next hnone =>
      obtain ⟨s, hs, rfl⟩ := Option.map_eq_some_iff.1 hperform
      refine ⟨hrestored, fun h a hpopped => ?_, ?_⟩
      · rw [hnone] at hpopped
        cases hpopped
      · simp only [AsyncSystem.prepareAdd] at hs
        split at hs
        · next span hidle hspan =>
          split at hs
          · obtain rfl := (Option.some.inj hs).symm
            exact Or.inr ⟨_, _, rfl⟩
          · split at hs
            · obtain rfl := (Option.some.inj hs).symm
              exact Or.inl hidle
            · cases hs
            · cases hs
        · cases hs
    · cases hperform
  | popActive h =>
    obtain ⟨-, -, howner, hhandles, span, a, hspan, hpopped, hauid⟩ := popActive_refines hperform
    -- the popped span is the span of the handle
    have hsound := hd.restored.sound.handle h (.span span) (by
      rw [(d.restored_world).1]
      exact hspan)
    obtain ⟨uid, obj⟩ := span
    obtain rfl : uid = h := hsound.1
    refine ⟨hrestored, fun h' a' hpopped' => ?_, ?_⟩
    · rw [hpopped] at hpopped'
      obtain ⟨rfl, rfl⟩ := Prod.mk.inj (Option.some.inj hpopped')
      exact ⟨hauid, obj, by rw [hhandles]; exact hspan⟩
    · rw [howner]
      exact hd.owner
  | pushFinalized clock =>
    obtain ⟨-, hnone, hidle⟩ := @pushFinalized_refines d d' overflowChecks hd clock hperform
    refine ⟨hrestored, fun h a hpopped => ?_, Or.inl hidle⟩
    rw [hnone] at hpopped
    cases hpopped
  | fill clock h =>
    obtain ⟨s, hs, rfl⟩ := Option.map_eq_some_iff.1 hperform
    obtain ⟨hasync, hhandles, howner, -⟩ := AsyncSystem.fill_keeps hs
    refine ⟨hrestored, fun h' a hpopped => ?_, ?_⟩
    · obtain ⟨hauid, obj, hspan⟩ := hd.popped h' a hpopped
      -- the popped span still has its `Span`
      have hne : h ≠ h' := by
        rintro rfl
        obtain ⟨b, hb⟩ := World.isAsync_iff.1 hasync
        rw [hb] at hspan
        cases hspan
      exact ⟨hauid, obj, by rw [hhandles, List.getElem?_set_ne hne]; exact hspan⟩
    · rw [howner]
      exact hd.owner
  | done h =>
    obtain ⟨s, hs, rfl⟩ := Option.map_eq_some_iff.1 hperform
    obtain ⟨-, -, hhandles, howner, -⟩ := AsyncSystem.done_keeps hs
    refine ⟨hrestored, fun h' a hpopped => ?_, ?_⟩
    · rw [hhandles]
      exact hd.popped h' a hpopped
    · rw [howner]
      exact hd.owner

end StackData

end SkywalkingAgent.Trace
