import SkywalkingAgent.Trace.Async

/-!
# Calls that overlap

`prepare_for_async` and the drop of an `AsyncSpan` are not made in one piece: other threads see the
wait group and the placeholders between their halves. To the rest of the program they have one
moment all the same: `prepare_for_async` takes place when it pushes its placeholder, and the drop
when it fills the placeholder. `AsyncSystem.run_serial` says that every interleaving is the run of
one thread that makes the whole calls at these moments, so what is proved of the runs of
`World.after` holds of a context that is used from many threads, as long as no thread asks for a
lock of the span stack while another one holds it. A `try_read` or `try_write` that does panics,
which is no step here; `Trace.Contention` says when it happens.
-/

set_option autoImplicit false

namespace SkywalkingAgent.Trace

open SkywalkingAgent.Lib SkywalkingAgent.Common SkywalkingAgent.Proto
open SkywalkingAgent.Propagation SkywalkingAgent.Reporter

/-! ## The wait group and the other calls -/

/-- The context with another count in its wait group. -/
def TracingContext.counted (self : TracingContext) (n : Nat) : TracingContext :=
  { self with wg := ⟨n⟩ }

namespace TracingContext

variable {overflowChecks : Bool} {clock : Clock} {operationName remotePeer : String}
  {spanType : SpanType} {spanLayer : SpanLayer} {parentSpanId : Int}

theorem openSpan_counted (self : TracingContext) (n : Nat) :
    (self.counted n).openSpan overflowChecks clock parentSpanId operationName remotePeer spanType
        spanLayer =
      (self.openSpan overflowChecks clock parentSpanId operationName remotePeer spanType
        spanLayer).mapState fun c => c.counted n := by
  have hnext : (self.counted n).nextSpanId = self.nextSpanId := rfl
  unfold openSpan incNextSpanId
  rw [hnext]
  cases succI32 overflowChecks self.nextSpanId with
  | none => rfl
  | some next => rfl

theorem createCommonSpan_counted (self : TracingContext) (n : Nat) :
    (self.counted n).createCommonSpan overflowChecks clock operationName remotePeer spanType
        parentSpanId =
      (self.createCommonSpan overflowChecks clock operationName remotePeer spanType
        parentSpanId).mapState fun c => c.counted n := by
  have hnext : (self.counted n).nextSpanId = self.nextSpanId := rfl
  rw [createCommonSpan, createCommonSpan, hnext]
  by_cases hzero : self.nextSpanId = 0
  · rw [if_pos hzero, if_pos hzero]
    rfl
  · rw [if_neg hzero, if_neg hzero]
    exact self.openSpan_counted n

theorem createEntrySpanWithPropagation_counted (self : TracingContext) (n : Nat)
    (propagation : PropagationContext) :
    (self.counted n).createEntrySpanWithPropagation overflowChecks clock operationName
        propagation =
      (self.createEntrySpanWithPropagation overflowChecks clock operationName
        propagation).mapState fun c => c.counted n := by
  have hentry : (self.counted n).createEntrySpan overflowChecks clock operationName =
      (self.createEntrySpan overflowChecks clock operationName).mapState fun c => c.counted n :=
    self.openSpan_counted n
  rw [createEntrySpanWithPropagation, createEntrySpanWithPropagation, hentry]
  cases self.createEntrySpan overflowChecks clock operationName with
  | ok span c =>
    obtain ⟨uid, obj⟩ := span
    cases obj with
    | none => rfl
    | some obj => rfl
  | panic m c => rfl
  | abort m => rfl

theorem continued_counted (self : TracingContext) (n : Nat) (snapshot : ContextSnapshot) :
    (self.counted n).continued snapshot =
      (self.continued snapshot).mapState fun c => c.counted n := by
  cases hvalid : snapshot.isValid with
  | false =>
    rw [continued_of_not_valid hvalid, continued_of_not_valid hvalid]
    rfl
  | true =>
    cases htracer : self.tracer with
    | none =>
      have htracer' : (self.counted n).tracer = none := htracer
      rw [continued_of_dropped hvalid htracer, continued_of_dropped hvalid htracer']
      rfl
    | some tracer =>
      have htracer' : (self.counted n).tracer = some tracer := htracer
      rw [continued_of_tracer hvalid htracer, continued_of_tracer hvalid htracer']
      rfl

end TracingContext

namespace World

variable {overflowChecks : Bool} {w : World} {e : Event} {n : Nat}

/-- The world with another count in the wait group of its context. -/
def counted (w : World) (n : Nat) : World := { w with context := w.context.counted n }

theorem create_counted (w : World) (n : Nat) (o : Outcome TracingContext Span) :
    (w.counted n).create (o.mapState fun c => c.counted n) =
      (w.create o).mapState fun v => v.counted n := by
  cases o with
  | ok span c => rfl
  | panic m c => rfl
  | abort m => rfl

theorem modifyObject_counted (w : World) (n k : Nat) (f : SpanObject → SpanObject) :
    (w.counted n).modifyObject k f =
      (w.modifyObject k f).map fun o => o.mapState fun v => v.counted n := by
  have hhandles : (w.counted n).handles = w.handles := rfl
  rw [modifyObject, modifyObject, hhandles]
  cases w.handles[k]? with
  | none => rfl
  | some x =>
    cases x with
    | span s =>
      obtain ⟨uid, obj⟩ := s
      cases obj with
      | none => rfl
      | some obj => rfl
    | asyncSpan a =>
      obtain ⟨uid, obj⟩ := a
      cases obj with
      | none => rfl
      | some obj => rfl
    | closed => rfl

/-- No call of the owner looks at the wait group. -/
theorem call_counted (hop : e.op.isOwnerCall) :
    (w.counted n).call overflowChecks e =
      (w.call overflowChecks e).map fun o => o.mapState fun v => v.counted n := by
  have halive : (w.counted n).contextAlive = w.contextAlive := rfl
  obtain ⟨clock, op⟩ := e
  cases op with
  | createEntrySpan operationName =>
    simp only [call, callContext, halive]
    split
    · exact congrArg some ((congrArg _ (w.context.openSpan_counted n)).trans
        (create_counted w n _))
    · rfl
  | createEntrySpanWithPropagation operationName propagation =>
    simp only [call, callContext, halive]
    split
    · exact congrArg some
        ((congrArg _ (w.context.createEntrySpanWithPropagation_counted n propagation)).trans
          (create_counted w n _))
    · rfl
  | createExitSpan operationName remotePeer =>
    simp only [call, callContext, halive]
    split
    · exact congrArg some ((congrArg _ (w.context.createCommonSpan_counted n)).trans
        (create_counted w n _))
    · rfl
  | createLocalSpan operationName =>
    simp only [call, callContext, halive]
    split
    · exact congrArg some ((congrArg _ (w.context.createCommonSpan_counted n)).trans
        (create_counted w n _))
    · rfl
  | addTag k key value => exact w.modifyObject_counted n k _
  | addLog k message => exact w.modifyObject_counted n k _
  | dropSpan k =>
    have hhandles : (w.counted n).handles = w.handles := rfl
    simp only [call, dropSpan, hhandles]
    cases w.handles[k]? with
    | none => rfl
    | some x =>
      cases x with
      | span s =>
        have hdrop : s.drop clock (w.counted n).context.spanStack =
            s.drop clock w.context.spanStack := rfl
        simp only [hdrop, Option.map_some]
        cases s.drop clock w.context.spanStack with
        | ok u stack => rfl
        | panic m stack => rfl
        | abort m => rfl
      | asyncSpan a => rfl
      | closed => rfl
  | capture =>
    simp only [call, callContext, halive]
    split
    · rfl
    · rfl
  | continued snapshot =>
    have hcontinued : (w.counted n).context.continued snapshot =
        (w.context.continued snapshot).mapState fun c => c.counted n :=
      w.context.continued_counted n snapshot
    simp only [call, callContext, halive]
    split
    · rw [hcontinued]
      cases w.context.continued snapshot with
      | ok u c => rfl
      | panic m c => rfl
      | abort m => rfl
    · rfl
  | dropTracer => rfl
  | _ => cases hop

/-- What is left behind where the outcomes agree. -/
theorem after_of_call {v : World} {f : World → World}
    (h : v.call overflowChecks e = (w.call overflowChecks e).map fun o => o.mapState f) :
    v.after overflowChecks e = (w.after overflowChecks e).map f := by
  rw [after, after, h]
  cases w.call overflowChecks e with
  | none => rfl
  | some o =>
    cases o with
    | ok u v => rfl
    | panic m v => rfl
    | abort m => rfl

/-- A call through one handle does not look at another one. -/
theorem modifyObject_setHandle {h k : Nat} (hne : k ≠ h) (x : Handle)
    (f : SpanObject → SpanObject) :
    (w.setHandle h x).modifyObject k f =
      (w.modifyObject k f).map fun o => o.mapState fun v => v.setHandle h x := by
  have hother : (w.setHandle h x).handles[k]? = w.handles[k]? := setHandle_other k hne
  have hcomm : ∀ y, (w.setHandle h x).setHandle k y = (w.setHandle k y).setHandle h x := by
    intro y
    simp only [setHandle, List.set_comm _ _ hne.symm]
  rw [modifyObject, modifyObject, hother]
  cases w.handles[k]? with
  | none => rfl
  | some y =>
    cases y with
    | span s =>
      obtain ⟨uid, obj⟩ := s
      cases obj with
      | none => simp [Span.modifyObject, Outcome.mapState, hcomm]
      | some obj => simp [Span.modifyObject, Outcome.mapState, hcomm]
    | asyncSpan a =>
      obtain ⟨uid, obj⟩ := a
      cases obj with
      | none => simp [AsyncSpan.modifyObject, Outcome.mapState, hcomm]
      | some obj => simp [AsyncSpan.modifyObject, Outcome.mapState, hcomm]
    | closed => rfl

/-- A call in another thread does not look at the handle of a `Span`. -/
theorem call_setHandle {h : Nat} (hop : e.op.isElsewhere w) (hspan : w.isAsync h = false)
    (x : Handle) :
    (w.setHandle h x).call overflowChecks e =
      (w.call overflowChecks e).map fun o => o.mapState fun v => v.setHandle h x := by
  have hne : ∀ k, w.isAsync k = true → k ≠ h := by
    rintro k hk rfl
    rw [hspan] at hk
    cases hk
  obtain ⟨clock, op⟩ := e
  cases op with
  | addTag k key value => exact modifyObject_setHandle (hne k hop) x _
  | addLog k message => exact modifyObject_setHandle (hne k hop) x _
  | dropTracer => rfl
  | _ => cases hop

end World

namespace AsyncSystem

/-! ## The calls in one piece -/

/-- The world in which every call is made in one piece: a span inside `prepare_for_async` still has
its handle, and a span that is filled is counted out. -/
def atomic (s : AsyncSystem) : World :=
  match s.owner with
  | .preparing h asyncSpan =>
      (s.world.setHandle h (.span ⟨asyncSpan.uid, asyncSpan.obj⟩)).counted
        s.world.context.spanStack.unfilled
  | _ => s.world.counted s.world.context.spanStack.unfilled

/-- The call that takes place with a step. -/
def commit? (s : AsyncSystem) : AsyncEvent → Option Event
  | .call e => some e
  | .elsewhere e => some e
  | .preparePush clock =>
      match s.owner with
      | .preparing h _ => some ⟨clock, .prepareForAsync h⟩
      | _ => none
  | .fill clock h => some ⟨clock, .dropAsyncSpan h⟩
  | _ => none

/-- The calls of a run, in the order in which they take place. -/
def commits (overflowChecks : Bool) (s : AsyncSystem) (es : List AsyncEvent) : List Event :=
  Execution.outputs (step overflowChecks) commit? s es

variable {s t : AsyncSystem} {overflowChecks : Bool}

theorem atomic_of_busy_none (h : s.busy = none) :
    s.atomic = s.world.counted s.world.context.spanStack.unfilled := by
  obtain ⟨w, owner, ending⟩ := s
  cases owner with
  | idle => rfl
  | preparing k a => cases h
  | waiting => rfl
  | released => rfl

theorem atomic_of_preparing {h : Nat} {a : AsyncSpan} (hpreparing : s.owner = .preparing h a) :
    s.atomic = (s.world.setHandle h (.span ⟨a.uid, a.obj⟩)).counted
      s.world.context.spanStack.unfilled := by
  rw [atomic, hpreparing]

theorem atomic_wg (s : AsyncSystem) :
    s.atomic.context.wg = ⟨s.world.context.spanStack.unfilled⟩ := by
  obtain ⟨w, owner, ending⟩ := s
  cases owner with
  | idle => rfl
  | preparing k a => rfl
  | waiting => rfl
  | released => rfl

theorem exists_preparing (h : s.busy ≠ none) : ∃ k a, s.owner = .preparing k a := by
  cases howner : s.owner with
  | preparing k a => exact ⟨k, a, rfl⟩
  | _ => exact absurd (by rw [busy, howner]) h

theorem isOwnerCall_of_isElsewhere {w : World} {op : Op} (h : op.isElsewhere w) :
    op.isOwnerCall := by
  cases op with
  | addTag => rfl
  | addLog => rfl
  | dropTracer => rfl
  | _ => cases h

/-- A call that is made in one piece has the same outcome. -/
theorem Inv.call_atomic (overflowChecks : Bool) (hs : s.Inv) {e : Event}
    (hop : s.owner = .idle ∧ e.op.isOwnerCall ∨ e.op.isElsewhere s.world) :
    ∃ f, (∀ w, s.world.after overflowChecks e = some w → f w = { s with world := w }.atomic) ∧
      s.atomic.call overflowChecks e =
        (s.world.call overflowChecks e).map fun o => o.mapState f := by
  have howner : e.op.isOwnerCall := by
    rcases hop with ⟨-, hop⟩ | hop
    · exact hop
    · exact isOwnerCall_of_isElsewhere hop
  have hkept : ∀ w, s.world.after overflowChecks e = some w →
      w.context.spanStack.unfilled = s.world.context.spanStack.unfilled := by
    intro w hw
    rcases hop with ⟨hidle, -⟩ | helsewhere
    · have hsound : s.world.Sound none := by simpa [busy, hidle] using hs.sound
      exact (World.sound_call hsound howner hw).2.1
    · rw [(World.sound_elsewhere hs.sound helsewhere hw).2.1]
  by_cases hbusy : s.busy = none
  · refine ⟨fun w => w.counted s.world.context.spanStack.unfilled, ?_, ?_⟩
    · intro w hw
      have hbusy' : busy { s with world := w } = none := hbusy
      rw [atomic_of_busy_none hbusy', hkept w hw]
    · rw [atomic_of_busy_none hbusy]
      exact World.call_counted howner
  · -- the span inside `prepare_for_async` is none of the other threads' business
    obtain ⟨h, a, hpreparing⟩ := exists_preparing hbusy
    obtain ⟨-, -, hspan, -⟩ := hs.preparing h a hpreparing
    have hasync : s.world.isAsync h = false := by simp [World.isAsync, hspan]
    have helsewhere : e.op.isElsewhere s.world := by
      rcases hop with ⟨hidle, -⟩ | helsewhere
      · rw [hidle] at hpreparing
        cases hpreparing
      · exact helsewhere
    refine ⟨fun w => (w.setHandle h (.span ⟨a.uid, a.obj⟩)).counted
      s.world.context.spanStack.unfilled, ?_, ?_⟩
    · intro w hw
      have hpreparing' : owner { s with world := w } = .preparing h a := hpreparing
      rw [atomic_of_preparing hpreparing', hkept w hw]
    · rw [atomic_of_preparing hpreparing, World.call_counted howner,
        World.call_setHandle helsewhere hasync]
      cases s.world.call overflowChecks e with
      | none => rfl
      | some o =>
        cases o with
        | ok u w => rfl
        | panic m w => rfl
        | abort m => rfl

/-- Counting in takes nothing from the program of whole calls. -/
theorem atomic_prepareAdd {clock : Clock} {h : Nat}
    (hstep : s.prepareAdd clock h = some t) : t.atomic = s.atomic := by
  simp only [prepareAdd] at hstep
  split at hstep
  · next span hidle hspan =>
    split at hstep
    · next hactive =>
      obtain rfl := (Option.some.inj hstep).symm
      have hback : (s.world.handles.set h (.span { span with obj := none })).set h (.span span) =
          s.world.handles := by
        obtain ⟨hlt, heq⟩ := List.getElem?_eq_some_iff.1 hspan
        rw [List.set_set, ← heq, List.set_getElem_self hlt]
      rw [atomic_of_preparing rfl, atomic_of_busy_none (by simp [busy, hidle])]
      simp only [World.setHandle, World.setShared, hback]
      rfl
    · next hactive =>
      split at hstep
      · next hdrop =>
        obtain ⟨u, top, hu, htop, -⟩ := SpanStack.finalizeSpan_eq_ok_iff.1 hdrop
        exact absurd (Span.isActiveSpan_iff.2 ⟨u, top, hu, htop⟩) hactive
      · cases hstep
      · cases hstep
  · cases hstep

/-- A `prepare_for_async` in one piece. -/
theorem World.after_prepareForAsync {v : World} {clock : Clock} {h : Nat} {span : Span}
    {a : AsyncSpan} {shared : SpanStack × WaitGroup} (hspan : v.handles[h]? = some (.span span))
    (hprepare : span.prepareForAsync clock v.context.spanStack v.context.wg = .ok a shared) :
    v.after overflowChecks ⟨clock, .prepareForAsync h⟩ =
      some ((v.setHandle h (.asyncSpan a)).setShared shared) := by
  have hcall : v.call overflowChecks ⟨clock, .prepareForAsync h⟩ =
      some (.ok () ((v.setHandle h (.asyncSpan a)).setShared shared)) := by
    simp only [World.call, World.prepareForAsync, hspan, hprepare]
  exact World.after_eq_some_iff.2 ⟨_, hcall, Or.inl rfl⟩

/-- `prepare_for_async` takes place with its second half. -/
theorem after_preparePush (overflowChecks : Bool) (hs : s.Inv) {clock : Clock}
    (hstep : s.preparePush clock = some t) :
    ∃ h a, s.owner = .preparing h a ∧
      s.atomic.after overflowChecks ⟨clock, .prepareForAsync h⟩ = some t.atomic := by
  simp only [preparePush] at hstep
  split at hstep
  · next h a hpreparing =>
    obtain ⟨huid, -, hspan, -⟩ := hs.preparing h a hpreparing
    rw [hspan] at hstep
    simp only at hstep
    split at hstep
    · next stack hdrop =>
      obtain rfl := (Option.some.inj hstep).symm
      refine ⟨h, a, hpreparing, ?_⟩
      have hlt := (List.getElem?_eq_some_iff.1 hspan).1
      have hself : s.atomic.handles[h]? = some (.span ⟨a.uid, a.obj⟩) := by
        rw [atomic_of_preparing hpreparing]
        exact List.getElem?_set_self hlt
      have hprepare : Span.prepareForAsync clock ⟨a.uid, a.obj⟩ s.atomic.context.spanStack
          s.atomic.context.wg = .ok a (stack, ⟨s.world.context.spanStack.unfilled + 1⟩) := by
        obtain ⟨u, top, hu, htop, hstack⟩ := SpanStack.finalizeSpan_eq_ok_iff.1 hdrop
        rw [atomic_of_preparing hpreparing]
        refine Span.prepareForAsync_eq_ok_iff.2 ⟨rfl, u, top, hu, htop.trans huid.symm, ?_⟩
        rw [hstack, SpanStack.closedEntry, htop, huid]
        rfl
      have hunfilled := (World.uids_close hdrop).2.1
      rw [World.after_prepareForAsync hself hprepare, atomic_of_preparing hpreparing,
        atomic_of_busy_none rfl]
      have hset : (s.world.handles.set h (.span ⟨a.uid, a.obj⟩)).set h (.asyncSpan a) =
          s.world.handles.set h (.asyncSpan a) := List.set_set _
      simp only [World.setHandle, World.setShared, World.counted, TracingContext.counted, hset,
        hunfilled]
      rfl
    · cases hstep
    · cases hstep
  · cases hstep

/-- The drop of an `AsyncSpan` in one piece. -/
theorem World.after_dropAsyncSpan {v : World} {clock : Clock} {h n : Nat} {a : AsyncSpan}
    {stack : SpanStack} (hasync : v.handles[h]? = some (.asyncSpan a))
    (hfill : a.fill clock v.stackAlive v.context.spanStack = .ok () stack)
    (hcount : v.context.wg = ⟨n + 1⟩) :
    v.after overflowChecks ⟨clock, .dropAsyncSpan h⟩ =
      some ((v.setHandle h .closed).setShared (stack, ⟨n⟩)) := by
  have hdrop : a.drop overflowChecks clock v.stackAlive v.context.spanStack v.context.wg =
      .ok () (stack, ⟨n⟩) := by
    refine AsyncSpan.drop_eq_ok_iff.2 ⟨hfill, ?_⟩
    rw [hcount]
    rfl
  have hcall : v.call overflowChecks ⟨clock, .dropAsyncSpan h⟩ =
      some (.ok () ((v.setHandle h .closed).setShared (stack, ⟨n⟩))) := by
    simp only [World.call, World.dropAsyncSpan, hasync, hdrop]
    rfl
  exact World.after_eq_some_iff.2 ⟨_, hcall, Or.inl rfl⟩

/-- The drop of an `AsyncSpan` takes place with its first half. -/
theorem after_fill (hs : s.Inv) {clock : Clock} {h : Nat} (hstep : s.fill clock h = some t) :
    s.atomic.after overflowChecks ⟨clock, .dropAsyncSpan h⟩ = some t.atomic := by
  simp only [fill] at hstep
  split at hstep
  · next a ha =>
    have hfilled : ∃ stack,
        a.fill clock s.world.stackAlive s.world.context.spanStack = .ok () stack ∧
        s.world.context.spanStack.unfilled = stack.unfilled + 1 := by
      obtain ⟨fs, hfill, -, hcount, -⟩ := hs.fill_ok clock ha
      exact ⟨_, hfill, hcount⟩
    obtain ⟨stack, hfill, hcount⟩ := hfilled
    rw [hfill] at hstep
    have ht := Option.some.inj hstep
    have hwg : s.atomic.context.wg = ⟨stack.unfilled + 1⟩ :=
      (atomic_wg s).trans (congrArg WaitGroup.mk hcount)
    by_cases hbusy : s.busy = none
    · have hbusy' : t.busy = none := by
        rw [← ht]
        exact hbusy
      rw [atomic_of_busy_none hbusy] at hwg ⊢
      rw [atomic_of_busy_none hbusy', ← ht]
      exact World.after_dropAsyncSpan
        (v := s.world.counted s.world.context.spanStack.unfilled) ha hfill hwg
    · obtain ⟨k, b, hpreparing⟩ := exists_preparing hbusy
      obtain ⟨-, -, hspan, -⟩ := hs.preparing k b hpreparing
      have hpreparing' : t.owner = .preparing k b := by
        rw [← ht]
        exact hpreparing
      have hne : h ≠ k := by
        rintro rfl
        rw [ha] at hspan
        cases hspan
      rw [atomic_of_preparing hpreparing] at hwg ⊢
      have hother : (s.world.setHandle k (.span ⟨b.uid, b.obj⟩)).handles[h]? =
          some (.asyncSpan a) := (World.setHandle_other h hne).trans ha
      have halive : ∀ n, ((s.world.setHandle k (.span ⟨b.uid, b.obj⟩)).counted n).stackAlive =
          s.world.stackAlive := by
        intro n
        have hcontext := hs.sound.alive
        simp [World.stackAlive, World.counted, World.setHandle, hcontext]
      rw [← halive s.world.context.spanStack.unfilled] at hfill
      have hcomm : (s.world.handles.set k (.span ⟨b.uid, b.obj⟩)).set h .closed =
          (s.world.handles.set h .closed).set k (.span ⟨b.uid, b.obj⟩) :=
        List.set_comm _ _ hne.symm
      rw [World.after_dropAsyncSpan (v := (s.world.setHandle k (.span ⟨b.uid, b.obj⟩)).counted
        s.world.context.spanStack.unfilled) hother hfill hwg, atomic_of_preparing hpreparing', ← ht]
      simp only [World.setHandle, World.setShared, World.counted, TracingContext.counted, hcomm]
  · cases hstep

/-- Counting out takes nothing from the program of whole calls. -/
theorem atomic_done {h : Nat} (hstep : s.done overflowChecks h = some t) :
    t.atomic = s.atomic := by
  have hkept : ∀ wg ending, atomic { s with
      world := s.world.setShared (s.world.context.spanStack, wg)
      ending := ending } = s.atomic := by
    intro wg ending
    obtain ⟨w, owner, ending'⟩ := s
    cases owner with
    | idle => rfl
    | preparing k b => rfl
    | waiting => rfl
    | released => rfl
  simp only [done] at hstep
  split at hstep
  · split at hstep
    · obtain rfl := (Option.some.inj hstep).symm
      exact hkept _ _
    · obtain rfl := (Option.some.inj hstep).symm
      exact hkept _ _
    · cases hstep
  · cases hstep

/-- A step makes the call that it commits, or leaves the world between the calls as it is. -/
theorem step_commits (hs : s.Inv) {e : AsyncEvent} (hstep : s.step overflowChecks e = some t) :
    Execution.run (World.after overflowChecks) s.atomic (s.commit? e).toList = some t.atomic := by
  have hone : ∀ {e : Event} {w : World}, s.atomic.after overflowChecks e = some w →
      Execution.run (World.after overflowChecks) s.atomic [e] = some w := by
    intro e w h
    exact Execution.run_cons_iff.2 ⟨w, h, rfl⟩
  cases e with
  | call e =>
    change (if _ then _ else _) = _ at hstep
    rw [Option.ite_none_right_eq_some, Option.map_eq_some_iff] at hstep
    obtain ⟨⟨hidle, hop⟩, w, hw, rfl⟩ := hstep
    obtain ⟨f, hf, hcall⟩ := hs.call_atomic overflowChecks
      (Or.inl ⟨hidle, hop⟩)
    apply hone
    rw [World.after_of_call hcall, hw, Option.map_some, hf w hw]
  | elsewhere e =>
    change (if _ then _ else _) = _ at hstep
    rw [Option.ite_none_right_eq_some, Option.map_eq_some_iff] at hstep
    obtain ⟨hop, w, hw, rfl⟩ := hstep
    obtain ⟨f, hf, hcall⟩ := hs.call_atomic overflowChecks (Or.inr hop)
    apply hone
    rw [World.after_of_call hcall, hw, Option.map_some, hf w hw]
  | prepareAdd clock h =>
    rw [atomic_prepareAdd hstep]
    rfl
  | preparePush clock =>
    obtain ⟨h, a, hpreparing, hafter⟩ := after_preparePush overflowChecks hs hstep
    rw [commit?, hpreparing]
    exact hone hafter
  | fill clock h => exact hone (after_fill hs hstep)
  | done h =>
    rw [atomic_done hstep]
    rfl
  | wait =>
    change (if _ then _ else _) = _ at hstep
    rw [Option.ite_none_right_eq_some, Option.some.injEq] at hstep
    obtain ⟨hidle, rfl⟩ := hstep
    rw [atomic_of_busy_none (by simp [busy, hidle]), atomic_of_busy_none (by simp [busy])]
    rfl
  | pass =>
    change (if _ then _ else _) = _ at hstep
    rw [Option.ite_none_right_eq_some, Option.some.injEq] at hstep
    obtain ⟨⟨hwaiting, -⟩, rfl⟩ := hstep
    rw [atomic_of_busy_none (by simp [busy, hwaiting]), atomic_of_busy_none (by simp [busy])]
    rfl

/-- Between the calls nothing is counted ahead or behind. -/
theorem Inv.atomic_eq (hs : s.Inv) (hbusy : s.busy = none) (hending : s.ending = []) :
    s.atomic = s.world := by
  have hcount := hs.count
  rw [hbusy, hending] at hcount
  have hwg : s.world.context.wg = ⟨s.world.context.spanStack.unfilled⟩ :=
    congrArg WaitGroup.mk hcount
  rw [atomic_of_busy_none hbusy, World.counted, TracingContext.counted, ← hwg]

/-- A context that `wait` lets go is between the calls. -/
theorem Inv.atomic_of_released (hs : s.Inv) (hown : s.owner = .released) : s.atomic = s.world := by
  have hbusy : s.busy = none := by simp [busy, hown]
  have hcount := hs.count
  rw [hs.released hown] at hcount
  exact hs.atomic_eq hbusy (List.eq_nil_of_length_eq_zero (by omega))

variable {serviceName instanceName traceId traceSegmentId : String} {tracer : WeakTracer}
  {es : List AsyncEvent}

/-- Lock contention aside, every interleaving of the owner with the threads of the asynchronous
spans is the run of one thread that makes the whole calls in the order in which they take place: it
leads to the same world, each call that is made in one piece has the same outcome in both, and a
context that `wait` lets go reports the same. -/
theorem run_serial (hrun : Execution.run (step overflowChecks)
      (init serviceName instanceName traceId traceSegmentId tracer) es = some s) :
    Execution.run (World.after overflowChecks)
        (World.new serviceName instanceName traceId traceSegmentId tracer)
        (commits overflowChecks (init serviceName instanceName traceId traceSegmentId tracer) es) =
      some s.atomic ∧
    (s.busy = none → s.ending = [] → s.atomic = s.world) ∧
    (∀ pre e post s₁, es = pre ++ e :: post →
      Execution.run (step overflowChecks)
        (init serviceName instanceName traceId traceSegmentId tracer) pre = some s₁ →
      ∀ c, e = .call c ∨ e = .elsewhere c →
        (s₁.atomic.call overflowChecks c).map (fun o => o.mapState fun _ => ()) =
          (s₁.world.call overflowChecks c).map fun o => o.mapState fun _ => ()) ∧
    ∀ clock w, s.owner = .released →
      s.world.after overflowChecks ⟨clock, .dropContext⟩ = some w →
      Execution.run (World.after overflowChecks)
        (World.new serviceName instanceName traceId traceSegmentId tracer)
        (commits overflowChecks (init serviceName instanceName traceId traceSegmentId tracer) es ++
          [⟨clock, .dropContext⟩]) = some w := by
  have hinit := inv_init serviceName instanceName traceId traceSegmentId tracer
  have hinv : ∀ {es s}, Execution.run (step overflowChecks)
      (init serviceName instanceName traceId traceSegmentId tracer) es = some s → s.Inv := by
    intro es s hrun
    exact inv_reachable ⟨es, hrun⟩
  have hserial : Execution.run (World.after overflowChecks)
      (World.new serviceName instanceName traceId traceSegmentId tracer)
      (commits overflowChecks (init serviceName instanceName traceId traceSegmentId tracer) es) =
        some s.atomic := by
    have hcommits : ∀ a b e, Inv a → step overflowChecks a e = some b → Inv b ∧
        Execution.run (World.after overflowChecks) a.atomic (a.commit? e).toList =
          some b.atomic := by
      intro a b e ha hstep
      exact ⟨inv_step ha hstep, step_commits ha hstep⟩
    exact Execution.run_outputs hcommits hinit hrun
  refine ⟨hserial, ?_, ?_, ?_⟩
  · intro hbusy hending
    exact (hinv hrun).atomic_eq hbusy hending
  · intro pre e post s₁ hes hpre c hc
    -- the call was enabled where it stands
    rw [hes] at hrun
    obtain ⟨s₁', hpre', hrest⟩ := Execution.run_append_iff.1 hrun
    obtain rfl := Option.some.inj (hpre.symm.trans hpre')
    obtain ⟨s₂, hstep, -⟩ := Execution.run_cons_iff.1 hrest
    have hop : s₁.owner = .idle ∧ c.op.isOwnerCall ∨ c.op.isElsewhere s₁.world := by
      rcases hc with rfl | rfl
      · change (if _ then _ else _) = _ at hstep
        exact Or.inl (Option.ite_none_right_eq_some.1 hstep).1
      · change (if _ then _ else _) = _ at hstep
        exact Or.inr (Option.ite_none_right_eq_some.1 hstep).1
    obtain ⟨f, -, hcall⟩ := (hinv hpre).call_atomic overflowChecks hop
    rw [hcall, Option.map_map]
    cases s₁.world.call overflowChecks c with
    | none => rfl
    | some o =>
      cases o with
      | ok u w => rfl
      | panic m w => rfl
      | abort m => rfl
  · intro clock w hreleased hdrop
    refine Execution.run_append_iff.2 ⟨s.atomic, hserial, Execution.run_cons_iff.2 ⟨w, ?_, rfl⟩⟩
    rw [(hinv hrun).atomic_of_released hreleased]
    exact hdrop

theorem run_serial_waitRun :
    ∃ s, Execution.run (step true) (init "s" "i" "t" "g" (some ⟨"s", "i"⟩)) waitRun = some s ∧
      (commits true (init "s" "i" "t" "g" (some ⟨"s", "i"⟩)) waitRun).map (fun e => e.op) =
        [.createEntrySpan "op1", .createLocalSpan "op2", .prepareForAsync 1, .dropAsyncSpan 1,
          .prepareForAsync 0, .dropAsyncSpan 0] ∧
      Execution.run (World.after true) (World.new "s" "i" "t" "g" (some ⟨"s", "i"⟩))
        (commits true (init "s" "i" "t" "g" (some ⟨"s", "i"⟩)) waitRun) = some s.world := by
  have hrun : ∃ s, Execution.run (step true) (init "s" "i" "t" "g" (some ⟨"s", "i"⟩)) waitRun =
      some s ∧ decide (s.owner = .released ∧ s.ending = []) = true :=
    (Option.any_eq_true _ _).1 (by decide +kernel)
  obtain ⟨s, hrun, hend⟩ := hrun
  obtain ⟨hreleased, hending⟩ := of_decide_eq_true hend
  have hbusy : s.busy = none := by simp [busy, hreleased]
  obtain ⟨hserial, hatomic, -⟩ := run_serial hrun
  refine ⟨s, hrun, by decide +kernel, ?_⟩
  rw [hserial, hatomic hbusy hending]

end AsyncSystem

end SkywalkingAgent.Trace
