import SkywalkingAgent.Trace.Program

/-!
# What a call leaves behind

`World.after` also keeps the states after a caught panic. `World.CallEffect` lists what any call but
the drop of the context can do to the handles, the stack, the counters and the wait group, whether
it returns or panics; `World.after_effect` is its inversion lemma.
-/

set_option autoImplicit false

namespace SkywalkingAgent.Trace

open SkywalkingAgent.Lib SkywalkingAgent.Common SkywalkingAgent.Proto
open SkywalkingAgent.Propagation SkywalkingAgent.Reporter

/-- An edited handle: of the same kind and span, with an object if it had one. -/
inductive Handle.Edited : Handle → Handle → Prop where
  | span (uid : SpanUid) (obj obj' : SpanObject) :
      Edited (.span ⟨uid, some obj⟩) (.span ⟨uid, some obj'⟩)
  | asyncSpan (uid : SpanUid) (obj obj' : SpanObject) :
      Edited (.asyncSpan ⟨uid, some obj⟩) (.asyncSpan ⟨uid, some obj'⟩)

/-- Two stacks that differ in the parked references of their active spans only. -/
structure SpanStack.SameSpans (s t : SpanStack) : Prop where
  finalized : t.finalized = s.finalized
  uids : (t.active.map fun a => a.uid) = s.active.map fun a => a.uid
  spanIds : (t.active.map fun a => a.spanId) = s.active.map fun a => a.spanId

theorem SpanStack.SameSpans.refl (s : SpanStack) : s.SameSpans s := ⟨rfl, rfl, rfl⟩

namespace World

/-- The effect of a call, whether it returns or panics. -/
inductive CallEffect (overflowChecks : Bool) (w : World) (e : Event) (w' : World) : Prop where
  | created (obj : SpanObject)
      (next : succI32 overflowChecks w.context.nextSpanId = some w'.context.nextSpanId)
      (alive : w'.contextAlive = w.contextAlive)
      (handles : w'.handles = w.handles ++ [.span ⟨w.context.spanUidGenerator, some obj⟩])
      (generator : w'.context.spanUidGenerator = w.context.spanUidGenerator + 1)
      (stack : w'.context.spanStack = ⟨w.context.spanStack.finalized,
        w.context.spanStack.active ++
          [⟨w.context.spanUidGenerator, w.context.nextSpanId, none⟩]⟩)
      (wg : w'.context.wg = w.context.wg)
  | edited (h : Nat) (x x' : Handle) (handle : w.handles[h]? = some x) (edited : x.Edited x')
      (eq : w' = w.setHandle h x')
  | dropped (h : Nat) (s : Span) (stack : SpanStack) (handle : w.handles[h]? = some (.span s))
      (drop : s.drop e.clock w.context.spanStack = .ok () stack)
      (eq : w' = (w.setHandle h .closed).setShared (stack, w.context.wg))
  | prepared (h : Nat) (s : Span) (a : AsyncSpan) (shared : SpanStack × WaitGroup)
      (op : e.op = .prepareForAsync h) (handle : w.handles[h]? = some (.span s))
      (prepare : s.prepareForAsync e.clock w.context.spanStack w.context.wg = .ok a shared)
      (eq : w' = (w.setHandle h (.asyncSpan a)).setShared shared)
  | asyncDropped (h : Nat) (shared : SpanStack × WaitGroup) (op : e.op = .dropAsyncSpan h)
      (active : shared.1.active = w.context.spanStack.active)
      (eq : w' = (w.setHandle h .closed).setShared shared)
  /-- The drop of a `Span` that panics; only the handle is gone. -/
  | lost (h : Nat) (s : Span) (handle : w.handles[h]? = some (.span s))
      (eq : w' = (w.setHandle h .closed).setShared (w.context.spanStack, w.context.wg))
  | kept (handles : w'.handles = w.handles) (alive : w'.contextAlive = w.contextAlive)
      (next : w'.context.nextSpanId = w.context.nextSpanId)
      (generator : w'.context.spanUidGenerator = w.context.spanUidGenerator)
      (stack : w.context.spanStack.SameSpans w'.context.spanStack)
      (wg : w'.context.wg = w.context.wg)

variable {overflowChecks : Bool} {w w' : World} {e : Event}

theorem openSpan_panic {clock : Clock} {self t : TracingContext} {parentSpanId : Int}
    {operationName remotePeer : String} {spanType : SpanType} {spanLayer : SpanLayer} {m : String}
    (h : self.openSpan overflowChecks clock parentSpanId operationName remotePeer spanType
      spanLayer = .panic m t) : t = self := by
  unfold TracingContext.openSpan TracingContext.incNextSpanId at h
  cases hsucc : succI32 overflowChecks self.nextSpanId with
  | none =>
    rw [hsucc] at h
    exact (Outcome.panic.inj h).2.symm
  | some next =>
    rw [hsucc] at h
    cases h

theorem createCommonSpan_panic {clock : Clock} {self t : TracingContext} {parentSpanId : Int}
    {operationName remotePeer : String} {spanType : SpanType} {m : String}
    (h : self.createCommonSpan overflowChecks clock operationName remotePeer spanType
      parentSpanId = .panic m t) : t = self := by
  unfold TracingContext.createCommonSpan at h
  split at h
  · exact (Outcome.panic.inj h).2.symm
  · exact openSpan_panic h

theorem createWithPropagation_panic {clock : Clock} {self t : TracingContext}
    {operationName : String} {propagation : PropagationContext} {m : String}
    (h : self.createEntrySpanWithPropagation overflowChecks clock operationName propagation =
      .panic m t) : t = self := by
  unfold TracingContext.createEntrySpanWithPropagation at h
  cases hentry : self.createEntrySpan overflowChecks clock operationName with
  | ok s t' =>
    -- the new span has its object, so the reference finds it
    obtain ⟨next, -, rfl, rfl⟩ := TracingContext.openSpan_eq_ok_iff.1 hentry
    rw [hentry] at h
    cases h
  | panic m' t' =>
    rw [hentry] at h
    obtain rfl := (Outcome.panic.inj h).2
    exact openSpan_panic hentry
  | abort m' =>
    rw [hentry] at h
    cases h

/-- The drop of a `Span` that panics leaves the stack as it was. -/
theorem drop_panic {clock : Clock} {s : Span} {stack t : SpanStack} {m : String}
    (h : s.drop clock stack = .panic m t) : t = stack := by
  unfold Span.drop SpanStack.finalizeSpan at h
  split at h
  · exact (Outcome.panic.inj h).2.symm
  · cases h

/-- The new span and the context after it, whatever object and trace they got. -/
structure Opened (overflowChecks : Bool) (c : TracingContext) (span : Span) (c' : TracingContext) :
    Prop where
  next : succI32 overflowChecks c.nextSpanId = some c'.nextSpanId
  span : ∃ obj, span = ⟨c.spanUidGenerator, some obj⟩
  generator : c'.spanUidGenerator = c.spanUidGenerator + 1
  stack : c'.spanStack = ⟨c.spanStack.finalized,
    c.spanStack.active ++ [⟨c.spanUidGenerator, c.nextSpanId, none⟩]⟩
  wg : c'.wg = c.wg

theorem opened_of_openSpan {clock : Clock} {self t : TracingContext} {parentSpanId : Int}
    {operationName remotePeer : String} {spanType : SpanType} {spanLayer : SpanLayer} {s : Span}
    (h : self.openSpan overflowChecks clock parentSpanId operationName remotePeer spanType
      spanLayer = .ok s t) : Opened overflowChecks self s t := by
  obtain ⟨next, hnext, rfl, rfl⟩ := TracingContext.openSpan_eq_ok_iff.1 h
  exact ⟨hnext, ⟨_, rfl⟩, rfl, rfl, rfl⟩

/-- A call that creates a span adds its handle, or panics and changes nothing. -/
theorem create_cases {o : Outcome TracingContext Span}
    (hpanic : ∀ m t, o = .panic m t → t = w.context)
    (h : w.create o = .ok () w' ∨ ∃ m, w.create o = .panic m w') :
    (∃ span context, o = .ok span context ∧ w.create o = .ok () w' ∧
        w' = { w with context := context, handles := w.handles ++ [.span span] }) ∨
      w' = w ∧ ∃ m, w.create o = .panic m w' := by
  rcases h with h | ⟨m, h⟩
  · obtain ⟨span, context, rfl, rfl⟩ := create_eq_ok_iff.1 h
    exact Or.inl ⟨span, context, rfl, h, rfl⟩
  · refine Or.inr ⟨?_, m, h⟩
    cases o with
    | ok span context => cases h
    | abort m' => cases h
    | panic m' context =>
      rw [← (Outcome.panic.inj h).2, hpanic m' context rfl]

theorem effect_create {o : Outcome TracingContext Span}
    (hok : ∀ s t, o = .ok s t → Opened overflowChecks w.context s t)
    (hpanic : ∀ m t, o = .panic m t → t = w.context)
    (h : w.create o = .ok () w' ∨ ∃ m, w.create o = .panic m w') :
    CallEffect overflowChecks w e w' := by
  rcases create_cases hpanic h with ⟨span, context, ho, -, rfl⟩ | ⟨rfl, -⟩
  · obtain ⟨hnext, ⟨obj, rfl⟩, hgen, hstack, hwg⟩ := hok span context ho
    exact .created obj hnext rfl rfl hgen hstack hwg
  · exact .kept rfl rfl rfl rfl (.refl _) rfl

theorem effect_openSpan {clock : Clock} {parentSpanId : Int} {operationName remotePeer : String}
    {spanType : SpanType} {spanLayer : SpanLayer}
    (h : w.create (w.context.openSpan overflowChecks clock parentSpanId operationName remotePeer
        spanType spanLayer) = .ok () w' ∨
      ∃ m, w.create (w.context.openSpan overflowChecks clock parentSpanId operationName remotePeer
        spanType spanLayer) = .panic m w') :
    CallEffect overflowChecks w e w' :=
  effect_create (fun _ _ hopen => opened_of_openSpan hopen)
    (fun _ _ hopen => openSpan_panic hopen) h

theorem opened_of_createCommonSpan {clock : Clock} {self t : TracingContext} {parentSpanId : Int}
    {operationName remotePeer : String} {spanType : SpanType} {s : Span}
    (h : self.createCommonSpan overflowChecks clock operationName remotePeer spanType
      parentSpanId = .ok s t) : Opened overflowChecks self s t := by
  unfold TracingContext.createCommonSpan at h
  split at h
  · cases h
  · exact opened_of_openSpan h

theorem opened_of_createWithPropagation {clock : Clock} {self t : TracingContext}
    {operationName : String} {propagation : PropagationContext} {s : Span}
    (h : self.createEntrySpanWithPropagation overflowChecks clock operationName propagation =
      .ok s t) : Opened overflowChecks self s t := by
  obtain ⟨s', t', obj, hentry, -, rfl, rfl⟩ :=
    TracingContext.createEntrySpanWithPropagation_eq_ok_iff.1 h
  obtain ⟨hnext, ⟨obj', rfl⟩, hgen, hstack, hwg⟩ := opened_of_openSpan hentry
  exact ⟨hnext, ⟨_, rfl⟩, hgen, hstack, hwg⟩

theorem effect_createCommonSpan {clock : Clock} {parentSpanId : Int}
    {operationName remotePeer : String} {spanType : SpanType}
    (h : w.create (w.context.createCommonSpan overflowChecks clock operationName remotePeer
        spanType parentSpanId) = .ok () w' ∨
      ∃ m, w.create (w.context.createCommonSpan overflowChecks clock operationName remotePeer
        spanType parentSpanId) = .panic m w') :
    CallEffect overflowChecks w e w' :=
  effect_create (fun _ _ hopen => opened_of_createCommonSpan hopen)
    (fun _ _ hopen => createCommonSpan_panic hopen) h

theorem effect_createWithPropagation {clock : Clock} {operationName : String}
    {propagation : PropagationContext}
    (h : w.create (w.context.createEntrySpanWithPropagation overflowChecks clock operationName
        propagation) = .ok () w' ∨
      ∃ m, w.create (w.context.createEntrySpanWithPropagation overflowChecks clock operationName
        propagation) = .panic m w') :
    CallEffect overflowChecks w e w' :=
  effect_create (fun _ _ hopen => opened_of_createWithPropagation hopen)
    (fun _ _ hopen => createWithPropagation_panic hopen) h

/-- An edit that returns changes its handle only; one that panics changes nothing. -/
theorem modifyObject_cases {h : Nat} {f : SpanObject → SpanObject} {o : Outcome World Unit}
    (hcall : w.modifyObject h f = some o) (ho : o = .ok () w' ∨ ∃ m, o = .panic m w') :
    (∃ x x', w.handles[h]? = some x ∧ x.Edited x' ∧ w' = w.setHandle h x') ∨ w' = w := by
  -- writing a handle back where it was
  have hsame : ∀ x, w.handles[h]? = some x → w.setHandle h x = w := by
    intro x hx
    obtain ⟨hlt, rfl⟩ := List.getElem?_eq_some_iff.1 hx
    simp [setHandle]
  unfold modifyObject at hcall
  split at hcall
  · next s hs =>
    obtain rfl := (Option.some.inj hcall).symm
    obtain ⟨uid, obj⟩ := s
    cases obj with
    | some obj =>
      rcases ho with ho | ⟨m, ho⟩
      · exact Or.inl ⟨_, _, hs, .span uid obj (f obj), (Outcome.ok.inj ho).2.symm⟩
      · cases ho
    | none =>
      rcases ho with ho | ⟨m, ho⟩
      · cases ho
      · exact Or.inr ((Outcome.panic.inj ho).2.symm.trans (hsame _ hs))
  · next a ha =>
    obtain rfl := (Option.some.inj hcall).symm
    obtain ⟨uid, obj⟩ := a
    cases obj with
    | some obj =>
      rcases ho with ho | ⟨m, ho⟩
      · exact Or.inl ⟨_, _, ha, .asyncSpan uid obj (f obj), (Outcome.ok.inj ho).2.symm⟩
      · cases ho
    | none =>
      rcases ho with ho | ⟨m, ho⟩
      · cases ho
      · exact Or.inr ((Outcome.panic.inj ho).2.symm.trans (hsame _ ha))
  · cases hcall

theorem effect_modifyObject {h : Nat} {f : SpanObject → SpanObject} {o : Outcome World Unit}
    (hcall : w.modifyObject h f = some o) (ho : o = .ok () w' ∨ ∃ m, o = .panic m w') :
    CallEffect overflowChecks w e w' := by
  rcases modifyObject_cases hcall ho with ⟨x, x', hx, hedit, rfl⟩ | rfl
  · exact .edited h x x' hx hedit rfl
  · exact .kept rfl rfl rfl rfl (.refl _) rfl

/-- The drop of a `Span` closes it, or panics on a stack that stays; the handle is gone. -/
theorem dropSpan_cases {clock : Clock} {h : Nat} {o : Outcome World Unit}
    (hcall : w.dropSpan clock h = some o) (ho : o = .ok () w' ∨ ∃ m, o = .panic m w') :
    ∃ (s : Span) (stack : SpanStack), w.handles[h]? = some (.span s) ∧
      w' = (w.setHandle h .closed).setShared (stack, w.context.wg) ∧
      (o = .ok () w' ∧ s.drop clock w.context.spanStack = .ok () stack ∨
        stack = w.context.spanStack ∧ ∃ m, o = .panic m w') := by
  unfold dropSpan at hcall
  split at hcall
  · next s hs =>
    obtain rfl := Option.some.inj hcall
    obtain ⟨stack, rfl, hdrop⟩ := Outcome.exists_of_mapState ho
    refine ⟨s, stack, hs, rfl, ?_⟩
    rcases hdrop with hdrop | ⟨m, hdrop⟩
    · rw [hdrop]
      exact Or.inl ⟨rfl, rfl⟩
    · rw [hdrop]
      exact Or.inr ⟨drop_panic hdrop, m, rfl⟩
  · cases hcall

theorem effect_dropSpan {h : Nat} {o : Outcome World Unit}
    (hcall : w.dropSpan e.clock h = some o) (ho : o = .ok () w' ∨ ∃ m, o = .panic m w') :
    CallEffect overflowChecks w e w' := by
  obtain ⟨s, stack, hs, rfl, ⟨-, hdrop⟩ | ⟨rfl, -⟩⟩ := dropSpan_cases hcall ho
  · exact .dropped h s stack hs hdrop rfl
  -- the stack stays, but the handle does not come back
  · exact .lost h s hs rfl

/-- `prepare_for_async` leaves a world behind only when it returns. -/
theorem prepareForAsync_cases {clock : Clock} {h : Nat} {o : Outcome World Unit}
    (hcall : w.prepareForAsync clock h = some o) (ho : o = .ok () w' ∨ ∃ m, o = .panic m w') :
    ∃ (s : Span) (a : AsyncSpan) (shared : SpanStack × WaitGroup),
      w.handles[h]? = some (.span s) ∧
      s.prepareForAsync clock w.context.spanStack w.context.wg = .ok a shared ∧
      o = .ok () w' ∧ w' = (w.setHandle h (.asyncSpan a)).setShared shared := by
  unfold prepareForAsync at hcall
  split at hcall
  · next s hs =>
    cases hprep : s.prepareForAsync clock w.context.spanStack w.context.wg with
    | ok a shared =>
      rw [hprep] at hcall
      obtain rfl := Option.some.inj hcall
      obtain rfl := Outcome.eq_of_ok ho
      exact ⟨s, a, shared, hs, hprep, rfl, rfl⟩
    | panic m shared => exact absurd hprep Span.prepareForAsync_ne_panic
    | abort m =>
      rw [hprep] at hcall
      obtain rfl := Option.some.inj hcall
      rcases ho with ho | ⟨m, ho⟩
      · cases ho
      · cases ho
  · cases hcall

theorem effect_prepareForAsync {h : Nat} {o : Outcome World Unit} (hop : e.op = .prepareForAsync h)
    (hcall : w.prepareForAsync e.clock h = some o) (ho : o = .ok () w' ∨ ∃ m, o = .panic m w') :
    CallEffect overflowChecks w e w' := by
  obtain ⟨s, a, shared, hs, hprep, -, rfl⟩ := prepareForAsync_cases hcall ho
  exact .prepared h s a shared hop hs hprep rfl

/-- The drop of an `AsyncSpan`, wherever it panics; the handle is gone. -/
theorem dropAsyncSpan_cases {clock : Clock} {h : Nat} {o : Outcome World Unit}
    (hcall : w.dropAsyncSpan overflowChecks clock h = some o)
    (ho : o = .ok () w' ∨ ∃ m, o = .panic m w') :
    ∃ (a : AsyncSpan) (shared : SpanStack × WaitGroup), w.handles[h]? = some (.asyncSpan a) ∧
      w' = (w.setHandle h .closed).setShared shared ∧
      (a.drop overflowChecks clock w.stackAlive w.context.spanStack w.context.wg = .ok () shared ∨
        ∃ m, a.drop overflowChecks clock w.stackAlive w.context.spanStack w.context.wg =
          .panic m shared) := by
  unfold dropAsyncSpan at hcall
  split at hcall
  · next a ha =>
    obtain rfl := Option.some.inj hcall
    obtain ⟨shared, rfl, hdrop⟩ := Outcome.exists_of_mapState ho
    exact ⟨a, shared, ha, rfl, hdrop⟩
  · cases hcall

theorem effect_dropAsyncSpan {h : Nat} {o : Outcome World Unit} (hop : e.op = .dropAsyncSpan h)
    (hcall : w.dropAsyncSpan overflowChecks e.clock h = some o)
    (ho : o = .ok () w' ∨ ∃ m, o = .panic m w') : CallEffect overflowChecks w e w' := by
  obtain ⟨a, shared, -, rfl, hdrop⟩ := dropAsyncSpan_cases hcall ho
  -- whichever step panics, the active stack is not touched
  exact .asyncDropped h shared hop (AsyncSpan.drop_active hdrop) rfl

theorem sameSpans_parkRef (stack : SpanStack) (ref : SegmentReference) :
    stack.SameSpans (TracingContext.parkRef stack ref) := by
  obtain ⟨finalized, active⟩ := stack
  rcases List.eq_nil_or_concat' active with rfl | ⟨s, a, rfl⟩
  · exact .refl _
  · exact ⟨by simp [TracingContext.parkRef], by simp [TracingContext.parkRef],
      by simp [TracingContext.parkRef]⟩

/-- `continued` does nothing for a snapshot that is not valid; else it adopts the trace, and without
the tracer it panics then. -/
theorem continued_cases {snapshot : ContextSnapshot}
    (h : (w.context.continued snapshot).mapState (fun c => { w with context := c }) = .ok () w' ∨
      ∃ m, (w.context.continued snapshot).mapState (fun c => { w with context := c }) =
        .panic m w') :
    snapshot.isValid = false ∧ w' = w ∨
      snapshot.isValid = true ∧ w.context.tracer = none ∧
        w' = { w with context := { w.context with traceId := snapshot.traceId } } ∨
      ∃ tracer, snapshot.isValid = true ∧ w.context.tracer = some tracer ∧
        w' = { w with context := { w.context with
          traceId := snapshot.traceId
          spanStack := TracingContext.parkRef w.context.spanStack
            (TracingContext.snapshotRef tracer snapshot) } } := by
  cases hvalid : snapshot.isValid with
  | false =>
    rw [TracingContext.continued_of_not_valid hvalid] at h
    exact Or.inl ⟨rfl, Outcome.eq_of_ok h⟩
  | true =>
    right
    cases htracer : w.context.tracer with
    | none =>
      rw [TracingContext.continued_of_dropped hvalid htracer] at h
      rcases h with h | ⟨m, h⟩
      · cases h
      · exact Or.inl ⟨rfl, rfl, (Outcome.panic.inj h).2.symm⟩
    | some tracer =>
      rw [TracingContext.continued_of_tracer hvalid htracer] at h
      exact Or.inr ⟨tracer, rfl, rfl, Outcome.eq_of_ok h⟩

theorem effect_continued {snapshot : ContextSnapshot} {o : Outcome World Unit}
    (hcall : (w.context.continued snapshot).mapState (fun c => { w with context := c }) = o)
    (ho : o = .ok () w' ∨ ∃ m, o = .panic m w') : CallEffect overflowChecks w e w' := by
  subst hcall
  rcases continued_cases ho with ⟨-, rfl⟩ | ⟨-, -, rfl⟩ | ⟨tracer, -, -, rfl⟩
  · exact .kept rfl rfl rfl rfl (.refl _) rfl
  · exact .kept rfl rfl rfl rfl (.refl _) rfl
  · exact .kept rfl rfl rfl rfl
      (sameSpans_parkRef w.context.spanStack (TracingContext.snapshotRef tracer snapshot)) rfl

/-- The drop of the context reports an item, or it panics and reports nothing. -/
theorem after_dropContext {clock : Clock}
    (h : w.after overflowChecks ⟨clock, .dropContext⟩ = some w') :
    (∃ item context, w.context.drop = .ok item context ∧ w' = { w with
      context := context
      contextAlive := false
      reported := w.reported ++ [item] }) ∨ w'.reported = w.reported := by
  obtain ⟨o, hcall, ho⟩ := after_eq_some_iff.1 h
  simp only [call, callContext] at hcall
  split at hcall
  · obtain rfl := Option.some.inj hcall
    unfold dropContext at ho
    cases hdrop : w.context.drop with
    | ok item context =>
      rw [hdrop] at ho
      rcases ho with ho | ⟨m, ho⟩
      · exact Or.inl ⟨item, context, rfl, (Outcome.ok.inj ho).2.symm⟩
      · cases ho
    | panic m context =>
      rw [hdrop] at ho
      rcases ho with ho | ⟨m', ho⟩
      · cases ho
      · exact Or.inr (by rw [← (Outcome.panic.inj ho).2])
    | abort m =>
      rw [hdrop] at ho
      rcases ho with ho | ⟨m', ho⟩
      · cases ho
      · cases ho
  · cases hcall

/-- A call that needs the context finds it alive. -/
theorem of_contextAlive {call : Option (Outcome World Unit)} {o : Outcome World Unit}
    (h : (if w.contextAlive = true then call else none) = some o) : call = some o := by
  split at h
  · exact h
  · cases h

/-- Every call but the drop of the context has one of the effects. -/
theorem after_effect (hop : e.op ≠ .dropContext) (h : w.after overflowChecks e = some w') :
    CallEffect overflowChecks w e w' := by
  obtain ⟨o, hcall, ho⟩ := after_eq_some_iff.1 h
  unfold call at hcall
  cases hopeq : e.op with
  | createEntrySpan operationName =>
    simp only [hopeq, callContext] at hcall
    obtain rfl := (Option.some.inj (of_contextAlive hcall)).symm
    exact effect_openSpan ho
  | createEntrySpanWithPropagation operationName propagation =>
    simp only [hopeq, callContext] at hcall
    obtain rfl := (Option.some.inj (of_contextAlive hcall)).symm
    exact effect_createWithPropagation ho
  | createExitSpan operationName remotePeer =>
    simp only [hopeq, callContext] at hcall
    obtain rfl := (Option.some.inj (of_contextAlive hcall)).symm
    exact effect_createCommonSpan ho
  | createLocalSpan operationName =>
    simp only [hopeq, callContext] at hcall
    obtain rfl := (Option.some.inj (of_contextAlive hcall)).symm
    exact effect_createCommonSpan ho
  | addTag h key value =>
    simp only [hopeq] at hcall
    exact effect_modifyObject hcall ho
  | addLog h message =>
    simp only [hopeq] at hcall
    exact effect_modifyObject hcall ho
  | dropSpan h =>
    simp only [hopeq] at hcall
    exact effect_dropSpan hcall ho
  | prepareForAsync h =>
    simp only [hopeq] at hcall
    exact effect_prepareForAsync hopeq hcall ho
  | dropAsyncSpan h =>
    simp only [hopeq] at hcall
    exact effect_dropAsyncSpan hopeq hcall ho
  | capture =>
    simp only [hopeq, callContext] at hcall
    obtain rfl := (Option.some.inj (of_contextAlive hcall)).symm
    obtain rfl := Outcome.eq_of_ok ho
    exact .kept rfl rfl rfl rfl (.refl _) rfl
  | continued snapshot =>
    simp only [hopeq, callContext] at hcall
    exact effect_continued (Option.some.inj (of_contextAlive hcall)) ho
  | dropContext => exact absurd hopeq hop
  | dropTracer =>
    simp only [hopeq] at hcall
    obtain rfl := (Option.some.inj hcall).symm
    obtain rfl := Outcome.eq_of_ok ho
    exact .kept rfl rfl rfl rfl (.refl _) rfl

end World

end SkywalkingAgent.Trace
