import SkywalkingAgent.Trace.Calls
import SkywalkingAgent.Trace.Effect

/-!
# Runs that go on after a panic

A program may catch the panic of a call and go on. On a live context a panic undoes nothing and does
nothing either, with two exceptions: the drop of a `Span` that is not innermost loses the handle and
leaves its span on the stack for good, and `continued` without a tracer has adopted the trace. So
the world after any run is the world of a ledger, made by the calls that returned, in which some
`Span` handles are gone (`World.Behind`, `World.run_behind`). A span whose handle was lost has a
child (`Behind.child`).
-/

set_option autoImplicit false

namespace SkywalkingAgent.Trace

open SkywalkingAgent.Lib SkywalkingAgent.Common SkywalkingAgent.Proto
open SkywalkingAgent.Propagation SkywalkingAgent.Reporter

namespace World

variable {overflowChecks : Bool} {w w' : World} {e : Event} {lost : Nat → Bool}

/-- The calls of a run that returned. -/
def returned (overflowChecks : Bool) : World → List Event → List Event
  | _, [] => []
  | w, e :: es =>
      match w.call overflowChecks e with
      | some (.ok _ w') => e :: returned overflowChecks w' es
      | some (.panic _ w') => returned overflowChecks w' es
      | _ => []

/-! ## Lost handles -/

/-- The world without the handles that `lost` marks. -/
def hide (w : World) (lost : Nat → Bool) : World :=
  { w with handles := w.handles.mapIdx fun k handle => if lost k then .closed else handle }

theorem hide_none : w.hide (fun _ => false) = w := by
  unfold hide
  congr
  apply List.ext_getElem?
  intro k
  simp

@[simp] theorem hide_context : (w.hide lost).context = w.context := rfl

theorem getElem?_hide {k : Nat} {x : Handle} (hx : x ≠ .closed) :
    (w.hide lost).handles[k]? = some x ↔ lost k = false ∧ w.handles[k]? = some x := by
  simp only [hide, List.getElem?_mapIdx, Option.map_eq_some_iff]
  cases hlost : lost k with
  | true => simp [Ne.symm hx]
  | false => simp

theorem hide_setHandle {k : Nat} {x : Handle} (hlost : lost k = false) :
    (w.hide lost).setHandle k x = (w.setHandle k x).hide lost := by
  simp [hide, setHandle, List.mapIdx_set, hlost]

/-- Losing one more handle. -/
theorem hide_setHandle_closed {k : Nat} :
    (w.setHandle k .closed).hide lost = w.hide (Function.update lost k true) := by
  unfold hide setHandle
  congr 1
  apply List.ext_getElem?
  intro j
  simp only [List.getElem?_mapIdx, List.getElem?_set]
  by_cases hj : k = j
  · subst hj
    by_cases hlt : k < w.handles.length
    · simp [hlt]
    · simp [hlt]
  · simp [hj, Function.update_of_ne (Ne.symm hj)]

theorem create_hide (hfresh : ∀ k, w.handles.length ≤ k → lost k = false)
    (o : Outcome TracingContext Span) :
    (w.hide lost).create o = (w.create o).mapState fun v => v.hide lost := by
  cases o with
  | ok span context =>
    simp [create, hide, Outcome.mapState, List.mapIdx_append, hfresh w.handles.length le_rfl]
  | panic m context => rfl
  | abort m => rfl

theorem mapState_mapState {σ τ υ α : Type} (o : Outcome σ α) (f : σ → τ) (g : τ → υ) :
    (o.mapState f).mapState g = o.mapState fun s => g (f s) := by
  cases o <;> rfl

theorem modifyObject_hide {k : Nat} {f : SpanObject → SpanObject} {o : Outcome World Unit}
    (h : (w.hide lost).modifyObject k f = some o) :
    ∃ o', w.modifyObject k f = some o' ∧ o = o'.mapState fun v => v.hide lost := by
  unfold modifyObject at h
  split at h
  · next s hs =>
    obtain ⟨hlost, hs⟩ := (getElem?_hide (by simp)).1 hs
    obtain rfl := Option.some.inj h
    refine ⟨_, by simp only [modifyObject, hs]; rfl, ?_⟩
    simp only [hide_setHandle hlost, mapState_mapState]
  · next a ha =>
    obtain ⟨hlost, ha⟩ := (getElem?_hide (by simp)).1 ha
    obtain rfl := Option.some.inj h
    refine ⟨_, by simp only [modifyObject, ha]; rfl, ?_⟩
    simp only [hide_setHandle hlost, mapState_mapState]
  · cases h

/-- A call with some handles lost is the same call with all of them. -/
theorem call_hide (halive : w.contextAlive = true)
    (hfresh : ∀ k, w.handles.length ≤ k → lost k = false) (hop : e.op ≠ .dropContext)
    {o : Outcome World Unit} (h : (w.hide lost).call overflowChecks e = some o) :
    ∃ o', w.call overflowChecks e = some o' ∧ o = o'.mapState fun v => v.hide lost := by
  have halive' : (w.hide lost).contextAlive = true := halive
  obtain ⟨clock, op⟩ := e
  cases op with
  | createEntrySpan | createEntrySpanWithPropagation | createExitSpan | createLocalSpan =>
    simp only [call, callContext, halive, halive', if_true, Option.some.injEq,
      create_hide hfresh] at h ⊢
    exact ⟨_, rfl, h.symm⟩
  | addTag k key value => exact modifyObject_hide h
  | addLog k message => exact modifyObject_hide h
  | dropSpan k =>
    simp only [call, dropSpan] at h ⊢
    split at h
    · next s hs =>
      obtain ⟨hlost, hs⟩ := (getElem?_hide (by simp)).1 hs
      obtain rfl := Option.some.inj h
      refine ⟨_, by simp only [hs]; rfl, ?_⟩
      simp only [hide_setHandle hlost, mapState_mapState]
      rfl
    · cases h
  | prepareForAsync k =>
    simp only [call, prepareForAsync] at h ⊢
    split at h
    · next s hs =>
      obtain ⟨hlost, hs⟩ := (getElem?_hide (by simp)).1 hs
      simp only [hs]
      rw [hide_context] at h
      cases hprep : s.prepareForAsync clock w.context.spanStack w.context.wg with
      | ok a shared =>
        rw [hprep] at h
        exact ⟨_, rfl, by rw [← Option.some.inj h, hide_setHandle hlost]; rfl⟩
      | panic m shared =>
        rw [hprep] at h
        exact ⟨_, rfl, by rw [← Option.some.inj h, hide_setHandle hlost]; rfl⟩
      | abort m =>
        rw [hprep] at h
        exact ⟨_, rfl, by rw [← Option.some.inj h]; rfl⟩
    · cases h
  | dropAsyncSpan k =>
    simp only [call, dropAsyncSpan] at h ⊢
    split at h
    · next a ha =>
      obtain ⟨hlost, ha⟩ := (getElem?_hide (by simp)).1 ha
      obtain rfl := Option.some.inj h
      refine ⟨_, by simp only [ha]; rfl, ?_⟩
      -- the context keeps the stack alive, whatever handles are left
      simp only [hide_setHandle hlost, mapState_mapState, stackAlive, halive, halive',
        Bool.true_or]
      rfl
    · cases h
  | capture =>
    simp only [call, callContext, halive, halive', if_true, Option.some.injEq] at h ⊢
    exact ⟨_, rfl, h.symm⟩
  | continued snapshot =>
    simp only [call, callContext, halive, halive', if_true, Option.some.injEq] at h ⊢
    exact ⟨_, rfl, by rw [← h, mapState_mapState]; rfl⟩
  | dropContext => exact absurd rfl hop
  | dropTracer =>
    simp only [call, Option.some.injEq] at h ⊢
    exact ⟨_, rfl, h.symm⟩

/-! ## The trace of the context -/

/-- The trace changes only to one that the call adopts, and the segment never. -/
def KeepsTrace (op : Op) (c c' : TracingContext) : Prop :=
  c'.traceSegmentId = c.traceSegmentId ∧
    (c'.traceId = c.traceId ∨ op.adopts? = some c'.traceId)

theorem KeepsTrace.of_eq {op : Op} {c c' : TracingContext}
    (hsegment : c'.traceSegmentId = c.traceSegmentId) (htrace : c'.traceId = c.traceId) :
    KeepsTrace op c c' := ⟨hsegment, Or.inl htrace⟩

theorem create_keepsTrace {op : Op} {o : Outcome TracingContext Span}
    (hok : ∀ s t, o = .ok s t → KeepsTrace op w.context t)
    (hpanic : ∀ m t, o = .panic m t → t = w.context)
    (h : w.create o = .ok () w' ∨ ∃ m, w.create o = .panic m w') :
    KeepsTrace op w.context w'.context := by
  rcases create_cases hpanic h with ⟨s, t, ho, -, rfl⟩ | ⟨rfl, -⟩
  · exact hok s t ho
  · exact .of_eq rfl rfl

theorem openSpan_keepsTrace {op : Op} {clock : Clock} {c t : TracingContext} {parentSpanId : Int}
    {operationName remotePeer : String} {spanType : SpanType} {spanLayer : SpanLayer} {s : Span}
    (h : c.openSpan overflowChecks clock parentSpanId operationName remotePeer spanType
      spanLayer = .ok s t) : KeepsTrace op c t := by
  obtain ⟨next, -, -, rfl⟩ := TracingContext.openSpan_eq_ok_iff.1 h
  exact .of_eq rfl rfl

theorem createCommonSpan_keepsTrace {op : Op} {clock : Clock} {c t : TracingContext}
    {parentSpanId : Int} {operationName remotePeer : String} {spanType : SpanType} {s : Span}
    (h : c.createCommonSpan overflowChecks clock operationName remotePeer spanType
      parentSpanId = .ok s t) : KeepsTrace op c t := by
  unfold TracingContext.createCommonSpan at h
  split at h
  · cases h
  · exact openSpan_keepsTrace h

theorem after_keepsTrace (hop : e.op ≠ .dropContext) (h : w.after overflowChecks e = some w') :
    KeepsTrace e.op w.context w'.context := by
  obtain ⟨o, hcall, ho⟩ := after_eq_some_iff.1 h
  have hmodify : ∀ {op : Op} {k f}, w.modifyObject k f = some o →
      KeepsTrace op w.context w'.context := by
    intro op k f hmodify
    rcases modifyObject_cases hmodify ho with ⟨x, x', -, -, rfl⟩ | rfl
    · exact .of_eq rfl rfl
    · exact .of_eq rfl rfl
  obtain ⟨clock, op⟩ := e
  cases op with
  | createEntrySpan =>
    obtain rfl := Option.some.inj (of_contextAlive hcall)
    exact create_keepsTrace (fun _ _ => openSpan_keepsTrace) (fun _ _ => openSpan_panic) ho
  | createEntrySpanWithPropagation operationName propagation =>
    obtain rfl := Option.some.inj (of_contextAlive hcall)
    refine create_keepsTrace (fun s t hopen => ?_) (fun _ _ => createWithPropagation_panic) ho
    obtain ⟨s', t', obj, hentry, -, -, rfl⟩ :=
      TracingContext.createEntrySpanWithPropagation_eq_ok_iff.1 hopen
    obtain ⟨next, -, -, rfl⟩ := TracingContext.openSpan_eq_ok_iff.1 hentry
    exact ⟨rfl, Or.inr rfl⟩
  | createExitSpan =>
    obtain rfl := Option.some.inj (of_contextAlive hcall)
    exact create_keepsTrace (fun _ _ => createCommonSpan_keepsTrace)
      (fun _ _ => createCommonSpan_panic) ho
  | createLocalSpan =>
    obtain rfl := Option.some.inj (of_contextAlive hcall)
    exact create_keepsTrace (fun _ _ => createCommonSpan_keepsTrace)
      (fun _ _ => createCommonSpan_panic) ho
  | addTag k key value => exact hmodify hcall
  | addLog k message => exact hmodify hcall
  | dropSpan k =>
    obtain ⟨s, stack, -, rfl, -⟩ := dropSpan_cases hcall ho
    exact .of_eq rfl rfl
  | prepareForAsync k =>
    obtain ⟨s, a, shared, -, -, -, rfl⟩ := prepareForAsync_cases hcall ho
    exact .of_eq rfl rfl
  | dropAsyncSpan k =>
    obtain ⟨a, shared, -, rfl, -⟩ := dropAsyncSpan_cases hcall ho
    exact .of_eq rfl rfl
  | capture =>
    obtain rfl := Option.some.inj (of_contextAlive hcall)
    obtain rfl := Outcome.eq_of_ok ho
    exact .of_eq rfl rfl
  | continued snapshot =>
    obtain rfl := Option.some.inj (of_contextAlive hcall)
    rcases continued_cases ho with ⟨-, rfl⟩ | ⟨hvalid, -, rfl⟩ | ⟨tracer, hvalid, -, rfl⟩
    · exact .of_eq rfl rfl
    -- with and without the tracer the trace is adopted
    · exact ⟨rfl, Or.inr (by simp [Op.adopts?, hvalid])⟩
    · exact ⟨rfl, Or.inr (by simp [Op.adopts?, hvalid])⟩
  | dropContext => exact absurd rfl hop
  | dropTracer =>
    obtain rfl := Option.some.inj hcall
    obtain rfl := Outcome.eq_of_ok ho
    exact .of_eq rfl rfl

/-- What a call leaves alone outside the context. -/
structure SameFrame (e : Event) (w w' : World) : Prop where
  alive : w'.contextAlive = w.contextAlive
  reported : w'.reported = w.reported
  count : e.op.creation? = none → w'.handles.length = w.handles.length

theorem sameFrame_create {o : Outcome TracingContext Span} (hop : e.op.creation?.isSome)
    (hpanic : ∀ m t, o = .panic m t → t = w.context)
    (h : w.create o = .ok () w' ∨ ∃ m, w.create o = .panic m w') : SameFrame e w w' := by
  have hcount : e.op.creation? = none → w'.handles.length = w.handles.length := by
    intro hnone
    rw [hnone] at hop
    cases hop
  rcases create_cases hpanic h with ⟨span, context, -, -, rfl⟩ | ⟨rfl, -⟩
  · exact ⟨rfl, rfl, hcount⟩
  · exact ⟨rfl, rfl, hcount⟩

theorem sameFrame_after (hop : e.op ≠ .dropContext) (h : w.after overflowChecks e = some w') :
    SameFrame e w w' := by
  obtain ⟨o, hcall, ho⟩ := after_eq_some_iff.1 h
  have hmodify : ∀ {k f}, w.modifyObject k f = some o → SameFrame e w w' := by
    intro k f hmodify
    rcases modifyObject_cases hmodify ho with ⟨x, x', -, -, rfl⟩ | rfl
    · exact ⟨rfl, rfl, fun _ => List.length_set⟩
    · exact ⟨rfl, rfl, fun _ => rfl⟩
  obtain ⟨clock, op⟩ := e
  cases op with
  | createEntrySpan =>
    obtain rfl := Option.some.inj (of_contextAlive hcall)
    exact sameFrame_create rfl (fun _ _ => openSpan_panic) ho
  | createEntrySpanWithPropagation =>
    obtain rfl := Option.some.inj (of_contextAlive hcall)
    exact sameFrame_create rfl (fun _ _ => createWithPropagation_panic) ho
  | createExitSpan =>
    obtain rfl := Option.some.inj (of_contextAlive hcall)
    exact sameFrame_create rfl (fun _ _ => createCommonSpan_panic) ho
  | createLocalSpan =>
    obtain rfl := Option.some.inj (of_contextAlive hcall)
    exact sameFrame_create rfl (fun _ _ => createCommonSpan_panic) ho
  | addTag k key value => exact hmodify hcall
  | addLog k message => exact hmodify hcall
  | dropSpan k =>
    obtain ⟨s, stack, -, rfl, -⟩ := dropSpan_cases hcall ho
    exact ⟨rfl, rfl, fun _ => List.length_set⟩
  | prepareForAsync k =>
    obtain ⟨s, a, shared, -, -, -, rfl⟩ := prepareForAsync_cases hcall ho
    exact ⟨rfl, rfl, fun _ => List.length_set⟩
  | dropAsyncSpan k =>
    obtain ⟨a, shared, -, rfl, -⟩ := dropAsyncSpan_cases hcall ho
    exact ⟨rfl, rfl, fun _ => List.length_set⟩
  | capture =>
    obtain rfl := Option.some.inj (of_contextAlive hcall)
    obtain rfl := Outcome.eq_of_ok ho
    exact ⟨rfl, rfl, fun _ => rfl⟩
  | continued snapshot =>
    obtain rfl := Option.some.inj (of_contextAlive hcall)
    obtain ⟨context, rfl, -⟩ := Outcome.exists_of_mapState ho
    exact ⟨rfl, rfl, fun _ => rfl⟩
  | dropContext => exact absurd rfl hop
  | dropTracer =>
    obtain rfl := Option.some.inj hcall
    obtain rfl := Outcome.eq_of_ok ho
    exact ⟨rfl, rfl, fun _ => rfl⟩

end World

/-! ## Panics in the world of a ledger -/

namespace Ledger

variable {L L' : Ledger} {e : Event} {es : List Event} {base : TracingContext}
  {overflowChecks : Bool}

theorem modifyObject_ne_panic {k : Nat} {f : SpanObject → SpanObject} {m : String} {w : World} :
    (L.toWorld base).modifyObject k f ≠ some (.panic m w) := by
  intro h
  unfold World.modifyObject at h
  split at h
  · next s hs =>
    -- a live handle of a ledger has its object
    obtain ⟨-, rfl⟩ := handle_eq_span_iff.1 (toWorld_handles.1 hs).2
    cases h
  · next a ha =>
    obtain ⟨-, rfl⟩ := handle_eq_asyncSpan_iff.1 (toWorld_handles.1 ha).2
    cases h
  · cases h

/-- Only the innermost span can be dropped; a panicking drop loses the handle of another one. -/
theorem dropSpan_panic (hL : L.Valid) {clock : Clock} {k : Nat} {m : String} {w : World}
    (h : (L.toWorld base).dropSpan clock k = some (.panic m w)) :
    k ∈ L.stack ∧ L.innermost ≠ some k ∧ w = (L.toWorld base).setHandle k .closed := by
  unfold World.dropSpan at h
  split at h
  · next s hs =>
    obtain ⟨hlt, hhandle⟩ := toWorld_handles.1 hs
    obtain ⟨hopened, rfl⟩ := handle_eq_span_iff.1 hhandle
    -- a span with a `Span` handle is open, so it is on the stack
    have hstack : k ∈ L.stack := by
      rcases hL.mem_iff.2 hlt with hmem | hmem
      · exact hmem
      · exact absurd hopened (hL.closed k hmem)
    cases hdrop : Span.drop clock ⟨k, some (L.record k).obj⟩ (L.toWorld base).context.spanStack with
    | ok u stack =>
      rw [hdrop] at h
      cases h
    | abort m' =>
      rw [hdrop] at h
      cases h
    | panic m' stack =>
      refine ⟨hstack, fun hin => ?_, ?_⟩
      · -- the innermost span is the top of the stack, whose drop returns
        obtain ⟨hsplit, -⟩ := hL.split_innermost hin
        have hactive : (L.toWorld base).context.spanStack.active =
            L.stack.dropLast.map L.active ++ [L.active k] := by
          show L.stack.map L.active = _
          rw [hsplit]
          simp
        have hok : Span.drop clock ⟨k, some (L.record k).obj⟩
            (L.toWorld base).context.spanStack = .ok () _ :=
          SpanStack.finalizeSpan_eq_ok_iff.2 ⟨_, _, hactive, rfl, rfl⟩
        exact nomatch hok.symm.trans hdrop
      · rw [World.drop_panic hdrop] at hdrop
        rw [hdrop] at h
        exact (Outcome.panic.inj (Option.some.inj h)).2.symm
  · cases h

/-- The end of a detached span finds its placeholder and is counted. -/
theorem dropAsyncSpan_ne_panic (hL : L.Valid) {clock : Clock} {k : Nat} {m : String} {w : World} :
    (L.toWorld base).dropAsyncSpan overflowChecks clock k ≠ some (.panic m w) := by
  intro h
  unfold World.dropAsyncSpan at h
  split at h
  · next a ha =>
    obtain ⟨hlt, hhandle⟩ := toWorld_handles.1 ha
    obtain ⟨hdetached, rfl⟩ := handle_eq_asyncSpan_iff.1 hhandle
    obtain ⟨fs, n, hfill, hpending, -⟩ := toWorld_complete hL base clock hlt hdetached
    have hwg : (L.toWorld base).context.wg = ⟨n + 1⟩ := congrArg WaitGroup.mk hpending
    have hok : AsyncSpan.drop overflowChecks clock ⟨k, some (L.record k).obj⟩ true
        (L.toWorld base).context.spanStack (L.toWorld base).context.wg =
          .ok () (⟨fs, L.stack.map L.active⟩, ⟨n⟩) :=
      AsyncSpan.drop_eq_ok_iff.2 ⟨AsyncSpan.fill_eq_ok_iff.2 ⟨rfl, _, fs, rfl, hfill, rfl⟩,
        hwg ▸ WaitGroup.done_succ overflowChecks n⟩
    have halive : (L.toWorld base).stackAlive = true := rfl
    rw [halive, hok] at h
    cases h
  · cases h

/-- A panic in the world of a ledger changes nothing, loses the handle of a span that is open but
not innermost, or has adopted a trace. -/
theorem call_panic (hL : L.Valid) (hop : e.op ≠ .dropContext) {m : String} {w : World}
    (h : (L.toWorld base).call overflowChecks e = some (.panic m w)) :
    w = L.toWorld base ∨
      (∃ k, k ∈ L.stack ∧ L.innermost ≠ some k ∧ w = (L.toWorld base).setHandle k .closed) ∨
      ∃ traceId, w = { L with traceId := traceId }.toWorld base := by
  -- the functions that create spans check before they change the context
  have hcreate : ∀ {o : Outcome TracingContext Span},
      (∀ m' t, o = .panic m' t → t = (L.toWorld base).context) →
      some ((L.toWorld base).create o) = some (.panic m w) → w = L.toWorld base := by
    intro o hpanic ho
    cases o with
    | ok s t => cases ho
    | abort m' => cases ho
    | panic m' t =>
      rw [← (Outcome.panic.inj (Option.some.inj ho)).2, hpanic m' t rfl]
  obtain ⟨clock, op⟩ := e
  cases op with
  | createEntrySpan => exact Or.inl (hcreate (fun _ _ => World.openSpan_panic) h)
  | createEntrySpanWithPropagation =>
    exact Or.inl (hcreate (fun _ _ => World.createWithPropagation_panic) h)
  | createExitSpan => exact Or.inl (hcreate (fun _ _ => World.createCommonSpan_panic) h)
  | createLocalSpan => exact Or.inl (hcreate (fun _ _ => World.createCommonSpan_panic) h)
  | addTag k key value => exact absurd h modifyObject_ne_panic
  | addLog k message => exact absurd h modifyObject_ne_panic
  | dropSpan k => exact Or.inr (Or.inl ⟨k, dropSpan_panic hL h⟩)
  | prepareForAsync k =>
    simp only [World.call, World.prepareForAsync] at h
    split at h
    · next s hs =>
      cases hprep : s.prepareForAsync clock (L.toWorld base).context.spanStack
          (L.toWorld base).context.wg with
      | ok a shared =>
        rw [hprep] at h
        cases h
      | panic m' shared => exact absurd hprep Span.prepareForAsync_ne_panic
      | abort m' =>
        rw [hprep] at h
        cases h
    · cases h
  | dropAsyncSpan k => exact absurd h (dropAsyncSpan_ne_panic hL)
  | capture => cases h
  | continued snapshot =>
    have hcontinued : ((L.toWorld base).context.continued snapshot).mapState
        (fun c => { L.toWorld base with context := c }) = .panic m w := Option.some.inj h
    cases hvalid : snapshot.isValid with
    | false =>
      rw [TracingContext.continued_of_not_valid hvalid] at hcontinued
      cases hcontinued
    | true =>
      cases htracer : (L.toWorld base).context.tracer with
      | none =>
        rw [TracingContext.continued_of_dropped hvalid htracer] at hcontinued
        -- the tracer is asked for after the trace is adopted
        exact Or.inr (Or.inr ⟨_, (Outcome.panic.inj hcontinued).2.symm⟩)
      | some tracer =>
        rw [TracingContext.continued_of_tracer hvalid htracer] at hcontinued
        cases hcontinued
  | dropContext => exact absurd rfl hop
  | dropTracer => cases h

/-! ## Parents and the stack -/

/-- A parent is older than its children, and each open span is the parent of the next one. -/
structure Chained (L : Ledger) : Prop where
  older : ∀ k, k < L.count → ∀ p, (L.record k).parent = some p → p < k
  stack : L.stack.IsChain fun a b => (L.record b).parent = some a

theorem chained_new (traceId : String) (tracer : WeakTracer) : (new traceId tracer).Chained :=
  ⟨fun _ hk => absurd hk (Nat.not_lt_zero _), List.IsChain.nil⟩

theorem step_chained (hL : L.Valid) (h : L.Chained) (hstep : L.step e = some L') :
    L'.Chained := by
  have hparents := (step_effect hstep).frame.parents
  -- the step changes no parent of a span that is there
  have hstack : L.stack.IsChain fun a b => (L'.record b).parent = some a := by
    refine h.stack.imp_of_mem_imp fun a b _ hb hab => ?_
    rw [hparents b (hL.mem_iff.1 (Or.inl hb)), hab]
  cases step_effect hstep with
  | opened _ hcount hpush _ hparent _ _ =>
    refine ⟨fun k hk p hp => ?_, ?_⟩
    · rw [hcount] at hk
      rcases Nat.lt_succ_iff_lt_or_eq.1 hk with hlt | rfl
      · rw [hparents k hlt] at hp
        exact h.older k hlt p hp
      · rw [hparent] at hp
        exact (hL.split_innermost hp).2.1
    · rw [hpush]
      -- the new span has the span below it as its parent
      refine hstack.append (List.IsChain.singleton _) fun a ha b hb => ?_
      rw [List.head?_cons, Option.mem_some_iff] at hb
      rw [← hb, hparent]
      exact ha
  | closed h' _ _ hcount hpop _ _ =>
    refine ⟨fun k hk p hp => ?_, ?_⟩
    · rw [hcount] at hk
      rw [hparents k hk] at hp
      exact h.older k hk p hp
    · rw [hpop]
      exact hstack.dropLast
  | kept _ hcount hsame _ _ =>
    refine ⟨fun k hk p hp => ?_, hsame ▸ hstack⟩
    rw [hcount] at hk
    rw [hparents k hk] at hp
    exact h.older k hk p hp

/-- An open span that is not innermost has a child. -/
theorem Chained.exists_child (hL : L.Valid) (h : L.Chained) {k : Nat} (hk : k ∈ L.stack)
    (hin : L.innermost ≠ some k) : ∃ c, c < L.count ∧ (L.record c).parent = some k := by
  obtain ⟨i, hi, hik⟩ := List.mem_iff_getElem.1 hk
  -- it is not last, so there is an open span above it
  have hnext : i + 1 < L.stack.length := by
    refine Nat.lt_of_le_of_ne hi fun hlast => hin ?_
    rw [innermost, List.getLast?_eq_getElem?, ← hik, List.getElem?_eq_some_iff]
    exact ⟨by omega, by simp [← hlast]⟩
  refine ⟨L.stack[i + 1], hL.mem_iff.1 (Or.inl (List.getElem_mem hnext)), ?_⟩
  rw [← hik]
  exact List.isChain_iff_getElem.1 h.stack i hnext

/-- The endpoint is the name of the span created last. -/
theorem step_endpoint (hstep : L.step e = some L') :
    L'.endpoint = (e.op.creation?.map fun c => c.operationName).getD L.endpoint := by
  have hpark : ∀ (M : Ledger) (ref : SegmentReference), (M.park ref).endpoint = M.endpoint := by
    intro M ref
    unfold park
    split <;> rfl
  obtain ⟨clock, op⟩ := e
  cases op with
  | createEntrySpan | createEntrySpanWithPropagation | createExitSpan | createLocalSpan =>
    obtain rfl := Option.some.inj hstep
    rfl
  | addTag | addLog =>
    simp only [step, edit] at hstep
    split at hstep
    · obtain rfl := Option.some.inj hstep
      rfl
    · cases hstep
  | dropSpan | prepareForAsync =>
    simp only [step, close] at hstep
    split at hstep
    · obtain rfl := Option.some.inj hstep
      rfl
    · cases hstep
  | dropAsyncSpan =>
    simp only [step, complete] at hstep
    split at hstep
    · obtain rfl := Option.some.inj hstep
      rfl
    · cases hstep
  | capture =>
    obtain rfl := Option.some.inj hstep
    rfl
  | continued snapshot =>
    simp only [step] at hstep
    split at hstep
    · obtain ⟨tracer, -, rfl⟩ := Option.map_eq_some_iff.1 hstep
      exact hpark _ _
    · obtain rfl := Option.some.inj hstep
      rfl
  | dropContext => cases hstep
  | dropTracer =>
    obtain rfl := Option.some.inj hstep
    rfl

end Ledger

/-! ## The world after any run -/

namespace World

variable {overflowChecks : Bool} {w w' : World} {e : Event} {es : List Event}
  {base : TracingContext} {L : Ledger} {lost : Nat → Bool}

/-- The world `w` is the world of the ledger `L`, which the calls `es` made, without the handles
that `lost` marks. -/
structure Behind (base : TracingContext) (es : List Event) (L : Ledger) (lost : Nat → Bool)
    (w : World) : Prop where
  valid : L.Valid
  recorded : L.Recorded es
  chained : L.Chained
  endpoint : L.endpoint = ((creations es).getLast?.map fun c => c.operationName).getD ""
  eq : w = (L.toWorld base).hide lost
  /-- A span whose handle was lost was not innermost then. -/
  child : ∀ k, lost k = true → ∃ c, c < L.count ∧ (L.record c).parent = some k

theorem behind_new (serviceName instanceName traceId traceSegmentId : String)
    (tracer : WeakTracer) :
    Behind (.new serviceName instanceName traceId traceSegmentId tracer) []
      (.new traceId tracer) (fun _ => false)
      (World.new serviceName instanceName traceId traceSegmentId tracer) where
  valid := Ledger.valid_new traceId tracer
  recorded := Ledger.recorded_new traceId tracer
  chained := Ledger.chained_new traceId tracer
  endpoint := rfl
  eq := by rw [hide_none, Ledger.new_toWorld]
  child _ hk := nomatch hk

theorem Behind.fresh (h : Behind base es L lost w) (k : Nat) (hk : L.count ≤ k) :
    lost k = false := by
  -- a marked handle has a child, which is younger
  by_contra hlost
  obtain ⟨c, hc, hparent⟩ := h.child k (by simpa using hlost)
  have := h.chained.older c hc k hparent
  omega

/-- A call that returns is a call of the ledger. -/
theorem Behind.step_ledger (h : Behind base es L lost w) (hop : e.op ≠ .dropContext)
    (hstep : w.step overflowChecks e = some w') :
    ∃ L', L.step e = some L' ∧ Behind base (es ++ [e]) L' lost w' := by
  have hfresh : ∀ k, (L.toWorld base).handles.length ≤ k → lost k = false := by
    intro k hk
    exact h.fresh k (by simpa [Ledger.toWorld] using hk)
  rw [step_eq_some_iff, h.eq] at hstep
  obtain ⟨o, ho, heq⟩ := call_hide rfl hfresh hop hstep
  obtain ⟨W, rfl, hW⟩ := Outcome.mapState_eq_ok_iff.1 heq.symm
  obtain ⟨L', hL', rfl⟩ := Ledger.step_refines h.valid hop (step_eq_some_iff.2 ho)
  refine ⟨L', hL', Ledger.step_valid h.valid hL', Ledger.step_recorded h.valid h.recorded hL',
    Ledger.step_chained h.valid h.chained hL', ?_, hW.symm, fun k hk => ?_⟩
  · rw [Ledger.step_endpoint hL', h.endpoint, creations_append]
    cases hc : e.op.creation? with
    | none => simp [creations, hc]
    | some c => simp [creations, hc]
  · obtain ⟨c, hc, hparent⟩ := h.child k hk
    exact ⟨c, Nat.lt_of_lt_of_le hc (Ledger.step_count_le hL'),
      by rw [(Ledger.step_effect hL').frame.parents c hc, hparent]⟩

theorem Behind.step (h : Behind base es L lost w) (hop : e.op ≠ .dropContext)
    (hstep : w.step overflowChecks e = some w') :
    ∃ L', Behind base (es ++ [e]) L' lost w' := by
  obtain ⟨L', -, h'⟩ := h.step_ledger hop hstep
  exact ⟨L', h'⟩

/-- After a call that panics the ledger is the same but for its trace, and a handle may be gone. -/
theorem Behind.panic_ledger (h : Behind base es L lost w) (hop : e.op ≠ .dropContext) {m : String}
    (hcall : w.call overflowChecks e = some (.panic m w')) :
    ∃ L' lost', L'.count = L.count ∧ L'.record = L.record ∧ Behind base es L' lost' w' := by
  have hfresh : ∀ k, (L.toWorld base).handles.length ≤ k → lost k = false := by
    intro k hk
    exact h.fresh k (by simpa [Ledger.toWorld] using hk)
  rw [h.eq] at hcall
  obtain ⟨o, ho, heq⟩ := call_hide rfl hfresh hop hcall
  cases o with
  | ok u W => cases heq
  | abort m' => cases heq
  | panic m' W =>
    obtain rfl := (Outcome.panic.inj heq).2
    rcases Ledger.call_panic h.valid hop ho with rfl | ⟨k, hk, hin, rfl⟩ | ⟨traceId, rfl⟩
    · exact ⟨L, lost, rfl, rfl, h.valid, h.recorded, h.chained, h.endpoint, rfl, h.child⟩
    -- the drop of a span that is open but not innermost: its handle is marked
    · refine ⟨L, Function.update lost k true, rfl, rfl, h.valid, h.recorded, h.chained, h.endpoint,
        hide_setHandle_closed, fun j hj => ?_⟩
      by_cases hjk : j = k
      · rw [hjk]
        exact h.chained.exists_child h.valid hk hin
      · rw [Function.update_of_ne hjk] at hj
        exact h.child j hj
    -- `continued` without its tracer
    · exact ⟨{ L with traceId := traceId }, lost, rfl, rfl,
        ⟨h.valid.perm, h.valid.opened, h.valid.closed⟩,
        ⟨h.recorded.count, h.recorded.order, h.recorded.span, h.recorded.fresh⟩,
        ⟨h.chained.older, h.chained.stack⟩, h.endpoint, rfl, h.child⟩

theorem Behind.panic (h : Behind base es L lost w) (hop : e.op ≠ .dropContext) {m : String}
    (hcall : w.call overflowChecks e = some (.panic m w')) :
    ∃ L' lost', Behind base es L' lost' w' := by
  obtain ⟨L', lost', -, -, h'⟩ := h.panic_ledger hop hcall
  exact ⟨L', lost', h'⟩

/-- The world after a run on a live context, caught panics included, is the world of a ledger that
the calls which returned have made, without some `Span` handles. -/
theorem Behind.run (h : Behind base es L lost w) {fs : List Event}
    (hops : ∀ e ∈ fs, e.op ≠ .dropContext)
    (hrun : Execution.run (World.after overflowChecks) w fs = some w') :
    ∃ L' lost', Behind base (es ++ returned overflowChecks w fs) L' lost' w' := by
  induction fs generalizing es L lost w with
  | nil =>
    obtain rfl := Option.some.inj hrun
    exact ⟨L, lost, by simpa [returned] using h⟩
  | cons e fs ih =>
    obtain ⟨v, hv, hrest⟩ := Execution.run_cons_iff.1 hrun
    have hop := hops e List.mem_cons_self
    have hops' : ∀ e ∈ fs, e.op ≠ .dropContext := fun e he => hops e (List.mem_cons_of_mem _ he)
    obtain ⟨o, hcall, rfl | ⟨m, rfl⟩⟩ := after_eq_some_iff.1 hv
    -- a call that returns joins the history of the ledger, a panic does not
    · obtain ⟨L₁, h₁⟩ := h.step hop (step_eq_some_iff.2 hcall)
      obtain ⟨L', lost', h'⟩ := ih h₁ hops' hrest
      refine ⟨L', lost', ?_⟩
      simpa [returned, hcall] using h'
    · obtain ⟨L₁, lost₁, h₁⟩ := h.panic hop hcall
      obtain ⟨L', lost', h'⟩ := ih h₁ hops' hrest
      refine ⟨L', lost', ?_⟩
      simpa [returned, hcall] using h'

/-- The ledger behind a run from a fresh context. -/
theorem run_behind {serviceName instanceName traceId traceSegmentId : String}
    {tracer : WeakTracer} (hops : ∀ e ∈ es, e.op ≠ .dropContext)
    (hrun : Execution.run (World.after overflowChecks)
      (World.new serviceName instanceName traceId traceSegmentId tracer) es = some w) :
    ∃ L lost, Behind (.new serviceName instanceName traceId traceSegmentId tracer)
      (returned overflowChecks
        (World.new serviceName instanceName traceId traceSegmentId tracer) es) L lost w :=
  (behind_new serviceName instanceName traceId traceSegmentId tracer).run hops hrun

end World

end SkywalkingAgent.Trace
