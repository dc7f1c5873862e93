import SkywalkingAgent.Trace.SpanStack

/-!
# Span handles

`Span` and `AsyncSpan` of `trace/span.rs`. A handle owns its span object and reaches the span stack
and the wait group of its context through shared pointers, which are arguments and results here.
-/

set_option autoImplicit false

namespace SkywalkingAgent.Trace

open SkywalkingAgent.Lib SkywalkingAgent.Common SkywalkingAgent.Proto

/-- `SKYWALKING_RUST_COMPONENT_ID`. -/
def skywalkingRustComponentId : Int := 11000

/-- The message of `Option::unwrap` on an absent value. -/
def unwrapMessage : String := "called `Option::unwrap()` on a `None` value"

/-- `Span`, without its clones of the stack and of the wait group; the object is taken when the span
ends or becomes asynchronous. -/
structure Span where
  uid : SpanUid
  obj : Option SpanObject
  deriving DecidableEq, Repr

/-- The handle that `prepare_for_async` returns; its pointer to the stack is weak. -/
structure AsyncSpan where
  uid : SpanUid
  obj : Option SpanObject
  deriving DecidableEq, Repr

namespace Span

/-- `Span::new`. -/
def new (uid : SpanUid) (obj : SpanObject) : Span := ⟨uid, some obj⟩

/-- `Span::new_obj`. -/
def newObj (clock : Clock) (spanId parentSpanId : Int) (operationName remotePeer : String)
    (spanType : SpanType) (spanLayer : SpanLayer) (skipAnalysis : Bool) : SpanObject where
  spanId := spanId
  parentSpanId := parentSpanId
  startTime := clock .start
  endTime := 0
  refs := []
  operationName := operationName
  peer := remotePeer
  spanType := spanType
  spanLayer := spanLayer
  componentId := skywalkingRustComponentId
  isError := false
  tags := []
  logs := []
  skipAnalysis := skipAnalysis

/-- `Span::is_active_span`. -/
def isActiveSpan (self : Span) (stack : SpanStack) : Bool :=
  match stack.active.getLast? with
  | some span => decide (span.uid = self.uid)
  | none => false

/-- `span_object_mut` followed by a change of the object. -/
def modifyObject (self : Span) (f : SpanObject → SpanObject) : Outcome Span Unit :=
  match self.obj with
  | some obj => .ok () { self with obj := some (f obj) }
  | none => .panic unwrapMessage self

/-- `Drop for Span`. -/
def drop (clock : Clock) (self : Span) (stack : SpanStack) : Outcome SpanStack Unit :=
  stack.finalizeSpan clock self.uid self.obj

/-- `Span::prepare_for_async`. The handle is consumed: on return it is dropped without its object,
which leaves the placeholder; when the check panics it is dropped with its object while the panic
unwinds, and a second panic from there aborts the process. -/
def prepareForAsync (clock : Clock) (self : Span) (stack : SpanStack) (wg : WaitGroup) :
    Outcome (SpanStack × WaitGroup) AsyncSpan :=
  if self.isActiveSpan stack then
    let wg := wg.add 1
    let asyncSpan : AsyncSpan := ⟨self.uid, self.obj⟩
    -- the object has moved to the new handle, so this drop leaves the placeholder
    match drop clock { self with obj := none } stack with
    | .ok () stack => .ok asyncSpan (stack, wg)
    | .panic m stack => .panic m (stack, wg)
    | .abort m => .abort m
  else
    -- the assertion has failed, and the handle is dropped while the panic unwinds
    match drop clock self stack with
    | .ok () stack => .panic "current span isn't active span" (stack, wg)
    | .panic m _ => .abort m
    | .abort m => .abort m

/-- The active span of a stack is its top. -/
theorem isActiveSpan_iff {self : Span} {stack : SpanStack} :
    self.isActiveSpan stack = true ↔ ∃ s a, stack.active = s ++ [a] ∧ a.uid = self.uid := by
  unfold isActiveSpan
  rcases List.eq_nil_or_concat' stack.active with hnil | ⟨s, a, hs⟩
  · simp [hnil]
  · simp only [hs, List.getLast?_concat, decide_eq_true_eq, List.append_singleton_inj]
    constructor
    · intro ha
      exact ⟨s, a, ⟨rfl, rfl⟩, ha⟩
    · rintro ⟨s', a', ⟨-, rfl⟩, ha⟩
      exact ha

/-- `prepare_for_async` returns exactly for the top of the stack; it counts the span in the wait
group, pops it and leaves a placeholder with the reference parked on it. -/
theorem prepareForAsync_eq_ok_iff {clock : Clock} {self : Span} {stack : SpanStack}
    {wg : WaitGroup} {a : AsyncSpan} {t : SpanStack × WaitGroup} :
    self.prepareForAsync clock stack wg = .ok a t ↔
      a = ⟨self.uid, self.obj⟩ ∧ ∃ s top, stack.active = s ++ [top] ∧ top.uid = self.uid ∧
        t = (⟨stack.finalized ++ [⟨self.uid, none, top.ref⟩], s⟩, wg.add 1) := by
  unfold prepareForAsync drop
  by_cases hactive : self.isActiveSpan stack = true
  · obtain ⟨s, top, hs, htop⟩ := isActiveSpan_iff.1 hactive
    have hfin : stack.finalizeSpan clock self.uid none =
        .ok () ⟨stack.finalized ++ [⟨self.uid, none, top.ref⟩], s⟩ :=
      SpanStack.finalizeSpan_eq_ok_iff.2
        ⟨s, top, hs, htop, by simp [SpanStack.closedEntry, htop]⟩
    rw [if_pos hactive]
    simp only [hfin, Outcome.ok.injEq]
    constructor
    · rintro ⟨rfl, rfl⟩
      exact ⟨rfl, s, top, hs, htop, rfl⟩
    · rintro ⟨rfl, s', top', hs', -, rfl⟩
      rw [hs, List.append_singleton_inj] at hs'
      obtain ⟨rfl, rfl⟩ := hs'
      exact ⟨rfl, rfl⟩
  -- for a span that is not on top both outcomes of the drop panic
  · rw [if_neg hactive]
    constructor
    · intro h
      split at h <;> cases h
    · rintro ⟨-, s, top, hs, htop, -⟩
      exact absurd (isActiveSpan_iff.2 ⟨s, top, hs, htop⟩) hactive

/-- A failed check never leaves a state behind: the handle is dropped with its object while the
panic unwinds, and this drop panics for the same reason. -/
theorem prepareForAsync_ne_panic {clock : Clock} {self : Span} {stack : SpanStack}
    {wg : WaitGroup} {m : String} {t : SpanStack × WaitGroup} :
    self.prepareForAsync clock stack wg ≠ .panic m t := by
  intro h
  unfold prepareForAsync drop at h
  split at h
  -- on top of the stack the second drop succeeds, so nothing panics
  · next hactive =>
    obtain ⟨s, top, hs, htop⟩ := isActiveSpan_iff.1 hactive
    have hfin : stack.finalizeSpan clock self.uid none =
        .ok () ⟨stack.finalized ++ [⟨self.uid, none, top.ref⟩], s⟩ :=
      SpanStack.finalizeSpan_eq_ok_iff.2
        ⟨s, top, hs, htop, by simp [SpanStack.closedEntry, htop]⟩
    simp [hfin] at h
  -- elsewhere the drop cannot succeed, so a second panic aborts
  · next hactive =>
    split at h
    · next hdrop =>
      obtain ⟨s, top, hs, htop, -⟩ := SpanStack.finalizeSpan_eq_ok_iff.1 hdrop
      exact hactive (isActiveSpan_iff.2 ⟨s, top, hs, htop⟩)
    · cases h
    · cases h

end Span

namespace AsyncSpan

/-- `span_object_mut` followed by a change of the object. -/
def modifyObject (self : AsyncSpan) (f : SpanObject → SpanObject) : Outcome AsyncSpan Unit :=
  match self.obj with
  | some obj => .ok () { self with obj := some (f obj) }
  | none => .panic unwrapMessage self

/-- The first half of `Drop for AsyncSpan`: fill the placeholder. `stackAlive` says whether the
weak pointer to the stack still upgrades. -/
def fill (clock : Clock) (self : AsyncSpan) (stackAlive : Bool) (stack : SpanStack) :
    Outcome SpanStack Unit :=
  if stackAlive then
    match self.obj with
    | some obj => stack.finalizeAsyncSpan clock self.uid obj
    | none => .panic unwrapMessage stack
  else .panic "TracingContext has dropped" stack

/-- `Drop for AsyncSpan`: fill the placeholder, then `WaitGroup::done`. -/
def drop (overflowChecks : Bool) (clock : Clock) (self : AsyncSpan) (stackAlive : Bool)
    (stack : SpanStack) (wg : WaitGroup) : Outcome (SpanStack × WaitGroup) Unit :=
  match self.fill clock stackAlive stack with
  | .ok () stack => (wg.done overflowChecks).mapState fun wg => (stack, wg)
  | .panic m stack => .panic m (stack, wg)
  | .abort m => .abort m

theorem fill_eq_ok_iff {clock : Clock} {self : AsyncSpan} {stackAlive : Bool}
    {stack t : SpanStack} :
    self.fill clock stackAlive stack = .ok () t ↔
      stackAlive = true ∧ ∃ obj fs, self.obj = some obj ∧
        SpanStack.fill clock self.uid obj stack.finalized = some fs ∧
        t = { stack with finalized := fs } := by
  unfold fill SpanStack.finalizeAsyncSpan
  cases stackAlive with
  | false => simp
  | true =>
    cases hobj : self.obj with
    | none => simp
    | some obj =>
      cases hfill : SpanStack.fill clock self.uid obj stack.finalized with
      | none => simp [hfill]
      | some fs => simp [hfill, eq_comm]

theorem drop_eq_ok_iff {overflowChecks : Bool} {clock : Clock} {self : AsyncSpan}
    {stackAlive : Bool} {stack : SpanStack} {wg : WaitGroup} {t : SpanStack × WaitGroup} :
    self.drop overflowChecks clock stackAlive stack wg = .ok () t ↔
      self.fill clock stackAlive stack = .ok () t.1 ∧
        wg.done overflowChecks = .ok () t.2 := by
  obtain ⟨stack', wg'⟩ := t
  unfold drop
  cases hfill : self.fill clock stackAlive stack with
  | ok u s =>
    simp only [Outcome.mapState_eq_ok_iff, Prod.mk.injEq, Outcome.ok.injEq, true_and]
    constructor
    · rintro ⟨wg'', hwg, hs, hw⟩
      exact ⟨hs, hw ▸ hwg⟩
    · rintro ⟨hs, hwg⟩
      exact ⟨wg', hwg, hs, rfl⟩
  | panic m s => simp
  | abort m => simp

/-- The end of an asynchronous span leaves the active stack alone. -/
theorem drop_active {overflowChecks : Bool} {clock : Clock} {self : AsyncSpan} {stackAlive : Bool}
    {stack : SpanStack} {wg : WaitGroup} {t : SpanStack × WaitGroup}
    (h : self.drop overflowChecks clock stackAlive stack wg = .ok () t ∨
      ∃ m, self.drop overflowChecks clock stackAlive stack wg = .panic m t) :
    t.1.active = stack.active := by
  -- a failed search leaves the whole stack as it is
  have hfill : ∀ s, (self.fill clock stackAlive stack).state? = some s →
      s.active = stack.active := by
    intro s hs
    unfold fill SpanStack.finalizeAsyncSpan at hs
    split at hs
    · split at hs
      · split at hs
        · obtain rfl := (Option.some.inj hs).symm
          rfl
        · obtain rfl := (Option.some.inj hs).symm
          rfl
      · obtain rfl := (Option.some.inj hs).symm
        rfl
    · obtain rfl := (Option.some.inj hs).symm
      rfl
  -- `done` may still panic, with the placeholder filled
  have hdrop : (self.drop overflowChecks clock stackAlive stack wg).state? = some t :=
    Outcome.state?_eq_some_iff.2 (h.imp (fun h => ⟨(), h⟩) id)
  unfold drop at hdrop
  cases hf : self.fill clock stackAlive stack with
  | ok u s =>
    have hs := hfill s (by rw [hf]; rfl)
    rw [hf] at hdrop
    cases hwg : wg.done overflowChecks with
    | ok u' wg' =>
      simp only [hwg, Outcome.mapState, Outcome.state?, Option.some.injEq] at hdrop
      rw [← hdrop, hs]
    | panic m wg' =>
      simp only [hwg, Outcome.mapState, Outcome.state?, Option.some.injEq] at hdrop
      rw [← hdrop, hs]
    | abort m => simp [hwg, Outcome.mapState, Outcome.state?] at hdrop
  | panic m s =>
    have hs := hfill s (by rw [hf]; rfl)
    rw [hf] at hdrop
    obtain rfl := (Option.some.inj hdrop).symm
    exact hs
  | abort m =>
    rw [hf] at hdrop
    cases hdrop

end AsyncSpan

end SkywalkingAgent.Trace
