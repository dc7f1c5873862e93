import SkywalkingAgent.Trace.History

/-!
# What a call can do to the ledger

Every call opens a span, closes the innermost one, or leaves the numbers alone (`Ledger.Effect`);
whichever it does, it adopts a trace and parks a reference only as the call says
(`Ledger.Frame`). The invariants of the numbering, of the links and of the trace are derived from
`Ledger.step_effect`, without another look at the calls.
-/

set_option autoImplicit false

namespace SkywalkingAgent.Trace

open SkywalkingAgent.Lib SkywalkingAgent.Common SkywalkingAgent.Proto
open SkywalkingAgent.Propagation SkywalkingAgent.Reporter

/-- The trace that a call adopts. -/
def Op.adopts? : Op → Option String
  | .createEntrySpanWithPropagation _ propagation => some propagation.parentTraceId
  | .continued snapshot => if snapshot.isValid then some snapshot.traceId else none
  | _ => none

/-- The snapshot that a call links the span `k` to, when `innermost` is the innermost span. -/
def Op.link? (k : Nat) (innermost : Option Nat) : Op → Option ContextSnapshot
  | .continued snapshot =>
      if snapshot.isValid ∧ innermost = some k then some snapshot else none
  | _ => none

namespace Ledger

variable {L L' : Ledger} {e : Event} {es : List Event}

/-- What every call leaves alone but for what it says. -/
structure Frame (L : Ledger) (op : Op) (L' : Ledger) : Prop where
  parents : ∀ k, k < L.count → (L'.record k).parent = (L.record k).parent
  parked : ∀ k, k < L.count → (L'.record k).parked =
    ((op.link? k L.innermost).bind fun snapshot =>
      L.tracer.map fun tracer => TracingContext.snapshotRef tracer snapshot).or (L.record k).parked
  traceId : L'.traceId = op.adopts?.getD L.traceId
  tracer : L'.tracer = L.tracer ∨ L'.tracer = none

/-- What a call does to the numbers, the stack and the closing order. -/
inductive Effect (L : Ledger) (op : Op) (L' : Ledger) : Prop where
  | opened (creates : op.creation?.isSome) (count : L'.count = L.count + 1)
      (stack : L'.stack = L.stack ++ [L.count]) (order : L'.order = L.order)
      (parent : (L'.record L.count).parent = L.innermost)
      (parked : (L'.record L.count).parked = none) (frame : Frame L op L')
  | closed (h : Nat) (innermost : L.innermost = some h) (creates : op.creation? = none)
      (count : L'.count = L.count) (stack : L'.stack = L.stack.dropLast)
      (order : L'.order = L.order ++ [h]) (frame : Frame L op L')
  | kept (creates : op.creation? = none) (count : L'.count = L.count)
      (stack : L'.stack = L.stack) (order : L'.order = L.order) (frame : Frame L op L')

theorem Effect.frame {op : Op} (h : Effect L op L') : Frame L op L' := by
  cases h with
  | opened _ _ _ _ _ _ hframe => exact hframe
  | closed _ _ _ _ _ _ hframe => exact hframe
  | kept _ _ _ _ hframe => exact hframe

/-- A call that parks nothing and changes no parent. -/
theorem frame_of_record {op : Op} (hlink : ∀ k i, op.link? k i = none)
    (hrecord : ∀ k, k < L.count → (L'.record k).parent = (L.record k).parent ∧
      (L'.record k).parked = (L.record k).parked)
    (htrace : L'.traceId = op.adopts?.getD L.traceId)
    (htracer : L'.tracer = L.tracer ∨ L'.tracer = none) : Frame L op L' :=
  ⟨fun k hk => (hrecord k hk).1, fun k hk => by simp [hlink, (hrecord k hk).2], htrace, htracer⟩

theorem parent_setRecord {h : Nat} {r : SpanRecord} (hr : r.parent = (L.record h).parent)
    (k : Nat) : ((L.setRecord h r).record k).parent = (L.record k).parent := by
  by_cases hk : k = h
  · rw [hk, record_setRecord_self, hr]
  · rw [record_setRecord_of_ne r hk]

theorem parked_setRecord {h : Nat} {r : SpanRecord} (hr : r.parked = (L.record h).parked)
    (k : Nat) : ((L.setRecord h r).record k).parked = (L.record k).parked := by
  by_cases hk : k = h
  · rw [hk, record_setRecord_self, hr]
  · rw [record_setRecord_of_ne r hk]

theorem effect_openSpan {op : Op} {obj : SpanObject} (hcreate : op.creation?.isSome)
    (hlink : ∀ k i, op.link? k i = none) (hcount : L'.count = L.count + 1)
    (hstack : L'.stack = L.stack ++ [L.count]) (horder : L'.order = L.order)
    (hrecord : L'.record = Function.update L.record L.count ⟨L.innermost, obj, none, .opened⟩)
    (htrace : L'.traceId = op.adopts?.getD L.traceId) (htracer : L'.tracer = L.tracer) :
    Effect L op L' := by
  refine .opened hcreate hcount hstack horder ?_ ?_
    (frame_of_record hlink (fun k hk => ?_) htrace (Or.inl htracer))
  · rw [hrecord, Function.update_self]
  · rw [hrecord, Function.update_self]
  · rw [hrecord, Function.update_of_ne (Nat.ne_of_lt hk)]
    exact ⟨rfl, rfl⟩

theorem effect_close {op : Op} {h : Nat} {r : SpanRecord} (hclose : L.close h r = some L')
    (hcreate : op.creation? = none) (hlink : ∀ k i, op.link? k i = none)
    (hadopt : op.adopts? = none) (hparent : r.parent = (L.record h).parent)
    (hparked : r.parked = (L.record h).parked) : Effect L op L' := by
  unfold close at hclose
  split at hclose
  · next hin =>
    obtain rfl := (Option.some.inj hclose).symm
    exact .closed h hin hcreate rfl rfl rfl (frame_of_record hlink
      (fun k _ => ⟨parent_setRecord hparent k, parked_setRecord hparked k⟩)
      (by simp [hadopt, setRecord]) (Or.inl rfl))
  · simp at hclose

theorem effect_setRecord {op : Op} {h : Nat} {r : SpanRecord} (hcreate : op.creation? = none)
    (hlink : ∀ k i, op.link? k i = none) (hadopt : op.adopts? = none)
    (hparent : r.parent = (L.record h).parent) (hparked : r.parked = (L.record h).parked) :
    Effect L op (L.setRecord h r) :=
  .kept hcreate rfl rfl rfl (frame_of_record hlink
    (fun k _ => ⟨parent_setRecord hparent k, parked_setRecord hparked k⟩)
    (by simp [hadopt]) (Or.inl rfl))

theorem effect_edit {op : Op} {h : Nat} {f : SpanObject → SpanObject}
    (hedit : L.edit h f = some L') (hcreate : op.creation? = none)
    (hlink : ∀ k i, op.link? k i = none) (hadopt : op.adopts? = none) : Effect L op L' := by
  unfold edit at hedit
  split at hedit
  · obtain rfl := (Option.some.inj hedit).symm
    exact effect_setRecord hcreate hlink hadopt rfl rfl
  · simp at hedit

/-- Parking a reference changes the parked reference of the innermost span only. -/
theorem park_eq (ref : SegmentReference) :
    (L.park ref).count = L.count ∧ (L.park ref).stack = L.stack ∧ (L.park ref).order = L.order ∧
      (L.park ref).traceId = L.traceId ∧ (L.park ref).tracer = L.tracer ∧
      ∀ k, ((L.park ref).record k).parent = (L.record k).parent ∧
        ((L.park ref).record k).parked =
          if L.innermost = some k then some ref else (L.record k).parked := by
  cases hin : L.innermost with
  | none => simp [park, hin]
  | some h =>
    have hpark : L.park ref = L.setRecord h { L.record h with parked := some ref } := by
      simp [park, hin]
    rw [hpark]
    refine ⟨rfl, rfl, rfl, rfl, rfl, fun k => ⟨parent_setRecord (by rfl) k, ?_⟩⟩
    -- only the innermost record is written
    by_cases hk : k = h
    · simp [hk]
    · have hhk : h ≠ k := Ne.symm hk
      simp [record_setRecord_of_ne _ hk, hhk]

theorem effect_continued {snapshot : ContextSnapshot} {tracer : Tracer}
    (hvalid : snapshot.isValid) (htracer : L.tracer = some tracer) :
    Effect L (.continued snapshot)
      ({ L with traceId := snapshot.traceId }.park
        (TracingContext.snapshotRef tracer snapshot)) := by
  obtain ⟨hcount, hstack, horder, htrace, htr, hrecord⟩ :=
    park_eq (L := { L with traceId := snapshot.traceId })
      (TracingContext.snapshotRef tracer snapshot)
  refine .kept rfl hcount hstack horder ⟨fun k _ => (hrecord k).1, fun k _ => ?_, ?_, Or.inl htr⟩
  · have hin : ({ L with traceId := snapshot.traceId } : Ledger).innermost = L.innermost := rfl
    rw [(hrecord k).2, hin]
    by_cases hk : L.innermost = some k
    · simp [Op.link?, hvalid, hk, htracer]
    · simp [Op.link?, hk]
  · rw [htrace]
    simp [Op.adopts?, hvalid]

/-- Every call has one of the three effects. -/
theorem step_effect (hstep : L.step e = some L') : Effect L e.op L' := by
  obtain ⟨clock, op⟩ := e
  -- the calls that leave every record as it is
  have hsame : ∀ {op : Op} {M : Ledger}, op.creation? = none → (∀ k i, op.link? k i = none) →
      op.adopts? = none → M.count = L.count → M.stack = L.stack → M.order = L.order →
      M.record = L.record → M.traceId = L.traceId → M.tracer = L.tracer ∨ M.tracer = none →
      Effect L op M := by
    intro op M hcreate hlink hadopt hcount hstack horder hrecord htrace htracer
    exact .kept hcreate hcount hstack horder (frame_of_record hlink
      (fun k _ => by rw [hrecord]; exact ⟨rfl, rfl⟩) (by rw [htrace, hadopt]; rfl) htracer)
  cases op with
  | createEntrySpan operationName =>
    obtain rfl := (Option.some.inj hstep).symm
    exact effect_openSpan rfl (fun _ _ => rfl) rfl rfl rfl rfl rfl rfl
  | createEntrySpanWithPropagation operationName propagation =>
    obtain rfl := (Option.some.inj hstep).symm
    exact effect_openSpan rfl (fun _ _ => rfl) rfl rfl rfl rfl rfl rfl
  | createExitSpan operationName remotePeer =>
    obtain rfl := (Option.some.inj hstep).symm
    exact effect_openSpan rfl (fun _ _ => rfl) rfl rfl rfl rfl rfl rfl
  | createLocalSpan operationName =>
    obtain rfl := (Option.some.inj hstep).symm
    exact effect_openSpan rfl (fun _ _ => rfl) rfl rfl rfl rfl rfl rfl
  | addTag h key value =>
    exact effect_edit (f := fun obj => obj.addTag key value) hstep rfl (fun _ _ => rfl) rfl
  | addLog h message =>
    exact effect_edit (f := fun obj => obj.addLog (clock .log) message) hstep rfl
      (fun _ _ => rfl) rfl
  | dropSpan h => exact effect_close hstep rfl (fun _ _ => rfl) rfl rfl rfl
  | prepareForAsync h => exact effect_close hstep rfl (fun _ _ => rfl) rfl rfl rfl
  | dropAsyncSpan h =>
    simp only [step, complete] at hstep
    split at hstep
    · obtain rfl := (Option.some.inj hstep).symm
      exact effect_setRecord rfl (fun _ _ => rfl) rfl rfl rfl
    · simp at hstep
  | capture =>
    obtain rfl := (Option.some.inj hstep).symm
    exact hsame rfl (fun _ _ => rfl) rfl rfl rfl rfl rfl rfl (Or.inl rfl)
  | continued snapshot =>
    simp only [step] at hstep
    split at hstep
    · next hvalid =>
      obtain ⟨tracer, htracer, rfl⟩ := Option.map_eq_some_iff.1 hstep
      exact effect_continued hvalid htracer
    · next hvalid =>
      obtain rfl := (Option.some.inj hstep).symm
      -- an invalid snapshot links nothing and adopts nothing
      exact hsame rfl (fun _ _ => by simp [Op.link?, hvalid]) (by simp [Op.adopts?, hvalid])
        rfl rfl rfl rfl rfl (Or.inl rfl)
  | dropContext => simp [step] at hstep
  | dropTracer =>
    obtain rfl := (Option.some.inj hstep).symm
    exact hsame rfl (fun _ _ => rfl) rfl rfl rfl rfl rfl rfl (Or.inr rfl)

theorem step_count_le (hstep : L.step e = some L') : L.count ≤ L'.count := by
  cases step_effect hstep with
  | opened _ hcount => omega
  | closed _ _ _ hcount => omega
  | kept _ hcount => omega

/-- The parent of a span is fixed at its creation. -/
theorem run_parent {k : Nat} (hk : k < L.count) (hrun : run L es = some L') :
    k < L'.count ∧ (L'.record k).parent = (L.record k).parent := by
  refine Execution.run_invariant
    (I := fun M => k < M.count ∧ (M.record k).parent = (L.record k).parent) ⟨hk, rfl⟩ ?_ hrun
  rintro A B e ⟨hlt, hpar⟩ hstep
  exact ⟨Nat.lt_of_lt_of_le hlt (step_count_le hstep),
    by rw [(step_effect hstep).frame.parents k hlt, hpar]⟩

/-- A tracer that is alive at the end was there all along. -/
theorem run_tracer {tracer : Tracer} (hrun : run L es = some L')
    (htracer : L'.tracer = some tracer) : L.tracer = some tracer := by
  induction es generalizing L with
  | nil =>
    obtain rfl := Option.some.inj hrun
    exact htracer
  | cons e es ih =>
    obtain ⟨M, hstep, hrest⟩ := Execution.run_cons_iff.1 hrun
    have hM := ih hrest
    -- a step keeps the tracer or loses it for good
    rcases (step_effect hstep).frame.tracer with h | h
    · rw [← h, hM]
    · rw [hM] at h
      cases h

end Ledger

end SkywalkingAgent.Trace
