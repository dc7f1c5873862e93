import SkywalkingAgent.Trace.Links
import SkywalkingAgent.Trace.Panics
import SkywalkingAgent.Trace.Shape

/-!
# The times of a segment

A span takes its start time when it is created, its end time when a handle of it is dropped, and
the time of a log when the log is added. As long as the clock does not go back between the calls,
the times of a reported segment agree with its shape (`World.times_nest`): the interval of a span
that stayed on its thread is inside those of its ancestors, and ends before any later span starts
that is not below it. An asynchronous span can end after its ancestors.
-/

set_option autoImplicit false

namespace SkywalkingAgent.Trace

open SkywalkingAgent.Lib SkywalkingAgent.Common SkywalkingAgent.Proto
open SkywalkingAgent.Propagation SkywalkingAgent.Reporter

/-! ## The clock of a run -/

/-- The reading of the clock that a call writes into a span. -/
def Event.reading? (e : Event) : Option Int :=
  match e.op with
  | .createEntrySpan _ => some (e.clock .start)
  | .createEntrySpanWithPropagation _ _ => some (e.clock .start)
  | .createExitSpan _ _ => some (e.clock .start)
  | .createLocalSpan _ => some (e.clock .start)
  | .addLog _ _ => some (e.clock .log)
  | .dropSpan _ => some (e.clock .finish)
  | .dropAsyncSpan _ => some (e.clock .finish)
  | _ => none

/-- The times that the calls have read. -/
def readings (es : List Event) : List Int := es.filterMap Event.reading?

/-- From call to call the clock does not go back. -/
def Steady (es : List Event) : Prop := (readings es).Pairwise (· ≤ ·)

instance (es : List Event) : Decidable (Steady es) :=
  inferInstanceAs (Decidable (List.Pairwise _ _))

/-- The span `k` does not become asynchronous. -/
def InScope (es : List Event) (k : Nat) : Prop := ∀ e ∈ es, e.op ≠ .prepareForAsync k

instance (es : List Event) (k : Nat) : Decidable (InScope es k) :=
  inferInstanceAs (Decidable (∀ e ∈ es, _))

variable {es : List Event} {e : Event} {k : Nat}

theorem readings_concat : readings (es ++ [e]) = readings es ++ e.reading?.toList := by
  rw [readings, List.filterMap_append]
  cases hreading : e.reading? with
  | none => simp [hreading, readings]
  | some now => simp [hreading, readings]

/-- The reading of the last call is the latest one. -/
theorem Steady.concat (h : Steady (es ++ [e])) :
    Steady es ∧ ∀ now, e.reading? = some now → ∀ x ∈ readings es, x ≤ now := by
  rw [Steady, readings_concat, List.pairwise_append] at h
  obtain ⟨hsteady, -, hlast⟩ := h
  refine ⟨hsteady, ?_⟩
  intro now hnow x hx
  apply hlast x hx
  rw [hnow]
  exact List.mem_singleton_self now

theorem InScope.of_append {fs : List Event} (h : InScope (es ++ fs) k) : InScope es k := by
  intro e he
  exact h e (List.mem_append_left _ he)

/-! ## The times of one span -/

/-- What a call does to the times of the span `k`. -/
inductive Ticks (e : Event) (k : Nat) (r r' : SpanRecord) : Prop where
  | kept (start : r'.obj.startTime = r.obj.startTime) (logs : r'.obj.logs = r.obj.logs)
      (finish : r'.obj.endTime = r.obj.endTime)
      (phase : r'.phase = r.phase ∨
        r.phase ≠ .ended ∧ r'.phase = .detached ∧ e.op = .prepareForAsync k)
  | logged (log : Log) (reading : e.reading? = some log.time)
      (start : r'.obj.startTime = r.obj.startTime) (logs : r'.obj.logs = r.obj.logs ++ [log])
      (going : r.phase ≠ .ended) (phase : r'.phase = r.phase)
  | ended (reading : e.reading? = some r'.obj.endTime)
      (start : r'.obj.startTime = r.obj.startTime) (logs : r'.obj.logs = r.obj.logs)
      (going : r.phase ≠ .ended) (phase : r'.phase = .ended)

namespace Ticks

variable {r r' : SpanRecord}

theorem refl (e : Event) (k : Nat) (r : SpanRecord) : Ticks e k r r :=
  .kept rfl rfl rfl (Or.inl rfl)

theorem start (h : Ticks e k r r') : r'.obj.startTime = r.obj.startTime := by
  cases h with
  | kept hstart => exact hstart
  | logged _ _ hstart => exact hstart
  | ended _ hstart => exact hstart

/-- A span that has ended keeps its end. -/
theorem of_ended (h : Ticks e k r r') (hended : r.phase = .ended) :
    r'.phase = .ended ∧ r'.obj.endTime = r.obj.endTime := by
  cases h with
  | kept _ _ hfinish hphase =>
    rcases hphase with hphase | ⟨hgoing, -, -⟩
    · exact ⟨hphase.trans hended, hfinish⟩
    · exact absurd hended hgoing
  | logged _ _ _ _ hgoing => exact absurd hended hgoing
  | ended _ _ _ hgoing => exact absurd hended hgoing

/-- A span ends with the reading of the call. -/
theorem of_going (h : Ticks e k r r') (hgoing : r.phase ≠ .ended) (hended : r'.phase = .ended) :
    e.reading? = some r'.obj.endTime := by
  cases h with
  | kept _ _ _ hphase =>
    rcases hphase with hphase | ⟨-, hdetached, -⟩
    · exact absurd (hphase.symm.trans hended) hgoing
    · rw [hdetached] at hended
      cases hended
  | logged _ _ _ _ _ hphase => exact absurd (hphase.symm.trans hended) hgoing
  | ended hreading => exact hreading

/-- A span becomes detached by its own call only. -/
theorem of_detached (h : Ticks e k r r') (hdetached : r'.phase = .detached) :
    r.phase = .detached ∨ e.op = .prepareForAsync k := by
  cases h with
  | kept _ _ _ hphase =>
    rcases hphase with hphase | ⟨-, -, hop⟩
    · exact Or.inl (hphase.symm.trans hdetached)
    · exact Or.inr hop
  | logged _ _ _ _ _ hphase => exact Or.inl (hphase.symm.trans hdetached)
  | ended _ _ _ _ hphase =>
    rw [hphase] at hdetached
    cases hdetached

end Ticks

/-- The times of a span are readings, in order. -/
structure Timely (es : List Event) (r : SpanRecord) : Prop where
  start : r.obj.startTime ∈ readings es
  log : ∀ log ∈ r.obj.logs, log.time ∈ readings es ∧ r.obj.startTime ≤ log.time
  ended : r.phase = .ended → r.obj.endTime ∈ readings es ∧ r.obj.startTime ≤ r.obj.endTime ∧
    ∀ log ∈ r.obj.logs, log.time ≤ r.obj.endTime

theorem Timely.tick {r r' : SpanRecord} (h : Timely es r) (hsteady : Steady (es ++ [e]))
    (htick : Ticks e k r r') : Timely (es ++ [e]) r' := by
  have hold : ∀ x ∈ readings es, x ∈ readings (es ++ [e]) := by
    intro x hx
    rw [readings_concat]
    exact List.mem_append_left _ hx
  have hnew : ∀ now, e.reading? = some now → now ∈ readings (es ++ [e]) := by
    intro now hnow
    rw [readings_concat, hnow]
    exact List.mem_append_right _ (List.mem_singleton_self now)
  have hlatest := hsteady.concat.2
  cases htick with
  | kept hstart hlogs hfinish hphase =>
    refine ⟨hstart ▸ hold _ h.start, ?_, ?_⟩
    · intro log hlog
      rw [hlogs] at hlog
      obtain ⟨hread, hafter⟩ := h.log log hlog
      exact ⟨hold _ hread, hstart ▸ hafter⟩
    · intro hended
      have hbefore : r.phase = .ended := by
        rcases hphase with hphase | ⟨-, hdetached, -⟩
        · exact hphase ▸ hended
        · rw [hdetached] at hended
          cases hended
      obtain ⟨hread, hafter, hbound⟩ := h.ended hbefore
      rw [hfinish, hstart, hlogs]
      exact ⟨hold _ hread, hafter, hbound⟩
  | logged log hreading hstart hlogs hgoing hphase =>
    refine ⟨hstart ▸ hold _ h.start, ?_, ?_⟩
    · intro other hother
      rw [hlogs, List.mem_append, List.mem_singleton] at hother
      rcases hother with hother | rfl
      · obtain ⟨hread, hafter⟩ := h.log other hother
        exact ⟨hold _ hread, hstart ▸ hafter⟩
      · exact ⟨hnew _ hreading, hstart ▸ hlatest _ hreading _ h.start⟩
    · intro hended
      exact absurd (hphase.symm.trans hended) hgoing
  | ended hreading hstart hlogs hgoing hphase =>
    refine ⟨hstart ▸ hold _ h.start, ?_, ?_⟩
    · intro log hlog
      rw [hlogs] at hlog
      obtain ⟨hread, hafter⟩ := h.log log hlog
      exact ⟨hold _ hread, hstart ▸ hafter⟩
    · intro _
      refine ⟨hnew _ hreading, hstart ▸ hlatest _ hreading _ h.start, ?_⟩
      intro log hlog
      rw [hlogs] at hlog
      exact hlatest _ hreading _ (h.log log hlog).1

/-! ## The times of a ledger -/

namespace Ledger

variable {L L' : Ledger}

/-- The record of a span at its creation. -/
structure Starts (e : Event) (r : SpanRecord) : Prop where
  reading : e.reading? = some r.obj.startTime
  logs : r.obj.logs = []
  phase : r.phase = .opened

theorem ticks_setRecord {h : Nat} {r : SpanRecord} (hr : Ticks e h (L.record h) r) (k : Nat) :
    Ticks e k (L.record k) ((L.setRecord h r).record k) := by
  by_cases hk : k = h
  · rw [hk, record_setRecord_self]
    exact hr
  · rw [record_setRecord_of_ne r hk]
    exact .refl e k _

theorem ticks_close {h : Nat} {r : SpanRecord} (hclose : L.close h r = some L')
    (hr : L.innermost = some h → Ticks e h (L.record h) r) (k : Nat) :
    Ticks e k (L.record k) (L'.record k) := by
  rw [close, Option.ite_none_right_eq_some, Option.some.injEq] at hclose
  obtain ⟨hin, rfl⟩ := hclose
  exact ticks_setRecord (hr hin) k

theorem ticks_openSpan {clock : Clock} {operationName remotePeer : String} {spanType : SpanType}
    {spanLayer : SpanLayer} {refs : List SegmentReference} (hk : k < L.count) :
    Ticks e k (L.record k)
      ((L.openSpan clock operationName remotePeer spanType spanLayer refs).record k) := by
  show Ticks e k (L.record k) (Function.update L.record L.count _ k)
  rw [Function.update_of_ne (Nat.ne_of_lt hk)]
  exact .refl e k _

/-- A parked reference waits outside the object. -/
theorem ticks_park (L : Ledger) (ref : SegmentReference) (k : Nat) :
    Ticks e k (L.record k) ((L.park ref).record k) := by
  unfold park
  split
  · next h _ =>
    exact ticks_setRecord (r := { L.record h with parked := some ref })
      (.kept rfl rfl rfl (Or.inl rfl)) k
  · exact .refl e k _

theorem opened_of_innermost (hL : L.Valid) {h : Nat} (hin : L.innermost = some h) :
    (L.record h).phase = .opened := by
  apply hL.opened
  rw [(hL.split_innermost hin).1]
  exact List.mem_append_right _ (List.mem_singleton_self h)

/-- What a call does to the times of the spans that are there. -/
theorem step_ticks (hL : L.Valid) (hstep : L.step e = some L') (hk : k < L.count) :
    Ticks e k (L.record k) (L'.record k) := by
  obtain ⟨clock, op⟩ := e
  cases op with
  | createEntrySpan operationName =>
    obtain rfl := (Option.some.inj hstep).symm
    exact ticks_openSpan hk
  | createEntrySpanWithPropagation operationName propagation =>
    obtain rfl := (Option.some.inj hstep).symm
    exact ticks_openSpan hk
  | createExitSpan operationName remotePeer =>
    obtain rfl := (Option.some.inj hstep).symm
    exact ticks_openSpan hk
  | createLocalSpan operationName =>
    obtain rfl := (Option.some.inj hstep).symm
    exact ticks_openSpan hk
  | addTag h key value =>
    change L.edit h (fun obj => obj.addTag key value) = some L' at hstep
    rw [edit, Option.ite_none_right_eq_some, Option.some.injEq] at hstep
    obtain ⟨-, rfl⟩ := hstep
    exact ticks_setRecord
      (r := { L.record h with obj := (L.record h).obj.addTag key value })
      (.kept rfl rfl rfl (Or.inl rfl)) k
  | addLog h message =>
    change L.edit h (fun obj => obj.addLog (clock .log) message) = some L' at hstep
    rw [edit, Option.ite_none_right_eq_some, Option.some.injEq] at hstep
    obtain ⟨⟨-, hgoing⟩, rfl⟩ := hstep
    exact ticks_setRecord
      (r := { L.record h with obj := (L.record h).obj.addLog (clock .log) message })
      (.logged _ rfl rfl rfl hgoing rfl) k
  | dropSpan h =>
    refine ticks_close hstep ?_ k
    intro hin
    refine .ended rfl rfl rfl ?_ rfl
    rw [opened_of_innermost hL hin]
    decide
  | prepareForAsync h =>
    refine ticks_close hstep ?_ k
    intro hin
    refine .kept rfl rfl rfl (Or.inr ⟨?_, rfl, rfl⟩)
    rw [opened_of_innermost hL hin]
    decide
  | dropAsyncSpan h =>
    change L.complete clock h = some L' at hstep
    rw [complete, Option.ite_none_right_eq_some, Option.some.injEq] at hstep
    obtain ⟨⟨-, hdetached⟩, rfl⟩ := hstep
    have hgoing : (L.record h).phase ≠ .ended := by
      rw [hdetached]
      decide
    exact ticks_setRecord (r := ending clock (L.record h)) (.ended rfl rfl rfl hgoing rfl) k
  | capture =>
    obtain rfl := Option.some.inj hstep
    exact .refl _ k _
  | continued snapshot =>
    change (if snapshot.isValid then _ else _) = _ at hstep
    split at hstep
    · rw [Option.map_eq_some_iff] at hstep
      obtain ⟨tracer, -, rfl⟩ := hstep
      exact ticks_park { L with traceId := snapshot.traceId } _ k
    · obtain rfl := Option.some.inj hstep
      exact .refl _ k _
  | dropContext => cases hstep
  | dropTracer =>
    obtain rfl := (Option.some.inj hstep).symm
    exact .refl _ k _

theorem starts_openSpan {operationName remotePeer : String} {spanType : SpanType}
    {spanLayer : SpanLayer} {refs : List SegmentReference}
    (hreading : e.reading? = some (e.clock .start)) :
    Starts e
      ((L.openSpan e.clock operationName remotePeer spanType spanLayer refs).record L.count) := by
  have hself : (L.openSpan e.clock operationName remotePeer spanType spanLayer refs).record
      L.count = ⟨L.innermost, L.nextObject e.clock operationName remotePeer spanType spanLayer refs,
        none, .opened⟩ := Function.update_self ..
  rw [hself]
  exact ⟨hreading, rfl, rfl⟩

theorem step_starts (hcreates : e.op.creation?.isSome) (hstep : L.step e = some L') :
    Starts e (L'.record L.count) := by
  obtain ⟨clock, op⟩ := e
  cases op with
  | createEntrySpan operationName =>
    obtain rfl := (Option.some.inj hstep).symm
    exact starts_openSpan rfl
  | createEntrySpanWithPropagation operationName propagation =>
    obtain rfl := (Option.some.inj hstep).symm
    exact starts_openSpan (L := L) rfl
  | createExitSpan operationName remotePeer =>
    obtain rfl := (Option.some.inj hstep).symm
    exact starts_openSpan rfl
  | createLocalSpan operationName =>
    obtain rfl := (Option.some.inj hstep).symm
    exact starts_openSpan rfl
  | _ => cases hcreates

/-- The span `b` is the parent of the span `a`. -/
def ParentOf (L : Ledger) (a b : Nat) : Prop := a < L.count ∧ (L.record a).parent = some b

/-- Following the parents leads from the span `k` to the span `j`. -/
def Under (L : Ledger) (k j : Nat) : Prop := Relation.TransGen L.ParentOf k j

/-- The parents of the spans that are there do not change. -/
theorem Under.step {j : Nat} (h : L.Under k j) (hstep : L.step e = some L') : L'.Under k j := by
  refine Relation.TransGen.mono ?_ _ _ h
  intro a b hab
  refine ⟨hab.1.trans_le (step_count_le hstep), ?_⟩
  rw [(step_effect hstep).frame.parents a hab.1]
  exact hab.2

/-- An open span is the innermost one, or that one is under it. -/
theorem Chained.under_innermost (hL : L.Valid) (hC : L.Chained) {j h : Nat} (hj : j ∈ L.stack)
    (hin : L.innermost = some h) : j = h ∨ L.Under h j := by
  have hchain : L.stack.IsChain fun a b => L.Under b a := by
    refine hC.stack.imp_of_mem_imp ?_
    intro a b _ hb hab
    exact Relation.TransGen.single ⟨hL.mem_iff.1 (Or.inl hb), hab⟩
  have htrans : IsTrans Nat fun a b => L.Under b a :=
    ⟨fun a b c hba hcb => Relation.TransGen.trans hcb hba⟩
  have hpairs := hchain.pairwise
  rw [(hL.split_innermost hin).1, List.pairwise_append] at hpairs
  rw [(hL.split_innermost hin).1, List.mem_append, List.mem_singleton] at hj
  rcases hj with hj | rfl
  · exact Or.inr (hpairs.2.2 j hj h (List.mem_singleton_self h))
  · exact Or.inl rfl

/-- The times in a ledger, made by the calls `es`. -/
structure Timed (es : List Event) (L : Ledger) : Prop where
  span : ∀ k, k < L.count → Timely es (L.record k)
  detached : ∀ k, k < L.count → (L.record k).phase = .detached → ¬InScope es k
  starts : ∀ j k, j < k → k < L.count → (L.record j).obj.startTime ≤ (L.record k).obj.startTime
  ends : L.order.Pairwise fun j k => InScope es j → (L.record k).phase = .ended →
    (L.record j).obj.endTime ≤ (L.record k).obj.endTime
  apart : ∀ j k, j < k → k < L.count → InScope es j → L.Under k j ∨
    (L.record j).phase = .ended ∧ (L.record j).obj.endTime ≤ (L.record k).obj.startTime

theorem timed_new (traceId : String) (tracer : WeakTracer) : Timed [] (new traceId tracer) where
  span k hk := absurd hk (Nat.not_lt_zero k)
  detached k hk := absurd hk (Nat.not_lt_zero k)
  starts _ k _ hk := absurd hk (Nat.not_lt_zero k)
  ends := List.Pairwise.nil
  apart _ k _ hk := absurd hk (Nat.not_lt_zero k)

/-- A closed span that stayed in its scope has ended. -/
theorem Timed.ended_of_order (h : L.Timed es) (hL : L.Valid) (hk : k ∈ L.order)
    (hscope : InScope es k) : (L.record k).phase = .ended := by
  have hopened := hL.closed k hk
  have hdetached := h.detached k (hL.mem_iff.1 (Or.inr hk))
  cases hphase : (L.record k).phase with
  | opened => exact absurd hphase hopened
  | detached => exact absurd hscope (hdetached hphase)
  | ended => rfl

/-- The next call keeps the order of two ends. -/
theorem Timed.ends_step (h : L.Timed es) (hL : L.Valid) (hsteady : Steady (es ++ [e]))
    (hstep : L.step e = some L') {j : Nat} (hj : j ∈ L.order) (hk : k < L.count)
    (hends : InScope es j → (L.record k).phase = .ended →
      (L.record j).obj.endTime ≤ (L.record k).obj.endTime)
    (hscope : InScope (es ++ [e]) j) (hended : (L'.record k).phase = .ended) :
    (L'.record j).obj.endTime ≤ (L'.record k).obj.endTime := by
  have hjcount := hL.mem_iff.1 (Or.inr hj)
  have hjended := h.ended_of_order hL hj hscope.of_append
  rw [((step_ticks hL hstep hjcount).of_ended hjended).2]
  have htick := step_ticks hL hstep hk
  by_cases hgoing : (L.record k).phase = .ended
  · rw [(htick.of_ended hgoing).2]
    exact hends hscope.of_append hgoing
  · -- the end is the latest reading
    exact hsteady.concat.2 _ (htick.of_going hgoing hended) _
      ((h.span j hjcount).ended hjended).1

theorem step_timed (hL : L.Valid) (hC : L.Chained) (h : L.Timed es)
    (hsteady : Steady (es ++ [e])) (hstep : L.step e = some L') : L'.Timed (es ++ [e]) := by
  have htick : ∀ k, k < L.count → Ticks e k (L.record k) (L'.record k) :=
    fun k hk => step_ticks hL hstep hk
  have hlatest := hsteady.concat.2
  -- what the call leaves of the spans that are there
  have hspan : ∀ k, k < L.count → Timely (es ++ [e]) (L'.record k) :=
    fun k hk => (h.span k hk).tick hsteady (htick k hk)
  have hdetached : ∀ k, k < L.count → (L'.record k).phase = .detached →
      ¬InScope (es ++ [e]) k := by
    intro k hk hphase hscope
    rcases (htick k hk).of_detached hphase with hbefore | hop
    · exact h.detached k hk hbefore hscope.of_append
    · exact hscope e (List.mem_append_right _ (List.mem_singleton_self e)) hop
  have hstarts : ∀ j k, j < k → k < L.count →
      (L'.record j).obj.startTime ≤ (L'.record k).obj.startTime := by
    intro j k hjk hk
    rw [(htick j (hjk.trans hk)).start, (htick k hk).start]
    exact h.starts j k hjk hk
  have hends : L.order.Pairwise fun j k => InScope (es ++ [e]) j → (L'.record k).phase = .ended →
      (L'.record j).obj.endTime ≤ (L'.record k).obj.endTime := by
    refine h.ends.imp_of_mem ?_
    intro j k hj hk hjk hscope hended
    exact h.ends_step hL hsteady hstep hj (hL.mem_iff.1 (Or.inr hk)) hjk hscope hended
  have hapart : ∀ j k, j < k → k < L.count → InScope (es ++ [e]) j → L'.Under k j ∨
      (L'.record j).phase = .ended ∧
        (L'.record j).obj.endTime ≤ (L'.record k).obj.startTime := by
    intro j k hjk hk hscope
    rcases h.apart j k hjk hk hscope.of_append with hunder | ⟨hended, hle⟩
    · exact Or.inl (hunder.step hstep)
    · obtain ⟨hended', hfinish⟩ := (htick j (hjk.trans hk)).of_ended hended
      rw [hfinish, (htick k hk).start]
      exact Or.inr ⟨hended', hle⟩
  cases step_effect hstep with
  | opened hcreates hcount hstack horder hparent _ _ =>
    obtain ⟨hreading, hlogs, hphase⟩ := step_starts hcreates hstep
    have hcases : ∀ k, k < L'.count → k < L.count ∨ k = L.count := by
      intro k hk
      omega
    refine ⟨?_, ?_, ?_, horder ▸ hends, ?_⟩
    · intro k hk
      rcases hcases k hk with hold | rfl
      · exact hspan k hold
      · refine ⟨?_, ?_, ?_⟩
        · rw [readings_concat, hreading]
          exact List.mem_append_right _ (List.mem_singleton_self _)
        · rw [hlogs]
          intro log hlog
          cases hlog
        · rw [hphase]
          intro hended
          cases hended
    · intro k hk hdet
      rcases hcases k hk with hold | rfl
      · exact hdetached k hold hdet
      · rw [hphase] at hdet
        cases hdet
    · intro j k hjk hk
      rcases hcases k hk with hold | rfl
      · exact hstarts j k hjk hold
      · rw [(htick j hjk).start]
        exact hlatest _ hreading _ (h.span j hjk).start
    · intro j k hjk hk hscope
      rcases hcases k hk with hold | rfl
      · exact hapart j k hjk hold hscope
      · rcases hL.mem_iff.2 hjk with hopen | hclosed
        · -- the open spans are above the new one
          left
          obtain ⟨i, hin⟩ : ∃ i, L.innermost = some i :=
            Option.isSome_iff_exists.1 (List.getLast?_isSome.2 (List.ne_nil_of_mem hopen))
          have hnew : L'.Under L.count i :=
            Relation.TransGen.single ⟨hk, hparent.trans hin⟩
          rcases hC.under_innermost hL hopen hin with rfl | hunder
          · exact hnew
          · exact hnew.trans (hunder.step hstep)
        · have hended := h.ended_of_order hL hclosed hscope.of_append
          obtain ⟨hended', hfinish⟩ := (htick j hjk).of_ended hended
          rw [hfinish]
          exact Or.inr ⟨hended', hlatest _ hreading _ ((h.span j hjk).ended hended).1⟩
  | closed k hin _ hcount _ horder _ =>
    obtain ⟨-, hk, -, -⟩ := hL.split_innermost hin
    have hgoing : (L.record k).phase ≠ .ended := by
      rw [opened_of_innermost hL hin]
      decide
    refine ⟨hcount ▸ hspan, hcount ▸ hdetached, hcount ▸ hstarts, ?_, hcount ▸ hapart⟩
    rw [horder, List.pairwise_append]
    refine ⟨hends, List.pairwise_singleton _ _, ?_⟩
    intro j hj last hlast
    rw [List.mem_singleton] at hlast
    subst hlast
    exact h.ends_step hL hsteady hstep hj hk fun _ hended => absurd hended hgoing
  | kept _ hcount _ horder _ =>
    exact ⟨hcount ▸ hspan, hcount ▸ hdetached, hcount ▸ hstarts, horder ▸ hends,
      hcount ▸ hapart⟩

/-- After a run of a steady clock, the times are in order. -/
theorem run_timed {traceId : String} {tracer : WeakTracer} (hsteady : Steady es)
    (hrun : run (new traceId tracer) es = some L) : L.Timed es := by
  refine (Execution.run_history
    (I := fun es L => L.Valid ∧ L.Chained ∧ (Steady es → L.Timed es))
    ⟨valid_new traceId tracer, chained_new traceId tracer, fun _ => timed_new traceId tracer⟩
    ?_ hrun).2.2 hsteady
  intro es L L' e hI hstep
  obtain ⟨hL, hC, hT⟩ := hI
  refine ⟨step_valid hL hstep, step_chained hL hC hstep, ?_⟩
  intro hsteady
  exact step_timed hL hC (hT hsteady.concat.1) hsteady hstep

/-- A span that is under another one descends from it in the segment. -/
theorem Under.descends {base : TracingContext} (hL : L.Valid) (hR : L.Recorded es)
    (hz : L.Shaped) (hn : L.count < 2 ^ 31) (hstack : L.stack = []) {j : Nat} (hj : j < L.count)
    (hk : k < L.count) (h : L.Under k j) :
    Descends (L.segment base) (L.record k).obj (L.record j).obj := by
  rw [Descends, (record_ids hR hn hk).1, (record_ids hR hn hj).1]
  refine Relation.TransGen.lift (fun k : Nat => (k : Int)) ?_ _ _ h
  intro a b hab
  obtain ⟨ha, hb⟩ := hab
  have hlt := parent_lt hz hstack ha hb
  apply (parentLink_iff hL hR hn hstack).2
  refine ⟨ha, ?_⟩
  rw [hb]
  exact parentId_some (hlt.trans (ha.trans hn))

/-- Of two closed spans the one that was closed first ends first, if it stayed in its scope. -/
theorem Timed.ends_le (h : L.Timed es) {i i' j : Nat} (hk : L.order[i]? = some k)
    (hj : L.order[i']? = some j) (hlt : i < i') (hscope : InScope es k)
    (hended : (L.record j).phase = .ended) :
    (L.record k).obj.endTime ≤ (L.record j).obj.endTime := by
  obtain ⟨hi, rfl⟩ := List.getElem?_eq_some_iff.1 hk
  obtain ⟨hi', rfl⟩ := List.getElem?_eq_some_iff.1 hj
  exact List.pairwise_iff_getElem.1 h.ends i i' hi hi' hlt hscope hended

end Ledger

/-! ## The times of a reported segment -/

/-- A descendant is younger. -/
theorem ForestOf.lt_of_descends {seg : SegmentObject} {n : Nat} {f : Forest Nat}
    (hf : ForestOf seg n f) {j : Nat} {s t : SpanObject} (hs : s.spanId = j) (ht : t.spanId = k)
    (h : Descends seg t s) : j < k := by
  rw [Descends, hs, ht] at h
  exact (hf.transGen_iff_below.1 h).lt hf.pairwise_preorder

namespace World

variable {overflowChecks : Bool} {serviceName instanceName traceId traceSegmentId : String}
  {tracer : WeakTracer} {seg : SegmentObject}

/-- As long as the clock does not go back, no call panics, all handles are closed and the tracer is
alive, the times of every span of a reported segment are in order, spans start in the order of their
ids, and a span that never became asynchronous lies within its ancestors and ends before the start
of every later span that is not below it. -/
theorem times_nest (hsteady : Steady es) (hn : (creations es).length < 2 ^ 31)
    (hrep : Reports overflowChecks
      (World.new serviceName instanceName traceId traceSegmentId tracer) es seg) :
    (∀ s ∈ seg.spans, s.startTime ≤ s.endTime ∧
      ∀ log ∈ s.logs, s.startTime ≤ log.time ∧ log.time ≤ s.endTime) ∧
    ∀ j k s t, ReportedFor es seg j s → ReportedFor es seg k t →
      (j < k → s.startTime ≤ t.startTime) ∧
      (InScope es k → Descends seg t s → s.startTime ≤ t.startTime ∧ t.endTime ≤ s.endTime) ∧
      (InScope es j → j < k → ¬Descends seg t s → s.endTime ≤ t.startTime) := by
  obtain ⟨L, w, tracer', hrun, hL, hR, hended, -, -, rfl⟩ := hrep.exists_ledger
  have hstack := Ledger.stack_eq_nil hL hended
  have hT := Ledger.run_timed hsteady hrun
  rw [← hR.count] at hn
  have hforest : ∃ f, ForestOf (L.segment (.new serviceName instanceName traceId traceSegmentId
      tracer)) L.count f := Ledger.exists_forestOf hL hR (Ledger.run_shaped hrun) hn hstack
  obtain ⟨f, hf⟩ := hforest
  refine ⟨?_, ?_⟩
  · intro s hs
    obtain ⟨k, hk, rfl, -, -⟩ := (Ledger.mem_segment_iff hL hR hn hstack).1 hs
    obtain ⟨-, hle, hbound⟩ := (hT.span k hk).ended (hended k hk)
    refine ⟨hle, ?_⟩
    intro log hlog
    exact ⟨((hT.span k hk).log log hlog).2, hbound log hlog⟩
  · intro j k s t hs ht
    obtain ⟨i, hi, hsi⟩ := hs
    obtain ⟨i', hi', hti⟩ := ht
    obtain ⟨hj, rfl⟩ := (Ledger.reportedFor_iff hR).1 ⟨i, hi, hsi⟩
    obtain ⟨hk, rfl⟩ := (Ledger.reportedFor_iff hR).1 ⟨i', hi', hti⟩
    have hjcount := hL.mem_iff.1 (Or.inr hj)
    have hkcount := hL.mem_iff.1 (Or.inr hk)
    refine ⟨?_, ?_, ?_⟩
    · intro hjk
      exact hT.starts j k hjk hkcount
    · intro hscope hdescends
      have hlt := hf.lt_of_descends (Ledger.record_ids hR hn hjcount).1
        (Ledger.record_ids hR hn hkcount).1 hdescends
      have hne : i' ≠ i := by
        rintro rfl
        obtain rfl := Option.some.inj (hi.symm.trans hi')
        exact absurd hlt (Nat.lt_irrefl j)
      have hbefore : i' < i := (hf.precedes_iff hti hsi hne).2 (Or.inl hdescends)
      rw [← hR.order] at hi hi'
      exact ⟨hT.starts j k hlt hkcount, hT.ends_le hi' hi hbefore hscope (hended j hjcount)⟩
    · intro hscope hjk hnot
      rcases hT.apart j k hjk hkcount hscope with hunder | ⟨-, hle⟩
      · exact absurd (hunder.descends hL hR (Ledger.run_shaped hrun) hn hstack hjcount hkcount) hnot
      · exact hle

/-- Two spans under an entry span, one after the other; the second one is asynchronous and ends
last. The clock counts the calls. -/
def timedRun : List Event :=
  [⟨fun _ => 0, .createEntrySpan "a"⟩, ⟨fun _ => 1, .createLocalSpan "b"⟩,
    ⟨fun _ => 2, .addLog 1 [("k", "v")]⟩, ⟨fun _ => 3, .dropSpan 1⟩,
    ⟨fun _ => 4, .createExitSpan "c" "peer"⟩, ⟨fun _ => 5, .prepareForAsync 2⟩,
    ⟨fun _ => 6, .dropSpan 0⟩, ⟨fun _ => 7, .dropAsyncSpan 2⟩]

theorem times_nest_timedRun :
    ∃ seg, Reports true sampleWorld timedRun seg ∧
      (∀ s ∈ seg.spans, s.startTime ≤ s.endTime) ∧
      ∀ s t, ReportedFor timedRun seg 1 s → ReportedFor timedRun seg 2 t →
        ¬Descends seg t s → s.endTime ≤ t.startTime := by
  have hops : ∀ e ∈ timedRun, e.op ≠ .dropContext := by decide
  have hfinished : (World.run true sampleWorld timedRun).any fun w => decide w.Finished := by
    decide +kernel
  obtain ⟨seg, hrep⟩ := exists_reports hops hfinished
  obtain ⟨hspans, hpairs⟩ := times_nest (by decide) (by decide) hrep
  refine ⟨seg, hrep, ?_, ?_⟩
  · intro s hs
    exact (hspans s hs).1
  · intro s t hs ht
    exact (hpairs 1 2 s t hs ht).2.2 (by decide) (by decide)

end World

end SkywalkingAgent.Trace
