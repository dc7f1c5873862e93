import SkywalkingAgent.Trace.Effect
import SkywalkingAgent.Trace.Reporting

/-!
# Cross-thread links

`continued` adopts the trace of a snapshot and parks a reference on the innermost span. The slot on
the span holds one reference, and there is no slot when no span is active. `World.lastLink` reads
off a run which snapshot a span was last continued with; the reference of that snapshot is the one
that the span is reported with (`Ledger.reported_link_iff`), and `World.continued_keeps_link_iff`
says which calls of `continued` keep their link.
-/

set_option autoImplicit false

namespace SkywalkingAgent.Trace

open SkywalkingAgent.Lib SkywalkingAgent.Common SkywalkingAgent.Proto
open SkywalkingAgent.Propagation SkywalkingAgent.Reporter

namespace World

/-- The innermost span, as a number. -/
def innermost (w : World) : Option SpanUid := w.context.activeSpan.map fun span => span.uid

/-- The snapshot that the calls `es` last linked the span `k` to, while it was innermost. -/
def lastLink (overflowChecks : Bool) (k : Nat) : World → List Event → Option ContextSnapshot
  | _, [] => none
  | w, e :: es =>
      match w.step overflowChecks e with
      | some w' => (lastLink overflowChecks k w' es).or (e.op.link? k w.innermost)
      | none => none

end World

namespace TracingContext

/-- A valid call of `continued` changes nothing exactly when the trace and the link are already
there. -/
theorem continued_eq_self_iff {self : TracingContext} {snapshot : ContextSnapshot} {tracer : Tracer}
    (hvalid : snapshot.isValid) (htracer : self.tracer = some tracer) :
    self.continued snapshot = .ok () self ↔ self.traceId = snapshot.traceId ∧
      ∀ a, self.activeSpan = some a → a.ref = some (snapshotRef tracer snapshot) := by
  obtain ⟨traceId, traceSegmentId, service, serviceInstance, nextSpanId, ⟨finalized, active⟩,
    endpoint, uid, wg, tracer'⟩ := self
  change tracer' = some tracer at htracer
  subst htracer
  simp only [continued, hvalid, if_true, Outcome.ok.injEq, true_and, activeSpan, parkRef,
    TracingContext.mk.injEq]
  rcases List.eq_nil_or_concat' active with rfl | ⟨s, a, rfl⟩
  · simp [eq_comm]
  · simp only [List.getLast?_concat, List.dropLast_concat, Option.some.injEq, forall_eq',
      SpanStack.mk.injEq, List.append_singleton_inj, true_and, and_true]
    constructor
    · rintro ⟨htrace, ha⟩
      exact ⟨htrace.symm, by rw [← ha]⟩
    · rintro ⟨htrace, ha⟩
      exact ⟨htrace.symm, by rw [← ha]⟩

end TracingContext

namespace Ledger

variable {L L' : Ledger} {e : Event} {es : List Event} {base : TracingContext}

theorem innermost_toWorld : (L.toWorld base).innermost = L.innermost := by
  show ((L.stack.map L.active).getLast?).map (fun span => span.uid) = L.stack.getLast?
  rw [List.getLast?_map, Option.map_map]
  exact congrFun Option.map_id _

/-- After a run, a span holds the reference of the snapshot it was last linked to. -/
theorem run_parked (hL : L.Valid) {overflowChecks : Bool} {w : World} {tracer : Tracer} {k : Nat}
    (hk : k < L.count) (hops : ∀ e ∈ es, e.op ≠ .dropContext)
    (hrun : World.run overflowChecks (L.toWorld base) es = some w) (hledger : run L es = some L')
    (htracer : L'.tracer = some tracer) :
    (L'.record k).parked = ((World.lastLink overflowChecks k (L.toWorld base) es).map
      (TracingContext.snapshotRef tracer)).or (L.record k).parked := by
  induction es generalizing L with
  | nil =>
    obtain rfl := Option.some.inj hledger
    rfl
  | cons e es ih =>
    obtain ⟨w₁, hw₁, hrest⟩ := Execution.run_cons_iff.1 hrun
    obtain ⟨L₁, hL₁, rfl⟩ := step_refines hL (hops e List.mem_cons_self) hw₁
    obtain ⟨M, hM, hledger⟩ := Execution.run_cons_iff.1 hledger
    obtain rfl : L₁ = M := Option.some.inj (hL₁.symm.trans hM)
    have htr : L.tracer = some tracer :=
      run_tracer (Execution.run_cons_iff.2 ⟨L₁, hL₁, hledger⟩) htracer
    have hstep := (step_effect hL₁).frame.parked k hk
    rw [ih (step_valid hL hL₁) (Nat.lt_of_lt_of_le hk (step_count_le hL₁))
      (fun e' he' => hops e' (List.mem_cons_of_mem _ he')) hrest hledger, hstep, htr]
    simp only [World.lastLink, hw₁, innermost_toWorld]
    cases World.lastLink overflowChecks k (L₁.toWorld base) es with
    | some snapshot => rfl
    | none =>
      cases e.op.link? k L.innermost with
      | some snapshot => rfl
      | none => rfl

end Ledger

/-- The object that the segment has for the span `k`. -/
def ReportedFor (es : List Event) (seg : SegmentObject) (k : Nat) (obj : SpanObject) : Prop :=
  ∃ i : Nat, (closeOrder es)[i]? = some k ∧ seg.spans[i]? = some obj

/-- The object carries a cross-thread reference with the values of the snapshot. -/
def HasLink (obj : SpanObject) (snapshot : ContextSnapshot) : Prop :=
  ∃ ref ∈ obj.refs, ref.refType = .crossThread ∧ ref.traceId = snapshot.traceId ∧
    ref.parentTraceSegmentId = snapshot.traceSegmentId ∧ ref.parentSpanId = snapshot.spanId ∧
    ref.parentEndpoint = snapshot.parentEndpoint

/-- Only a propagation gives a span references at its creation. -/
theorem Op.eq_of_created_ref {op : Op} {c : Creation} {ref : SegmentReference}
    (hc : op.creation? = some c) (href : ref ∈ c.refs) :
    ∃ operationName propagation, op = .createEntrySpanWithPropagation operationName propagation ∧
      ref.refType = .crossProcess := by
  cases op with
  | createEntrySpanWithPropagation operationName propagation =>
    obtain rfl := (Option.some.inj hc).symm
    rw [List.mem_singleton] at href
    exact ⟨operationName, propagation, rfl, by rw [href]; rfl⟩
  | createEntrySpan | createExitSpan | createLocalSpan =>
    obtain rfl := (Option.some.inj hc).symm
    cases href
  | _ => cases hc

namespace Ledger

variable {L : Ledger} {es : List Event} {base : TracingContext}

theorem reportedFor_iff (hR : L.Recorded es) {k : Nat} {obj : SpanObject} :
    ReportedFor es (L.segment base) k obj ↔ k ∈ L.order ∧ obj = (L.record k).obj := by
  have hspans : (L.segment base).spans = L.order.map fun k => (L.record k).obj := rfl
  simp only [ReportedFor, hspans, ← hR.order, List.getElem?_map, Option.map_eq_some_iff]
  constructor
  · rintro ⟨i, hi, k', hk', rfl⟩
    obtain rfl : k = k' := Option.some.inj (hi.symm.trans hk')
    exact ⟨List.mem_of_getElem? hi, rfl⟩
  · rintro ⟨hk, rfl⟩
    obtain ⟨i, hi⟩ := List.mem_iff_getElem?.1 hk
    exact ⟨i, hi, k, hi, rfl⟩

/-- The references that a span is created with cross processes. -/
theorem refType_of_creation {c : Creation} (hc : c ∈ creations es) {ref : SegmentReference}
    (href : ref ∈ c.refs) : ref.refType = .crossProcess := by
  obtain ⟨e, -, hop⟩ := List.mem_filterMap.1 hc
  exact (Op.eq_of_created_ref hop href).elim fun _ h => h.elim fun _ h => h.2

/-- An ended span is reported with the cross-thread reference that was parked on it, and no
other. -/
theorem reported_link_iff (hR : L.Recorded es) {k : Nat} (hk : k < L.count)
    (hended : (L.record k).phase = .ended) {ref : SegmentReference} :
    ref ∈ (L.record k).obj.refs ∧ ref.refType = .crossThread ↔
      (L.record k).parked = some ref ∧ ref.refType = .crossThread := by
  have hlt : k < (creations es).length := hR.count ▸ hk
  have hspan := hR.span k _ (List.getElem?_eq_getElem hlt)
  rw [hspan.refs, hended, if_pos rfl, List.mem_append, Option.mem_toList]
  constructor
  · rintro ⟨hmem | hparked, htype⟩
    -- a reference given at the creation is one to another process
    · have hcross := refType_of_creation (List.getElem_mem hlt) hmem
      rw [hcross] at htype
      cases htype
    · exact ⟨hparked, htype⟩
  · rintro ⟨hparked, htype⟩
    exact ⟨Or.inr hparked, htype⟩

end Ledger

namespace World

variable {overflowChecks : Bool} {serviceName instanceName traceId traceSegmentId : String}
  {tracer : WeakTracer}

/-- What becomes of the call of `continued` that leads from `w₁` to `w₂`: a valid snapshot is linked
on the span that was innermost, or the context stays as it was; an invalid one changes nothing. -/
def LinkKept (es : List Event) (seg : SegmentObject) (w₁ w₂ : World) (snapshot : ContextSnapshot) :
    Prop :=
  if snapshot.isValid then
    (∃ k obj, w₁.innermost = some k ∧ ReportedFor es seg k obj ∧ HasLink obj snapshot) ∨
      w₂.context = w₁.context
  else w₂.context = w₁.context

/-- The condition on the program: the snapshot is invalid; or it is the last one that the innermost
span is linked to; or the context already has the trace, and the innermost span, if there is one,
the link. -/
def KeepsLink (overflowChecks : Bool) (w₁ : World) (clock : Clock) (snapshot : ContextSnapshot)
    (post : List Event) : Prop :=
  snapshot.isValid = false ∨
    (∃ k, w₁.innermost = some k ∧
      w₁.lastLink overflowChecks k (⟨clock, .continued snapshot⟩ :: post) = some snapshot) ∨
    (w₁.context.traceId = snapshot.traceId ∧ ∀ a, w₁.context.activeSpan = some a →
      a.ref = w₁.context.tracer.map fun tracer => TracingContext.snapshotRef tracer snapshot)

/-- Whether the call changes the context. -/
theorem continued_context_iff {w₁ w₂ : World} {clock : Clock} {snapshot : ContextSnapshot}
    (hcall : w₁.step overflowChecks ⟨clock, .continued snapshot⟩ = some w₂) :
    w₁.context.continued snapshot = .ok () w₂.context := by
  rw [step_eq_some_iff] at hcall
  simp only [call, callContext] at hcall
  split at hcall
  · rw [Option.some.injEq, Outcome.mapState_eq_ok_iff] at hcall
    obtain ⟨c, hc, rfl⟩ := hcall
    exact hc
  · cases hcall

/-- The link that the innermost span is reported with is the one of the last snapshot. -/
theorem reported_link_iff_lastLink {pre post : List Event} {e : Event} {seg : SegmentObject}
    {w₁ : World} {k : Nat} (snapshot : ContextSnapshot)
    (hrep : Reports overflowChecks
      (World.new serviceName instanceName traceId traceSegmentId tracer) (pre ++ e :: post) seg)
    (hpre : World.run overflowChecks
      (World.new serviceName instanceName traceId traceSegmentId tracer) pre = some w₁)
    (hk : w₁.innermost = some k) (hlink : (w₁.lastLink overflowChecks k (e :: post)).isSome) :
    (∃ obj, ReportedFor (pre ++ e :: post) seg k obj ∧ HasLink obj snapshot) ↔
      w₁.lastLink overflowChecks k (e :: post) = some snapshot := by
  obtain ⟨last, hlast⟩ := Option.isSome_iff_exists.1 hlink
  obtain ⟨L₁, L, w, tracer', -, hvalid₁, rfl, hrest, hLrest, hvalid, hR, hended, htracer, rfl⟩ :=
    hrep.split hpre
  rw [Ledger.innermost_toWorld] at hk
  have hlt₁ := (hvalid₁.split_innermost hk).2.1
  have hlt := (Ledger.run_parent hlt₁ hLrest).1
  -- what is parked at the end is what the last link of the run parked
  have hparked := Ledger.run_parked hvalid₁ hlt₁
    (fun e he => hrep.1 e (List.mem_append_right _ he)) hrest hLrest htracer
  rw [hlast, Option.map_some, Option.some_or] at hparked
  have horder : k ∈ L.order := (hvalid.mem_order_iff hlt).2 (by simp [hended k hlt])
  rw [hlast, Option.some.injEq]
  constructor
  · rintro ⟨obj, hobj, ref, href, htype, h₁, h₂, h₃, h₄⟩
    obtain ⟨-, rfl⟩ := (Ledger.reportedFor_iff hR).1 hobj
    have hparked' := ((Ledger.reported_link_iff hR hlt (hended k hlt)).1 ⟨href, htype⟩).1
    obtain rfl := Option.some.inj (hparked.symm.trans hparked')
    cases last
    cases snapshot
    simp_all [TracingContext.snapshotRef]
  · rintro rfl
    refine ⟨_, (Ledger.reportedFor_iff hR).2 ⟨horder, rfl⟩, _,
      ((Ledger.reported_link_iff hR hlt (hended k hlt)).2 ⟨hparked, rfl⟩).1, ?_⟩
    exact ⟨rfl, rfl, rfl, rfl, rfl⟩

/-- A call of `continued` keeps its link, or does nothing at all, exactly under `KeepsLink`. -/
theorem continued_keeps_link_iff {pre post : List Event} {clock : Clock}
    {snapshot : ContextSnapshot} {seg : SegmentObject} {w₁ w₂ : World}
    (hrep : Reports overflowChecks
      (World.new serviceName instanceName traceId traceSegmentId tracer)
      (pre ++ ⟨clock, .continued snapshot⟩ :: post) seg)
    (hpre : World.run overflowChecks
      (World.new serviceName instanceName traceId traceSegmentId tracer) pre = some w₁)
    (hcall : w₁.step overflowChecks ⟨clock, .continued snapshot⟩ = some w₂) :
    LinkKept (pre ++ ⟨clock, .continued snapshot⟩ :: post) seg w₁ w₂ snapshot ↔
      KeepsLink overflowChecks w₁ clock snapshot post := by
  have hcont := continued_context_iff hcall
  unfold LinkKept KeepsLink
  by_cases hvalid : snapshot.isValid = true
  · obtain ⟨tracer', htracer⟩ : ∃ tracer', w₁.context.tracer = some tracer' := by
      cases htr : w₁.context.tracer with
      | none => simp [TracingContext.continued, hvalid, htr] at hcont
      | some tracer' => exact ⟨tracer', rfl⟩
    -- `continued` changes nothing where the trace and the parked reference are there already
    have hsame : w₂.context = w₁.context ↔ w₁.context.traceId = snapshot.traceId ∧
        ∀ a, w₁.context.activeSpan = some a →
          a.ref = some (TracingContext.snapshotRef tracer' snapshot) := by
      rw [← TracingContext.continued_eq_self_iff hvalid htracer, hcont]
      simp
    -- the call itself is a link, so there is a last one
    have hlast : ∀ k, w₁.innermost = some k →
        (w₁.lastLink overflowChecks k (⟨clock, .continued snapshot⟩ :: post)).isSome := by
      intro k hk
      simp only [lastLink, hcall, Op.link?, hvalid, hk, and_self, if_true]
      cases lastLink overflowChecks k w₂ post <;> rfl
    have hlink : ∀ k, w₁.innermost = some k → (_ ↔ _) :=
      fun k hk => reported_link_iff_lastLink snapshot hrep hpre hk (hlast k hk)
    simp only [hvalid, if_true, Bool.true_eq_false, false_or, htracer, Option.map_some]
    rw [hsame]
    refine or_congr ?_ Iff.rfl
    constructor
    · rintro ⟨k, obj, hk, hobj⟩
      exact ⟨k, hk, (hlink k hk).1 ⟨obj, hobj⟩⟩
    · rintro ⟨k, hk, hlast⟩
      obtain ⟨obj, hobj⟩ := (hlink k hk).2 hlast
      exact ⟨k, obj, hk, hobj⟩
  · have hinvalid : snapshot.isValid = false := by simpa using hvalid
    have hsame := hcont.symm.trans (TracingContext.continued_of_not_valid hinvalid)
    simp only [hinvalid, Bool.false_eq_true, if_false, true_or, iff_true]
    exact (Outcome.ok.inj hsame).2

/-- The pieces of a computed run that reports a segment, around one of its calls. -/
theorem exists_call (pre : List Event) (e : Event) (post : List Event) (p : World → World → Bool)
    (hops : ∀ e' ∈ pre ++ e :: post, e'.op ≠ .dropContext)
    (hfin : (World.run true sampleWorld (pre ++ e :: post)).any fun w => decide w.Finished)
    (hp : (World.run true sampleWorld pre).any fun w₁ => (w₁.step true e).any (p w₁)) :
    ∃ seg w₁ w₂, Reports true sampleWorld (pre ++ e :: post) seg ∧
      World.run true sampleWorld pre = some w₁ ∧ w₁.step true e = some w₂ ∧ p w₁ w₂ = true := by
  obtain ⟨seg, hrep⟩ := exists_reports hops hfin
  obtain ⟨w₁, hpre, hstep⟩ := (Option.any_eq_true _ _).1 hp
  obtain ⟨w₂, hcall, hp⟩ := (Option.any_eq_true _ _).1 hstep
  exact ⟨seg, w₁, w₂, hrep, hpre, hcall, hp⟩

/-- A call at time zero. -/
def atZero (op : Op) : Event := ⟨fun _ => 0, op⟩

/-- A snapshot of another context. -/
def snapshotA : ContextSnapshot := ⟨"tA", "gA", 3, "eA"⟩

/-- A snapshot of a third one. -/
def snapshotB : ContextSnapshot := ⟨"tB", "gB", 4, "eB"⟩

theorem continued_keeps_link_iff_active :
    ∃ seg w₁ w₂, Reports true sampleWorld ([atZero (.createEntrySpan "op")] ++
        atZero (.continued snapshotA) :: [atZero (.dropSpan 0)]) seg ∧
      LinkKept ([atZero (.createEntrySpan "op")] ++ atZero (.continued snapshotA) ::
        [atZero (.dropSpan 0)]) seg w₁ w₂ snapshotA := by
  obtain ⟨seg, w₁, w₂, hrep, hpre, hcall, hlast⟩ := exists_call [atZero (.createEntrySpan "op")]
    (atZero (.continued snapshotA)) [atZero (.dropSpan 0)]
    (fun w₁ _ => decide (w₁.innermost = some 0 ∧ w₁.lastLink true 0
      (atZero (.continued snapshotA) :: [atZero (.dropSpan 0)]) = some snapshotA))
    (by decide +kernel) (by decide +kernel) (by decide +kernel)
  exact ⟨seg, w₁, w₂, hrep, (continued_keeps_link_iff hrep hpre hcall).2
    (Or.inr (Or.inl ⟨0, of_decide_eq_true hlast⟩))⟩

/-- Two ways to lose a link: without an active span the context adopts the trace and no span gets
the reference; and a second snapshot takes the place of the first one on its span. -/
theorem continued_loses_link :
    (∃ seg w₁ w₂, Reports true sampleWorld ([] ++ atZero (.continued snapshotA) ::
        [atZero (.createEntrySpan "op"), atZero (.dropSpan 0)]) seg ∧
      World.run true sampleWorld [] = some w₁ ∧
      w₁.step true (atZero (.continued snapshotA)) = some w₂ ∧
      ¬ LinkKept ([] ++ atZero (.continued snapshotA) ::
        [atZero (.createEntrySpan "op"), atZero (.dropSpan 0)]) seg w₁ w₂ snapshotA) ∧
    ∃ seg w₁ w₂, Reports true sampleWorld
        ([atZero (.createEntrySpan "op")] ++ atZero (.continued snapshotA) ::
          [atZero (.continued snapshotB), atZero (.dropSpan 0)]) seg ∧
      World.run true sampleWorld [atZero (.createEntrySpan "op")] = some w₁ ∧
      w₁.step true (atZero (.continued snapshotA)) = some w₂ ∧
      ¬ LinkKept ([atZero (.createEntrySpan "op")] ++ atZero (.continued snapshotA) ::
        [atZero (.continued snapshotB), atZero (.dropSpan 0)]) seg w₁ w₂ snapshotA := by
  constructor
  · obtain ⟨seg, w₁, w₂, hrep, hpre, hcall, hp⟩ := exists_call [] (atZero (.continued snapshotA))
      [atZero (.createEntrySpan "op"), atZero (.dropSpan 0)]
      (fun w₁ w₂ => decide (w₁.innermost = none ∧ w₂.context ≠ w₁.context))
      (by decide +kernel) (by decide +kernel) (by decide +kernel)
    obtain ⟨hnone, hne⟩ := of_decide_eq_true hp
    refine ⟨seg, w₁, w₂, hrep, hpre, hcall, ?_⟩
    rintro (⟨k, -, hk, -⟩ | hsame)
    · rw [hnone] at hk
      cases hk
    · exact hne hsame
  · obtain ⟨seg, w₁, w₂, hrep, hpre, hcall, hp⟩ := exists_call [atZero (.createEntrySpan "op")]
      (atZero (.continued snapshotA)) [atZero (.continued snapshotB), atZero (.dropSpan 0)]
      (fun w₁ w₂ => decide (w₁.innermost = some 0 ∧ w₁.lastLink true 0
        (atZero (.continued snapshotA) :: [atZero (.continued snapshotB), atZero (.dropSpan 0)]) =
          some snapshotB ∧ w₂.context ≠ w₁.context))
      (by decide +kernel) (by decide +kernel) (by decide +kernel)
    obtain ⟨hin, hlast, hne⟩ := of_decide_eq_true hp
    refine ⟨seg, w₁, w₂, hrep, hpre, hcall, ?_⟩
    rintro (⟨k, obj, hk, hobj⟩ | hsame)
    · obtain rfl : 0 = k := Option.some.inj (hin.symm.trans hk)
      have hA := (reported_link_iff_lastLink snapshotA hrep hpre hin (by rw [hlast]; rfl)).1
        ⟨obj, hobj⟩
      rw [hlast] at hA
      exact absurd hA (by decide)
    · exact hne hsame

end World

end SkywalkingAgent.Trace
