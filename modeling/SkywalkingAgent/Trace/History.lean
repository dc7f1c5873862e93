import SkywalkingAgent.Trace.Refinement

/-!
# What a run says about the spans of its segment

The calls of a run determine the spans: `creations` lists what each span was created with,
`tagsAdded` and `logsAdded` what was added to it, and `closeOrder` the order in which the `Span`
handles were dropped or turned asynchronous. `Ledger.Recorded` relates them to the records of the
ledger, and `Ledger.run_recorded` carries it along every run.
-/

set_option autoImplicit false

namespace SkywalkingAgent.Trace

open SkywalkingAgent.Lib SkywalkingAgent.Common SkywalkingAgent.Proto
open SkywalkingAgent.Propagation SkywalkingAgent.Reporter

/-! ## Reading the calls -/

/-- What a span is created with. -/
structure Creation where
  operationName : String
  peer : String
  spanType : SpanType
  spanLayer : SpanLayer
  refs : List SegmentReference
  deriving DecidableEq, Repr

/-- The span that a call creates, if it creates one. -/
def Op.creation? : Op → Option Creation
  | .createEntrySpan operationName => some ⟨operationName, "", .entry, .http, []⟩
  | .createEntrySpanWithPropagation operationName propagation =>
      some ⟨operationName, "", .entry, .http, [TracingContext.propagationRef propagation]⟩
  | .createExitSpan operationName remotePeer =>
      some ⟨operationName, remotePeer, .exit, .unknown, []⟩
  | .createLocalSpan operationName => some ⟨operationName, "", .localSpan, .unknown, []⟩
  | _ => none

/-- The span whose `Span` handle a call consumes. -/
def Op.closes? : Op → Option Nat
  | .dropSpan h => some h
  | .prepareForAsync h => some h
  | _ => none

/-- The call is the drop of an `AsyncSpan`. -/
def Op.isAsyncDrop : Op → Bool
  | .dropAsyncSpan _ => true
  | _ => false

/-- The tag that a call adds to the span `k`. -/
def Event.tag? (k : Nat) (e : Event) : Option KeyStringValuePair :=
  match e.op with
  | .addTag h key value => if h = k then some ⟨key, value⟩ else none
  | _ => none

/-- The log that a call adds to the span `k`. -/
def Event.log? (k : Nat) (e : Event) : Option Log :=
  match e.op with
  | .addLog h message =>
      if h = k then some ⟨e.clock .log, message.map fun v => ⟨v.1, v.2⟩⟩ else none
  | _ => none

/-- The spans created by a run, in the order of creation. -/
def creations (es : List Event) : List Creation := es.filterMap fun e => e.op.creation?

/-- The tags added to the span `k`, through either of its handles. -/
def tagsAdded (k : Nat) (es : List Event) : List KeyStringValuePair := es.filterMap (Event.tag? k)

/-- The logs added to the span `k`, through either of its handles. -/
def logsAdded (k : Nat) (es : List Event) : List Log := es.filterMap (Event.log? k)

/-- The spans in the order in which their `Span` handles were dropped or turned asynchronous. -/
def closeOrder (es : List Event) : List Nat := es.filterMap fun e => e.op.closes?

/-- The calls other than the drops of asynchronous spans. -/
def withoutAsyncDrops (es : List Event) : List Op :=
  (es.map fun e => e.op).filter fun op => !op.isAsyncDrop

section Concat

variable (es fs : List Event) (k : Nat)

@[simp] theorem creations_append : creations (es ++ fs) = creations es ++ creations fs := by
  simp [creations]

@[simp] theorem tagsAdded_append : tagsAdded k (es ++ fs) = tagsAdded k es ++ tagsAdded k fs := by
  simp [tagsAdded]

@[simp] theorem logsAdded_append : logsAdded k (es ++ fs) = logsAdded k es ++ logsAdded k fs := by
  simp [logsAdded]

@[simp] theorem closeOrder_append : closeOrder (es ++ fs) = closeOrder es ++ closeOrder fs := by
  simp [closeOrder]

/-- The closing order does not depend on the ends of the asynchronous spans. -/
theorem closeOrder_eq_filterMap : closeOrder es = (withoutAsyncDrops es).filterMap Op.closes? := by
  rw [withoutAsyncDrops, List.filterMap_filter, List.filterMap_map]
  refine List.filterMap_congr fun e _ => ?_
  show e.op.closes? = if (!e.op.isAsyncDrop) = true then e.op.closes? else none
  cases e.op <;> rfl

variable {es k} {e : Event}

theorem tagsAdded_concat_of_none (h : e.tag? k = none) :
    tagsAdded k (es ++ [e]) = tagsAdded k es := by
  simp [tagsAdded, h]

theorem logsAdded_concat_of_none (h : e.log? k = none) :
    logsAdded k (es ++ [e]) = logsAdded k es := by
  simp [logsAdded, h]

end Concat

/-! ## The records of a run -/

/-- The record `r` of the span `k` says what the calls `es` did to a span created with `c`. -/
structure SpanHistory (es : List Event) (k : Nat) (c : Creation) (r : SpanRecord) : Prop where
  spanId : r.obj.spanId = wrapI32 (k : Nat)
  parentSpanId : r.obj.parentSpanId = Ledger.parentId r.parent
  operationName : r.obj.operationName = c.operationName
  peer : r.obj.peer = c.peer
  spanType : r.obj.spanType = c.spanType
  spanLayer : r.obj.spanLayer = c.spanLayer
  tags : r.obj.tags = tagsAdded k es
  logs : r.obj.logs = logsAdded k es
  refs : r.obj.refs = c.refs ++ if r.phase = .ended then r.parked.toList else []

namespace SpanHistory

variable {es : List Event} {k : Nat} {c : Creation} {r : SpanRecord} {e : Event}

/-- A call that adds nothing to the span `k`. -/
theorem skip (h : SpanHistory es k c r) (htag : e.tag? k = none) (hlog : e.log? k = none) :
    SpanHistory (es ++ [e]) k c r :=
  { h with
    tags := by rw [h.tags, tagsAdded_concat_of_none htag]
    logs := by rw [h.logs, logsAdded_concat_of_none hlog] }

theorem addTag (h : SpanHistory es k c r) {clock : Clock} (key value : String) :
    SpanHistory (es ++ [⟨clock, .addTag k key value⟩]) k c
      { r with obj := r.obj.addTag key value } :=
  { h with
    tags := by simp [SpanObject.addTag, h.tags, tagsAdded, Event.tag?]
    logs := by simp [SpanObject.addTag, h.logs, logsAdded, Event.log?] }

theorem addLog (h : SpanHistory es k c r) {clock : Clock} (message : List (String × String)) :
    SpanHistory (es ++ [⟨clock, .addLog k message⟩]) k c
      { r with obj := r.obj.addLog (clock .log) message } :=
  { h with
    tags := by simp [SpanObject.addLog, h.tags, tagsAdded, Event.tag?]
    logs := by simp [SpanObject.addLog, h.logs, logsAdded, Event.log?] }

theorem ending (h : SpanHistory es k c r) (hphase : r.phase ≠ .ended) (clock : Clock) :
    SpanHistory es k c (Ledger.ending clock r) :=
  { h with refs := by simp [Ledger.ending, finish, h.refs, hphase] }

theorem detach (h : SpanHistory es k c r) (hphase : r.phase ≠ .ended) :
    SpanHistory es k c { r with phase := .detached } :=
  { h with refs := by simp [h.refs, hphase] }

theorem park (h : SpanHistory es k c r) (hphase : r.phase ≠ .ended) (ref : SegmentReference) :
    SpanHistory es k c { r with parked := some ref } :=
  { h with refs := by simp [h.refs, hphase] }

end SpanHistory

namespace Ledger

/-- The ledger after the calls `es`. -/
structure Recorded (es : List Event) (L : Ledger) : Prop where
  count : L.count = (creations es).length
  order : L.order = closeOrder es
  span : ∀ k c, (creations es)[k]? = some c → SpanHistory es k c (L.record k)
  fresh : ∀ k, L.count ≤ k → tagsAdded k es = [] ∧ logsAdded k es = []

namespace Recorded

variable {es : List Event} {L L' : Ledger} {e : Event}

theorem lt_count (hR : Recorded es L) {k : Nat} {c : Creation}
    (hk : (creations es)[k]? = some c) : k < L.count := by
  rw [hR.count]
  exact (List.getElem?_eq_some_iff.1 hk).1

/-- A call that creates a span with `c`. -/
theorem openSpan (hR : Recorded es L) (clock : Clock) {c : Creation}
    (hc : e.op.creation? = some c)
    (hcount : L'.count = L.count + 1) (horder : L'.order = L.order)
    (hrecord : L'.record = Function.update L.record L.count ⟨L.innermost,
      L.nextObject clock c.operationName c.peer c.spanType c.spanLayer c.refs, none, .opened⟩) :
    Recorded (es ++ [e]) L' := by
  -- a call that creates a span neither closes nor edits one
  have hclose : e.op.closes? = none := by
    cases hop : e.op <;> simp_all [Op.creation?, Op.closes?]
  have htag : ∀ k, e.tag? k = none := by
    intro k
    unfold Event.tag?
    cases hop : e.op <;> simp_all [Op.creation?]
  have hlog : ∀ k, e.log? k = none := by
    intro k
    unfold Event.log?
    cases hop : e.op <;> simp_all [Op.creation?]
  refine ⟨?_, ?_, ?_, ?_⟩
  · simp [creations, hc, hcount, hR.count]
  · simp [horder, hR.order, closeOrder, hclose]
  · intro k c' hk
    have hsplit : creations (es ++ [e]) = creations es ++ [c] := by simp [creations, hc]
    rw [hsplit] at hk
    by_cases hlt : k < (creations es).length
    · rw [List.getElem?_append_left hlt] at hk
      have hne : k ≠ L.count := by
        rw [hR.count]
        exact Nat.ne_of_lt hlt
      rw [hrecord, Function.update_of_ne hne]
      exact (hR.span k c' hk).skip (htag k) (hlog k)
    -- the new record: nothing was added to a span of this number before
    · rw [List.getElem?_append_right (Nat.le_of_not_lt hlt)] at hk
      obtain ⟨hidx, rfl⟩ : k - (creations es).length = 0 ∧ c = c' := by
        rcases Nat.eq_zero_or_pos (k - (creations es).length) with h0 | hpos
        · rw [h0] at hk
          exact ⟨h0, by simpa using hk⟩
        · rw [List.getElem?_eq_none (by simpa using Nat.succ_le_of_lt hpos)] at hk
          cases hk
      have hk : k = L.count := by
        rw [hR.count]
        omega
      obtain ⟨htags, hlogs⟩ := hR.fresh k (Nat.le_of_eq hk.symm)
      subst hk
      rw [hrecord, Function.update_self]
      exact { spanId := rfl, parentSpanId := rfl, operationName := rfl, peer := rfl,
              spanType := rfl, spanLayer := rfl,
              tags := by rw [tagsAdded_concat_of_none (htag _), htags]; rfl
              logs := by rw [logsAdded_concat_of_none (hlog _), hlogs]; rfl
              refs := by simp [nextObject] }
  · intro k hk
    obtain ⟨htags, hlogs⟩ := hR.fresh k (by omega)
    rw [tagsAdded_concat_of_none (htag k), logsAdded_concat_of_none (hlog k)]
    exact ⟨htags, hlogs⟩

/-- A call that changes the record of the span `h` only, and creates, closes and parks nothing of
its own account. -/
theorem setRecord (hR : Recorded es L) {h : Nat} {r : SpanRecord}
    (hcreate : e.op.creation? = none) (hcount : L'.count = L.count)
    (horder : L'.order = L.order ++ (e.op.closes?).toList)
    (hrecord : L'.record = Function.update L.record h r)
    (hother : ∀ k, k ≠ h → e.tag? k = none ∧ e.log? k = none) (hh : h < L.count)
    (hself : ∀ c, SpanHistory es h c (L.record h) → SpanHistory (es ++ [e]) h c r) :
    Recorded (es ++ [e]) L' := by
  have hsame : creations (es ++ [e]) = creations es := by simp [creations, hcreate]
  refine ⟨?_, ?_, ?_, ?_⟩
  · rw [hsame, hcount, hR.count]
  · rw [horder, hR.order, closeOrder_append]
    cases hcl : e.op.closes? <;> simp [closeOrder, hcl]
  · intro k c hk
    rw [hsame] at hk
    rw [hrecord]
    -- `hself` speaks of the record `h`; for the others the call adds nothing
    by_cases hkh : k = h
    · subst hkh
      rw [Function.update_self]
      exact hself c (hR.span k c hk)
    · rw [Function.update_of_ne hkh]
      exact (hR.span k c hk).skip (hother k hkh).1 (hother k hkh).2
  · intro k hk
    rw [hcount] at hk
    have hkh : k ≠ h := by omega
    rw [tagsAdded_concat_of_none (hother k hkh).1, logsAdded_concat_of_none (hother k hkh).2]
    exact hR.fresh k hk

/-- A call that changes no record. -/
theorem skip (hR : Recorded es L) (hcreate : e.op.creation? = none) (hclose : e.op.closes? = none)
    (hnone : ∀ k, e.tag? k = none ∧ e.log? k = none) (hcount : L'.count = L.count)
    (horder : L'.order = L.order) (hrecord : L'.record = L.record) :
    Recorded (es ++ [e]) L' := by
  have hsame : creations (es ++ [e]) = creations es := by simp [creations, hcreate]
  refine ⟨?_, ?_, ?_, ?_⟩
  · rw [hsame, hcount, hR.count]
  · simp [horder, hR.order, closeOrder, hclose]
  · intro k c hk
    rw [hsame] at hk
    rw [hrecord]
    exact (hR.span k c hk).skip (hnone k).1 (hnone k).2
  · intro k hk
    rw [hcount] at hk
    rw [tagsAdded_concat_of_none (hnone k).1, logsAdded_concat_of_none (hnone k).2]
    exact hR.fresh k hk

end Recorded

variable {es : List Event} {L L' : Ledger} {e : Event}

theorem recorded_new (traceId : String) (tracer : WeakTracer) :
    Recorded [] (new traceId tracer) :=
  ⟨rfl, rfl, by simp [creations], fun _ _ => ⟨rfl, rfl⟩⟩

/-- Closing a span, with its end when its handle was dropped. -/
theorem recorded_close (hL : L.Valid) (hR : Recorded es L) {h : Nat} {r : SpanRecord}
    (hop : e.op = .dropSpan h ∨ e.op = .prepareForAsync h) (hclose : L.close h r = some L')
    (hself : ∀ c, (L.record h).phase ≠ .ended → SpanHistory es h c (L.record h) →
      SpanHistory es h c r) : Recorded (es ++ [e]) L' := by
  unfold close at hclose
  split at hclose
  · next hin =>
    obtain rfl := (Option.some.inj hclose).symm
    obtain ⟨hsplit, hlt, -, -⟩ := hL.split_innermost hin
    -- on the stack, so its parked reference is not in its object yet
    have hopen : (L.record h).phase = .opened := hL.opened h (hsplit ▸ List.mem_concat_self)
    have hcreate : e.op.creation? = none := by
      rcases hop with hop | hop <;> simp [hop, Op.creation?]
    have hcl : e.op.closes? = some h := by rcases hop with hop | hop <;> simp [hop, Op.closes?]
    have hnone : ∀ k, e.tag? k = none ∧ e.log? k = none := by
      intro k
      rcases hop with hop | hop <;> simp [Event.tag?, Event.log?, hop]
    refine hR.setRecord (r := r) (h := h) hcreate rfl (by simp [hcl]) rfl (fun k _ => hnone k)
      hlt fun c hc => ?_
    exact (hself c (by simp [hopen]) hc).skip (hnone h).1 (hnone h).2
  · simp at hclose

/-- Parking a reference, after the trace was adopted. -/
theorem recorded_park (hL : L.Valid) (hR : Recorded es L) {snapshot : ContextSnapshot}
    (hop : e.op = .continued snapshot) (traceId : String) (ref : SegmentReference) :
    Recorded (es ++ [e]) ({ L with traceId := traceId }.park ref) := by
  have hcreate : e.op.creation? = none := by simp [hop, Op.creation?]
  have hclose : e.op.closes? = none := by simp [hop, Op.closes?]
  have hnone : ∀ k, e.tag? k = none ∧ e.log? k = none := by simp [Event.tag?, Event.log?, hop]
  unfold park
  split
  · next k hin =>
    obtain ⟨hsplit, hlt, -, -⟩ := hL.split_innermost hin
    have hopen : (L.record k).phase = .opened := hL.opened k (hsplit ▸ List.mem_concat_self)
    refine hR.setRecord (h := k) hcreate rfl (by simp [hclose]) rfl (fun k _ => hnone k) hlt
      fun c hc => ?_
    exact (hc.park (by simp [hopen]) ref).skip (hnone k).1 (hnone k).2
  -- no span is open, and the reference is dropped
  · exact hR.skip hcreate hclose hnone rfl rfl rfl

/-- What one call does to the records is what it adds to the history. -/
theorem step_recorded (hL : L.Valid) (hR : Recorded es L) (hstep : L.step e = some L') :
    Recorded (es ++ [e]) L' := by
  obtain ⟨clock, op⟩ := e
  cases op with
  | createEntrySpan operationName =>
    obtain rfl := (Option.some.inj hstep).symm
    exact hR.openSpan clock rfl rfl rfl rfl
  | createEntrySpanWithPropagation operationName propagation =>
    obtain rfl := (Option.some.inj hstep).symm
    exact hR.openSpan clock rfl rfl rfl rfl
  | createExitSpan operationName remotePeer =>
    obtain rfl := (Option.some.inj hstep).symm
    exact hR.openSpan clock rfl rfl rfl rfl
  | createLocalSpan operationName =>
    obtain rfl := (Option.some.inj hstep).symm
    exact hR.openSpan clock rfl rfl rfl rfl
  | addTag h key value =>
    simp only [step, edit] at hstep
    split at hstep
    · next hlive =>
      obtain rfl := (Option.some.inj hstep).symm
      exact hR.setRecord (h := h) rfl rfl (by simp [setRecord, Op.closes?]) rfl
        (fun k hk => by simp [Event.tag?, Event.log?, Ne.symm hk]) hlive.1
        fun c hc => hc.addTag key value
    · simp at hstep
  | addLog h message =>
    simp only [step, edit] at hstep
    split at hstep
    · next hlive =>
      obtain rfl := (Option.some.inj hstep).symm
      exact hR.setRecord (h := h) rfl rfl (by simp [setRecord, Op.closes?]) rfl
        (fun k hk => by simp [Event.tag?, Event.log?, Ne.symm hk]) hlive.1
        fun c hc => hc.addLog message
    · simp at hstep
  | dropSpan h =>
    -- the end of a span takes the parked reference, as its history says
    exact recorded_close hL hR (Or.inl rfl) hstep fun c hphase hc => hc.ending hphase clock
  | prepareForAsync h =>
    -- detached: the reference stays parked
    exact recorded_close hL hR (Or.inr rfl) hstep fun c hphase hc => hc.detach hphase
  | dropAsyncSpan h =>
    simp only [step, complete] at hstep
    split at hstep
    · next hlive =>
      obtain rfl := (Option.some.inj hstep).symm
      refine hR.setRecord (h := h) rfl rfl (by simp [setRecord, Op.closes?]) rfl
        (fun k _ => ⟨rfl, rfl⟩) hlive.1 fun c hc => ?_
      exact (hc.ending (by simp [hlive.2]) clock).skip rfl rfl
    · simp at hstep
  | capture =>
    obtain rfl := (Option.some.inj hstep).symm
    exact hR.skip rfl rfl (fun _ => ⟨rfl, rfl⟩) rfl rfl rfl
  | continued snapshot =>
    simp only [step] at hstep
    split at hstep
    · obtain ⟨tracer, -, rfl⟩ := Option.map_eq_some_iff.1 hstep
      exact recorded_park hL hR rfl _ _
    · obtain rfl := (Option.some.inj hstep).symm
      exact hR.skip rfl rfl (fun _ => ⟨rfl, rfl⟩) rfl rfl rfl
  | dropContext => simp [step] at hstep
  | dropTracer =>
    obtain rfl := (Option.some.inj hstep).symm
    exact hR.skip rfl rfl (fun _ => ⟨rfl, rfl⟩) rfl rfl rfl

/-- After a run, the records say what the run did. -/
theorem run_recorded {traceId : String} {tracer : WeakTracer}
    (hrun : run (new traceId tracer) es = some L) : Recorded es L :=
  (Execution.run_history (I := fun es L => L.Valid ∧ Recorded es L)
    ⟨valid_new traceId tracer, recorded_new traceId tracer⟩
    (fun _ _ _ _ hI hstep => ⟨step_valid hI.1 hstep, step_recorded hI.1 hI.2 hstep⟩) hrun).2

end Ledger

end SkywalkingAgent.Trace
