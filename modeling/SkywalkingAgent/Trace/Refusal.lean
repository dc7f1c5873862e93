import SkywalkingAgent.Trace.Links
import SkywalkingAgent.Trace.Panics

/-!
# Closes that are refused

A span can be closed while it is the innermost open one. `Drop for Span` and `prepare_for_async`
both test this by comparing uids; here the open spans are those that the calls of the run have
created and not closed (`openSpans`), and `World.Tracked` ties the two together. A refused drop
misses nothing but the handle. A refused `prepare_for_async` would too, if the handle it owns were
not dropped by the panic it raises. `World.refused_close_iff` says so for every reachable state.
-/

set_option autoImplicit false

namespace SkywalkingAgent.Trace

open SkywalkingAgent.Lib SkywalkingAgent.Common SkywalkingAgent.Proto
open SkywalkingAgent.Propagation SkywalkingAgent.Reporter

/-! ## The open spans of a history -/

/-- The spans that the calls have created and not closed, the oldest first. -/
def openSpans (es : List Event) : List Nat :=
  (List.range (creations es).length).filter fun k => decide (k ∉ closeOrder es)

theorem nodup_openSpans (es : List Event) : (openSpans es).Nodup := List.nodup_range.filter _

theorem closeOrder_concat (es : List Event) (e : Event) :
    closeOrder (es ++ [e]) = closeOrder es ++ e.op.closes?.toList := by
  cases hclose : e.op.closes? with
  | none => simp [closeOrder, hclose]
  | some h => simp [closeOrder, hclose]

theorem creations_concat (es : List Event) (e : Event) :
    creations (es ++ [e]) = creations es ++ e.op.creation?.toList := by
  cases hcreate : e.op.creation? with
  | none => simp [creations, hcreate]
  | some c => simp [creations, hcreate]

variable {es : List Event} {e : Event}

/-- A new span is open, and the youngest one. -/
theorem openSpans_create (hcreate : e.op.creation?.isSome) (hclose : e.op.closes? = none)
    (hclosed : ∀ k ∈ closeOrder es, k < (creations es).length) :
    openSpans (es ++ [e]) = openSpans es ++ [(creations es).length] := by
  obtain ⟨c, hc⟩ := Option.isSome_iff_exists.1 hcreate
  have hnew : (creations es).length ∉ closeOrder es :=
    fun hmem => Nat.lt_irrefl _ (hclosed _ hmem)
  unfold openSpans
  rw [creations_concat, closeOrder_concat, hc, hclose, Option.toList_none, List.append_nil,
    Option.toList_some, List.length_append, List.length_singleton, List.range_succ,
    List.filter_append]
  simp [hnew]

/-- Closing the youngest open span. -/
theorem openSpans_close {h : Nat} {t : List Nat} (hcreate : e.op.creation? = none)
    (hclose : e.op.closes? = some h) (hopen : openSpans es = t ++ [h]) :
    openSpans (es ++ [e]) = t := by
  have hfilter : openSpans (es ++ [e]) = (openSpans es).filter fun k => decide (k ≠ h) := by
    unfold openSpans
    rw [creations_concat, closeOrder_concat, hcreate, hclose, Option.toList_none, List.append_nil,
      Option.toList_some, List.filter_filter]
    apply List.filter_congr
    intro k _
    simp [and_comm]
  have hnodup : (t ++ [h]).Nodup := hopen ▸ nodup_openSpans es
  have hnot : h ∉ t := by
    intro hmem
    exact (List.nodup_append.1 hnodup).2.2 h hmem h List.mem_cons_self rfl
  rw [hfilter, hopen, List.filter_append, List.filter_eq_self.2 fun k hk => ?_]
  · simp
  · rw [decide_eq_true_eq]
    rintro rfl
    exact hnot hk

theorem openSpans_congr (hcreate : e.op.creation? = none) (hclose : e.op.closes? = none) :
    openSpans (es ++ [e]) = openSpans es := by
  unfold openSpans
  rw [creations_concat, closeOrder_concat, hcreate, hclose, Option.toList_none, List.append_nil,
    Option.toList_none, List.append_nil]

namespace World

variable {overflowChecks : Bool} {w w' w₀ : World}

theorem returned_concat (hrun : Execution.run (after overflowChecks) w₀ es = some w) :
    returned overflowChecks w₀ (es ++ [e]) =
      returned overflowChecks w₀ es ++ returned overflowChecks w [e] := by
  induction es generalizing w₀ with
  | nil =>
    obtain rfl := Option.some.inj hrun
    rfl
  | cons e' es ih =>
    obtain ⟨v, hv, hrest⟩ := Execution.run_cons_iff.1 hrun
    obtain ⟨o, hcall, ho⟩ := after_eq_some_iff.1 hv
    rcases ho with rfl | ⟨m, rfl⟩
    · simp only [List.cons_append, returned, hcall, ih hrest]
    · simp only [List.cons_append, returned, hcall, ih hrest]

theorem returned_of_ok (hcall : w.call overflowChecks e = some (.ok () w')) :
    returned overflowChecks w [e] = [e] := by
  simp only [returned, hcall]

theorem returned_of_panic {m : String} (hcall : w.call overflowChecks e = some (.panic m w')) :
    returned overflowChecks w [e] = [] := by
  simp only [returned, hcall]

/-! ## What a call does to the open spans -/

/-- The live `Span` handles of `w'` were there, with their uids. -/
def KeepsSpans (w w' : World) : Prop :=
  ∀ (k : Nat) (s : Span), w'.handles[k]? = some (.span s) →
    ∃ s' : Span, w.handles[k]? = some (.span s') ∧ s'.uid = s.uid

theorem keepsSpans_of_eq (h : w'.handles = w.handles) : KeepsSpans w w' := by
  intro k s hs
  exact ⟨s, h ▸ hs, rfl⟩

theorem keepsSpans_set {k : Nat} {y : Handle} (hhandles : w'.handles = w.handles.set k y)
    (hy : ∀ s : Span, y = .span s →
      ∃ s' : Span, w.handles[k]? = some (.span s') ∧ s'.uid = s.uid) :
    KeepsSpans w w' := by
  intro j s hs
  rw [hhandles, List.getElem?_set] at hs
  split at hs
  · next hkj =>
    subst hkj
    split at hs
    · exact hy s (Option.some.inj hs)
    · cases hs
  · exact ⟨s, hs, rfl⟩

/-- A call opens a span, closes the innermost one, or leaves the stack. -/
inductive StackEffect (overflowChecks : Bool) (w : World) (e : Event) (w' : World) : Prop where
  | opened (returns : returned overflowChecks w [e] = [e]) (creates : e.op.creation?.isSome)
      (closes : e.op.closes? = none) (obj : SpanObject)
      (handles : w'.handles = w.handles ++ [.span ⟨w.context.spanUidGenerator, some obj⟩])
      (generator : w'.context.spanUidGenerator = w.context.spanUidGenerator + 1)
      (active : (w'.context.spanStack.active.map fun a => a.uid) =
        (w.context.spanStack.active.map fun a => a.uid) ++ [w.context.spanUidGenerator])
  | closed (returns : returned overflowChecks w [e] = [e]) (creates : e.op.creation? = none)
      (h : Nat) (closes : e.op.closes? = some h) (s : Span)
      (handle : w.handles[h]? = some (.span s)) (y : Handle) (kind : y.isSpan = false)
      (handles : w'.handles = w.handles.set h y)
      (generator : w'.context.spanUidGenerator = w.context.spanUidGenerator)
      (active : (w.context.spanStack.active.map fun a => a.uid) =
        (w'.context.spanStack.active.map fun a => a.uid) ++ [s.uid])
  | kept (history : returned overflowChecks w [e] = [] ∨
        (e.op.creation? = none ∧ e.op.closes? = none))
      (count : w'.handles.length = w.handles.length)
      (generator : w'.context.spanUidGenerator = w.context.spanUidGenerator)
      (active : (w'.context.spanStack.active.map fun a => a.uid) =
        w.context.spanStack.active.map fun a => a.uid)
      (keeps : KeepsSpans w w')

theorem stackEffect_create {o : Outcome TracingContext Span}
    (hcreate : e.op.creation?.isSome) (hclose : e.op.closes? = none)
    (hcall : w.call overflowChecks e = some (w.create o))
    (hok : ∀ s t, o = .ok s t → Opened overflowChecks w.context s t)
    (hpanic : ∀ m t, o = .panic m t → t = w.context)
    (h : w.create o = .ok () w' ∨ ∃ m, w.create o = .panic m w') :
    StackEffect overflowChecks w e w' := by
  rcases create_cases hpanic h with ⟨span, context, ho, hreturn, rfl⟩ | ⟨rfl, m, hm⟩
  · obtain ⟨-, ⟨obj, rfl⟩, hgen, hstack, -⟩ := hok span context ho
    refine .opened (returned_of_ok (hcall.trans (congrArg some hreturn))) hcreate hclose obj rfl
      hgen ?_
    simp [hstack]
  · have hreturned := returned_of_panic (hcall.trans (congrArg some hm))
    exact .kept (Or.inl hreturned) rfl rfl rfl (keepsSpans_of_eq rfl)

theorem stackEffect_modify {k : Nat} {f : SpanObject → SpanObject} {o : Outcome World Unit}
    (hcreate : e.op.creation? = none) (hclose : e.op.closes? = none)
    (hmodify : w.modifyObject k f = some o) (ho : o = .ok () w' ∨ ∃ m, o = .panic m w') :
    StackEffect overflowChecks w e w' := by
  rcases modifyObject_cases hmodify ho with ⟨x, x', hx, hedit, rfl⟩ | rfl
  · refine .kept (Or.inr ⟨hcreate, hclose⟩) List.length_set rfl rfl (keepsSpans_set rfl ?_)
    rintro s rfl
    -- an edit keeps the kind and the uid
    cases hedit with
    | span uid obj obj' => exact ⟨_, hx, rfl⟩
  · exact .kept (Or.inr ⟨hcreate, hclose⟩) rfl rfl rfl (keepsSpans_of_eq rfl)

/-- A call that touches no `Span` handle. -/
theorem stackEffect_of_handles (hcreate : e.op.creation? = none) (hclose : e.op.closes? = none)
    (hhandles : w'.handles = w.handles)
    (hgen : w'.context.spanUidGenerator = w.context.spanUidGenerator)
    (hactive : (w'.context.spanStack.active.map fun a => a.uid) =
      w.context.spanStack.active.map fun a => a.uid) : StackEffect overflowChecks w e w' :=
  .kept (Or.inr ⟨hcreate, hclose⟩) (by rw [hhandles]) hgen hactive (keepsSpans_of_eq hhandles)

theorem stackEffect_dropSpan {clock : Clock} {k : Nat} {o : Outcome World Unit}
    (hcall : w.call overflowChecks ⟨clock, .dropSpan k⟩ = some o)
    (ho : o = .ok () w' ∨ ∃ m, o = .panic m w') :
    StackEffect overflowChecks w ⟨clock, .dropSpan k⟩ w' := by
  obtain ⟨s, stack, hs, rfl, ⟨hok, hdrop⟩ | ⟨rfl, m, hpanic⟩⟩ := dropSpan_cases hcall ho
  · obtain ⟨base, a, hactive, ha, rfl⟩ := SpanStack.finalizeSpan_eq_ok_iff.1 hdrop
    rw [hok] at hcall
    refine .closed (returned_of_ok hcall) rfl k rfl s hs .closed rfl rfl rfl ?_
    simp [hactive, setShared, ha]
  · rw [hpanic] at hcall
    exact .kept (Or.inl (returned_of_panic hcall)) List.length_set rfl rfl
      (keepsSpans_set rfl fun s hs => by cases hs)

theorem stackEffect_prepareForAsync {clock : Clock} {k : Nat} {o : Outcome World Unit}
    (hcall : w.call overflowChecks ⟨clock, .prepareForAsync k⟩ = some o)
    (ho : o = .ok () w' ∨ ∃ m, o = .panic m w') :
    StackEffect overflowChecks w ⟨clock, .prepareForAsync k⟩ w' := by
  obtain ⟨s, a, shared, hs, hprep, rfl, rfl⟩ := prepareForAsync_cases hcall ho
  obtain ⟨rfl, base, top, hactive, htop, rfl⟩ := Span.prepareForAsync_eq_ok_iff.1 hprep
  refine .closed (returned_of_ok hcall) rfl k rfl s hs (.asyncSpan _) rfl rfl rfl ?_
  simp [hactive, setShared, htop]

theorem stackEffect_dropAsyncSpan {clock : Clock} {k : Nat} {o : Outcome World Unit}
    (hcall : w.call overflowChecks ⟨clock, .dropAsyncSpan k⟩ = some o)
    (ho : o = .ok () w' ∨ ∃ m, o = .panic m w') :
    StackEffect overflowChecks w ⟨clock, .dropAsyncSpan k⟩ w' := by
  obtain ⟨a, shared, -, rfl, hdrop⟩ := dropAsyncSpan_cases hcall ho
  refine .kept (Or.inr ⟨rfl, rfl⟩) List.length_set rfl ?_
    (keepsSpans_set rfl fun s hs => by cases hs)
  simp [setShared, AsyncSpan.drop_active hdrop]

/-- Dropping the context takes the finalized spans and leaves the open ones. -/
theorem dropContext_frame {o : Outcome World Unit} (hdrop : w.dropContext = o)
    (ho : o = .ok () w' ∨ ∃ m, o = .panic m w') :
    w'.handles = w.handles ∧ w'.context.spanUidGenerator = w.context.spanUidGenerator ∧
      w'.context.spanStack.active = w.context.spanStack.active := by
  subst hdrop
  unfold dropContext TracingContext.drop TracingContext.convertToSegmentObject at ho
  cases htracer : w.context.tracer with
  | none =>
    rw [htracer] at ho
    rcases ho with ho | ⟨m, ho⟩
    · cases ho
    · obtain rfl := (Outcome.panic.inj ho).2
      exact ⟨rfl, rfl, rfl⟩
  | some tracer =>
    cases hspans : TracingContext.takeObjects w.context.spanStack.finalized with
    | none =>
      simp only [htracer, hspans, Outcome.bind] at ho
      rcases ho with ho | ⟨m, ho⟩
      · cases ho
      · obtain rfl := (Outcome.panic.inj ho).2
        exact ⟨rfl, rfl, rfl⟩
    | some spans =>
      simp only [htracer, hspans, Outcome.bind] at ho
      rcases ho with ho | ⟨m, ho⟩
      · obtain rfl := (Outcome.ok.inj ho).2
        exact ⟨rfl, rfl, rfl⟩
      · cases ho

/-- Every call opens a span, closes the innermost one or keeps the open spans. -/
theorem stackEffect_after (h : w.after overflowChecks e = some w') :
    StackEffect overflowChecks w e w' := by
  obtain ⟨o, hcall, ho⟩ := after_eq_some_iff.1 h
  obtain ⟨clock, op⟩ := e
  cases op with
  | createEntrySpan =>
    obtain rfl := Option.some.inj (of_contextAlive hcall)
    exact stackEffect_create rfl rfl hcall (fun _ _ => opened_of_openSpan)
      (fun _ _ => openSpan_panic) ho
  | createEntrySpanWithPropagation =>
    obtain rfl := Option.some.inj (of_contextAlive hcall)
    exact stackEffect_create rfl rfl hcall (fun _ _ => opened_of_createWithPropagation)
      (fun _ _ => createWithPropagation_panic) ho
  | createExitSpan =>
    obtain rfl := Option.some.inj (of_contextAlive hcall)
    exact stackEffect_create rfl rfl hcall (fun _ _ => opened_of_createCommonSpan)
      (fun _ _ => createCommonSpan_panic) ho
  | createLocalSpan =>
    obtain rfl := Option.some.inj (of_contextAlive hcall)
    exact stackEffect_create rfl rfl hcall (fun _ _ => opened_of_createCommonSpan)
      (fun _ _ => createCommonSpan_panic) ho
  | addTag k key value => exact stackEffect_modify rfl rfl hcall ho
  | addLog k message => exact stackEffect_modify rfl rfl hcall ho
  | dropSpan k => exact stackEffect_dropSpan hcall ho
  | prepareForAsync k => exact stackEffect_prepareForAsync hcall ho
  | dropAsyncSpan k => exact stackEffect_dropAsyncSpan hcall ho
  | capture =>
    obtain rfl := Option.some.inj (of_contextAlive hcall)
    obtain rfl := Outcome.eq_of_ok ho
    exact stackEffect_of_handles rfl rfl rfl rfl rfl
  | continued snapshot =>
    obtain rfl := Option.some.inj (of_contextAlive hcall)
    rcases continued_cases ho with ⟨-, rfl⟩ | ⟨-, -, rfl⟩ | ⟨tracer, -, -, rfl⟩
    · exact stackEffect_of_handles rfl rfl rfl rfl rfl
    · exact stackEffect_of_handles rfl rfl rfl rfl rfl
    -- the parked reference leaves the uids of the stack
    · exact stackEffect_of_handles rfl rfl rfl rfl (sameSpans_parkRef _ _).uids
  | dropContext =>
    obtain ⟨hhandles, hgen, hactive⟩ :=
      dropContext_frame (Option.some.inj (of_contextAlive hcall)) ho
    exact stackEffect_of_handles rfl rfl hhandles hgen (by rw [hactive])
  | dropTracer =>
    obtain rfl := Option.some.inj hcall
    obtain rfl := Outcome.eq_of_ok ho
    exact stackEffect_of_handles rfl rfl rfl rfl rfl

/-! ## The open spans are the active ones -/

/-- The world `w` after the calls `es` returned, and perhaps others panicked. -/
structure Tracked (es : List Event) (w : World) : Prop where
  count : w.handles.length = (creations es).length
  generator : w.context.spanUidGenerator = w.handles.length
  active : (w.context.spanStack.active.map fun a => a.uid) = openSpans es
  handle : ∀ (k : Nat) (s : Span), w.handles[k]? = some (.span s) → s.uid = k ∧ k ∈ openSpans es
  closed : ∀ k ∈ closeOrder es, k < (creations es).length

theorem tracked_new (serviceName instanceName traceId traceSegmentId : String)
    (tracer : WeakTracer) :
    Tracked [] (World.new serviceName instanceName traceId traceSegmentId tracer) where
  count := rfl
  generator := rfl
  active := rfl
  handle k s hs := by cases hs
  closed k hk := by cases hk

theorem mem_openSpans_lt {k : Nat} (h : k ∈ openSpans es) : k < (creations es).length :=
  List.mem_range.1 (List.mem_filter.1 h).1

theorem Tracked.opened (h : Tracked es w) (hcreate : e.op.creation?.isSome)
    (hclose : e.op.closes? = none) {obj : SpanObject}
    (hhandles : w'.handles = w.handles ++ [.span ⟨w.context.spanUidGenerator, some obj⟩])
    (hgen : w'.context.spanUidGenerator = w.context.spanUidGenerator + 1)
    (hactive : (w'.context.spanStack.active.map fun a => a.uid) =
      (w.context.spanStack.active.map fun a => a.uid) ++ [w.context.spanUidGenerator]) :
    Tracked (es ++ [e]) w' := by
  have hopen := openSpans_create hcreate hclose h.closed
  have hcount : (creations (es ++ [e])).length = (creations es).length + 1 := by
    obtain ⟨c, hc⟩ := Option.isSome_iff_exists.1 hcreate
    rw [creations_concat, hc, Option.toList_some, List.length_append, List.length_singleton]
  have hlength : w'.handles.length = w.handles.length + 1 := by simp [hhandles]
  refine ⟨by rw [hlength, hcount, h.count], by rw [hgen, hlength, h.generator], ?_, ?_, ?_⟩
  · rw [hactive, hopen, h.active, h.generator, h.count]
  · intro k s hs
    rw [hhandles] at hs
    rw [hopen, List.mem_append]
    rcases Nat.lt_or_ge k w.handles.length with hlt | hge
    · rw [List.getElem?_append_left hlt] at hs
      exact ⟨(h.handle k s hs).1, Or.inl (h.handle k s hs).2⟩
    -- the handle of the new span is the next one
    · rw [List.getElem?_append_right hge, List.getElem?_singleton] at hs
      split at hs
      · next hk =>
        have hkeq : k = w.handles.length := by omega
        obtain rfl := Handle.span.inj (Option.some.inj hs)
        exact ⟨by rw [h.generator, hkeq], Or.inr (by simp [hkeq, h.count])⟩
      · cases hs
  · intro k hk
    rw [closeOrder_concat, hclose, Option.toList_none, List.append_nil] at hk
    exact hcount ▸ Nat.lt_succ_of_lt (h.closed k hk)

theorem Tracked.closed_innermost (h : Tracked es w) (hcreate : e.op.creation? = none) {k : Nat}
    (hclose : e.op.closes? = some k) {s : Span} (hhandle : w.handles[k]? = some (.span s))
    {y : Handle} (hkind : y.isSpan = false) (hhandles : w'.handles = w.handles.set k y)
    (hgen : w'.context.spanUidGenerator = w.context.spanUidGenerator)
    (hactive : (w.context.spanStack.active.map fun a => a.uid) =
      (w'.context.spanStack.active.map fun a => a.uid) ++ [s.uid]) :
    Tracked (es ++ [e]) w' := by
  obtain ⟨huid, hmem⟩ := h.handle k s hhandle
  rw [h.active, huid] at hactive
  have hopen := openSpans_close hcreate hclose hactive
  have hcount : (creations (es ++ [e])).length = (creations es).length := by
    rw [creations_concat, hcreate, Option.toList_none, List.append_nil]
  have hlength : w'.handles.length = w.handles.length := by simp [hhandles]
  refine ⟨by rw [hlength, hcount, h.count], by rw [hgen, hlength, h.generator], hopen.symm, ?_, ?_⟩
  · intro j s' hs
    rw [hhandles, List.getElem?_set] at hs
    split at hs
    · split at hs
      · obtain rfl := Option.some.inj hs
        cases hkind
      · cases hs
    -- the other handles were there, and their spans stay open
    · next hkj =>
      obtain ⟨hj, hjmem⟩ := h.handle j s' hs
      refine ⟨hj, ?_⟩
      rw [hactive, List.mem_append, List.mem_singleton] at hjmem
      rw [hopen]
      exact hjmem.resolve_right (Ne.symm hkj)
  · intro j hj
    rw [closeOrder_concat, hclose, Option.toList_some, List.mem_append, List.mem_singleton] at hj
    rw [hcount]
    rcases hj with hj | rfl
    · exact h.closed j hj
    · exact mem_openSpans_lt hmem

theorem Tracked.kept (h : Tracked es w) {fs : List Event}
    (hcreations : creations fs = creations es) (hopen : openSpans fs = openSpans es)
    (hclosed : closeOrder fs = closeOrder es) (hcount : w'.handles.length = w.handles.length)
    (hgen : w'.context.spanUidGenerator = w.context.spanUidGenerator)
    (hactive : (w'.context.spanStack.active.map fun a => a.uid) =
      w.context.spanStack.active.map fun a => a.uid)
    (hkeeps : KeepsSpans w w') : Tracked fs w' := by
  refine ⟨by rw [hcount, hcreations, h.count], by rw [hgen, hcount, h.generator],
    by rw [hactive, hopen, h.active], ?_, by rw [hclosed, hcreations]; exact h.closed⟩
  intro k s hs
  obtain ⟨s', hs', huid⟩ := hkeeps k s hs
  rw [← huid, hopen]
  exact h.handle k s' hs'

theorem Tracked.after (h : Tracked es w) (hafter : w.after overflowChecks e = some w') :
    Tracked (es ++ returned overflowChecks w [e]) w' := by
  cases stackEffect_after hafter with
  | opened hreturns hcreate hclose obj hhandles hgen hactive =>
    rw [hreturns]
    exact h.opened hcreate hclose hhandles hgen hactive
  | closed hreturns hcreate k hclose s hhandle y hkind hhandles hgen hactive =>
    rw [hreturns]
    exact h.closed_innermost hcreate hclose hhandle hkind hhandles hgen hactive
  | kept hhistory hcount hgen hactive hkeeps =>
    -- either the call is not in the history, or the history says nothing of it
    have hsame : returned overflowChecks w [e] = [] ∨ returned overflowChecks w [e] = [e] := by
      obtain ⟨o, hcall, rfl | ⟨m, rfl⟩⟩ := after_eq_some_iff.1 hafter
      · exact Or.inr (returned_of_ok hcall)
      · exact Or.inl (returned_of_panic hcall)
    rcases hsame with hnil | hone
    · rw [hnil, List.append_nil]
      exact h.kept rfl rfl rfl hcount hgen hactive hkeeps
    · rw [hone]
      obtain hnil | ⟨hcreate, hclose⟩ := hhistory
      · rw [hone] at hnil
        cases hnil
      · refine h.kept ?_ (openSpans_congr hcreate hclose) ?_ hcount hgen hactive hkeeps
        · rw [creations_concat, hcreate, Option.toList_none, List.append_nil]
        · rw [closeOrder_concat, hclose, Option.toList_none, List.append_nil]

theorem run_tracked {fs : List Event} (h : Tracked [] w)
    (hrun : Execution.run (World.after overflowChecks) w fs = some w') :
    Tracked (returned overflowChecks w fs) w' := by
  induction fs using List.reverseRecOn generalizing w' with
  | nil =>
    obtain rfl := Option.some.inj hrun
    exact h
  | append_singleton fs e ih =>
    obtain ⟨v, hv, hafter⟩ := Execution.run_concat_iff.1 hrun
    rw [returned_concat hv]
    exact (ih hv).after hafter

/-- The innermost span is the one on top of the active stack. -/
theorem Tracked.innermost_iff (h : Tracked es w) {k : Nat} {s : Span}
    (hhandle : w.handles[k]? = some (.span s)) :
    (openSpans es).getLast? = some k ↔ s.isActiveSpan w.context.spanStack = true := by
  rw [Span.isActiveSpan_iff, (h.handle k s hhandle).1, ← h.active, List.getLast?_map,
    Option.map_eq_some_iff]
  constructor
  · rintro ⟨a, ha, rfl⟩
    obtain ⟨rest, hrest⟩ := List.getLast?_eq_some_iff.1 ha
    exact ⟨rest, a, hrest, rfl⟩
  · rintro ⟨rest, a, hrest, ha⟩
    exact ⟨a, List.getLast?_eq_some_iff.2 ⟨rest, hrest⟩, ha⟩

end World

/-! ## Closing what is above -/

/-- What the finalized list receives when a call closes the active span `a` with the handle `s`. -/
def Event.entry (e : Event) (a : ActiveSpan) (s : Span) : FinalizeSpan :=
  match e.op with
  -- the object goes on in the asynchronous handle
  | .prepareForAsync _ => SpanStack.closedEntry e.clock a none
  | _ => SpanStack.closedEntry e.clock a s.obj

/-- The wait group after a call that closes a span. -/
def Op.counted (op : Op) (wg : WaitGroup) : WaitGroup :=
  match op with
  | .prepareForAsync _ => wg.add 1
  | _ => wg

/-- The check of `prepare_for_async` failed, or the drop of the handle would. -/
theorem Span.drop_of_not_active {clock : Clock} {s : Span} {stack : SpanStack}
    (h : ¬ s.isActiveSpan stack = true) :
    s.drop clock stack = .panic "Finalize span isn't the active span" stack := by
  have hpop : stack.popActive s.uid = none := by
    rw [Option.eq_none_iff_forall_ne_some]
    rintro ⟨a, t⟩ hpop
    obtain ⟨hactive, ha, -⟩ := SpanStack.popActive_eq_some_iff.1 hpop
    exact h (Span.isActiveSpan_iff.2 ⟨_, _, hactive, ha⟩)
  unfold Span.drop SpanStack.finalizeSpan
  rw [hpop]

theorem Op.closes_eq_some_iff {op : Op} {k : Nat} :
    op.closes? = some k ↔ op = .dropSpan k ∨ op = .prepareForAsync k := by
  cases op <;> simp [Op.closes?]

namespace World

variable {overflowChecks : Bool} {w u : World} {k : Nat} {s : Span}

/-- The usual effect of closing: the innermost span leaves the stack for the finalized list. -/
structure ClosesInnermost (overflowChecks : Bool) (w : World) (e : Event) (k : Nat) (u : World) :
    Prop where
  closes : e.op.closes? = some k
  step : w.step overflowChecks e = some u
  effect : ∃ (s : Span) (rest : List ActiveSpan) (a : ActiveSpan),
    w.handles[k]? = some (.span s) ∧ w.context.spanStack.active = rest ++ [a] ∧ a.uid = s.uid ∧
      u.context.spanStack = ⟨w.context.spanStack.finalized ++ [e.entry a s], rest⟩
  wg : u.context.wg = e.op.counted w.context.wg

/-- The calls close the spans `ks`, one after the other, each with its usual effect. -/
inductive Unwinds (overflowChecks : Bool) : World → List Event → List Nat → World → Prop where
  | nil (w : World) : Unwinds overflowChecks w [] [] w
  | cons {w u v : World} {e : Event} {es : List Event} {k : Nat} {ks : List Nat}
      (closes : ClosesInnermost overflowChecks w e k u) (rest : Unwinds overflowChecks u es ks v) :
      Unwinds overflowChecks w (e :: es) (k :: ks) v

theorem exists_closesInnermost (hhandle : w.handles[k]? = some (.span s))
    {rest : List ActiveSpan} {a : ActiveSpan} (hactive : w.context.spanStack.active = rest ++ [a])
    (ha : a.uid = s.uid) (hclose : e.op.closes? = some k) :
    ∃ u y, ClosesInnermost overflowChecks w e k u ∧ u.handles = w.handles.set k y ∧
      u.context.spanStack.active = rest := by
  obtain ⟨clock, op⟩ := e
  rcases Op.closes_eq_some_iff.1 hclose with rfl | rfl
  · have hdrop : s.drop clock w.context.spanStack =
        .ok () ⟨w.context.spanStack.finalized ++ [SpanStack.closedEntry clock a s.obj], rest⟩ :=
      SpanStack.finalizeSpan_eq_ok_iff.2 ⟨rest, a, hactive, ha, rfl⟩
    have hcall : w.dropSpan clock k = some (.ok () ((w.setHandle k .closed).setShared
        (⟨w.context.spanStack.finalized ++ [SpanStack.closedEntry clock a s.obj], rest⟩,
          w.context.wg))) := by
      simp only [dropSpan, hhandle, hdrop, Outcome.mapState]
    exact ⟨_, .closed,
      ⟨rfl, step_eq_some_iff.2 hcall, ⟨s, rest, a, hhandle, hactive, ha, rfl⟩, rfl⟩, rfl, rfl⟩
  · have hprep : s.prepareForAsync clock w.context.spanStack w.context.wg =
        .ok ⟨s.uid, s.obj⟩ (⟨w.context.spanStack.finalized ++ [⟨s.uid, none, a.ref⟩], rest⟩,
          w.context.wg.add 1) :=
      Span.prepareForAsync_eq_ok_iff.2 ⟨rfl, rest, a, hactive, ha, rfl⟩
    have hcall : w.prepareForAsync clock k =
        some (.ok () ((w.setHandle k (.asyncSpan ⟨s.uid, s.obj⟩)).setShared
          (⟨w.context.spanStack.finalized ++ [⟨s.uid, none, a.ref⟩], rest⟩,
            w.context.wg.add 1))) := by
      simp only [prepareForAsync, hhandle, hprep]
    rw [← ha] at hcall
    exact ⟨_, .asyncSpan _, ⟨rfl, step_eq_some_iff.2 hcall,
      ⟨s, rest, a, hhandle, hactive, ha, rfl⟩, rfl⟩, rfl, rfl⟩

/-- Spans on top of the stack close from the inside out. -/
theorem exists_unwinds {base ks : List Nat} {fs : List Event}
    (hactive : (w.context.spanStack.active.map fun a => a.uid) = base ++ ks.reverse)
    (hnodup : ks.Nodup)
    (hlive : ∀ j ∈ ks, ∃ s : Span, w.handles[j]? = some (.span s) ∧ s.uid = j)
    (hfs : (fs.map fun f => f.op.closes?) = ks.map some) :
    ∃ u, Unwinds overflowChecks w fs ks u ∧
      (u.context.spanStack.active.map fun a => a.uid) = base := by
  induction ks generalizing w fs with
  | nil =>
    obtain rfl := List.map_eq_nil_iff.1 hfs
    exact ⟨w, .nil w, by simpa using hactive⟩
  | cons k ks ih =>
    obtain ⟨f, fs, rfl, hclose, hrest⟩ := List.map_eq_cons_iff.1 hfs
    obtain ⟨s, hhandle, huid⟩ := hlive k List.mem_cons_self
    rw [List.reverse_cons, ← List.append_assoc] at hactive
    obtain ⟨rest, last, hsplit, hrestUids, hlast⟩ := List.map_eq_append_iff.1 hactive
    obtain ⟨a, rfl, ha⟩ := List.map_eq_singleton_iff.1 hlast
    have hone : ∃ u y, ClosesInnermost overflowChecks w f k u ∧ u.handles = w.handles.set k y ∧
        u.context.spanStack.active = rest :=
      exists_closesInnermost hhandle hsplit (ha.trans huid.symm) hclose
    obtain ⟨u, y, hcloses, hhandles, hu⟩ := hone
    rw [List.nodup_cons] at hnodup
    -- only the handle of the closed span has changed
    have hlive' : ∀ j ∈ ks, ∃ s : Span, u.handles[j]? = some (.span s) ∧ s.uid = j := by
      intro j hj
      have hne : k ≠ j := fun h => hnodup.1 (h ▸ hj)
      rw [hhandles, List.getElem?_set_ne hne]
      exact hlive j (List.mem_cons_of_mem k hj)
    obtain ⟨v, hunwinds, hv⟩ := ih (by rw [hu, hrestUids]) hnodup.2 hlive' hrest
    exact ⟨v, .cons hcloses hunwinds, hv⟩

/-! ## Refused closes -/

/-- Dropping succeeds when it returns; `prepare_for_async` only has to get past its check. -/
def Admits (overflowChecks : Bool) (w : World) (e : Event) (s : Span) : Prop :=
  match e.op with
  | .prepareForAsync _ => s.isActiveSpan w.context.spanStack = true
  | _ => ∃ u, w.call overflowChecks e = some (.ok () u)

/-- The call `e` closes the span `k`, or it panics and only the handle of this span is missed: what
lies above it, as far as the program holds it, closes as before. -/
structure AllOrNothing (overflowChecks : Bool) (es : List Event) (w : World) (e : Event) (k : Nat)
    (s : Span) : Prop where
  admits : w.Admits overflowChecks e s ↔ (openSpans es).getLast? = some k
  refused : (openSpans es).getLast? ≠ some k → ∃ m w',
    w.call overflowChecks e = some (.panic m w') ∧
      w'.context.spanStack = w.context.spanStack ∧ w'.context.wg = w.context.wg ∧
      ∀ (base ks : List Nat) (fs : List Event), openSpans es = base ++ ks → k ∈ base →
        (∀ j ∈ ks, ∃ s' : Span, w.handles[j]? = some (.span s')) →
        (fs.map fun f => f.op.closes?) = ks.reverse.map some →
        ∃ u, Unwinds overflowChecks w' fs ks.reverse u ∧
          (u.context.spanStack.active.map fun a => a.uid) = base

variable {es : List Event}

theorem Tracked.drop_allOrNothing (h : Tracked es w) (hhandle : w.handles[k]? = some (.span s))
    (clock : Clock) : AllOrNothing overflowChecks es w ⟨clock, .dropSpan k⟩ k s := by
  have hcall : ∀ o, s.drop clock w.context.spanStack = o →
      w.call overflowChecks ⟨clock, .dropSpan k⟩ = some (o.mapState fun stack =>
        (w.setHandle k .closed).setShared (stack, w.context.wg)) := by
    rintro o rfl
    simp only [call, dropSpan, hhandle]
  constructor
  · rw [h.innermost_iff hhandle]
    constructor
    · rintro ⟨u, hu⟩
      by_contra hnot
      rw [hcall _ (Span.drop_of_not_active hnot)] at hu
      cases hu
    · intro hactive
      obtain ⟨rest, a, hsplit, ha⟩ := Span.isActiveSpan_iff.1 hactive
      exact ⟨_, hcall _ (SpanStack.finalizeSpan_eq_ok_iff.2 ⟨rest, a, hsplit, ha, rfl⟩)⟩
  · intro hnot
    rw [ne_eq, h.innermost_iff hhandle] at hnot
    refine ⟨_, _, hcall _ (Span.drop_of_not_active hnot), rfl, rfl, ?_⟩
    intro base ks fs hopen hbase hlive hfs
    have hnodup : (base ++ ks).Nodup := hopen ▸ nodup_openSpans es
    refine exists_unwinds ?_ (List.nodup_reverse.2 (List.nodup_append.1 hnodup).2.1) ?_ hfs
    · rw [List.reverse_reverse, ← hopen, ← h.active]
      rfl
    · intro j hj
      rw [List.mem_reverse] at hj
      -- the refused span lies below, so its handle is another one
      have hne : k ≠ j := (List.nodup_append.1 hnodup).2.2 k hbase j hj
      obtain ⟨s', hs'⟩ := hlive j hj
      exact ⟨s', (List.getElem?_set_ne hne).trans hs', (h.handle j s' hs').1⟩

/-- A failed check of `prepare_for_async` does not panic: the handle is dropped while the panic
unwinds, and its drop panics again. -/
theorem prepareForAsync_aborts (hhandle : w.handles[k]? = some (.span s)) {clock : Clock}
    (hnot : ¬ s.isActiveSpan w.context.spanStack = true) :
    w.call overflowChecks ⟨clock, .prepareForAsync k⟩ =
      some (.abort "Finalize span isn't the active span") := by
  have hprep : s.prepareForAsync clock w.context.spanStack w.context.wg =
      .abort "Finalize span isn't the active span" := by
    unfold Span.prepareForAsync
    rw [if_neg hnot, Span.drop_of_not_active hnot]
  simp only [call, prepareForAsync, hhandle, hprep]

/-- In every state that a program can reach, a live `Span` handle belongs to an open span, and a
close of it is all or nothing exactly if it is a drop or the span is innermost. -/
theorem refused_close_iff {serviceName instanceName traceId traceSegmentId : String}
    {tracer : WeakTracer}
    (hrun : Execution.run (World.after overflowChecks)
      (World.new serviceName instanceName traceId traceSegmentId tracer) es = some w)
    (hhandle : w.handles[k]? = some (.span s)) (hclose : e.op.closes? = some k) :
    let history := returned overflowChecks
      (World.new serviceName instanceName traceId traceSegmentId tracer) es
    k ∈ openSpans history ∧ (AllOrNothing overflowChecks history w e k s ↔
      e.op = .dropSpan k ∨ (openSpans history).getLast? = some k) := by
  intro history
  have h : Tracked history w := run_tracked (tracked_new _ _ _ _ _) hrun
  refine ⟨(h.handle k s hhandle).2, ?_⟩
  obtain ⟨clock, op⟩ := e
  rcases Op.closes_eq_some_iff.1 hclose with rfl | rfl
  · exact ⟨fun _ => Or.inl rfl, fun _ => h.drop_allOrNothing hhandle clock⟩
  · constructor
    · intro hsound
      by_contra hcond
      have hnot : (openSpans history).getLast? ≠ some k := fun hin => hcond (Or.inr hin)
      obtain ⟨m, w', hpanic, -⟩ := hsound.refused hnot
      rw [ne_eq, h.innermost_iff hhandle] at hnot
      rw [prepareForAsync_aborts hhandle hnot] at hpanic
      cases hpanic
    · rintro (hdrop | hin)
      · cases hdrop
      · exact ⟨iff_of_true ((h.innermost_iff hhandle).1 hin) hin, fun hnot => absurd hin hnot⟩

/-- An entry span and a local span inside it, both open. -/
def nestedPair : List Event := [atZero (.createEntrySpan "a"), atZero (.createLocalSpan "b")]

/-- Dropping the outer of two open spans is refused, and the inner one can be closed after it. -/
theorem refused_close_outer :
    ∃ w s, Execution.run (World.after true) sampleWorld nestedPair = some w ∧
      w.handles[0]? = some (.span s) ∧
      (openSpans (returned true sampleWorld nestedPair)).getLast? ≠ some 0 ∧
      AllOrNothing true (returned true sampleWorld nestedPair) w (atZero (.dropSpan 0)) 0 s := by
  have hrun : ∃ w, Execution.run (World.after true) sampleWorld nestedPair = some w ∧
      (w.handles[0]?.any Handle.isSpan) = true := (Option.any_eq_true _ _).1 (by decide +kernel)
  obtain ⟨w, hrun, hspan⟩ := hrun
  obtain ⟨x, hx, hkind⟩ := (Option.any_eq_true _ _).1 hspan
  cases x with
  | span s => exact ⟨w, s, hrun, hx, by decide +kernel,
      (refused_close_iff hrun hx (by rfl)).2.2 (Or.inl rfl)⟩
  | asyncSpan a => cases hkind
  | closed => cases hkind

/-- Whether a handle is that of a span which is not innermost. -/
def isOuter (w : World) : Handle → Bool
  | .span s => !s.isActiveSpan w.context.spanStack
  | _ => false

/-- Turning the outer of two open spans asynchronous does not panic but ends the process. -/
theorem outer_prepare_aborts :
    ∃ w s, Execution.run (World.after true) sampleWorld nestedPair = some w ∧
      w.handles[0]? = some (.span s) ∧
      (∃ m, w.call true (atZero (.prepareForAsync 0)) = some (.abort m)) ∧
      ¬AllOrNothing true (returned true sampleWorld nestedPair) w
        (atZero (.prepareForAsync 0)) 0 s := by
  have hrun : ∃ w, Execution.run (World.after true) sampleWorld nestedPair = some w ∧
      (w.handles[0]?.any (isOuter w)) = true := (Option.any_eq_true _ _).1 (by decide +kernel)
  obtain ⟨w, hrun, hspan⟩ := hrun
  obtain ⟨x, hx, hkind⟩ := (Option.any_eq_true _ _).1 hspan
  cases x with
  | span s =>
    have hnot : ¬ s.isActiveSpan w.context.spanStack = true := by simpa [isOuter] using hkind
    have habort : w.call true (atZero (.prepareForAsync 0)) =
        some (.abort "Finalize span isn't the active span") := prepareForAsync_aborts hx hnot
    refine ⟨w, s, hrun, hx, ⟨_, habort⟩, fun hsound => ?_⟩
    obtain ⟨m, w', hpanic, -⟩ := hsound.refused (by decide +kernel)
    rw [habort] at hpanic
    cases hpanic
  | asyncSpan a => cases hkind
  | closed => cases hkind

end World

end SkywalkingAgent.Trace
