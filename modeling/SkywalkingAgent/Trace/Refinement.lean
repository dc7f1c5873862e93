import SkywalkingAgent.Trace.Ledger

/-!
# The program refines the ledger

In a run in which no call panics, the world after every call is the world of the ledger after that
call (`run_refines`). Each operation of the ledger has its equation with `toWorld`
(`toWorld_openSpan`, `toWorld_edit`, `toWorld_close`, `toWorld_complete`, `toWorld_park`); the
step lemma matches the calls with them.
-/

set_option autoImplicit false

namespace SkywalkingAgent.Trace

open SkywalkingAgent.Lib SkywalkingAgent.Common SkywalkingAgent.Proto
open SkywalkingAgent.Propagation SkywalkingAgent.Reporter

/-! ## Lists indexed by numbers -/

section Range

variable {β : Type}

theorem getElem?_map_range (f : Nat → β) (n h : Nat) (x : β) :
    ((List.range n).map f)[h]? = some x ↔ h < n ∧ f h = x := by
  by_cases hlt : h < n
  · simp [hlt]
  · simp [hlt]

theorem set_map_range {f g : Nat → β} (n h : Nat) (hfg : ∀ k, k ≠ h → g k = f k) :
    ((List.range n).map f).set h (g h) = (List.range n).map g := by
  apply List.ext_getElem?
  intro k
  rw [List.getElem?_set]
  by_cases hk : h = k
  · subst hk
    by_cases hn : h < n
    · simp [hn]
    · simp [hn]
  · rw [if_neg hk, List.getElem?_map, List.getElem?_map]
    by_cases hn : k < n
    · simp [hn, hfg k (Ne.symm hk)]
    · simp [hn]

theorem map_range_succ_of_eq {f g : Nat → β} (n : Nat) (hfg : ∀ k, k < n → g k = f k) :
    (List.range (n + 1)).map g = (List.range n).map f ++ [g n] := by
  rw [List.range_succ, List.map_append, List.map_singleton]
  congr 1
  exact List.map_congr_left fun k hk => hfg k (List.mem_range.1 hk)

/-- Turning the predicate off at one element of a list without repetitions lowers the count by
one. -/
theorem countP_eq_succ {l : List Nat} {p q : Nat → Bool} {h : Nat} (hnd : l.Nodup) (hh : h ∈ l)
    (hp : p h = true) (hq : q h = false) (hpq : ∀ k, k ≠ h → q k = p k) :
    l.countP p = l.countP q + 1 := by
  induction l with
  | nil => simp at hh
  | cons a l ih =>
    rw [List.nodup_cons] at hnd
    by_cases ha : a = h
    · subst ha
      have hrest : l.countP p = l.countP q :=
        List.countP_congr fun k hk => by
          have hka : k ≠ a := fun h => hnd.1 (h ▸ hk)
          rw [hpq k hka]
      simp [hp, hq, hrest]
    · have hmem : h ∈ l := by
        rcases List.mem_cons.1 hh with h' | h'
        · exact absurd h'.symm ha
        · exact h'
      rw [List.countP_cons, List.countP_cons, ih hnd.2 hmem, hpq a ha]
      omega

end Range

namespace Ledger

variable {L : Ledger} {base : TracingContext}

/-! ## Validity -/

namespace Valid

theorem mem_iff (hL : L.Valid) {k : Nat} : k ∈ L.stack ∨ k ∈ L.order ↔ k < L.count := by
  rw [← List.mem_append, hL.perm.mem_iff, List.mem_range]

theorem nodup (hL : L.Valid) : (L.stack ++ L.order).Nodup :=
  hL.perm.nodup_iff.2 List.nodup_range

theorem nodup_order (hL : L.Valid) : L.order.Nodup :=
  (List.nodup_append'.1 hL.nodup).2.1

theorem mem_order_iff (hL : L.Valid) {k : Nat} (hk : k < L.count) :
    k ∈ L.order ↔ (L.record k).phase ≠ .opened := by
  constructor
  · exact hL.closed k
  · intro hph
    rcases hL.mem_iff.2 hk with h | h
    · exact absurd (hL.opened k h) hph
    · exact h

theorem count_notMem_stack (hL : L.Valid) : L.count ∉ L.stack :=
  fun h => absurd (hL.mem_iff.1 (Or.inl h)) (Nat.lt_irrefl _)

theorem count_notMem_order (hL : L.Valid) : L.count ∉ L.order :=
  fun h => absurd (hL.mem_iff.1 (Or.inr h)) (Nat.lt_irrefl _)

/-- The stack splits at its innermost span, which is closed nowhere. -/
theorem split_innermost (hL : L.Valid) {h : Nat} (hh : L.innermost = some h) :
    L.stack = L.stack.dropLast ++ [h] ∧ h < L.count ∧ h ∉ L.stack.dropLast ∧ h ∉ L.order := by
  have hsplit : L.stack = L.stack.dropLast ++ [h] :=
    (List.dropLast_append_getLast? h hh).symm
  have hmem : h ∈ L.stack := hsplit ▸ List.mem_concat_self
  have hnd := hL.nodup
  rw [hsplit, List.nodup_append'] at hnd
  obtain ⟨hst, -, hdisj⟩ := hnd
  refine ⟨hsplit, hL.mem_iff.1 (Or.inl hmem), ?_, fun ho => hdisj List.mem_concat_self ho⟩
  rw [List.nodup_append'] at hst
  exact fun hd => hst.2.2 hd (List.mem_singleton_self h)

end Valid

theorem valid_new (traceId : String) (tracer : WeakTracer) : (new traceId tracer).Valid where
  perm := List.Perm.refl _
  opened := by simp [new]
  closed := by simp [new]

@[simp] theorem record_setRecord_self (h : Nat) (r : SpanRecord) :
    (L.setRecord h r).record h = r := by
  simp [setRecord]

theorem record_setRecord_of_ne {h k : Nat} (r : SpanRecord) (hk : k ≠ h) :
    (L.setRecord h r).record k = L.record k := by
  simp [setRecord, hk]

@[simp] theorem setRecord_count (h : Nat) (r : SpanRecord) :
    (L.setRecord h r).count = L.count := rfl

@[simp] theorem setRecord_stack (h : Nat) (r : SpanRecord) :
    (L.setRecord h r).stack = L.stack := rfl

@[simp] theorem setRecord_order (h : Nat) (r : SpanRecord) :
    (L.setRecord h r).order = L.order := rfl

@[simp] theorem setRecord_traceId (h : Nat) (r : SpanRecord) :
    (L.setRecord h r).traceId = L.traceId := rfl

@[simp] theorem setRecord_endpoint (h : Nat) (r : SpanRecord) :
    (L.setRecord h r).endpoint = L.endpoint := rfl

@[simp] theorem setRecord_tracer (h : Nat) (r : SpanRecord) :
    (L.setRecord h r).tracer = L.tracer := rfl

theorem valid_openSpan (hL : L.Valid) (clock : Clock) (operationName remotePeer : String)
    (spanType : SpanType) (spanLayer : SpanLayer) (refs : List SegmentReference) :
    (L.openSpan clock operationName remotePeer spanType spanLayer refs).Valid where
  perm := by
    show (L.stack ++ [L.count] ++ L.order).Perm (List.range (L.count + 1))
    rw [List.range_succ, List.append_assoc, List.singleton_append]
    calc (L.stack ++ L.count :: L.order).Perm (L.count :: (L.stack ++ L.order)) :=
          List.perm_middle
      _ |>.Perm (L.count :: List.range L.count) := hL.perm.cons _
      _ |>.Perm (List.range L.count ++ [L.count]) := (List.perm_append_singleton _ _).symm
  opened := by
    intro k hk
    simp only [openSpan, List.mem_append, List.mem_singleton] at hk ⊢
    rcases hk with hk | rfl
    · have hne : k ≠ L.count := fun h => hL.count_notMem_stack (h ▸ hk)
      rw [Function.update_of_ne hne]
      exact hL.opened k hk
    · simp
  closed := by
    intro k hk
    have hne : k ≠ L.count := fun h => hL.count_notMem_order (h ▸ hk)
    simp only [openSpan, Function.update_of_ne hne]
    exact hL.closed k hk

/-- A change of a record that keeps open spans open and the others closed. -/
theorem valid_setRecord (hL : L.Valid) {h : Nat} {r : SpanRecord}
    (hr : r.phase = .opened ↔ (L.record h).phase = .opened) : (L.setRecord h r).Valid where
  perm := hL.perm
  opened := by
    intro k hk
    by_cases hkh : k = h
    · subst hkh
      rw [record_setRecord_self]
      exact hr.2 (hL.opened k hk)
    · rw [record_setRecord_of_ne r hkh]
      exact hL.opened k hk
  closed := by
    intro k hk
    by_cases hkh : k = h
    · subst hkh
      rw [record_setRecord_self]
      exact fun hopen => hL.closed k hk (hr.1 hopen)
    · rw [record_setRecord_of_ne r hkh]
      exact hL.closed k hk

theorem valid_close (hL : L.Valid) {h : Nat} {r : SpanRecord} {L' : Ledger}
    (hr : r.phase ≠ .opened) (hclose : L.close h r = some L') : L'.Valid := by
  unfold close at hclose
  split at hclose
  · next hin =>
    obtain ⟨hsplit, -, hns, hno⟩ := hL.split_innermost hin
    obtain rfl := (Option.some.inj hclose).symm
    -- the stack, its last entry and the order are the same spans as before
    refine ⟨?_, ?_, ?_⟩
    · show (L.stack.dropLast ++ (L.order ++ [h])).Perm (List.range L.count)
      refine List.Perm.trans ?_ hL.perm
      conv_rhs => rw [hsplit]
      rw [List.append_assoc]
      exact (List.perm_append_comm).append_left _
    · intro k hk
      have hkh : k ≠ h := fun e => hns (e ▸ hk)
      show ((L.setRecord h r).record k).phase = .opened
      rw [record_setRecord_of_ne r hkh]
      exact hL.opened k ((List.dropLast_sublist _).subset hk)
    · intro k hk
      show ((L.setRecord h r).record k).phase ≠ .opened
      rcases List.mem_append.1 hk with hk | hk
      · have hkh : k ≠ h := fun e => hno (e ▸ hk)
        rw [record_setRecord_of_ne r hkh]
        exact hL.closed k hk
      · rw [List.mem_singleton.1 hk, record_setRecord_self]
        exact hr
  · simp at hclose

theorem valid_park (hL : L.Valid) (ref : SegmentReference) : (L.park ref).Valid := by
  unfold park
  split
  · exact valid_setRecord hL Iff.rfl
  · exact hL

/-! ## The world of a changed ledger -/

theorem active_congr {L' : Ledger} {k : Nat} (h : (L'.record k).parked = (L.record k).parked) :
    L'.active k = L.active k := by
  simp [active, h]

theorem finalized_congr {L' : Ledger} {k : Nat} (h : L'.record k = L.record k) :
    L'.finalized k = L.finalized k := by
  simp [finalized, h]

theorem handle_congr {L' : Ledger} {k : Nat} (h : L'.record k = L.record k) :
    L'.handle k = L.handle k := by
  simp [handle, h]

theorem handle_eq_span_iff {k : Nat} {s : Span} :
    L.handle k = .span s ↔ (L.record k).phase = .opened ∧ s = ⟨k, some (L.record k).obj⟩ := by
  unfold handle
  cases (L.record k).phase with
  | opened => simp [eq_comm]
  | detached => simp
  | ended => simp

theorem handle_eq_asyncSpan_iff {k : Nat} {a : AsyncSpan} :
    L.handle k = .asyncSpan a ↔
      (L.record k).phase = .detached ∧ a = ⟨k, some (L.record k).obj⟩ := by
  unfold handle
  cases (L.record k).phase with
  | opened => simp
  | detached => simp [eq_comm]
  | ended => simp

theorem toWorld_handles {h : Nat} {x : Handle} :
    (L.toWorld base).handles[h]? = some x ↔ h < L.count ∧ L.handle h = x :=
  getElem?_map_range L.handle L.count h x

/-- The active stack of the world of a ledger ends in the innermost open span. -/
theorem toWorld_active_concat {s : List ActiveSpan} {a : ActiveSpan}
    (h : (L.toWorld base).context.spanStack.active = s ++ [a]) :
    L.innermost = some a.uid ∧ s = L.stack.dropLast.map L.active ∧ a = L.active a.uid := by
  change L.stack.map L.active = s ++ [a] at h
  rcases List.eq_nil_or_concat' L.stack with hnil | ⟨t, k, ht⟩
  · simp [hnil] at h
  · rw [ht, List.map_append, List.map_singleton, List.append_singleton_inj] at h
    obtain ⟨rfl, rfl⟩ := h
    simp [innermost, ht, active]

/-- Where the constants of the context stay, a change of the ledger shows in the handles, the two
lists and the count of detached spans. -/
theorem toWorld_of_parts (L L' : Ledger) (base : TracingContext) (hcount : L'.count = L.count)
    (htrace : L'.traceId = L.traceId) (hend : L'.endpoint = L.endpoint)
    (htracer : L'.tracer = L.tracer) :
    L'.toWorld base =
      { L.toWorld base with handles := (List.range L.count).map L'.handle }.setShared
        (⟨L'.order.map L'.finalized, L'.stack.map L'.active⟩, ⟨L'.pending⟩) := by
  simp only [toWorld, World.setShared, hcount, htrace, hend, htracer]

theorem toWorld_openSpan (hL : L.Valid) (clock : Clock) (operationName remotePeer : String)
    (spanType : SpanType) (spanLayer : SpanLayer) (refs : List SegmentReference) :
    (L.openSpan clock operationName remotePeer spanType spanLayer refs).toWorld base =
      { L.toWorld base with
        context := { (L.toWorld base).context with
          nextSpanId := wrapI32 ((L.count + 1 : Nat) : Int)
          spanUidGenerator := L.count + 1
          primaryEndpointName := operationName
          spanStack := ⟨L.order.map L.finalized,
            L.stack.map L.active ++ [⟨L.count, wrapI32 (L.count : Nat), none⟩]⟩ }
        handles := (L.toWorld base).handles ++ [.span ⟨L.count, some
          (L.nextObject clock operationName remotePeer spanType spanLayer refs)⟩] } := by
  generalize hL' : L.openSpan clock operationName remotePeer spanType spanLayer refs = L'
  have hrec : ∀ k, k ≠ L.count → L'.record k = L.record k := by
    intro k hk
    rw [← hL']
    exact Function.update_of_ne hk _ _
  have hself : L'.record L.count = ⟨L.innermost,
      L.nextObject clock operationName remotePeer spanType spanLayer refs, none, .opened⟩ := by
    rw [← hL']
    exact Function.update_self _ _ _
  -- the new record is of none of the spans that the two lists name
  have horder : ∀ k ∈ L.order, L'.record k = L.record k :=
    fun k hk => hrec k fun h => hL.count_notMem_order (h ▸ hk)
  have hstack : L.stack.map L'.active = L.stack.map L.active :=
    List.map_congr_left fun k hk => active_congr (by
      rw [hrec k fun h => hL.count_notMem_stack (h ▸ hk)])
  have hfin : L.order.map L'.finalized = L.order.map L.finalized :=
    List.map_congr_left fun k hk => finalized_congr (horder k hk)
  have hpend : L'.pending = L.pending := by
    have hord : L'.order = L.order := by rw [← hL']; rfl
    unfold pending
    rw [hord]
    exact List.countP_congr fun k hk => by rw [horder k hk]
  have hhandles : (List.range (L.count + 1)).map L'.handle =
      (List.range L.count).map L.handle ++ [L'.handle L.count] :=
    map_range_succ_of_eq L.count fun k hk => handle_congr (hrec k (Nat.ne_of_lt hk))
  have hhandle : L'.handle L.count = .span ⟨L.count, some
      (L.nextObject clock operationName remotePeer spanType spanLayer refs)⟩ :=
    handle_eq_span_iff.2 (by simp [hself])
  have hactive : L'.active L.count = ⟨L.count, wrapI32 (L.count : Nat), none⟩ := by
    simp [active, hself]
  have hcount : L'.count = L.count + 1 := by rw [← hL']; rfl
  have hstack' : L'.stack = L.stack ++ [L.count] := by rw [← hL']; rfl
  have horder' : L'.order = L.order := by rw [← hL']; rfl
  have htrace : L'.traceId = L.traceId := by rw [← hL']; rfl
  have hend : L'.endpoint = operationName := by rw [← hL']; rfl
  have htracer : L'.tracer = L.tracer := by rw [← hL']; rfl
  simp only [toWorld, hcount, hstack', horder', htrace, hend, htracer, hpend, hhandles, hhandle,
    List.map_append, List.map_singleton, hstack, hactive, hfin]

/-- A change of the object of a span that has not ended shows in its handle only. -/
theorem toWorld_setRecord {h : Nat} {r : SpanRecord} (hphase : r.phase = (L.record h).phase)
    (hparked : r.parked = (L.record h).parked) (hended : r.phase ≠ .ended) :
    (L.setRecord h r).toWorld base =
      (L.toWorld base).setHandle h ((L.setRecord h r).handle h) := by
  have hstack : L.stack.map (L.setRecord h r).active = L.stack.map L.active :=
    List.map_congr_left fun k _ => active_congr (by
      by_cases hk : k = h
      · rw [hk, record_setRecord_self, hparked]
      · rw [record_setRecord_of_ne r hk])
  have hfin : L.order.map (L.setRecord h r).finalized = L.order.map L.finalized :=
    List.map_congr_left fun k _ => by
      by_cases hk : k = h
      -- before its end a span shows its phase and its parked reference only
      · subst hk
        have hended' : (L.record k).phase ≠ .ended := hphase ▸ hended
        simp [finalized, hended, hended', hparked]
      · exact finalized_congr (record_setRecord_of_ne r hk)
  have hpend : (L.setRecord h r).pending = L.pending :=
    List.countP_congr fun k _ => by
      by_cases hk : k = h
      · rw [hk, record_setRecord_self, hphase]
      · rw [record_setRecord_of_ne r hk]
  have hhandles : (List.range L.count).map (L.setRecord h r).handle =
      ((List.range L.count).map L.handle).set h ((L.setRecord h r).handle h) :=
    (set_map_range L.count h fun k hk => handle_congr (record_setRecord_of_ne r hk)).symm
  rw [L.toWorld_of_parts (L.setRecord h r) base rfl rfl rfl rfl, hhandles, hpend, setRecord_stack,
    setRecord_order, hstack, hfin]
  rfl

/-- Closing the innermost span: its entry moves from the active stack to the finalized list. -/
theorem toWorld_close (hL : L.Valid) {h : Nat} {r : SpanRecord} (hin : L.innermost = some h)
    {L' : Ledger} (hclose : L.close h r = some L') :
    L'.toWorld base = ((L.toWorld base).setHandle h (L'.handle h)).setShared
      (⟨L.order.map L.finalized ++ [L'.finalized h], L.stack.dropLast.map L.active⟩,
        ⟨L.pending + if r.phase = .detached then 1 else 0⟩) := by
  obtain ⟨-, -, hns, hno⟩ := hL.split_innermost hin
  unfold close at hclose
  rw [if_pos hin, Option.some.injEq] at hclose
  have hrec : ∀ k, k ≠ h → L'.record k = L.record k := by
    intro k hk
    rw [← hclose]
    exact record_setRecord_of_ne r hk
  have hself : L'.record h = r := by
    rw [← hclose]
    exact record_setRecord_self h r
  have horder : ∀ k ∈ L.order, L'.record k = L.record k :=
    fun k hk => hrec k fun e => hno (e ▸ hk)
  have hstack : L.stack.dropLast.map L'.active = L.stack.dropLast.map L.active :=
    List.map_congr_left fun k hk => active_congr (by rw [hrec k fun e => hns (e ▸ hk)])
  have hfin : L.order.map L'.finalized = L.order.map L.finalized :=
    List.map_congr_left fun k hk => finalized_congr (horder k hk)
  -- a span that goes on detached is one more to wait for
  have hpend : L'.pending = L.pending + if r.phase = .detached then 1 else 0 := by
    have hord : L'.order = L.order ++ [h] := by rw [← hclose]
    unfold pending
    rw [hord, List.countP_append, List.countP_singleton, hself]
    congr 1
    · exact List.countP_congr fun k hk => by rw [horder k hk]
    · simp
  have hhandles : (List.range L.count).map L'.handle =
      ((List.range L.count).map L.handle).set h (L'.handle h) :=
    (set_map_range L.count h fun k hk => handle_congr (hrec k hk)).symm
  have hstack' : L'.stack = L.stack.dropLast := by rw [← hclose]
  have horder' : L'.order = L.order ++ [h] := by rw [← hclose]
  rw [L.toWorld_of_parts L' base (by rw [← hclose]; rfl) (by rw [← hclose]; rfl)
    (by rw [← hclose]; rfl) (by rw [← hclose]; rfl), hhandles, hpend, hstack', horder',
    List.map_append, List.map_singleton, hstack, hfin]
  rfl

/-- The end of a detached span: its placeholder is filled and its handle is gone. -/
theorem toWorld_complete (hL : L.Valid) (base : TracingContext) (clock : Clock) {h : Nat}
    (hlt : h < L.count) (hph : (L.record h).phase = .detached) :
    ∃ fs n, SpanStack.fill clock h (L.record h).obj (L.order.map L.finalized) = some fs ∧
      L.pending = n + 1 ∧
      (L.setRecord h (ending clock (L.record h))).toWorld base =
        ((L.toWorld base).setHandle h .closed).setShared (⟨fs, L.stack.map L.active⟩, ⟨n⟩) := by
  generalize hL' : L.setRecord h (ending clock (L.record h)) = L'
  have hrec : ∀ k, k ≠ h → L'.record k = L.record k := by
    intro k hk
    rw [← hL']
    exact record_setRecord_of_ne _ hk
  have hself : L'.record h = ending clock (L.record h) := by
    rw [← hL']
    exact record_setRecord_self h _
  have hmem : h ∈ L.order := (hL.mem_order_iff hlt).2 (by simp [hph])
  have hfinh : L.finalized h = ⟨h, none, (L.record h).parked⟩ := by simp [finalized, hph]
  have huid : ∀ k, (L.finalized k).uid = k := by
    intro k
    unfold finalized
    split <;> rfl
  obtain ⟨entry', hkey, hother, hfill⟩ := SpanStack.fill_map clock (L.record h).obj L.finalized h
    L.order (fun k _ => by rw [huid, huid]) hmem hL.nodup_order
  rw [huid] at hfill
  -- the search finds the placeholder of `h`, and fills it as its end does
  have hentry : L.order.map entry' = L.order.map L'.finalized :=
    List.map_congr_left fun k _ => by
      by_cases hk : k = h
      · subst hk
        rw [hkey, hfinh]
        simp [finalized, hself, ending]
      · rw [hother k hk, finalized_congr (hrec k hk)]
  -- the span was counted once, as the order names it once
  have hpend : L.pending = L'.pending + 1 := by
    have hord : L'.order = L.order := by rw [← hL']; rfl
    unfold pending
    rw [hord]
    refine countP_eq_succ hL.nodup_order hmem (by simp [hph]) (by simp [hself, ending]) ?_
    intro k hk
    rw [hrec k hk]
  have hstack : L.stack.map L'.active = L.stack.map L.active :=
    List.map_congr_left fun k _ => active_congr (by
      by_cases hk : k = h
      · rw [hk, hself]
        rfl
      · rw [hrec k hk])
  have hclosed : L'.handle h = .closed := by simp [handle, hself, ending]
  have hhandles : (List.range L.count).map L'.handle =
      ((List.range L.count).map L.handle).set h .closed := by
    rw [← hclosed]
    exact (set_map_range L.count h fun k hk => handle_congr (hrec k hk)).symm
  refine ⟨L.order.map L'.finalized, L'.pending, by rw [hfill, hentry], hpend, ?_⟩
  have hstack' : L'.stack = L.stack := by rw [← hL']; rfl
  have horder' : L'.order = L.order := by rw [← hL']; rfl
  rw [L.toWorld_of_parts L' base (by rw [← hL']; rfl) (by rw [← hL']; rfl)
    (by rw [← hL']; rfl) (by rw [← hL']; rfl), hhandles, hstack', horder', hstack]
  rfl

/-- A parked reference waits on the top of the active stack. -/
theorem toWorld_park (hL : L.Valid) (base : TracingContext) (ref : SegmentReference) :
    (L.park ref).toWorld base =
      { L.toWorld base with
        context := { (L.toWorld base).context with
          spanStack := TracingContext.parkRef (L.toWorld base).context.spanStack ref } } := by
  cases hin : L.innermost with
  | none =>
    -- without an active span the reference goes nowhere
    have hnil : L.stack = [] := List.getLast?_eq_none_iff.1 hin
    simp [park, hin, toWorld, TracingContext.parkRef, hnil]
  | some h =>
    obtain ⟨hsplit, -, hns, hno⟩ := hL.split_innermost hin
    have hopen : (L.record h).phase = .opened := hL.opened h (hsplit ▸ List.mem_concat_self)
    generalize hr : ({ L.record h with parked := some ref } : SpanRecord) = r
    have hphase : r.phase = (L.record h).phase := by rw [← hr]
    have hrec : ∀ k, k ≠ h → (L.setRecord h r).record k = L.record k :=
      fun k hk => record_setRecord_of_ne r hk
    have hinit : L.stack.dropLast.map (L.setRecord h r).active = L.stack.dropLast.map L.active :=
      List.map_congr_left fun k hk => active_congr (by rw [hrec k fun e => hns (e ▸ hk)])
    -- the parked reference shows on the top of the stack and nowhere else
    have htop : (L.setRecord h r).active h = { L.active h with ref := some ref } := by
      simp [active, ← hr]
    have hstack : L.stack.map (L.setRecord h r).active =
        L.stack.dropLast.map L.active ++ [{ L.active h with ref := some ref }] := by
      conv_lhs => rw [hsplit]
      rw [List.map_append, List.map_singleton, hinit, htop]
    have hactive : L.stack.map L.active = L.stack.dropLast.map L.active ++ [L.active h] := by
      conv_lhs => rw [hsplit]
      rw [List.map_append, List.map_singleton]
    have hfin : L.order.map (L.setRecord h r).finalized = L.order.map L.finalized :=
      List.map_congr_left fun k hk => finalized_congr (hrec k fun e => hno (e ▸ hk))
    have hpend : (L.setRecord h r).pending = L.pending :=
      List.countP_congr fun k hk => by rw [hrec k fun e => hno (e ▸ hk)]
    have hhandles : (List.range L.count).map (L.setRecord h r).handle =
        (List.range L.count).map L.handle :=
      List.map_congr_left fun k _ => by
        by_cases hk : k = h
        · rw [hk]
          simp [handle, ← hr]
        · exact handle_congr (hrec k hk)
    have hpark : L.park ref = L.setRecord h r := by simp [park, hin, hr]
    rw [hpark]
    rw [L.toWorld_of_parts (L.setRecord h r) base rfl rfl rfl rfl, hhandles, hpend, setRecord_stack,
      setRecord_order, hstack, hfin]
    simp only [toWorld, World.setShared, TracingContext.parkRef]
    rw [hactive, List.getLast?_concat, List.dropLast_concat]

/-! ## The calls, one by one -/

theorem peekActiveSpanId_toWorld :
    (L.toWorld base).context.peekActiveSpanId.getD (-1) = parentId L.innermost := by
  show ((L.stack.map L.active).getLast?.map fun span => span.spanId).getD (-1) = _
  rw [List.getLast?_map, Option.map_map]
  rfl

/-- The creation of a span, for the context and for the ledger. -/
theorem openSpan_refines (hL : L.Valid) {overflowChecks : Bool} {clock : Clock}
    {operationName remotePeer : String} {spanType : SpanType} {spanLayer : SpanLayer} {span : Span}
    {context : TracingContext}
    (hopen : (L.toWorld base).context.openSpan overflowChecks clock
      ((L.toWorld base).context.peekActiveSpanId.getD (-1)) operationName remotePeer spanType
      spanLayer = .ok span context) :
    span = ⟨L.count, some (L.nextObject clock operationName remotePeer spanType spanLayer [])⟩ ∧
      ∀ refs, { L.toWorld base with
        context := context
        handles := (L.toWorld base).handles ++ [.span ⟨L.count, some
          (L.nextObject clock operationName remotePeer spanType spanLayer refs)⟩] } =
      (L.openSpan clock operationName remotePeer spanType spanLayer refs).toWorld base := by
  rw [peekActiveSpanId_toWorld] at hopen
  obtain ⟨next, hnext, rfl, rfl⟩ := TracingContext.openSpan_eq_ok_iff.1 hopen
  obtain rfl := succI32_wrapI32 hnext
  refine ⟨rfl, fun refs => ?_⟩
  rw [toWorld_openSpan hL]
  rfl

theorem create_refines (hL : L.Valid) {overflowChecks : Bool} {clock : Clock}
    {operationName remotePeer : String} {spanType : SpanType} {spanLayer : SpanLayer} {w' : World}
    (hcall : (L.toWorld base).create ((L.toWorld base).context.openSpan overflowChecks clock
      ((L.toWorld base).context.peekActiveSpanId.getD (-1)) operationName remotePeer spanType
      spanLayer) = .ok () w') :
    w' = (L.openSpan clock operationName remotePeer spanType spanLayer []).toWorld base := by
  obtain ⟨span, context, hopen, rfl⟩ := World.create_eq_ok_iff.1 hcall
  obtain ⟨rfl, hworld⟩ := openSpan_refines hL hopen
  exact hworld []

theorem createCommonSpan_refines (hL : L.Valid) {overflowChecks : Bool} {clock : Clock}
    {operationName remotePeer : String} {spanType : SpanType} {w' : World}
    (hcall : (L.toWorld base).create ((L.toWorld base).context.createCommonSpan overflowChecks
      clock operationName remotePeer spanType
      ((L.toWorld base).context.peekActiveSpanId.getD (-1))) = .ok () w') :
    w' = (L.openSpan clock operationName remotePeer spanType .unknown []).toWorld base := by
  unfold TracingContext.createCommonSpan at hcall
  split at hcall
  · simp [World.create] at hcall
  · exact create_refines hL hcall

theorem createWithPropagation_refines (hL : L.Valid) {overflowChecks : Bool} {clock : Clock}
    {operationName : String} {propagation : PropagationContext} {w' : World}
    (hcall : (L.toWorld base).create ((L.toWorld base).context.createEntrySpanWithPropagation
      overflowChecks clock operationName propagation) = .ok () w') :
    w' = { L.openSpan clock operationName "" .entry .http
      [TracingContext.propagationRef propagation] with
        traceId := propagation.parentTraceId }.toWorld base := by
  obtain ⟨span, context, hopen, rfl⟩ := World.create_eq_ok_iff.1 hcall
  obtain ⟨span', context', obj, hentry, hobj, rfl, rfl⟩ :=
    TracingContext.createEntrySpanWithPropagation_eq_ok_iff.1 hopen
  obtain ⟨rfl, hworld⟩ := openSpan_refines hL hentry
  obtain rfl := (Option.some.inj hobj).symm
  -- the reference is put on the object after it was built; the ledger opens with it
  have hw := hworld [TracingContext.propagationRef propagation]
  have hcontext := congrArg World.context hw
  have hhandles := congrArg World.handles hw
  show World.mk _ _ _ _ = World.mk _ _ _ _
  congr 1
  · exact congrArg (fun c : TracingContext =>
      { c with traceId := propagation.parentTraceId }) hcontext

theorem modifyObject_refines {h : Nat} {f : SpanObject → SpanObject} {w' : World}
    (hcall : (L.toWorld base).modifyObject h f = some (.ok () w')) :
    ∃ L', L.edit h f = some L' ∧ w' = L'.toWorld base := by
  unfold World.modifyObject at hcall
  -- the ledger does not care which kind of handle reaches the object
  have hedit : ∀ x, h < L.count → (L.record h).phase ≠ .ended →
      (L.setRecord h { L.record h with obj := f (L.record h).obj }).handle h = x →
      w' = (L.toWorld base).setHandle h x → ∃ L', L.edit h f = some L' ∧ w' = L'.toWorld base := by
    intro x hlt hended hx hw
    refine ⟨_, if_pos ⟨hlt, hended⟩, ?_⟩
    rw [hw, ← hx]
    exact (toWorld_setRecord (h := h) (r := { L.record h with obj := f (L.record h).obj })
      rfl rfl hended).symm
  split at hcall
  · next s hs =>
    obtain ⟨hlt, hhandle⟩ := toWorld_handles.1 hs
    obtain ⟨hph, rfl⟩ := handle_eq_span_iff.1 hhandle
    simp only [Span.modifyObject, Outcome.mapState, Option.some.injEq, Outcome.ok.injEq,
      true_and] at hcall
    exact hedit _ hlt (by simp [hph]) (handle_eq_span_iff.2 (by simp [hph])) hcall.symm
  · next a ha =>
    obtain ⟨hlt, hhandle⟩ := toWorld_handles.1 ha
    obtain ⟨hph, rfl⟩ := handle_eq_asyncSpan_iff.1 hhandle
    simp only [AsyncSpan.modifyObject, Outcome.mapState, Option.some.injEq, Outcome.ok.injEq,
      true_and] at hcall
    exact hedit _ hlt (by simp [hph]) (handle_eq_asyncSpan_iff.2 (by simp [hph])) hcall.symm
  · simp at hcall

theorem dropSpan_refines (hL : L.Valid) {clock : Clock} {h : Nat} {w' : World}
    (hcall : (L.toWorld base).dropSpan clock h = some (.ok () w')) :
    ∃ L', L.close h (ending clock (L.record h)) = some L' ∧ w' = L'.toWorld base := by
  unfold World.dropSpan at hcall
  split at hcall
  · next s hs =>
    obtain ⟨hlt, hhandle⟩ := toWorld_handles.1 hs
    obtain ⟨hph, rfl⟩ := handle_eq_span_iff.1 hhandle
    rw [Option.some.injEq, Outcome.mapState_eq_ok_iff] at hcall
    obtain ⟨stack, hdrop, rfl⟩ := hcall
    obtain ⟨t, a, hactive, ha, rfl⟩ := SpanStack.finalizeSpan_eq_ok_iff.1 hdrop
    -- the call returned, so the handle is that of the innermost span
    obtain ⟨hin, rfl, htop⟩ := toWorld_active_concat hactive
    change a.uid = h at ha
    rw [ha] at hin htop
    refine ⟨_, if_pos hin, ?_⟩
    rw [toWorld_close hL hin (if_pos hin)]
    simp only [handle, finalized, setRecord, ending, Function.update_self, reduceCtorEq, if_false,
      if_true, Nat.add_zero, htop, active, SpanStack.closedEntry]
    rfl
  · simp at hcall

theorem prepareForAsync_refines (hL : L.Valid) {clock : Clock} {h : Nat} {w' : World}
    (hcall : (L.toWorld base).prepareForAsync clock h = some (.ok () w')) :
    ∃ L', L.close h { L.record h with phase := .detached } = some L' ∧ w' = L'.toWorld base := by
  unfold World.prepareForAsync at hcall
  split at hcall
  · next s hs =>
    obtain ⟨hlt, hhandle⟩ := toWorld_handles.1 hs
    obtain ⟨hph, rfl⟩ := handle_eq_span_iff.1 hhandle
    split at hcall
    · next a shared hprep =>
      simp only [Option.some.injEq, Outcome.ok.injEq, true_and] at hcall
      obtain ⟨rfl, t, top, hactive, ha, rfl⟩ := Span.prepareForAsync_eq_ok_iff.1 hprep
      obtain ⟨hin, rfl, htop⟩ := toWorld_active_concat hactive
      change top.uid = h at ha
      rw [ha] at hin htop
      refine ⟨_, if_pos hin, ?_⟩
      rw [← hcall, toWorld_close hL hin (if_pos hin)]
      simp only [handle, finalized, setRecord, Function.update_self, reduceCtorEq, if_false,
        if_true, htop, active]
      rfl
    · simp at hcall
    · simp at hcall
  · simp at hcall

theorem dropAsyncSpan_refines (hL : L.Valid) {overflowChecks : Bool} {clock : Clock} {h : Nat}
    {w' : World}
    (hcall : (L.toWorld base).dropAsyncSpan overflowChecks clock h = some (.ok () w')) :
    ∃ L', L.complete clock h = some L' ∧ w' = L'.toWorld base := by
  unfold World.dropAsyncSpan at hcall
  split at hcall
  · next a ha =>
    obtain ⟨hlt, hhandle⟩ := toWorld_handles.1 ha
    obtain ⟨hph, rfl⟩ := handle_eq_asyncSpan_iff.1 hhandle
    rw [Option.some.injEq, Outcome.mapState_eq_ok_iff] at hcall
    obtain ⟨⟨stack, wg⟩, hdrop, rfl⟩ := hcall
    obtain ⟨hfill, hdone⟩ := AsyncSpan.drop_eq_ok_iff.1 hdrop
    obtain ⟨-, obj, fs, hobj, hfs, hstack⟩ := AsyncSpan.fill_eq_ok_iff.1 hfill
    obtain ⟨fs', n, hfs', hn, hworld⟩ := toWorld_complete hL base clock hlt hph
    obtain rfl := Option.some.inj hobj
    obtain rfl : fs' = fs := Option.some.inj (hfs'.symm.trans hfs)
    refine ⟨_, if_pos ⟨hlt, hph⟩, ?_⟩
    rw [hworld]
    -- the span itself is counted, so `done` does not underflow
    have hwg : (L.toWorld base).context.wg = ⟨n + 1⟩ := congrArg WaitGroup.mk hn
    rw [hwg, WaitGroup.done_succ] at hdone
    obtain rfl := (Outcome.ok.inj hdone).2
    change stack = _ at hstack
    rw [hstack]
    rfl
  · simp at hcall

theorem continued_refines (hL : L.Valid) {snapshot : ContextSnapshot} {context : TracingContext}
    (hcall : (L.toWorld base).context.continued snapshot = .ok () context) {e : Event}
    (he : e.op = .continued snapshot) :
    ∃ L', L.step e = some L' ∧ { L.toWorld base with context := context } = L'.toWorld base := by
  have htracer : (L.toWorld base).context.tracer = L.tracer := rfl
  simp only [step, he]
  unfold TracingContext.continued at hcall
  by_cases hvalid : snapshot.isValid = true
  · simp only [hvalid, if_true, htracer] at hcall ⊢
    rcases Option.eq_none_or_eq_some L.tracer with htr | ⟨tracer, htr⟩
    -- without its tracer the call panics
    · rw [htr] at hcall
      cases hcall
    · rw [htr] at hcall
      obtain rfl := (Outcome.ok.inj hcall).2
      have hL' : ({ L with traceId := snapshot.traceId } : Ledger).Valid :=
        ⟨hL.perm, hL.opened, hL.closed⟩
      refine ⟨{ L with traceId := snapshot.traceId }.park
        (TracingContext.snapshotRef tracer snapshot), ?_, ?_⟩
      · rw [htr]
        rfl
      · rw [← htr]
        exact (toWorld_park hL' base (TracingContext.snapshotRef tracer snapshot)).symm
  · simp only [hvalid, if_false, Outcome.ok.injEq, true_and, Bool.false_eq_true] at hcall ⊢
    exact ⟨L, rfl, by rw [← hcall]⟩

/-- From the world of a valid ledger, a call that returns leads to the world of the ledger after the
call. -/
theorem step_refines (hL : L.Valid) {overflowChecks : Bool} {e : Event} {w' : World}
    (hop : e.op ≠ .dropContext) (hstep : (L.toWorld base).step overflowChecks e = some w') :
    ∃ L', L.step e = some L' ∧ w' = L'.toWorld base := by
  rw [World.step_eq_some_iff] at hstep
  have halive : (L.toWorld base).contextAlive = true := rfl
  obtain ⟨clock, op⟩ := e
  cases op with
  | createEntrySpan operationName =>
    simp only [World.call, halive, if_true, World.callContext, Option.some.injEq] at hstep
    exact ⟨_, rfl, create_refines hL hstep⟩
  | createEntrySpanWithPropagation operationName propagation =>
    simp only [World.call, halive, if_true, World.callContext, Option.some.injEq] at hstep
    exact ⟨_, rfl, createWithPropagation_refines hL hstep⟩
  | createExitSpan operationName remotePeer =>
    simp only [World.call, halive, if_true, World.callContext, Option.some.injEq] at hstep
    exact ⟨_, rfl, createCommonSpan_refines hL hstep⟩
  | createLocalSpan operationName =>
    simp only [World.call, halive, if_true, World.callContext, Option.some.injEq] at hstep
    exact ⟨_, rfl, createCommonSpan_refines hL hstep⟩
  | addTag h key value => exact modifyObject_refines hstep
  | addLog h message => exact modifyObject_refines hstep
  | dropSpan h => exact dropSpan_refines hL hstep
  | prepareForAsync h => exact prepareForAsync_refines hL hstep
  | dropAsyncSpan h => exact dropAsyncSpan_refines hL hstep
  | capture =>
    simp only [World.call, halive, if_true, World.callContext, Option.some.injEq,
      Outcome.ok.injEq, true_and] at hstep
    exact ⟨L, rfl, hstep.symm⟩
  | continued snapshot =>
    simp only [World.call, halive, if_true, World.callContext, Option.some.injEq,
      Outcome.mapState_eq_ok_iff] at hstep
    obtain ⟨context, hcall, rfl⟩ := hstep
    exact continued_refines hL hcall rfl
  | dropContext => exact absurd rfl hop
  | dropTracer =>
    simp only [World.call, Option.some.injEq, Outcome.ok.injEq, true_and] at hstep
    exact ⟨_, rfl, by rw [← hstep]; rfl⟩

theorem step_valid (hL : L.Valid) {e : Event} {L' : Ledger} (hstep : L.step e = some L') :
    L'.Valid := by
  obtain ⟨clock, op⟩ := e
  -- an edit keeps the phase
  have hedit : ∀ h f, L.edit h f = some L' → L'.Valid := by
    intro h f hedit
    unfold edit at hedit
    split at hedit
    · obtain rfl := (Option.some.inj hedit).symm
      exact valid_setRecord hL Iff.rfl
    · simp at hedit
  cases op with
  | createEntrySpan operationName =>
    obtain rfl := (Option.some.inj hstep).symm
    exact valid_openSpan hL ..
  | createEntrySpanWithPropagation operationName propagation =>
    obtain rfl := (Option.some.inj hstep).symm
    have h := valid_openSpan hL clock operationName "" .entry .http
      [TracingContext.propagationRef propagation]
    exact ⟨h.perm, h.opened, h.closed⟩
  | createExitSpan operationName remotePeer =>
    obtain rfl := (Option.some.inj hstep).symm
    exact valid_openSpan hL ..
  | createLocalSpan operationName =>
    obtain rfl := (Option.some.inj hstep).symm
    exact valid_openSpan hL ..
  | addTag h key value => exact hedit h (fun obj => obj.addTag key value) hstep
  | addLog h message => exact hedit h (fun obj => obj.addLog (clock .log) message) hstep
  | dropSpan h => exact valid_close hL (by simp [ending]) hstep
  | prepareForAsync h => exact valid_close hL (by simp) hstep
  | dropAsyncSpan h =>
    simp only [step, complete] at hstep
    split at hstep
    · next hph =>
      obtain rfl := (Option.some.inj hstep).symm
      exact valid_setRecord hL (by simp [ending, hph.2])
    · simp at hstep
  | capture =>
    obtain rfl := (Option.some.inj hstep).symm
    exact hL
  | continued snapshot =>
    simp only [step] at hstep
    split at hstep
    · obtain ⟨tracer, -, rfl⟩ := Option.map_eq_some_iff.1 hstep
      exact valid_park (L := { L with traceId := snapshot.traceId })
        ⟨hL.perm, hL.opened, hL.closed⟩ _
    · obtain rfl := (Option.some.inj hstep).symm
      exact hL
  | dropContext => simp [step] at hstep
  | dropTracer =>
    obtain rfl := (Option.some.inj hstep).symm
    exact ⟨hL.perm, hL.opened, hL.closed⟩

/-- The run of the ledger. -/
abbrev run : Ledger → List Event → Option Ledger := Execution.run step

/-- Along a run in which no call panics and the context is not dropped, the world is the world of
the ledger. -/
theorem run_refines (hL : L.Valid) {overflowChecks : Bool} {es : List Event} {w' : World}
    (hops : ∀ e ∈ es, e.op ≠ .dropContext)
    (hrun : World.run overflowChecks (L.toWorld base) es = some w') :
    ∃ L', run L es = some L' ∧ w' = L'.toWorld base ∧ L'.Valid := by
  have hsim : ∃ L', run L (es.filterMap some) = some L' ∧ w' = L'.toWorld base ∧ L'.Valid := by
    refine Execution.run_simulation
      (R := fun w (L : Ledger) => w = L.toWorld base ∧ L.Valid) some ?_ ⟨rfl, hL⟩ hrun
    rintro e he w w' L ⟨rfl, hL⟩ hstep
    obtain ⟨L', hL', hw'⟩ := step_refines hL (hops e he) hstep
    exact ⟨L', Execution.run_cons_iff.2 ⟨L', hL', rfl⟩, hw', step_valid hL hL'⟩
  rwa [List.filterMap_some] at hsim

/-- A fresh world is the world of the fresh ledger. -/
theorem new_toWorld (serviceName instanceName traceId traceSegmentId : String)
    (tracer : WeakTracer) :
    World.new serviceName instanceName traceId traceSegmentId tracer =
      (new traceId tracer).toWorld
        (.new serviceName instanceName traceId traceSegmentId tracer) := by
  have h0 : wrapI32 ((0 : Nat) : Int) = 0 := wrapI32_of_lt (by decide) (by decide)
  simp only [toWorld, new, h0]
  rfl

end Ledger

end SkywalkingAgent.Trace
