import SkywalkingAgent.Lib.Forest
import SkywalkingAgent.Trace.Effect
import SkywalkingAgent.Trace.Reporting

/-!
# The shape of a reported segment

The calls of a run open and close spans in a nested way, so the ledger is at every moment the
zipper of one forest: its numbers are the pre-order, its closing order the post-order, its stack the
open nodes and its parents the edges (`Ledger.Shaped`). At the end the forest is complete, and the
fields of the reported objects tell it (`World.segment_shape`).
-/

set_option autoImplicit false

namespace SkywalkingAgent.Trace

open SkywalkingAgent.Lib SkywalkingAgent.Common SkywalkingAgent.Proto
open SkywalkingAgent.Propagation SkywalkingAgent.Reporter

namespace Ledger

variable {L L' : Ledger} {e : Event} {es : List Event}

/-! ## The zipper of a ledger -/

/-- The spans of a ledger with their parents, in the order of creation. -/
def parentEdges (L : Ledger) : List (Nat × Option Nat) :=
  (List.range L.count).map fun k => (k, (L.record k).parent)

/-- The ledger is the zipper of one forest. -/
def Shaped (L : Ledger) : Prop :=
  ∃ z : Zipper Nat, z.openLabels = L.stack ∧ z.postorder = L.order ∧
    z.preorder = List.range L.count ∧ z.edges = L.parentEdges

theorem shaped_new (traceId : String) (tracer : WeakTracer) : (new traceId tracer).Shaped :=
  ⟨.root .nil, rfl, rfl, rfl, rfl⟩

theorem parentEdges_congr (hcount : L'.count = L.count)
    (hparents : ∀ k, k < L.count → (L'.record k).parent = (L.record k).parent) :
    L'.parentEdges = L.parentEdges := by
  unfold parentEdges
  rw [hcount]
  exact List.map_congr_left fun k hk => by rw [hparents k (List.mem_range.1 hk)]

/-- Opening pushes a node, closing pops one, and no other call touches the forest. -/
theorem step_shaped (hL : L.Shaped) (hstep : L.step e = some L') : L'.Shaped := by
  obtain ⟨z, hopen, hpost, hpre, hedges⟩ := hL
  have hinner : z.innermost = L.innermost := by
    rw [Zipper.innermost_eq_getLast?, hopen, innermost]
  have hparents := (step_effect hstep).frame.parents
  cases step_effect hstep with
  | opened _ hcount hstack horder hparent _ _ =>
    refine ⟨z.push L.count, ?_, ?_, ?_, ?_⟩
    · rw [Zipper.openLabels_push, hopen, hstack]
    · rw [Zipper.postorder_push, hpost, horder]
    · rw [Zipper.preorder_push, hpre, hcount, List.range_succ]
    · have hsplit : L'.parentEdges = L.parentEdges ++ [(L.count, (L'.record L.count).parent)] := by
        unfold parentEdges
        rw [hcount]
        exact map_range_succ_of_eq L.count fun k hk => by rw [hparents k hk]
      rw [Zipper.edges_push, hedges, hinner, hsplit, hparent]
  | closed h hin _ hcount hstack horder _ =>
    have hlast : z.openLabels = L.stack.dropLast ++ [h] := by
      rw [hopen]
      exact (List.dropLast_append_getLast? h hin).symm
    obtain ⟨hpopen, hppre, hppost, hpedges⟩ := Zipper.pop_of_openLabels hlast
    refine ⟨z.pop, ?_, ?_, ?_, ?_⟩
    · rw [hpopen, hstack]
    · rw [hppost, hpost, horder]
    · rw [hppre, hpre, hcount]
    · rw [hpedges, hedges, parentEdges_congr hcount hparents]
  | kept _ hcount hstack horder _ =>
    exact ⟨z, hopen.trans hstack.symm, hpost.trans horder.symm, by rw [hpre, hcount],
      by rw [hedges, parentEdges_congr hcount hparents]⟩

theorem run_shaped {traceId : String} {tracer : WeakTracer}
    (hrun : run (new traceId tracer) es = some L) : L.Shaped :=
  Execution.run_invariant (shaped_new traceId tracer) (fun _ _ _ => step_shaped) hrun

/-- When all spans are closed, the ledger is a forest. -/
theorem exists_forest (hL : L.Shaped) (hstack : L.stack = []) :
    ∃ f : Forest Nat, f.preorder = List.range L.count ∧ f.postorder = L.order ∧
      f.edges none = L.parentEdges := by
  obtain ⟨z, hopen, hpost, hpre, hedges⟩ := hL
  obtain ⟨f, rfl⟩ := Zipper.eq_root_of_openLabels (hopen.trans hstack)
  exact ⟨f, hpre, hpost, hedges⟩

end Ledger

/-! ## The forest of a segment -/

section Segment

variable (seg : SegmentObject)

/-- A reported span with id `u` names `v` as its parent. -/
def ParentLink (u v : Int) : Prop := ∃ s ∈ seg.spans, s.spanId = u ∧ s.parentSpanId = v

/-- The reported span `s` is a descendant of `t`. -/
def Descends (s t : SpanObject) : Prop := Relation.TransGen (ParentLink seg) s.spanId t.spanId

/-- The `n` spans of the segment form the forest `f`: the span ids number it in pre-order, the list
is its post-order and the parent fields are its edges. -/
structure ForestOf (n : Nat) (f : Forest Nat) : Prop where
  preorder : f.preorder = List.range n
  postorder : seg.spans.map (fun s => s.spanId) = f.postorder.map fun k : Nat => (k : Int)
  links : ∀ u v : Nat, (u, some v) ∈ f.edges none ↔ ParentLink seg u v
  roots : ∀ u : Nat, (u, none) ∈ f.edges none ↔ ParentLink seg u (-1)

end Segment

namespace ForestOf

variable {seg : SegmentObject} {n : Nat} {f : Forest Nat}

theorem pairwise_preorder (hf : ForestOf seg n f) : f.preorder.Pairwise (· < ·) := by
  rw [hf.preorder]
  exact List.pairwise_lt_range

theorem exists_nat (hf : ForestOf seg n f) {s : SpanObject} (hs : s ∈ seg.spans) :
    ∃ k : Nat, k ∈ f.preorder ∧ s.spanId = k := by
  have hmem : s.spanId ∈ f.postorder.map fun k : Nat => (k : Int) := by
    rw [← hf.postorder]
    exact List.mem_map_of_mem hs
  obtain ⟨k, hk, hks⟩ := List.mem_map.1 hmem
  exact ⟨k, Forest.mem_postorder.1 hk, hks.symm⟩

/-- The span ids are `0, .., n - 1`. -/
theorem ids_perm (hf : ForestOf seg n f) :
    (seg.spans.map fun s => s.spanId).Perm ((List.range n).map fun k : Nat => (k : Int)) := by
  rw [hf.postorder, ← hf.preorder]
  exact (Forest.perm_postorder_preorder f).map _

/-- Following the parent fields is going up in the forest. -/
theorem transGen_iff_below (hf : ForestOf seg n f) {x y : Nat} :
    Relation.TransGen (ParentLink seg) (x : Int) (y : Int) ↔ Forest.Below f x y := by
  have hnd : f.preorder.Nodup := hf.pairwise_preorder.imp fun h => Nat.ne_of_lt h
  rw [Forest.below_iff_transGen hnd]
  constructor
  · intro h
    -- every id on the way up but the last is the id of a span, so a number of the forest
    have hup : ∀ v : Int, Relation.TransGen (ParentLink seg) (x : Int) v → ∀ y : Nat, v = y →
        Relation.TransGen (fun u v => (u, some v) ∈ f.edges none) x y := by
      intro v hv
      induction hv with
      | single hlink =>
        rintro y rfl
        exact .single ((hf.links x y).2 hlink)
      | tail _ hlink ih =>
        rintro y rfl
        obtain ⟨s, hs, hid, hpar⟩ := hlink
        obtain ⟨m, -, hm⟩ := hf.exists_nat hs
        obtain rfl := hid.symm.trans hm
        exact (ih m rfl).tail ((hf.links m y).2 ⟨s, hs, hid, hpar⟩)
    exact hup y h y rfl
  · intro h
    exact Relation.TransGen.lift (fun k : Nat => (k : Int)) (fun u v huv => (hf.links u v).1 huv)
      x y h

/-- A parent has the smaller id. -/
theorem parent_lt (hf : ForestOf seg n f) {s : SpanObject} (hs : s ∈ seg.spans)
    {v : Nat} (hv : s.parentSpanId = v) : s.parentSpanId < s.spanId := by
  obtain ⟨k, -, hk⟩ := hf.exists_nat hs
  have hbelow : Forest.Below f k v :=
    hf.transGen_iff_below.1 (.single ⟨s, hs, hk, hv⟩)
  have hlt := hbelow.lt hf.pairwise_preorder
  omega

/-- One span comes before another in the list exactly when it is its descendant, or is older and
not its ancestor. -/
theorem precedes_iff (hf : ForestOf seg n f) {i j : Nat} {s t : SpanObject}
    (hs : seg.spans[i]? = some s) (ht : seg.spans[j]? = some t) (hij : i ≠ j) :
    i < j ↔ Descends seg s t ∨ (s.spanId < t.spanId ∧ ¬ Descends seg t s) := by
  have hid : ∀ {i : Nat} {s : SpanObject}, seg.spans[i]? = some s →
      ∃ k, f.postorder[i]? = some k ∧ s.spanId = (k : Int) := by
    intro i s hs
    have hmap : (seg.spans.map fun s => s.spanId)[i]? = some s.spanId := by simp [hs]
    rw [hf.postorder, List.getElem?_map, Option.map_eq_some_iff] at hmap
    obtain ⟨k, hk, hks⟩ := hmap
    exact ⟨k, hk, hks.symm⟩
  have hpair : ∀ {i j : Nat} {x y : Nat}, f.postorder[i]? = some x → f.postorder[j]? = some y →
      i < j → Forest.Below f x y ∨ (x < y ∧ ¬ Forest.Below f y x) := by
    intro i j x y hx hy hlt
    obtain ⟨hi, rfl⟩ := List.getElem?_eq_some_iff.1 hx
    obtain ⟨hj, rfl⟩ := List.getElem?_eq_some_iff.1 hy
    exact List.pairwise_iff_getElem.1 (Forest.pairwise_postorder hf.pairwise_preorder) i j hi hj hlt
  obtain ⟨x, hx, hsx⟩ := hid hs
  obtain ⟨y, hy, hty⟩ := hid ht
  simp only [Descends, hsx, hty, hf.transGen_iff_below, Int.ofNat_lt]
  constructor
  · exact hpair hx hy
  · intro h
    rcases Nat.lt_or_gt_of_ne hij with hlt | hgt
    · exact hlt
    -- otherwise the same alternative holds with the two exchanged, which excludes this one
    · have hback := hpair hy hx hgt
      have hlt : ∀ {u v}, Forest.Below f u v → v < u := fun hb => hb.lt hf.pairwise_preorder
      rcases h with h | ⟨hxy, h⟩
      · rcases hback with hb | ⟨-, hb⟩
        · exact absurd (hlt h) (Nat.lt_asymm (hlt hb))
        · exact absurd h hb
      · rcases hback with hb | ⟨hyx, -⟩
        · exact absurd hb h
        · exact absurd hxy (Nat.lt_asymm hyx)

end ForestOf

namespace Ledger

variable {L : Ledger} {es : List Event} {base : TracingContext}

theorem parentId_some {v : Nat} (hv : v < 2 ^ 31) : parentId (some v) = v := by
  have hwrap : (some v).map (fun k : Nat => wrapI32 (k : Nat)) = some (v : Int) := by
    rw [Option.map_some, wrapI32_natCast hv]
  rw [parentId, hwrap, Option.getD_some]

theorem parentId_none : parentId none = -1 := rfl

/-- Below `2 ^ 31` the id of a parent says which span it is. -/
theorem parentId_eq_natCast_iff {p : Option Nat} {v : Nat} (hp : ∀ k, p = some k → k < 2 ^ 31) :
    parentId p = (v : Int) ↔ p = some v := by
  cases p with
  | none =>
    rw [parentId_none]
    exact iff_of_false (by omega) (by simp)
  | some k =>
    rw [parentId_some (hp k rfl), Option.some.injEq]
    exact Int.natCast_inj

theorem parentId_eq_neg_one_iff {p : Option Nat} (hp : ∀ k, p = some k → k < 2 ^ 31) :
    parentId p = -1 ↔ p = none := by
  cases p with
  | none => exact iff_of_true parentId_none rfl
  | some k =>
    rw [parentId_some (hp k rfl)]
    exact iff_of_false (by omega) (by simp)

/-- The ids in a record. -/
theorem record_ids (hR : L.Recorded es) (hn : L.count < 2 ^ 31) {k : Nat} (hk : k < L.count) :
    (L.record k).obj.spanId = (k : Nat) ∧
      (L.record k).obj.parentSpanId = parentId (L.record k).parent := by
  have hlt : k < (creations es).length := hR.count ▸ hk
  have h := hR.span k _ (List.getElem?_eq_getElem hlt)
  exact ⟨h.spanId.trans (wrapI32_natCast (Nat.lt_trans hk hn)), h.parentSpanId⟩

/-- A closed span of the segment, read from the ledger. -/
theorem mem_segment_iff (hL : L.Valid) (hR : L.Recorded es) (hn : L.count < 2 ^ 31)
    (hstack : L.stack = []) {s : SpanObject} :
    s ∈ (L.segment base).spans ↔ ∃ k, k < L.count ∧ s = (L.record k).obj ∧ s.spanId = (k : Nat) ∧
      s.parentSpanId = parentId (L.record k).parent := by
  have hmem : ∀ k, k ∈ L.order ↔ k < L.count := by
    intro k
    rw [← hL.mem_iff, hstack]
    simp
  show s ∈ L.order.map (fun k => (L.record k).obj) ↔ _
  rw [List.mem_map]
  constructor
  · rintro ⟨k, hk, rfl⟩
    have hlt := (hmem k).1 hk
    exact ⟨k, hlt, rfl, record_ids hR hn hlt⟩
  · rintro ⟨k, hk, rfl, -, -⟩
    exact ⟨k, (hmem k).2 hk, rfl⟩

/-- A parent is older than its child. -/
theorem parent_lt (hz : L.Shaped) (hstack : L.stack = []) {k v : Nat} (hk : k < L.count)
    (hv : (L.record k).parent = some v) : v < k := by
  obtain ⟨f, hpre, -, hedges⟩ := exists_forest hz hstack
  have hedge : (k, some v) ∈ f.edges none := by
    rw [hedges, parentEdges, List.mem_map]
    exact ⟨k, List.mem_range.2 hk, by rw [hv]⟩
  -- an edge of the forest goes down, and pre-order numbers ancestors first
  rcases Forest.below_of_mem_edges hedge with hb | ⟨h, -⟩
  · exact hb.lt (by rw [hpre]; exact List.pairwise_lt_range)
  · simp at h

/-- The parent field of a reported span is that of its record. -/
theorem parentLink_iff (hL : L.Valid) (hR : L.Recorded es) (hn : L.count < 2 ^ 31)
    (hstack : L.stack = []) {u : Nat} {v : Int} :
    ParentLink (L.segment base) u v ↔ u < L.count ∧ parentId (L.record u).parent = v := by
  constructor
  · rintro ⟨s, hs, hid, hpar⟩
    obtain ⟨k, hk, -, hk', hp⟩ := (mem_segment_iff hL hR hn hstack).1 hs
    obtain rfl : k = u := by omega
    exact ⟨hk, hp.symm.trans hpar⟩
  · rintro ⟨hu, hv⟩
    obtain ⟨hid, hpar⟩ := record_ids hR hn hu
    exact ⟨_, (mem_segment_iff hL hR hn hstack).2 ⟨u, hu, rfl, hid, hpar⟩, hid, hpar.trans hv⟩

/-- The segment of a ledger whose spans are all closed is the ledger's forest. -/
theorem exists_forestOf (hL : L.Valid) (hR : L.Recorded es) (hz : L.Shaped)
    (hn : L.count < 2 ^ 31) (hstack : L.stack = []) :
    ∃ f, ForestOf (L.segment base) L.count f := by
  obtain ⟨f, hpre, hpost, hedges⟩ := exists_forest hz hstack
  have hedge : ∀ u p, (u, p) ∈ f.edges none ↔ u < L.count ∧ (L.record u).parent = p := by
    intro u p
    simp [hedges, parentEdges]
  -- parents are older, so their ids are in range too
  have hparent : ∀ u, u < L.count → ∀ v, (L.record u).parent = some v → v < 2 ^ 31 := by
    intro u hu v hv
    have hlt := parent_lt hz hstack hu hv
    omega
  refine ⟨f, hpre, ?_, ?_, ?_⟩
  · rw [hpost]
    show (L.order.map fun k => (L.record k).obj).map (fun s => s.spanId) = _
    rw [List.map_map]
    refine List.map_congr_left fun k hk => ?_
    have hlt : k < L.count := hL.mem_iff.1 (Or.inr hk)
    exact (record_ids hR hn hlt).1
  · intro u v
    rw [hedge, parentLink_iff hL hR hn hstack]
    exact and_congr_right fun hu => (parentId_eq_natCast_iff (hparent u hu)).symm
  · intro u
    rw [hedge, parentLink_iff hL hR hn hstack]
    exact and_congr_right fun hu => (parentId_eq_neg_one_iff (hparent u hu)).symm

/-- The parent of the span that `e` creates is the innermost span before `e`. -/
theorem parent_at_creation {traceId : String} {tracer : WeakTracer} {pre post : List Event}
    {e : Event} (he : e.op.creation?.isSome)
    (hrun : run (new traceId tracer) (pre ++ e :: post) = some L) :
    ∃ L₁, run (new traceId tracer) pre = some L₁ ∧ L₁.count = (creations pre).length ∧
      (L.record L₁.count).parent = L₁.innermost := by
  obtain ⟨L₁, hpre, hrest⟩ := Execution.run_append_iff.1 hrun
  obtain ⟨L₂, hstep, hpost⟩ := Execution.run_cons_iff.1 hrest
  refine ⟨L₁, hpre, (run_recorded hpre).count, ?_⟩
  cases step_effect hstep with
  | opened _ hcount _ _ hparent _ _ =>
    rw [(run_parent (k := L₁.count) (by omega) hpost).2, hparent]
  | closed _ _ hnone => simp [hnone] at he
  | kept hnone => simp [hnone] at he

end Ledger

/-- The call that created the span `k`. -/
theorem exists_creation {es : List Event} {k : Nat} (hk : k < (creations es).length) :
    ∃ pre e post, es = pre ++ e :: post ∧ e.op.creation?.isSome ∧ (creations pre).length = k := by
  induction es generalizing k with
  | nil => simp [creations] at hk
  | cons e es ih =>
    cases hc : e.op.creation? with
    | none =>
      have hskip : creations (e :: es) = creations es := by simp [creations, hc]
      obtain ⟨pre, e', post, hsplit, he', hlen⟩ := ih (hskip ▸ hk)
      refine ⟨e :: pre, e', post, by rw [hsplit]; rfl, he', ?_⟩
      rw [← hlen]
      simp [creations, hc]
    | some c =>
      have hcons : creations (e :: es) = c :: creations es := by simp [creations, hc]
      rw [hcons] at hk
      -- the first call is the one, or it is one of those behind it
      cases k with
      | zero => exact ⟨[], e, es, rfl, by simp [hc], rfl⟩
      | succ k =>
        obtain ⟨pre, e', post, hsplit, he', hlen⟩ := ih (Nat.lt_of_succ_lt_succ hk)
        refine ⟨e :: pre, e', post, by rw [hsplit]; rfl, he', ?_⟩
        rw [← hlen]
        simp [creations, hc]

namespace World

variable {overflowChecks : Bool} {serviceName instanceName traceId traceSegmentId : String}
  {tracer : WeakTracer} {es : List Event} {w : World}

/-- The ids of the reported spans are `0, .., n - 1`; each parent is `-1` or the span that was
innermost when the child was created, which is older; the spans form a forest that the ids number in
pre-order and the list goes through in post-order. -/
theorem segment_shape (hops : ∀ e ∈ es, e.op ≠ .dropContext)
    (hn : (creations es).length < 2 ^ 31)
    (hrun : World.run overflowChecks
      (World.new serviceName instanceName traceId traceSegmentId tracer) es = some w)
    (hfin : w.Finished) (clock : Clock) :
    ∃ w' seg, w.step overflowChecks ⟨clock, .dropContext⟩ = some w' ∧
      w'.reported = [.trace seg] ∧
      (seg.spans.map fun s => s.spanId).Perm
        ((List.range (creations es).length).map fun k : Nat => (k : Int)) ∧
      (∀ s ∈ seg.spans, ∃ pre e post w₁, es = pre ++ e :: post ∧ e.op.creation?.isSome ∧
        s.spanId = (creations pre).length ∧
        World.run overflowChecks
          (World.new serviceName instanceName traceId traceSegmentId tracer) pre = some w₁ ∧
        s.parentSpanId = w₁.context.peekActiveSpanId.getD (-1)) ∧
      (∀ s ∈ seg.spans, s.parentSpanId = -1 ∨
        (0 ≤ s.parentSpanId ∧ s.parentSpanId < s.spanId)) ∧
      (∃ f, ForestOf seg (creations es).length f) ∧
      ∀ (i j : Nat) (s t : SpanObject), seg.spans[i]? = some s → seg.spans[j]? = some t → i ≠ j →
        (i < j ↔ Descends seg s t ∨ (s.spanId < t.spanId ∧ ¬ Descends seg t s)) := by
  obtain ⟨L, w', hL, hvalid, hR, hended, hstep, -, hrep⟩ := reports_segment hops hrun hfin clock
  generalize hbase : TracingContext.new serviceName instanceName traceId traceSegmentId tracer =
    base at hrep
  have hstack := Ledger.stack_eq_nil hvalid hended
  have hcount : L.count < 2 ^ 31 := by rw [hR.count]; exact hn
  have hmem : ∀ s, s ∈ (L.segment base).spans ↔ _ :=
    fun s => Ledger.mem_segment_iff hvalid hR hcount hstack
  have hz := Ledger.run_shaped hL
  obtain ⟨f, hf⟩ : ∃ f, ForestOf (L.segment base) L.count f :=
    Ledger.exists_forestOf hvalid hR hz hcount hstack
  rw [← hR.count]
  refine ⟨w', L.segment base, hstep, hrep, hf.ids_perm, ?_, ?_, ⟨f, hf⟩,
    fun _ _ _ _ hs ht hij => hf.precedes_iff hs ht hij⟩
  · intro s hs
    obtain ⟨k, hk, -, hid, hpar⟩ := (hmem s).1 hs
    obtain ⟨pre, e, post, hsplit, he, hlen⟩ := exists_creation (hR.count ▸ hk)
    obtain ⟨L₁, hL₁, hcount₁, hparent⟩ := Ledger.parent_at_creation he (hsplit ▸ hL)
    have hops' : ∀ e' ∈ pre ++ e :: post, e'.op ≠ .dropContext := fun e' he' =>
      hops e' (hsplit ▸ he')
    refine ⟨pre, e, post, _, hsplit, he, by rw [hid, hlen],
      run_of_ledger hops' (hsplit ▸ hrun) hL₁, ?_⟩
    -- the run up to the creation has a ledger of its own, whose innermost span is the parent
    rw [Ledger.peekActiveSpanId_toWorld, hpar, ← hparent, hcount₁, hlen]
  · intro s hs
    obtain ⟨k, hk, -, hid, hpar⟩ := (hmem s).1 hs
    cases hrec : (L.record k).parent with
    | none =>
      rw [hrec] at hpar
      exact Or.inl hpar
    | some v =>
      have hlt := Ledger.parent_lt hz hstack hk hrec
      rw [hrec, Ledger.parentId_some (Nat.lt_trans hlt (Nat.lt_trans hk hcount))] at hpar
      exact Or.inr ⟨by omega, by omega⟩

theorem segment_shape_asyncRun :
    ∃ w w' seg, World.run true sampleWorld asyncRun = some w ∧
      w.step true ⟨fun _ => 0, .dropContext⟩ = some w' ∧ w'.reported = [.trace seg] ∧
      (seg.spans.map fun s => s.spanId).Perm [0, 1, 2] ∧ ∃ f, ForestOf seg 3 f := by
  have hrun : ∃ w, World.run true sampleWorld asyncRun = some w ∧ w.Finished :=
    exists_finished (by decide +kernel)
  obtain ⟨w, hrun, hfin⟩ := hrun
  obtain ⟨w', seg, hstep, hrep, hids, -, -, hf, -⟩ :=
    segment_shape (by decide +kernel) (by decide +kernel) hrun hfin fun _ => 0
  exact ⟨w, w', seg, hrun, hstep, hrep, hids, hf⟩

end World

end SkywalkingAgent.Trace
