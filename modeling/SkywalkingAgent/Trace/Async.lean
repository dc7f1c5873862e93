import SkywalkingAgent.Trace.Calls
import Mathlib.Data.List.Nodup

/-!
# Asynchronous completion

The owner thread of a context alone uses the `Span` handles and `wait`; the asynchronous spans end
in any threads. `prepare_for_async` counts the span in the wait group before it pushes the
placeholder, and the drop of an `AsyncSpan` fills the placeholder before it counts the span out;
`AsyncSystem.step` interleaves these halves with everything else. The calls of the owner may panic
and be caught. `AsyncSystem.Inv` is what every interleaving keeps, and
`AsyncSystem.completion_protocol` what it gives: a placeholder is always there to be filled, the
count never underflows, and a context that `wait` lets go has no placeholder left.
-/

set_option autoImplicit false

namespace SkywalkingAgent.Trace

open SkywalkingAgent.Lib SkywalkingAgent.Common SkywalkingAgent.Proto
open SkywalkingAgent.Propagation SkywalkingAgent.Reporter

/-- What the owner thread is doing. -/
inductive Owner where
  | idle
  /-- In `prepare_for_async` of span `h`, past the wait group and before the placeholder. -/
  | preparing (h : Nat) (asyncSpan : AsyncSpan)
  | waiting
  /-- `WaitGroup::wait` has returned inside `TracingContext::wait`. -/
  | released
  deriving DecidableEq, Repr

/-- A context with its owner thread and the threads that end its asynchronous spans. -/
structure AsyncSystem where
  world : World
  owner : Owner
  /-- The asynchronous spans that are filled and not yet counted out. -/
  ending : List Nat
  deriving DecidableEq, Repr

/-- The calls that the owner makes in one piece. -/
def Op.isOwnerCall : Op → Bool
  | .prepareForAsync _ => false
  | .dropAsyncSpan _ => false
  | .dropContext => false
  | _ => true

/-- The handle is an `AsyncSpan`. -/
def World.isAsync (w : World) (h : Nat) : Bool :=
  match w.handles[h]? with
  | some (.asyncSpan _) => true
  | _ => false

/-- The calls that another thread makes in one piece: through an asynchronous span, or on the
tracer. -/
def Op.isElsewhere (w : World) : Op → Bool
  | .addTag h _ _ => w.isAsync h
  | .addLog h _ => w.isAsync h
  | .dropTracer => true
  | _ => false

/-- What the threads do: calls of the owner and calls of other threads in one piece, the halves of
`prepare_for_async` and of the drop of an `AsyncSpan`, and the two ends of `wait`. -/
inductive AsyncEvent where
  | call (e : Event)
  | elsewhere (e : Event)
  | prepareAdd (clock : Clock) (h : Nat)
  | preparePush (clock : Clock)
  | fill (clock : Clock) (h : Nat)
  | done (h : Nat)
  | wait
  | pass

namespace AsyncSystem

/-- The first half of `prepare_for_async`: the check, the wait group, the object taken. -/
def prepareAdd (clock : Clock) (s : AsyncSystem) (h : Nat) : Option AsyncSystem :=
  let w := s.world
  match s.owner, w.handles[h]? with
  | .idle, some (.span span) =>
      if span.isActiveSpan w.context.spanStack then
        some { s with
          world := (w.setHandle h (.span { span with obj := none })).setShared
            (w.context.spanStack, w.context.wg.add 1)
          owner := .preparing h ⟨span.uid, span.obj⟩ }
      else
        -- the panic drops the handle
        match span.drop clock w.context.spanStack with
        | .ok () stack => some { s with
            world := (w.setHandle h .closed).setShared (stack, w.context.wg) }
        | .panic _ _ => none
        | .abort _ => none
  | _, _ => none

/-- The second half: the emptied `Span` is dropped, and the caller gets the `AsyncSpan`. -/
def preparePush (clock : Clock) (s : AsyncSystem) : Option AsyncSystem :=
  let w := s.world
  match s.owner with
  | .preparing h asyncSpan =>
      match w.handles[h]? with
      | some (.span span) =>
          match span.drop clock w.context.spanStack with
          | .ok () stack => some { s with
              world := (w.setHandle h (.asyncSpan asyncSpan)).setShared (stack, w.context.wg)
              owner := .idle }
          | .panic _ _ => none
          | .abort _ => none
      | _ => none
  | _ => none

/-- The first half of the drop of an `AsyncSpan`; when it panics the second half is not reached. -/
def fill (clock : Clock) (s : AsyncSystem) (h : Nat) : Option AsyncSystem :=
  let w := s.world
  match w.handles[h]? with
  | some (.asyncSpan asyncSpan) =>
      match asyncSpan.fill clock w.stackAlive w.context.spanStack with
      | .ok () stack => some { s with
          world := (w.setHandle h .closed).setShared (stack, w.context.wg)
          ending := h :: s.ending }
      -- `drop` has unwound past `done`
      | .panic _ stack => some { s with
          world := (w.setHandle h .closed).setShared (stack, w.context.wg) }
      | .abort _ => none
  | _ => none

/-- The second half: the span is counted out. -/
def done (overflowChecks : Bool) (s : AsyncSystem) (h : Nat) : Option AsyncSystem :=
  let w := s.world
  if h ∈ s.ending then
    match w.context.wg.done overflowChecks with
    | .ok () wg => some { s with
        world := w.setShared (w.context.spanStack, wg)
        ending := s.ending.erase h }
    | .panic _ wg => some { s with
        world := w.setShared (w.context.spanStack, wg)
        ending := s.ending.erase h }
    | .abort _ => none
  else none

/-- One step of one thread. -/
def step (overflowChecks : Bool) (s : AsyncSystem) : AsyncEvent → Option AsyncSystem
  | .call e =>
      if s.owner = .idle ∧ e.op.isOwnerCall then
        (s.world.after overflowChecks e).map fun w => { s with world := w }
      else none
  | .elsewhere e =>
      if e.op.isElsewhere s.world then
        (s.world.after overflowChecks e).map fun w => { s with world := w }
      else none
  | .prepareAdd clock h => s.prepareAdd clock h
  | .preparePush clock => s.preparePush clock
  | .fill clock h => s.fill clock h
  | .done h => s.done overflowChecks h
  | .wait => if s.owner = .idle then some { s with owner := .waiting } else none
  | .pass =>
      -- the loop of `WaitGroup::wait` leaves only when it must not wait
      if s.owner = .waiting ∧ s.world.context.wg.mustWait = false then
        some { s with owner := .released }
      else none

/-- A fresh context. -/
def init (serviceName instanceName traceId traceSegmentId : String) (tracer : WeakTracer) :
    AsyncSystem :=
  ⟨.new serviceName instanceName traceId traceSegmentId tracer, .idle, []⟩

end AsyncSystem

/-! ## The invariant of the handles -/

namespace SpanStack

/-- The uids in the two vectors. -/
def uids (stack : SpanStack) : List SpanUid :=
  stack.finalized.map (fun f => f.uid) ++ stack.active.map fun a => a.uid

/-- The number of finalized entries without an object. -/
def unfilled (stack : SpanStack) : Nat := stack.finalized.countP fun f => f.obj.isNone

end SpanStack

/-- What the handle of span `h` can rely on; `busy` is the span inside `prepare_for_async`. -/
def Handle.Sound (finalized : List FinalizeSpan) (busy : Option Nat) (h : Nat) : Handle → Prop
  | .span s => s.uid = h ∧ (busy ≠ some h → s.obj.isSome)
  | .asyncSpan a => a.uid = h ∧ a.obj.isSome ∧ ∃ f ∈ finalized, f.uid = h ∧ f.obj = none
  | .closed => True

namespace World

/-- The handles and the stack of a live context fit together. -/
structure Sound (busy : Option Nat) (w : World) : Prop where
  alive : w.contextAlive = true
  generator : w.context.spanUidGenerator = w.handles.length
  nodup : w.context.spanStack.uids.Nodup
  bound : ∀ u ∈ w.context.spanStack.uids, u < w.handles.length
  handle : ∀ (h : Nat) (x : Handle), w.handles[h]? = some x →
    x.Sound w.context.spanStack.finalized busy h

variable {busy busy' : Option Nat} {w w' : World} {overflowChecks : Bool} {e : Event}

theorem sound_new (serviceName instanceName traceId traceSegmentId : String)
    (tracer : WeakTracer) :
    (World.new serviceName instanceName traceId traceSegmentId tracer).Sound none where
  alive := rfl
  generator := rfl
  nodup := List.nodup_nil
  bound u hu := by cases hu
  handle h x hx := by cases hx

/-- A step that touches one handle and keeps the set of uids: the other handles need their empty
entries, and nothing else. -/
theorem Sound.update (hw : w.Sound busy) (k : Nat) (halive : w'.contextAlive = w.contextAlive)
    (hgen : w'.context.spanUidGenerator = w.context.spanUidGenerator)
    (hlen : w'.handles.length = w.handles.length)
    (huids : w'.context.spanStack.uids.Perm w.context.spanStack.uids)
    (hbusy : ∀ j, j ≠ k → (busy' = some j ↔ busy = some j))
    (hother : ∀ j, j ≠ k → w'.handles[j]? = w.handles[j]?)
    (hempty : ∀ f ∈ w.context.spanStack.finalized, f.obj = none → f.uid ≠ k →
      f ∈ w'.context.spanStack.finalized)
    (hself : ∀ x : Handle, w'.handles[k]? = some x →
      x.Sound w'.context.spanStack.finalized busy' k) :
    w'.Sound busy' where
  alive := halive.trans hw.alive
  generator := by rw [hgen, hlen, hw.generator]
  nodup := huids.nodup_iff.2 hw.nodup
  bound u hu := by
    rw [hlen]
    exact hw.bound u (huids.mem_iff.1 hu)
  handle h x hx := by
    -- the placeholder of another span is still there, empty
    by_cases hh : h = k
    · subst hh
      exact hself x hx
    · rw [hother h hh] at hx
      have hsound := hw.handle h x hx
      cases x with
      | span s => exact ⟨hsound.1, fun hb => hsound.2 fun h' => hb ((hbusy h hh).2 h')⟩
      | asyncSpan a =>
        obtain ⟨hu, hobj, f, hf, hfu, hnone⟩ := hsound
        exact ⟨hu, hobj, f, hempty f hf hnone (by rw [hfu]; exact hh), hfu, hnone⟩
      | closed => trivial

theorem setHandle_other {k : Nat} {x : Handle} (j : Nat) (hj : j ≠ k) :
    (w.setHandle k x).handles[j]? = w.handles[j]? := by
  simp [setHandle, Ne.symm hj]

theorem setHandle_self {k : Nat} {x y : Handle} (h : (w.setHandle k x).handles[k]? = some y) :
    y = x := by
  rw [setHandle, List.getElem?_set] at h
  simp only [if_true] at h
  split at h
  · exact (Option.some.inj h).symm
  · cases h

/-- The creation of a span. -/
theorem Sound.create (hw : w.Sound none) {obj : SpanObject} {spanId : Int}
    (halive : w'.contextAlive = w.contextAlive)
    (hhandles : w'.handles = w.handles ++ [.span ⟨w.context.spanUidGenerator, some obj⟩])
    (hgen : w'.context.spanUidGenerator = w.context.spanUidGenerator + 1)
    (hstack : w'.context.spanStack = ⟨w.context.spanStack.finalized,
      w.context.spanStack.active ++ [⟨w.context.spanUidGenerator, spanId, none⟩]⟩) :
    w'.Sound none := by
  have huids : w'.context.spanStack.uids = w.context.spanStack.uids ++ [w.handles.length] := by
    simp [hstack, SpanStack.uids, hw.generator]
  refine ⟨halive.trans hw.alive, by simp [hgen, hhandles, hw.generator], ?_, ?_, ?_⟩
  · rw [huids]
    -- the new uid is the number of handles, which is above all uids in use
    refine List.nodup_append'.2 ⟨hw.nodup, List.nodup_singleton _, ?_⟩
    intro u hu hu'
    have hlt := hw.bound u hu
    rw [List.mem_singleton.1 hu'] at hlt
    exact Nat.lt_irrefl _ hlt
  · intro u hu
    rw [huids, List.mem_append, List.mem_singleton] at hu
    rw [hhandles, List.length_append, List.length_singleton]
    rcases hu with hu | rfl
    · exact Nat.lt_succ_of_lt (hw.bound u hu)
    · exact Nat.lt_succ_self _
  · intro h x hx
    rw [hhandles] at hx
    rw [hstack]
    by_cases hlt : h < w.handles.length
    · rw [List.getElem?_append_left hlt] at hx
      exact hw.handle h x hx
    · rw [List.getElem?_append_right (Nat.le_of_not_lt hlt), List.getElem?_singleton] at hx
      by_cases h0 : h - w.handles.length = 0
      · rw [if_pos h0, Option.some.injEq] at hx
        subst hx
        have hh : w.handles.length = h := by omega
        exact ⟨hw.generator.trans hh, fun _ => rfl⟩
      · rw [if_neg h0] at hx
        cases hx

/-- Closing the top of the stack moves its uid to the finalized entries. -/
theorem uids_close {clock : Clock} {stack : SpanStack} {uid : SpanUid} {obj : Option SpanObject}
    {t : SpanStack} (hclose : stack.finalizeSpan clock uid obj = .ok () t) :
    t.uids.Perm stack.uids ∧ t.unfilled = stack.unfilled + (if obj.isNone then 1 else 0) ∧
      (∀ f ∈ stack.finalized, f ∈ t.finalized) ∧
      (obj = none → ∃ f ∈ t.finalized, f.uid = uid ∧ f.obj = none) := by
  obtain ⟨s, a, hactive, rfl, rfl⟩ := SpanStack.finalizeSpan_eq_ok_iff.1 hclose
  have huid : (SpanStack.closedEntry clock a obj).uid = a.uid := by
    cases obj <;> rfl
  refine ⟨?_, ?_, fun f hf => List.mem_append_left _ hf, ?_⟩
  · simp only [SpanStack.uids, hactive, List.map_append, List.map_singleton, huid,
      List.append_assoc]
    exact (List.perm_append_comm).append_left _
  · cases obj with
    | none => simp [SpanStack.unfilled, SpanStack.closedEntry]
    | some obj => simp [SpanStack.unfilled, SpanStack.closedEntry]
  · rintro rfl
    exact ⟨_, List.mem_append_right _ (List.mem_singleton_self _), rfl, rfl⟩

/-- A call of the owner keeps the handles sound and the wait group in step with the placeholders. -/
theorem sound_call (hw : w.Sound none) (hop : e.op.isOwnerCall)
    (h : w.after overflowChecks e = some w') :
    w'.Sound none ∧ w'.context.spanStack.unfilled = w.context.spanStack.unfilled ∧
      w'.context.wg = w.context.wg := by
  have hnot : e.op ≠ .dropContext := by
    intro hdrop
    rw [hdrop] at hop
    cases hop
  cases after_effect hnot h with
  | created obj _ halive hhandles hgen hstack hwg =>
    exact ⟨hw.create halive hhandles hgen hstack, by rw [hstack]; rfl, hwg⟩
  | edited k x x' hx hedit heq =>
    subst heq
    refine ⟨hw.update k rfl rfl (by simp [setHandle]) (.refl _) (fun _ _ => Iff.rfl)
      setHandle_other (fun f hf _ _ => hf) ?_, rfl, rfl⟩
    intro y hy
    obtain rfl := setHandle_self hy
    have hsound := hw.handle k x hx
    cases hedit with
    | span uid obj obj' => exact ⟨hsound.1, fun _ => rfl⟩
    | asyncSpan uid obj obj' => exact ⟨hsound.1, rfl, hsound.2.2⟩
  | dropped k s stack hs hdrop heq =>
    subst heq
    obtain ⟨hperm, hcount, hkeep, -⟩ := uids_close hdrop
    -- outside `prepare_for_async` a `Span` has its object, so no placeholder comes from its drop
    have hobj : s.obj.isNone = false := by
      have hsome := (hw.handle k _ hs).2 (by simp)
      simpa using hsome
    refine ⟨hw.update k rfl rfl (by simp [setHandle, setShared]) hperm (fun _ _ => Iff.rfl)
      (fun j hj => setHandle_other j hj) (fun f hf _ _ => hkeep f hf) ?_, ?_, rfl⟩
    · intro y hy
      obtain rfl := setHandle_self (w := w) hy
      trivial
    · rw [hobj] at hcount
      exact hcount
  | prepared k _ _ _ hprep =>
    rw [hprep] at hop
    cases hop
  | asyncDropped k _ hdrop =>
    rw [hdrop] at hop
    cases hop
  -- a lost handle takes its object with it; its entry stays on the active stack
  | lost k s hs heq =>
    subst heq
    refine ⟨hw.update k rfl rfl (by simp [setHandle, setShared]) (.refl _) (fun _ _ => Iff.rfl)
      (fun j hj => setHandle_other j hj) (fun f hf _ _ => hf) ?_, rfl, rfl⟩
    intro y hy
    obtain rfl := setHandle_self (w := w) hy
    trivial
  | kept hhandles halive _ hgen hstack hwg =>
    have huids : w'.context.spanStack.uids = w.context.spanStack.uids := by
      simp [SpanStack.uids, hstack.finalized, hstack.uids]
    refine ⟨⟨halive.trans hw.alive, by rw [hgen, hhandles, hw.generator], huids ▸ hw.nodup, ?_, ?_⟩,
      by simp [SpanStack.unfilled, hstack.finalized], hwg⟩
    · rw [huids, hhandles]
      exact hw.bound
    · rw [hhandles, hstack.finalized]
      exact hw.handle

theorem isAsync_iff {k : Nat} : w.isAsync k = true ↔ ∃ a, w.handles[k]? = some (.asyncSpan a) := by
  unfold isAsync
  cases w.handles[k]? with
  | none => simp
  | some x => cases x <;> simp

/-- An edit of an asynchronous span. -/
theorem modifyObject_async {k : Nat} {f : SpanObject → SpanObject} {o : Outcome World Unit}
    (hk : w.isAsync k) (hcall : w.modifyObject k f = some o)
    (ho : o = .ok () w' ∨ ∃ m, o = .panic m w') :
    (∃ uid obj obj', w.handles[k]? = some (.asyncSpan ⟨uid, some obj⟩) ∧
      w' = w.setHandle k (.asyncSpan ⟨uid, some obj'⟩)) ∨ w' = w := by
  obtain ⟨a, ha⟩ := isAsync_iff.1 hk
  refine (modifyObject_cases hcall ho).imp_left ?_
  rintro ⟨x, x', hx, hedit, heq⟩
  obtain rfl := Option.some.inj (ha.symm.trans hx)
  cases hedit with
  | asyncSpan uid obj obj' => exact ⟨uid, obj, obj', hx, heq⟩

/-- What a call in another thread does: it edits an asynchronous span, or touches the tracer. -/
inductive ElsewhereEffect (w w' : World) : Prop where
  | edited (k : Nat) (uid : SpanUid) (obj obj' : SpanObject)
      (handle : w.handles[k]? = some (.asyncSpan ⟨uid, some obj⟩))
      (eq : w' = w.setHandle k (.asyncSpan ⟨uid, some obj'⟩))
  | tracer (tracer : WeakTracer)
      (eq : w' = { w with context := { w.context with tracer := tracer } })

theorem elsewhere_effect (hop : e.op.isElsewhere w) (h : w.after overflowChecks e = some w') :
    ElsewhereEffect w w' := by
  obtain ⟨o, hcall, ho⟩ := after_eq_some_iff.1 h
  have hedit : ∀ k f, w.isAsync k → w.modifyObject k f = some o → ElsewhereEffect w w' := by
    intro k f hk hcall
    rcases modifyObject_async hk hcall ho with ⟨uid, obj, obj', hx, heq⟩ | heq
    · exact .edited k uid obj obj' hx heq
    · exact .tracer w.context.tracer heq
  unfold call at hcall
  cases hopeq : e.op with
  | addTag k key value =>
    simp only [hopeq, Op.isElsewhere] at hop hcall
    exact hedit k _ hop hcall
  | addLog k message =>
    simp only [hopeq, Op.isElsewhere] at hop hcall
    exact hedit k _ hop hcall
  | dropTracer =>
    simp only [hopeq] at hcall
    obtain rfl := (Option.some.inj hcall).symm
    rcases ho with ho | ⟨m, ho⟩
    · exact .tracer none (Outcome.ok.inj ho).2.symm
    · cases ho
  -- the other calls need a `Span` or the context
  | _ => simp [hopeq, Op.isElsewhere] at hop

theorem sound_elsewhere (hw : w.Sound busy) (hop : e.op.isElsewhere w)
    (h : w.after overflowChecks e = some w') :
    w'.Sound busy ∧ w'.context.spanStack = w.context.spanStack ∧
      w'.context.wg = w.context.wg ∧
      ∀ (j : Nat) (s : Span), w.handles[j]? = some (.span s) →
        w'.handles[j]? = some (.span s) := by
  cases elsewhere_effect hop h with
  | edited k uid obj obj' hk heq =>
    subst heq
    refine ⟨hw.update k rfl rfl (by simp [setHandle]) (.refl _) (fun _ _ => Iff.rfl)
      setHandle_other (fun f hf _ _ => hf) ?_, rfl, rfl, ?_⟩
    · intro y hy
      obtain rfl := setHandle_self hy
      have hsound := hw.handle k _ hk
      exact ⟨hsound.1, rfl, hsound.2.2⟩
    · intro j s hj
      have hjk : j ≠ k := by
        rintro rfl
        rw [hk] at hj
        cases hj
      rw [setHandle_other j hjk, hj]
  | tracer tracer heq =>
    subst heq
    exact ⟨⟨hw.alive, hw.generator, hw.nodup, hw.bound, hw.handle⟩, rfl, rfl, fun _ _ hj => hj⟩

end World

/-! ## The invariant of the system -/

namespace AsyncSystem

/-- The span inside `prepare_for_async`. -/
def busy (s : AsyncSystem) : Option Nat :=
  match s.owner with
  | .preparing h _ => some h
  | _ => none

/-- What every interleaving keeps: the wait group counts the placeholders, the spans that are filled
and not yet counted out, and the one that is counted in and has no placeholder yet. -/
structure Inv (s : AsyncSystem) : Prop where
  sound : s.world.Sound s.busy
  preparing : ∀ (h : Nat) (a : AsyncSpan), s.owner = .preparing h a → a.uid = h ∧ a.obj.isSome ∧
    s.world.handles[h]? = some (.span ⟨h, none⟩) ∧
    ∃ t top, s.world.context.spanStack.active = t ++ [top] ∧ top.uid = h
  count : s.world.context.wg.count = s.world.context.spanStack.unfilled + s.ending.length +
    if s.busy.isSome then 1 else 0
  released : s.owner = .released → s.world.context.wg.count = 0

variable {s t : AsyncSystem} {overflowChecks : Bool}

theorem inv_init (serviceName instanceName traceId traceSegmentId : String) (tracer : WeakTracer) :
    (init serviceName instanceName traceId traceSegmentId tracer).Inv where
  sound := World.sound_new serviceName instanceName traceId traceSegmentId tracer
  preparing h a hown := by cases hown
  count := rfl
  released hown := by cases hown

theorem inv_prepareAdd (hs : s.Inv) {clock : Clock} {h : Nat}
    (hstep : s.prepareAdd clock h = some t) : t.Inv := by
  simp only [prepareAdd] at hstep
  split at hstep
  · next span hidle hspan =>
    have hbusy : s.busy = none := by simp [busy, hidle]
    have hsound := hs.sound.handle h _ hspan
    obtain ⟨uid, obj⟩ := span
    obtain rfl : uid = h := hsound.1
    have hobj : obj.isSome := hsound.2 (by simp [hbusy])
    split at hstep
    · next hactive =>
      obtain rfl := (Option.some.inj hstep).symm
      obtain ⟨u, top, hu, htop⟩ := Span.isActiveSpan_iff.1 hactive
      refine ⟨?_, ?_, ?_, fun hrel => by cases hrel⟩
      · refine hs.sound.update uid rfl rfl (by simp [World.setHandle, World.setShared]) (.refl _)
          (fun j hj => ?_) (fun j hj => World.setHandle_other j hj) (fun f hf _ _ => hf) ?_
        · rw [hbusy]
          simp [busy, Ne.symm hj]
        · intro y hy
          obtain rfl := World.setHandle_self (w := s.world) hy
          exact ⟨rfl, fun hb => absurd rfl hb⟩
      -- from here to the push the owner alone can touch the active stack
      · intro h' a hown
        obtain ⟨rfl, rfl⟩ := Owner.preparing.inj hown
        have hlt := (List.getElem?_eq_some_iff.1 hspan).1
        refine ⟨rfl, hobj, ?_, u, top, hu, htop⟩
        show (s.world.handles.set uid _)[uid]? = _
        rw [List.getElem?_set_self hlt]
      · have hcount := hs.count
        rw [hbusy] at hcount
        simp only [Option.isSome_none, Bool.false_eq_true, if_false, Nat.add_zero] at hcount
        show s.world.context.wg.count + 1 = s.world.context.spanStack.unfilled + _ + 1
        rw [hcount]
    -- the panic drops the handle with its object, and this drop panics too
    · next hactive =>
      split at hstep
      · next hdrop =>
        obtain ⟨u, top, hu, htop, -⟩ := SpanStack.finalizeSpan_eq_ok_iff.1 hdrop
        exact absurd (Span.isActiveSpan_iff.2 ⟨u, top, hu, htop⟩) hactive
      · cases hstep
      · cases hstep
  · cases hstep

theorem inv_preparePush (hs : s.Inv) {clock : Clock} (hstep : s.preparePush clock = some t) :
    t.Inv := by
  simp only [preparePush] at hstep
  split at hstep
  · next h a hown =>
    obtain ⟨hau, haobj, hhandle, u, top, hu, htop⟩ := hs.preparing h a hown
    have hbusy : s.busy = some h := by simp [busy, hown]
    rw [hhandle] at hstep
    simp only at hstep
    split at hstep
    · next stack hdrop =>
      obtain rfl := (Option.some.inj hstep).symm
      obtain ⟨hperm, hcount, hkeep, hempty⟩ := World.uids_close hdrop
      refine ⟨?_, fun h' a' hown' => by (cases hown'), ?_, fun hrel => by cases hrel⟩
      · refine hs.sound.update h rfl rfl (by simp [World.setHandle, World.setShared]) hperm
          (fun j hj => ?_) (fun j hj => World.setHandle_other j hj) (fun f hf _ _ => hkeep f hf) ?_
        · rw [hbusy]
          simp [busy, Ne.symm hj]
        · intro y hy
          obtain rfl := World.setHandle_self (w := s.world) hy
          exact ⟨hau, haobj, hempty rfl⟩
      -- the span counted in ahead has its placeholder now
      · have hwg := hs.count
        rw [hbusy] at hwg
        show s.world.context.wg.count = stack.unfilled + s.ending.length + 0
        rw [hcount, hwg]
        simp only [Option.isSome_some, Option.isNone_none, if_true]
        omega
    · cases hstep
    · cases hstep
  · cases hstep

/-- A live asynchronous span finds its placeholder. -/
theorem Inv.fill_ok (hs : s.Inv) (clock : Clock) {h : Nat} {a : AsyncSpan}
    (ha : s.world.handles[h]? = some (.asyncSpan a)) :
    ∃ fs, a.fill clock s.world.stackAlive s.world.context.spanStack =
        .ok () { s.world.context.spanStack with finalized := fs } ∧
      (fs.map fun g => g.uid) = s.world.context.spanStack.finalized.map (fun g => g.uid) ∧
      s.world.context.spanStack.unfilled = (fs.countP fun g => g.obj.isNone) + 1 ∧
      ∀ g ∈ s.world.context.spanStack.finalized, g.uid ≠ h → g ∈ fs := by
  obtain ⟨hau, hobj, f, hf, hfu, hempty⟩ := hs.sound.handle h _ ha
  obtain ⟨obj, hobj⟩ := Option.isSome_iff_exists.1 hobj
  have hnd : (s.world.context.spanStack.finalized.map fun g => g.uid).Nodup :=
    (List.nodup_append'.1 hs.sound.nodup).1
  obtain ⟨fs, hfill, hmap, hcount, hother⟩ := SpanStack.fill_of_mem clock obj hnd hf hempty
  rw [hfu] at hfill hother
  have halive : s.world.stackAlive = true := by simp [World.stackAlive, hs.sound.alive]
  exact ⟨fs, AsyncSpan.fill_eq_ok_iff.2 ⟨halive, obj, fs, hobj, by rw [hau]; exact hfill, rfl⟩,
    hmap,
    hcount, hother⟩

theorem inv_fill (hs : s.Inv) {clock : Clock} {h : Nat} (hstep : s.fill clock h = some t) :
    t.Inv := by
  simp only [fill] at hstep
  split at hstep
  · next a ha =>
    obtain ⟨fs, hfill, hmap, hcount, hother⟩ := hs.fill_ok clock ha
    rw [hfill] at hstep
    obtain rfl := (Option.some.inj hstep).symm
    refine ⟨?_, ?_, ?_, hs.released⟩
    · refine hs.sound.update h rfl rfl (by simp [World.setHandle, World.setShared]) ?_
        (fun _ _ => Iff.rfl) (fun j hj => World.setHandle_other j hj)
        (fun f hf _ hne => hother f hf hne) ?_
      · show (fs.map (fun g => g.uid) ++ _).Perm _
        rw [hmap]
        exact .refl _
      · intro y hy
        obtain rfl := World.setHandle_self (w := s.world) hy
        trivial
    · intro h' a' hown
      obtain ⟨hau, haobj, hhandle, htop⟩ := hs.preparing h' a' hown
      -- the span inside `prepare_for_async` has no `AsyncSpan` yet
      have hne : h' ≠ h := by
        rintro rfl
        rw [ha] at hhandle
        cases hhandle
      exact ⟨hau, haobj, (World.setHandle_other h' hne).trans hhandle, htop⟩
    -- one placeholder less, one span more to count out
    · have hwg := hs.count
      rw [hcount] at hwg
      show s.world.context.wg.count = (fs.countP fun g => g.obj.isNone) + (s.ending.length + 1) + _
      rw [hwg]
      exact congrArg (· + _) (by omega)
  · cases hstep

/-- The count covers a span that is filled and not yet counted out. -/
theorem Inv.done_ok (hs : s.Inv) {h : Nat} (hh : h ∈ s.ending) (overflowChecks : Bool) :
    ∃ n, s.world.context.wg.count = n + 1 ∧
      s.world.context.wg.done overflowChecks = .ok () ⟨n⟩ := by
  have hlen := List.length_pos_of_mem hh
  obtain ⟨n, hn⟩ := Nat.exists_eq_succ_of_ne_zero
    (n := s.world.context.wg.count) (by have := hs.count; omega)
  have hwg : s.world.context.wg = ⟨n + 1⟩ := congrArg WaitGroup.mk hn
  exact ⟨n, hn, by rw [hwg, WaitGroup.done_succ]⟩

theorem inv_done (hs : s.Inv) {h : Nat} (hstep : s.done overflowChecks h = some t) : t.Inv := by
  simp only [done] at hstep
  split at hstep
  · next hh =>
    obtain ⟨n, hn, hdone⟩ := hs.done_ok hh overflowChecks
    rw [hdone] at hstep
    obtain rfl := (Option.some.inj hstep).symm
    refine ⟨⟨hs.sound.alive, hs.sound.generator, hs.sound.nodup, hs.sound.bound, hs.sound.handle⟩,
      hs.preparing, ?_, fun hrel => ?_⟩
    · have hwg := hs.count
      have hlen := List.length_erase_of_mem hh
      have hpos := List.length_pos_of_mem hh
      show n = s.world.context.spanStack.unfilled + (s.ending.erase h).length +
        if s.busy.isSome then 1 else 0
      rw [hn] at hwg
      omega
    -- the owner was let through at zero, so nothing can be left to count out
    · have hzero := hs.released hrel
      omega
  · cases hstep

theorem inv_call (hs : s.Inv) {e : Event} (hidle : s.owner = .idle) (hop : e.op.isOwnerCall)
    {w : World} (hw : s.world.after overflowChecks e = some w) : { s with world := w }.Inv := by
  have hbusy : s.busy = none := by simp [busy, hidle]
  obtain ⟨hsound, hunfilled, hwg⟩ := World.sound_call (hbusy ▸ hs.sound) hop hw
  have hcount := hs.count
  rw [← hwg, ← hunfilled] at hcount
  refine ⟨?_, fun h a hown => ?_, hcount, fun hrel => ?_⟩
  · show w.Sound s.busy
    rw [hbusy]
    exact hsound
  · rw [show s.owner = .idle from hidle] at hown
    cases hown
  · rw [show s.owner = .idle from hidle] at hrel
    cases hrel

theorem inv_elsewhere (hs : s.Inv) {e : Event} (hop : e.op.isElsewhere s.world) {w : World}
    (hw : s.world.after overflowChecks e = some w) : { s with world := w }.Inv := by
  obtain ⟨hsound, hstack, hwg, hspans⟩ := World.sound_elsewhere hs.sound hop hw
  have hcount := hs.count
  rw [← hwg, ← hstack] at hcount
  refine ⟨hsound, fun h a hown => ?_, hcount, fun hrel => ?_⟩
  -- the owner may be inside `prepare_for_async`; its handle is a `Span`, which no other thread has
  · obtain ⟨hau, haobj, hhandle, htop⟩ := hs.preparing h a hown
    exact ⟨hau, haobj, hspans h _ hhandle, by rw [← hstack] at htop; exact htop⟩
  · show w.context.wg.count = 0
    rw [hwg]
    exact hs.released hrel

/-- Entering and leaving `wait` changes the owner only. -/
theorem inv_owner (hs : s.Inv) (hbusy : s.busy = none) {owner : Owner}
    (hfree : { s with owner := owner }.busy = none)
    (hpreparing : ∀ h a, owner ≠ .preparing h a)
    (hreleased : owner = .released → s.world.context.wg.count = 0) :
    { s with owner := owner }.Inv := by
  have hsound := hs.sound
  have hcount := hs.count
  rw [hbusy, ← hfree] at hsound hcount
  exact ⟨hsound, fun h a hown => absurd hown (hpreparing h a), hcount, hreleased⟩

/-- Every step of a thread keeps the invariant. -/
theorem inv_step (hs : s.Inv) {e : AsyncEvent} (hstep : s.step overflowChecks e = some t) :
    t.Inv := by
  cases e with
  | call e =>
    simp only [step] at hstep
    split at hstep
    · next hown =>
      obtain ⟨w, hw, rfl⟩ := Option.map_eq_some_iff.1 hstep
      exact inv_call hs hown.1 hown.2 hw
    · cases hstep
  | elsewhere e =>
    simp only [step] at hstep
    split at hstep
    · next hop =>
      obtain ⟨w, hw, rfl⟩ := Option.map_eq_some_iff.1 hstep
      exact inv_elsewhere hs hop hw
    · cases hstep
  | prepareAdd clock h => exact inv_prepareAdd hs hstep
  | preparePush clock => exact inv_preparePush hs hstep
  | fill clock h => exact inv_fill hs hstep
  | done h => exact inv_done hs hstep
  | wait =>
    simp only [step] at hstep
    split at hstep
    · next hown =>
      obtain rfl := (Option.some.inj hstep).symm
      exact inv_owner hs (by simp [busy, hown]) rfl (by simp) (by simp)
    · cases hstep
  | pass =>
    simp only [step] at hstep
    split at hstep
    · next hown =>
      obtain rfl := (Option.some.inj hstep).symm
      have hpass := hown.2
      simp only [WaitGroup.mustWait, decide_eq_false_iff_not] at hpass
      exact inv_owner hs (by simp [busy, hown.1]) rfl (by simp)
        fun _ => Nat.eq_zero_of_not_pos hpass
    · cases hstep

/-- The invariant along every interleaving. -/
theorem inv_reachable {serviceName instanceName traceId traceSegmentId : String}
    {tracer : WeakTracer} (hreach : Execution.Reachable (step overflowChecks)
      (init serviceName instanceName traceId traceSegmentId tracer) s) : s.Inv :=
  Execution.reachable_invariant (inv_init serviceName instanceName traceId traceSegmentId tracer)
    (fun _ _ _ hI hstep => inv_step hI hstep) hreach

/-- When nothing is counted, no object is missing. -/
theorem Inv.convert_ok (hs : s.Inv) (hown : s.owner = .released) :
    ∃ seg context, s.world.context.convertToSegmentObject = .ok seg context := by
  have hcount := hs.count
  rw [hs.released hown] at hcount
  -- the count bounds the placeholders, and it is zero
  have hfull : ∀ f ∈ s.world.context.spanStack.finalized, f.obj.isSome := by
    have hzero : s.world.context.spanStack.unfilled = 0 := by omega
    intro f hf
    have hnot := List.countP_eq_zero.1 hzero f hf
    simpa [Option.isSome_iff_ne_none] using hnot
  obtain ⟨objs, hobjs⟩ := TracingContext.exists_takeObjects hfull
  unfold TracingContext.convertToSegmentObject
  simp only [hobjs]
  exact ⟨_, _, rfl⟩

/-- The one entry of a live asynchronous span, and only its own. -/
theorem Inv.owns_entry (hs : s.Inv) {h : Nat} {a : AsyncSpan}
    (ha : s.world.handles[h]? = some (.asyncSpan a)) :
    ∃ l f r, s.world.context.spanStack.finalized = l ++ f :: r ∧ f.uid = a.uid ∧ f.obj = none ∧
      ∀ g ∈ l ++ r, g.uid ≠ a.uid := by
  obtain ⟨hau, -, f, hf, hfu, hempty⟩ := hs.sound.handle h _ ha
  obtain ⟨l, r, hsplit⟩ := List.append_of_mem hf
  have hnd : (s.world.context.spanStack.finalized.map fun g => g.uid).Nodup :=
    (List.nodup_append'.1 hs.sound.nodup).1
  rw [hsplit, List.map_append, List.map_cons, List.nodup_middle, List.nodup_cons,
    ← List.map_append] at hnd
  refine ⟨l, f, r, hsplit, hfu.trans hau.symm, hempty, fun g hg hgu => hnd.1 ?_⟩
  exact List.mem_map.2 ⟨g, hg, hgu.trans (hau.trans hfu.symm)⟩

/-- In every reachable state of a live context the uids are distinct, every live asynchronous span
owns one placeholder and the wait group covers the placeholders. So the end of an asynchronous span
always finds its placeholder, counting it out never underflows, and a context that `wait` lets go
converts to a segment. -/
theorem completion_protocol {serviceName instanceName traceId traceSegmentId : String}
    {tracer : WeakTracer} (hreach : Execution.Reachable (step overflowChecks)
      (init serviceName instanceName traceId traceSegmentId tracer) s) :
    s.world.context.spanStack.uids.Nodup ∧
    (∀ (h : Nat) (a : AsyncSpan), s.world.handles[h]? = some (.asyncSpan a) →
      (∃ l f r, s.world.context.spanStack.finalized = l ++ f :: r ∧ f.uid = a.uid ∧ f.obj = none ∧
        ∀ g ∈ l ++ r, g.uid ≠ a.uid) ∧
      (∀ (h' : Nat) (a' : AsyncSpan), s.world.handles[h']? = some (.asyncSpan a') →
        a'.uid = a.uid → h' = h) ∧
      ∀ clock, ∃ stack, a.fill clock s.world.stackAlive s.world.context.spanStack =
        .ok () stack) ∧
    s.world.context.spanStack.unfilled ≤ s.world.context.wg.count ∧
    (∀ h ∈ s.ending, ∃ wg, s.world.context.wg.done overflowChecks = .ok () wg ∧
      wg.count + 1 = s.world.context.wg.count) ∧
    (s.owner = .released →
      ∃ seg context, s.world.context.convertToSegmentObject = .ok seg context) := by
  have hs := inv_reachable hreach
  refine ⟨hs.sound.nodup, fun h a ha => ⟨hs.owns_entry ha, ?_, ?_⟩, ?_, ?_, hs.convert_ok⟩
  · intro h' a' ha' hu
    have hua := (hs.sound.handle h _ ha).1
    have hua' := (hs.sound.handle h' _ ha').1
    exact hua'.symm.trans (hu.trans hua)
  · intro clock
    obtain ⟨fs, hfill, -⟩ := hs.fill_ok clock ha
    exact ⟨_, hfill⟩
  · rw [hs.count, Nat.add_assoc]
    exact Nat.le_add_right _ _
  · intro h hh
    obtain ⟨n, hn, hdone⟩ := hs.done_ok hh overflowChecks
    exact ⟨_, hdone, hn.symm⟩

/-- Two asynchronous spans, one filled before the owner waits and counted out while it waits. -/
def waitRun : List AsyncEvent :=
  [.call ⟨fun _ => 0, .createEntrySpan "op1"⟩, .call ⟨fun _ => 0, .createLocalSpan "op2"⟩,
    .prepareAdd (fun _ => 0) 1, .preparePush (fun _ => 0), .fill (fun _ => 0) 1,
    .prepareAdd (fun _ => 0) 0, .done 1, .preparePush (fun _ => 0), .wait, .fill (fun _ => 0) 0,
    .done 0, .pass]

theorem completion_protocol_waitRun :
    ∃ s, Execution.run (step true) (init "s" "i" "t" "g" none) waitRun = some s ∧
      ∃ seg context, s.world.context.convertToSegmentObject = .ok seg context := by
  have hrun : ∃ s, Execution.run (step true) (init "s" "i" "t" "g" none) waitRun = some s ∧
      decide (s.owner = .released) = true := (Option.any_eq_true _ _).1 (by decide +kernel)
  obtain ⟨s, hrun, hown⟩ := hrun
  obtain ⟨-, -, -, -, hconvert⟩ := completion_protocol ⟨waitRun, hrun⟩
  exact ⟨s, hrun, hconvert (of_decide_eq_true hown)⟩

end AsyncSystem

end SkywalkingAgent.Trace
