import SkywalkingAgent.Common
import SkywalkingAgent.Proto
import Mathlib.Data.List.Basic

/-!
# The span stack

`SpanStack` of `trace/trace_context.rs`: the stack of active spans and the list of finalized ones,
shared by a context and by the handles of its spans. Both vectors keep their newest element last.
The two read-write locks around them are taken for the length of one method each; contention on
them is not part of this module.
-/

set_option autoImplicit false

namespace SkywalkingAgent.Trace

open SkywalkingAgent.Lib SkywalkingAgent.Common SkywalkingAgent.Proto

/-- The identity of a span inside the crate. The generator is a `usize`; it would wrap only with
more entries alive in the two vectors than an address space holds, so it is a `Nat` here. -/
abbrev SpanUid := Nat

/-- `ActiveSpan`. -/
structure ActiveSpan where
  uid : SpanUid
  spanId : Int
  /-- Parked by `continued`. -/
  ref : Option SegmentReference
  deriving DecidableEq, Repr

/-- `ActiveSpan::new`. -/
def ActiveSpan.new (uid : SpanUid) (spanId : Int) : ActiveSpan := ⟨uid, spanId, none⟩

/-- `FinalizeSpan`. -/
structure FinalizeSpan where
  uid : SpanUid
  /-- Absent while an asynchronous span is unfinished. -/
  obj : Option SpanObject
  /-- Parked by `continued`, for an unfinished asynchronous span. -/
  ref : Option SegmentReference
  deriving DecidableEq, Repr

/-- `SpanStack`: the closed spans, and the open ones, innermost last. -/
structure SpanStack where
  finalized : List FinalizeSpan
  active : List ActiveSpan
  deriving DecidableEq, Repr

/-- The end of a span: the end time, then the parked reference if there is one. -/
def finish (clock : Clock) (obj : SpanObject) (ref : Option SegmentReference) : SpanObject :=
  { obj with endTime := clock .finish, refs := obj.refs ++ ref.toList }

namespace SpanStack

/-- `SpanStack::default`. -/
def new : SpanStack := ⟨[], []⟩

/-- `SpanStack::pop_active`: the top of the stack, if it is the span `uid`. -/
def popActive (self : SpanStack) (uid : SpanUid) : Option (ActiveSpan × SpanStack) :=
  match self.active.getLast? with
  | some span =>
      if span.uid = uid then some (span, { self with active := self.active.dropLast }) else none
  | none => none

/-- `SpanStack::finalize_span`: close the span, with its object, or with an empty placeholder when
it goes on as an asynchronous span. -/
def finalizeSpan (clock : Clock) (self : SpanStack) (uid : SpanUid) (obj : Option SpanObject) :
    Outcome SpanStack Unit :=
  match self.popActive uid with
  | none => .panic "Finalize span isn't the active span" self
  | some (activeSpan, stack) =>
      let finalizeSpan : FinalizeSpan :=
        match obj with
        | some obj => ⟨uid, some (finish clock obj activeSpan.ref), none⟩
        -- the parked reference stays with the placeholder until `fill` takes it
        | none => ⟨uid, none, activeSpan.ref⟩
      .ok () { stack with finalized := stack.finalized ++ [finalizeSpan] }

/-- The search of `finalize_async_span` through the finalized list: the first entry of the span
`uid` takes the object and gives up its parked reference. -/
def fill (clock : Clock) (uid : SpanUid) (obj : SpanObject) :
    List FinalizeSpan → Option (List FinalizeSpan)
  | [] => none
  | f :: fs =>
      if f.uid = uid then some (⟨f.uid, some (finish clock obj f.ref), none⟩ :: fs)
      else (fill clock uid obj fs).map (f :: ·)

/-- `SpanStack::finalize_async_span`. -/
def finalizeAsyncSpan (clock : Clock) (self : SpanStack) (uid : SpanUid) (obj : SpanObject) :
    Outcome SpanStack Unit :=
  match fill clock uid obj self.finalized with
  | some finalized => .ok () { self with finalized := finalized }
  | none => .panic "internal error: entered unreachable code" self

/-- `TracingContext::last_span`. -/
def lastSpan (self : SpanStack) : Option SpanObject :=
  self.finalized.reverse.findSome? fun span => span.obj

/-- The top of the stack is popped exactly when it is the span `uid`. -/
theorem popActive_eq_some_iff {self t : SpanStack} {uid : SpanUid} {a : ActiveSpan} :
    popActive self uid = some (a, t) ↔
      self.active = t.active ++ [a] ∧ a.uid = uid ∧ t.finalized = self.finalized := by
  obtain ⟨finalized, active⟩ := self
  obtain ⟨tfinalized, tactive⟩ := t
  -- the vector is read from its end
  rcases List.eq_nil_or_concat' active with rfl | ⟨s, b, rfl⟩
  · simp [popActive]
  · simp only [popActive, List.getLast?_concat, List.dropLast_concat, List.append_singleton_inj]
    constructor
    · intro h
      split at h
      · next hb =>
        simp only [Option.some.injEq, Prod.mk.injEq, SpanStack.mk.injEq] at h
        obtain ⟨rfl, rfl, rfl⟩ := h
        exact ⟨⟨rfl, rfl⟩, hb, rfl⟩
      · simp at h
    · rintro ⟨⟨rfl, rfl⟩, hb, rfl⟩
      rw [if_pos hb]

/-- What the finalized list receives when the active span `a` closes. -/
def closedEntry (clock : Clock) (a : ActiveSpan) (obj : Option SpanObject) : FinalizeSpan :=
  match obj with
  | some obj => ⟨a.uid, some (finish clock obj a.ref), none⟩
  | none => ⟨a.uid, none, a.ref⟩

/-- Closing succeeds exactly for the top of the stack, and moves it to the finalized list. -/
theorem finalizeSpan_eq_ok_iff {clock : Clock} {self t : SpanStack} {uid : SpanUid}
    {obj : Option SpanObject} :
    finalizeSpan clock self uid obj = .ok () t ↔
      ∃ s a, self.active = s ++ [a] ∧ a.uid = uid ∧
        t = ⟨self.finalized ++ [closedEntry clock a obj], s⟩ := by
  unfold finalizeSpan
  constructor
  · intro h
    split at h
    · cases h
    · next a u hpop =>
      obtain ⟨hactive, hauid, hfin⟩ := popActive_eq_some_iff.1 hpop
      subst hauid
      refine ⟨u.active, a, hactive, rfl, ?_⟩
      cases obj with
      | none => simpa [closedEntry, hfin] using h.symm
      | some o => simpa [closedEntry, hfin] using h.symm
  · rintro ⟨s, a, hactive, rfl, rfl⟩
    have hpop : popActive self a.uid = some (a, ⟨self.finalized, s⟩) :=
      popActive_eq_some_iff.2 ⟨hactive, rfl, rfl⟩
    rw [hpop]
    cases obj with
    | none => rfl
    | some o => rfl

/-- Filling an empty entry of a list that has one entry of each span: the entry gets its object, and
the others stay. -/
theorem fill_of_mem (clock : Clock) (obj : SpanObject) {fs : List FinalizeSpan}
    {f : FinalizeSpan} (hnd : (fs.map fun g => g.uid).Nodup) (hf : f ∈ fs) (hempty : f.obj = none) :
    ∃ fs', fill clock f.uid obj fs = some fs' ∧
      (fs'.map fun g => g.uid) = fs.map (fun g => g.uid) ∧
      (fs.countP fun g => g.obj.isNone) = (fs'.countP fun g => g.obj.isNone) + 1 ∧
      ∀ g ∈ fs, g.uid ≠ f.uid → g ∈ fs' := by
  induction fs with
  | nil => simp at hf
  | cons g fs ih =>
    rw [List.map_cons, List.nodup_cons] at hnd
    by_cases hg : g.uid = f.uid
    -- two entries of one span would be the same entry, so the first found is the right one
    · obtain rfl : f = g := by
        rcases List.mem_cons.1 hf with h | h
        · exact h
        · exact absurd (List.mem_map.2 ⟨f, h, hg.symm⟩) hnd.1
      refine ⟨⟨f.uid, some (finish clock obj f.ref), none⟩ :: fs, by simp [fill], by simp, ?_, ?_⟩
      · simp [hempty]
      · intro b hb hne
        rcases List.mem_cons.1 hb with rfl | hb
        · exact absurd rfl hne
        · exact List.mem_cons_of_mem _ hb
    · have hf' : f ∈ fs := by
        rcases List.mem_cons.1 hf with h | h
        · exact absurd (congrArg FinalizeSpan.uid h.symm) hg
        · exact h
      obtain ⟨fs', hfill, hmap, hcount, hother⟩ := ih hnd.2 hf'
      refine ⟨g :: fs', by simp [fill, hg, hfill], by simp [hmap], ?_, ?_⟩
      · rw [List.countP_cons, List.countP_cons, hcount]
        omega
      · intro b hb hne
        rcases List.mem_cons.1 hb with rfl | hb
        · exact List.mem_cons_self
        · exact List.mem_cons_of_mem _ (hother b hb hne)

/-- Where the list has one entry of each span, filling changes that entry only. -/
theorem fill_map {β : Type} (clock : Clock) (obj : SpanObject) (entry : β → FinalizeSpan)
    (key : β) (l : List β) (huid : ∀ b ∈ l, (entry b).uid = (entry key).uid ↔ b = key)
    (hkey : key ∈ l) (hnd : l.Nodup) :
    ∃ entry' : β → FinalizeSpan,
      entry' key = ⟨(entry key).uid, some (finish clock obj (entry key).ref), none⟩ ∧
      (∀ b, b ≠ key → entry' b = entry b) ∧
      fill clock (entry key).uid obj (l.map entry) = some (l.map entry') := by
  classical
  refine ⟨fun b => if b = key then
    ⟨(entry key).uid, some (finish clock obj (entry key).ref), none⟩ else entry b,
    by simp, fun b hb => by simp [hb], ?_⟩
  induction l with
  | nil => simp at hkey
  | cons b l ih =>
    rw [List.nodup_cons] at hnd
    by_cases hb : b = key
    -- behind the entry no other has its key, so the rest is mapped as before
    · subst hb
      have hrest : l.map (fun c => if c = b then
          ⟨(entry b).uid, some (finish clock obj (entry b).ref), none⟩ else entry c) =
          l.map entry := by
        refine List.map_congr_left fun c hc => ?_
        have hcb : c ≠ b := fun h => hnd.1 (h ▸ hc)
        simp [hcb]
      simp [fill, hrest]
    · have hkey' : key ∈ l := by
        rcases List.mem_cons.1 hkey with h | h
        · exact absurd h.symm hb
        · exact h
      -- an entry of another span is passed over
      have hne : (entry b).uid ≠ (entry key).uid :=
        fun h => hb ((huid b (List.mem_cons_self)).1 h)
      have ih' := ih (fun c hc => huid c (List.mem_cons_of_mem _ hc)) hkey' hnd.2
      simp [fill, hne, hb, ih']

end SpanStack

end SkywalkingAgent.Trace
