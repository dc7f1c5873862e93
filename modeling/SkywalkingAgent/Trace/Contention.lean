import SkywalkingAgent.Trace.Locks

/-!
# Drops of asynchronous spans under contention

The drop of an `AsyncSpan` tries the lock of the finalized vector, and so do the owner's drop of a
span, its `prepare_for_async` and `last_span`. Where two of these accesses overlap and one of them
writes, the second panics; in a drop the placeholder then stays empty and the span is never counted
out, and `wait` does not return any more. `LockSystem.drops_complete_iff` says that this is all that
can go wrong: no attempt fails and every drop does its whole work exactly when no access to the
finalized vector begins inside one that excludes it. The lock of the active vector is never
contended, as the owner alone uses it.
-/

set_option autoImplicit false

namespace SkywalkingAgent.Trace

open SkywalkingAgent.Lib SkywalkingAgent.Lib.TryLock SkywalkingAgent.Common SkywalkingAgent.Proto
open SkywalkingAgent.Propagation SkywalkingAgent.Reporter

/-! ## The end of one asynchronous span -/

/-- A search that finds its entry leaves it filled. -/
theorem SpanStack.exists_of_fill {clock : Clock} {uid : SpanUid} {obj : SpanObject}
    {fs fs' : List FinalizeSpan} (h : SpanStack.fill clock uid obj fs = some fs') :
    ∃ f ∈ fs', f.uid = uid ∧ f.obj.isSome := by
  induction fs generalizing fs' with
  | nil => cases h
  | cons g fs ih =>
    rw [SpanStack.fill] at h
    split at h
    · next hg =>
      obtain rfl := (Option.some.inj h).symm
      exact ⟨_, List.mem_cons_self, hg, rfl⟩
    · obtain ⟨rest, hrest, rfl⟩ := Option.map_eq_some_iff.1 h
      obtain ⟨f, hf, hfilled⟩ := ih hrest
      exact ⟨f, List.mem_cons_of_mem _ hf, hfilled⟩

namespace World

variable {w w' : World} {h k : Nat}

theorem isAsync_congr (hh : w'.handles[h]? = w.handles[h]?) : w'.isAsync h = w.isAsync h := by
  unfold isAsync
  rw [hh]

/-- Another thread's handle is no `Span`. -/
theorem ne_of_isAsync (hasync : w.isAsync h) {s : Span} (hk : w.handles[k]? = some (.span s)) :
    h ≠ k := by
  rintro rfl
  obtain ⟨a, ha⟩ := isAsync_iff.1 hasync
  rw [hk] at ha
  cases ha

theorem isAsync_setHandle_of_ne {x : Handle} (hne : h ≠ k) :
    (w.setHandle k x).isAsync h = w.isAsync h :=
  isAsync_congr (setHandle_other h hne)

end World

namespace AsyncSystem

variable {s t : AsyncSystem} {overflowChecks : Bool} {clock : Clock} {h k : Nat}

/-- The placeholder of span `h` has got its object. -/
def Filled (s : AsyncSystem) (h : Nat) : Prop :=
  ∃ f ∈ s.world.context.spanStack.finalized, f.uid = h ∧ f.obj.isSome

instance (s : AsyncSystem) (h : Nat) : Decidable (s.Filled h) :=
  inferInstanceAs
    (Decidable (∃ f ∈ s.world.context.spanStack.finalized, f.uid = h ∧ f.obj.isSome))

/-- What a step that is not of the drop of span `h` leaves to that drop. -/
structure Untouched (h : Nat) (s t : AsyncSystem) : Prop where
  isAsync : s.world.isAsync h → t.world.isAsync h
  filled : s.Filled h → t.Filled h
  ending : t.ending.count h = s.ending.count h

theorem Untouched.refl (h : Nat) (s : AsyncSystem) : Untouched h s s :=
  ⟨fun hasync => hasync, fun hfilled => hfilled, rfl⟩

/-- Entries are only added. -/
theorem Filled.mono (hs : s.Filled h) (hsub : ∀ f ∈ s.world.context.spanStack.finalized,
    f.uid = h → f ∈ t.world.context.spanStack.finalized) : t.Filled h := by
  obtain ⟨f, hf, huid, hobj⟩ := hs
  exact ⟨f, hsub f hf huid, huid, hobj⟩

theorem untouched_call {e : Event} {w : World} (hop : e.op.isOwnerCall)
    (hafter : s.world.after overflowChecks e = some w) : Untouched h s { s with world := w } := by
  have hnot : e.op ≠ .dropContext := by
    intro hdrop
    rw [hdrop] at hop
    cases hop
  have hkept : (s.world.isAsync h → w.isAsync h) ∧
      ∀ f ∈ s.world.context.spanStack.finalized, f ∈ w.context.spanStack.finalized := by
    cases World.after_effect hnot hafter with
    | created obj _ _ hhandles _ hstack _ =>
      refine ⟨fun hasync => ?_, fun f hf => by rw [hstack]; exact hf⟩
      obtain ⟨a, ha⟩ := World.isAsync_iff.1 hasync
      obtain ⟨hlt, -⟩ := List.getElem?_eq_some_iff.1 ha
      rwa [World.isAsync_congr (w := s.world) (by rw [hhandles, List.getElem?_append_left hlt])]
    | edited k x x' hx hedit heq =>
      -- an edit does not change the kind of the handle
      subst heq
      refine ⟨fun hasync => ?_, fun f hf => hf⟩
      by_cases hk : h = k
      · subst hk
        obtain ⟨a, ha⟩ := World.isAsync_iff.1 hasync
        obtain ⟨hlt, -⟩ := List.getElem?_eq_some_iff.1 ha
        obtain rfl := Option.some.inj (hx.symm.trans ha)
        cases hedit with
        | asyncSpan uid obj obj' => exact World.isAsync_iff.2 ⟨_, List.getElem?_set_self hlt⟩
      · rwa [World.isAsync_setHandle_of_ne hk]
    | dropped k sp stack hspan hdrop heq =>
      subst heq
      refine ⟨fun hasync => ?_, (World.uids_close hdrop).2.2.1⟩
      exact (World.isAsync_setHandle_of_ne (World.ne_of_isAsync hasync hspan)).trans hasync
    | prepared k _ _ _ hprep =>
      rw [hprep] at hop
      cases hop
    | asyncDropped k _ hdrop =>
      rw [hdrop] at hop
      cases hop
    | lost k sp hspan heq =>
      subst heq
      refine ⟨fun hasync => ?_, fun f hf => hf⟩
      exact (World.isAsync_setHandle_of_ne (World.ne_of_isAsync hasync hspan)).trans hasync
    | kept hhandles _ _ _ hstack _ =>
      refine ⟨fun hasync => ?_, fun f hf => by rw [hstack.finalized]; exact hf⟩
      rwa [World.isAsync_congr (w := s.world) (by rw [hhandles])]
  exact ⟨hkept.1, fun hfilled => hfilled.mono fun f hf _ => hkept.2 f hf, rfl⟩

theorem untouched_elsewhere {e : Event} {w : World} (hop : e.op.isElsewhere s.world)
    (hafter : s.world.after overflowChecks e = some w) : Untouched h s { s with world := w } := by
  cases World.elsewhere_effect hop hafter with
  | edited k uid obj obj' hk heq =>
    subst heq
    refine ⟨fun hasync => ?_, fun hfilled => hfilled, rfl⟩
    by_cases hh : h = k
    · subst hh
      obtain ⟨hlt, -⟩ := List.getElem?_eq_some_iff.1 hk
      exact World.isAsync_iff.2 ⟨_, List.getElem?_set_self hlt⟩
    · exact (World.isAsync_setHandle_of_ne hh).trans hasync
  | tracer tracer heq =>
    subst heq
    exact ⟨fun hasync => hasync, fun hfilled => hfilled, rfl⟩

theorem untouched_prepareAdd (hstep : s.prepareAdd clock k = some t) : Untouched h s t := by
  simp only [prepareAdd] at hstep
  split at hstep
  · next span hidle hspan =>
    have hasync : ∀ {x : Handle}, s.world.isAsync h → (s.world.setHandle k x).isAsync h :=
      fun hasync => (World.isAsync_setHandle_of_ne (World.ne_of_isAsync hasync hspan)).trans hasync
    split at hstep
    · obtain rfl := (Option.some.inj hstep).symm
      exact ⟨hasync, fun hfilled => hfilled, rfl⟩
    · split at hstep
      · next stack hdrop =>
        obtain rfl := (Option.some.inj hstep).symm
        have hkept := (World.uids_close hdrop).2.2.1
        exact ⟨hasync, fun hfilled => hfilled.mono fun f hf _ => hkept f hf, rfl⟩
      · cases hstep
      · cases hstep
  · cases hstep

theorem untouched_preparePush (hstep : s.preparePush clock = some t) : Untouched h s t := by
  simp only [preparePush] at hstep
  split at hstep
  · split at hstep
    · next k a hown span hspan =>
      split at hstep
      · next stack hdrop =>
        obtain rfl := (Option.some.inj hstep).symm
        refine ⟨fun hasync => ?_,
          fun hfilled => hfilled.mono fun f hf _ => (World.uids_close hdrop).2.2.1 f hf, rfl⟩
        exact (World.isAsync_setHandle_of_ne (World.ne_of_isAsync hasync hspan)).trans hasync
      · cases hstep
      · cases hstep
    · cases hstep
  · cases hstep

/-- The end of an asynchronous span that finds its placeholder. -/
theorem Inv.fill_eq (hs : s.Inv) (hasync : s.world.isAsync h) (clock : Clock) :
    ∃ t, s.fill clock h = some t ∧ t.Filled h ∧ t.ending = h :: s.ending ∧
      ∀ k, k ≠ h → Untouched k s t := by
  obtain ⟨a, ha⟩ := World.isAsync_iff.1 hasync
  obtain ⟨fs, hfill, -, -, hother⟩ := hs.fill_ok clock ha
  refine ⟨{ s with
    world := (s.world.setHandle h .closed).setShared
      ({ s.world.context.spanStack with finalized := fs }, s.world.context.wg)
    ending := h :: s.ending }, ?_, ?_, rfl, ?_⟩
  · simp only [fill, ha, hfill]
  · obtain ⟨-, obj, fs', -, hsearch, heq⟩ := AsyncSpan.fill_eq_ok_iff.1 hfill
    obtain rfl : fs = fs' := congrArg SpanStack.finalized heq
    obtain rfl := (hs.sound.handle h _ ha).1
    exact SpanStack.exists_of_fill hsearch
  · intro k hk
    refine ⟨fun hasync' => (World.isAsync_setHandle_of_ne hk).trans hasync',
      fun hfilled => hfilled.mono fun f hf huid => hother f hf (huid ▸ hk), ?_⟩
    exact List.count_cons_of_ne (Ne.symm hk)

theorem untouched_done (hdone : s.done overflowChecks k = some t) (hne : h ≠ k) :
    Untouched h s t := by
  obtain ⟨-, hending, hhandles, -, hstack⟩ := done_keeps hdone
  refine ⟨fun hasync => ?_, fun hfilled => hfilled.mono fun f hf _ => by rw [hstack]; exact hf, ?_⟩
  · rwa [World.isAsync_congr (w := s.world) (by rw [hhandles])]
  · rw [hending, List.count_erase_of_ne hne]

/-- Every step but the halves of its own drop leaves an asynchronous span untouched. -/
theorem untouched_step (hs : s.Inv) {e : AsyncEvent} (hstep : s.step overflowChecks e = some t)
    (hfill : ∀ clock, e ≠ .fill clock h) (hdone : e ≠ .done h) : Untouched h s t := by
  cases e with
  | call e =>
    simp only [step] at hstep
    split at hstep
    · next hown =>
      obtain ⟨w, hw, rfl⟩ := Option.map_eq_some_iff.1 hstep
      exact untouched_call hown.2 hw
    · cases hstep
  | elsewhere e =>
    simp only [step] at hstep
    split at hstep
    · next hop =>
      obtain ⟨w, hw, rfl⟩ := Option.map_eq_some_iff.1 hstep
      exact untouched_elsewhere hop hw
    · cases hstep
  | prepareAdd clock k => exact untouched_prepareAdd hstep
  | preparePush clock => exact untouched_preparePush hstep
  | fill clock k =>
    -- another placeholder is filled
    have hne : h ≠ k := by
      rintro rfl
      exact hfill clock rfl
    obtain ⟨t', ht', -, -, hother⟩ := hs.fill_eq (fill_keeps hstep).1 clock
    obtain rfl := Option.some.inj (ht'.symm.trans hstep)
    exact hother h hne
  | done k =>
    refine untouched_done hstep ?_
    rintro rfl
    exact hdone rfl
  | wait =>
    simp only [step] at hstep
    split at hstep
    · obtain rfl := (Option.some.inj hstep).symm
      exact ⟨fun hasync => hasync, fun hfilled => hfilled, rfl⟩
    · cases hstep
  | pass =>
    simp only [step] at hstep
    split at hstep
    · obtain rfl := (Option.some.inj hstep).symm
      exact ⟨fun hasync => hasync, fun hfilled => hfilled, rfl⟩
    · cases hstep

end AsyncSystem

/-- An update that is a half of the drop of span `h`. -/
def Update.ends (h : Nat) : Update → Prop
  | .fill _ k => k = h
  | .done k => k = h
  | _ => False

namespace StackData

variable {d d' : StackData} {overflowChecks : Bool} {update : Update} {h : Nat}

theorem perform_dropped (hperform : perform overflowChecks update d = some d') :
    d'.dropped = d.dropped := by
  cases update with
  | call e =>
    simp only [perform] at hperform
    split at hperform
    · obtain ⟨s, -, rfl⟩ := Option.map_eq_some_iff.1 hperform
      rfl
    · cases hperform
  | prepareAdd clock h =>
    simp only [perform] at hperform
    split at hperform
    · obtain ⟨s, -, rfl⟩ := Option.map_eq_some_iff.1 hperform
      rfl
    · cases hperform
  | popActive h =>
    simp only [perform, popActive] at hperform
    split at hperform
    · obtain ⟨p, -, rfl⟩ := Option.map_eq_some_iff.1 hperform
      rfl
    · cases hperform
  | pushFinalized clock =>
    simp only [perform, pushFinalized] at hperform
    split at hperform
    · split at hperform
      · obtain rfl := (Option.some.inj hperform).symm
        rfl
      · cases hperform
    · cases hperform
  | fill clock h =>
    obtain ⟨s, -, rfl⟩ := Option.map_eq_some_iff.1 hperform
    rfl
  | done h =>
    obtain ⟨s, -, rfl⟩ := Option.map_eq_some_iff.1 hperform
    rfl

theorem restored_isAsync : d.restored.world.isAsync h = d.system.world.isAsync h :=
  World.isAsync_congr (by rw [(restored_world d).1])

theorem restored_filled : d.restored.Filled h ↔ d.system.Filled h := by
  unfold AsyncSystem.Filled
  rw [(restored_world d).2.1]

theorem restored_ending : d.restored.ending = d.system.ending := (restored_world d).2.2.2.1

theorem untouched_perform (hd : d.Inv) (hperform : perform overflowChecks update d = some d')
    (hends : ¬ update.ends h) : AsyncSystem.Untouched h d.system d'.system := by
  have hrestored : AsyncSystem.Untouched h d.restored d'.restored := by
    have hrefines := perform_refines hd hperform
    cases hevent : d.event? update with
    | none =>
      rw [hevent] at hrefines
      rw [hrefines]
      exact .refl h _
    | some e =>
      rw [hevent] at hrefines
      -- only the halves of the drop are those halves below
      have hown : ∀ e', d.event? update = some e' →
          (∀ clock, e' ≠ .fill clock h) ∧ e' ≠ .done h := by
        intro e' he'
        cases update with
        | call e =>
          obtain rfl := Option.some.inj he'
          exact ⟨by simp, by simp⟩
        | prepareAdd clock k =>
          obtain rfl := Option.some.inj he'
          exact ⟨by simp, by simp⟩
        | popActive k => cases he'
        | pushFinalized clock =>
          simp only [event?] at he'
          split at he'
          · obtain rfl := Option.some.inj he'
            exact ⟨by simp, by simp⟩
          · obtain rfl := Option.some.inj he'
            exact ⟨by simp, by simp⟩
          · cases he'
        | fill clock k =>
          obtain rfl := Option.some.inj he'
          exact ⟨fun clock' heq => hends (AsyncEvent.fill.inj heq).2, by simp⟩
        | done k =>
          obtain rfl := Option.some.inj he'
          exact ⟨by simp, fun heq => hends (AsyncEvent.done.inj heq)⟩
      exact AsyncSystem.untouched_step hd.restored hrefines (hown e hevent).1 (hown e hevent).2
  refine ⟨fun hasync => ?_, fun hfilled => ?_, ?_⟩
  · rw [← restored_isAsync] at hasync ⊢
    exact hrestored.isAsync hasync
  · rw [← restored_filled] at hfilled ⊢
    exact hrestored.filled hfilled
  · rw [← restored_ending, ← restored_ending]
    exact hrestored.ending

/-- The first half of a drop. -/
theorem perform_fill (hd : d.Inv) (hasync : d.system.world.isAsync h) (clock : Clock) :
    ∃ d', perform overflowChecks (.fill clock h) d = some d' ∧ d'.system.Filled h ∧
      d'.system.ending = h :: d.system.ending := by
  obtain ⟨t, ht, hfilled, hending, -⟩ :=
    hd.restored.fill_eq (by rw [restored_isAsync]; exact hasync) clock
  -- the search does not read the active vector, so it goes through without the popped span too
  have hsystem : ∃ s, d.system.fill clock h = some s := by
    unfold restored at ht
    split at ht
    · exact ⟨t, ht⟩
    · rw [AsyncSystem.fill_setActive] at ht
      obtain ⟨s, hs, -⟩ := Option.map_eq_some_iff.1 ht
      exact ⟨s, hs⟩
  obtain ⟨s, hs⟩ := hsystem
  have hperform : perform overflowChecks (.fill clock h) d = some { d with system := s } := by
    simp only [perform, hs, Option.map_some]
  have hrefines : d.restored.fill clock h = some (restored { d with system := s }) :=
    perform_refines hd hperform
  obtain rfl := Option.some.inj (ht.symm.trans hrefines)
  exact ⟨_, hperform, restored_filled.1 hfilled,
    restored_ending.symm.trans (hending.trans (congrArg (List.cons h) restored_ending))⟩

/-- The second half of a drop. -/
theorem perform_done (hd : d.Inv) (hmem : h ∈ d.system.ending) :
    ∃ d', perform overflowChecks (.done h) d = some d' ∧
      d'.system.ending = d.system.ending.erase h ∧
      d'.system.world.context.spanStack = d.system.world.context.spanStack := by
  obtain ⟨n, -, hwg⟩ := hd.restored.done_ok (by rw [restored_ending]; exact hmem) overflowChecks
  rw [(restored_world d).2.2.1] at hwg
  have hdone : ∃ s, d.system.done overflowChecks h = some s := by
    simp only [AsyncSystem.done, if_pos hmem, hwg]
    exact ⟨_, rfl⟩
  obtain ⟨s, hs⟩ := hdone
  obtain ⟨-, hending, -, -, hstack⟩ := AsyncSystem.done_keeps hs
  exact ⟨{ d with system := s }, by simp only [perform, hs, Option.map_some], hending, hstack⟩

end StackData

/-! ## The threads -/

/-- The owner's programs acquire and release in turns, and leave the ends of the asynchronous spans
to their threads. -/
theorem ownerProgram_spec {overflowChecks : Bool} {d : StackData} {e : Event}
    {program : List StackAction} (h : ownerProgram overflowChecks d e = some program) :
    Bracketed none program ∧ ∀ update, .perform update ∈ program → ∀ k, ¬ update.ends k := by
  have hcall : ∀ k, ¬ (Update.call e).ends k := fun k hk => hk
  unfold ownerProgram at h
  cases hop : e.op with
  | createEntrySpan | createEntrySpanWithPropagation | continued =>
    -- the write on the active vector is left out when the call panics before it
    simp only [hop, Option.some.injEq] at h
    subst h
    split
    · simp [access, Bracketed, hcall]
    · simp [Bracketed, hcall]
  | createExitSpan | createLocalSpan =>
    simp only [hop, Option.some.injEq] at h
    subst h
    split
    · simp [access, Bracketed, hcall]
    · simp [access, Bracketed, hcall]
  | capture | dropTracer =>
    simp only [hop, Option.some.injEq] at h
    subst h
    simp [access, Bracketed, hcall]
  | dropSpan k =>
    simp only [hop] at h
    split at h
    · obtain rfl := (Option.some.inj h).symm
      split
      · simp [finalizeProgram, access, Bracketed, Update.ends]
      · -- not the top: the drop panics after its look at the active vector
        simp [access, Bracketed, hcall]
    · cases h
  | prepareForAsync k =>
    simp only [hop] at h
    split at h
    · split at h
      · obtain rfl := (Option.some.inj h).symm
        simp [finalizeProgram, access, Bracketed, Update.ends]
      · cases h
    · cases h
  | addTag | addLog =>
    simp only [hop] at h
    split at h
    · cases h
    · obtain rfl := (Option.some.inj h).symm
      simp [Bracketed, hcall]
  | dropAsyncSpan | dropContext =>
    simp only [hop] at h
    cases h

namespace LockSystem

/-- How far the drop of an asynchronous span is that has begun. -/
inductive DropAt (s : LockSystem) (h : Nat) : Prop where
  | begun (clock : Clock) (program : s.program (.asyncSpan h) = dropProgram clock h)
      (handle : s.data.system.world.isAsync h) (ending : s.data.system.ending.count h = 0)
  | locked (clock : Clock)
      (program : s.program (.asyncSpan h) =
        [.perform (.fill clock h), .release .finalized .write, .perform (.done h)])
      (handle : s.data.system.world.isAsync h) (ending : s.data.system.ending.count h = 0)
  | filled
      (program : s.program (.asyncSpan h) = [.release .finalized .write, .perform (.done h)])
      (filled : s.data.system.Filled h) (ending : s.data.system.ending.count h = 1)
  | released (program : s.program (.asyncSpan h) = [.perform (.done h)])
      (filled : s.data.system.Filled h) (ending : s.data.system.ending.count h = 1)
  | finished (program : s.program (.asyncSpan h) = [])
      (filled : s.data.system.Filled h) (ending : s.data.system.ending.count h = 0)
  | failed (program : s.program (.asyncSpan h) = []) (failed : .asyncSpan h ∈ s.failed)

/-- What every interleaving keeps. -/
structure Inv (s : LockSystem) : Prop where
  data : s.data.Inv
  guarded : Threads.Guarded s
  owner : ∀ update, .perform update ∈ s.program .owner → ∀ h, ¬ update.ends h
  drops : ∀ h ∈ s.data.dropped, DropAt s h
  others : ∀ h, h ∉ s.data.dropped →
    s.program (.asyncSpan h) = [] ∧ s.data.system.ending.count h = 0
  /-- A drop that has failed leaves its span as it was. -/
  lost : ∀ h, .asyncSpan h ∈ s.failed → h ∈ s.data.dropped ∧ s.program (.asyncSpan h) = [] ∧
    s.data.system.world.isAsync h

variable {s s' : LockSystem} {overflowChecks : Bool} {h : Nat}

/-- The steps of the other threads. -/
theorem DropAt.frame (hdrop : DropAt s h)
    (hprogram : s'.program (.asyncSpan h) = s.program (.asyncSpan h))
    (hfailed : s.failed ⊆ s'.failed)
    (huntouched : AsyncSystem.Untouched h s.data.system s'.data.system) : DropAt s' h := by
  obtain ⟨hasync, hfilled, hending⟩ := huntouched
  cases hdrop with
  | begun clock program handle ending =>
    exact .begun clock (hprogram.trans program) (hasync handle) (hending.trans ending)
  | locked clock program handle ending =>
    exact .locked clock (hprogram.trans program) (hasync handle) (hending.trans ending)
  | filled program filled ending =>
    exact .filled (hprogram.trans program) (hfilled filled) (hending.trans ending)
  | released program filled ending =>
    exact .released (hprogram.trans program) (hfilled filled) (hending.trans ending)
  | finished program filled ending =>
    exact .finished (hprogram.trans program) (hfilled filled) (hending.trans ending)
  | failed program failed => exact .failed (hprogram.trans program) (hfailed failed)

/-- The next action of a drop. -/
theorem DropAt.act (hdata : s.data.Inv) (hdrop : DropAt s h)
    (hact : Threads.Acted (StackData.perform overflowChecks) s (.asyncSpan h) s') :
    DropAt s' h := by
  cases hdrop with
  | begun clock program handle ending =>
    -- the one step that can fail
    rcases hact.of_acquire program with ⟨-, rfl⟩ | ⟨-, rfl⟩
    · exact .locked clock (Function.update_self _ _ _) handle ending
    · exact .failed (Function.update_self _ _ _) List.mem_cons_self
  | locked clock program handle ending =>
    obtain ⟨d, heffect, rfl⟩ := hact.of_perform program
    obtain ⟨d', hd', hfilled, hending⟩ :=
      @StackData.perform_fill s.data overflowChecks h hdata handle clock
    obtain rfl := Option.some.inj (hd'.symm.trans heffect)
    refine .filled (Function.update_self _ _ _) hfilled ?_
    rw [hending, List.count_cons_self, ending]
  | filled program filled ending =>
    obtain rfl := hact.of_release program
    exact .released (Function.update_self _ _ _) filled ending
  | released program filled ending =>
    obtain ⟨d, heffect, rfl⟩ := hact.of_perform program
    have hmem : h ∈ s.data.system.ending := List.count_pos_iff.1 (by omega)
    obtain ⟨d', hd', hending, hstack⟩ :=
      @StackData.perform_done s.data overflowChecks h hdata hmem
    obtain rfl := Option.some.inj (hd'.symm.trans heffect)
    refine .finished (Function.update_self _ _ _) (filled.mono fun f hf _ => ?_) ?_
    · rw [hstack]
      exact hf
    · rw [hending, List.count_erase_self, ending]
  | finished program => exact absurd program hact.program_ne_nil
  | failed program => exact absurd program hact.program_ne_nil

/-- An attempt comes before everything else. -/
theorem DropAt.isAsync_of_acquire (hdrop : DropAt s h) {lock : StackLock} {mode : Mode}
    {rest : List StackAction} (hprogram : s.program (.asyncSpan h) = .acquire lock mode :: rest) :
    s.data.system.world.isAsync h := by
  cases hdrop with
  | begun clock program handle => exact handle
  | locked clock program handle => exact handle
  | filled program => cases hprogram.symm.trans program
  | released program => cases hprogram.symm.trans program
  | finished program => cases hprogram.symm.trans program
  | failed program => cases hprogram.symm.trans program

/-- A drop uses the finalized vector only, and ends its own span only. -/
theorem DropAt.program_spec (hdrop : DropAt s h) :
    ¬ Uses .active (s.program (.asyncSpan h)) ∧
      ∀ update, .perform update ∈ s.program (.asyncSpan h) → ∀ k, update.ends k → k = h := by
  cases hdrop with
  | begun clock program => simp [program, dropProgram, access, Uses, Update.ends]
  | locked clock program => simp [program, Uses, Update.ends]
  | filled program => simp [program, Uses, Update.ends]
  | released program => simp [program, Uses, Update.ends]
  | finished program => simp [program, Uses]
  | failed program => simp [program, Uses]

/-- No update of another thread is a half of the drop of span `h`. -/
theorem Inv.not_ends (hs : Inv s) {t : StackThread} (ht : t ≠ .asyncSpan h) {update : Update}
    (hmem : .perform update ∈ s.program t) : ¬ update.ends h := by
  cases t with
  | owner => exact hs.owner update hmem h
  | asyncSpan k =>
    intro hends
    by_cases hk : k ∈ s.data.dropped
    · refine ht ?_
      rw [(hs.drops k hk).program_spec.2 update hmem h hends]
    · rw [(hs.others k hk).1] at hmem
      cases hmem

/-- The owner alone uses the active vector. -/
theorem Inv.not_uses_active (hs : Inv s) (h : Nat) :
    ¬ Uses .active (s.program (.asyncSpan h)) := by
  by_cases hh : h ∈ s.data.dropped
  · exact (hs.drops h hh).program_spec.1
  · rw [(hs.others h hh).1]
    simp [Uses]

/-- The active vector is never contended. -/
theorem Inv.admits_active (hs : Inv s) {t : StackThread} {mode : Mode} {rest : List StackAction}
    (hprogram : s.program t = .acquire .active mode :: rest) :
    admits (s.guards .active) mode = true := by
  have howner : t = .owner := by
    cases t with
    | owner => rfl
    | asyncSpan h =>
      refine absurd ⟨mode, Or.inl ?_⟩ (hs.not_uses_active h)
      rw [hprogram]
      exact List.mem_cons_self
  have hfree : s.guards .active = [] := by
    refine hs.guarded.guards_eq_nil hprogram fun t' ht' => ?_
    cases t' with
    | owner => exact absurd howner.symm ht'
    | asyncSpan h => exact hs.not_uses_active h
  rw [hfree]
  cases mode with
  | read => rfl
  | write => rfl

/-- An action of any thread keeps the invariant. -/
theorem Inv.act (hs : Inv s) {t : StackThread}
    (hact : Threads.Acted (StackData.perform overflowChecks) s t s') : Inv s' := by
  -- only an update changes the data, and only its own thread sees a drop of the span in it
  have hdata : s'.data.Inv ∧ s'.data.dropped = s.data.dropped ∧
      ∀ h, t ≠ .asyncSpan h → AsyncSystem.Untouched h s.data.system s'.data.system := by
    cases hact with
    | acquired => exact ⟨hs.data, rfl, fun h _ => .refl h _⟩
    | failed => exact ⟨hs.data, rfl, fun h _ => .refl h _⟩
    | released => exact ⟨hs.data, rfl, fun h _ => .refl h _⟩
    | performed update rest data hprogram heffect =>
      refine ⟨hs.data.perform heffect, StackData.perform_dropped heffect, fun h ht => ?_⟩
      refine StackData.untouched_perform hs.data heffect (hs.not_ends ht ?_)
      rw [hprogram]
      exact List.mem_cons_self
  obtain ⟨hdata, hdropped, huntouched⟩ := hdata
  refine ⟨hdata, hs.guarded.act hact, ?_, ?_, ?_, fun h hfailed => ?_⟩
  · intro update hmem
    exact hs.owner update (hact.program_subset .owner hmem)
  · intro h hh
    rw [hdropped] at hh
    by_cases ht : t = .asyncSpan h
    · subst ht
      exact (hs.drops h hh).act hs.data hact
    · exact (hs.drops h hh).frame (hact.program_of_ne (Ne.symm ht)) hact.failed_subset
        (huntouched h ht)
  · intro h hh
    rw [hdropped] at hh
    obtain ⟨hprogram, hcount⟩ := hs.others h hh
    have ht : t ≠ .asyncSpan h := by
      rintro rfl
      exact hact.program_ne_nil hprogram
    exact ⟨(hact.program_of_ne (Ne.symm ht)).trans hprogram,
      (huntouched h ht).ending.trans hcount⟩
  · by_cases ht : t = .asyncSpan h
    · -- a thread that acts has not failed before, so this is its attempt
      subst ht
      have hold : .asyncSpan h ∉ s.failed := fun hmem =>
        hact.program_ne_nil (hs.lost h hmem).2.1
      have hh : h ∈ s.data.dropped := by
        by_contra hh
        exact hact.program_ne_nil (hs.others h hh).1
      cases hact with
      | failed lock mode rest hprogram _ =>
        exact ⟨hh, Function.update_self _ _ _, (hs.drops h hh).isAsync_of_acquire hprogram⟩
      | acquired => exact absurd hfailed hold
      | released => exact absurd hfailed hold
      | performed => exact absurd hfailed hold
    · obtain ⟨hh, hprogram, hasync⟩ := hs.lost h (hact.mem_failed_of_ne (Ne.symm ht) hfailed)
      rw [hdropped]
      exact ⟨hh, (hact.program_of_ne (Ne.symm ht)).trans hprogram,
        (huntouched h ht).isAsync hasync⟩

/-- The owner begins a call. -/
theorem Inv.start_owner (hs : Inv s) {program : List StackAction}
    (hbracketed : Bracketed none program)
    (hends : ∀ update, .perform update ∈ program → ∀ h, ¬ update.ends h)
    (hstart : s.start .owner program s.data = some s') : Inv s' := by
  have hguarded := hs.guarded.start hbracketed hstart
  obtain ⟨-, -, rfl⟩ := Threads.start_eq_some_iff.1 hstart
  have hne : ∀ h, StackThread.asyncSpan h ≠ .owner := fun h => nofun
  have hsame : ∀ h, Function.update s.program .owner program (.asyncSpan h) =
      s.program (.asyncSpan h) := fun h => Function.update_of_ne (hne h) program s.program
  refine ⟨hs.data, hguarded, ?_, fun h hh => ?_, fun h hh => ?_, fun h hfailed => ?_⟩
  · intro update hmem
    simp only [Function.update_self] at hmem
    exact hends update hmem
  · exact (hs.drops h hh).frame (hsame h) (List.Subset.refl _) (.refl h _)
  · obtain ⟨hprogram, hcount⟩ := hs.others h hh
    exact ⟨(hsame h).trans hprogram, hcount⟩
  · obtain ⟨hh, hprogram, hasync⟩ := hs.lost h hfailed
    exact ⟨hh, (hsame h).trans hprogram, hasync⟩

/-- A drop begins. -/
theorem Inv.start_drop (hs : Inv s) {clock : Clock} (hasync : s.data.system.world.isAsync h)
    (hnew : h ∉ s.data.dropped)
    (hstart : s.start (.asyncSpan h) (dropProgram clock h)
      { s.data with dropped := h :: s.data.dropped } = some s') : Inv s' := by
  have hguarded := hs.guarded.start (by simp [dropProgram, access, Bracketed]) hstart
  obtain ⟨-, -, rfl⟩ := Threads.start_eq_some_iff.1 hstart
  have hsame : ∀ t, t ≠ .asyncSpan h →
      Function.update s.program (.asyncSpan h) (dropProgram clock h) t = s.program t :=
    fun t ht => Function.update_of_ne ht _ s.program
  have hne : ∀ k, k ≠ h → StackThread.asyncSpan k ≠ .asyncSpan h :=
    fun k hk heq => hk (StackThread.asyncSpan.inj heq)
  refine ⟨⟨hs.data.restored, hs.data.popped, hs.data.owner⟩, hguarded, ?_, ?_, ?_, ?_⟩
  · intro update hmem
    simp only [hsame .owner (by simp)] at hmem
    exact hs.owner update hmem
  · intro k hk
    by_cases hkh : k = h
    · subst hkh
      exact .begun clock (Function.update_self _ _ _) hasync (hs.others k hnew).2
    · have hk' : k ∈ s.data.dropped := (List.mem_cons.1 hk).resolve_left hkh
      exact (hs.drops k hk').frame (hsame _ (hne k hkh)) (List.Subset.refl _) (.refl k _)
  · intro k hk
    have hkh : k ≠ h := by
      rintro rfl
      exact hk List.mem_cons_self
    obtain ⟨hprogram, hcount⟩ := hs.others k fun hmem => hk (List.mem_cons_of_mem _ hmem)
    exact ⟨(hsame _ (hne k hkh)).trans hprogram, hcount⟩
  · intro k hfailed
    obtain ⟨hk, hprogram, hasync⟩ := hs.lost k hfailed
    have hkh : k ≠ h := by
      rintro rfl
      exact hnew hk
    exact ⟨List.mem_cons_of_mem _ hk, (hsame _ (hne k hkh)).trans hprogram, hasync⟩

theorem init_inv (serviceName instanceName traceId traceSegmentId : String)
    (tracer : WeakTracer) : Inv (init serviceName instanceName traceId traceSegmentId tracer) where
  data := StackData.init_inv serviceName instanceName traceId traceSegmentId tracer
  guarded := ⟨⟨fun _ => none, fun _ => trivial, fun lock t mode => by simp [init]⟩,
    fun _ => List.nodup_nil⟩
  owner update hmem := by cases hmem
  drops h hh := by cases hh
  others h _ := ⟨rfl, rfl⟩
  lost h hfailed := by cases hfailed

/-- Every step keeps the invariant. -/
theorem step_inv (hs : Inv s) {event : LockEvent} (hstep : step overflowChecks s event = some s') :
    Inv s' := by
  cases event with
  | call e =>
    obtain ⟨program, hprogram, hstart⟩ := Option.bind_eq_some_iff.1 hstep
    obtain ⟨hbracketed, hends⟩ := ownerProgram_spec hprogram
    exact hs.start_owner hbracketed hends hstart
  | lastSpan => exact hs.start_owner (by simp [access, Bracketed]) (by simp [access]) hstep
  | drop clock h =>
    simp only [step] at hstep
    split at hstep
    · next hguard =>
      simp only [Bool.and_eq_true, Bool.not_eq_true', decide_eq_false_iff_not] at hguard
      exact hs.start_drop hguard.1 hguard.2 hstep
    · cases hstep
  | act t => exact hs.act (Threads.acted_of_act hstep)

/-- What the beginning of a program leaves as it was. -/
theorem step_start {event : LockEvent} (hstep : step overflowChecks s event = some s')
    (hevent : ∀ t, event ≠ .act t) :
    s'.guards = s.guards ∧ s'.failed = s.failed ∧ s'.data.restored = s.data.restored ∧
      access? s event = none := by
  cases event with
  | call e =>
    obtain ⟨program, -, hstart⟩ := Option.bind_eq_some_iff.1 hstep
    obtain ⟨-, -, rfl⟩ := Threads.start_eq_some_iff.1 hstart
    exact ⟨rfl, rfl, rfl, rfl⟩
  | lastSpan =>
    obtain ⟨-, -, rfl⟩ := Threads.start_eq_some_iff.1 hstep
    exact ⟨rfl, rfl, rfl, rfl⟩
  | drop clock h =>
    simp only [step] at hstep
    split at hstep
    · obtain ⟨-, -, rfl⟩ := Threads.start_eq_some_iff.1 hstep
      exact ⟨rfl, rfl, rfl, rfl⟩
    · cases hstep
  | act t => exact absurd rfl (hevent t)

/-- The accesses so far tell whether a thread has failed. -/
theorem step_recorded (hs : Inv s) {accesses : List (Access StackLock)}
    (hrecorded : Recorded .finalized s accesses) {event : LockEvent}
    (hstep : step overflowChecks s event = some s') :
    Recorded .finalized s' (accesses ++ (access? s event).toList) := by
  by_cases hevent : ∃ t, event = .act t
  · obtain ⟨t, rfl⟩ := hevent
    refine hrecorded.act hs.guarded ?_ (Threads.acted_of_act hstep)
    intro lock mode rest hprogram hne
    cases lock with
    | finalized => exact absurd rfl hne
    | active => exact hs.admits_active hprogram
  · obtain ⟨hguards, hfailed, -, hnone⟩ := step_start hstep fun t ht => hevent ⟨t, ht⟩
    rw [hnone, Option.toList_none, List.append_nil]
    exact hrecorded.congr hguards hfailed

/-- A step is one of the system without the locks, or none. -/
theorem step_restored (hs : Inv s) {event : LockEvent}
    (hstep : step overflowChecks s event = some s') :
    s'.data.restored = s.data.restored ∨
      ∃ e, s.data.restored.step overflowChecks e = some s'.data.restored := by
  by_cases hevent : ∃ t, event = .act t
  · obtain ⟨t, rfl⟩ := hevent
    cases Threads.acted_of_act hstep with
    | acquired => exact Or.inl rfl
    | failed => exact Or.inl rfl
    | released => exact Or.inl rfl
    | performed update rest data hprogram heffect =>
      have hrefines := StackData.perform_refines hs.data heffect
      cases hnamed : s.data.event? update with
      | none =>
        rw [hnamed] at hrefines
        exact Or.inl hrefines
      | some e =>
        rw [hnamed] at hrefines
        exact Or.inr ⟨e, hrefines⟩
  · obtain ⟨-, -, hsame, -⟩ := step_start hstep fun t ht => hevent ⟨t, ht⟩
    exact Or.inl hsame

/-- The invariant along every interleaving. -/
theorem run_inv {serviceName instanceName traceId traceSegmentId : String} {tracer : WeakTracer}
    {events : List LockEvent}
    (hrun : Execution.run (step overflowChecks)
      (init serviceName instanceName traceId traceSegmentId tracer) events = some s) :
    Inv s ∧ Recorded .finalized s (history overflowChecks
      (init serviceName instanceName traceId traceSegmentId tracer) events) := by
  have hinv : Execution.run (step overflowChecks)
      (init serviceName instanceName traceId traceSegmentId tracer) events = some s ∧ Inv s ∧
      Recorded .finalized s (history overflowChecks
        (init serviceName instanceName traceId traceSegmentId tracer) events) := by
    refine Execution.run_history (I := fun es t => Execution.run (step overflowChecks)
      (init serviceName instanceName traceId traceSegmentId tracer) es = some t ∧ Inv t ∧
      Recorded .finalized t (history overflowChecks
        (init serviceName instanceName traceId traceSegmentId tracer) es)) ?_ ?_ hrun
    · refine ⟨rfl, init_inv _ _ _ _ _, fun _ lock mode => rfl, ?_⟩
      exact iff_of_true rfl (compatible_nil _)
    · rintro es a b event ⟨hes, ha, hrecorded⟩ hstep
      refine ⟨Execution.run_concat_iff.2 ⟨a, hes, hstep⟩, ?_⟩
      unfold history at hrecorded ⊢
      rw [Execution.outputs_concat hes hstep]
      exact ⟨step_inv ha hstep, step_recorded ha hrecorded hstep⟩
  exact hinv.2

/-- With a popped span put back, every reachable state is one that the system without the locks
reaches, whatever attempts have failed. -/
theorem reachable_restored {serviceName instanceName traceId traceSegmentId : String}
    {tracer : WeakTracer}
    (hreach : Execution.Reachable (step overflowChecks)
      (init serviceName instanceName traceId traceSegmentId tracer) s) :
    Execution.Reachable (AsyncSystem.step overflowChecks)
      (AsyncSystem.init serviceName instanceName traceId traceSegmentId tracer)
      s.data.restored := by
  have hboth : Inv s ∧ Execution.Reachable (AsyncSystem.step overflowChecks)
      (AsyncSystem.init serviceName instanceName traceId traceSegmentId tracer)
      s.data.restored := by
    refine Execution.reachable_invariant (I := fun s => Inv s ∧
      Execution.Reachable (AsyncSystem.step overflowChecks)
        (AsyncSystem.init serviceName instanceName traceId traceSegmentId tracer)
        s.data.restored) ⟨init_inv _ _ _ _ _, [], rfl⟩ ?_ hreach
    rintro a b event ⟨ha, es, hes⟩ hstep
    refine ⟨step_inv ha hstep, ?_⟩
    rcases step_restored ha hstep with hsame | ⟨e, he⟩
    · exact ⟨es, hsame ▸ hes⟩
    · exact ⟨es ++ [e], Execution.run_concat_iff.2 ⟨_, hes, he⟩⟩
  exact hboth.2

/-- The next action of a drop that is not over and has not failed. -/
theorem DropAt.progress (hdata : s.data.Inv) (hdrop : DropAt s h)
    (hprogram : s.program (.asyncSpan h) ≠ []) :
    ∃ t, s.act (StackData.perform overflowChecks) (.asyncSpan h) = some t := by
  unfold Threads.act
  cases hdrop with
  | begun clock program handle ending =>
    rw [program]
    simp only [dropProgram, access, List.cons_append]
    split
    · exact ⟨_, rfl⟩
    · exact ⟨_, rfl⟩
  | locked clock program handle ending =>
    obtain ⟨d, hd, -⟩ := @StackData.perform_fill s.data overflowChecks h hdata handle clock
    simp only [program, hd, Option.map_some]
    exact ⟨_, rfl⟩
  | filled program filled ending =>
    rw [program]
    exact ⟨_, rfl⟩
  | released program filled ending =>
    have hmem : h ∈ s.data.system.ending := List.count_pos_iff.1 (by omega)
    obtain ⟨d, hd, -⟩ := @StackData.perform_done s.data overflowChecks h hdata hmem
    simp only [program, hd, Option.map_some]
    exact ⟨_, rfl⟩
  | finished program => exact absurd program hprogram
  | failed program => exact absurd program hprogram

/-- In every run of a live context, with any drops in any threads: no attempt at a lock has failed,
every drop that is over has filled its placeholder and is counted out, and every other drop can go
on, exactly when no access to the finalized vector began inside one that excludes it. -/
theorem drops_complete_iff {serviceName instanceName traceId traceSegmentId : String}
    {tracer : WeakTracer} {events : List LockEvent}
    (hrun : Execution.run (step overflowChecks)
      (init serviceName instanceName traceId traceSegmentId tracer) events = some s) :
    (s.failed = [] ∧ ∀ h ∈ s.data.dropped,
      (s.program (.asyncSpan h) = [] → s.data.system.Filled h ∧ h ∉ s.data.system.ending) ∧
      (s.program (.asyncSpan h) ≠ [] →
        ∃ t, s.act (StackData.perform overflowChecks) (.asyncSpan h) = some t)) ↔
    Compatible .finalized (history overflowChecks
      (init serviceName instanceName traceId traceSegmentId tracer) events) := by
  obtain ⟨hs, hrecorded⟩ := run_inv hrun
  rw [← hrecorded.failed]
  -- where no thread has failed, a drop that is over has taken all its steps
  refine and_iff_left_of_imp fun hnone h hh => ?_
  have hdrop := hs.drops h hh
  refine ⟨fun hover => ?_, hdrop.progress hs.data⟩
  cases hdrop with
  | finished program filled ending => exact ⟨filled, List.count_eq_zero.1 ending⟩
  | failed program failed =>
    rw [hnone] at failed
    cases failed
  | begun clock program => cases hover.symm.trans program
  | locked clock program => cases hover.symm.trans program
  | filled program => cases hover.symm.trans program
  | released program => cases hover.symm.trans program

/-- A drop that has failed is never made good: its span stays counted in, and `wait` does not
return. -/
theorem failed_drop_waits {serviceName instanceName traceId traceSegmentId : String}
    {tracer : WeakTracer}
    (hreach : Execution.Reachable (step overflowChecks)
      (init serviceName instanceName traceId traceSegmentId tracer) s)
    (hfailed : .asyncSpan h ∈ s.failed) :
    s.data.system.world.context.wg.mustWait = true := by
  obtain ⟨events, hrun⟩ := hreach
  obtain ⟨hs, -⟩ := run_inv hrun
  obtain ⟨-, -, hasync⟩ := hs.lost h hfailed
  have hinv := hs.data.restored
  obtain ⟨a, ha⟩ := World.isAsync_iff.1 (StackData.restored_isAsync.trans hasync)
  -- the span still has its placeholder
  obtain ⟨-, -, f, hf, -, hempty⟩ := hinv.sound.handle h _ ha
  have hunfilled : 0 < s.data.restored.world.context.spanStack.unfilled :=
    List.countP_pos_iff.2 ⟨f, hf, by rw [hempty]; rfl⟩
  -- and the placeholder is counted
  have hcount := hinv.count
  rw [(StackData.restored_world s.data).2.2.1] at hcount
  exact decide_eq_true (by omega)

/-- A clock that stands still. -/
def overlapClock : Clock := fun _ => 0

/-- A thread goes on for `n` actions. -/
def actions (t : StackThread) (n : Nat) : List LockEvent := List.replicate n (.act t)

/-- Two asynchronous spans of one context. -/
def twoSpans : List LockEvent :=
  .call ⟨overlapClock, .createEntrySpan "op1"⟩ :: actions .owner 5 ++
    .call ⟨overlapClock, .createLocalSpan "op2"⟩ :: actions .owner 5 ++
    .call ⟨overlapClock, .prepareForAsync 1⟩ :: actions .owner 9 ++
    .call ⟨overlapClock, .prepareForAsync 0⟩ :: actions .owner 9

/-- One is dropped after the other, each in a thread of its own. -/
def inTurns : List LockEvent :=
  twoSpans ++ [.drop overlapClock 1, .drop overlapClock 0] ++ actions (.asyncSpan 1) 3 ++
    actions (.asyncSpan 0) 4 ++ actions (.asyncSpan 1) 1

theorem drops_complete_iff_inTurns :
    ∃ s, Execution.run (step true) (init "s" "i" "t" "g" none) inTurns = some s ∧
      s.failed = [] ∧ s.data.system.Filled 0 := by
  have hrun : ∃ s, Execution.run (step true) (init "s" "i" "t" "g" none) inTurns = some s ∧
      decide (0 ∈ s.data.dropped ∧ (s.program (.asyncSpan 0)).isEmpty = true) = true :=
    (Option.any_eq_true _ _).1 (by decide +kernel)
  obtain ⟨s, hs, hend⟩ := hrun
  obtain ⟨hmem, hover⟩ := of_decide_eq_true hend
  have hcompatible : Compatible .finalized (history true (init "s" "i" "t" "g" none) inTurns) := by
    decide +kernel
  obtain ⟨hnone, hdrops⟩ := (drops_complete_iff hs).2 hcompatible
  exact ⟨s, hs, hnone, ((hdrops 0 hmem).1 (List.isEmpty_iff.1 hover)).1⟩

/-- The second drop comes while the first holds the lock. -/
def overlapping : List LockEvent :=
  twoSpans ++ [.drop overlapClock 1, .act (.asyncSpan 1), .drop overlapClock 0,
    .act (.asyncSpan 0)] ++ actions (.asyncSpan 1) 3

/-- The second drop has failed: its placeholder stays empty and its span is not counted out, so
`wait` goes on waiting. -/
theorem overlapping_drop_fails :
    ∃ s, Execution.run (step true) (init "s" "i" "t" "g" none) overlapping = some s ∧
      s.failed = [.asyncSpan 0] ∧ s.data.dropped = [0, 1] ∧
      (s.program (.asyncSpan 0)).isEmpty = true ∧ ¬ s.data.system.Filled 0 ∧
      s.data.system.world.context.wg.mustWait = true := by
  have hrun : ∃ s, Execution.run (step true) (init "s" "i" "t" "g" none) overlapping = some s ∧
      decide (s.failed = [.asyncSpan 0] ∧ s.data.dropped = [0, 1] ∧
        (s.program (.asyncSpan 0)).isEmpty = true ∧ ¬ s.data.system.Filled 0 ∧
        s.data.system.world.context.wg.mustWait = true) = true :=
    (Option.any_eq_true _ _).1 (by decide +kernel)
  obtain ⟨s, hs, hall⟩ := hrun
  exact ⟨s, hs, of_decide_eq_true hall⟩

end LockSystem

end SkywalkingAgent.Trace
