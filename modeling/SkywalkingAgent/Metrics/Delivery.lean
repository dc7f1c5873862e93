import SkywalkingAgent.Metrics.Schedule

/-!
# Which updates reach the reporter

An update is lost when its meter is no longer in the map, because a later one was registered under
its id, or when it comes too late for the last round, because the loop takes the shutdown message
without another one. `MeterSystem.updates_reflected_iff` says that, unless a panic cuts a round,
nothing else loses one.
-/

set_option autoImplicit false

namespace SkywalkingAgent.Metrics

open SkywalkingAgent.Lib SkywalkingAgent.Common

open MeterEvent

variable {F : Type}

/-! ## The loads of a run -/

section Loads

variable [AddCommGroup F] [LinearOrder F] {es : List (MeterEvent F)} {e : MeterEvent F}
  {service : Service} {s s' : MeterSystem F}

/-- The loads of the visits are the loads of the run. -/
structure Loaded (es : List (MeterEvent F)) : Prop where
  loads : ∀ visit ∈ (visits es).all, ∀ (k : Nat) (past : List (MeterEvent F)),
    visit.loads[k]? = some past → past <+: es ∧ es[past.length]? = some (.load visit.meter k)
  loaded : ∀ (n meter k : Nat), es[n]? = some (.load meter k) →
    ∃ visit ∈ (visits es).all, visit.meter = meter ∧ visit.loads[k]? = some (es.take n)

omit [AddCommGroup F] [LinearOrder F] in
/-- A step without a load, where only visits without loads come or go. -/
theorem Loaded.keep (h : Loaded es) (he : ∀ meter cell, e ≠ .load meter cell)
    (hnew : ∀ visit ∈ ((visits es).add e).all, visit.loads = [] ∨ visit ∈ (visits es).all)
    (hold : ∀ visit ∈ (visits es).all, visit.loads = [] ∨ visit ∈ ((visits es).add e).all) :
    Loaded (es ++ [e]) := by
  refine ⟨fun visit hvisit k past hpast => ?_, fun n meter k hload => ?_⟩
  · rw [visits_concat] at hvisit
    rcases hnew visit hvisit with hnone | hmem
    · rw [hnone] at hpast
      cases hpast
    · obtain ⟨hbefore, hget⟩ := h.loads visit hmem k past hpast
      refine ⟨hbefore.trans (List.prefix_append _ _), ?_⟩
      rw [List.getElem?_append_left (List.getElem?_eq_some_iff.1 hget).1]
      exact hget
  · have hlt : n < es.length := by
      rcases Nat.lt_or_ge n es.length with hlt | hge
      · exact hlt
      · rw [List.getElem?_append_right hge] at hload
        exact absurd (List.mem_singleton.1 (List.mem_of_getElem? hload)).symm (he meter k)
    rw [List.getElem?_append_left hlt] at hload
    rw [visits_concat, List.take_append_of_le_length hlt.le]
    obtain ⟨visit, hvisit, hmeter, hloads⟩ := h.loaded n meter k hload
    rcases hold visit hvisit with hnone | hmem
    · rw [hnone] at hloads
      cases hloads
    · exact ⟨visit, hmem, hmeter, hloads⟩

omit [AddCommGroup F] [LinearOrder F] in
/-- A load of the visit under way. -/
theorem Loaded.load (h : Loaded es) {meter : Nat} {loads : List (List (MeterEvent F))}
    (hcurrent : (visits es).current = some ⟨meter, loads⟩) :
    Loaded (es ++ [.load meter loads.length]) := by
  have hall : (visits es).all = (visits es).ended ++ [⟨meter, loads⟩] := by
    rw [Visits.all, hcurrent]
    rfl
  have hall' : (visits (es ++ [.load meter loads.length])).all =
      (visits es).ended ++ [⟨meter, loads ++ [es]⟩] := by
    rw [visits_concat]
    simp [Visits.all, Visits.add, hcurrent, visits_past]
  -- what was loaded stays where it is
  have hget : ∀ {past : List (MeterEvent F)} {k m : Nat},
      past <+: es ∧ es[past.length]? = some (.load m k) →
      past <+: es ++ [.load meter loads.length] ∧
        (es ++ [.load meter loads.length])[past.length]? = some (.load m k) := by
    rintro past k m ⟨hbefore, hget⟩
    refine ⟨hbefore.trans (List.prefix_append _ _), ?_⟩
    rw [List.getElem?_append_left (List.getElem?_eq_some_iff.1 hget).1]
    exact hget
  refine ⟨fun visit hvisit k past hpast => ?_, fun n m k hload => ?_⟩
  · rw [hall', List.mem_append, List.mem_singleton] at hvisit
    rcases hvisit with hmem | rfl
    · exact hget (h.loads visit (by rw [hall]; exact List.mem_append_left _ hmem) k past hpast)
    · rcases Nat.lt_trichotomy k loads.length with hlt | rfl | hgt
      · rw [List.getElem?_append_left hlt] at hpast
        have hold := h.loads ⟨meter, loads⟩ (by rw [hall]; simp) k past hpast
        exact hget hold
      · rw [List.getElem?_concat_length, Option.some.injEq] at hpast
        subst hpast
        exact ⟨List.prefix_append _ _, List.getElem?_concat_length⟩
      · rw [List.getElem?_eq_none (by simp; omega)] at hpast
        cases hpast
  · rw [hall']
    rcases Nat.lt_or_ge n es.length with hlt | hge
    · rw [List.getElem?_append_left hlt] at hload
      rw [List.take_append_of_le_length hlt.le]
      obtain ⟨visit, hvisit, hmeter, hloads⟩ := h.loaded n m k hload
      rw [hall, List.mem_append, List.mem_singleton] at hvisit
      rcases hvisit with hmem | rfl
      · exact ⟨visit, List.mem_append_left _ hmem, hmeter, hloads⟩
      · refine ⟨⟨meter, loads ++ [es]⟩, by simp, hmeter, ?_⟩
        rw [List.getElem?_append_left (List.getElem?_eq_some_iff.1 hloads).1]
        exact hloads
    · -- the load that has just happened
      have hn : n = es.length := by
        have hlen := (List.getElem?_eq_some_iff.1 hload).1
        rw [List.length_append, List.length_singleton] at hlen
        omega
      subst hn
      rw [List.getElem?_concat_length, Option.some.injEq, MeterEvent.load.injEq] at hload
      obtain ⟨rfl, rfl⟩ := hload
      refine ⟨⟨meter, loads ++ [es]⟩, by simp, rfl, ?_⟩
      rw [List.take_left]
      exact List.getElem?_concat_length

theorem Loaded.step (ht : Tracked service es s) (h : Loaded es) (hstep : s.step e = some s') :
    Loaded (es ++ [e]) := by
  have hsame : ∀ e : MeterEvent F, ((visits es).add e).all = (visits es).all →
      (∀ meter cell, e ≠ .load meter cell) → Loaded (es ++ [e]) := by
    intro e hall he
    refine h.keep he ?_ ?_
    · rw [hall]
      exact fun _ => Or.inr
    · rw [hall]
      exact fun _ => Or.inr
  cases MeterSystem.step_effect hstep with
  | next meter clock todo now hloop =>
    have hcurrent : (visits es).current = none := by
      have hvisiting := ht.visiting
      rwa [hloop] at hvisiting
    refine h.keep (by simp) ?_ ?_
    · intro visit hvisit
      rcases List.mem_append.1 hvisit with hmem | hnew
      · exact Or.inr (List.mem_append_left _ hmem)
      · obtain rfl := List.mem_singleton.1 hnew
        exact Or.inl rfl
    · intro visit hvisit
      rw [Visits.all, hcurrent, Option.toList_none, List.append_nil] at hvisit
      exact Or.inr (List.mem_append_left _ hvisit)
  | load meter cell todo clock progress next now hloop hfound hload =>
    obtain ⟨transform, loads, htransform, hcurrent, hreads, hholds⟩ := ht.visited hloop hfound
    obtain ⟨rfl, -⟩ := hreads.load hholds hload
    exact h.load hcurrent
  | getPanics todo meter clock gauge hloop hfound =>
    obtain ⟨transform, loads, htransform, hcurrent, hreads, hholds⟩ := ht.visited hloop hfound
    -- a gauge has no cell, so the visit that the panic ends has no load
    obtain rfl : loads = [] := by
      cases hreads
      rfl
    refine h.keep (by simp) ?_ ?_
    · intro visit hvisit
      exact Or.inr (List.mem_append_left _ (by simpa [Visits.all, Visits.add] using hvisit))
    · intro visit hvisit
      rw [Visits.all, hcurrent] at hvisit
      rcases List.mem_append.1 hvisit with hmem | hlast
      · exact Or.inr (List.mem_append_left _ hmem)
      · obtain rfl := List.mem_singleton.1 hlast
        exact Or.inl rfl
  | report panics => exact hsame _ (by simp [Visits.all, Visits.add]) (by simp)
  | _ => exact hsame _ rfl (by simp)

theorem run_loaded (hrun : MeterSystem.run (.new service) es = some s) : Loaded es := by
  have hboth : Tracked service es s ∧ Loaded es := by
    apply Execution.run_history (I := fun es s => Tracked service es s ∧ Loaded es) _ _ hrun
    · exact ⟨tracked_new service, fun _ h => (nomatch h), fun _ _ _ h => (nomatch h)⟩
    · intro es a b e ⟨ht, h⟩ hstep
      exact ⟨ht.step hstep, h.step ht hstep⟩
  exact hboth.2

end Loads

/-! ## The map -/

section Mapped

variable [AddCommGroup F] [LinearOrder F] {es : List (MeterEvent F)} {e : MeterEvent F}
  {service : Service} {s s' : MeterSystem F}

/-- The meter at the handle is the last one that was registered under the id. -/
def LastOf (meters : List (Meter F)) (id : MeterId) (handle : Nat) : Prop :=
  ∃ transform, meters[handle]? = some transform ∧ transform.meterId = id ∧
    ∀ later transform', handle < later → meters[later]? = some transform' →
      transform'.meterId ≠ id

/-- The meters that the round under way has still to visit. -/
def MeterSystem.todo (s : MeterSystem F) : List Nat :=
  match s.loop with
  | .reporting todo => todo
  | .transforming todo _ _ _ => todo
  | _ => []

/-- The map has the last meter of every id, and only its values are visited. -/
structure Mapped (es : List (MeterEvent F)) (s : MeterSystem F) : Prop where
  todo : ∀ meter ∈ s.todo, meter ∈ s.metricer.values
  visited : ∀ visit ∈ (visits es).all, visit.meter ∈ s.metricer.values
  last : ∀ entry ∈ s.metricer.meterMap, LastOf (registered es) entry.1 entry.2
  built : ∀ transform ∈ registered es, transform.isBuilt = true

omit [AddCommGroup F] [LinearOrder F] in
/-- One more registration leaves the meters of the other ids as they are. -/
theorem LastOf.concat {meters : List (Meter F)} {id : MeterId} {handle : Nat}
    (h : LastOf meters id handle) {transform : Meter F} (hne : id ≠ transform.meterId) :
    LastOf (meters ++ [transform]) id handle := by
  obtain ⟨own, hown, hid, hlater⟩ := h
  have hlt := (List.getElem?_eq_some_iff.1 hown).1
  refine ⟨own, (List.getElem?_append_left hlt).trans hown, hid, fun later t hlater' ht => ?_⟩
  rcases Nat.lt_or_ge later meters.length with hold | hnew
  · rw [List.getElem?_append_left hold] at ht
    exact hlater later t hlater' ht
  · rw [List.getElem?_append_right hnew] at ht
    obtain rfl := List.mem_singleton.1 (List.mem_of_getElem? ht)
    exact Ne.symm hne

omit [AddCommGroup F] [LinearOrder F] in
theorem lastOf_concat_self (meters : List (Meter F)) (transform : Meter F) :
    LastOf (meters ++ [transform]) transform.meterId meters.length := by
  refine ⟨transform, List.getElem?_concat_length, rfl, fun later t hlater ht => ?_⟩
  rw [List.getElem?_eq_none (by simp; omega)] at ht
  cases ht

omit [AddCommGroup F] in
/-- A step that registers nothing. -/
theorem Mapped.keep (h : Mapped es s) (he : registered [e] = [])
    (hmap : s'.metricer.meterMap = s.metricer.meterMap)
    (htodo : ∀ meter ∈ s'.todo, meter ∈ s.metricer.values)
    (hvisited : ∀ visit ∈ (visits (es ++ [e])).all, visit.meter ∈ s.metricer.values) :
    Mapped (es ++ [e]) s' := by
  have hregistered : registered (es ++ [e]) = registered es := registered_concat_of_none he
  have hvalues : s'.metricer.values = s.metricer.values := by
    rw [Metricer.values, hmap]
    rfl
  refine ⟨?_, ?_, ?_, ?_⟩
  · rw [hvalues]
    exact htodo
  · rw [hvalues]
    exact hvisited
  · rw [hmap, hregistered]
    exact h.last
  · rw [hregistered]
    exact h.built

theorem Mapped.register (ht : Tracked service es s) (h : Mapped es s) {transform : Meter F}
    (hloop : s.loop = .notBooted) (hbuilt : transform.isBuilt = true) :
    Mapped (es ++ [.register transform])
      { s with metricer := s.metricer.register transform } := by
  have hvisiting := ht.visiting
  rw [hloop] at hvisiting
  have hregistered : registered (es ++ [.register transform]) = registered es ++ [transform] :=
    registered_concat es _
  refine ⟨fun meter hmeter => ?_, fun visit hvisit => ?_, fun entry hentry => ?_, ?_⟩
  · rw [MeterSystem.todo, hloop] at hmeter
    cases hmeter
  · rw [visits_concat] at hvisit
    simp [Visits.all, Visits.add, hvisiting.1, hvisiting.2] at hvisit
  · rw [hregistered]
    rcases List.mem_append.1 hentry with hold | hnew
    · obtain ⟨hmem, hne⟩ := List.mem_filter.1 hold
      exact (h.last entry hmem).concat (of_decide_eq_true hne)
    · obtain rfl := List.mem_singleton.1 hnew
      rw [ht.updated.count]
      exact lastOf_concat_self _ transform
  · rw [hregistered]
    intro t hmem
    rcases List.mem_append.1 hmem with hold | hnew
    · exact h.built t hold
    · obtain rfl := List.mem_singleton.1 hnew
      exact hbuilt

theorem Mapped.step (ht : Tracked service es s) (h : Mapped es s) (hstep : s.step e = some s') :
    Mapped (es ++ [e]) s' := by
  have hold : ∀ {e : MeterEvent F}, ((visits es).add e).all = (visits es).all →
      ∀ visit ∈ (visits (es ++ [e])).all, visit.meter ∈ s.metricer.values := by
    intro e hall
    rw [visits_concat, hall]
    exact h.visited
  have htodo := h.todo
  cases MeterSystem.step_effect hstep with
  | register transform hloop hbuilt => exact h.register ht hloop hbuilt
  | setReportInterval => exact h.keep rfl rfl h.todo (hold rfl)
  | increment => exact h.keep rfl rfl h.todo (hold rfl)
  | addValue => exact h.keep rfl rfl h.todo (hold rfl)
  | bootPanics order hloop => exact h.keep rfl rfl (by simp [MeterSystem.todo]) (hold rfl)
  | boot order hloop hperm =>
    exact h.keep rfl rfl (fun meter hmeter => hperm.mem_iff.1 hmeter) (hold rfl)
  | next meter clock todo now hloop hfound =>
    -- the visit is to a meter of the round
    rw [MeterSystem.todo, hloop] at htodo
    refine h.keep rfl rfl (fun m hm => htodo m (List.mem_cons_of_mem _ hm)) ?_
    rw [visits_concat]
    intro visit hvisit
    rcases List.mem_append.1 hvisit with hmem | hnew
    · exact h.visited visit (List.mem_append_left _ hmem)
    · obtain rfl := List.mem_singleton.1 hnew
      exact htodo meter List.mem_cons_self
  | load meter cell todo clock progress next now hloop hfound hload =>
    obtain ⟨transform, loads, -, hcurrent, -⟩ := ht.visited hloop hfound
    rw [MeterSystem.todo, hloop] at htodo
    refine h.keep rfl rfl htodo ?_
    rw [visits_concat]
    intro visit hvisit
    simp only [Visits.all, Visits.add, hcurrent, Option.map_some, Option.toList_some] at hvisit
    rcases List.mem_append.1 hvisit with hmem | hnew
    · exact h.visited visit (List.mem_append_left _ hmem)
    · obtain rfl := List.mem_singleton.1 hnew
      exact h.visited ⟨meter, loads⟩ (List.mem_append_right _ (by simp [hcurrent]))
  | swap todo meter clock currentCount counter hloop =>
    rw [MeterSystem.todo, hloop] at htodo
    exact h.keep rfl rfl htodo (hold rfl)
  | get value todo meter clock gauge hloop =>
    rw [MeterSystem.todo, hloop] at htodo
    exact h.keep rfl rfl htodo (hold rfl)
  | getPanics todo meter clock gauge hloop =>
    refine h.keep rfl rfl (by simp [MeterSystem.todo]) ?_
    rw [visits_concat]
    intro visit hvisit
    exact h.visited visit (List.mem_append_left _ (by
      simpa [Visits.all, Visits.add] using hvisit))
  | report panics todo meter clock progress now data hloop =>
    rw [MeterSystem.todo, hloop] at htodo
    refine h.keep rfl rfl ?_ (hold (by simp [Visits.all, Visits.add]))
    cases panics with
    | true => simp [MeterSystem.todo]
    | false => exact htodo
  | finish => exact h.keep rfl rfl (by simp [MeterSystem.todo]) (hold rfl)
  | tick order hloop hperm =>
    exact h.keep rfl rfl (fun meter hmeter => hperm.mem_iff.1 hmeter) (hold rfl)
  | shutdown => exact h.keep rfl rfl h.todo (hold rfl)
  | drop => exact h.keep rfl rfl h.todo (hold rfl)
  | recv => exact h.keep rfl rfl (by simp [MeterSystem.todo]) (hold rfl)

theorem run_mapped (hrun : MeterSystem.run (.new service) es = some s) : Mapped es s := by
  have hboth : Tracked service es s ∧ Mapped es s := by
    apply Execution.run_history (I := fun es s => Tracked service es s ∧ Mapped es s) _ _ hrun
    · exact ⟨tracked_new service, nofun, nofun, nofun, nofun⟩
    · intro es a b e ⟨ht, h⟩ hstep
      exact ⟨ht.step hstep, h.step ht hstep⟩
  exact hboth.2

/-- The last meter of every id is in the map. -/
theorem run_last_mapped (hrun : MeterSystem.run (.new service) es = some s) (id : MeterId)
    (handle : Nat) (hlast : LastOf (registered es) id handle) :
    (id, handle) ∈ s.metricer.meterMap := by
  have hall : Tracked service es s ∧ ∀ id handle, LastOf (registered es) id handle →
      (id, handle) ∈ s.metricer.meterMap := by
    apply Execution.run_history (I := fun es s => Tracked service es s ∧
      ∀ id handle, LastOf (registered es) id handle → (id, handle) ∈ s.metricer.meterMap) _ _ hrun
    · exact ⟨tracked_new service, fun _ _ ⟨_, hfound, _⟩ => nomatch hfound⟩
    · rintro es a b e ⟨ht, hmapped⟩ hstep
      refine ⟨ht.step hstep, ?_⟩
      intro id handle hlast
      have hkeep (he : registered [e] = []) : (id, handle) ∈ a.metricer.meterMap := by
        rw [registered_concat_of_none he] at hlast
        exact hmapped id handle hlast
      cases MeterSystem.step_effect hstep with
      | register transform =>
        have hregistered : registered (es ++ [.register transform]) =
            registered es ++ [transform] := registered_concat es _
        rw [hregistered] at hlast
        obtain ⟨own, hown, hid, hlater⟩ := hlast
        rcases Nat.lt_or_ge handle (registered es).length with hlt | hge
        · -- the entry stays, since the new meter has another id
          have hne := hlater (registered es).length transform hlt List.getElem?_concat_length
          rw [List.getElem?_append_left hlt] at hown
          have hold : LastOf (registered es) id handle := by
            refine ⟨own, hown, hid, fun later t hlt' ht' => hlater later t hlt' ?_⟩
            exact (List.getElem?_append_left (List.getElem?_eq_some_iff.1 ht').1).trans ht'
          have hmem := hmapped id handle hold
          exact List.mem_append_left _ (List.mem_filter.2 ⟨hmem, decide_eq_true (Ne.symm hne)⟩)
        · have heq : handle = (registered es).length := by
            have hlen := (List.getElem?_eq_some_iff.1 hown).1
            rw [List.length_append, List.length_singleton] at hlen
            omega
          subst heq
          rw [List.getElem?_concat_length, Option.some.injEq] at hown
          subst hown hid
          rw [← ht.updated.count]
          exact List.mem_append_right _ (List.mem_singleton.2 rfl)
      | _ => exact hkeep rfl
  exact hall.2 id handle hlast

end Mapped

/-! ## Updates and reports -/

section Reflected

variable [LinearOrder F]

/-- An update through a handle, of a value that is not below every step. -/
def MeterEvent.IsUpdate (meters : List (Meter F)) : MeterEvent F → Prop
  | .increment _ _ => True
  | .addValue handle value => ∃ histogram, meters[handle]? = some (.histogram histogram) ∧
      ∃ bound ∈ histogram.bounds, bound ≤ value
  | _ => False

/-- The event with the number `i` is such an update, made before `shutdown` was called. -/
def BeforeShutdown (es : List (MeterEvent F)) (i : Nat) : Prop :=
  (∃ e, es[i]? = some e ∧ e.IsUpdate (registered es)) ∧ ∀ j < i, es[j]? ≠ some .shutdown

/-- The `j`-th report counts the update of the cell: the cell was loaded after it, and in `RATE`
mode no earlier report had loaded the cell after it. -/
def Counts (es : List (MeterEvent F)) (meter cell j i : Nat) : Prop :=
  ∃ visit past, (visits es).ended[j]? = some visit ∧ visit.meter = meter ∧
    visit.loads[cell]? = some past ∧ i < past.length ∧
    ∀ counter, (registered es)[meter]? = some (.counter counter) → counter.mode = .rate →
      ∀ earlier, lastLoad meter ((visits es).ended.take j) = some earlier → earlier.length ≤ i

/-- Some report counts the update. -/
def Reflected (es : List (MeterEvent F)) (i : Nat) : Prop :=
  ∃ e meter cell j, es[i]? = some e ∧ e.cell? (registered es) = some (meter, cell) ∧
    Counts es meter cell j i

/-- After the event `i`, and before the loop takes the shutdown message, a round ends that begins
after the event too, or has the cell still ahead when the event comes. -/
def RoundAfter [Add F] [Sub F] (service : Service) (es : List (MeterEvent F))
    (meter cell i : Nat) : Prop :=
  ∃ m, i < m ∧ es[m]? = some .finish ∧ (∀ j ≤ m, es[j]? ≠ some .recv) ∧
    ((∃ a, MeterSystem.run (.new service) (es.take i) = some a ∧ a.Ahead meter cell) ∨
      ∃ n e, i < n ∧ n < m ∧ es[n]? = some e ∧ e.startsRound = true)

/-- The meter of the update is the last one under its id, and a round comes for its cell. -/
def Covered [Add F] [Sub F] (service : Service) (es : List (MeterEvent F)) (i : Nat) : Prop :=
  ∀ e meter cell, es[i]? = some e → e.cell? (registered es) = some (meter, cell) →
    (∃ id, LastOf (registered es) id meter) ∧ RoundAfter service es meter cell i

variable {es : List (MeterEvent F)} {e : MeterEvent F} {meters : List (Meter F)}
  {meter cell : Nat}

/-- Every such update goes to a cell. -/
theorem MeterEvent.IsUpdate.exists_cell (h : e.IsUpdate meters)
    (hbuilt : ∀ transform ∈ meters, transform.isBuilt = true) :
    ∃ meter cell, e.cell? meters = some (meter, cell) := by
  cases e with
  | increment handle count => exact ⟨handle, 0, rfl⟩
  | addValue handle value =>
    obtain ⟨histogram, hfound, hbound⟩ := h
    have hsorted := of_decide_eq_true (hbuilt _ (List.mem_of_getElem? hfound))
    obtain ⟨k, hk⟩ := (Histogram.exists_owns_iff hsorted).2 hbound
    refine ⟨handle, k, ?_⟩
    simp [MeterEvent.cell?, hfound, (Histogram.findBucket_eq_some_iff hsorted).2 hk]
  | _ => cases h

/-- A counter has one cell. -/
theorem cell_of_counter {counter : Counter F} (hcell : e.cell? meters = some (meter, cell))
    (hmeter : meters[meter]? = some (.counter counter)) : cell = 0 := by
  cases e with
  | increment handle count => exact (Prod.mk.inj (Option.some.inj hcell)).2.symm
  | addValue handle value =>
    simp only [MeterEvent.cell?] at hcell
    split at hcell
    · next histogram hfound =>
      obtain ⟨k, -, hk⟩ := Option.map_eq_some_iff.1 hcell
      obtain ⟨rfl, -⟩ := Prod.mk.inj hk
      rw [hmeter] at hfound
      cases hfound
    · cases hcell
  | _ => cases hcell

omit [LinearOrder F] in
/-- The last load is a load of one of the visits. -/
theorem exists_of_lastLoad {past : List (Visit F)} {load : List (MeterEvent F)}
    (h : lastLoad meter past = some load) :
    ∃ visit ∈ past, visit.meter = meter ∧ visit.loads[0]? = some load := by
  obtain ⟨visit, hlast, hhead⟩ := Option.bind_eq_some_iff.1 h
  obtain ⟨hmem, hmeter⟩ := List.mem_filter.1 (List.mem_of_getLast? hlast)
  refine ⟨visit, hmem, of_decide_eq_true hmeter, ?_⟩
  rw [← List.head?_eq_getElem?]
  exact hhead

variable [AddCommGroup F] {service : Service} {s : MeterSystem F}

theorem current_of_isShutDown (ht : Tracked service es s) (h : s.isShutDown = true) :
    (visits es).current = none := by
  have hloop : s.loop = .returned := by
    unfold MeterSystem.isShutDown at h
    split at h
    · assumption
    · cases h
  have hvisiting := ht.visiting
  rwa [hloop] at hvisiting

omit [AddCommGroup F] in
/-- The first report whose load comes after the update counts it. -/
theorem exists_counts (hloaded : Loaded es) (hnone : (visits es).current = none) {i n : Nat}
    (hcell : e.cell? (registered es) = some (meter, cell)) (hlt : i < n)
    (hload : es[n]? = some (.load meter cell)) : ∃ j, Counts es meter cell j i := by
  obtain ⟨visit, hvisit, hmeter, hloads⟩ := hloaded.loaded n meter cell hload
  rw [Visits.all, hnone, Option.toList_none, List.append_nil] at hvisit
  have hexists : ∃ j : Nat, ∃ (visit : Visit F) (past : List (MeterEvent F)),
      (visits es).ended[j]? = some visit ∧ visit.meter = meter ∧
        visit.loads[cell]? = some past ∧ i < past.length := by
    obtain ⟨j, hj⟩ := List.mem_iff_getElem?.1 hvisit
    refine ⟨j, visit, _, hj, hmeter, hloads, ?_⟩
    rw [List.length_take]
    have hn := (List.getElem?_eq_some_iff.1 hload).1
    omega
  classical
  obtain ⟨visit, past, hj, hmeter, hloads, hlt⟩ := Nat.find_spec hexists
  refine ⟨Nat.find hexists, visit, past, hj, hmeter, hloads, hlt, ?_⟩
  intro counter hcounter _ earlier hearlier
  obtain rfl := cell_of_counter hcell hcounter
  obtain ⟨visit', hmem, hmeter', hload'⟩ := exists_of_lastLoad hearlier
  obtain ⟨j', hj'⟩ := List.mem_iff_getElem?.1 hmem
  rw [List.getElem?_take] at hj'
  split at hj'
  · next hbefore =>
    -- an earlier report with a load after the update would have been found
    by_contra hgt
    exact Nat.find_min hexists hbefore
      ⟨visit', earlier, hj', hmeter', hload', Nat.lt_of_not_le hgt⟩
  · cases hj'

/-- An update is reflected exactly when its meter is the last one under its id and a load of its
cell comes after it. -/
theorem reflected_iff_reloaded (hrun : MeterSystem.run (.new service) es = some s)
    (hdown : s.isShutDown = true) {i : Nat} (he : es[i]? = some e)
    (hcell : e.cell? (registered es) = some (meter, cell)) :
    Reflected es i ↔
      (∃ id, LastOf (registered es) id meter) ∧ ∃ n, i < n ∧ es[n]? = some (.load meter cell) := by
  have hloaded := run_loaded hrun
  have hmapped := run_mapped hrun
  constructor
  · rintro ⟨e', m, k, j, he', hcell', visit, past, hj, rfl, hpast, hlt, -⟩
    rw [he, Option.some.injEq] at he'
    subst he'
    rw [hcell, Option.some.injEq, Prod.mk.injEq] at hcell'
    obtain ⟨rfl, rfl⟩ := hcell'
    -- the meter was visited, so it is in the map
    have hvisit : visit ∈ (visits es).all :=
      List.mem_append_left _ (List.mem_of_getElem? hj)
    obtain ⟨entry, hentry, hvalue⟩ := List.mem_map.1 (hmapped.visited visit hvisit)
    rw [← hvalue]
    refine ⟨⟨entry.1, hmapped.last entry hentry⟩, past.length, hlt, ?_⟩
    rw [hvalue]
    exact (hloaded.loads visit hvisit cell past hpast).2
  · rintro ⟨-, n, hlt, hload⟩
    -- the task has returned between two visits, so every visit with a load was reported
    have hnone := current_of_isShutDown (run_tracked hrun) hdown
    obtain ⟨j, hcounts⟩ := exists_counts hloaded hnone hcell hlt hload
    exact ⟨e, meter, cell, j, he, hcell, hcounts⟩

/-- The meter that an update goes to has the cell. -/
theorem hasCell_of_cell {a b : MeterSystem F} {pre : List (MeterEvent F)}
    (hpre : MeterSystem.run (.new service) pre = some a) (hstart : pre <+: es)
    (hbuilt : ∀ transform ∈ registered es, transform.isBuilt = true) (hstep : a.step e = some b)
    (hcell : e.cell? (registered es) = some (meter, cell)) : a.HasCell meter cell := by
  cases MeterSystem.step_effect hstep with
  | increment handle count counter hfound =>
    obtain ⟨rfl, rfl⟩ := Prod.mk.inj (Option.some.inj hcell)
    exact ⟨_, hfound, rfl⟩
  | addValue handle value histogram hfound =>
    obtain ⟨transform, htransform, hholds⟩ :=
      (run_tracked hpre).updated.registered_of_found hfound
    cases hholds with
    | histogram original =>
      -- it was registered before the update
      have hregistered : (registered es)[handle]? = some (.histogram original) := by
        obtain ⟨more, rfl⟩ := hstart
        rw [registered, List.filterMap_append]
        exact (List.getElem?_append_left (List.getElem?_eq_some_iff.1 htransform).1).trans
          htransform
      have hsorted := of_decide_eq_true (hbuilt _ (List.mem_of_getElem? hregistered))
      simp only [MeterEvent.cell?, hregistered] at hcell
      obtain ⟨k, hk, hpair⟩ := Option.map_eq_some_iff.1 hcell
      obtain ⟨rfl, rfl⟩ := Prod.mk.inj hpair
      refine ⟨_, hfound, ?_⟩
      show k < (original.after handle pre).buckets.length
      rw [Histogram.length_after]
      exact Histogram.lt_of_findBucket_eq_some hsorted hk
  | _ => cases hcell

/-- Once the loop is booted the last meter of an id is in the map. -/
theorem mapped_of_booted (hrun : MeterSystem.run (.new service) es = some s) {k : Nat}
    {a : MeterSystem F} (ha : MeterSystem.run (.new service) (es.take k) = some a)
    (hbooted : a.loop ≠ .notBooted) {id : MeterId} (hlast : LastOf (registered es) id meter) :
    meter ∈ a.metricer.values := by
  rw [← List.take_append_drop k es] at hrun
  obtain ⟨a', ha', hrest⟩ := Execution.run_append_iff.1 hrun
  obtain rfl := Option.some.inj (ha.symm.trans ha')
  rw [List.take_append_drop] at hrun
  have hmem := run_last_mapped hrun id meter hlast
  rw [(MeterSystem.booted_run hbooted hrest).2] at hmem
  exact List.mem_map_of_mem hmem

/-- A cell that is due is loaded before the next round ends. -/
theorem exists_load_of_due (hrun : MeterSystem.run (.new service) es = some s) {k m : Nat}
    {a : MeterSystem F} (ha : MeterSystem.run (.new service) (es.take k) = some a)
    (hdue : a.Due meter cell) (hle : k ≤ m) (hfinish : es[m]? = some .finish) :
    ∃ n, k ≤ n ∧ es[n]? = some (.load meter cell) := by
  obtain ⟨c, d, hc, hstep, -⟩ := Execution.exists_step_at hrun hfinish
  have hloop : c.loop = .reporting [] := by
    cases MeterSystem.step_effect hstep with
    | finish hloop => exact hloop
  obtain ⟨n, hn⟩ := hdue.exists_load (Execution.run_between ha hc hle) hloop
  refine ⟨k + n, Nat.le_add_right k n, ?_⟩
  rw [List.getElem?_drop, List.getElem?_take] at hn
  split at hn
  · exact hn
  · cases hn

/-- Where a round comes for the cell of an update, the cell is loaded after the update. -/
theorem exists_load_of_roundAfter (hrun : MeterSystem.run (.new service) es = some s) {i : Nat}
    (he : es[i]? = some e) (hcell : e.cell? (registered es) = some (meter, cell)) {id : MeterId}
    (hlast : LastOf (registered es) id meter) (hround : RoundAfter service es meter cell i) :
    ∃ n, i < n ∧ es[n]? = some (.load meter cell) := by
  obtain ⟨a, b, ha, hstep, -⟩ := Execution.exists_step_at hrun he
  have hhas := hasCell_of_cell ha (List.take_prefix i es) (run_mapped hrun).built hstep hcell
  obtain ⟨m, hlt, hfinish, -, ⟨a', ha', hahead⟩ | ⟨n, e', hin, hnm, hn, hstarts⟩⟩ := hround
  · obtain rfl := Option.some.inj (ha.symm.trans ha')
    have hbooted : a.loop ≠ .notBooted := by
      intro hloop
      simp only [MeterSystem.Ahead, hloop] at hahead
    have hdue : a.Due meter cell :=
      ⟨hbooted, mapped_of_booted hrun ha hbooted hlast, hhas, fun _ => hahead⟩
    obtain ⟨n, hle, hn⟩ := exists_load_of_due hrun ha hdue hlt.le hfinish
    refine ⟨n, lt_of_le_of_ne hle ?_, hn⟩
    -- the event itself is no load
    rintro rfl
    rw [he, Option.some.injEq] at hn
    subst hn
    cases hcell
  · obtain ⟨c, d, hc, hstart, -⟩ := Execution.exists_step_at hrun hn
    have hd : MeterSystem.run (.new service) (es.take (n + 1)) = some d := by
      rw [List.take_add_one, hn]
      exact Execution.run_concat_iff.2 ⟨c, hc, hstart⟩
    have hbooted : d.loop ≠ .notBooted := MeterSystem.booted_of_starts hstart hstarts
    have hmapped := mapped_of_booted hrun hd hbooted hlast
    have hkept : d.HasCell meter cell :=
      Execution.run_invariant (I := fun x => x.HasCell meter cell) hhas
        (fun _ _ _ h hstep => h.step hstep) (Execution.run_between ha hd (by omega))
    have hdue : d.Due meter cell :=
      ⟨hbooted, hmapped, hkept, MeterSystem.ahead_of_starts hmapped hstart hstarts⟩
    obtain ⟨k, hle, hk⟩ := exists_load_of_due hrun hd hdue hnm hfinish
    exact ⟨k, by omega, hk⟩

/-- Where no panic cuts a round, a round has come for every cell that is loaded. -/
theorem roundAfter_of_load (hrun : MeterSystem.run (.new service) es = some s)
    (hdown : s.isShutDown = true) (hcalm : ∀ e ∈ es, e.panics = false) {i n : Nat}
    (he : es[i]? = some e) (hcell : e.cell? (registered es) = some (meter, cell)) (hlt : i < n)
    (hload : es[n]? = some (.load meter cell)) : RoundAfter service es meter cell i := by
  obtain ⟨a, b, ha, -, -⟩ := Execution.exists_step_at hrun he
  obtain ⟨c, d, hc, hstep, hrest⟩ := Execution.exists_step_at hrun hload
  have hfrom : c.Ahead meter cell ∧ d.isBusy = true := by
    cases MeterSystem.step_effect hstep with
    | load _ _ todo clock progress next transform hloop hfound hload =>
      refine ⟨?_, rfl⟩
      simp only [MeterSystem.Ahead, hloop]
      exact Or.inr ⟨trivial, Meter.awaits_of_load hload⟩
  have hidle : s.isBusy = false := by
    unfold MeterSystem.isShutDown at hdown
    split at hdown
    · next hloop => simp [MeterSystem.isBusy, hloop]
    · cases hdown
  obtain ⟨k, hk⟩ := MeterSystem.exists_finish hrest hfrom.2 hidle
    fun e' he' => hcalm e' (List.mem_of_mem_drop he')
  rw [List.getElem?_drop] at hk
  refine ⟨n + 1 + k, by omega, hk, fun j => MeterSystem.not_recv_of_finish hrun hk, ?_⟩
  rcases MeterSystem.ahead_or_starts (Execution.run_between ha hc hlt.le) hfrom.1 with
    hahead | ⟨j, e', hj, hstarts⟩
  · exact Or.inl ⟨a, ha, hahead⟩
  · rw [List.getElem?_drop, List.getElem?_take] at hj
    split at hj
    · next hjn =>
      refine Or.inr ⟨i + j, e', ?_, by omega, hj, hstarts⟩
      -- the update itself begins no round
      rcases Nat.eq_zero_or_pos j with rfl | hpos
      · rw [Nat.add_zero, he, Option.some.injEq] at hj
        subst hj
        cases e with
        | boot => cases hcell
        | tick => cases hcell
        | _ => cases hstarts
      · omega
    · cases hj

/-- In every run in which `shutdown` resolves to `Ok`, every report accounts for a visit of its
meter. All updates made before `shutdown` was called are counted by one of the reports if each of
them was to the last meter under its id and a round ends after it, before the loop takes the
shutdown message, that begins after it too or has its cell still ahead; and where no panic cuts a
round, only if. -/
theorem MeterSystem.updates_reflected_iff (hrun : MeterSystem.run (.new service) es = some s)
    (hdown : s.isShutDown = true) :
    Accounted service (registered es) (visits es).ended s.reported ∧
      ((∀ i, BeforeShutdown es i → Covered service es i) →
        ∀ i, BeforeShutdown es i → Reflected es i) ∧
      ((∀ e ∈ es, e.panics = false) →
        ((∀ i, BeforeShutdown es i → Reflected es i) ↔
          ∀ i, BeforeShutdown es i → Covered service es i)) := by
  have hmapped := run_mapped hrun
  have henough (hall : ∀ i, BeforeShutdown es i → Covered service es i) (i : Nat)
      (hi : BeforeShutdown es i) : Reflected es i := by
    have hcovered := hall i hi
    obtain ⟨⟨e, he, hupdate⟩, -⟩ := hi
    obtain ⟨meter, cell, hcell⟩ := hupdate.exists_cell hmapped.built
    obtain ⟨⟨id, hlast⟩, hround⟩ := hcovered e meter cell he hcell
    exact (reflected_iff_reloaded hrun hdown he hcell).2
      ⟨⟨id, hlast⟩, exists_load_of_roundAfter hrun he hcell hlast hround⟩
  refine ⟨(run_tracked hrun).accounted, henough, ?_⟩
  intro hcalm
  refine ⟨?_, henough⟩
  intro hall i hi e meter cell he hcell
  obtain ⟨hlast, n, hlt, hload⟩ := (reflected_iff_reloaded hrun hdown he hcell).1 (hall i hi)
  exact ⟨hlast, roundAfter_of_load hrun hdown hcalm he hcell hlt hload⟩

end Reflected

/-! ## Runs -/

namespace MeterSystem

/-- The service of the runs below. -/
def sampleService : Service := ⟨"service_name", "instance_name"⟩

/-- A clock that stands still. -/
def sampleClock : Clock := fun _ => 10

/-- A counter with a name only. -/
def sampleCounter : Counter Int := .new "instance_trace_count"

/-- One round over one counter. -/
def sampleRound (meter : Nat) : List (MeterEvent Int) :=
  [.next meter sampleClock, .load meter 0, .report false, .finish]

/-- An increment, and then the first round and the shutdown. -/
def earlyUpdate : List (MeterEvent Int) :=
  [.register (.counter sampleCounter), .increment 0 100, .boot [0]] ++ sampleRound 0 ++
    [.shutdown, .recv]

theorem updates_reflected_iff_early :
    ∃ s, run (new sampleService) earlyUpdate = some s ∧
      s.reported = [singleValue sampleService sampleClock sampleCounter.id 100] ∧
      ∀ i, BeforeShutdown earlyUpdate i → Reflected earlyUpdate i := by
  obtain ⟨s, hrun, hdown, hreported⟩ :
      ∃ s, run (new sampleService) earlyUpdate = some s ∧ s.isShutDown = true ∧
        s.reported = [singleValue sampleService sampleClock sampleCounter.id 100] :=
    ⟨_, rfl, rfl, rfl⟩
  refine ⟨s, hrun, hreported, (updates_reflected_iff hrun hdown).2.1 ?_⟩
  rintro i ⟨⟨e, he, hupdate⟩, -⟩ e' meter cell he' hcell
  -- the only update is the second event
  obtain rfl : i = 1 := by
    match i, he with
    | 1, _ => rfl
    | 0, he | 2, he | 3, he | 4, he | 5, he | 6, he | 7, he | 8, he =>
      obtain rfl := Option.some.inj he
      cases hupdate
    | n + 9, he => cases he
  obtain rfl := Option.some.inj he'
  obtain ⟨rfl, rfl⟩ := Prod.mk.inj (Option.some.inj hcell)
  refine ⟨⟨sampleCounter.id, lastOf_concat_self [] (.counter sampleCounter)⟩, 6, by decide, rfl,
    fun j => not_recv_of_finish hrun rfl, ?_⟩
  -- the first round begins with the boot
  exact Or.inr ⟨2, _, by decide, by decide, rfl, rfl⟩

/-- The increment comes after the first round, and the loop takes the shutdown message next. -/
def lateUpdate : List (MeterEvent Int) :=
  [.register (.counter sampleCounter), .boot [0]] ++ sampleRound 0 ++
    [.increment 0 100, .shutdown, .recv]

/-- The increment is to the first of two counters with one id. -/
def replacedMeter : List (MeterEvent Int) :=
  [.register (.counter sampleCounter), .register (.counter sampleCounter), .increment 0 100,
    .boot [1]] ++ sampleRound 1 ++ [.shutdown, .recv]

/-- Both runs shut down well, and report no more than a count of zero. -/
theorem shutdown_loses_updates :
    (∃ s, run (new sampleService) lateUpdate = some s ∧ s.isShutDown = true ∧
      s.reported = [singleValue sampleService sampleClock sampleCounter.id 0] ∧
      BeforeShutdown lateUpdate 6 ∧ ¬ Reflected lateUpdate 6) ∧
    ∃ s, run (new sampleService) replacedMeter = some s ∧ s.isShutDown = true ∧
      s.reported = [singleValue sampleService sampleClock sampleCounter.id 0] ∧
      BeforeShutdown replacedMeter 2 ∧ ¬ Reflected replacedMeter 2 := by
  constructor
  · obtain ⟨s, hrun, hdown, hreported⟩ :
        ∃ s, run (new sampleService) lateUpdate = some s ∧ s.isShutDown = true ∧
          s.reported = [singleValue sampleService sampleClock sampleCounter.id 0] :=
      ⟨_, rfl, rfl, rfl⟩
    have hbefore : BeforeShutdown lateUpdate 6 := by
      refine ⟨⟨_, rfl, trivial⟩, fun j hj => ?_⟩
      match j, hj with
      | 0, _ | 1, _ | 2, _ | 3, _ | 4, _ | 5, _ => exact nofun
    refine ⟨s, hrun, hdown, hreported, hbefore, fun hreflected => ?_⟩
    have hcell : (MeterEvent.increment 0 100 : MeterEvent Int).cell? (registered lateUpdate) =
        some (0, 0) := rfl
    -- only the shutdown comes after the update
    obtain ⟨-, n, hlt, hload⟩ := (reflected_iff_reloaded hrun hdown rfl hcell).1 hreflected
    obtain rfl | rfl | hge : n = 7 ∨ n = 8 ∨ 9 ≤ n := by omega
    · cases hload
    · cases hload
    · rw [List.getElem?_eq_none hge] at hload
      cases hload
  · obtain ⟨s, hrun, hdown, hreported⟩ :
        ∃ s, run (new sampleService) replacedMeter = some s ∧ s.isShutDown = true ∧
          s.reported = [singleValue sampleService sampleClock sampleCounter.id 0] :=
      ⟨_, rfl, rfl, rfl⟩
    have hbefore : BeforeShutdown replacedMeter 2 := by
      refine ⟨⟨_, rfl, trivial⟩, fun j hj => ?_⟩
      match j, hj with
      | 0, _ | 1, _ => exact nofun
    refine ⟨s, hrun, hdown, hreported, hbefore, fun hreflected => ?_⟩
    have hcell : (MeterEvent.increment 0 100 : MeterEvent Int).cell? (registered replacedMeter) =
        some (0, 0) := rfl
    -- the second counter has the same id
    obtain ⟨⟨id, transform, hfound, hid, hlater⟩, -⟩ :=
      (reflected_iff_reloaded hrun hdown rfl hcell).1 hreflected
    obtain rfl := Option.some.inj hfound
    exact hlater 1 _ Nat.zero_lt_one rfl hid

end MeterSystem

end SkywalkingAgent.Metrics
