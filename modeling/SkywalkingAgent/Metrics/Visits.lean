import SkywalkingAgent.Metrics.Metricer
import Mathlib.Algebra.BigOperators.Group.List.Basic

/-!
# Visits of the metricer to its meters

Every transform is a visit to a meter: it loads the cells of the meter, each after a part of the
events of the run. `Reads` says what a visit has read, in terms of the updates before its loads, and
`Holds` what the meter itself holds.
-/

set_option autoImplicit false

namespace SkywalkingAgent.Metrics

open SkywalkingAgent.Lib SkywalkingAgent.Common SkywalkingAgent.Proto

variable {F : Type}

/-! ## What the events say -/

/-- A transform of a meter, with the events before each of its loads. -/
structure Visit (F : Type) where
  meter : Nat
  loads : List (List (MeterEvent F))

/-- The visits of a run: those whose data was reported, and the one under way. -/
structure Visits (F : Type) where
  past : List (MeterEvent F)
  ended : List (Visit F)
  current : Option (Visit F)

namespace Visits

/-- The visits after one event more. -/
def add (visits : Visits F) (e : MeterEvent F) : Visits F :=
  let past := visits.past ++ [e]
  match e with
  | .next meter _ => { visits with past := past, current := some ⟨meter, []⟩ }
  | .load _ _ =>
      let load (visit : Visit F) : Visit F := { visit with loads := visit.loads ++ [visits.past] }
      { visits with past := past, current := visits.current.map load }
  | .report _ => ⟨past, visits.ended ++ visits.current.toList, none⟩
  | .getPanics => { visits with past := past, current := none }
  | _ => { visits with past := past }

/-- All visits so far. -/
def all (visits : Visits F) : List (Visit F) := visits.ended ++ visits.current.toList

end Visits

namespace MeterEvent

/-- The visits of the events of a run. -/
def visits (es : List (MeterEvent F)) : Visits F := es.foldl Visits.add ⟨[], [], none⟩

theorem visits_concat (es : List (MeterEvent F)) (e : MeterEvent F) :
    visits (es ++ [e]) = (visits es).add e := by
  simp [visits, List.foldl_append]

theorem visits_past (es : List (MeterEvent F)) : (visits es).past = es := by
  induction es using List.reverseRecOn with
  | nil => rfl
  | append_singleton es e ih =>
    rw [visits_concat]
    cases e <;> simp [Visits.add, ih]

/-- The meters as they were registered. -/
def registered (es : List (MeterEvent F)) : List (Meter F) :=
  es.filterMap fun
    | .register transform => some transform
    | _ => none

/-- The increments through a handle. -/
def increments (handle : Nat) (es : List (MeterEvent F)) : List F :=
  es.filterMap fun
    | .increment h count => if h = handle then some count else none
    | _ => none

/-- The values added through a handle. -/
def values (handle : Nat) (es : List (MeterEvent F)) : List F :=
  es.filterMap fun
    | .addValue h value => if h = handle then some value else none
    | _ => none

/-- The handle and the cell that an event updates. -/
def cell? [LinearOrder F] (meters : List (Meter F)) : MeterEvent F → Option (Nat × Nat)
  | .increment handle _ => some (handle, 0)
  | .addValue handle value =>
      match meters[handle]? with
      | some (.histogram histogram) => (histogram.findBucket value).map fun k => (handle, k)
      | _ => none
  | _ => none

theorem registered_concat (es : List (MeterEvent F)) (e : MeterEvent F) :
    registered (es ++ [e]) = registered es ++ registered [e] := by
  simp [registered]

theorem registered_concat_of_none {es : List (MeterEvent F)} {e : MeterEvent F}
    (he : registered [e] = []) : registered (es ++ [e]) = registered es := by
  rw [registered_concat, he, List.append_nil]

theorem increments_concat (handle : Nat) (es : List (MeterEvent F)) (e : MeterEvent F) :
    increments handle (es ++ [e]) = increments handle es ++ increments handle [e] := by
  simp [increments]

theorem values_concat (handle : Nat) (es : List (MeterEvent F)) (e : MeterEvent F) :
    values handle (es ++ [e]) = values handle es ++ values handle [e] := by
  simp [values]

end MeterEvent

open MeterEvent

/-! ## What a transform reads -/

/-- The events before the last load of a counter. -/
def lastLoad (meter : Nat) (visits : List (Visit F)) : Option (List (MeterEvent F)) :=
  (visits.filter fun visit => visit.meter = meter).getLast?.bind fun visit => visit.loads.head?

theorem lastLoad_concat_self (visits : List (Visit F)) (visit : Visit F) :
    lastLoad visit.meter (visits ++ [visit]) = visit.loads.head? := by
  simp [lastLoad, List.filter_append]

theorem lastLoad_concat_of_ne {meter : Nat} {visits : List (Visit F)} {visit : Visit F}
    (h : visit.meter ≠ meter) : lastLoad meter (visits ++ [visit]) = lastLoad meter visits := by
  simp [lastLoad, List.filter_append, h]

section Reads

variable [AddCommGroup F] [LinearOrder F]

/-- The count of a counter after the given events. -/
def Counter.after (self : Counter F) (meter : Nat) (past : List (MeterEvent F)) : F :=
  self.count + (increments meter past).sum

/-- What `previous_count` holds after the given visits to a `RATE` counter. -/
def Counter.previousAfter (self : Counter F) (meter : Nat) (visits : List (Visit F)) : F :=
  match lastLoad meter visits with
  | some past => self.after meter past
  | none => self.previousCount

/-- The histogram after the given events. -/
def Histogram.after (self : Histogram F) (meter : Nat) (past : List (MeterEvent F)) : Histogram F :=
  (values meter past).foldl Histogram.addValue self

/-- What a transform of the meter has read with the given loads, after the visits `earlier`. The
meter is given as it was registered. -/
inductive Reads (meter : Nat) (earlier : List (Visit F)) :
    Meter F → List (List (MeterEvent F)) → Progress F → Prop where
  | start (transform : Meter F) (begins : transform.begin = .start) :
      Reads meter earlier transform [] .start
  /-- An `INCREMENT` counter: all increments before the load. -/
  | increment (counter : Counter F) (mode : counter.mode = .increment)
      (past : List (MeterEvent F)) :
      Reads meter earlier (.counter counter) [past] (.value (counter.after meter past))
  | loaded (counter : Counter F) (mode : counter.mode = .rate) (past : List (MeterEvent F)) :
      Reads meter earlier (.counter counter) [past] (.loaded (counter.after meter past))
  /-- A `RATE` counter: the increments between the last load of an earlier visit and the load. -/
  | rate (counter : Counter F) (mode : counter.mode = .rate) (past : List (MeterEvent F)) :
      Reads meter earlier (.counter counter) [past]
        (.value (counter.after meter past - counter.previousAfter meter earlier))
  | gauge (gauge : Gauge) (value : F) : Reads meter earlier (.gauge gauge) [] (.value value)
  /-- Each bucket as it was before its load. -/
  | buckets (histogram : Histogram F) (loads : List (List (MeterEvent F)))
      (values : List (MeterBucketValue F)) (length : values.length = loads.length)
      (read : ∀ (k : Nat) (past : List (MeterEvent F)), loads[k]? = some past →
        values[k]? = ((histogram.after meter past).buckets[k]?).map Bucket.value) :
      Reads meter earlier (.histogram histogram) loads (.buckets values)

/-- The data is what the visit has read of its meter. -/
def Accounts (service : Service) (meters : List (Meter F)) (earlier : List (Visit F))
    (visit : Visit F) (data : MeterData F) : Prop :=
  ∃ transform clock progress, meters[visit.meter]? = some transform ∧
    Reads visit.meter earlier transform visit.loads progress ∧
    transform.data service clock progress = some data

end Reads

section Holds

variable [AddCommGroup F] [LinearOrder F]

/-- A meter as it is, against the meter as it was registered. -/
inductive Holds (meter : Nat) (past : List (MeterEvent F)) (visits : List (Visit F)) :
    Meter F → Meter F → Prop where
  | counter (counter : Counter F) (previousCount : F)
      (previous : counter.mode = .rate → previousCount = counter.previousAfter meter visits) :
      Holds meter past visits (.counter counter) (.counter { counter with
        count := counter.after meter past
        previousCount := previousCount })
  | gauge (gauge : Gauge) : Holds meter past visits (.gauge gauge) (.gauge gauge)
  | histogram (histogram : Histogram F) :
      Holds meter past visits (.histogram histogram) (.histogram (histogram.after meter past))

variable {meter : Nat} {past : List (MeterEvent F)} {visits visits' : List (Visit F)}
  {transform now : Meter F}

omit [LinearOrder F] in
/-- What comes between two loads is the difference of what they read. -/
theorem Counter.after_append (self : Counter F) (past more : List (MeterEvent F)) :
    self.after meter (past ++ more) = self.after meter past + (increments meter more).sum := by
  simp [Counter.after, increments, add_assoc]

omit [AddCommGroup F] in
theorem Histogram.after_concat (self : Histogram F) (e : MeterEvent F) :
    self.after meter (past ++ [e]) =
      (MeterEvent.values meter [e]).foldl Histogram.addValue (self.after meter past) := by
  simp [Histogram.after, values_concat]

omit [AddCommGroup F] in
theorem Histogram.after_id (self : Histogram F) : (self.after meter past).id = self.id := by
  unfold Histogram.after
  -- only the number of values matters, not which they are
  generalize MeterEvent.values meter past = added
  induction added using List.reverseRecOn with
  | nil => rfl
  | append_singleton added value ih =>
    rw [List.foldl_append, List.foldl_cons, List.foldl_nil, addValue_id, ih]

omit [AddCommGroup F] in
theorem Histogram.length_addValue (self : Histogram F) (value : F) :
    (self.addValue value).buckets.length = self.buckets.length := by
  unfold addValue
  split <;> simp

omit [AddCommGroup F] in
theorem Histogram.length_after (self : Histogram F) :
    (self.after meter past).buckets.length = self.buckets.length := by
  unfold Histogram.after
  generalize MeterEvent.values meter past = added
  induction added using List.reverseRecOn with
  | nil => rfl
  | append_singleton added value ih =>
    rw [List.foldl_append, List.foldl_cons, List.foldl_nil, length_addValue, ih]

/-- An event that does not update the meter. -/
theorem Holds.concat {e : MeterEvent F} (h : Holds meter past visits transform now)
    (hincrements : increments meter [e] = []) (hvalues : MeterEvent.values meter [e] = []) :
    Holds meter (past ++ [e]) visits transform now := by
  cases h with
  | counter counter previousCount previous =>
    have hafter : counter.after meter (past ++ [e]) = counter.after meter past := by
      simp [Counter.after_append, hincrements]
    rw [← hafter]
    exact .counter counter previousCount previous
  | gauge gauge => exact .gauge gauge
  | histogram histogram =>
    have hafter : histogram.after meter (past ++ [e]) = histogram.after meter past := by
      simp [Histogram.after_concat, hvalues]
    rw [← hafter]
    exact .histogram histogram

/-- Only a `RATE` counter remembers its visits. -/
theorem Holds.of_lastLoad (h : Holds meter past visits transform now)
    (hlast : ∀ counter, transform = .counter counter → counter.mode = .rate →
      lastLoad meter visits' = lastLoad meter visits) :
    Holds meter past visits' transform now := by
  cases h with
  | counter counter previousCount previous =>
    refine .counter counter previousCount fun hmode => ?_
    rw [previous hmode, Counter.previousAfter, Counter.previousAfter, hlast counter rfl hmode]
  | gauge gauge => exact .gauge gauge
  | histogram histogram => exact .histogram histogram

/-- The data of a transform does not depend on the cells any more. -/
theorem Holds.data (h : Holds meter past visits transform now) (service : Service) (clock : Clock)
    (progress : Progress F) :
    now.data service clock progress = transform.data service clock progress := by
  cases h with
  | counter counter => cases progress <;> rfl
  | gauge gauge => rfl
  | histogram histogram =>
    cases progress with
    | buckets values => simp only [Meter.data, Histogram.after_id, Histogram.length_after]
    | _ => rfl

variable {earlier : List (Visit F)} {loads : List (List (MeterEvent F))}
  {progress next : Progress F} {cell : Nat}

/-- A load reads the cell as the events so far have made it. -/
theorem Reads.load (h : Reads meter earlier transform loads progress)
    (hholds : Holds meter past visits transform now) (hload : now.load cell progress = some next) :
    cell = loads.length ∧ Reads meter earlier transform (loads ++ [past]) next := by
  cases h with
  | start _ hbegin =>
    -- a counter has one cell, and its mode says what the load is for
    cases hholds with
    | counter counter previousCount =>
      simp only [Meter.load] at hload
      split at hload
      · next hcell =>
        refine ⟨hcell, ?_⟩
        split at hload
        · next hmode =>
          obtain rfl := Option.some.inj hload
          exact .increment counter hmode past
        · next hmode =>
          obtain rfl := Option.some.inj hload
          exact .loaded counter hmode past
      · cases hload
    | gauge gauge => cases hload
    | histogram histogram => cases hbegin
  | increment => cases hholds; cases hload
  | loaded => cases hholds; cases hload
  | rate => cases hholds; cases hload
  | gauge => cases hholds; cases hload
  | buckets histogram _ values hlength hread =>
    -- a histogram has a cell for each bucket, loaded from the first on
    cases hholds
    simp only [Meter.load] at hload
    split at hload
    · next hcell =>
      obtain ⟨bucket, hbucket, rfl⟩ := Option.map_eq_some_iff.1 hload
      refine ⟨hcell.trans hlength, .buckets histogram _ _ (by simp [hlength]) ?_⟩
      -- the earlier loads keep their buckets, and the new one reads the next
      intro k earlierPast hk
      rcases Nat.lt_trichotomy k loads.length with hlt | rfl | hgt
      · rw [List.getElem?_append_left hlt] at hk
        rw [List.getElem?_append_left (by omega)]
        exact hread k earlierPast hk
      · rw [List.getElem?_concat_length, Option.some.injEq] at hk
        subst hk
        rw [← hlength, List.getElem?_concat_length, ← hcell, hbucket]
        rfl
      · rw [List.getElem?_eq_none (by simp; omega)] at hk
        cases hk
    · cases hload

/-- A swap remembers the load for the next visit. -/
theorem Reads.swap {currentCount : F} {counter : Counter F}
    (h : Reads meter earlier transform loads (.loaded currentCount))
    (hholds : Holds meter past earlier transform (.counter counter)) :
    Reads meter earlier transform loads (.value (currentCount - counter.previousCount)) ∧
      Holds meter past (earlier ++ [⟨meter, loads⟩]) transform
        (.counter { counter with previousCount := currentCount }) := by
  cases h with
  | loaded counter hmode loaded =>
    cases hholds with
    | counter _ previousCount hprevious =>
      obtain rfl := hprevious hmode
      -- `previous_count` is the load of the last visit, and now that of this one
      refine ⟨.rate counter hmode loaded, .counter counter _ fun _ => ?_⟩
      have hlast := lastLoad_concat_self earlier ⟨meter, [loaded]⟩
      rw [Counter.previousAfter, hlast]
      rfl

end Holds

end SkywalkingAgent.Metrics
