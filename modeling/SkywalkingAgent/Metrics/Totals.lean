import SkywalkingAgent.Metrics.Delivery
import Mathlib.Algebra.Order.BigOperators.Group.List
import Mathlib.Algebra.Order.Group.Int

/-!
# What the reports of a meter add up to

The visits of one loop load their cells one after the other (`visits_ordered`), so what a later
report has read includes what an earlier one has read. The reports of a `RATE` counter therefore add
up to the increments before its last load, none counted twice (`MeterSystem.rate_reports_add_up`),
and those of an `INCREMENT` counter and of a histogram never fall (`MeterSystem.reports_grow`),
whatever other threads do between the loads.
-/

set_option autoImplicit false

namespace SkywalkingAgent.Metrics

open SkywalkingAgent.Lib SkywalkingAgent.Common SkywalkingAgent.Proto

open MeterEvent

variable {F : Type}

/-! ## The order of the loads -/

/-- The loads of the visits, in the order of the visits. -/
def Visits.loads (visits : Visits F) : List (List (MeterEvent F)) :=
  visits.all.flatMap fun visit => visit.loads

/-- Each load comes after the ones before it. -/
structure Visits.Ordered (visits : Visits F) : Prop where
  pairwise : visits.loads.Pairwise (· <+: ·)
  past : ∀ load ∈ visits.loads, load <+: visits.past

/-- Loads that are not new, in a run that has gone on. -/
theorem Visits.Ordered.of_sublist {visits visits' : Visits F} (h : visits.Ordered)
    (hsub : visits'.loads.Sublist visits.loads) (hpast : visits.past <+: visits'.past) :
    visits'.Ordered := by
  refine ⟨h.pairwise.sublist hsub, ?_⟩
  intro load hload
  exact (h.past load (hsub.subset hload)).trans hpast

theorem Visits.Ordered.add {visits : Visits F} (h : visits.Ordered) (e : MeterEvent F) :
    (visits.add e).Ordered := by
  have hpast : visits.past <+: visits.past ++ [e] := List.prefix_append _ _
  have hsame : ∀ {visits' : Visits F}, visits'.loads = visits.loads →
      visits'.past = visits.past ++ [e] → visits'.Ordered := by
    intro visits' hloads hpast'
    refine h.of_sublist (hloads ▸ List.Sublist.refl _) ?_
    rw [hpast']
    exact hpast
  cases e with
  | load meter cell =>
    cases hcurrent : visits.current with
    | none => exact hsame (by simp [Visits.add, Visits.loads, Visits.all, hcurrent]) rfl
    | some visit =>
      have hloads : (visits.add (.load meter cell)).loads = visits.loads ++ [visits.past] := by
        simp [Visits.add, Visits.loads, Visits.all, hcurrent]
      refine ⟨?_, ?_⟩
      · rw [hloads, List.pairwise_append]
        refine ⟨h.pairwise, List.pairwise_singleton _ _, ?_⟩
        intro load hload last hlast
        rw [List.mem_singleton.1 hlast]
        exact h.past load hload
      · intro load hload
        rw [hloads, List.mem_append, List.mem_singleton] at hload
        rcases hload with hold | rfl
        · exact (h.past load hold).trans hpast
        · exact hpast
  | next meter clock =>
    refine h.of_sublist ?_ hpast
    simp [Visits.add, Visits.loads, Visits.all]
  | report panics =>
    exact hsame (by simp [Visits.add, Visits.loads, Visits.all]) rfl
  | getPanics =>
    refine h.of_sublist ?_ hpast
    simp [Visits.add, Visits.loads, Visits.all]
  | _ => exact hsame rfl rfl

theorem visits_ordered (es : List (MeterEvent F)) : (visits es).Ordered := by
  induction es using List.reverseRecOn with
  | nil => exact ⟨List.Pairwise.nil, fun load hload => by cases hload⟩
  | append_singleton es e ih =>
    rw [visits_concat]
    exact ih.add e

/-- The loads of an earlier visit come before those of a later one. -/
theorem loads_ordered (es : List (MeterEvent F)) :
    (visits es).ended.Pairwise fun earlier later =>
      ∀ x ∈ earlier.loads, ∀ y ∈ later.loads, x <+: y := by
  have hall := (List.pairwise_flatMap.1 (visits_ordered es).pairwise).2
  exact (List.pairwise_append.1 hall).1

/-! ## The reports of a meter -/

/-- The reports of the visits to a meter. -/
def reportsOf (meter : Nat) (visits : List (Visit F)) (reported : List (MeterData F)) :
    List (MeterData F) :=
  (visits.zip reported).filterMap fun report =>
    if report.1.meter = meter then some report.2 else none

/-- The value in the report of a counter or a gauge. -/
def valueOf (data : MeterData F) : Option F :=
  match data.metric with
  | some (.singleValue value) => some value.value
  | _ => none

/-- The buckets in the report of a histogram. -/
def bucketsOf (data : MeterData F) : List (MeterBucketValue F) :=
  match data.metric with
  | some (.histogram histogram) => histogram.values
  | _ => []

theorem reportsOf_concat (meter : Nat) {visits : List (Visit F)} {reported : List (MeterData F)}
    (hlength : visits.length = reported.length) (visit : Visit F) (data : MeterData F) :
    reportsOf meter (visits ++ [visit]) (reported ++ [data]) =
      reportsOf meter visits reported ++ if visit.meter = meter then [data] else [] := by
  rw [reportsOf, List.zip_append hlength, List.filterMap_append]
  congr 1
  by_cases hmeter : visit.meter = meter
  · simp [hmeter]
  · simp [hmeter]

section Accounts

variable [AddCommGroup F] [LinearOrder F] {service : Service} {meters : List (Meter F)}
  {earlier visits : List (Visit F)} {visit : Visit F} {data : MeterData F} {meter : Nat}
  {counter : Counter F} {self : Histogram F}

theorem Accounts.rate (h : Accounts service meters earlier visit data)
    (hmeter : meters[visit.meter]? = some (.counter counter)) (hmode : counter.mode = .rate) :
    ∃ past, visit.loads = [past] ∧
      valueOf data =
        some (counter.after visit.meter past - counter.previousAfter visit.meter earlier) := by
  obtain ⟨transform, clock, progress, hfound, hreads, hdata⟩ := h
  obtain rfl := Option.some.inj (hmeter.symm.trans hfound)
  generalize hloads : visit.loads = loads at hreads
  cases hreads with
  | start _ _ => cases hdata
  | increment _ hincrement past =>
    rw [hmode] at hincrement
    cases hincrement
  | loaded _ _ past => cases hdata
  | rate _ _ past =>
    obtain rfl := Option.some.inj hdata
    exact ⟨past, rfl, rfl⟩

theorem Accounts.increment (h : Accounts service meters earlier visit data)
    (hmeter : meters[visit.meter]? = some (.counter counter))
    (hmode : counter.mode = .increment) :
    ∃ past, visit.loads = [past] ∧ valueOf data = some (counter.after visit.meter past) := by
  obtain ⟨transform, clock, progress, hfound, hreads, hdata⟩ := h
  obtain rfl := Option.some.inj (hmeter.symm.trans hfound)
  generalize hloads : visit.loads = loads at hreads
  cases hreads with
  | start _ _ => cases hdata
  | increment _ _ past =>
    obtain rfl := Option.some.inj hdata
    exact ⟨past, rfl, rfl⟩
  | loaded _ hrate past => cases hdata
  | rate _ hrate past =>
    rw [hmode] at hrate
    cases hrate

theorem Accounts.buckets (h : Accounts service meters earlier visit data)
    (hmeter : meters[visit.meter]? = some (.histogram self)) :
    (bucketsOf data).length = self.buckets.length ∧
      (bucketsOf data).length = visit.loads.length ∧
      ∀ (k : Nat) (past : List (MeterEvent F)), visit.loads[k]? = some past →
        (bucketsOf data)[k]? =
          ((self.after visit.meter past).buckets[k]?).map Bucket.value := by
  obtain ⟨transform, clock, progress, hfound, hreads, hdata⟩ := h
  obtain rfl := Option.some.inj (hmeter.symm.trans hfound)
  generalize hloads : visit.loads = loads at hreads
  cases hreads with
  | start _ _ => cases hdata
  | buckets _ _ values hlength hread =>
    simp only [Meter.data, Option.ite_none_right_eq_some, Option.some.injEq] at hdata
    obtain ⟨hall, rfl⟩ := hdata
    exact ⟨hall, hlength, hread⟩

/-- The last visit with its report. -/
theorem Accounted.exists_concat {reported : List (MeterData F)}
    (h : Accounted service meters (visits ++ [visit]) reported) :
    ∃ before data, reported = before ++ [data] ∧ Accounted service meters visits before ∧
      Accounts service meters visits visit data := by
  have hlength := h.length
  rw [List.length_append, List.length_singleton] at hlength
  obtain rfl | ⟨before, data, rfl⟩ := List.eq_nil_or_concat' reported
  · cases hlength
  · rw [List.length_append, List.length_singleton] at hlength
    have hbefore : before.length = visits.length := by omega
    refine ⟨before, data, rfl, ⟨hbefore, ?_⟩, ?_⟩
    · intro j datum other hdatum hother
      have hj : j < before.length := (List.getElem?_eq_some_iff.1 hdatum).1
      have haccounts := h.accounts j datum other (by rwa [List.getElem?_append_left hj])
        (by rwa [List.getElem?_append_left (hbefore ▸ hj)])
      rwa [List.take_append_of_le_length (hbefore ▸ hj.le)] at haccounts
    · have haccounts := h.accounts before.length data visit (by simp) (by simp [hbefore])
      rwa [hbefore, List.take_left] at haccounts

/-- The reports of a `RATE` counter add up to what its last load has read. -/
theorem Accounted.sum_rate {reported : List (MeterData F)}
    (h : Accounted service meters visits reported)
    (hmeter : meters[meter]? = some (.counter counter)) (hmode : counter.mode = .rate) :
    ((reportsOf meter visits reported).filterMap valueOf).sum =
      counter.previousAfter meter visits - counter.previousCount := by
  induction visits using List.reverseRecOn generalizing reported with
  | nil => simp [reportsOf, Counter.previousAfter, lastLoad]
  | append_singleton visits visit ih =>
    obtain ⟨before, data, rfl, hbefore, haccounts⟩ := h.exists_concat
    rw [reportsOf_concat meter hbefore.length.symm, List.filterMap_append, List.sum_append,
      ih hbefore]
    by_cases hvisit : visit.meter = meter
    · -- the report is the difference to the last load before it
      subst hvisit
      obtain ⟨past, hloads, hvalue⟩ := haccounts.rate hmeter hmode
      have hprevious : counter.previousAfter visit.meter (visits ++ [visit]) =
          counter.after visit.meter past := by
        simp [Counter.previousAfter, lastLoad_concat_self, hloads]
      have hone : ([data].filterMap valueOf).sum =
          counter.after visit.meter past - counter.previousAfter visit.meter visits := by
        simp [hvalue]
      rw [if_pos rfl, hone, hprevious, sub_add_sub_cancel']
    · have hprevious : counter.previousAfter meter (visits ++ [visit]) =
          counter.previousAfter meter visits := by
        rw [Counter.previousAfter, lastLoad_concat_of_ne hvisit, Counter.previousAfter]
      rw [if_neg hvisit, hprevious, List.filterMap_nil, List.sum_nil, add_zero]

theorem Accounted.of_mem {reported : List (MeterData F)}
    (h : Accounted service meters visits reported)
    (hdata : data ∈ reportsOf meter visits reported) :
    ∃ visit ∈ visits, visit.meter = meter ∧
      ∃ earlier, Accounts service meters earlier visit data := by
  induction visits using List.reverseRecOn generalizing reported with
  | nil => cases hdata
  | append_singleton visits visit ih =>
    obtain ⟨before, last, rfl, hbefore, haccounts⟩ := h.exists_concat
    rw [reportsOf_concat meter hbefore.length.symm, List.mem_append] at hdata
    rcases hdata with hold | hnew
    · obtain ⟨other, hother, hrest⟩ := ih hbefore hold
      exact ⟨other, List.mem_append_left _ hother, hrest⟩
    · split at hnew
      · next hmeter =>
        rw [List.mem_singleton] at hnew
        subst hnew
        exact ⟨visit, List.mem_append_right _ (List.mem_singleton_self _), hmeter, _, haccounts⟩
      · cases hnew

/-- Every visit to a `RATE` counter that has ended has loaded its count. -/
theorem Accounted.lastLoad_ne_none {reported : List (MeterData F)}
    (h : Accounted service meters visits reported)
    (hmeter : meters[meter]? = some (.counter counter)) (hmode : counter.mode = .rate)
    (hvisit : visit ∈ visits) (hvmeter : visit.meter = meter) : lastLoad meter visits ≠ none := by
  induction visits using List.reverseRecOn generalizing reported with
  | nil => cases hvisit
  | append_singleton visits last ih =>
    obtain ⟨before, data, -, hbefore, haccounts⟩ := h.exists_concat
    by_cases hlast : last.meter = meter
    · subst hlast
      obtain ⟨past, hloads, -⟩ := haccounts.rate hmeter hmode
      rw [lastLoad_concat_self, hloads]
      simp
    · rw [lastLoad_concat_of_ne hlast]
      rw [List.mem_append, List.mem_singleton] at hvisit
      rcases hvisit with hold | rfl
      · exact ih hbefore hold
      · exact absurd hvmeter hlast

/-- What holds of two visits to a meter holds of their reports. -/
theorem Accounted.pairwise {reported : List (MeterData F)} {P : Visit F → Visit F → Prop}
    {R : MeterData F → MeterData F → Prop} (h : Accounted service meters visits reported)
    (hP : visits.Pairwise P)
    (hR : ∀ v v' data data' earlier earlier', v ∈ visits → v' ∈ visits → P v v' →
      v.meter = meter → v'.meter = meter → Accounts service meters earlier v data →
      Accounts service meters earlier' v' data' → R data data') :
    (reportsOf meter visits reported).Pairwise R := by
  induction visits using List.reverseRecOn generalizing reported with
  | nil => exact List.Pairwise.nil
  | append_singleton visits visit ih =>
    obtain ⟨before, last, rfl, hbefore, haccounts⟩ := h.exists_concat
    obtain ⟨hvisits, -, hlast⟩ := List.pairwise_append.1 hP
    have hlater : visit ∈ visits ++ [visit] :=
      List.mem_append_right _ (List.mem_singleton_self _)
    rw [reportsOf_concat meter hbefore.length.symm, List.pairwise_append]
    refine ⟨?_, ?_, ?_⟩
    · apply ih hbefore hvisits
      intro v v' data data' earlier earlier' hv hv'
      exact hR v v' data data' earlier earlier' (List.mem_append_left _ hv)
        (List.mem_append_left _ hv')
    · split
      · exact List.pairwise_singleton _ _
      · exact List.Pairwise.nil
    · intro data hdata data' hdata'
      split at hdata'
      · next hmeter =>
        rw [List.mem_singleton] at hdata'
        subst hdata'
        obtain ⟨v, hv, hvmeter, earlier, hvaccounts⟩ := hbefore.of_mem hdata
        exact hR v visit data data' earlier visits (List.mem_append_left _ hv) hlater
          (hlast v hv visit (List.mem_singleton_self _)) hvmeter hmeter hvaccounts haccounts
      · cases hdata'

end Accounts

/-! ## Growing histograms -/

section Histogram

variable [LinearOrder F] {self : Histogram F} {k : Nat} {bucket : Bucket F}

/-- A bucket that has counted more, by `n` at most. -/
structure Bucket.Grown (n : Nat) (before after : Bucket F) : Prop where
  bucket : after.bucket = before.bucket
  le : before.count ≤ after.count
  bound : after.count ≤ before.count + n

/-- One more value, where no count wraps. -/
theorem Histogram.addValue_grown (value : F) (hbucket : self.buckets[k]? = some bucket)
    (hroom : 0 ≤ bucket.count ∧ bucket.count + 1 < 2 ^ 63) :
    ∃ after, (self.addValue value).buckets[k]? = some after ∧ bucket.Grown 1 after := by
  have hsame : bucket.Grown 1 bucket := ⟨rfl, le_refl _, by omega⟩
  unfold Histogram.addValue
  split
  · next index hfind =>
    simp only [List.getElem?_modify, hbucket]
    by_cases hindex : index = k
    · have hcount : bucket.fetchAdd.count = bucket.count + 1 :=
        wrapI64_of_lt (by omega) hroom.2
      refine ⟨bucket.fetchAdd, by simp [hindex], rfl, ?_, ?_⟩
      · omega
      · omega
    · exact ⟨bucket, by simp [hindex], hsame⟩
  · exact ⟨bucket, hbucket, hsame⟩

theorem Histogram.foldl_grown (values : List F) (hbucket : self.buckets[k]? = some bucket)
    (hroom : 0 ≤ bucket.count ∧ bucket.count + values.length < 2 ^ 63) :
    ∃ after, (values.foldl addValue self).buckets[k]? = some after ∧
      bucket.Grown values.length after := by
  induction values generalizing self bucket with
  | nil => exact ⟨bucket, hbucket, rfl, le_refl _, by simp⟩
  | cons value values ih =>
    rw [List.length_cons] at hroom
    obtain ⟨next, hnext, hgrown⟩ := addValue_grown value hbucket (by omega)
    have hle := hgrown.le
    have hbound := hgrown.bound
    obtain ⟨after, hafter, hrest⟩ := ih hnext (by omega)
    refine ⟨after, hafter, hrest.bucket.trans hgrown.bucket, hle.trans hrest.le, ?_⟩
    have hlast := hrest.bound
    rw [List.length_cons]
    omega

omit [LinearOrder F] in
theorem values_append (meter : Nat) (past more : List (MeterEvent F)) :
    MeterEvent.values meter (past ++ more) =
      MeterEvent.values meter past ++ MeterEvent.values meter more :=
  List.filterMap_append

theorem Histogram.after_append (self : Histogram F) (meter : Nat)
    (past more : List (MeterEvent F)) : self.after meter (past ++ more) =
      (MeterEvent.values meter more).foldl addValue (self.after meter past) := by
  rw [Histogram.after, values_append, List.foldl_append]
  rfl

/-- A bucket that is read twice. -/
theorem Histogram.after_le (self : Histogram F) {meter : Nat} {es past later : List (MeterEvent F)}
    (hroom : ∀ bucket ∈ self.buckets,
      0 ≤ bucket.count ∧ bucket.count + (MeterEvent.values meter es).length < 2 ^ 63)
    (hpast : past <+: later) (hlater : later <+: es) {x y : Bucket F}
    (hx : (self.after meter past).buckets[k]? = some x)
    (hy : (self.after meter later).buckets[k]? = some y) :
    x.bucket = y.bucket ∧ x.count ≤ y.count := by
  obtain ⟨more, rfl⟩ := hpast
  obtain ⟨rest, rfl⟩ := hlater
  have hk : k < self.buckets.length := by
    have hlength : k < (self.after meter past).buckets.length :=
      (List.getElem?_eq_some_iff.1 hx).1
    rwa [Histogram.length_after] at hlength
  have hmem : self.buckets[k]? = some self.buckets[k] := List.getElem?_eq_getElem hk
  obtain ⟨hzero, hlt⟩ := hroom _ (List.getElem_mem hk)
  rw [values_append, values_append, List.length_append, List.length_append] at hlt
  push_cast at hlt
  obtain ⟨x', hx', hgrown⟩ := foldl_grown (MeterEvent.values meter past) hmem (by omega)
  obtain rfl := Option.some.inj (hx.symm.trans hx')
  have hle := hgrown.le
  have hbound := hgrown.bound
  rw [after_append] at hy
  obtain ⟨y', hy', hmore⟩ := foldl_grown (MeterEvent.values meter more) hx (by omega)
  obtain rfl := Option.some.inj (hy.symm.trans hy')
  exact ⟨hmore.bucket.symm, hmore.le⟩

end Histogram

/-! ## The reports of a run -/

namespace MeterSystem

variable [AddCommGroup F] [LinearOrder F] {es : List (MeterEvent F)} {service : Service}
  {s : MeterSystem F} {meter : Nat}

/-- In every run, whatever other threads do to the counter between the load and the swap of a
transform, what was reported of a `RATE` counter adds up to the increments before the last load that
a report is based on: none is reported twice, and none of them is missing. -/
theorem rate_reports_add_up (hrun : MeterSystem.run (.new service) es = some s)
    {counter : Counter F} (hmeter : (registered es)[meter]? = some (.counter counter))
    (hmode : counter.mode = .rate) :
    reportsOf meter (visits es).ended s.reported = [] ∨
      ∃ past, lastLoad meter (visits es).ended = some past ∧ past <+: es ∧
        es[past.length]? = some (.load meter 0) ∧
        ((reportsOf meter (visits es).ended s.reported).filterMap valueOf).sum =
          counter.count - counter.previousCount + (increments meter past).sum := by
  have haccounted := (run_tracked hrun).accounted
  have hsum := haccounted.sum_rate hmeter hmode
  cases hlast : lastLoad meter (visits es).ended with
  | none =>
    left
    apply List.eq_nil_iff_forall_not_mem.2
    intro data hdata
    obtain ⟨visit, hvisit, hvmeter, -⟩ := haccounted.of_mem hdata
    exact haccounted.lastLoad_ne_none hmeter hmode hvisit hvmeter hlast
  | some past =>
    right
    obtain ⟨visit, hvisit, hvmeter, hload⟩ := exists_of_lastLoad hlast
    have hmem : visit ∈ (visits es).all := List.mem_append_left _ hvisit
    obtain ⟨hwithin, hevent⟩ := (run_loaded hrun).loads visit hmem 0 past hload
    rw [hvmeter] at hevent
    refine ⟨past, rfl, hwithin, hevent, ?_⟩
    rw [hsum, Counter.previousAfter, hlast]
    show counter.count + (increments meter past).sum - counter.previousCount = _
    rw [add_sub_right_comm]

/-- A counter in `RATE` mode. -/
def rateCounter : Counter Int := sampleCounter.setMode .rate

/-- An increment comes between the load and the swap of the first report. -/
def twoRates : List (MeterEvent Int) :=
  [.register (.counter rateCounter), .increment 0 5, .boot [0], .next 0 sampleClock, .load 0 0,
    .increment 0 3, .swap, .report false, .finish, .tick [0], .next 0 sampleClock, .load 0 0, .swap,
    .report false]

theorem rate_reports_add_up_two :
    ∃ s, run (new sampleService) twoRates = some s ∧
      (s.reported.filterMap valueOf) = [5, 3] ∧
      ∃ past, lastLoad 0 (visits twoRates).ended = some past ∧
        ((reportsOf 0 (visits twoRates).ended s.reported).filterMap valueOf).sum =
          rateCounter.count - rateCounter.previousCount + (increments 0 past).sum := by
  have hrun : ∃ s, run (new sampleService) twoRates = some s ∧
      (s.reported.filterMap valueOf) = [5, 3] ∧
      reportsOf 0 (visits twoRates).ended s.reported ≠ [] :=
    ⟨_, rfl, rfl, by decide⟩
  obtain ⟨s, hrun, hvalues, hreports⟩ := hrun
  have hmeter : (registered twoRates)[0]? = some (.counter rateCounter) := rfl
  rcases rate_reports_add_up hrun hmeter rfl with hnone | ⟨past, hlast, -, -, hsum⟩
  · exact absurd hnone hreports
  · exact ⟨s, hrun, hvalues, past, hlast, hsum⟩

/-- A later report of a histogram, with the same buckets. -/
structure Grown (before after : MeterData F) : Prop where
  length : (bucketsOf after).length = (bucketsOf before).length
  buckets : ∀ (k : Nat) (x y : MeterBucketValue F), (bucketsOf before)[k]? = some x →
    (bucketsOf after)[k]? = some y → x.bucket = y.bucket ∧ x.count ≤ y.count

/-- In every run the values reported of an `INCREMENT` counter that is never decremented do not
fall, and neither do the counts of a histogram, bucket by bucket, as long as none of them exceeds
`i64`; the updates may come between the loads of one report. -/
theorem reports_grow [IsOrderedAddMonoid F]
    (hrun : MeterSystem.run (.new service) es = some s) (meter : Nat) :
    (∀ counter, (registered es)[meter]? = some (.counter counter) → counter.mode = .increment →
      (∀ count ∈ increments meter es, 0 ≤ count) →
      ((reportsOf meter (visits es).ended s.reported).filterMap valueOf).Pairwise (· ≤ ·)) ∧
    ∀ histogram, (registered es)[meter]? = some (.histogram histogram) →
      (∀ bucket ∈ histogram.buckets,
        0 ≤ bucket.count ∧ bucket.count + (MeterEvent.values meter es).length < 2 ^ 63) →
      (reportsOf meter (visits es).ended s.reported).Pairwise Grown := by
  have haccounted := (run_tracked hrun).accounted
  have hordered := loads_ordered es
  have hpast : ∀ visit ∈ (visits es).ended, ∀ load ∈ visit.loads, load <+: es := by
    intro visit hvisit load hload
    have hmem : load ∈ (visits es).loads :=
      List.mem_flatMap.2 ⟨visit, List.mem_append_left _ hvisit, hload⟩
    have hwithin := (visits_ordered es).past load hmem
    rwa [visits_past] at hwithin
  constructor
  · intro counter hmeter hmode hpositive
    rw [List.pairwise_filterMap]
    refine haccounted.pairwise hordered ?_
    intro v v' data data' earlier earlier' hv hv' hvv' hvmeter hvmeter' haccounts haccounts' x hx
      y hy
    rw [← hvmeter] at hmeter
    obtain ⟨past, hloads, hvalue⟩ := haccounts.increment hmeter hmode
    rw [hvmeter, ← hvmeter'] at hmeter
    obtain ⟨later, hloads', hvalue'⟩ := haccounts'.increment hmeter hmode
    obtain rfl := Option.some.inj (hx.symm.trans hvalue)
    obtain rfl := Option.some.inj (hy.symm.trans hvalue')
    obtain ⟨more, rfl⟩ := hvv' past (by simp [hloads]) later (by simp [hloads'])
    rw [hvmeter, hvmeter', Counter.after_append]
    apply le_add_of_nonneg_right
    apply List.sum_nonneg
    intro count hcount
    apply hpositive
    have hsub := (hpast v' hv' (past ++ more) (by simp [hloads'])).sublist
    have hmore := (List.sublist_append_right past more).trans hsub
    exact (hmore.filterMap _).subset hcount
  · intro histogram hmeter hroom
    refine haccounted.pairwise hordered ?_
    intro v v' data data' earlier earlier' hv hv' hvv' hvmeter hvmeter' haccounts haccounts'
    rw [← hvmeter] at hmeter
    obtain ⟨hall, hlength, hread⟩ := haccounts.buckets hmeter
    rw [hvmeter, ← hvmeter'] at hmeter
    obtain ⟨hall', hlength', hread'⟩ := haccounts'.buckets hmeter
    refine ⟨hall'.trans hall.symm, ?_⟩
    intro k x y hx hy
    have hk : k < v.loads.length := by
      rw [← hlength]
      exact (List.getElem?_eq_some_iff.1 hx).1
    have hk' : k < v'.loads.length := by
      rw [← hlength']
      exact (List.getElem?_eq_some_iff.1 hy).1
    rw [hread k _ (List.getElem?_eq_getElem hk), Option.map_eq_some_iff] at hx
    rw [hread' k _ (List.getElem?_eq_getElem hk'), Option.map_eq_some_iff] at hy
    obtain ⟨bucket, hbucket, rfl⟩ := hx
    obtain ⟨bucket', hbucket', rfl⟩ := hy
    rw [hvmeter] at hbucket
    rw [hvmeter'] at hbucket'
    exact histogram.after_le hroom
      (hvv' _ (List.getElem_mem hk) _ (List.getElem_mem hk'))
      (hpast v' hv' _ (List.getElem_mem hk')) hbucket hbucket'

/-- A value comes between the loads of the first report. -/
def twoHistograms : List (MeterEvent Int) :=
  [.register (.histogram (.new "latency" [1, 2])), .boot [0], .next 0 sampleClock, .load 0 0,
    .addValue 0 1, .load 0 1, .report false, .finish, .tick [0], .next 0 sampleClock, .load 0 0,
    .load 0 1, .report false]

theorem reports_grow_two :
    ∃ s, run (new sampleService) twoHistograms = some s ∧ s.reported.length = 2 ∧
      (reportsOf 0 (visits twoHistograms).ended s.reported).Pairwise Grown := by
  have hrun : ∃ s, run (new sampleService) twoHistograms = some s ∧ s.reported.length = 2 :=
    ⟨_, rfl, rfl⟩
  obtain ⟨s, hrun, hlength⟩ := hrun
  refine ⟨s, hrun, hlength, (reports_grow hrun 0).2 _ rfl ?_⟩
  decide

end MeterSystem

end SkywalkingAgent.Metrics
