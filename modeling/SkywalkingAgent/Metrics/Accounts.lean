import SkywalkingAgent.Metrics.Visits

/-!
# What the reports account for

The invariant `Tracked` of the metricer: the meters hold what was added to them, the visit under way
has read what its loads say, and every report is that of a visit.
-/

set_option autoImplicit false

namespace SkywalkingAgent.Metrics

open SkywalkingAgent.Lib SkywalkingAgent.Common SkywalkingAgent.Proto

open MeterEvent

variable {F : Type}

section Tracked

variable [AddCommGroup F] [LinearOrder F]

/-- The meters are what the updates and the visits have made of them. -/
structure Updated (es : List (MeterEvent F)) (visits : List (Visit F)) (meters : List (Meter F)) :
    Prop where
  count : meters.length = (registered es).length
  holds : ∀ (meter : Nat) (transform : Meter F), (registered es)[meter]? = some transform →
    ∃ now, meters[meter]? = some now ∧ Holds meter es visits transform now
  /-- There are no updates before the registration. -/
  fresh : ∀ meter, (registered es).length ≤ meter →
    increments meter es = [] ∧ MeterEvent.values meter es = []

/-- The visit under way is the loop's, and has read what its loads say. -/
def Visiting (meters : List (Meter F)) (visits : Visits F) : Loop F → Prop
  | .transforming _ meter _ progress => ∃ transform loads, meters[meter]? = some transform ∧
      visits.current = some ⟨meter, loads⟩ ∧ Reads meter visits.ended transform loads progress
  | .notBooted => visits.current = none ∧ visits.ended = []
  | _ => visits.current = none

/-- The visits that have left their mark on `previous_count`. -/
def swapped (visits : Visits F) : Loop F → List (Visit F)
  | .transforming _ _ _ (.value _) => visits.all
  | _ => visits.ended

omit [AddCommGroup F] [LinearOrder F] in
theorem swapped_of_ne {visits : Visits F} {todo : List Nat} {meter : Nat} {clock : Clock}
    {progress : Progress F} (h : ∀ value, progress ≠ .value value) :
    swapped visits (.transforming todo meter clock progress) = visits.ended := by
  cases progress with
  | value value => exact absurd rfl (h value)
  | _ => rfl

omit [AddCommGroup F] [LinearOrder F] in
/-- A load does not follow the value, and only an `INCREMENT` counter has its value then. -/
theorem Meter.load_value {cell : Nat} {now : Meter F} {progress next : Progress F}
    (h : now.load cell progress = some next) :
    (∀ value, progress ≠ .value value) ∧ ∀ value, next = .value value →
      ∃ counter, now = .counter counter ∧ counter.mode = .increment := by
  cases now with
  | counter counter =>
    cases progress with
    | start =>
      refine ⟨by simp, ?_⟩
      rintro value rfl
      refine ⟨counter, rfl, ?_⟩
      simp only [Meter.load] at h
      cases hmode : counter.mode with
      | increment => rfl
      | rate => simp [hmode] at h
    | _ => cases h
  | gauge gauge => cases h
  | histogram histogram =>
    cases progress with
    | buckets values =>
      refine ⟨by simp, ?_⟩
      rintro value rfl
      simp [Meter.load] at h
    | _ => cases h

/-- Every report accounts for its visit. -/
structure Accounted (service : Service) (meters : List (Meter F)) (visits : List (Visit F))
    (reported : List (MeterData F)) : Prop where
  length : reported.length = visits.length
  accounts : ∀ (j : Nat) (data : MeterData F) (visit : Visit F), reported[j]? = some data →
    visits[j]? = some visit → Accounts service meters (visits.take j) visit data

/-- What holds after the events `es`. -/
structure Tracked (service : Service) (es : List (MeterEvent F)) (s : MeterSystem F) : Prop where
  service_eq : s.metricer.service = service
  updated : Updated es (swapped (visits es) s.loop) s.metricer.meters
  visiting : Visiting (registered es) (visits es) s.loop
  accounted : Accounted service (registered es) (visits es).ended s.reported

variable {es : List (MeterEvent F)} {e : MeterEvent F} {service : Service}
  {s s' : MeterSystem F} {meters : List (Meter F)} {past : List (Visit F)}

/-- An event that registers and updates nothing. -/
structure Quiet (e : MeterEvent F) : Prop where
  registered : registered [e] = []
  increments : ∀ meter, increments meter [e] = []
  values : ∀ meter, values meter [e] = []

omit [AddCommGroup F] [LinearOrder F] in
theorem Quiet.registered_concat (he : Quiet e) : MeterEvent.registered (es ++ [e]) =
    MeterEvent.registered es :=
  registered_concat_of_none he.registered

theorem Updated.quiet (h : Updated es past meters) (he : Quiet e) :
    Updated (es ++ [e]) past meters where
  count := by rw [he.registered_concat]; exact h.count
  holds meter transform hmeter := by
    rw [he.registered_concat] at hmeter
    obtain ⟨now, hnow, hholds⟩ := h.holds meter transform hmeter
    exact ⟨now, hnow, hholds.concat (he.increments meter) (he.values meter)⟩
  fresh meter hmeter := by
    rw [he.registered_concat] at hmeter
    rw [increments_concat, values_concat, he.increments, he.values, List.append_nil,
      List.append_nil]
    exact h.fresh meter hmeter

/-- The meter at a handle that was registered. -/
theorem Updated.registered_of_found (h : Updated es past meters) {meter : Nat} {now : Meter F}
    (hnow : meters[meter]? = some now) :
    ∃ transform, (registered es)[meter]? = some transform ∧
      Holds meter es past transform now := by
  have hlt : meter < (registered es).length := by
    rw [← h.count]
    exact (List.getElem?_eq_some_iff.1 hnow).1
  have hget := List.getElem?_eq_getElem hlt
  obtain ⟨now', hnow', hholds⟩ := h.holds meter _ hget
  rw [hnow, Option.some.injEq] at hnow'
  subst hnow'
  exact ⟨_, hget, hholds⟩

/-- A meter without updates and visits is as it was registered. -/
theorem holds_fresh {meter : Nat} (transform : Meter F) (hincrements : increments meter es = [])
    (hvalues : MeterEvent.values meter es = []) : Holds meter es [] transform transform := by
  cases transform with
  | counter counter =>
    have hafter : counter.after meter es = counter.count := by
      simp [Counter.after, hincrements]
    have hholds : Holds meter es [] (.counter counter) (.counter { counter with
        count := counter.after meter es
        previousCount := counter.previousCount }) :=
      .counter counter counter.previousCount fun _ => rfl
    rwa [hafter] at hholds
  | gauge gauge => exact .gauge gauge
  | histogram histogram =>
    have hafter : histogram.after meter es = histogram := by
      simp [Histogram.after, hvalues]
    have hholds : Holds meter es [] (.histogram histogram)
        (.histogram (histogram.after meter es)) := .histogram histogram
    rwa [hafter] at hholds

theorem Updated.register (h : Updated es [] meters) (transform : Meter F) :
    Updated (es ++ [.register transform]) [] (meters ++ [transform]) := by
  have hregistered : registered (es ++ [.register transform]) = registered es ++ [transform] :=
    registered_concat es _
  -- a registration updates no meter
  have hincrements : ∀ meter, increments meter (es ++ [.register transform]) =
      increments meter es := by
    intro meter
    rw [increments_concat]
    exact List.append_nil _
  have hvalues : ∀ meter, MeterEvent.values meter (es ++ [.register transform]) =
      MeterEvent.values meter es := by
    intro meter
    rw [values_concat]
    exact List.append_nil _
  refine ⟨?_, fun meter t hmeter => ?_, fun meter hmeter => ?_⟩
  · -- the new handle is the next index
    rw [hregistered, List.length_append, List.length_append, h.count]
  · rw [hregistered] at hmeter
    rcases Nat.lt_or_ge meter (registered es).length with hlt | hge
    · rw [List.getElem?_append_left hlt] at hmeter
      obtain ⟨now, hnow, hholds⟩ := h.holds meter t hmeter
      refine ⟨now, ?_, hholds.concat rfl rfl⟩
      exact (List.getElem?_append_left (h.count ▸ hlt)).trans hnow
    · -- the new meter
      have heq : meter = (registered es).length := by
        have hlen := (List.getElem?_eq_some_iff.1 hmeter).1
        rw [List.length_append, List.length_singleton] at hlen
        omega
      subst heq
      rw [List.getElem?_concat_length, Option.some.injEq] at hmeter
      subst hmeter
      refine ⟨transform, ?_, holds_fresh transform ?_ ?_⟩
      · rw [← h.count]
        exact List.getElem?_concat_length
      · exact (hincrements _).trans (h.fresh _ hge).1
      · exact (hvalues _).trans (h.fresh _ hge).2
  · rw [hregistered, List.length_append] at hmeter
    rw [hincrements, hvalues]
    exact h.fresh meter (by omega)

/-- One meter changes, with the event or with the visits. -/
theorem Updated.set (h : Updated es past meters) {handle : Nat} {now : Meter F}
    {past' : List (Visit F)} (he : MeterEvent.registered [e] = [])
    (hfound : handle < meters.length)
    (helse : ∀ meter, meter ≠ handle →
      increments meter [e] = [] ∧ MeterEvent.values meter [e] = [])
    (hself : ∀ transform, (registered es)[handle]? = some transform →
      Holds handle (es ++ [e]) past' transform now)
    (hother : ∀ meter, meter ≠ handle → lastLoad meter past' = lastLoad meter past) :
    Updated (es ++ [e]) past' (meters.set handle now) := by
  have hregistered : registered (es ++ [e]) = registered es := registered_concat_of_none he
  refine ⟨?_, fun meter transform hmeter => ?_, fun meter hmeter => ?_⟩
  · rw [hregistered, ← h.count]
    exact List.length_set
  · rw [hregistered] at hmeter
    obtain ⟨old, hold, hholds⟩ := h.holds meter transform hmeter
    by_cases hne : meter = handle
    · subst hne
      exact ⟨now, List.getElem?_set_self hfound, hself transform hmeter⟩
    · obtain ⟨hincrements, hvalues⟩ := helse meter hne
      -- another meter sees neither the event nor the new visit
      refine ⟨old, (List.getElem?_set_ne (Ne.symm hne)).trans hold, ?_⟩
      exact (hholds.concat hincrements hvalues).of_lastLoad fun _ _ _ => hother meter hne
  · rw [hregistered, ← h.count] at hmeter
    obtain ⟨hincrements, hvalues⟩ := helse meter (by omega)
    rw [increments_concat, values_concat, hincrements, hvalues, List.append_nil, List.append_nil]
    exact h.fresh meter (h.count ▸ hmeter)

theorem Accounted.mono (h : Accounted service meters past s.reported) {meters' : List (Meter F)}
    (hmeters : meters <+: meters') : Accounted service meters' past s.reported := by
  obtain ⟨more, rfl⟩ := hmeters
  refine ⟨h.length, fun j data visit hdata hvisit => ?_⟩
  obtain ⟨transform, clock, progress, hfound, hreads, heq⟩ := h.accounts j data visit hdata hvisit
  refine ⟨transform, clock, progress, ?_, hreads, heq⟩
  rw [List.getElem?_append_left (List.getElem?_eq_some_iff.1 hfound).1]
  exact hfound

/-- One more report, of the visit that has just ended. -/
theorem Accounted.concat {reported : List (MeterData F)}
    (h : Accounted service meters past reported) {visit : Visit F} {data : MeterData F}
    (haccounts : Accounts service meters past visit data) :
    Accounted service meters (past ++ [visit]) (reported ++ [data]) := by
  refine ⟨by simp [h.length], fun j data' visit' hdata hvisit => ?_⟩
  rcases Nat.lt_or_ge j reported.length with hlt | hge
  · have hlt' : j < past.length := h.length ▸ hlt
    rw [List.getElem?_append_left hlt] at hdata
    rw [List.getElem?_append_left hlt'] at hvisit
    -- an earlier report has the same visits before it
    rw [List.take_append_of_le_length hlt'.le]
    exact h.accounts j data' visit' hdata hvisit
  -- the new report is of the new visit, with all the others before it
  · have heq : j = past.length := by
      have hlen := (List.getElem?_eq_some_iff.1 hvisit).1
      rw [List.length_append, List.length_singleton] at hlen
      have hlength := h.length
      omega
    subst heq
    rw [← h.length, List.getElem?_concat_length, Option.some.injEq] at hdata
    rw [List.getElem?_concat_length, Option.some.injEq] at hvisit
    subst hdata hvisit
    rwa [List.take_left]

/-- A step that changes neither meters nor visits. -/
theorem Tracked.quiet (h : Tracked service es s) (he : Quiet e)
    (hvisits : (visits es).add e = { visits es with past := (visits es).past ++ [e] })
    (hservice : s'.metricer.service = s.metricer.service)
    (hmeters : s'.metricer.meters = s.metricer.meters) (hreported : s'.reported = s.reported)
    (hswapped : swapped (visits es) s'.loop = swapped (visits es) s.loop)
    (hvisiting : Visiting (registered es) (visits es) s.loop →
      Visiting (registered es) (visits es) s'.loop) : Tracked service (es ++ [e]) s' := by
  have hended : (visits (es ++ [e])).ended = (visits es).ended := by rw [visits_concat, hvisits]
  refine ⟨hservice.trans h.service_eq, ?_, ?_, ?_⟩
  · have hsame : swapped (visits (es ++ [e])) s'.loop = swapped (visits es) s.loop := by
      rw [visits_concat, hvisits, ← hswapped]
      rfl
    rw [hsame, hmeters]
    exact h.updated.quiet he
  · rw [he.registered_concat, visits_concat, hvisits]
    exact hvisiting h.visiting
  · rw [he.registered_concat, hended, hreported]
    exact h.accounted

/-- An update of a meter through its handle. -/
theorem Tracked.update (h : Tracked service es s) {handle : Nat} {old now : Meter F}
    (hfound : s.metricer.meters[handle]? = some old) (he : MeterEvent.registered [e] = [])
    (helse : ∀ meter, meter ≠ handle →
      MeterEvent.increments meter [e] = [] ∧ MeterEvent.values meter [e] = [])
    (hvisits : (visits es).add e = { visits es with past := (visits es).past ++ [e] })
    (hself : ∀ transform, Holds handle es (swapped (visits es) s.loop) transform old →
      Holds handle (es ++ [e]) (swapped (visits es) s.loop) transform now) :
    Tracked service (es ++ [e]) { s with metricer := s.metricer.setMeter handle now } := by
  have hregistered : MeterEvent.registered (es ++ [e]) = MeterEvent.registered es :=
    registered_concat_of_none he
  refine ⟨h.service_eq, ?_, ?_, ?_⟩
  · rw [visits_concat, hvisits]
    refine h.updated.set he (List.getElem?_eq_some_iff.1 hfound).1 helse ?_ fun _ _ => rfl
    intro transform htransform
    obtain ⟨transform', htransform', hholds⟩ := h.updated.registered_of_found hfound
    rw [htransform, Option.some.injEq] at htransform'
    subst htransform'
    exact hself transform hholds
  · rw [hregistered, visits_concat, hvisits]
    exact h.visiting
  · rw [hregistered, visits_concat, hvisits]
    exact h.accounted

theorem Tracked.register (h : Tracked service es s) (transform : Meter F)
    (hloop : s.loop = .notBooted) : Tracked service (es ++ [.register transform])
      { s with metricer := s.metricer.register transform } := by
  have hvisiting := h.visiting
  rw [hloop] at hvisiting
  -- meters are registered before the boot, so no visit has begun
  obtain ⟨hcurrent, hended⟩ := hvisiting
  have hupdated := h.updated
  have hnone : swapped (visits es) s.loop = [] := by
    rw [hloop]
    exact hended
  rw [hnone] at hupdated
  have hregistered : MeterEvent.registered (es ++ [.register transform]) =
      MeterEvent.registered es ++ [transform] := registered_concat es _
  refine ⟨h.service_eq, ?_, ?_, ?_⟩
  · have hsame : swapped (visits (es ++ [.register transform])) s.loop = [] := by
      rw [visits_concat, hloop]
      exact hended
    rw [hsame]
    exact hupdated.register transform
  · rw [visits_concat, hloop]
    exact ⟨hcurrent, hended⟩
  · rw [visits_concat, hregistered]
    exact h.accounted.mono (List.prefix_append _ _)

/-- A step within a visit, or to the next one, that touches no meter. -/
theorem Tracked.visit (h : Tracked service es s) (he : Quiet e) {loop : Loop F}
    (hended : ((visits es).add e).ended = (visits es).ended)
    (hvisiting : Visiting (MeterEvent.registered es) ((visits es).add e) loop)
    (hlast : ∀ meter counter, (MeterEvent.registered es)[meter]? = some (.counter counter) →
      counter.mode = .rate → lastLoad meter (swapped ((visits es).add e) loop) =
        lastLoad meter (swapped (visits es) s.loop)) :
    Tracked service (es ++ [e]) { s with loop := loop } := by
  refine ⟨h.service_eq, ?_, ?_, ?_⟩
  · have hupdated := h.updated.quiet he
    rw [visits_concat]
    refine ⟨hupdated.count, fun meter transform hmeter => ?_, hupdated.fresh⟩
    obtain ⟨now, hnow, hholds⟩ := hupdated.holds meter transform hmeter
    rw [he.registered_concat] at hmeter
    refine ⟨now, hnow, hholds.of_lastLoad fun counter hcounter hmode => ?_⟩
    subst hcounter
    exact hlast meter counter hmeter hmode
  · rw [he.registered_concat, visits_concat]
    exact hvisiting
  · rw [he.registered_concat, visits_concat, hended]
    exact h.accounted

/-- What is known of the visit under way. -/
theorem Tracked.visited (h : Tracked service es s) {todo : List Nat} {meter : Nat} {clock : Clock}
    {progress : Progress F} {now : Meter F}
    (hloop : s.loop = .transforming todo meter clock progress)
    (hfound : s.metricer.meters[meter]? = some now) :
    ∃ transform loads, (MeterEvent.registered es)[meter]? = some transform ∧
      (visits es).current = some ⟨meter, loads⟩ ∧
      Reads meter (visits es).ended transform loads progress ∧
      Holds meter es (swapped (visits es) s.loop) transform now := by
  have hvisiting := h.visiting
  rw [hloop] at hvisiting
  obtain ⟨transform, loads, htransform, hcurrent, hreads⟩ := hvisiting
  obtain ⟨transform', htransform', hholds⟩ := h.updated.registered_of_found hfound
  rw [htransform, Option.some.injEq] at htransform'
  subst htransform'
  exact ⟨transform, loads, htransform, hcurrent, hreads, hholds⟩

theorem Tracked.next (h : Tracked service es s) {meter : Nat} (clock : Clock) {todo : List Nat}
    {now : Meter F} (hloop : s.loop = .reporting (meter :: todo))
    (hfound : s.metricer.meters[meter]? = some now) :
    Tracked service (es ++ [.next meter clock])
      { s with loop := .transforming todo meter clock now.begin } := by
  obtain ⟨transform, htransform, hholds⟩ := h.updated.registered_of_found hfound
  -- nothing is loaded yet: a histogram begins with no bucket read
  have hreads : Reads meter (visits es).ended transform [] now.begin := by
    cases hholds with
    | counter counter => exact .start _ rfl
    | gauge gauge => exact .start _ rfl
    | histogram histogram => exact .buckets histogram [] [] rfl fun k past hk => nomatch hk
  have hswapped : swapped ((visits es).add (.next meter clock))
      (.transforming todo meter clock now.begin) = swapped (visits es) s.loop := by
    rw [hloop]
    cases now <;> rfl
  refine h.visit ⟨rfl, fun _ => rfl, fun _ => rfl⟩ rfl ?_ fun _ _ _ _ => by rw [hswapped]
  exact ⟨transform, [], htransform, rfl, hreads⟩

theorem Tracked.load (h : Tracked service es s) {meter cell : Nat} {clock : Clock}
    {todo : List Nat} {progress next : Progress F} {now : Meter F}
    (hloop : s.loop = .transforming todo meter clock progress)
    (hfound : s.metricer.meters[meter]? = some now) (hload : now.load cell progress = some next) :
    Tracked service (es ++ [.load meter cell])
      { s with loop := .transforming todo meter clock next } := by
  obtain ⟨transform, loads, htransform, hcurrent, hreads, hholds⟩ := h.visited hloop hfound
  obtain ⟨-, hreads'⟩ := hreads.load hholds hload
  have hadd : (visits es).add (.load meter cell) =
      ⟨es ++ [.load meter cell], (visits es).ended, some ⟨meter, loads ++ [es]⟩⟩ := by
    simp [Visits.add, visits_past, hcurrent]
  refine h.visit ⟨rfl, fun _ => rfl, fun _ => rfl⟩ rfl ?_ ?_
  · rw [hadd]
    exact ⟨transform, loads ++ [es], htransform, rfl, hreads'⟩
  · obtain ⟨hprogress, hvalue⟩ := Meter.load_value hload
    intro m counter hm hmode
    rw [hadd, hloop, swapped_of_ne hprogress]
    by_cases hnext : ∃ value, next = .value value
    · -- the visit is to an `INCREMENT` counter, so not to this one
      obtain ⟨value, rfl⟩ := hnext
      obtain ⟨counter', rfl, hmode'⟩ := hvalue value rfl
      refine lastLoad_concat_of_ne fun heq => ?_
      change meter = m at heq
      subst heq
      rw [htransform, Option.some.injEq] at hm
      subst hm
      cases hholds
      rw [hmode] at hmode'
      cases hmode'
    · rw [swapped_of_ne fun value hvalue => hnext ⟨value, hvalue⟩]

theorem Tracked.swap (h : Tracked service es s) {todo : List Nat} {meter : Nat} {clock : Clock}
    {currentCount : F} {counter : Counter F}
    (hloop : s.loop = .transforming todo meter clock (.loaded currentCount))
    (hfound : s.metricer.meters[meter]? = some (.counter counter)) :
    Tracked service (es ++ [.swap]) { s with
      metricer := s.metricer.setMeter meter
        (.counter { counter with previousCount := currentCount })
      loop := .transforming todo meter clock (.value (currentCount - counter.previousCount)) } := by
  obtain ⟨transform, loads, htransform, hcurrent, hreads, hholds⟩ := h.visited hloop hfound
  rw [hloop] at hholds
  -- `previous_count` is that of the earlier visits before the swap, and of this one too after it
  obtain ⟨hreads', hholds'⟩ := hreads.swap hholds
  have hregistered : MeterEvent.registered (es ++ [.swap]) = MeterEvent.registered es :=
    registered_concat_of_none rfl
  have hall : (visits es).all = (visits es).ended ++ [⟨meter, loads⟩] := by
    rw [Visits.all, hcurrent]
    rfl
  refine ⟨h.service_eq, ?_, ?_, ?_⟩
  · rw [visits_concat]
    show Updated (es ++ [.swap]) (visits es).all (s.metricer.meters.set meter _)
    rw [hall]
    refine h.updated.set rfl (List.getElem?_eq_some_iff.1 hfound).1 (fun _ _ => ⟨rfl, rfl⟩) ?_ ?_
    · intro transform' htransform'
      rw [htransform, Option.some.injEq] at htransform'
      subst htransform'
      exact hholds'.concat rfl rfl
    · intro other hne
      rw [hloop]
      exact lastLoad_concat_of_ne (Ne.symm hne)
  · rw [hregistered, visits_concat]
    exact ⟨transform, loads, htransform, hcurrent, hreads'⟩
  · rw [hregistered, visits_concat]
    exact h.accounted

theorem Tracked.get (h : Tracked service es s) (value : F) {todo : List Nat} {meter : Nat}
    {clock : Clock} {gauge : Gauge} (hloop : s.loop = .transforming todo meter clock .start)
    (hfound : s.metricer.meters[meter]? = some (.gauge gauge)) :
    Tracked service (es ++ [.get value])
      { s with loop := .transforming todo meter clock (.value value) } := by
  obtain ⟨transform, loads, htransform, hcurrent, hreads, hholds⟩ := h.visited hloop hfound
  cases hholds
  obtain rfl : loads = [] := by
    cases hreads
    rfl
  refine h.visit ⟨rfl, fun _ => rfl, fun _ => rfl⟩ rfl ?_ ?_
  · exact ⟨_, [], htransform, hcurrent, .gauge gauge value⟩
  · intro m counter hm _
    rw [hloop]
    show lastLoad m (visits es).all = lastLoad m (visits es).ended
    rw [Visits.all, hcurrent]
    refine lastLoad_concat_of_ne fun heq => ?_
    -- the visit is to a gauge
    change meter = m at heq
    subst heq
    rw [htransform] at hm
    cases hm

theorem Tracked.getPanics (h : Tracked service es s) {todo : List Nat} {meter : Nat}
    {clock : Clock} (hloop : s.loop = .transforming todo meter clock .start) :
    Tracked service (es ++ [.getPanics]) { s with loop := .selecting } := by
  refine h.visit ⟨rfl, fun _ => rfl, fun _ => rfl⟩ rfl rfl ?_
  intro m counter _ _
  rw [hloop]
  rfl

theorem Tracked.report (h : Tracked service es s) (panics : Bool) {todo : List Nat} {meter : Nat}
    {clock : Clock} {progress : Progress F} {now : Meter F} {data : MeterData F}
    (hloop : s.loop = .transforming todo meter clock progress)
    (hfound : s.metricer.meters[meter]? = some now)
    (hdata : now.data s.metricer.service clock progress = some data) :
    Tracked service (es ++ [.report panics]) { s with
      loop := if panics then .selecting else .reporting todo
      reported := s.reported ++ [data] } := by
  obtain ⟨transform, loads, htransform, hcurrent, hreads, hholds⟩ := h.visited hloop hfound
  rw [h.service_eq, hholds.data] at hdata
  have hregistered : MeterEvent.registered (es ++ [.report panics]) =
      MeterEvent.registered es := registered_concat_of_none rfl
  have hadd : (visits es).add (.report panics) =
      ⟨es ++ [.report panics], (visits es).ended ++ [⟨meter, loads⟩], none⟩ := by
    simp [Visits.add, visits_past, hcurrent]
  refine ⟨h.service_eq, ?_, ?_, ?_⟩
  · have hsame : swapped ((visits es).add (.report panics))
        (if panics then .selecting else .reporting todo) =
          (visits es).ended ++ [⟨meter, loads⟩] := by
      rw [hadd]
      cases panics <;> rfl
    rw [visits_concat, hsame]
    have hupdated := h.updated.quiet (e := .report panics) ⟨rfl, fun _ => rfl, fun _ => rfl⟩
    refine ⟨hupdated.count, fun m t ht => ?_, hupdated.fresh⟩
    obtain ⟨now', hnow', hholds'⟩ := hupdated.holds m t ht
    refine ⟨now', hnow', hholds'.of_lastLoad fun counter hcounter _ => ?_⟩
    rw [hloop]
    by_cases hvalue : ∃ value, progress = .value value
    · -- the visit counts as past since its swap
      obtain ⟨value, rfl⟩ := hvalue
      show _ = lastLoad m (visits es).all
      rw [Visits.all, hcurrent]
      rfl
    · -- a counter has no data without its value
      rw [swapped_of_ne fun value heq => hvalue ⟨value, heq⟩]
      refine lastLoad_concat_of_ne fun heq => ?_
      change meter = m at heq
      subst heq
      rw [registered_concat] at ht
      rw [List.getElem?_append_left (List.getElem?_eq_some_iff.1 htransform).1, htransform] at ht
      obtain rfl := Option.some.inj ht
      subst hcounter
      cases progress with
      | value value => exact hvalue ⟨value, rfl⟩
      | _ => cases hdata
  · rw [hregistered, visits_concat, hadd]
    cases panics <;> rfl
  · rw [hregistered, visits_concat, hadd]
    exact h.accounted.concat ⟨transform, clock, progress, htransform, hreads, hdata⟩

theorem Tracked.step (h : Tracked service es s) (hstep : s.step e = some s') :
    Tracked service (es ++ [e]) s' := by
  cases MeterSystem.step_effect hstep with
  | register transform hloop => exact h.register transform hloop
  | setReportInterval reportInterval =>
    exact h.quiet ⟨rfl, fun _ => rfl, fun _ => rfl⟩ rfl rfl rfl rfl rfl id
  | increment handle count counter hmeter =>
    refine h.update hmeter rfl (fun meter hne => ⟨?_, rfl⟩) rfl ?_
    · simp [MeterEvent.increments, Ne.symm hne]
    · intro transform hholds
      cases hholds with
      | counter registered previousCount hprevious =>
        have hafter : registered.after handle (es ++ [.increment handle count]) =
            registered.after handle es + count := by
          simp [Counter.after_append, MeterEvent.increments]
        rw [Counter.increment, ← hafter]
        exact .counter registered previousCount hprevious
  | addValue handle value histogram hmeter =>
    refine h.update hmeter rfl (fun meter hne => ⟨rfl, ?_⟩) rfl ?_
    · simp [MeterEvent.values, Ne.symm hne]
    · intro transform hholds
      cases hholds with
      | histogram registered =>
        have hafter : registered.after handle (es ++ [.addValue handle value]) =
            (registered.after handle es).addValue value := by
          simp [Histogram.after_concat, MeterEvent.values]
        rw [← hafter]
        exact .histogram registered
  | bootPanics order hloop =>
    refine h.quiet ⟨rfl, fun _ => rfl, fun _ => rfl⟩ rfl rfl rfl rfl (by rw [hloop]; rfl) ?_
    rw [hloop]
    exact And.left
  | boot order hloop hperm =>
    refine h.quiet ⟨rfl, fun _ => rfl, fun _ => rfl⟩ rfl rfl rfl rfl (by rw [hloop]; rfl) ?_
    rw [hloop]
    exact And.left
  | next meter clock todo transform hloop hfound => exact h.next clock hloop hfound
  | load meter cell todo clock progress next transform hloop hfound hload =>
    exact h.load hloop hfound hload
  | swap todo meter clock currentCount counter hloop hfound => exact h.swap hloop hfound
  | get value todo meter clock gauge hloop hfound => exact h.get value hloop hfound
  | getPanics todo meter clock gauge hloop hfound => exact h.getPanics hloop
  | report panics todo meter clock progress transform data hloop hfound hdata =>
    exact h.report panics hloop hfound hdata
  | finish hloop =>
    refine h.quiet ⟨rfl, fun _ => rfl, fun _ => rfl⟩ rfl rfl rfl rfl (by rw [hloop]; rfl) ?_
    rw [hloop]
    exact id
  | tick order hloop hperm =>
    refine h.quiet ⟨rfl, fun _ => rfl, fun _ => rfl⟩ rfl rfl rfl rfl (by rw [hloop]; rfl) ?_
    rw [hloop]
    exact id
  | shutdown => exact h.quiet ⟨rfl, fun _ => rfl, fun _ => rfl⟩ rfl rfl rfl rfl rfl id
  | drop => exact h.quiet ⟨rfl, fun _ => rfl, fun _ => rfl⟩ rfl rfl rfl rfl rfl id
  | recv hloop =>
    refine h.quiet ⟨rfl, fun _ => rfl, fun _ => rfl⟩ rfl rfl rfl rfl (by rw [hloop]; rfl) ?_
    rw [hloop]
    exact id

theorem tracked_new (service : Service) :
    Tracked service [] (MeterSystem.new service : MeterSystem F) where
  service_eq := rfl
  updated := ⟨rfl, fun _ _ h => (nomatch h), fun _ _ => ⟨rfl, rfl⟩⟩
  visiting := ⟨rfl, rfl⟩
  accounted := ⟨rfl, fun _ _ _ h => nomatch h⟩

theorem run_tracked (hrun : MeterSystem.run (.new service) es = some s) : Tracked service es s := by
  apply Execution.run_history (I := fun es s => Tracked service es s) _ _ hrun
  · exact tracked_new service
  · intro es a b e h hstep
    exact h.step hstep

end Tracked

end SkywalkingAgent.Metrics
