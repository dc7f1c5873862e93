import SkywalkingAgent.Lib.Execution
import SkywalkingAgent.Metrics.Histogram

/-!
# The metricer

`Metricer` of `metrics/metricer.rs`: a map from meter ids to the registered meters, and the loop
that `boot` spawns. A round of the loop transforms every meter of the map and passes the result to
the reporter; the atomic cells of a meter are read one by one, and other threads can update them in
between. `MeterSystem.step` interleaves the loop with the updates through the handles and with the
owner of the `Booting`.
-/

set_option autoImplicit false

namespace SkywalkingAgent.Metrics

open SkywalkingAgent.Common SkywalkingAgent.Proto

/-! ## Meters behind one trait -/

/-- The implementations of `Transform`. -/
inductive Meter (F : Type) where
  | counter (counter : Counter F)
  | gauge (gauge : Gauge)
  | histogram (histogram : Histogram F)
  deriving DecidableEq, Repr

/-- How far a transform is. -/
inductive Progress (F : Type) where
  /-- Nothing is read yet. -/
  | start
  /-- A `RATE` counter has loaded `current_count`. -/
  | loaded (currentCount : F)
  /-- The value of a counter or a gauge is there. -/
  | value (value : F)
  /-- The buckets of a histogram read so far. -/
  | buckets (values : List (MeterBucketValue F))
  deriving DecidableEq, Repr

namespace Meter

variable {F : Type}

/-- `Transform::meter_id`. -/
def meterId : Meter F → MeterId
  | .counter c => c.id
  | .gauge g => g.id
  | .histogram h => h.id

/-- What the constructors build: the buckets of a histogram have increasing bounds. -/
def isBuilt [LinearOrder F] : Meter F → Bool
  | .histogram h => decide (h.bounds.Pairwise (· < ·))
  | _ => true

/-- A transform that has just started. -/
def begin : Meter F → Progress F
  | .histogram _ => .buckets []
  | _ => .start

/-- The load of a cell: the count of a counter, or the next bucket of a histogram. -/
def load (cell : Nat) : Meter F → Progress F → Option (Progress F)
  | .counter c, .start =>
      if cell = 0 then
        match c.mode with
        | .increment => some (.value c.get)
        | .rate => some (.loaded c.get)
      else none
  | .histogram h, .buckets values =>
      if cell = values.length then
        h.buckets[cell]?.map fun bucket => .buckets (values ++ [bucket.value])
      else none
  | _, _ => none

/-- The data of a transform that has read everything. -/
def data (service : Service) (clock : Clock) : Meter F → Progress F → Option (MeterData F)
  | .counter c, .value value => some (singleValue service clock c.id value)
  | .gauge g, .value value => some (g.transform service clock value)
  | .histogram h, .buckets values =>
      if values.length = h.buckets.length then
        some (histogramValues service clock h.id values)
      else none
  | _, _ => none

end Meter

/-! ## The metricer -/

/-- `Metricer`, without its reporter. -/
structure Metricer (F : Type) where
  service : Service
  /-- What the `Arc`s point to, in the order of the registrations; an index is a handle. -/
  meters : List (Meter F)
  meterMap : List (MeterId × Nat)
  /-- In nanoseconds. -/
  reportInterval : Nat
  deriving Repr

namespace Metricer

variable {F : Type}

/-- `Metricer::new`. -/
def new (service : Service) : Metricer F := ⟨service, [], [], 20000000000⟩

/-- `Metricer::register`: `insert` replaces the value of an id that is there. -/
def register (self : Metricer F) (transform : Meter F) : Metricer F :=
  { self with
    meters := self.meters ++ [transform]
    meterMap := self.meterMap.filter (fun entry => entry.1 ≠ transform.meterId) ++
      [(transform.meterId, self.meters.length)] }

/-- The values of the map, in some order. -/
def values (self : Metricer F) : List Nat := self.meterMap.map Prod.snd

/-- The meter behind a handle is changed. -/
def setMeter (self : Metricer F) (handle : Nat) (meter : Meter F) : Metricer F :=
  { self with meters := self.meters.set handle meter }

end Metricer

/-! ## The loop of `boot` -/

/-- Where the task of `boot` stands. -/
inductive Loop (F : Type) where
  | notBooted
  /-- `interval` has panicked on a zero period. -/
  | panicked
  /-- In a round, between two transforms. -/
  | reporting (todo : List Nat)
  /-- In a round, in a transform. -/
  | transforming (todo : List Nat) (meter : Nat) (clock : Clock) (progress : Progress F)
  /-- In `select!`. -/
  | selecting
  | returned

/-- The owner's side: the `Booting` is held, consumed by `shutdown`, or dropped. -/
inductive Booting where
  | absent
  | held
  | shuttingDown
  | dropped
  deriving DecidableEq, Repr

/-- A metricer with its task, the handle of the owner, and what was passed to the reporter. -/
structure MeterSystem (F : Type) where
  metricer : Metricer F
  loop : Loop F
  booting : Booting
  /-- What was passed to the reporter. -/
  reported : List (MeterData F)

/-- The steps of the task, and what the owner and the users of the meters do meanwhile. -/
inductive MeterEvent (F : Type) where
  | register (transform : Meter F)
  | setReportInterval (reportInterval : Nat)
  /-- `Counter::increment` through a handle. -/
  | increment (handle : Nat) (count : F)
  /-- `Histogram::add_value` through a handle. -/
  | addValue (handle : Nat) (value : F)
  /-- `boot`, and the first round iterates over the map in the given order. -/
  | boot (order : List Nat)
  /-- The transform of the next meter starts. -/
  | next (meter : Nat) (clock : Clock)
  /-- It loads a cell. -/
  | load (meter cell : Nat)
  /-- It swaps `previous_count`. -/
  | swap
  /-- It gets the value of a gauge. -/
  | get (value : F)
  /-- The getter of a gauge panics, which ends the round. -/
  | getPanics
  /-- The data goes to the reporter, whose panic would end the round. -/
  | report (panics : Bool)
  /-- The round is complete. -/
  | finish
  /-- The ticker starts another round. -/
  | tick (order : List Nat)
  /-- `Booting::shutdown` sends its message. -/
  | shutdown
  /-- The `Booting` is dropped. -/
  | drop
  /-- The loop receives the message, or finds the channel closed. -/
  | recv

namespace MeterSystem

variable {F : Type}

/-- A metricer that was just created. -/
def new (service : Service) : MeterSystem F := ⟨.new service, .notBooted, .absent, []⟩

/-- A round over the values of the map. -/
def round (s : MeterSystem F) (order : List Nat) : Option (MeterSystem F) :=
  if order.Perm s.metricer.values then some { s with loop := .reporting order } else none

theorem round_eq_some_iff {s s' : MeterSystem F} {order : List Nat} :
    s.round order = some s' ↔
      order.Perm s.metricer.values ∧ s' = { s with loop := .reporting order } := by
  unfold round
  split
  · next hperm => simp [hperm, eq_comm]
  · next hperm => simp [hperm]

section Step

variable [Add F] [Sub F] [LinearOrder F]

/-- One step; a step that is not possible in a state has no result. -/
def step (s : MeterSystem F) : MeterEvent F → Option (MeterSystem F)
  | .register transform =>
      match s.loop with
      | .notBooted =>
          -- only what the builders can build is registered
          if transform.isBuilt then some { s with metricer := s.metricer.register transform }
          else none
      | _ => none
  | .setReportInterval reportInterval =>
      match s.loop with
      | .notBooted =>
          some { s with metricer := { s.metricer with reportInterval := reportInterval } }
      | _ => none
  | .increment handle count =>
      match s.metricer.meters[handle]? with
      | some (.counter counter) =>
          some { s with
            metricer := s.metricer.setMeter handle (.counter (counter.increment count)) }
      | _ => none
  | .addValue handle value =>
      match s.metricer.meters[handle]? with
      | some (.histogram histogram) => some { s with
          metricer := s.metricer.setMeter handle (.histogram (histogram.addValue value)) }
      | _ => none
  | .boot order =>
      match s.loop with
      | .notBooted =>
          -- the panic of `interval` is the task's, the `Booting` is there all the same
          if s.metricer.reportInterval = 0 then
            some { s with loop := .panicked, booting := .held }
          else round { s with booting := .held } order
      | _ => none
  | .next meter clock =>
      match s.loop with
      | .reporting (m :: todo) =>
          if m = meter then
            s.metricer.meters[meter]?.map fun transform =>
              { s with loop := .transforming todo meter clock transform.begin }
          else none
      | _ => none
  | .load meter cell =>
      match s.loop with
      | .transforming todo m clock progress =>
          if m = meter then
            s.metricer.meters[meter]?.bind fun transform =>
              (transform.load cell progress).map fun progress =>
                { s with loop := .transforming todo meter clock progress }
          else none
      | _ => none
  | .swap =>
      match s.loop with
      | .transforming todo meter clock (.loaded currentCount) =>
          match s.metricer.meters[meter]? with
          | some (.counter counter) =>
              let swapped := counter.swapPrevious currentCount
              some { s with
                metricer := s.metricer.setMeter meter (.counter swapped.2)
                loop := .transforming todo meter clock (.value swapped.1) }
          | _ => none
      | _ => none
  | .get value =>
      match s.loop with
      | .transforming todo meter clock .start =>
          match s.metricer.meters[meter]? with
          | some (.gauge _) => some { s with loop := .transforming todo meter clock (.value value) }
          | _ => none
      | _ => none
  | .getPanics =>
      match s.loop with
      | .transforming _ meter _ .start =>
          match s.metricer.meters[meter]? with
          | some (.gauge _) =>
              -- the panic is caught, and the rest of the round is gone
              some { s with loop := .selecting }
          | _ => none
      | _ => none
  | .report panics =>
      match s.loop with
      | .transforming todo meter clock progress =>
          s.metricer.meters[meter]?.bind fun transform =>
            (transform.data s.metricer.service clock progress).map fun data => { s with
              loop := if panics then .selecting else .reporting todo
              reported := s.reported ++ [data] }
      | _ => none
  | .finish =>
      match s.loop with
      | .reporting [] => some { s with loop := .selecting }
      | _ => none
  | .tick order =>
      match s.loop with
      | .selecting => s.round order
      | _ => none
  | .shutdown =>
      match s.booting with
      | .held => some { s with booting := .shuttingDown }
      | _ => none
  | .drop =>
      match s.booting with
      | .held => some { s with booting := .dropped }
      | _ => none
  | .recv =>
      match s.loop, s.booting with
      | .selecting, .shuttingDown => some { s with loop := .returned }
      -- the sender is gone with the `Booting`
      | .selecting, .dropped => some { s with loop := .returned }
      | _, _ => none

/-- The run of a list of steps. -/
abbrev run : MeterSystem F → List (MeterEvent F) → Option (MeterSystem F) :=
  Lib.Execution.run step

end Step

/-- `shutdown` has resolved with `Ok`: the task has returned. -/
def isShutDown (s : MeterSystem F) : Bool :=
  match s.booting, s.loop with
  | .shuttingDown, .returned => true
  | _, _ => false

/-! ## What a step does -/

/-- What each step does, with the condition under which it is possible. -/
inductive Effect [Add F] [Sub F] [LinearOrder F] (s : MeterSystem F) :
    MeterEvent F → MeterSystem F → Prop where
  | register (transform : Meter F) (loop : s.loop = .notBooted) (built : transform.isBuilt = true) :
      Effect s (.register transform) { s with metricer := s.metricer.register transform }
  | setReportInterval (reportInterval : Nat) (loop : s.loop = .notBooted) :
      Effect s (.setReportInterval reportInterval)
        { s with metricer := { s.metricer with reportInterval := reportInterval } }
  | increment (handle : Nat) (count : F) (counter : Counter F)
      (meter : s.metricer.meters[handle]? = some (.counter counter)) :
      Effect s (.increment handle count)
        { s with metricer := s.metricer.setMeter handle (.counter (counter.increment count)) }
  | addValue (handle : Nat) (value : F) (histogram : Histogram F)
      (meter : s.metricer.meters[handle]? = some (.histogram histogram)) :
      Effect s (.addValue handle value)
        { s with metricer := s.metricer.setMeter handle (.histogram (histogram.addValue value)) }
  | bootPanics (order : List Nat) (loop : s.loop = .notBooted) :
      Effect s (.boot order) { s with loop := .panicked, booting := .held }
  | boot (order : List Nat) (loop : s.loop = .notBooted) (perm : order.Perm s.metricer.values) :
      Effect s (.boot order) { s with loop := .reporting order, booting := .held }
  | next (meter : Nat) (clock : Clock) (todo : List Nat) (transform : Meter F)
      (loop : s.loop = .reporting (meter :: todo))
      (found : s.metricer.meters[meter]? = some transform) :
      Effect s (.next meter clock)
        { s with loop := .transforming todo meter clock transform.begin }
  | load (meter cell : Nat) (todo : List Nat) (clock : Clock) (progress next : Progress F)
      (transform : Meter F) (loop : s.loop = .transforming todo meter clock progress)
      (found : s.metricer.meters[meter]? = some transform)
      (load : transform.load cell progress = some next) :
      Effect s (.load meter cell) { s with loop := .transforming todo meter clock next }
  | swap (todo : List Nat) (meter : Nat) (clock : Clock) (currentCount : F) (counter : Counter F)
      (loop : s.loop = .transforming todo meter clock (.loaded currentCount))
      (found : s.metricer.meters[meter]? = some (.counter counter)) :
      Effect s .swap { s with
        metricer := s.metricer.setMeter meter
          (.counter { counter with previousCount := currentCount })
        loop := .transforming todo meter clock (.value (currentCount - counter.previousCount)) }
  | get (value : F) (todo : List Nat) (meter : Nat) (clock : Clock) (gauge : Gauge)
      (loop : s.loop = .transforming todo meter clock .start)
      (found : s.metricer.meters[meter]? = some (.gauge gauge)) :
      Effect s (.get value) { s with loop := .transforming todo meter clock (.value value) }
  | getPanics (todo : List Nat) (meter : Nat) (clock : Clock) (gauge : Gauge)
      (loop : s.loop = .transforming todo meter clock .start)
      (found : s.metricer.meters[meter]? = some (.gauge gauge)) :
      Effect s .getPanics { s with loop := .selecting }
  | report (panics : Bool) (todo : List Nat) (meter : Nat) (clock : Clock) (progress : Progress F)
      (transform : Meter F) (data : MeterData F)
      (loop : s.loop = .transforming todo meter clock progress)
      (found : s.metricer.meters[meter]? = some transform)
      (data_eq : transform.data s.metricer.service clock progress = some data) :
      Effect s (.report panics) { s with
        loop := if panics then .selecting else .reporting todo
        reported := s.reported ++ [data] }
  | finish (loop : s.loop = .reporting []) : Effect s .finish { s with loop := .selecting }
  | tick (order : List Nat) (loop : s.loop = .selecting)
      (perm : order.Perm s.metricer.values) :
      Effect s (.tick order) { s with loop := .reporting order }
  | shutdown (booting : s.booting = .held) :
      Effect s .shutdown { s with booting := .shuttingDown }
  | drop (booting : s.booting = .held) : Effect s .drop { s with booting := .dropped }
  | recv (loop : s.loop = .selecting) : Effect s .recv { s with loop := .returned }

section Inversion

variable [Add F] [Sub F] [LinearOrder F] {s s' : MeterSystem F} {e : MeterEvent F}

theorem step_effect (h : s.step e = some s') : Effect s e s' := by
  cases e with
  | register transform =>
    simp only [step] at h
    split at h
    · next hloop =>
      split at h
      · next hbuilt =>
        obtain rfl := Option.some.inj h
        exact .register transform hloop hbuilt
      · cases h
    · cases h
  | setReportInterval reportInterval =>
    simp only [step] at h
    split at h
    · next hloop =>
      obtain rfl := Option.some.inj h
      exact .setReportInterval reportInterval hloop
    · cases h
  | increment handle count =>
    simp only [step] at h
    split at h
    · next counter hmeter =>
      obtain rfl := Option.some.inj h
      exact .increment handle count counter hmeter
    · cases h
  | addValue handle value =>
    simp only [step] at h
    split at h
    · next histogram hmeter =>
      obtain rfl := Option.some.inj h
      exact .addValue handle value histogram hmeter
    · cases h
  | boot order =>
    simp only [step] at h
    split at h
    · next hloop =>
      split at h
      · obtain rfl := Option.some.inj h
        exact .bootPanics order hloop
      · obtain ⟨hperm, rfl⟩ := round_eq_some_iff.1 h
        exact .boot order hloop hperm
    · cases h
  | next meter clock =>
    simp only [step] at h
    split at h
    · next m todo hloop =>
      split at h
      · next heq =>
        subst heq
        obtain ⟨transform, hfound, rfl⟩ := Option.map_eq_some_iff.1 h
        exact .next m clock todo transform hloop hfound
      · cases h
    · cases h
  | load meter cell =>
    simp only [step] at h
    split at h
    · next todo m clock progress hloop =>
      split at h
      · next heq =>
        subst heq
        obtain ⟨transform, hfound, hmap⟩ := Option.bind_eq_some_iff.1 h
        obtain ⟨next, hload, rfl⟩ := Option.map_eq_some_iff.1 hmap
        exact .load m cell todo clock progress next transform hloop hfound hload
      · cases h
    · cases h
  | swap =>
    simp only [step] at h
    split at h
    · next todo meter clock currentCount hloop =>
      split at h
      · next counter hfound =>
        obtain rfl := Option.some.inj h
        exact .swap todo meter clock currentCount counter hloop hfound
      · cases h
    · cases h
  | get value =>
    simp only [step] at h
    split at h
    · next todo meter clock hloop =>
      split at h
      · next gauge hfound =>
        obtain rfl := Option.some.inj h
        exact .get value todo meter clock gauge hloop hfound
      · cases h
    · cases h
  | getPanics =>
    simp only [step] at h
    split at h
    · next todo meter clock hloop =>
      split at h
      · next gauge hfound =>
        obtain rfl := Option.some.inj h
        exact .getPanics todo meter clock gauge hloop hfound
      · cases h
    · cases h
  | report panics =>
    simp only [step] at h
    split at h
    · next todo meter clock progress hloop =>
      obtain ⟨transform, hfound, hmap⟩ := Option.bind_eq_some_iff.1 h
      obtain ⟨data, hdata, rfl⟩ := Option.map_eq_some_iff.1 hmap
      exact .report panics todo meter clock progress transform data hloop hfound hdata
    · cases h
  | finish =>
    simp only [step] at h
    split at h
    · next hloop =>
      obtain rfl := Option.some.inj h
      exact .finish hloop
    · cases h
  | tick order =>
    simp only [step] at h
    split at h
    · next hloop =>
      obtain ⟨hperm, rfl⟩ := round_eq_some_iff.1 h
      exact .tick order hloop hperm
    · cases h
  | shutdown =>
    simp only [step] at h
    split at h
    · next hbooting =>
      obtain rfl := Option.some.inj h
      exact .shutdown hbooting
    · cases h
  | drop =>
    simp only [step] at h
    split at h
    · next hbooting =>
      obtain rfl := Option.some.inj h
      exact .drop hbooting
    · cases h
  | recv =>
    simp only [step] at h
    split at h
    · next hloop _ =>
      obtain rfl := Option.some.inj h
      exact .recv hloop
    · next hloop _ =>
      obtain rfl := Option.some.inj h
      exact .recv hloop
    · cases h

end Inversion

end MeterSystem

end SkywalkingAgent.Metrics
