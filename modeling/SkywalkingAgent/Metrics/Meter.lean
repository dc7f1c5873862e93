import SkywalkingAgent.Common
import SkywalkingAgent.Lib.Search
import SkywalkingAgent.Proto
import Mathlib.Algebra.Group.Defs
import Mathlib.Data.List.Destutter
import Mathlib.Data.List.Sort

/-!
# Meters

`Counter`, `Gauge` and `Histogram` of `metrics/meter.rs`. The values are of a type `F` with exact
arithmetic and, for histograms, a linear order. An atomic cell is a field; a transform that reads
and writes several cells is given by its atomic parts, and where nothing can come between them by
the function that runs them all.
-/

set_option autoImplicit false

namespace SkywalkingAgent.Metrics

open SkywalkingAgent.Lib SkywalkingAgent.Common SkywalkingAgent.Proto

/-- `MeterType`. -/
inductive MeterType where
  | counter
  | gauge
  | histogram
  deriving DecidableEq, Repr

/-- `MeterId`. -/
structure MeterId where
  name : String
  typ : MeterType
  labels : List (String × String)
  deriving DecidableEq, Repr

namespace MeterId

/-- `MeterId::add_label`. -/
def addLabel (self : MeterId) (key value : String) : MeterId :=
  { self with labels := self.labels ++ [(key, value)] }

/-- `MeterId::add_labels`. -/
def addLabels (self : MeterId) (tags : List (String × String)) : MeterId :=
  { self with labels := self.labels ++ tags }

/-- The labels of the meter in a report. -/
def reportLabels (self : MeterId) : List Label := self.labels.map fun label => ⟨label.1, label.2⟩

end MeterId

/-- The service names of the metricer, which every transform reads. -/
structure Service where
  serviceName : String
  instanceName : String
  deriving DecidableEq, Repr

section Report

variable {F : Type}

/-- The report of a counter or a gauge. -/
def singleValue (service : Service) (clock : Clock) (id : MeterId) (value : F) : MeterData F where
  service := service.serviceName
  serviceInstance := service.instanceName
  timestamp := clock .metric
  metric := some (.singleValue ⟨id.name, id.reportLabels, value⟩)

/-- The report of a histogram. -/
def histogramValues (service : Service) (clock : Clock) (id : MeterId)
    (values : List (MeterBucketValue F)) : MeterData F where
  service := service.serviceName
  serviceInstance := service.instanceName
  timestamp := clock .metric
  metric := some (.histogram ⟨id.name, id.reportLabels, values⟩)

end Report

/-! ## Counters -/

/-- `CounterMode`. -/
inductive CounterMode where
  | increment
  | rate
  deriving DecidableEq, Repr

/-- `Counter`, with the values of its two atomic cells. -/
structure Counter (F : Type) where
  id : MeterId
  mode : CounterMode
  count : F
  previousCount : F
  deriving DecidableEq, Repr

namespace Counter

variable {F : Type}

/-- `Counter::new`. -/
def new [Zero F] (name : String) : Counter F := ⟨⟨name, .counter, []⟩, .increment, 0, 0⟩

/-- `Counter::add_label`. -/
def addLabel (self : Counter F) (key value : String) : Counter F :=
  { self with id := self.id.addLabel key value }

/-- `Counter::add_labels`. -/
def addLabels (self : Counter F) (tags : List (String × String)) : Counter F :=
  { self with id := self.id.addLabels tags }

/-- `Counter::mode`. -/
def setMode (self : Counter F) (mode : CounterMode) : Counter F := { self with mode := mode }

/-- `Counter::increment`. -/
def increment [Add F] (self : Counter F) (count : F) : Counter F :=
  { self with count := self.count + count }

/-- `Counter::get`, which is also the load of a transform. -/
def get (self : Counter F) : F := self.count

/-- The swap of a `RATE` transform that has loaded `currentCount`, with the value it reports. -/
def swapPrevious [Sub F] (self : Counter F) (currentCount : F) : F × Counter F :=
  (currentCount - self.previousCount, { self with previousCount := currentCount })

/-- `Counter::transform` with nothing in between. -/
def transform [Sub F] (service : Service) (clock : Clock) (self : Counter F) :
    MeterData F × Counter F :=
  match self.mode with
  | .increment => (singleValue service clock self.id self.get, self)
  | .rate =>
      let swapped := self.swapPrevious self.get
      (singleValue service clock self.id swapped.1, swapped.2)

end Counter

/-! ## Gauges -/

/-- A gauge; its getter is code of the caller, and a transform takes the value it returns. -/
structure Gauge where
  id : MeterId
  deriving DecidableEq, Repr

namespace Gauge

/-- `Gauge::new`. -/
def new (name : String) : Gauge := ⟨⟨name, .gauge, []⟩⟩

/-- `Gauge::add_label`. -/
def addLabel (self : Gauge) (key value : String) : Gauge := ⟨self.id.addLabel key value⟩

/-- `Gauge::add_labels`. -/
def addLabels (self : Gauge) (tags : List (String × String)) : Gauge := ⟨self.id.addLabels tags⟩

/-- `Gauge::transform`. -/
def transform {F : Type} (service : Service) (clock : Clock) (value : F) (self : Gauge) :
    MeterData F := singleValue service clock self.id value

end Gauge

/-! ## Histograms -/

/-- The value of an `i64` after wrapping. -/
def wrapI64 (x : Int) : Int := x.bmod (2 ^ 64)

/-- `Bucket`: the lower bound of its values, and how many there were. -/
structure Bucket (F : Type) where
  bucket : F
  count : Int
  deriving DecidableEq, Repr

namespace Bucket

variable {F : Type}

/-- `Bucket::new`. -/
def new (bucker : F) : Bucket F := ⟨bucker, 0⟩

/-- `count.fetch_add(1)`. -/
def fetchAdd (self : Bucket F) : Bucket F := { self with count := wrapI64 (self.count + 1) }

/-- The bucket in a report. -/
def value (self : Bucket F) : MeterBucketValue F := ⟨self.bucket, self.count, false⟩

end Bucket

/-- `Histogram`, with its buckets in the order of their bounds. -/
structure Histogram (F : Type) where
  id : MeterId
  buckets : List (Bucket F)
  deriving DecidableEq, Repr

/-- `Vec::dedup`: of every run of equal elements the first stays. -/
def dedup {F : Type} [DecidableEq F] (steps : List F) : List F := steps.destutter (· ≠ ·)

namespace Histogram

variable {F : Type} [LinearOrder F]

/-- `Histogram::new`. -/
def new (name : String) (steps : List F) : Histogram F :=
  ⟨⟨name, .histogram, []⟩, (dedup (steps.insertionSort (· ≤ ·))).map .new⟩

/-- `Histogram::add_label`. -/
def addLabel (self : Histogram F) (key value : String) : Histogram F :=
  { self with id := self.id.addLabel key value }

/-- `Histogram::add_labels`. -/
def addLabels (self : Histogram F) (tags : List (String × String)) : Histogram F :=
  { self with id := self.id.addLabels tags }

/-- `Histogram::find_bucket`. -/
def findBucket (self : Histogram F) (value : F) : Option Nat :=
  match binarySearchBy (fun bucket => compare bucket.bucket value) self.buckets with
  | .ok i => some i
  -- the place of a missing value is one past the bucket it falls to
  | .error i => if 1 ≤ i then some (i - 1) else none

/-- `Histogram::add_value`. -/
def addValue (self : Histogram F) (value : F) : Histogram F :=
  match self.findBucket value with
  | some index => { self with buckets := self.buckets.modify index Bucket.fetchAdd }
  -- a value below the smallest step is in no bucket
  | none => self

/-- `Histogram::transform` with nothing between the loads of the buckets. -/
def transform (service : Service) (clock : Clock) (self : Histogram F) : MeterData F :=
  histogramValues service clock self.id (self.buckets.map Bucket.value)

end Histogram

end SkywalkingAgent.Metrics
