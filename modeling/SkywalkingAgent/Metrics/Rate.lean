import SkywalkingAgent.Metrics.Meter
import SkywalkingAgent.Lib.Execution
import Mathlib.Algebra.BigOperators.Group.List.Basic
import Mathlib.Algebra.Group.Int.Defs

/-!
# Reports of a counter

The atomic steps at one counter: increments, and the load and the swap of its transforms, from any
number of threads and in any order. A `RATE` transform is two steps and others may stand between
them. The batches of a run are the increments between two loads that follow each other. Whatever
the order, the reports add up to `previous_count`; when no transform starts inside another, the
reports are the sums of the batches, and their running sums are what an `INCREMENT` counter reports.
-/

set_option autoImplicit false

namespace SkywalkingAgent.Metrics

open SkywalkingAgent.Lib.Execution SkywalkingAgent.Common SkywalkingAgent.Proto

variable {F : Type}

/-! ## The steps -/

/-- What happens to a counter: increments, and the two accesses of a transform. -/
inductive CounterEvent (F : Type) where
  | increment (count : F)
  /-- A transform starts, with its load of `count`. -/
  | load
  /-- The transform that was the `t`-th to load swaps `previous_count`. -/
  | swap (t : Nat)
  deriving DecidableEq, Repr

/-- How far a transform is. -/
inductive TransformState (F : Type) where
  | loaded (currentCount : F)
  | reported
  deriving DecidableEq, Repr

/-- A counter with the transforms begun on it, in the order of their loads, and the values reported,
in the order in which the transforms ended. -/
structure Metering (F : Type) where
  counter : Counter F
  transforms : List (TransformState F)
  reports : List F
  deriving DecidableEq, Repr

namespace Metering

/-- A counter as it is registered: labelled and with a mode, and nothing counted. -/
def new [Zero F] (name : String) (tags : List (String × String)) (mode : CounterMode) :
    Metering F := ⟨((Counter.new name).addLabels tags).setMode mode, [], []⟩

variable [Add F] [Sub F]

/-- One step; an `INCREMENT` transform has no swap. -/
def step (s : Metering F) : CounterEvent F → Option (Metering F)
  | .increment count => some { s with counter := s.counter.increment count }
  | .load =>
      match s.counter.mode with
      | .increment =>
          -- an `INCREMENT` transform ends with its load
          some { s with transforms := s.transforms ++ [.reported],
                        reports := s.reports ++ [s.counter.get] }
      | .rate => some { s with transforms := s.transforms ++ [.loaded s.counter.get] }
  | .swap t =>
      match s.transforms[t]? with
      | some (.loaded currentCount) =>
          some { counter := (s.counter.swapPrevious currentCount).2,
                 transforms := s.transforms.set t .reported,
                 reports := s.reports ++ [(s.counter.swapPrevious currentCount).1] }
      | _ => none

theorem step_swap {s s' : Metering F} {t : Nat} (h : s.step (.swap t) = some s') :
    ∃ v, s.transforms[t]? = some (.loaded v) ∧
      s' = { counter := { s.counter with previousCount := v },
             transforms := s.transforms.set t .reported,
             reports := s.reports ++ [v - s.counter.previousCount] } := by
  simp only [step] at h
  split at h
  · rename_i v hv
    exact ⟨v, hv, (Option.some.inj h).symm⟩
  · exact nomatch h

/-- A load and its swap with nothing between them are `Counter::transform`. -/
theorem run_transform (service : Service) (clock : Clock) {s : Metering F}
    (hmode : s.counter.mode = .rate) :
    run step s [.load, .swap s.transforms.length] =
      some { counter := (s.counter.transform service clock).2,
             transforms := s.transforms ++ [.reported],
             reports := s.reports ++ [s.counter.get - s.counter.previousCount] } ∧
    (s.counter.transform service clock).1 =
      singleValue service clock s.counter.id (s.counter.get - s.counter.previousCount) := by
  simp [run, step, Counter.transform, Counter.swapPrevious, hmode]

end Metering

/-! ## What a run asks for -/

namespace CounterEvent

/-- The increments of a run. -/
def increments (es : List (CounterEvent F)) : List F :=
  es.filterMap fun
    | .increment count => some count
    | _ => none

/-- The number of transforms that have started. -/
def loads (es : List (CounterEvent F)) : Nat :=
  es.countP fun
    | .load => true
    | _ => false

/-- The number of transforms that have swapped. -/
def swaps (es : List (CounterEvent F)) : Nat :=
  es.countP fun
    | .swap _ => true
    | _ => false

/-- No transform starts while another has loaded and not yet swapped. -/
def Sequential [DecidableEq F] (es : List (CounterEvent F)) : Prop :=
  ∀ n < es.length, es[n]? = some .load → loads (es.take n) = swaps (es.take n)

instance [DecidableEq F] (es : List (CounterEvent F)) : Decidable (Sequential es) :=
  inferInstanceAs (Decidable (∀ n < es.length, _))

/-- The batches closed by a load, and the increments since the last load. -/
def addToBatches (batches : List (List F) × List F) : CounterEvent F → List (List F) × List F
  | .increment count => (batches.1, batches.2 ++ [count])
  | .load => (batches.1 ++ [batches.2], [])
  | .swap _ => batches

/-- The increments of a run, in batches. -/
def batches (es : List (CounterEvent F)) : List (List F) × List F := es.foldl addToBatches ([], [])

/-- The events without the swaps: what happens at an `INCREMENT` counter with the same increments
and the same loads. -/
def withoutSwaps (es : List (CounterEvent F)) : List (CounterEvent F) :=
  es.filter fun
    | .swap _ => false
    | _ => true

theorem batches_concat (es : List (CounterEvent F)) (e : CounterEvent F) :
    batches (es ++ [e]) = addToBatches (batches es) e := by
  simp [batches, List.foldl_append]

/-- The batches and what is left over are the increments, each in one place. -/
theorem batches_flatten (es : List (CounterEvent F)) :
    (batches es).1.flatten ++ (batches es).2 = increments es := by
  induction es using List.reverseRecOn with
  | nil => rfl
  | append_singleton es e ih =>
    rw [batches_concat, increments, List.filterMap_append, ← increments, ← ih]
    cases e <;> simp [addToBatches]

theorem batches_length (es : List (CounterEvent F)) : (batches es).1.length = loads es := by
  induction es using List.reverseRecOn with
  | nil => rfl
  | append_singleton es e ih =>
    rw [batches_concat, loads, List.countP_append, ← loads, ← ih]
    cases e <;> simp [addToBatches]

theorem Sequential.init [DecidableEq F] {es : List (CounterEvent F)} {e : CounterEvent F}
    (h : Sequential (es ++ [e])) : Sequential es := by
  intro n hn hload
  have hlong := h n (by simp; omega)
    (by rw [List.getElem?_append_left hn]; exact hload)
  rwa [List.take_append_of_le_length hn.le] at hlong

theorem Sequential.last [DecidableEq F] {es : List (CounterEvent F)}
    (h : Sequential (es ++ [.load])) : loads es = swaps es := by
  have hlong := h es.length (by simp) (by simp)
  rwa [List.take_append_of_le_length le_rfl, List.take_length] at hlong

end CounterEvent

/-! ## The invariant of a `RATE` counter -/

namespace Metering

open CounterEvent

variable [AddCommGroup F]

/-- What holds at a `RATE` counter after the events `es`, in whatever order they came. -/
structure Counted (es : List (CounterEvent F)) (s : Metering F) : Prop where
  mode : s.counter.mode = .rate
  count : s.counter.count = (increments es).sum
  begun : s.transforms.length = loads es
  ended : s.reports.length = swaps es
  /-- A transform holds the sum of the batches up to its own load. -/
  loaded : ∀ (t : Nat) (v : F), s.transforms[t]? = some (.loaded v) →
    v = ((batches es).1.take (t + 1)).flatten.sum
  previous : s.reports.sum = s.counter.previousCount

theorem counted_step {es : List (CounterEvent F)} {e : CounterEvent F} {s s' : Metering F}
    (h : Counted es s) (hstep : s.step e = some s') : Counted (es ++ [e]) s' := by
  cases e with
  | increment count =>
    obtain rfl := Option.some.inj hstep
    refine ⟨h.mode, ?_, ?_, ?_, ?_, h.previous⟩
    · simp [Counter.increment, h.count, increments]
    · simpa [loads] using h.begun
    · simpa [swaps] using h.ended
    · -- an increment closes no batch
      intro t v hv
      rw [batches_concat]
      exact h.loaded t v hv
  | load =>
    simp only [step, h.mode, Option.some.injEq] at hstep
    subst hstep
    refine ⟨h.mode, ?_, ?_, ?_, ?_, h.previous⟩
    · simpa [increments] using h.count
    · simpa [loads] using h.begun
    · simpa [swaps] using h.ended
    · -- the new transform has loaded what all batches add up to, its own among them
      intro t v hv
      have hlen : s.transforms.length = (batches es).1.length := by
        rw [h.begun, batches_length]
      rw [batches_concat]
      simp only [addToBatches]
      rcases Nat.lt_or_ge t s.transforms.length with hlt | hge
      · rw [List.getElem?_append_left hlt] at hv
        rw [List.take_append_of_le_length (by omega)]
        exact h.loaded t v hv
      · have hlast : t = s.transforms.length := by
          have := (List.getElem?_eq_some_iff.1 hv).1
          simp at this
          omega
        subst hlast
        simp only [List.getElem?_concat_length, Option.some.injEq,
          TransformState.loaded.injEq] at hv
        rw [List.take_of_length_le (by simp; omega), ← hv]
        simp only [Counter.get, h.count, List.flatten_append, List.flatten_singleton,
          batches_flatten]
  | swap t =>
    obtain ⟨v, hv, rfl⟩ := step_swap hstep
    refine ⟨h.mode, ?_, ?_, ?_, ?_, ?_⟩
    · simpa [increments] using h.count
    · simpa [loads] using h.begun
    · simpa [swaps] using h.ended
    · intro t' v' hv'
      rw [batches_concat]
      -- the transform that has just reported holds no value any more
      have hne : t ≠ t' := by
        rintro rfl
        have hlt := (List.getElem?_eq_some_iff.1 hv).1
        simp [List.getElem?_set_self hlt] at hv'
      rw [List.getElem?_set_ne hne] at hv'
      exact h.loaded t' v' hv'
    · -- the swap adds the difference to the old value, which the reports summed up to
      rw [List.sum_append, h.previous, List.sum_singleton]
      exact add_sub_cancel _ _

theorem counted_new (name : String) (tags : List (String × String)) :
    Counted [] (new name tags .rate : Metering F) :=
  ⟨rfl, rfl, rfl, rfl, fun _ _ hv => (nomatch hv), rfl⟩

theorem counted_run {name : String} {tags : List (String × String)} {es : List (CounterEvent F)}
    {s : Metering F} (hrun : run step (new name tags .rate) es = some s) : Counted es s := by
  apply run_history (I := Counted) _ (fun _ _ _ _ => counted_step) hrun
  exact counted_new name tags

/-! ## Transforms that do not overlap -/

section Sequential

variable [DecidableEq F]

/-- Every transform has reported, but for the last one at most, and the reports are the sums of the
batches they closed. -/
structure InTurn (es : List (CounterEvent F)) (s : Metering F) : Prop where
  transforms : ∃ open_ : List (TransformState F), open_.length ≤ 1 ∧
    s.transforms = List.replicate s.reports.length .reported ++ open_
  reports : s.reports = ((batches es).1.take s.reports.length).map List.sum

theorem inTurn_step {es : List (CounterEvent F)} {e : CounterEvent F} {s s' : Metering F}
    (hc : Counted es s) (h : InTurn es s) (hseq : Sequential (es ++ [e]))
    (hstep : s.step e = some s') : InTurn (es ++ [e]) s' := by
  obtain ⟨open_, hopen, htransforms⟩ := h.transforms
  have hlen : s.transforms.length = s.reports.length + open_.length := by
    rw [htransforms, List.length_append, List.length_replicate]
  have hbegun : s.transforms.length = (batches es).1.length := by
    rw [hc.begun, batches_length]
  cases e with
  | increment count =>
    obtain rfl := Option.some.inj hstep
    refine ⟨h.transforms, ?_⟩
    rw [batches_concat]
    exact h.reports
  | load =>
    -- all transforms begun have ended, so the new one is the only one open
    have hnone : open_ = [] := by
      have hseq' := hseq.last
      rw [← hc.begun, ← hc.ended] at hseq'
      exact List.length_eq_zero_iff.1 (by omega)
    subst hnone
    simp only [step, hc.mode, Option.some.injEq] at hstep
    subst hstep
    refine ⟨⟨[.loaded s.counter.get], le_rfl, ?_⟩, ?_⟩
    · rw [List.append_nil] at htransforms
      exact congrArg (· ++ _) htransforms
    · rw [batches_concat]
      simp only [addToBatches]
      rw [List.take_append_of_le_length (by simp at hlen; omega)]
      exact h.reports
  | swap t =>
    obtain ⟨v, hv, rfl⟩ := step_swap hstep
    -- the transform that swaps is the open one, the last that has loaded
    have hlast : t = s.reports.length ∧ open_ = [.loaded v] := by
      rw [htransforms] at hv
      rcases Nat.lt_or_ge t s.reports.length with hlt | hge
      · rw [List.getElem?_append_left (by simpa using hlt)] at hv
        simp [hlt] at hv
      · rw [List.getElem?_append_right (by simpa using hge), List.length_replicate] at hv
        obtain ⟨hbound, hval⟩ := List.getElem?_eq_some_iff.1 hv
        obtain ⟨w, rfl⟩ := List.length_eq_one_iff.1 (by omega : open_.length = 1)
        have hzero : t - s.reports.length = 0 := by simp at hbound; omega
        simp only [List.getElem_singleton] at hval
        exact ⟨by omega, by rw [hval]⟩
    obtain ⟨rfl, rfl⟩ := hlast
    have hwhole := hc.loaded _ v hv
    have hlt : s.reports.length < (batches es).1.length := by simp at hlen; omega
    have htake : (batches es).1.take (s.reports.length + 1) =
        (batches es).1.take s.reports.length ++ [(batches es).1[s.reports.length]] :=
      (List.take_concat_get' _ _ hlt).symm
    refine ⟨⟨[], by simp, ?_⟩, ?_⟩
    · rw [htransforms]
      simp [List.replicate_succ']
    · rw [batches_concat]
      simp only [addToBatches, List.length_append, List.length_singleton]
      -- the earlier batches cancel against `previous_count`
      have hold : s.counter.previousCount =
          ((batches es).1.take s.reports.length).flatten.sum := by
        rw [← hc.previous, List.sum_flatten, ← h.reports]
      have hnew : v - s.counter.previousCount = (batches es).1[s.reports.length].sum := by
        rw [hwhole, hold, htake, List.flatten_append, List.sum_append, List.flatten_singleton]
        exact add_sub_cancel_left _ _
      rw [htake, List.map_append, ← h.reports, List.map_singleton, hnew]

theorem inTurn_run {name : String} {tags : List (String × String)} {es : List (CounterEvent F)}
    {s : Metering F} (hrun : run step (new name tags .rate) es = some s)
    (hseq : Sequential es) : InTurn es s := by
  have hboth : Counted es s ∧ (Sequential es → InTurn es s) := by
    apply run_history (I := fun es s => Counted es s ∧ (Sequential es → InTurn es s)) _ _ hrun
    · exact ⟨counted_new name tags, fun _ => ⟨⟨[], by simp, rfl⟩, rfl⟩⟩
    · intro h a b e ⟨hc, hin⟩ hstep
      exact ⟨counted_step hc hstep, fun hseq => inTurn_step hc (hin hseq.init) hseq hstep⟩
  exact hboth.2 hseq

end Sequential

/-! ## The `INCREMENT` counter beside it -/

/-- An `INCREMENT` counter takes the same increments and loads, and reports at every load the sum of
all batches so far. -/
theorem run_increment (name : String) (tags : List (String × String))
    (es : List (CounterEvent F)) :
    ∃ t : Metering F, run step (new name tags .increment) (withoutSwaps es) = some t ∧
      t.counter.mode = .increment ∧ t.counter.count = (increments es).sum ∧
      t.reports.length = loads es ∧
      ∀ k (hk : k < t.reports.length),
        t.reports[k] = ((batches es).1.take (k + 1)).flatten.sum := by
  induction es using List.reverseRecOn with
  | nil => exact ⟨_, rfl, rfl, rfl, rfl, fun k hk => nomatch hk⟩
  | append_singleton es e ih =>
    -- the counter is never reset, so a load reads what all batches add up to
    obtain ⟨t, hrun, hmode, hcount, hlen, hreports⟩ := ih
    have hbatches := batches_length es
    rw [withoutSwaps, List.filter_append, ← withoutSwaps]
    cases e with
    | increment count =>
      refine ⟨{ t with counter := t.counter.increment count }, ?_, hmode, ?_, ?_, ?_⟩
      · exact run_concat_iff.2 ⟨t, hrun, rfl⟩
      · simp [Counter.increment, hcount, increments]
      · simpa [loads] using hlen
      · rw [batches_concat]
        exact hreports
    | load =>
      refine ⟨{ t with transforms := t.transforms ++ [.reported],
                       reports := t.reports ++ [t.counter.get] }, ?_, hmode, ?_, ?_, ?_⟩
      · exact run_concat_iff.2 ⟨t, hrun, by simp [step, hmode]⟩
      · simpa [increments] using hcount
      · simpa [loads] using hlen
      · intro k hk
        rw [batches_concat]
        simp only [addToBatches]
        rcases Nat.lt_or_ge k t.reports.length with hlt | hge
        · rw [List.getElem_append_left hlt, hreports k hlt,
            List.take_append_of_le_length (by omega)]
        · have hlast : k = t.reports.length := by
            simp at hk
            omega
          subst hlast
          rw [List.getElem_concat_length rfl, List.take_of_length_le (by simp; omega)]
          simp only [Counter.get, hcount, List.flatten_append, List.flatten_singleton,
            batches_flatten]
    | swap k =>
      refine ⟨t, by simpa using hrun, hmode, ?_, ?_, ?_⟩
      · simpa [increments] using hcount
      · simpa [loads] using hlen
      · rw [batches_concat]
        exact hreports

/-! ## The reports -/

/-- In every run of increments and transforms the `RATE` reports add up to `previous_count`. When
transforms do not overlap, the `k`-th report is the sum of the `k`-th batch, the batches and the
increments after the last load are all the increments in order, at most the last batch is not yet
reported, and the running sums are the reports of an `INCREMENT` counter with the same increments
and loads. -/
theorem rate_partitions_increments [DecidableEq F] {name : String} {tags : List (String × String)}
    {es : List (CounterEvent F)} {s : Metering F}
    (hrun : run step (new name tags .rate) es = some s) :
    s.reports.sum = s.counter.previousCount ∧
    (Sequential es →
      s.reports = ((batches es).1.take s.reports.length).map List.sum ∧
      (batches es).1.flatten ++ (batches es).2 = increments es ∧
      (batches es).1.length = loads es ∧
      s.reports.length ≤ loads es ∧ loads es ≤ s.reports.length + 1 ∧
      ∃ t, run step (new name tags .increment) (withoutSwaps es) = some t ∧
        t.reports.length = loads es ∧
        ∀ k < s.reports.length, t.reports[k]? = some (s.reports.take (k + 1)).sum) := by
  have hc := counted_run hrun
  refine ⟨hc.previous, fun hseq => ?_⟩
  have hin := inTurn_run hrun hseq
  obtain ⟨open_, hopen, htransforms⟩ := hin.transforms
  have hlen : loads es = s.reports.length + open_.length := by
    rw [← hc.begun, htransforms, List.length_append, List.length_replicate]
  refine ⟨hin.reports, batches_flatten es, batches_length es, by omega, by omega, ?_⟩
  obtain ⟨t, ht, -, -, htlen, htreports⟩ := run_increment name tags es
  refine ⟨t, ht, htlen, fun k hk => ?_⟩
  have hkt : k < t.reports.length := by omega
  rw [List.getElem?_eq_getElem hkt, htreports k hkt, hin.reports, ← List.map_take,
    List.take_take, Nat.min_eq_left hk, List.sum_flatten]

/-- Three increments around two transforms: the second transform loads after the first has swapped,
and the increment between the load and the swap of the first is left to the second. -/
theorem rate_partitions_increments_two :
    let es : List (CounterEvent Int) :=
      [.increment 3, .load, .increment 4, .swap 0, .increment 5, .load, .swap 1]
    (batches es).1 = [[3], [4, 5]] ∧
    ∃ s, run step (new "requests" [] .rate) es = some s ∧ s.reports = [3, 9] ∧
      s.reports.sum = s.counter.previousCount ∧
      s.reports = ((batches es).1.take s.reports.length).map List.sum := by
  intro es
  have hrun : ∃ s, run step (new "requests" [] .rate) es = some s ∧ s.reports = [3, 9] :=
    ⟨_, rfl, rfl⟩
  obtain ⟨s, hs, hreports⟩ := hrun
  have hseq : Sequential es := by decide
  exact ⟨rfl, s, hs, hreports, (rate_partitions_increments hs).1,
    ((rate_partitions_increments hs).2 hseq).1⟩

end Metering

end SkywalkingAgent.Metrics
