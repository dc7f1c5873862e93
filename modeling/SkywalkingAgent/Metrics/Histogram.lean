import SkywalkingAgent.Metrics.Meter
import Mathlib.Algebra.BigOperators.Ring.Finset

/-!
# What a histogram counts

The steps of a histogram are sorted and freed of repetitions, so every value belongs to at most one
bucket (`owns`), and the search of `find_bucket` finds it. `Histogram.counts_values` says what is
reported after any sequence of values.
-/

set_option autoImplicit false

namespace SkywalkingAgent.Metrics

open SkywalkingAgent.Lib SkywalkingAgent.Common SkywalkingAgent.Proto

variable {F : Type} [LinearOrder F]

/-! ## The steps -/

/-- Of a sorted list the repetitions go, and every element stays. -/
theorem dedup_sorted {l : List F} (hl : l.Pairwise (· ≤ ·)) :
    (dedup l).Pairwise (· < ·) ∧ ∀ x, x ∈ dedup l ↔ x ∈ l := by
  have key : ∀ (l : List F) (a : F), (a :: l).Pairwise (· ≤ ·) →
      (l.destutter' (· ≠ ·) a).Pairwise (· < ·) ∧
        ∀ x, x ∈ l.destutter' (· ≠ ·) a ↔ x ∈ a :: l := by
    intro l
    induction l with
    | nil =>
      intro a _
      simp
    | cons b l ih =>
      intro a hl
      obtain ⟨ha, hrest⟩ := List.pairwise_cons.1 hl
      by_cases hab : a = b
      · -- the second of two equal elements is left out
        subst hab
        rw [List.destutter'_cons_neg l (by simp)]
        obtain ⟨hlt, hmem⟩ := ih a hrest
        refine ⟨hlt, fun x => ?_⟩
        rw [hmem]
        simp
      · rw [List.destutter'_cons_pos l hab]
        obtain ⟨hlt, hmem⟩ := ih b hrest
        refine ⟨List.pairwise_cons.2 ⟨fun x hx => ?_, hlt⟩, fun x => ?_⟩
        · have hbx : b ≤ x := by
            rcases List.mem_cons.1 ((hmem x).1 hx) with rfl | hx
            · exact le_refl _
            · exact (List.pairwise_cons.1 hrest).1 x hx
          exact lt_of_lt_of_le (lt_of_le_of_ne (ha b List.mem_cons_self) hab) hbx
        · rw [List.mem_cons, hmem, List.mem_cons (b := a)]
  cases l with
  | nil => simp [dedup]
  | cons a l => exact key l a hl

/-- The bounds of the buckets: the distinct steps in order. -/
def distinctSteps (steps : List F) : List F := dedup (steps.insertionSort (· ≤ ·))

theorem distinctSteps_sorted (steps : List F) : (distinctSteps steps).Pairwise (· < ·) :=
  (dedup_sorted (List.pairwise_insertionSort _ _)).1

theorem mem_distinctSteps {steps : List F} {x : F} : x ∈ distinctSteps steps ↔ x ∈ steps := by
  unfold distinctSteps
  rw [(dedup_sorted (List.pairwise_insertionSort _ _)).2, List.mem_insertionSort]

/-! ## The bucket of a value -/

/-- The value belongs to the bucket: not below its bound, and below the next one. -/
def owns (bounds : List F) (i : Nat) (value : F) : Bool :=
  (bounds[i]?).any fun bound =>
    decide (bound ≤ value) && (bounds[i + 1]?).all fun next => decide (value < next)

section Owns

variable {bounds : List F} {i j : Nat} {value : F}

theorem owns_iff : owns bounds i value = true ↔ ∃ bound, bounds[i]? = some bound ∧
    bound ≤ value ∧ ∀ next, bounds[i + 1]? = some next → value < next := by
  unfold owns
  simp [Option.any_eq_true, Option.all_eq_true]

/-- In sorted bounds a smaller index has a smaller bound. -/
theorem lt_of_sorted (hsorted : bounds.Pairwise (· < ·)) (hij : i < j) {a b : F}
    (ha : bounds[i]? = some a) (hb : bounds[j]? = some b) : a < b := by
  obtain ⟨hi, rfl⟩ := List.getElem?_eq_some_iff.1 ha
  obtain ⟨hj, rfl⟩ := List.getElem?_eq_some_iff.1 hb
  exact List.pairwise_iff_getElem.1 hsorted i j hi hj hij

theorem not_owns_of_lt (hsorted : bounds.Pairwise (· < ·)) (hi : owns bounds i value = true)
    (hij : i < j) : owns bounds j value = false := by
  rw [← Bool.not_eq_true]
  intro hj
  obtain ⟨a, ha, -, hnext⟩ := owns_iff.1 hi
  obtain ⟨b, hb, hbv, -⟩ := owns_iff.1 hj
  have hlen : i + 1 < bounds.length :=
    Nat.lt_of_le_of_lt hij (List.getElem?_eq_some_iff.1 hb).1
  have hget := List.getElem?_eq_getElem hlen
  have hle : bounds[i + 1] ≤ b := by
    rcases Nat.lt_or_eq_of_le (Nat.succ_le_of_lt hij) with hlt | rfl
    · exact le_of_lt (lt_of_sorted hsorted hlt hget hb)
    · rw [hget, Option.some.injEq] at hb
      exact le_of_eq hb
  exact absurd hbv (not_le_of_gt (lt_of_lt_of_le (hnext _ hget) hle))

/-- A value belongs to one bucket at most. -/
theorem owns_unique (hsorted : bounds.Pairwise (· < ·)) (hi : owns bounds i value = true)
    (hj : owns bounds j value = true) : i = j := by
  rcases Nat.lt_trichotomy i j with hlt | heq | hgt
  · rw [not_owns_of_lt hsorted hi hlt] at hj
    cases hj
  · exact heq
  · rw [not_owns_of_lt hsorted hj hgt] at hi
    cases hi

end Owns

namespace Histogram

variable {self : Histogram F} {value : F}

/-- The bounds of a histogram. -/
def bounds (self : Histogram F) : List F := self.buckets.map fun bucket => bucket.bucket

theorem ranked_buckets (hsorted : self.bounds.Pairwise (· < ·)) :
    Ranked (fun bucket : Bucket F => compare bucket.bucket value) self.buckets := by
  unfold Histogram.bounds at hsorted
  rw [List.pairwise_map] at hsorted
  apply hsorted.imp
  intro a b hab
  constructor
  · intro h
    exact compare_lt_iff_lt.2 (lt_trans hab (compare_lt_iff_lt.1 h))
  · intro h
    exact compare_gt_iff_gt.2 (lt_trans (compare_gt_iff_gt.1 h) hab)

/-- `find_bucket` finds nothing only for a value below every bound. -/
theorem lt_of_findBucket_eq_none (hsorted : self.bounds.Pairwise (· < ·))
    (h : self.findBucket value = none) {bucket : Bucket F} (hbucket : bucket ∈ self.buckets) :
    value < bucket.bucket := by
  obtain ⟨i, hi⟩ := List.mem_iff_getElem?.1 hbucket
  unfold findBucket at h
  split at h
  · cases h
  · next k hk =>
    split at h
    · cases h
    · next hzero =>
      have hwindow := binarySearchBy_error (ranked_buckets hsorted) hk
      exact compare_gt_iff_gt.1 (hwindow.behind i bucket (by omega) hi)

/-- `find_bucket` finds the bucket that the value belongs to. -/
theorem findBucket_eq_some_iff (hsorted : self.bounds.Pairwise (· < ·)) {i : Nat} :
    self.findBucket value = some i ↔ owns self.bounds i value = true := by
  have hranked : Ranked (fun bucket : Bucket F => compare bucket.bucket value) self.buckets :=
    ranked_buckets hsorted
  have hget : ∀ (j : Nat) (x : F), self.bounds[j]? = some x ↔
      ∃ bucket, self.buckets[j]? = some bucket ∧ bucket.bucket = x := by
    intro j x
    simp [Histogram.bounds, Option.map_eq_some_iff]
  -- one direction suffices, because a value has one owner
  have hfound : ∀ j, self.findBucket value = some j → owns self.bounds j value = true := by
    intro j hj
    unfold findBucket at hj
    split at hj
    · next k hk =>
      obtain rfl := Option.some.inj hj
      obtain ⟨bucket, hbucket, heq⟩ := binarySearchBy_ok hranked hk
      have hvalue : bucket.bucket = value := compare_eq_iff_eq.1 heq
      have hbound := (hget k value).2 ⟨bucket, hbucket, hvalue⟩
      refine owns_iff.2 ⟨value, hbound, le_refl _, fun next hnext => ?_⟩
      exact lt_of_sorted hsorted (Nat.lt_succ_self k) hbound hnext
    · next k hk =>
      split at hj
      · next hpos =>
        obtain rfl := Option.some.inj hj
        have hwindow := binarySearchBy_error hranked hk
        have hlt : k - 1 < self.buckets.length := by
          have hbound := hwindow.bound
          omega
        have hlast := List.getElem?_eq_getElem hlt
        refine owns_iff.2 ⟨_, (hget _ _).2 ⟨_, hlast, rfl⟩, ?_, fun next hnext => ?_⟩
        · exact le_of_lt (compare_lt_iff_lt.1 (hwindow.before _ _ (by omega) hlast))
        · obtain ⟨bucket, hbucket, rfl⟩ := (hget _ _).1 hnext
          exact compare_gt_iff_gt.1 (hwindow.behind _ _ (by omega) hbucket)
      · cases hj
  constructor
  · exact hfound i
  · intro hi
    cases hsearch : self.findBucket value with
    | some j => rw [owns_unique hsorted hi (hfound j hsearch)]
    | none =>
      obtain ⟨x, hx, hxv, -⟩ := owns_iff.1 hi
      obtain ⟨bucket, hbucket, rfl⟩ := (hget i x).1 hx
      have hbelow := lt_of_findBucket_eq_none hsorted hsearch (List.mem_of_getElem? hbucket)
      exact absurd hxv (not_le_of_gt hbelow)

/-- The bucket of a value is one of the histogram's. -/
theorem lt_of_findBucket_eq_some (hsorted : self.bounds.Pairwise (· < ·)) {i : Nat}
    (h : self.findBucket value = some i) : i < self.buckets.length := by
  obtain ⟨bound, hbound, -⟩ := owns_iff.1 ((findBucket_eq_some_iff hsorted).1 h)
  have hlt := (List.getElem?_eq_some_iff.1 hbound).1
  rwa [Histogram.bounds, List.length_map] at hlt

/-- A value has an owner when it is not below every bound. -/
theorem exists_owns_iff (hsorted : self.bounds.Pairwise (· < ·)) :
    (∃ i, owns self.bounds i value = true) ↔ ∃ bound ∈ self.bounds, bound ≤ value := by
  constructor
  · rintro ⟨i, hi⟩
    obtain ⟨bound, hbound, hle, -⟩ := owns_iff.1 hi
    exact ⟨bound, List.mem_of_getElem? hbound, hle⟩
  · rintro ⟨bound, hbound, hle⟩
    cases hsearch : self.findBucket value with
    | some i => exact ⟨i, (findBucket_eq_some_iff hsorted).1 hsearch⟩
    | none =>
      obtain ⟨bucket, hbucket, rfl⟩ := List.mem_map.1 hbound
      exact absurd hle (not_le_of_gt (lt_of_findBucket_eq_none hsorted hsearch hbucket))

end Histogram

/-! ## Counting -/

/-- A count below the limit of `i64` does not wrap. -/
theorem wrapI64_of_lt {x : Int} (h0 : 0 ≤ x) (h1 : x < 2 ^ 63) : wrapI64 x = x := by
  unfold wrapI64
  rw [Int.bmod_eq_of_le] <;> omega

/-- The buckets with the given bounds after the given values. -/
def tally (bounds : List F) (values : List F) : List (Bucket F) :=
  bounds.mapIdx fun i bound => ⟨bound, (values.countP (owns bounds i) : Nat)⟩

theorem getElem?_tally (bounds values : List F) (i : Nat) :
    (tally bounds values)[i]? =
      bounds[i]?.map fun bound => ⟨bound, (values.countP (owns bounds i) : Nat)⟩ := by
  simp [tally]

theorem bounds_tally (bounds values : List F) :
    (tally bounds values).map (fun bucket => bucket.bucket) = bounds := by
  apply List.ext_getElem?
  intro i
  rw [List.getElem?_map, getElem?_tally]
  cases bounds[i]? <;> rfl

/-- Counting the values of each index counts the values that have one. -/
theorem sum_countP {β : Type} {l : List Nat} {p : Nat → β → Bool} {q : β → Bool}
    (h : ∀ value, l.countP (fun i => p i value) = if q value then 1 else 0) (values : List β) :
    (l.map fun i => values.countP (p i)).sum = values.countP q := by
  have hone : ∀ value, (l.map fun i => if p i value then 1 else 0).sum =
      if q value then 1 else 0 := by
    intro value
    rw [← h value]
    clear h
    induction l with
    | nil => rfl
    | cons i l ih =>
      rw [List.map_cons, List.sum_cons, ih, List.countP_cons, Nat.add_comm]
  induction values with
  | nil => simp
  | cons value values ih =>
    simp only [List.countP_cons, List.sum_map_add, ih, hone]

namespace Histogram

variable {self : Histogram F} {steps values : List F} {value : F}

/-- One more value is counted by its owner. -/
theorem addValue_tally {bs : List F} (hsorted : bs.Pairwise (· < ·))
    (hbuckets : self.buckets = tally bs values) (hlen : values.length + 1 < 2 ^ 63) :
    (self.addValue value).buckets = tally bs (values ++ [value]) := by
  have hbounds : self.bounds = bs := by
    unfold Histogram.bounds
    rw [hbuckets, bounds_tally]
  have howner : ∀ i, self.findBucket value = some i ↔ owns bs i value = true := by
    intro i
    rw [findBucket_eq_some_iff (by rw [hbounds]; exact hsorted), hbounds]
  have hconcat : ∀ i, (values ++ [value]).countP (owns bs i) =
      values.countP (owns bs i) + if owns bs i value then 1 else 0 := by
    intro i
    rw [List.countP_append, List.countP_singleton]
  unfold addValue
  cases hsearch : self.findBucket value with
  | none =>
    -- without an owner no count changes
    apply List.ext_getElem?
    intro j
    have hj : owns bs j value = false := by
      rw [← Bool.not_eq_true, ← howner, hsearch]
      simp
    rw [hbuckets, getElem?_tally, getElem?_tally, hconcat, hj]
    simp
  | some i =>
    apply List.ext_getElem?
    intro j
    rw [List.getElem?_modify, hbuckets, getElem?_tally, getElem?_tally, hconcat]
    cases hbound : bs[j]? with
    | none => simp
    | some bound =>
      by_cases hij : i = j
      · subst hij
        have hle : values.countP (owns bs i) ≤ values.length := List.countP_le_length
        have hwrap := wrapI64_of_lt (x := ((values.countP (owns bs i) : Nat) : Int) + 1)
          (by omega) (by omega)
        rw [(howner i).1 hsearch]
        simp [Bucket.fetchAdd, hwrap]
      · have hj : owns bs j value = false := by
          rw [← Bool.not_eq_true, ← howner, hsearch, Option.some.injEq]
          exact hij
        simp [hij, hj]

theorem addValue_of_none (h : self.findBucket value = none) : self.addValue value = self := by
  unfold addValue
  rw [h]

theorem addValue_id (self : Histogram F) (value : F) : (self.addValue value).id = self.id := by
  unfold addValue
  cases self.findBucket value <;> rfl

theorem tally_nil (bs : List F) : tally bs [] = bs.map .new := by
  apply List.ext_getElem?
  intro i
  rw [getElem?_tally, List.getElem?_map]
  rfl

/-- The histogram after any sequence of values. -/
theorem foldl_addValue (self : Histogram F) {bs : List F} (hsorted : bs.Pairwise (· < ·))
    (hbuckets : self.buckets = bs.map .new) (hlen : values.length < 2 ^ 63) :
    (values.foldl addValue self).id = self.id ∧
      (values.foldl addValue self).buckets = tally bs values := by
  induction values using List.reverseRecOn with
  | nil => exact ⟨rfl, by rw [tally_nil]; exact hbuckets⟩
  | append_singleton values value ih =>
    rw [List.length_append, List.length_singleton] at hlen
    obtain ⟨hid, htally⟩ := ih (by omega)
    rw [List.foldl_append, List.foldl_cons, List.foldl_nil]
    exact ⟨by rw [addValue_id, hid], addValue_tally hsorted htally hlen⟩

/-- The number of owners of a value. -/
theorem countP_owns {bs : List F} (hsorted : bs.Pairwise (· < ·)) (value : F) :
    (List.range bs.length).countP (fun i => owns bs i value) =
      if decide (∃ bound ∈ bs, bound ≤ value) then 1 else 0 := by
  have hbounds : (⟨⟨"", .histogram, []⟩, bs.map .new⟩ : Histogram F).bounds = bs := by
    simp [Histogram.bounds, Function.comp_def, Bucket.new]
  have hexists : (∃ i, owns bs i value = true) ↔ ∃ bound ∈ bs, bound ≤ value :=
    hbounds ▸ exists_owns_iff (hbounds.symm ▸ hsorted)
  simp only [decide_eq_true_eq]
  split
  · next h =>
    -- one owner, and no other
    obtain ⟨i, hi⟩ := hexists.2 h
    have hlt : i < bs.length := by
      obtain ⟨bound, hbound, -⟩ := owns_iff.1 hi
      exact (List.getElem?_eq_some_iff.1 hbound).1
    have honly : ∀ j ∈ List.range bs.length, owns bs j value = true ↔ (j == i) = true := by
      intro j _
      rw [beq_iff_eq]
      constructor
      · intro hj
        exact owns_unique hsorted hj hi
      · rintro rfl
        exact hi
    rw [List.countP_congr honly]
    have hcount := List.count_range (a := i) (n := bs.length)
    rwa [if_pos hlt] at hcount
  · next h =>
    rw [List.countP_eq_zero]
    intro i _ hi
    exact h (hexists.1 ⟨i, hi⟩)

/-- The values that fall to a bucket: not below its bound, and below the next one, if any. -/
def fallsTo (bound : F) (next : Option (MeterBucketValue F)) (value : F) : Bool :=
  decide (bound ≤ value) && next.all fun next => decide (value < next.bucket)

/-- The buckets in a report. -/
def reportOf (bs values : List F) : List (MeterBucketValue F) := (tally bs values).map Bucket.value

theorem getElem?_reportOf (bs values : List F) (i : Nat) :
    (reportOf bs values)[i]? =
      bs[i]?.map fun bound => ⟨bound, (values.countP (owns bs i) : Nat), false⟩ := by
  rw [reportOf, List.getElem?_map, getElem?_tally, Option.map_map]
  rfl

theorem bounds_reportOf (bs values : List F) :
    (reportOf bs values).map (fun b => b.bucket) = bs := by
  have hmap : (reportOf bs values).map (fun b => b.bucket) =
      (tally bs values).map fun bucket => bucket.bucket := by
    rw [reportOf, List.map_map]
    rfl
  rw [hmap, bounds_tally]

theorem transform_foldl_addValue (name : String) (steps : List F) (tags : List (String × String))
    (service : Service) (clock : Clock) (hlen : values.length < 2 ^ 63) :
    (values.foldl addValue ((new name steps).addLabels tags)).transform service clock =
      histogramValues service clock ⟨name, .histogram, tags⟩
        (reportOf (distinctSteps steps) values) := by
  obtain ⟨hid, hbuckets⟩ := foldl_addValue ((new name steps).addLabels tags)
    (distinctSteps_sorted steps) rfl hlen
  unfold transform reportOf
  rw [hid, hbuckets]
  rfl

/-- The count of a bucket. -/
theorem count_reportOf (bs values : List F) {i : Nat} {b : MeterBucketValue F}
    (h : (reportOf bs values)[i]? = some b) :
    b.isNegativeInfinity = false ∧
      b.count = ((values.countP (fallsTo b.bucket (reportOf bs values)[i + 1]?) : Nat) : Int) := by
  rw [getElem?_reportOf, Option.map_eq_some_iff] at h
  obtain ⟨bound, hbound, rfl⟩ := h
  refine ⟨rfl, ?_⟩
  have hfalls : ∀ v, owns bs i v = fallsTo bound (reportOf bs values)[i + 1]? v := by
    intro v
    unfold owns fallsTo
    rw [getElem?_reportOf, hbound]
    cases bs[i + 1]? <;> rfl
  rw [show owns bs i = _ from funext hfalls]

theorem sum_reportOf {bs : List F} (hsorted : bs.Pairwise (· < ·)) (values : List F) :
    ((reportOf bs values).map fun b => b.count).sum =
      (values.countP fun v => decide (∃ bound ∈ bs, bound ≤ v) : Nat) := by
  have hmap : (reportOf bs values).map (fun b => b.count) =
      ((List.range bs.length).map fun i => values.countP (owns bs i)).map Nat.cast := by
    apply List.ext_getElem?
    intro i
    rw [List.getElem?_map, getElem?_reportOf, List.getElem?_map, List.getElem?_map]
    cases hbound : bs[i]? with
    | none =>
      rw [List.getElem?_eq_none (by simpa using List.getElem?_eq_none_iff.1 hbound)]
      rfl
    | some bound =>
      rw [List.getElem?_range (List.getElem?_eq_some_iff.1 hbound).1]
      rfl
  rw [hmap, ← Nat.cast_list_sum, sum_countP (countP_owns hsorted)]

/-- After any values, fewer than the limit of `i64`, a histogram reports its distinct steps in
increasing order, each with the number of values from it up to the next step; the counts sum to the
number of values that are not below every step, a value below every step changes nothing, and the
order of the values does not matter. -/
theorem counts_values (name : String) (steps values : List F) (tags : List (String × String))
    (service : Service) (clock : Clock) (hlen : values.length < 2 ^ 63) :
    ∃ buckets : List (MeterBucketValue F),
      (values.foldl addValue ((new name steps).addLabels tags)).transform service clock =
        ⟨service.serviceName, service.instanceName, clock .metric,
          some (.histogram ⟨name, tags.map fun tag => ⟨tag.1, tag.2⟩, buckets⟩)⟩ ∧
      (buckets.map fun b => b.bucket).Pairwise (· < ·) ∧
      (∀ x, x ∈ buckets.map (fun b => b.bucket) ↔ x ∈ steps) ∧
      (∀ i b, buckets[i]? = some b → b.isNegativeInfinity = false ∧
        b.count = ((values.countP (fallsTo b.bucket buckets[i + 1]?) : Nat) : Int)) ∧
      (buckets.map fun b => b.count).sum =
        (values.countP fun v => decide (∃ x ∈ steps, x ≤ v) : Nat) ∧
      (∀ v, (∀ x ∈ steps, v < x) →
        (values.foldl addValue ((new name steps).addLabels tags)).addValue v =
          values.foldl addValue ((new name steps).addLabels tags)) ∧
      ∀ values' : List F, values'.Perm values →
        (values'.foldl addValue ((new name steps).addLabels tags)).transform service clock =
          ⟨service.serviceName, service.instanceName, clock .metric,
            some (.histogram ⟨name, tags.map fun tag => ⟨tag.1, tag.2⟩, buckets⟩)⟩ := by
  have hsorted := distinctSteps_sorted steps
  refine ⟨reportOf (distinctSteps steps) values,
    transform_foldl_addValue name steps tags service clock hlen, ?_, ?_, ?_, ?_, ?_, ?_⟩
  · rw [bounds_reportOf]
    exact hsorted
  · intro x
    rw [bounds_reportOf, mem_distinctSteps]
  · intro i b h
    exact count_reportOf _ _ h
  · rw [sum_reportOf hsorted]
    simp only [mem_distinctSteps]
  · intro v hv
    obtain ⟨-, hbuckets⟩ := foldl_addValue ((new name steps).addLabels tags)
      hsorted rfl hlen
    have hbounds : (values.foldl addValue ((new name steps).addLabels tags)).bounds =
        distinctSteps steps := by
      unfold Histogram.bounds
      rw [hbuckets, bounds_tally]
    -- a bucket that is found has a bound that is not above the value
    have hnone : (values.foldl addValue ((new name steps).addLabels tags)).findBucket v = none := by
      cases hsearch : (values.foldl addValue ((new name steps).addLabels tags)).findBucket v with
      | none => rfl
      | some i =>
        have howns := (findBucket_eq_some_iff (by rw [hbounds]; exact hsorted)).1 hsearch
        rw [hbounds] at howns
        obtain ⟨bound, hbound, hle, -⟩ := owns_iff.1 howns
        have hmem := mem_distinctSteps.1 (List.mem_of_getElem? hbound)
        exact absurd hle (not_le_of_gt (hv bound hmem))
    exact addValue_of_none hnone
  · intro values' hperm
    -- only the counts of the values enter the report
    have hreport : reportOf (distinctSteps steps) values' =
        reportOf (distinctSteps steps) values := by
      unfold reportOf tally
      simp only [hperm.countP_eq]
    rw [transform_foldl_addValue name steps tags service clock (hperm.length_eq ▸ hlen), hreport]
    rfl

theorem counts_values_three :
    ∃ buckets : List (MeterBucketValue Int),
      (([3, 0, 1, 2, 5] : List Int).foldl addValue
          ((new "latency" [2, 1, 2]).addLabels [])).transform ⟨"s", "i"⟩ (fun _ => 10) =
        ⟨"s", "i", 10, some (.histogram ⟨"latency", [], buckets⟩)⟩ ∧
      (buckets.map fun b => b.count).sum = 4 := by
  obtain ⟨buckets, hreport, -, -, -, hsum, -⟩ := counts_values "latency" ([2, 1, 2] : List Int)
    [3, 0, 1, 2, 5] [] ⟨"s", "i"⟩ (fun _ => 10) (by decide)
  exact ⟨buckets, hreport, by rw [hsum]; decide⟩

end Histogram

end SkywalkingAgent.Metrics
