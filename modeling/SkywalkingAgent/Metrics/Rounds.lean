import SkywalkingAgent.Metrics.Delivery

/-!
# How long the metricer reports

The loop of `boot` ends when its `recv` returns, which it does for the message of `shutdown` and
also once the `Booting` is dropped. A round that starts with a tick visits the meters of the map one
by one, unless a panic of a getter or of the reporter ends it. `MeterSystem.stops_when_told_iff`
says which runs end only when told and report every meter exactly once between two ticks.
-/

set_option autoImplicit false

namespace SkywalkingAgent.Metrics

open SkywalkingAgent.Lib SkywalkingAgent.Common SkywalkingAgent.Proto

variable {F : Type}

/-- No panic, no drop of the `Booting`, and no interval of zero. -/
def MeterEvent.isCalm : MeterEvent F → Bool
  | .setReportInterval reportInterval => decide (reportInterval ≠ 0)
  | .getPanics => false
  | .report panics => !panics
  | .drop => false
  | _ => true

namespace MeterSystem

/-- The task of `boot` has returned or panicked. -/
def isOver (s : MeterSystem F) : Bool :=
  match s.loop with
  | .returned => true
  | .panicked => true
  | _ => false

/-- The data that a step passes to the reporter, and the meter that it is of. -/
def reports (s : MeterSystem F) (e : MeterEvent F) : Option (Nat × MeterData F) :=
  match e, s.loop with
  | .report _, .transforming _ meter clock progress =>
      s.metricer.meters[meter]?.bind fun transform =>
        (transform.data s.metricer.service clock progress).map fun data => (meter, data)
  | _, _ => none

/-- A panic, of a getter or of the reporter, that ends the round with meters left. -/
def cutsRound (s : MeterSystem F) (e : MeterEvent F) : Bool :=
  match e, s.loop with
  | .getPanics, _ => true
  | .report true, .transforming (_ :: _) _ _ _ => true
  | _, _ => false

variable {service : Service} {s s' a b : MeterSystem F} {e : MeterEvent F}
  {es mid : List (MeterEvent F)}

theorem cutsRound_of_calm (h : e.isCalm = true) : s.cutsRound e = false := by
  cases e with
  | getPanics => cases h
  | report panics =>
    cases panics with
    | false => rfl
    | true => cases h
  | _ => rfl

/-! ## The owner's side -/

/-- What the calls on the `Booting` have made of it. -/
structure Owned (es : List (MeterEvent F)) (s : MeterSystem F) : Prop where
  absent : s.loop = .notBooted → s.booting = .absent
  shutdown : s.booting = .shuttingDown ↔ .shutdown ∈ es
  dropped : s.booting = .dropped ↔ .drop ∈ es

theorem owned_new (service : Service) : Owned [] (new service : MeterSystem F) where
  absent _ := rfl
  shutdown := by simp [new]
  dropped := by simp [new]

theorem Owned.keep (h : Owned es s) (hbooting : s'.booting = s.booting)
    (hloop : s'.loop = .notBooted → s.loop = .notBooted) (hshutdown : e ≠ .shutdown)
    (hdrop : e ≠ .drop) : Owned (es ++ [e]) s' where
  absent hs' := hbooting.trans (h.absent (hloop hs'))
  shutdown := by
    rw [hbooting, h.shutdown]
    simp [Ne.symm hshutdown]
  dropped := by
    rw [hbooting, h.dropped]
    simp [Ne.symm hdrop]

theorem Owned.boot (h : Owned es s) {order : List Nat} {loop : Loop F}
    (hloop : s.loop = .notBooted) (hloop' : loop ≠ .notBooted) :
    Owned (es ++ [.boot order]) { s with loop := loop, booting := .held } where
  absent h' := absurd h' hloop'
  shutdown := by simp [← h.shutdown, h.absent hloop]
  dropped := by simp [← h.dropped, h.absent hloop]

/-! ## The meters of a round -/

/-- The handles of the map are distinct. -/
structure Distinct (s : MeterSystem F) : Prop where
  nodup : s.metricer.values.Nodup
  lt : ∀ meter ∈ s.metricer.values, meter < s.metricer.meters.length

theorem distinct_new (service : Service) : Distinct (new service : MeterSystem F) where
  nodup := List.nodup_nil
  lt _ hmem := absurd hmem List.not_mem_nil

theorem Distinct.keep (h : Distinct s) (hmap : s'.metricer.meterMap = s.metricer.meterMap)
    (hmeters : s'.metricer.meters.length = s.metricer.meters.length) : Distinct s' := by
  have hvalues : s'.metricer.values = s.metricer.values := by
    unfold Metricer.values
    rw [hmap]
  exact ⟨hvalues ▸ h.nodup, by rw [hvalues, hmeters]; exact h.lt⟩

theorem Distinct.register (h : Distinct s) (transform : Meter F) :
    Distinct { s with metricer := s.metricer.register transform } := by
  have hsub : List.Sublist ((s.metricer.meterMap.filter
      fun entry => entry.1 ≠ transform.meterId).map Prod.snd) s.metricer.values :=
    List.filter_sublist.map Prod.snd
  have hvalues : (s.metricer.register transform).values =
      (s.metricer.meterMap.filter fun entry => entry.1 ≠ transform.meterId).map Prod.snd ++
        [s.metricer.meters.length] := by
    simp [Metricer.register, Metricer.values]
  constructor
  -- the new handle is above those of the map
  · show (s.metricer.register transform).values.Nodup
    rw [hvalues, List.nodup_append]
    refine ⟨hsub.nodup h.nodup, List.nodup_singleton _, ?_⟩
    intro m hm n hn hmn
    rw [List.mem_singleton] at hn
    have := h.lt m (hsub.subset hm)
    omega
  · intro meter hmem
    rw [hvalues, List.mem_append, List.mem_singleton] at hmem
    have hlength : (s.metricer.register transform).meters.length =
        s.metricer.meters.length + 1 := by
      simp [Metricer.register]
    show meter < (s.metricer.register transform).meters.length
    rcases hmem with hmem | rfl
    · have := h.lt meter (hsub.subset hmem)
      omega
    · omega

/-- Where a round stands that visits `order` and has passed the data of the meters `done` to the
reporter; `cut` says that a panic has ended it early. -/
inductive RoundAt (order done : List Nat) (cut : Prop) : Loop F → Prop where
  | reporting (todo : List Nat) (eq : done ++ todo = order) (whole : ¬cut) :
      RoundAt order done cut (.reporting todo)
  | transforming (todo : List Nat) (meter : Nat) (clock : Clock) (progress : Progress F)
      (eq : done ++ meter :: todo = order) (whole : ¬cut) :
      RoundAt order done cut (.transforming todo meter clock progress)
  | selecting (start : done <+: order) (whole_iff : done = order ↔ ¬cut) :
      RoundAt order done cut .selecting
  | returned : RoundAt order done cut .returned

theorem count_eq_iff {values order done : List Nat} (hvalues : values.Nodup)
    (hperm : order.Perm values) (hstart : done <+: order) :
    (∀ meter, done.count meter = if meter ∈ values then 1 else 0) ↔ done = order := by
  constructor
  · intro hcount
    have hcounts : ∀ meter, done.count meter = order.count meter := by
      intro meter
      rw [hcount, hperm.count_eq, List.Nodup.count hvalues]
    -- a prefix of the same length is the whole
    exact hstart.eq_of_length (List.perm_iff_count.2 hcounts).length_eq
  · rintro rfl meter
    rw [hperm.count_eq, List.Nodup.count hvalues]

section Run

variable [Add F] [Sub F] [LinearOrder F]

theorem step_recv_iff :
    s.step .recv = some s' ↔ s.loop = .selecting ∧
      (s.booting = .shuttingDown ∨ s.booting = .dropped) ∧ s' = { s with loop := .returned } := by
  simp only [step]
  split
  · next hloop hbooting => simp [hloop, hbooting, eq_comm]
  · next hloop hbooting => simp [hloop, hbooting, eq_comm]
  · next hshutdown hdropped =>
    simp only [reduceCtorEq, false_iff, not_and]
    rintro hloop (hbooting | hbooting)
    · exact absurd hbooting (hshutdown hloop)
    · exact absurd hbooting (hdropped hloop)

theorem step_boot_zero {order : List Nat} (h : s.step (.boot order) = some s')
    (hzero : s.metricer.reportInterval = 0) : s'.isOver = true := by
  simp only [step, hzero, if_true] at h
  split at h
  · obtain rfl := Option.some.inj h
    rfl
  · cases h

theorem Owned.step (h : Owned es s) (hstep : s.step e = some s') : Owned (es ++ [e]) s' := by
  cases step_effect hstep with
  | register | setReportInterval | increment | addValue =>
    exact h.keep rfl id (by simp) (by simp)
  | bootPanics order hloop => exact h.boot hloop (by simp)
  | boot order hloop => exact h.boot hloop (by simp)
  | next | load | swap | get | getPanics | finish | tick | recv =>
    exact h.keep rfl (by simp) (by simp) (by simp)
  | report panics => cases panics <;> exact h.keep rfl (by simp) (by simp) (by simp)
  -- a held `Booting` has been neither shut down nor dropped
  | shutdown hheld =>
    refine ⟨fun hloop => ?_, by simp, ?_⟩
    · rw [h.absent hloop] at hheld
      cases hheld
    · simp [← h.dropped, hheld]
  | drop hheld =>
    refine ⟨fun hloop => ?_, ?_, by simp⟩
    · rw [h.absent hloop] at hheld
      cases hheld
    · simp [← h.shutdown, hheld]

theorem run_owned (hrun : run (new service) es = some s) : Owned es s :=
  Execution.run_history (owned_new service) (fun _ _ _ _ h hstep => h.step hstep) hrun

/-- The step that ends the task. -/
theorem step_isOver (hstep : s.step e = some s') (hbefore : s.isOver = false)
    (hafter : s'.isOver = true) :
    (e = .recv ∧ (s.booting = .shuttingDown ∨ s.booting = .dropped)) ∨
      ∃ order, e = .boot order ∧ s.metricer.reportInterval = 0 := by
  cases step_effect hstep with
  | recv => exact Or.inl ⟨rfl, (step_recv_iff.1 hstep).2.1⟩
  | bootPanics order hloop =>
    refine Or.inr ⟨order, rfl, ?_⟩
    by_contra hpositive
    simp only [step, hloop, hpositive, if_false] at hstep
    obtain ⟨-, heq⟩ := round_eq_some_iff.1 hstep
    cases congrArg loop heq
  | register | setReportInterval | increment | addValue | shutdown | drop =>
    cases hbefore.symm.trans hafter
  | boot | next | load | swap | get | getPanics | finish | tick => cases hafter
  | report panics => cases panics <;> cases hafter

theorem Distinct.step (h : Distinct s) (hstep : s.step e = some s') : Distinct s' := by
  cases step_effect hstep with
  | register transform => exact h.register transform
  | increment | addValue | swap => exact h.keep rfl List.length_set
  | setReportInterval | bootPanics | boot | next | load | get | getPanics | report | finish | tick
  | shutdown | drop | recv => exact h.keep rfl rfl

theorem run_distinct (hrun : run (new service) es = some s) : Distinct s :=
  Execution.run_invariant (distinct_new service) (fun _ _ _ h hstep => h.step hstep) hrun

/-! ## Rounds -/

/-- Some step of the run of `mid` from `a` cuts the round. -/
def Cut (a : MeterSystem F) (mid : List (MeterEvent F)) : Prop :=
  ∃ pre e post b, mid = pre ++ e :: post ∧ run a pre = some b ∧ b.cutsRound e = true

theorem cut_nil : ¬Cut a [] := by
  rintro ⟨pre, e, post, b, hnil, -, -⟩
  simp at hnil

theorem cut_concat_iff (hrun : run a mid = some b) :
    Cut a (mid ++ [e]) ↔ Cut a mid ∨ b.cutsRound e = true := by
  constructor
  · rintro ⟨pre, e', post, b', hsplit, hb', hcut⟩
    rcases List.eq_nil_or_concat' post with rfl | ⟨post, last, rfl⟩
    · obtain ⟨rfl, heq⟩ := List.append_inj' hsplit rfl
      obtain rfl := List.singleton_inj.1 heq
      obtain rfl := Option.some.inj (hb'.symm.trans hrun)
      exact Or.inr hcut
    · rw [← List.cons_append, ← List.append_assoc] at hsplit
      obtain ⟨rfl, -⟩ := List.append_inj' hsplit rfl
      exact Or.inl ⟨pre, e', post, b', rfl, hb', hcut⟩
  · rintro (⟨pre, e', post, b', rfl, hb', hcut⟩ | hcut)
    · exact ⟨pre, e', post ++ [e], b', by simp, hb', hcut⟩
    · exact ⟨mid, e, [], b, rfl, hrun, hcut⟩

theorem RoundAt.step {order done : List Nat} {cut : Prop} (h : RoundAt order done cut s.loop)
    (hstep : s.step e = some s') (htick : ∀ order', e ≠ .tick order') :
    RoundAt order (done ++ (s.reports e).toList.map Prod.fst) (cut ∨ s.cutsRound e = true)
      s'.loop := by
  have hquiet : s.reports e = none → s.cutsRound e = false → ∀ loop : Loop F,
      RoundAt order done cut loop →
      RoundAt order (done ++ (s.reports e).toList.map Prod.fst) (cut ∨ s.cutsRound e = true)
        loop := by
    intro hreports hcuts loop hloop
    rw [hreports, hcuts]
    simpa using hloop
  cases step_effect hstep with
  | tick order' => exact absurd rfl (htick order')
  -- before the boot there is no round
  | register _ hloop | setReportInterval _ hloop | bootPanics _ hloop | boot _ hloop =>
    rw [hloop] at h
    cases h
  | increment | addValue | shutdown | drop => exact hquiet rfl rfl _ h
  | next meter clock todo transform hloop =>
    rw [hloop] at h
    cases h with
    | reporting _ heq hwhole => exact hquiet rfl rfl _ (.transforming _ _ _ _ heq hwhole)
  | load _ _ _ _ _ _ _ hloop | swap _ _ _ _ _ hloop | get _ _ _ _ _ hloop =>
    rw [hloop] at h
    cases h with
    | transforming _ _ _ _ heq hwhole => exact hquiet rfl rfl _ (.transforming _ _ _ _ heq hwhole)
  | getPanics todo meter clock gauge hloop =>
    rw [hloop] at h
    cases h with
    | transforming _ _ _ _ heq hwhole =>
      refine .selecting ⟨meter :: todo, by simpa [reports] using heq⟩ ?_
      -- this meter is not reported
      simp [reports, cutsRound, ← heq]
  | report panics todo meter clock progress transform data hloop hfound hdata =>
    rw [hloop] at h
    cases h with
    | transforming _ _ _ _ heq hwhole =>
      have hdone : (done ++ [meter]) ++ todo = order := by simpa using heq
      have hreports : (s.reports (.report panics)).toList.map Prod.fst = [meter] := by
        simp [reports, hloop, hfound, hdata]
      rw [hreports]
      cases panics with
      | false => exact .reporting todo hdone (by simpa [cutsRound] using hwhole)
      | true =>
        refine .selecting ⟨todo, hdone⟩ ?_
        -- the panic does harm when meters are left
        cases todo with
        | nil => simp [← hdone, cutsRound, hloop, hwhole]
        | cons next todo => simp [← hdone, cutsRound, hloop]
  | finish hloop =>
    rw [hloop] at h
    cases h with
    | reporting _ heq hwhole =>
      rw [List.append_nil] at heq
      exact hquiet rfl rfl _ (.selecting ⟨[], by simpa using heq⟩ (iff_of_true heq hwhole))
  | recv => exact .returned

theorem run_roundAt {order : List Nat} (hloop : a.loop = .reporting order)
    (hticks : ∀ order', .tick order' ∉ mid) (hrun : run a mid = some b) :
    RoundAt order ((Execution.outputs step reports a mid).map Prod.fst) (Cut a mid) b.loop := by
  induction mid using List.reverseRecOn generalizing b with
  | nil =>
    obtain rfl := Option.some.inj hrun
    rw [hloop]
    exact .reporting order rfl cut_nil
  | append_singleton mid e ih =>
    obtain ⟨m, hm, hstep⟩ := Execution.run_concat_iff.1 hrun
    have hbefore := ih (fun order' hmem => hticks order' (List.mem_append_left _ hmem)) hm
    rw [Execution.outputs_concat hm hstep, List.map_append, propext (cut_concat_iff hm)]
    exact hbefore.step hstep fun order' he => hticks order' (by simp [he])

/-- What was passed to the reporter is what the steps have passed to it. -/
theorem run_reported (hrun : run a mid = some b) :
    b.reported = a.reported ++ (Execution.outputs step reports a mid).map Prod.snd := by
  induction mid using List.reverseRecOn generalizing b with
  | nil =>
    obtain rfl := Option.some.inj hrun
    exact (List.append_nil _).symm
  | append_singleton mid e ih =>
    obtain ⟨m, hm, hstep⟩ := Execution.run_concat_iff.1 hrun
    rw [Execution.outputs_concat hm hstep, List.map_append, ← List.append_assoc, ← ih hm]
    cases step_effect hstep with
    | report panics todo meter clock progress transform data hloop hfound hdata =>
      simp [reports, hloop, hfound, hdata]
    | _ => exact (List.append_nil _).symm

/-! ## Until told -/

/-- The loop ends only for a message of `shutdown`, and between two consecutive ticks it passes the
data of every meter of the map to the reporter, once. -/
structure StopsWhenTold (s₀ : MeterSystem F) (es : List (MeterEvent F)) : Prop where
  told : ∀ (pre post : List (MeterEvent F)) (a : MeterSystem F), es = pre ++ post →
    run s₀ pre = some a → a.isOver = true → .shutdown ∈ pre
  rounds : ∀ (pre mid post : List (MeterEvent F)) (order order' : List Nat)
    (a b : MeterSystem F),
    es = pre ++ .tick order :: (mid ++ .tick order' :: post) → (∀ order'', .tick order'' ∉ mid) →
    run s₀ (pre ++ [.tick order]) = some a → run a mid = some b →
    b.reported = a.reported ++ (Execution.outputs step reports a mid).map Prod.snd ∧
      ∀ meter, ((Execution.outputs step reports a mid).map Prod.fst).count meter =
        if meter ∈ a.metricer.values then 1 else 0

/-- The loop was booted with an interval, it does not find the channel closed by the drop of the
`Booting`, and no round between two ticks is cut. -/
structure Undisturbed (s₀ : MeterSystem F) (es : List (MeterEvent F)) : Prop where
  interval : ∀ (pre post : List (MeterEvent F)) (order : List Nat) (a : MeterSystem F),
    es = pre ++ .boot order :: post → run s₀ pre = some a → a.metricer.reportInterval ≠ 0
  held : ∀ pre post : List (MeterEvent F), es = pre ++ .recv :: post → .drop ∉ pre
  rounds : ∀ (pre mid post : List (MeterEvent F)) (order order' : List Nat) (a : MeterSystem F),
    es = pre ++ .tick order :: (mid ++ .tick order' :: post) → (∀ order'', .tick order'' ∉ mid) →
    run s₀ (pre ++ [.tick order]) = some a → ¬Cut a mid

/-- A run that goes through a list of events. -/
theorem exists_run_pre {pre post : List (MeterEvent F)} {s₀ : MeterSystem F}
    (hrun : run s₀ (pre ++ e :: post) = some s) :
    ∃ a b, run s₀ pre = some a ∧ a.step e = some b ∧ run s₀ (pre ++ [e]) = some b := by
  obtain ⟨a, ha, hrest⟩ := Execution.run_append_iff.1 hrun
  obtain ⟨b, hb, -⟩ := Execution.run_cons_iff.1 hrest
  exact ⟨a, b, ha, hb, Execution.run_concat_iff.2 ⟨a, ha, hb⟩⟩

/-- The part about the end of the loop. -/
theorem told_iff (hrun : run (new service) es = some s) :
    (∀ (pre post : List (MeterEvent F)) (a : MeterSystem F), es = pre ++ post →
        run (new service) pre = some a → a.isOver = true → .shutdown ∈ pre) ↔
      (∀ (pre post : List (MeterEvent F)) (order : List Nat) (a : MeterSystem F),
        es = pre ++ .boot order :: post → run (new service) pre = some a →
          a.metricer.reportInterval ≠ 0) ∧
      ∀ pre post : List (MeterEvent F), es = pre ++ .recv :: post → .drop ∉ pre := by
  constructor
  · intro htold
    constructor
    · rintro pre post order a rfl ha hzero
      obtain ⟨a', b, ha', hb, hpre⟩ := exists_run_pre hrun
      obtain rfl := Option.some.inj (ha.symm.trans ha')
      have hmem := htold (pre ++ [.boot order]) post b (by simp) hpre (step_boot_zero hb hzero)
      have howned := run_owned hpre
      -- whoever boots has not called `shutdown` before
      cases step_effect hb with
      | bootPanics _ hloop => cases howned.shutdown.2 hmem
      | boot _ hloop => cases howned.shutdown.2 hmem
    · rintro pre post rfl hdrop
      obtain ⟨a, b, ha, hb, hpre⟩ := exists_run_pre hrun
      obtain ⟨-, -, rfl⟩ := step_recv_iff.1 hb
      have hmem := htold (pre ++ [.recv]) post _ (by simp) hpre rfl
      have howned := run_owned hpre
      have hshutdown := howned.shutdown.2 hmem
      rw [howned.dropped.2 (List.mem_append_left _ hdrop)] at hshutdown
      cases hshutdown
  · rintro ⟨hinterval, hheld⟩ pre post a rfl ha hover
    obtain ⟨pre, e, rest, b, c, rfl, hb, hbefore, hc, hafter, -⟩ :=
      Execution.run_raises ha rfl hover
    have howned := run_owned hb
    rcases step_isOver hc hbefore hafter with ⟨rfl, hshutdown | hdropped⟩ | ⟨order, rfl, hzero⟩
    · exact List.mem_append_left _ (howned.shutdown.1 hshutdown)
    · exact absurd (howned.dropped.1 hdropped) (hheld pre (rest ++ post) (by simp))
    · exact absurd hzero (hinterval pre (rest ++ post) order b (by simp) hb)

/-- A run goes through what comes between two ticks. -/
theorem exists_run_mid {pre post : List (MeterEvent F)} {s₀ : MeterSystem F}
    (hrun : run s₀ (pre ++ e :: (mid ++ post)) = some s) (ha : run s₀ (pre ++ [e]) = some a) :
    ∃ b, run a mid = some b := by
  rw [List.append_cons] at hrun
  obtain ⟨a', ha', hrest⟩ := Execution.run_append_iff.1 hrun
  obtain rfl := Option.some.inj (ha.symm.trans ha')
  obtain ⟨b, hb, -⟩ := Execution.run_append_iff.1 hrest
  exact ⟨b, hb⟩

/-- The part about one round between two ticks. -/
theorem round_iff {pre post : List (MeterEvent F)} {order order' : List Nat}
    (hrun : run (new service) (pre ++ .tick order :: (mid ++ .tick order' :: post)) = some s)
    (hticks : ∀ order'', .tick order'' ∉ mid)
    (ha : run (new service) (pre ++ [.tick order]) = some a) :
    (∀ meter, ((Execution.outputs step reports a mid).map Prod.fst).count meter =
      if meter ∈ a.metricer.values then 1 else 0) ↔ ¬Cut a mid := by
  have hdistinct := run_distinct ha
  obtain ⟨p, hp, htick⟩ := Execution.run_concat_iff.1 ha
  rw [List.append_cons] at hrun
  obtain ⟨a', ha', hrest⟩ := Execution.run_append_iff.1 hrun
  obtain rfl := Option.some.inj (ha.symm.trans ha')
  obtain ⟨b, hb, hnext⟩ := Execution.run_append_iff.1 hrest
  obtain ⟨c, hc, -⟩ := Execution.run_cons_iff.1 hnext
  cases step_effect htick with
  | tick _ hloop hperm =>
    have hround := run_roundAt rfl hticks hb
    -- the next tick finds the loop in `select!`
    cases step_effect hc with
    | tick _ hselecting =>
      rw [hselecting] at hround
      cases hround with
      | selecting hstart hwhole => exact (count_eq_iff hdistinct.nodup hperm hstart).trans hwhole

/-- For every run of the task, whatever its rounds, ticks and choices and whatever the owner does
with the `Booting`. -/
theorem stops_when_told_iff (hrun : run (new service) es = some s) :
    StopsWhenTold (new service) es ↔ Undisturbed (new service) es := by
  constructor
  · intro h
    obtain ⟨hinterval, hheld⟩ := (told_iff hrun).1 h.told
    refine ⟨hinterval, hheld, ?_⟩
    rintro pre mid post order order' a rfl hticks ha
    obtain ⟨b, hb⟩ := exists_run_mid hrun ha
    exact (round_iff hrun hticks ha).1 (h.rounds pre mid post order order' a b rfl hticks ha hb).2
  · intro h
    refine ⟨(told_iff hrun).2 ⟨h.interval, h.held⟩, ?_⟩
    rintro pre mid post order order' a b rfl hticks ha hb
    refine ⟨run_reported hb, ?_⟩
    exact (round_iff hrun hticks ha).2 (h.rounds pre mid post order order' a rfl hticks ha)

/-- Nothing disturbs a run without panics whose `Booting` is not dropped: it is kept, awaited or
shut down. -/
theorem undisturbed_of_calm (hrun : run (new service) es = some s)
    (hcalm : ∀ e ∈ es, e.isCalm = true) : Undisturbed (new service) es := by
  constructor
  · rintro pre post order a rfl ha
    have hpre : ∀ e ∈ pre, e.isCalm = true := fun e he => hcalm e (List.mem_append_left _ he)
    refine Execution.run_invariant_of_forall (I := fun b => b.metricer.reportInterval ≠ 0)
      hpre (by simp [new, Metricer.new]) ?_ ha
    intro b c e he hb hstep
    cases step_effect hstep with
    | setReportInterval reportInterval => simpa [MeterEvent.isCalm] using he
    | _ => exact hb
  · rintro pre post rfl hdrop
    cases hcalm .drop (List.mem_append_left _ hdrop)
  · rintro pre mid post order order' a rfl - - ⟨before, e, rest, b, rfl, -, hcut⟩
    rw [cutsRound_of_calm (hcalm e (by simp))] at hcut
    cases hcut

end Run

/-- A counter and a gauge, the first round and one between two ticks. -/
def twoRounds : List (MeterEvent Int) :=
  [.register (.counter sampleCounter), .register (.gauge (.new "instance_load")), .boot [1, 0],
    .next 1 sampleClock, .get 20, .report false, .next 0 sampleClock, .load 0 0, .report false,
    .finish, .tick [0, 1], .next 0 sampleClock, .load 0 0, .report false, .next 1 sampleClock,
    .get 20, .report false, .finish, .tick [1, 0]]

theorem stops_when_told_two_rounds :
    ∃ s, run (new sampleService) twoRounds = some s ∧
      StopsWhenTold (new sampleService) twoRounds := by
  refine ⟨_, rfl, (stops_when_told_iff (by rfl)).2 ?_⟩
  exact undisturbed_of_calm (by rfl) (by decide)

/-- The owner drops what `boot` returns. -/
def droppedBooting : List (MeterEvent Int) :=
  [.register (.counter sampleCounter), .boot [0], .drop] ++ sampleRound 0 ++ [.recv]

/-- The loop ends after one round, and nobody has called `shutdown`. -/
theorem dropped_booting_ends :
    ∃ s, run (new sampleService) droppedBooting = some s ∧ s.isOver = true ∧
      .shutdown ∉ droppedBooting ∧ ¬StopsWhenTold (new sampleService) droppedBooting := by
  have hnone : .shutdown ∉ droppedBooting := by simp [droppedBooting, sampleRound]
  refine ⟨_, rfl, rfl, hnone, fun h => hnone ?_⟩
  exact h.told droppedBooting [] _ (List.append_nil _).symm rfl rfl

end MeterSystem

end SkywalkingAgent.Metrics
