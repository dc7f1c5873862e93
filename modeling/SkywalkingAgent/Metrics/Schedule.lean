import SkywalkingAgent.Metrics.Accounts

/-!
# Rounds to come

When the loop of the metricer comes to a cell of a meter, in terms of when rounds start and end. A
cell is ahead while the round under way has still to load it. Where it is ahead, or where no round
is under way, it is loaded before a round ends (`Due.exists_load`); and a load that comes without a
new round finds the cell ahead from the beginning (`ahead_or_starts`).
-/

set_option autoImplicit false

namespace SkywalkingAgent.Metrics

open SkywalkingAgent.Lib SkywalkingAgent.Common SkywalkingAgent.Proto

variable {F : Type}

/-- The event begins a round. -/
def MeterEvent.startsRound : MeterEvent F → Bool
  | .boot _ => true
  | .tick _ => true
  | _ => false

/-- A panic of a getter or of the reporter ends the round. -/
def MeterEvent.panics : MeterEvent F → Bool
  | .getPanics => true
  | .report panics => panics
  | _ => false

/-- A transform that is so far has still to load the cell. -/
def Progress.awaits (cell : Nat) : Progress F → Bool
  | .start => true
  | .buckets values => decide (values.length ≤ cell)
  | _ => false

/-- The cells of a meter that updates go to. -/
def Meter.HasCell (cell : Nat) : Meter F → Prop
  | .counter _ => cell = 0
  | .gauge _ => False
  | .histogram h => cell < h.buckets.length

namespace Meter

variable {c cell : Nat} {now : Meter F} {progress next : Progress F}

/-- A load reads the cell of a counter, which leaves nothing to load, or the next bucket of a
histogram. -/
theorem load_cases (h : now.load c progress = some next) :
    ((∃ counter, now = .counter counter) ∧ c = 0 ∧ progress = .start ∧
      ∀ k, next.awaits k = false) ∨
    ∃ histogram values value, now = .histogram histogram ∧ c = values.length ∧
      progress = .buckets values ∧ next = .buckets (values ++ [value]) := by
  cases now with
  | counter counter =>
    left
    cases progress with
    | start =>
      simp only [load] at h
      split at h
      · next hzero =>
        refine ⟨⟨counter, rfl⟩, hzero, rfl, ?_⟩
        intro k
        cases hmode : counter.mode with
        | increment =>
          rw [hmode] at h
          obtain rfl := Option.some.inj h
          rfl
        | rate =>
          rw [hmode] at h
          obtain rfl := Option.some.inj h
          rfl
      · cases h
    | _ => cases h
  | gauge gauge => cases h
  | histogram histogram =>
    right
    cases progress with
    | buckets values =>
      simp only [load] at h
      split at h
      · next heq =>
        obtain ⟨bucket, -, rfl⟩ := Option.map_eq_some_iff.1 h
        exact ⟨histogram, values, bucket.value, rfl, heq, rfl, rfl⟩
      · cases h
    | _ => cases h

/-- Only what awaits the cell loads it. -/
theorem awaits_of_load (h : now.load c progress = some next) : progress.awaits c = true := by
  rcases load_cases h with ⟨-, -, rfl, -⟩ | ⟨histogram, values, value, -, rfl, rfl, -⟩
  · rfl
  · exact decide_eq_true (Nat.le_refl _)

/-- What awaits the cell after a load awaited it before. -/
theorem awaits_of_awaits (h : now.load c progress = some next) (hawaits : next.awaits cell = true) :
    progress.awaits cell = true := by
  rcases load_cases h with ⟨-, -, -, hnone⟩ | ⟨histogram, values, value, -, -, rfl, rfl⟩
  · cases (hnone cell).symm.trans hawaits
  · have hle := of_decide_eq_true hawaits
    rw [List.length_append] at hle
    exact decide_eq_true (Nat.le_of_add_right_le hle)

/-- The load of another cell. -/
theorem awaits_of_load_of_ne (hcell : now.HasCell cell) (h : now.load c progress = some next)
    (hne : c ≠ cell) (hawaits : progress.awaits cell = true) : next.awaits cell = true := by
  rcases load_cases h with
    ⟨⟨counter, rfl⟩, rfl, -, -⟩ | ⟨histogram, values, value, -, rfl, rfl, rfl⟩
  · -- a counter has one cell
    exact absurd hcell.symm hne
  · have hle := of_decide_eq_true hawaits
    apply decide_eq_true
    rw [List.length_append, List.length_singleton]
    omega

/-- Where the data is there, every cell has been loaded. -/
theorem not_awaits_of_data {service : Service} {clock : Clock} {data : MeterData F}
    (hcell : now.HasCell cell) (h : now.data service clock progress = some data) :
    progress.awaits cell = false := by
  cases now with
  | counter counter =>
    cases progress with
    | value value => rfl
    | _ => cases h
  | gauge gauge => cases hcell
  | histogram histogram =>
    cases progress with
    | buckets values =>
      simp only [Meter.data] at h
      split at h
      · next hlength =>
        apply decide_eq_false
        rw [hlength]
        exact Nat.not_le_of_lt hcell
      · cases h
    | _ => cases h

end Meter

namespace MeterSystem

/-- The round under way has still to load the cell. -/
def Ahead (s : MeterSystem F) (meter cell : Nat) : Prop :=
  match s.loop with
  | .reporting todo => meter ∈ todo
  | .transforming todo m _ progress => meter ∈ todo ∨ m = meter ∧ progress.awaits cell = true
  | _ => False

/-- A round is under way. -/
def isBusy (s : MeterSystem F) : Bool :=
  match s.loop with
  | .reporting _ => true
  | .transforming _ _ _ _ => true
  | _ => false

/-- The meter has the cell. -/
def HasCell (s : MeterSystem F) (meter cell : Nat) : Prop :=
  ∃ now, s.metricer.meters[meter]? = some now ∧ now.HasCell cell

/-- The loop has been booted, the meter is in the map, and a round under way has still to load the
cell. -/
structure Due (s : MeterSystem F) (meter cell : Nat) : Prop where
  booted : s.loop ≠ .notBooted
  mapped : meter ∈ s.metricer.values
  hasCell : s.HasCell meter cell
  ahead : s.isBusy = true → s.Ahead meter cell

section Step

variable [AddCommGroup F] [LinearOrder F] {a b s s' : MeterSystem F} {e : MeterEvent F}
  {es : List (MeterEvent F)} {meter cell : Nat}

omit [AddCommGroup F] [LinearOrder F] in
/-- Another meter is put in the place of one, with the same cells. -/
theorem HasCell.set (h : s.HasCell meter cell) {handle : Nat} {old now : Meter F}
    (hold : s.metricer.meters[handle]? = some old)
    (hcells : old.HasCell cell → now.HasCell cell) :
    ∃ now', (s.metricer.meters.set handle now)[meter]? = some now' ∧ now'.HasCell cell := by
  obtain ⟨own, hown, hcell⟩ := h
  by_cases heq : handle = meter
  · subst heq
    rw [hold, Option.some.injEq] at hown
    subst hown
    exact ⟨now, List.getElem?_set_self (List.getElem?_eq_some_iff.1 hold).1, hcells hcell⟩
  · exact ⟨own, (List.getElem?_set_ne heq).trans hown, hcell⟩

/-- A meter keeps its cells. -/
theorem HasCell.step (h : s.HasCell meter cell) (hstep : s.step e = some s') :
    s'.HasCell meter cell := by
  cases step_effect hstep with
  | register transform =>
    obtain ⟨own, hown, hcell⟩ := h
    exact ⟨own, (List.getElem?_append_left (List.getElem?_eq_some_iff.1 hown).1).trans hown, hcell⟩
  | increment handle count counter hfound => exact h.set hfound id
  | addValue handle value histogram hfound =>
    apply h.set hfound
    intro hcell
    show cell < (histogram.addValue value).buckets.length
    rw [Histogram.length_addValue]
    exact hcell
  | swap todo m clock currentCount counter hloop hfound => exact h.set hfound id
  | _ => exact h

/-- After the boot the map stays as it is. -/
theorem booted_step (hbooted : s.loop ≠ .notBooted) (hstep : s.step e = some s') :
    s'.loop ≠ .notBooted ∧ s'.metricer.meterMap = s.metricer.meterMap := by
  cases step_effect hstep with
  | register transform hloop => exact absurd hloop hbooted
  | setReportInterval interval hloop => exact absurd hloop hbooted
  | bootPanics order hloop => exact absurd hloop hbooted
  | boot order hloop => exact absurd hloop hbooted
  | increment | addValue | shutdown | drop => exact ⟨hbooted, rfl⟩
  | report panics =>
    cases panics with
    | true => exact ⟨nofun, rfl⟩
    | false => exact ⟨nofun, rfl⟩
  | _ => exact ⟨nofun, rfl⟩

theorem booted_run (hbooted : a.loop ≠ .notBooted) (hrun : run a es = some b) :
    b.loop ≠ .notBooted ∧ b.metricer.meterMap = a.metricer.meterMap := by
  refine Execution.run_invariant (I := fun c =>
    c.loop ≠ .notBooted ∧ c.metricer.meterMap = a.metricer.meterMap) ⟨hbooted, rfl⟩ ?_ hrun
  rintro c d e ⟨hc, hmap⟩ hstep
  obtain ⟨hd, hsame⟩ := booted_step hc hstep
  exact ⟨hd, hsame.trans hmap⟩

/-- A round does not pass a cell without loading it. -/
theorem Ahead.step (h : s.Ahead meter cell) (hcell : s.HasCell meter cell)
    (hstep : s.step e = some s') (he : e ≠ .load meter cell) (hbusy : s'.isBusy = true) :
    s'.Ahead meter cell := by
  obtain ⟨own, hown, hhas⟩ := hcell
  cases step_effect hstep with
  | register | setReportInterval | increment | addValue | shutdown | drop => exact h
  | bootPanics => cases hbusy
  | boot order hloop =>
    simp only [Ahead, hloop] at h
  | next m clock todo transform hloop hfound =>
    simp only [Ahead, hloop] at h
    rcases List.mem_cons.1 h with rfl | hmem
    · right
      refine ⟨rfl, ?_⟩
      cases transform with
      | histogram histogram => exact decide_eq_true (Nat.zero_le cell)
      | _ => rfl
    · exact Or.inl hmem
  | load m c todo clock progress next transform hloop hfound hload =>
    simp only [Ahead, hloop] at h
    rcases h with hmem | ⟨rfl, hawaits⟩
    · exact Or.inl hmem
    · right
      rw [hown, Option.some.injEq] at hfound
      subst hfound
      refine ⟨rfl, Meter.awaits_of_load_of_ne hhas hload ?_ hawaits⟩
      rintro rfl
      exact he rfl
  | swap todo m clock currentCount counter hloop =>
    simp only [Ahead, hloop] at h
    exact Or.inl (h.resolve_right nofun)
  | get value todo m clock gauge hloop hfound =>
    simp only [Ahead, hloop] at h
    rcases h with hmem | ⟨rfl, -⟩
    · exact Or.inl hmem
    · -- a gauge has no cells
      rw [hown, Option.some.injEq] at hfound
      subst hfound
      exact hhas.elim
  | getPanics => cases hbusy
  | report panics todo m clock progress transform data hloop hfound hdata =>
    simp only [Ahead, hloop] at h
    cases panics with
    | true => cases hbusy
    | false =>
      rcases h with hmem | ⟨rfl, hawaits⟩
      · exact hmem
      · rw [hown, Option.some.injEq] at hfound
        subst hfound
        rw [Meter.not_awaits_of_data hhas hdata] at hawaits
        cases hawaits
  | finish => cases hbusy
  | tick order hloop =>
    simp only [Ahead, hloop] at h
  | recv => cases hbusy

/-- A new round has every cell ahead. -/
theorem ahead_of_starts (hmapped : meter ∈ s'.metricer.values) (hstep : s.step e = some s')
    (hstarts : e.startsRound = true) (hbusy : s'.isBusy = true) : s'.Ahead meter cell := by
  cases step_effect hstep with
  | boot order hloop hperm => exact hperm.mem_iff.2 hmapped
  | tick order hloop hperm => exact hperm.mem_iff.2 hmapped
  | bootPanics => cases hbusy
  | _ => cases hstarts

theorem booted_of_starts (hstep : s.step e = some s') (hstarts : e.startsRound = true) :
    s'.loop ≠ .notBooted := by
  cases step_effect hstep with
  | boot => exact nofun
  | tick => exact nofun
  | bootPanics => exact nofun
  | _ => cases hstarts

/-- Between two rounds only a new one makes the loop busy. -/
theorem starts_of_isBusy (hstep : s.step e = some s') (hbefore : s.isBusy = false)
    (hafter : s'.isBusy = true) : e.startsRound = true := by
  cases step_effect hstep with
  | boot => rfl
  | tick => rfl
  | next m clock todo transform hloop => simp [isBusy, hloop] at hbefore
  | load m c todo clock progress next transform hloop => simp [isBusy, hloop] at hbefore
  | swap todo m clock currentCount counter hloop => simp [isBusy, hloop] at hbefore
  | get value todo m clock gauge hloop => simp [isBusy, hloop] at hbefore
  | report panics todo m clock progress transform data hloop => simp [isBusy, hloop] at hbefore
  | register | setReportInterval | increment | addValue | shutdown | drop =>
    cases hbefore.symm.trans hafter
  | _ => cases hafter

theorem Due.step (h : s.Due meter cell) (hstep : s.step e = some s') (he : e ≠ .load meter cell) :
    s'.Due meter cell := by
  obtain ⟨hbooted, hmap⟩ := booted_step h.booted hstep
  have hvalues : s'.metricer.values = s.metricer.values := by
    rw [Metricer.values, hmap]
    rfl
  have hmapped : meter ∈ s'.metricer.values := hvalues ▸ h.mapped
  refine ⟨hbooted, hmapped, h.hasCell.step hstep, ?_⟩
  intro hbusy
  cases hold : s.isBusy with
  | true => exact (h.ahead hold).step h.hasCell hstep he hbusy
  | false => exact ahead_of_starts hmapped hstep (starts_of_isBusy hstep hold hbusy) hbusy

/-- A due cell is loaded before a round ends. -/
theorem Due.exists_load (h : a.Due meter cell) (hrun : run a es = some b)
    (hloop : b.loop = .reporting []) : ∃ n : Nat, es[n]? = some (.load meter cell) := by
  induction es generalizing a with
  | nil =>
    obtain rfl := Option.some.inj hrun
    have hahead := h.ahead (by simp [isBusy, hloop])
    simp only [Ahead, hloop] at hahead
    cases hahead
  | cons e es ih =>
    obtain ⟨c, hc, hrest⟩ := Execution.run_cons_iff.1 hrun
    by_cases he : e = .load meter cell
    · exact ⟨0, congrArg some he⟩
    · obtain ⟨n, hn⟩ := ih (h.step hc he) hrest
      exact ⟨n + 1, hn⟩

/-- Where a cell is ahead, it was ahead before or a round has begun. -/
theorem ahead_or_starts_step (hstep : s.step e = some s') (h : s'.Ahead meter cell) :
    s.Ahead meter cell ∨ e.startsRound = true := by
  cases step_effect hstep with
  | boot => exact Or.inr rfl
  | tick => exact Or.inr rfl
  | next m clock todo transform hloop =>
    left
    simp only [Ahead, hloop]
    rcases h with hmem | ⟨rfl, -⟩
    · exact List.mem_cons_of_mem m hmem
    · exact List.mem_cons_self
  | load m c todo clock progress next transform hloop hfound hload =>
    left
    simp only [Ahead, hloop]
    rcases h with hmem | ⟨rfl, hawaits⟩
    · exact Or.inl hmem
    · exact Or.inr ⟨rfl, Meter.awaits_of_awaits hload hawaits⟩
  | swap todo m clock currentCount counter hloop =>
    left
    simp only [Ahead, hloop]
    exact Or.inl (h.resolve_right nofun)
  | get value todo m clock gauge hloop =>
    left
    simp only [Ahead, hloop]
    exact Or.inl (h.resolve_right nofun)
  | report panics todo m clock progress transform data hloop =>
    left
    simp only [Ahead, hloop]
    cases panics with
    | true => cases h
    | false => exact Or.inl h
  | register | setReportInterval | increment | addValue | shutdown | drop => exact Or.inl h
  | _ => cases h

theorem ahead_or_starts (hrun : run a es = some b) (h : b.Ahead meter cell) :
    a.Ahead meter cell ∨
      ∃ (n : Nat) (e : MeterEvent F), es[n]? = some e ∧ e.startsRound = true := by
  induction es generalizing a with
  | nil =>
    obtain rfl := Option.some.inj hrun
    exact Or.inl h
  | cons e es ih =>
    obtain ⟨c, hc, hrest⟩ := Execution.run_cons_iff.1 hrun
    rcases ih hrest with hahead | ⟨n, e', hn, hstarts⟩
    · exact (ahead_or_starts_step hc hahead).imp_right fun hstarts => ⟨0, e, rfl, hstarts⟩
    · exact Or.inr ⟨n + 1, e', hn, hstarts⟩

/-- A round without a panic runs to its end. -/
theorem exists_finish (hrun : run a es = some b) (hbusy : a.isBusy = true)
    (hidle : b.isBusy = false) (hcalm : ∀ e ∈ es, e.panics = false) :
    ∃ n : Nat, es[n]? = some .finish := by
  induction es generalizing a with
  | nil =>
    obtain rfl := Option.some.inj hrun
    cases hbusy.symm.trans hidle
  | cons e es ih =>
    obtain ⟨c, hc, hrest⟩ := Execution.run_cons_iff.1 hrun
    by_cases he : e = .finish
    · exact ⟨0, congrArg some he⟩
    · have hnext : c.isBusy = true := by
        have hpanics := hcalm e List.mem_cons_self
        cases step_effect hc with
        | finish => exact absurd rfl he
        | getPanics => cases hpanics
        | report panics =>
          cases panics with
          | true => cases hpanics
          | false => rfl
        | register | setReportInterval | increment | addValue | shutdown | drop => exact hbusy
        | bootPanics order hloop => simp [isBusy, hloop] at hbusy
        | recv hloop => simp [isBusy, hloop] at hbusy
        | _ => rfl
      obtain ⟨n, hn⟩ := ih hrest hnext fun e' he' => hcalm e' (List.mem_cons_of_mem e he')
      exact ⟨n + 1, hn⟩

theorem returned_step (hreturned : s.loop = .returned) (hstep : s.step e = some s') :
    s'.loop = .returned := by
  cases step_effect hstep with
  | increment | addValue | shutdown | drop => exact hreturned
  | register transform hloop => cases hreturned.symm.trans hloop
  | setReportInterval interval hloop => cases hreturned.symm.trans hloop
  | bootPanics order hloop => cases hreturned.symm.trans hloop
  | boot order hloop => cases hreturned.symm.trans hloop
  | next m clock todo transform hloop => cases hreturned.symm.trans hloop
  | load m c todo clock progress next transform hloop => cases hreturned.symm.trans hloop
  | swap todo m clock currentCount counter hloop => cases hreturned.symm.trans hloop
  | get value todo m clock gauge hloop => cases hreturned.symm.trans hloop
  | getPanics todo m clock gauge hloop => cases hreturned.symm.trans hloop
  | report panics todo m clock progress transform data hloop => cases hreturned.symm.trans hloop
  | finish hloop => cases hreturned.symm.trans hloop
  | tick order hloop => cases hreturned.symm.trans hloop
  | recv hloop => rfl

/-- Every round ends before the loop takes the shutdown message. -/
theorem not_recv_of_finish (hrun : run a es = some b) {j m : Nat} (hfinish : es[m]? = some .finish)
    (hle : j ≤ m) : es[j]? ≠ some .recv := by
  intro hrecv
  have hne : j ≠ m := by
    rintro rfl
    cases hrecv.symm.trans hfinish
  obtain ⟨c, d, hc, hstep, -⟩ := Execution.exists_step_at hrun hrecv
  have hreturned : d.loop = .returned := by
    cases step_effect hstep with
    | recv => rfl
  obtain ⟨c', d', hc', hstep', -⟩ := Execution.exists_step_at hrun hfinish
  have hloop : c'.loop = .reporting [] := by
    cases step_effect hstep' with
    | finish hloop => exact hloop
  have hd : run a (es.take (j + 1)) = some d := by
    rw [List.take_add_one, hrecv]
    exact Execution.run_concat_iff.2 ⟨c, hc, hstep⟩
  -- the loop has returned and does not go on
  have hlater := Execution.run_invariant (I := fun x : MeterSystem F => x.loop = .returned)
    hreturned (fun _ _ _ h hstep => returned_step h hstep)
    (Execution.run_between hd hc' (by omega))
  cases hlater.symm.trans hloop

end Step

end MeterSystem

end SkywalkingAgent.Metrics
