import SkywalkingAgent.Common
import SkywalkingAgent.Lib.Execution
import SkywalkingAgent.Management.Instance
import SkywalkingAgent.Reporter.Item

/-!
# The manager

`Manager` of `management/manager.rs`, and the loop that `report_and_keep_alive` spawns: at every
tick of its interval it reports the instance properties or a ping, as a counter says that is
incremented and reset after the report. `KeepAlive.run_cadence` gives the closed form.
-/

set_option autoImplicit false

namespace SkywalkingAgent.Management

open SkywalkingAgent.Lib SkywalkingAgent.Common SkywalkingAgent.Proto SkywalkingAgent.Reporter

/-- `Manager`, without its reporter. -/
structure Manager where
  serviceName : String
  instanceName : String
  deriving DecidableEq, Repr

/-- The properties that the closure builds for one report, and the order in which their map is gone
through. -/
structure BuiltProperties where
  properties : Properties
  order : Iteration properties.inner

namespace Manager

/-- `Manager::reporter_report_properties`: what is passed to the reporter. -/
def reporterReportProperties (self : Manager) (built : BuiltProperties) : CollectItem :=
  .instance (built.properties.convertToInstanceProperties built.order self.serviceName
    self.instanceName)

/-- `Manager::reporter_keep_alive`: what is passed to the reporter. -/
def reporterKeepAlive (self : Manager) : CollectItem :=
  .ping ⟨self.serviceName, self.instanceName, ""⟩

end Manager

/-- The task of `report_and_keep_alive`. -/
structure KeepAlive where
  counter : Nat
  reported : List CollectItem

namespace KeepAlive

/-- The task before its first tick. -/
def new : KeepAlive := ⟨0, []⟩

/-- One round of the loop, from a tick to the next. -/
def tick (overflowChecks : Bool) (manager : Manager) (propertiesReportPeriodFactor : Nat)
    (self : KeepAlive) (built : BuiltProperties) : Outcome KeepAlive Unit :=
  let item :=
    if self.counter = 0 then manager.reporterReportProperties built
    else manager.reporterKeepAlive
  let self := { self with reported := self.reported ++ [item] }
  match succUsize overflowChecks self.counter with
  | none => .panic overflowMessage self
  | some counter =>
      .ok () { self with
        counter := if counter ≥ propertiesReportPeriodFactor then 0 else counter }

/-- A tick that does not panic. -/
abbrev step (overflowChecks : Bool) (manager : Manager) (propertiesReportPeriodFactor : Nat)
    (self : KeepAlive) (built : BuiltProperties) : Option KeepAlive :=
  (tick overflowChecks manager propertiesReportPeriodFactor self built).returned?

/-- The item for the tick `n`, counted from zero: the message made of the properties that were
built, under the names of the manager, or a ping with these names. -/
def itemAt (manager : Manager) (propertiesReportPeriodFactor n : Nat) (built : BuiltProperties) :
    CollectItem :=
  if max propertiesReportPeriodFactor 1 ∣ n then
    .instance (built.properties.convertToInstanceProperties built.order manager.serviceName
      manager.instanceName)
  else .ping ⟨manager.serviceName, manager.instanceName, ""⟩

variable {overflowChecks : Bool} {manager : Manager} {self : KeepAlive} {built : BuiltProperties}

/-- The loop after `n` ticks. -/
structure AtTick (factor n : Nat) (s : KeepAlive) : Prop where
  count : s.counter = n % max factor 1
  /-- The next increment does not overflow. -/
  room : s.counter + 1 < 2 ^ 64

theorem atTick_new (factor : Nat) : AtTick factor 0 new := ⟨(Nat.zero_mod _).symm, by decide⟩

/-- The residue after one more step. -/
theorem mod_succ {n m : Nat} (hm : 0 < m) :
    (n + 1) % m = if n % m + 1 = m then 0 else n % m + 1 := by
  have hlt : n % m < m := Nat.mod_lt n hm
  have hmod : (n + 1) % m = (n % m + 1) % m := (Nat.mod_add_mod n m 1).symm
  rw [hmod]
  split
  · next heq => rw [heq, Nat.mod_self]
  · next hne => exact Nat.mod_eq_of_lt (by omega)

/-- At the head of the loop the counter is the number of ticks modulo the period. A round tests it,
increments it and resets it at the period, which a factor of zero or one makes one. -/
theorem AtTick.step {factor n : Nat} (h : AtTick factor n self) (hfactor : factor < 2 ^ 64)
    (built : BuiltProperties) :
    ∃ t, step overflowChecks manager factor self built = some t ∧ AtTick factor (n + 1) t ∧
      t.reported = self.reported ++ [itemAt manager factor n built] := by
  have hpos : 0 < max factor 1 := Nat.lt_of_lt_of_le Nat.one_pos (Nat.le_max_right factor 1)
  have hlt : n % max factor 1 < max factor 1 := Nat.mod_lt n hpos
  have hcount := h.count
  have hsucc : succUsize overflowChecks self.counter = some (self.counter + 1) := if_pos h.room
  have hitem : (if self.counter = 0 then manager.reporterReportProperties built
      else manager.reporterKeepAlive) = itemAt manager factor n built := by
    simp only [itemAt, hcount, Nat.dvd_iff_mod_eq_zero]
    rfl
  have hstep : KeepAlive.step overflowChecks manager factor self built = some
      ⟨if self.counter + 1 ≥ factor then 0 else self.counter + 1,
        self.reported ++ [itemAt manager factor n built]⟩ := by
    simp only [KeepAlive.step, tick, hsucc, hitem, Outcome.returned?]
  refine ⟨_, hstep, ⟨?_, ?_⟩, rfl⟩
  · rw [mod_succ hpos, ← hcount]
    -- the counter is below the period, so it reaches the factor exactly where it fills the period
    have hiff : self.counter + 1 ≥ factor ↔ self.counter + 1 = max factor 1 := by omega
    simp only [hiff]
  · show (if self.counter + 1 ≥ factor then 0 else self.counter + 1) + 1 < 2 ^ 64
    split
    · decide
    · omega

/-- For every factor of the type and every number of ticks the loop goes on without an overflow,
whether the build checks for it or not. It has reported one item for each tick: the properties, as
the closure built them for that tick, at every multiple of the factor (of one, for a factor of
zero), and a ping at the others. -/
theorem run_cadence (overflowChecks : Bool) (manager : Manager) (factor : Fin (2 ^ 64))
    (ticks : List BuiltProperties) :
    ∃ s, Execution.run (step overflowChecks manager factor) new ticks = some s ∧
      s.counter + 1 < 2 ^ 64 ∧ s.reported = ticks.mapIdx (itemAt manager factor) := by
  have hrun : ∃ s, Execution.run (step overflowChecks manager factor) new ticks = some s ∧
      AtTick factor ticks.length s ∧
      s.reported = ticks.mapIdx (itemAt manager factor) := by
    induction ticks using List.reverseRecOn with
    | nil => exact ⟨new, rfl, atTick_new factor, rfl⟩
    | append_singleton ticks built ih =>
      obtain ⟨m, hm, hat, hreported⟩ := ih
      obtain ⟨t, ht, hat', hreported'⟩ := hat.step factor.isLt built
      refine ⟨t, Execution.run_concat_iff.2 ⟨m, hm, ht⟩, ?_, ?_⟩
      · rw [List.length_append, List.length_singleton]
        exact hat'
      · rw [hreported', hreported, List.mapIdx_concat]
  obtain ⟨s, hs, hat, hreported⟩ := hrun
  exact ⟨s, hs, hat.room, hreported⟩

end KeepAlive

end SkywalkingAgent.Management
