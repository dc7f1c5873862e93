import SkywalkingAgent.Lib.Outcome
import Mathlib.Algebra.Ring.Int.Defs
import Mathlib.Algebra.Ring.Nat

/-!
# Clock, machine arithmetic, identifiers and wait group

The parts of the environment that the agent's functions read: the clock (`common/system_time.rs`),
the arithmetic of the build, the random identifiers (`common/random_generator.rs`), and the wait
group of the asynchronous spans (`common/wait_group.rs`).
-/

set_option autoImplicit false

namespace SkywalkingAgent.Common

open SkywalkingAgent.Lib

/-- What a clock reading is for; the `mock` build reads a constant for each. -/
inductive TimePeriod where
  | start
  | log
  | metric
  | finish

/-- The readings of `fetch_time` during one call. -/
abbrev Clock := TimePeriod → Int

/-- The value of an `i32` after wrapping. -/
@[irreducible] def wrapI32 (x : Int) : Int := x.bmod (2 ^ 32)

/-- `x + 1` on `i32`, and nothing where a build with overflow checks panics. -/
def succI32 (overflowChecks : Bool) (x : Int) : Option Int :=
  if overflowChecks && decide (2 ^ 31 ≤ x + 1) then none else some (wrapI32 (x + 1))

theorem wrapI32_of_lt {x : Int} (h0 : -2 ^ 31 ≤ x) (h1 : x < 2 ^ 31) : wrapI32 x = x := by
  unfold wrapI32
  rw [Int.bmod_eq_of_le] <;> omega

theorem wrapI32_lt (x : Int) : wrapI32 x < 2 ^ 31 := by
  unfold wrapI32
  exact Int.bmod_lt (by decide)

theorem wrapI32_natCast {k : Nat} (hk : k < 2 ^ 31) : wrapI32 (k : Int) = k :=
  wrapI32_of_lt (by omega) (by omega)

/-- Whatever the build, the counter holds the wrapped number of increments. -/
theorem succI32_wrapI32 {overflowChecks : Bool} {n : Nat} {y : Int}
    (h : succI32 overflowChecks (wrapI32 n) = some y) : y = wrapI32 ((n + 1 : Nat) : Int) := by
  unfold succI32 at h
  split at h
  · simp at h
  · rw [Option.some.injEq] at h
    rw [← h]
    simp [wrapI32]

/-- `x + 1` on `usize`, and nothing where a build with overflow checks panics. -/
def succUsize (overflowChecks : Bool) (x : Nat) : Option Nat :=
  if x + 1 < 2 ^ 64 then some (x + 1) else if overflowChecks then none else some 0

/-- `RandomGenerator::generate`: the decimal digits of a fresh uuid. -/
def RandomGenerator.generate (uuid : BitVec 128) : String := toString uuid.toNat

theorem RandomGenerator.generate_ne_empty (uuid : BitVec 128) : generate uuid ≠ "" := by
  intro h
  have hdigits : Nat.toDigits 10 uuid.toNat = [] := by
    simpa [generate, Nat.toString_eq_ofList_toDigits] using congrArg String.toList h
  exact Nat.toDigits_ne_nil hdigits

/-- The message of a failed arithmetic check. -/
def overflowMessage : String := "attempt to add with overflow"

/-- The wait group behind its mutex; every method takes the lock for its whole body but `wait`. -/
structure WaitGroup where
  count : Nat
  deriving DecidableEq, Repr

namespace WaitGroup

/-- `WaitGroup::default`. -/
def new : WaitGroup := ⟨0⟩

/-- `WaitGroup::add`. -/
def add (self : WaitGroup) (n : Nat) : WaitGroup := ⟨self.count + n⟩

/-- `WaitGroup::done`. The count is a `usize`, so at zero the decrement panics under overflow
checks and wraps without them. -/
def done (overflowChecks : Bool) (self : WaitGroup) : Outcome WaitGroup Unit :=
  match self.count with
  | n + 1 => .ok () ⟨n⟩
  | 0 => if overflowChecks then .panic "attempt to subtract with overflow" self
         else .ok () ⟨2 ^ 64 - 1⟩

/-- The loop condition of `WaitGroup::wait`: `wait` returns from a state in which this is false. -/
def mustWait (self : WaitGroup) : Bool := decide (0 < self.count)

theorem done_succ (overflowChecks : Bool) (n : Nat) :
    done overflowChecks ⟨n + 1⟩ = .ok () ⟨n⟩ := rfl

end WaitGroup

end SkywalkingAgent.Common
