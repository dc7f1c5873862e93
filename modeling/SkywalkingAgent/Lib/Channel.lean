import Mathlib.Data.List.Basic

/-!
# Multi-producer single-consumer channels

A FIFO buffer between any number of senders and one receiver, with or without a capacity. `offer`
is what a sender can do, whether it blocks on a full channel or gives up; `take` is what the
receiver can do, whether it waits on an empty channel or gives up. A channel whose receiver is
gone takes nothing any more; one without senders is disconnected as soon as it is drained.
-/

set_option autoImplicit false

namespace SkywalkingAgent.Lib

universe u

/-- A channel: what is buffered, the room for it, the senders, and the receiver. -/
structure Channel (α : Type u) where
  buffer : List α
  /-- Absent for an unbounded channel. -/
  capacity : Option Nat
  senders : Nat
  /-- Whether the receiver is still there. -/
  receiving : Bool
  deriving DecidableEq, Repr

namespace Channel

variable {α : Type u}

/-- A fresh channel with one sender. -/
def new (capacity : Option Nat) : Channel α := ⟨[], capacity, 1, true⟩

/-- The buffer can take another item. -/
def hasRoom (self : Channel α) : Bool := self.capacity.all fun n => decide (self.buffer.length < n)

/-- The answer to a sender. -/
inductive Offered (α : Type u) where
  | accepted (channel : Channel α)
  | full
  | closed

/-- An item is offered to the channel. -/
def offer (self : Channel α) (a : α) : Offered α :=
  if self.receiving then
    if self.hasRoom then .accepted { self with buffer := self.buffer ++ [a] } else .full
  else .closed

/-- The answer to the receiver. -/
inductive Taken (α : Type u) where
  | item (a : α) (channel : Channel α)
  | empty
  | disconnected

/-- The receiver asks for the next item. -/
def take (self : Channel α) : Taken α :=
  match self.buffer with
  | a :: rest => .item a { self with buffer := rest }
  -- what is buffered is still taken after the last sender has gone
  | [] => if self.senders = 0 then .disconnected else .empty

/-- Another sender. -/
def cloneSender (self : Channel α) : Channel α := { self with senders := self.senders + 1 }

/-- One sender less. -/
def dropSender (self : Channel α) : Channel α := { self with senders := self.senders - 1 }

/-- The receiver goes, and with it what it has not taken. -/
def dropReceiver (self : Channel α) : Channel α :=
  { self with buffer := [], receiving := false }

variable {self t : Channel α} {a : α}

theorem offer_eq_accepted_iff :
    self.offer a = .accepted t ↔ self.receiving = true ∧ self.hasRoom = true ∧
      t = { self with buffer := self.buffer ++ [a] } := by
  unfold offer
  split
  · next hreceiving =>
    split
    · next hroom => simp [hreceiving, hroom, eq_comm]
    · next hroom => simp [hroom]
  · next hreceiving => simp [hreceiving]

theorem offer_eq_closed_iff : self.offer a = .closed ↔ self.receiving = false := by
  unfold offer
  split
  · next hreceiving => split <;> simp [hreceiving]
  · next hreceiving => simp [hreceiving]

theorem take_eq_item_iff :
    self.take = .item a t ↔ ∃ rest, self.buffer = a :: rest ∧ t = { self with buffer := rest } := by
  unfold take
  split
  · next b rest hbuffer =>
    simp only [Taken.item.injEq, hbuffer, List.cons.injEq]
    constructor
    · rintro ⟨rfl, rfl⟩
      exact ⟨rest, ⟨rfl, rfl⟩, rfl⟩
    · rintro ⟨rest', ⟨rfl, rfl⟩, rfl⟩
      exact ⟨rfl, rfl⟩
  · next hbuffer =>
    split
    · simp [hbuffer]
    · simp [hbuffer]

theorem take_eq_empty_iff : self.take = .empty ↔ self.buffer = [] ∧ self.senders ≠ 0 := by
  unfold take
  split
  · next hbuffer => simp [hbuffer]
  · next hbuffer => split <;> simp_all

theorem take_eq_disconnected_iff :
    self.take = .disconnected ↔ self.buffer = [] ∧ self.senders = 0 := by
  unfold take
  split
  · next hbuffer => simp [hbuffer]
  · next hbuffer => split <;> simp_all

end Channel

end SkywalkingAgent.Lib
