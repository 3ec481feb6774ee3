import Mathlib.Data.List.Basic
import Mathlib.Tactic.Common

/-!
# Bounded channels

A channel of bounded capacity between a sender and a receiver that may each be dropped. An operation
is a function that gives no result while its caller has to wait: a send waits while the channel is full
and its receiver alive (`send_none`), a receive while it is empty and its sender alive (`recv_none`). A
channel that lost its sender still hands out what it holds.
-/

namespace K11CHaos

/-- What a channel holds, and which of its ends are alive. -/
structure Chan (α : Type) where
  items : List α
  sender : Bool
  receiver : Bool

namespace Chan

variable {α : Type}

/-- A channel with both ends that holds some items. -/
def open' (items : List α) : Chan α :=
  ⟨items, true, true⟩

/-- Send an item; the flag says whether a receiver took it over. -/
def send (cap : Nat) (c : Chan α) (a : α) : Option (Bool × Chan α) :=
  if c.receiver then
    if c.items.length < cap then some (true, { c with items := c.items ++ [a] }) else none
  else some (false, c)

/-- Receive an item, or learn that none will come. -/
def recv (c : Chan α) : Option (Option α × Chan α) :=
  match c.items with
  | a :: items => some (some a, { c with items := items })
  | [] => if c.sender then none else some (none, c)

/-- The channel after its sender was dropped. -/
def dropSender (c : Chan α) : Chan α :=
  { c with sender := false }

/-- The channel after its receiver was dropped. -/
def dropReceiver (c : Chan α) : Chan α :=
  { c with receiver := false }

/-- What was sent stays in the channel. -/
@[simp] lemma dropSender_items {c : Chan α} : c.dropSender.items = c.items :=
  rfl

/-- The sender is gone. -/
@[simp] lemma dropSender_sender {c : Chan α} : c.dropSender.sender = false :=
  rfl

/-- The receiver stays. -/
@[simp] lemma dropSender_receiver {c : Chan α} : c.dropSender.receiver = c.receiver :=
  rfl

/-- What was not received stays in the channel. -/
@[simp] lemma dropReceiver_items {c : Chan α} : c.dropReceiver.items = c.items :=
  rfl

/-- The sender stays. -/
@[simp] lemma dropReceiver_sender {c : Chan α} : c.dropReceiver.sender = c.sender :=
  rfl

/-- The receiver is gone. -/
@[simp] lemma dropReceiver_receiver {c : Chan α} : c.dropReceiver.receiver = false :=
  rfl

/-- A send that was taken over. -/
lemma send_true {cap : Nat} {c c' : Chan α} {a : α} :
    c.send cap a = some (true, c') ↔
      c.receiver = true ∧ c.items.length < cap ∧ c' = { c with items := c.items ++ [a] } := by
  unfold send
  split_ifs with open' room
  · simp [open', room, eq_comm]
  · simp [room]
  · simp [open']

/-- A send that was refused. -/
lemma send_false {cap : Nat} {c c' : Chan α} {a : α} :
    c.send cap a = some (false, c') ↔ c.receiver = false ∧ c' = c := by
  unfold send
  split_ifs with open' room
  · simp [open']
  · simp [open']
  · simp [open', eq_comm]

/-- A send that has to wait. -/
lemma send_none {cap : Nat} {c : Chan α} {a : α} :
    c.send cap a = none ↔ c.receiver = true ∧ cap ≤ c.items.length := by
  unfold send
  split_ifs with open' room
  · simp [room]
  · simp [open', Nat.le_of_not_lt room]
  · simp [open']

/-- A receive that got an item. -/
lemma recv_some {c c' : Chan α} {a : α} :
    c.recv = some (some a, c') ↔ c.items = a :: c'.items ∧ c'.sender = c.sender ∧
      c'.receiver = c.receiver := by
  obtain ⟨items, sender, receiver⟩ := c
  obtain ⟨items', sender', receiver'⟩ := c'
  cases items with
  | nil => cases sender <;> simp [recv]
  | cons b items =>
    simp only [recv, Option.some.injEq, Prod.mk.injEq, mk.injEq, List.cons.injEq]
    constructor
    · rintro ⟨rfl, rfl, rfl, rfl⟩
      exact ⟨⟨rfl, rfl⟩, rfl, rfl⟩
    · rintro ⟨⟨rfl, rfl⟩, rfl, rfl⟩
      exact ⟨rfl, rfl, rfl, rfl⟩

/-- A receive that will get nothing. -/
lemma recv_closed {c c' : Chan α} :
    c.recv = some (none, c') ↔ c.items = [] ∧ c.sender = false ∧ c' = c := by
  obtain ⟨items, sender, receiver⟩ := c
  cases items with
  | nil => cases sender <;> simp [recv, eq_comm]
  | cons b items => simp [recv]

/-- A receive that has to wait. -/
lemma recv_none {c : Chan α} : c.recv = none ↔ c.items = [] ∧ c.sender = true := by
  obtain ⟨items, sender, receiver⟩ := c
  cases items with
  | nil => cases sender <;> simp [recv]
  | cons b items => simp [recv]

end Chan

end K11CHaos
