import Mathlib.Data.List.Basic
import Mathlib.Tactic.Common

/-!
Bounded first-in first-out channels. A channel carries the proof that it never
holds more than its capacity; a send on a full channel is not enabled, which is
how a suspended sender looks from outside.
-/

/-- A bounded channel of capacity `cap`. -/
structure Mailbox (α : Type*) (cap : ℕ) where
  items : List α
  bound : items.length ≤ cap
  deriving DecidableEq

namespace Mailbox

variable {α : Type*} {cap : ℕ}

def empty : Mailbox α cap := ⟨[], Nat.zero_le _⟩

/-- The number of items the channel takes before a sender is suspended. -/
def room (m : Mailbox α cap) : ℕ := cap - m.items.length

/-- Put an item at the back; `none` when the channel is full. -/
def send (m : Mailbox α cap) (a : α) : Option (Mailbox α cap) :=
  if h : m.items.length < cap then some ⟨m.items ++ [a], by
    rw [List.length_append, List.length_singleton]; exact h⟩ else none

/-- Take the item at the front; `none` when the channel is empty. -/
def recv (m : Mailbox α cap) : Option (α × Mailbox α cap) :=
  match h : m.items with
  | [] => none
  | a :: t => some (a, ⟨t, by have := m.bound; rw [h, List.length_cons] at this; omega⟩)

/-- Take up to `n` items from the front: `try_recv` in a loop. -/
def takeUpTo (m : Mailbox α cap) (n : ℕ) : List α × Mailbox α cap :=
  (m.items.take n, ⟨m.items.drop n, by have := m.bound; rw [List.length_drop]; omega⟩)

/-- A send that is enabled appends the item. -/
lemma send_eq_some {m m' : Mailbox α cap} {a : α} (h : m.send a = some m') :
    m'.items = m.items ++ [a] ∧ m.items.length < cap := by
  rw [send] at h
  split at h
  · cases h; exact ⟨rfl, ‹_›⟩
  · cases h

lemma exists_send {m : Mailbox α cap} (h : 0 < m.room) (a : α) : ∃ m', m.send a = some m' := by
  rw [room] at h
  exact ⟨_, dif_pos (by omega)⟩

lemma room_send {m m' : Mailbox α cap} {a : α} (h : m.send a = some m') :
    m'.room + 1 = m.room := by
  obtain ⟨hitems, hlt⟩ := send_eq_some h
  rw [room, room, hitems, List.length_append, List.length_singleton]
  omega

lemma send_eq_none {m : Mailbox α cap} {a : α} : m.send a = none ↔ m.room = 0 := by
  rw [send, room]
  split <;> simp <;> omega

lemma recv_eq_some {m m' : Mailbox α cap} {a : α} (h : m.recv = some (a, m')) :
    m.items = a :: m'.items := by
  rw [recv] at h
  split at h
  · cases h
  · rename_i b t hb
    cases h
    exact hb

lemma room_recv {m m' : Mailbox α cap} {a : α} (h : m.recv = some (a, m')) :
    m'.room = m.room + 1 := by
  have hitems := congrArg List.length (recv_eq_some h)
  have hbound := m.bound
  rw [List.length_cons] at hitems
  rw [room, room]
  omega

end Mailbox
