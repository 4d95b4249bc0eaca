import Mathlib.Algebra.Group.Nat.Defs
import Mathlib.Data.List.Basic
import Mathlib.Data.Nat.Init
import Mathlib.Tactic.Common

/-!
A cursor over a byte string with the reads of the `octets` crate: fixed-size
reads, counted reads and the variable-length integers of QUIC (RFC 9000), whose
first byte announces their length in its two top bits.

Every read has one spec lemma in each direction: what a successful read says
about the bytes in front of the cursor (`getVarint_eq_ok` and its siblings), and
what it does on such bytes whatever follows them (`getVarint_append` and its
siblings).
-/

/-- Bytes, in order. -/
abbrev Bytes := List UInt8

/-- A successful sequence is a success of both parts. -/
lemma Except.bind_eq_ok {ε α β : Type} {x : Except ε α} {f : α → Except ε β} {r : β} :
    (x >>= f) = .ok r ↔ ∃ a, x = .ok a ∧ f a = .ok r := by
  cases x with
  | error e =>
      constructor
      · intro h
        cases h
      · rintro ⟨_, h, _⟩
        cases h
  | ok a =>
      constructor
      · intro h
        exact ⟨a, rfl, h⟩
      · rintro ⟨_, h, g⟩
        cases h
        exact g

lemma Except.mapError_eq_ok {ε ε' α : Type} {x : Except ε α} {f : ε → ε'} {a : α} :
    x.mapError f = .ok a ↔ x = .ok a := by
  cases x with
  | error e => simp [Except.mapError]
  | ok b => simp only [Except.mapError, Except.ok.injEq]

lemma Except.ok_bind {ε α β : Type} (a : α) (f : α → Except ε β) :
    ((.ok a : Except ε α) >>= f) = f a := rfl

lemma Except.mapError_ok {ε ε' α : Type} (f : ε → ε') (a : α) :
    (.ok a : Except ε α).mapError f = .ok a := rfl

/-- `octets::BufferTooShortError`, the only way a read fails. -/
structure BufferTooShort where
  deriving DecidableEq, Repr

/-- The text `BufferTooShortError` displays. -/
def BufferTooShort.text (_ : BufferTooShort) : String := "BufferTooShortError"

/-- A read cursor: the bytes in front of it and the number of bytes it has read. -/
structure Octets where
  rest : Bytes
  off : ℕ
  deriving DecidableEq, Repr

namespace Octets

/-- A cursor at the front of a buffer. -/
def withSlice (buf : Bytes) : Octets := ⟨buf, 0⟩

/-- The number of bytes left. -/
def cap (b : Octets) : ℕ := b.rest.length

@[simp] lemma cap_mk (bs : Bytes) (o : ℕ) : (Octets.mk bs o).cap = bs.length := rfl

/-- `get_u8`. -/
def getU8 (b : Octets) : Except BufferTooShort (UInt8 × Octets) :=
  match b.rest with
  | [] => .error {}
  | x :: t => .ok (x, ⟨t, b.off + 1⟩)

/-- `get_bytes`. -/
def getBytes (b : Octets) (n : ℕ) : Except BufferTooShort (Bytes × Octets) :=
  if b.cap < n then .error {} else .ok (b.rest.take n, ⟨b.rest.drop n, b.off + n⟩)

/-- The length the first byte of a varint announces. -/
def varintParseLen (first : UInt8) : ℕ :=
  match first.toNat / 64 with
  | 0 => 1
  | 1 => 2
  | 2 => 4
  | _ => 8

/-- A byte string read as a big-endian number. -/
def beNat (bs : Bytes) : ℕ := bs.foldl (fun acc b => acc * 256 + b.toNat) 0

/-- The value of a varint: its bytes as a big-endian number, the two length bits
masked off. -/
def varintValue (bs : Bytes) : ℕ := beNat bs % 2 ^ (8 * bs.length - 2)

/-- `get_varint`. -/
def getVarint (b : Octets) : Except BufferTooShort (ℕ × Octets) :=
  match b.rest with
  | [] => .error {}
  | first :: _ =>
      if b.cap < varintParseLen first then .error {}
      else .ok (varintValue (b.rest.take (varintParseLen first)),
        ⟨b.rest.drop (varintParseLen first), b.off + varintParseLen first⟩)

lemma varintParseLen_pos (first : UInt8) : 0 < varintParseLen first := by
  rw [varintParseLen]; split <;> omega

/-- `bs` is a varint encoding of `v`, not necessarily the shortest one. -/
def IsVarint (bs : Bytes) (v : ℕ) : Prop :=
  ∃ first t, bs = first :: t ∧ bs.length = varintParseLen first ∧ v = varintValue bs

lemma IsVarint.length_pos {bs : Bytes} {v : ℕ} (h : IsVarint bs v) : 0 < bs.length := by
  obtain ⟨first, _, _, hlen, _⟩ := h
  exact hlen ▸ varintParseLen_pos first

/-! ### What a successful read says -/

lemma getU8_eq_ok {b c : Octets} {x : UInt8} (h : b.getU8 = .ok (x, c)) :
    b.rest = x :: c.rest ∧ c.off = b.off + 1 := by
  obtain ⟨rest, off⟩ := b
  cases rest with
  | nil => cases h
  | cons y t => cases h; exact ⟨rfl, rfl⟩

/-- Bytes that are read stand at the front. -/
lemma getBytes_eq_ok {b c : Octets} {n : ℕ} {bs : Bytes} (h : b.getBytes n = .ok (bs, c)) :
    bs.length = n ∧ b.rest = bs ++ c.rest ∧ c.off = b.off + n := by
  rw [getBytes] at h
  split at h
  · cases h
  · rename_i hn
    cases h
    refine ⟨?_, (List.take_append_drop n b.rest).symm, rfl⟩
    rw [List.length_take]
    exact Nat.min_eq_left (Nat.not_lt.mp hn)

/-- So does a varint. -/
lemma getVarint_eq_ok {b c : Octets} {v : ℕ} (h : b.getVarint = .ok (v, c)) :
    ∃ bs, IsVarint bs v ∧ b.rest = bs ++ c.rest ∧ c.off = b.off + bs.length := by
  obtain ⟨rest, off⟩ := b
  cases rest with
  | nil => cases h
  | cons first t =>
      rw [getVarint] at h
      dsimp only at h
      split at h
      · cases h
      · rename_i hlen
        rw [cap_mk, Nat.not_lt] at hlen
        cases h
        have hl : ((first :: t).take (varintParseLen first)).length = varintParseLen first := by
          rw [List.length_take]; exact Nat.min_eq_left hlen
        refine ⟨(first :: t).take (varintParseLen first), ?_, ?_, by rw [hl]⟩
        · obtain ⟨k, hk⟩ := Nat.exists_eq_add_of_lt (varintParseLen_pos first)
          refine ⟨first, t.take k, ?_, hl, rfl⟩
          rw [show varintParseLen first = k + 1 by omega, List.take_succ_cons]
        · exact (List.take_append_drop _ _).symm

/-! ### What a read does on the bytes it wants -/

/-- Bytes at the front are read, whatever is behind them. -/
lemma getBytes_append {bs : Bytes} {n : ℕ} (h : bs.length = n) (more : Bytes) (o : ℕ) :
    (Octets.mk (bs ++ more) o).getBytes n = .ok (bs, ⟨more, o + n⟩) := by
  subst h
  rw [getBytes, if_neg (by simp)]
  simp

/-- So is a varint. -/
lemma getVarint_append {bs : Bytes} {v : ℕ} (h : IsVarint bs v) (more : Bytes) (o : ℕ) :
    (Octets.mk (bs ++ more) o).getVarint = .ok (v, ⟨more, o + bs.length⟩) := by
  obtain ⟨first, t, rfl, hlen, rfl⟩ := h
  rw [getVarint]
  simp only [List.cons_append]
  rw [← List.cons_append, ← hlen, if_neg (by simp)]
  simp

end Octets
