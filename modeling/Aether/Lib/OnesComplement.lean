import Mathlib.Algebra.BigOperators.Group.List.Basic
import Mathlib.Data.Nat.ModEq
import Mathlib.Tactic.Ring

/-!
Sums in one's complement, of words in any base.

A carry that leaves a word is brought around and added at the other end, so a sum keeps its
residue modulo the base less one. Of the two words with residue zero, the sum of nothing but zeros
is the first and every other sum the second.

* `Stands`: the word that a plain sum comes to; `Stands.unique`.
* `stands_sum`: the carries are brought around at each addition.
* `Stands.of_turns`, `exists_turns`: they are added to the plain sum at its end.
* `Stands.complement`: **a sum with the complement of its word comes to the last word.**
-/

namespace OnesComplement

variable {b s r r' w : ℕ}

/-- Addition with the carry brought around. -/
def add (b x y : ℕ) : ℕ := if x + y < b then x + y else x + y - b + 1

/-- The sum of words. -/
def sum (b : ℕ) (ws : List ℕ) : ℕ := ws.foldl (add b) 0

/-- What is carried out of a word is added to it. -/
def turn (b s : ℕ) : ℕ := s % b + s / b

/-- A word for a plain sum: its residue, and zero for zero only. -/
structure Stands (b s r : ℕ) : Prop where
  lt : r < b
  modEq : r ≡ s [MOD b - 1]
  zero : r = 0 ↔ s = 0

/-- A plain sum has one word. -/
lemma Stands.unique (h : Stands b s r) (h' : Stands b s r') : r = r' := by
  obtain hs | hs := Nat.eq_zero_or_pos s
  · rw [h.zero.mpr hs, h'.zero.mpr hs]
  · have hr : r ≠ 0 := fun h0 => absurd (h.zero.mp h0) (by omega)
    have hr' : r' ≠ 0 := fun h0 => absurd (h'.zero.mp h0) (by omega)
    have hlt := h.lt
    have hlt' := h'.lt
    -- neither is zero, so they are below the modulus less one
    have hmod : r - 1 + 1 ≡ r' - 1 + 1 [MOD b - 1] := by
      rw [Nat.sub_add_cancel (by omega), Nat.sub_add_cancel (by omega)]
      exact h.modEq.trans h'.modEq.symm
    have heq := (Nat.ModEq.add_right_cancel' 1 hmod).eq_of_lt_of_lt (by omega) (by omega)
    omega

lemma stands_of_lt (h : s < b) : Stands b s s := ⟨h, rfl, Iff.rfl⟩

/-! ### Carries at each addition -/

lemma Stands.add (h : Stands b s r) (hw : w < b) : Stands b (s + w) (add b r w) := by
  have hlt := h.lt
  have hzero := h.zero
  have hmod : r + w ≡ s + w [MOD b - 1] := h.modEq.add_right w
  rw [OnesComplement.add]
  split
  · rename_i hsum
    exact ⟨hsum, hmod, by omega⟩
  · rename_i hsum
    have hround : r + w - b + 1 + (b - 1) = r + w := by omega
    refine ⟨by omega, ?_, by omega⟩
    rw [← hround] at hmod
    exact Nat.add_modulus_modEq_iff.mp hmod

lemma Stands.foldl {ws : List ℕ} (h : Stands b s r) (hws : ∀ w ∈ ws, w < b) :
    Stands b (s + ws.sum) (ws.foldl (OnesComplement.add b) r) := by
  induction ws generalizing s r with
  | nil => exact h
  | cons w ws ih =>
      have hstep := h.add (hws w (List.mem_cons_self ..))
      have hrest := ih hstep fun w' hw' => hws w' (List.mem_cons_of_mem _ hw')
      rw [List.sum_cons, ← Nat.add_assoc, List.foldl_cons]
      exact hrest

/-- **The sum of words** is the word for their plain sum. -/
lemma stands_sum (hb : 0 < b) {ws : List ℕ} (hws : ∀ w ∈ ws, w < b) :
    Stands b ws.sum (sum b ws) := by
  have h := (stands_of_lt hb).foldl hws
  rw [Nat.zero_add] at h
  exact h

/-! ### Carries at the end -/

lemma turn_modEq (hb : 0 < b) (s : ℕ) : turn b s ≡ s [MOD b - 1] := by
  have hsplit : turn b s + (b - 1) * (s / b) = s := by
    calc turn b s + (b - 1) * (s / b) = s % b + (b - 1 + 1) * (s / b) := by rw [turn]; ring
      _ = s % b + b * (s / b) := by rw [Nat.sub_add_cancel hb]
      _ = s := Nat.mod_add_div s b
  exact Nat.add_modulus_mul_modEq_iff.mp (by rw [hsplit])

lemma turn_eq_zero_iff : turn b s = 0 ↔ s = 0 := by
  refine ⟨fun h => ?_, by rintro rfl; simp [turn]⟩
  rw [turn, Nat.add_eq_zero_iff] at h
  rw [← Nat.mod_add_div s b, h.1, h.2, Nat.mul_zero]

/-- A turn keeps the word. -/
lemma Stands.of_turn (hb : 0 < b) (h : Stands b (turn b s) r) : Stands b s r :=
  ⟨h.lt, h.modEq.trans (turn_modEq hb s), h.zero.trans turn_eq_zero_iff⟩

lemma Stands.of_turns (hb : 0 < b) {n : ℕ} (h : Stands b ((turn b)^[n] s) r) : Stands b s r := by
  induction n generalizing s with
  | zero => exact h
  | succ n ih =>
      rw [Function.iterate_succ_apply] at h
      exact (ih h).of_turn hb

lemma turn_le (hb : 0 < b) (s : ℕ) : turn b s ≤ s := by
  have hmul : 1 * (s / b) ≤ b * (s / b) := Nat.mul_le_mul_right _ hb
  have hsplit := Nat.mod_add_div s b
  rw [turn]
  omega

/-- A sum does not grow while its carries are added. -/
lemma turns_le (hb : 0 < b) (n s : ℕ) : (turn b)^[n] s ≤ s := by
  induction n generalizing s with
  | zero => exact Nat.le_refl s
  | succ n ih =>
      rw [Function.iterate_succ_apply]
      exact Nat.le_trans (ih (turn b s)) (turn_le hb s)

/-- Two turns are enough for a plain sum of two words' size. -/
lemma exists_turns (hb : 2 ≤ b) (h : s < b * b) : ∃ n ≤ 2, (turn b)^[n] s < b := by
  by_cases hs : s < b
  · exact ⟨0, by omega, hs⟩
  have hhigh : s / b < b := Nat.div_lt_of_lt_mul h
  have hlow : s % b < b := Nat.mod_lt s (by omega)
  by_cases hturn : turn b s < b
  · exact ⟨1, by omega, hturn⟩
  · -- one carry is left, and what it is added to is less than the last word
    have hone : turn b s / b = 1 := by
      rw [turn] at hturn ⊢
      exact Nat.div_eq_of_lt_le (by omega) (by omega)
    have hsplit := Nat.mod_add_div (turn b s) b
    rw [hone, Nat.mul_one] at hsplit
    refine ⟨2, Nat.le_refl 2, ?_⟩
    change turn b (turn b s) < b
    rw [turn, hone]
    rw [turn] at hsplit ⊢
    omega

/-! ### The complement -/

/-- **A sum with the complement of its word comes to the last word.** -/
theorem Stands.complement (hb : 2 ≤ b) (h : Stands b s r) :
    Stands b (s + (b - 1 - r)) (b - 1) := by
  have hlt := h.lt
  have hzero := h.zero
  have hsum : r + (b - 1 - r) = b - 1 := by omega
  refine ⟨by omega, ?_, by omega⟩
  have hmod := h.modEq.add_right (b - 1 - r)
  rwa [hsum] at hmod

end OnesComplement
