import Mathlib.Data.List.Nodup
import Mathlib.Tactic.Common

/-!
Lists that are gathered without repetitions, and lists that are read column by column.

* `pushAll`: elements are pushed behind a list unless it has them; `mem_pushAll`,
  `nodup_pushAll`, `isPrefix_pushAll`: nothing is lost, nothing repeated, and what was there stays
  in front.
* `columns`: the first elements of some lists, then the second ones, and so on; `mem_columns`.
-/

namespace Gather

variable {α : Type}

section Push

variable [DecidableEq α] {out xs : List α} {x y : α}

/-- An element is pushed unless it is there. -/
def pushNew (out : List α) (x : α) : List α := if x ∈ out then out else out ++ [x]

/-- Elements are pushed one after the other. -/
def pushAll (out xs : List α) : List α := xs.foldl pushNew out

lemma mem_pushNew : y ∈ pushNew out x ↔ y ∈ out ∨ y = x := by
  rw [pushNew]
  split
  · rename_i hx
    refine ⟨.inl, ?_⟩
    rintro (hy | rfl)
    · exact hy
    · exact hx
  · rw [List.mem_append, List.mem_singleton]

lemma nodup_pushNew (h : out.Nodup) (x : α) : (pushNew out x).Nodup := by
  rw [pushNew]
  split
  · exact h
  · rename_i hx
    exact List.nodup_append.mpr ⟨h, List.nodup_singleton x, fun y hy z hz heq => by
      rw [List.mem_singleton.mp hz] at heq
      exact hx (heq ▸ hy)⟩

lemma isPrefix_pushNew (out : List α) (x : α) : out <+: pushNew out x := by
  rw [pushNew]
  split
  · exact List.prefix_refl out
  · exact List.prefix_append out [x]

lemma pushAll_append (out xs ys : List α) :
    pushAll out (xs ++ ys) = pushAll (pushAll out xs) ys := List.foldl_append

/-- Nothing is lost and nothing is made up. -/
lemma mem_pushAll : y ∈ pushAll out xs ↔ y ∈ out ∨ y ∈ xs := by
  induction xs generalizing out with
  | nil => simp [pushAll]
  | cons x xs ih =>
      rw [pushAll, List.foldl_cons, ← pushAll, ih, mem_pushNew, List.mem_cons, or_assoc]

lemma nodup_pushAll (h : out.Nodup) (xs : List α) : (pushAll out xs).Nodup := by
  induction xs generalizing out with
  | nil => exact h
  | cons x xs ih => exact ih (nodup_pushNew h x)

lemma isPrefix_pushAll (out xs : List α) : out <+: pushAll out xs := by
  induction xs generalizing out with
  | nil => exact List.prefix_refl out
  | cons x xs ih => exact (isPrefix_pushNew out x).trans (ih _)

/-- Elements that are new and different are appended. -/
lemma pushAll_of_nodup (h : (out ++ xs).Nodup) : pushAll out xs = out ++ xs := by
  induction xs generalizing out with
  | nil => exact (List.append_nil out).symm
  | cons x xs ih =>
      have hnew : x ∉ out := fun hx =>
        (List.nodup_append.mp h).2.2 x hx x (List.mem_cons_self ..) rfl
      have happend : out ++ x :: xs = (out ++ [x]) ++ xs := by simp
      have hpush : pushNew out x = out ++ [x] := if_neg hnew
      rw [pushAll, List.foldl_cons, ← pushAll, hpush, happend]
      exact ih (happend ▸ h)

/-- What is pushed first and has no repetitions stands in front, and what follows was pushed
later. -/
lemma pushAll_nil_append (h : xs.Nodup) (ys : List α) :
    ∃ rest, pushAll [] (xs ++ ys) = xs ++ rest ∧ ∀ y ∈ rest, y ∈ ys := by
  have hfront : pushAll [] xs = xs := pushAll_of_nodup h
  obtain ⟨rest, hrest⟩ := isPrefix_pushAll (pushAll [] xs) ys
  rw [← pushAll_append, hfront] at hrest
  refine ⟨rest, hrest.symm, ?_⟩
  intro y hy
  have hnodup : (xs ++ rest).Nodup := hrest ▸ nodup_pushAll List.nodup_nil _
  have hmem : y ∈ pushAll [] (xs ++ ys) := hrest ▸ List.mem_append_right xs hy
  rcases List.mem_append.mp ((mem_pushAll.mp hmem).resolve_left List.not_mem_nil) with hx | hy'
  · exact absurd rfl ((List.nodup_append.mp hnodup).2.2 y hx y hy)
  · exact hy'

end Push

/-! ### Columns -/

/-- The first elements of the lists, then the second ones, and so on. -/
def columns (ls : List (List α)) : List α :=
  (List.range ((ls.map List.length).max?.getD 0)).flatMap fun i => ls.filterMap (·[i]?)

lemma length_le_max {ls : List (List α)} {l : List α} (hl : l ∈ ls) :
    l.length ≤ (ls.map List.length).max?.getD 0 := by
  cases hmax : (ls.map List.length).max? with
  | none =>
      rw [List.max?_eq_none_iff, List.map_eq_nil_iff] at hmax
      rw [hmax] at hl
      cases hl
  | some m => exact (List.max?_eq_some_iff.mp hmax).2 _ (List.mem_map_of_mem hl)

/-- The columns have the elements of the lists, and no others. -/
lemma mem_columns {ls : List (List α)} {x : α} : x ∈ columns ls ↔ ∃ l ∈ ls, x ∈ l := by
  simp only [columns, List.mem_flatMap, List.mem_filterMap, List.mem_range]
  constructor
  · rintro ⟨i, -, l, hl, hx⟩
    exact ⟨l, hl, List.mem_of_getElem? hx⟩
  · rintro ⟨l, hl, hx⟩
    obtain ⟨i, hi, hget⟩ := List.mem_iff_getElem.mp hx
    have hmax := length_le_max hl
    exact ⟨i, by omega, l, hl, List.getElem?_eq_some_iff.mpr ⟨hi, hget⟩⟩

lemma mem_map_columns {β : Type} {f : α → β} {ls : List (List α)} {y : β} :
    y ∈ (columns ls).map f ↔ ∃ l ∈ ls, ∃ x ∈ l, f x = y := by
  rw [List.mem_map]
  constructor
  · rintro ⟨x, hx, rfl⟩
    obtain ⟨l, hl, hmem⟩ := mem_columns.mp hx
    exact ⟨l, hl, x, hmem, rfl⟩
  · rintro ⟨l, hl, x, hmem, rfl⟩
    exact ⟨x, mem_columns.mpr ⟨l, hl, hmem⟩, rfl⟩

end Gather
