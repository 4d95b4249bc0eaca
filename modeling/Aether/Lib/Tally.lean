import Mathlib.Data.List.Flatten
import Mathlib.Data.Nat.Find
import Mathlib.Tactic.Common

/-!
Counting up to a number of items that come in batches.

* `tally`: the items are counted one by one; `tally_done_iff`: the counting is done exactly when
  there are enough of them and nothing fails between them, and `counted_tally` says which of them
  have been counted.
* `alike_iff`: counting items from some moment on agrees with counting the batches that are not
  empty, after every number of batches, exactly when they reach two in one batch.
-/

namespace Tally

variable {α ε : Type}

/-! ### Items -/

section Items

variable (required : ℕ) (follow : ℕ → Except ε Unit)

/-- Items are counted, the counter being the list of them, until there are so many. Something
follows each of the others, and may fail. An error says how the counting has ended. -/
def tally : List α → List α → Except (Except ε Unit × List α) (List α)
  | counted, [] => .ok counted
  | counted, x :: xs =>
      if required ≤ counted.length + 1 then .error (.ok (), counted ++ [x])
      else
        match follow (counted.length + 1) with
        | .error e => .error (.error e, counted ++ [x])
        | .ok () => tally (counted ++ [x]) xs

/-- What has been counted, whether the counting has ended or not. -/
def counted : Except (Except ε Unit × List α) (List α) → List α
  | .ok xs => xs
  | .error (_, xs) => xs

/-- The counting is done. -/
def Done (r : Except (Except ε Unit × List α) (List α)) : Prop := ∃ xs, r = .error (.ok (), xs)

variable {required follow} {ks : List α}

lemma tally_append (xs ys : List α) :
    tally required follow ks (xs ++ ys)
      = (tally required follow ks xs).bind fun ks => tally required follow ks ys := by
  induction xs generalizing ks with
  | nil => rfl
  | cons x xs ih =>
      rw [List.cons_append, tally, tally]
      split
      · rfl
      · cases follow (ks.length + 1) with
        | error e => rfl
        | ok u => exact ih

/-- **The counting is done** exactly when there are enough items, and nothing that follows one
before the last has failed. -/
lemma tally_done_iff (hk : ks.length < required) (xs : List α) :
    Done (tally required follow ks xs)
      ↔ required ≤ ks.length + xs.length ∧ ∀ j, ks.length < j → j < required → follow j = .ok () := by
  induction xs generalizing ks with
  | nil =>
      constructor
      · rintro ⟨ys, h⟩
        cases h
      · rintro ⟨hlen, -⟩
        exact absurd hlen (Nat.not_le_of_lt hk)
  | cons x xs ih =>
      rw [tally]
      by_cases hlast : required ≤ ks.length + 1
      · rw [if_pos hlast]
        refine ⟨fun _ => ⟨?_, ?_⟩, fun _ => ⟨_, rfl⟩⟩
        · rw [List.length_cons]
          omega
        · intro j hj hj'
          omega
      · rw [if_neg hlast]
        cases hfollow : follow (ks.length + 1) with
        | error e =>
            constructor
            · rintro ⟨ys, h⟩
              cases h
            · rintro ⟨-, hall⟩
              rw [hall (ks.length + 1) (Nat.lt_succ_self _) (by omega)] at hfollow
              cases hfollow
        | ok u =>
            have hlen : (ks ++ [x]).length = ks.length + 1 := by simp
            show Done (tally required follow (ks ++ [x]) xs) ↔ _
            rw [ih (by omega), List.length_cons, hlen]
            refine and_congr (by omega) ⟨?_, ?_⟩
            · intro hall j hj hj'
              rcases Nat.eq_or_lt_of_le hj with rfl | hlt
              · exact hfollow
              · exact hall j hlt hj'
            · intro hall j hj hj'
              exact hall j (by omega) hj'

/-- Where nothing can fail, the counting ends by being done. -/
lemma done_of_tally_error {o : Except ε Unit} {xs ys : List α}
    (h : tally required (fun _ => .ok ()) ks xs = .error (o, ys)) : o = .ok () := by
  induction xs generalizing ks with
  | nil => cases h
  | cons x xs ih =>
      rw [tally] at h
      split at h
      · cases h
        rfl
      · exact ih h

/-- What is still counted has not come far enough. -/
lemma lt_of_tally_ok (hk : ks.length < required) {xs ys : List α}
    (h : tally required follow ks xs = .ok ys) : ys = ks ++ xs ∧ ys.length < required := by
  induction xs generalizing ks with
  | nil =>
      obtain rfl := Except.ok.inj h
      exact ⟨(List.append_nil _).symm, hk⟩
  | cons x xs ih =>
      rw [tally] at h
      split at h
      · cases h
      · split at h
        · cases h
        · have hlen : (ks ++ [x]).length < required := by
            simp only [List.length_append, List.length_singleton]
            omega
          obtain ⟨hys, hlt⟩ := ih hlen h
          refine ⟨?_, hlt⟩
          rw [hys, List.append_assoc, List.singleton_append]

/-- **The items counted**, where nothing fails between them, are the first ones. -/
lemma counted_tally (hall : ∀ j, ks.length < j → j < required → follow j = .ok ())
    (hk : ks.length < required) (xs : List α) :
    counted (tally required follow ks xs) = (ks ++ xs).take required := by
  induction xs generalizing ks with
  | nil =>
      rw [List.append_nil, List.take_of_length_le (Nat.le_of_lt hk)]
      rfl
  | cons x xs ih =>
      have hlen : (ks ++ [x]).length = ks.length + 1 := by simp
      have hsplit : ks ++ x :: xs = (ks ++ [x]) ++ xs := by simp
      rw [tally]
      by_cases hlast : required ≤ ks.length + 1
      · obtain rfl : required = (ks ++ [x]).length := by omega
        rw [if_pos hlast, hsplit, List.take_left]
        rfl
      · rw [if_neg hlast, hall (ks.length + 1) (Nat.lt_succ_self _) (by omega), hsplit]
        exact ih (fun j hj hj' => hall j (by omega) hj') (by omega)

/-- Where what follows the next item fails, it is the last one counted. -/
lemma counted_tally_of_error {e : ε} (hfail : follow (ks.length + 1) = .error e) (xs : List α) :
    counted (tally required follow ks xs) = ks ++ xs.take 1 := by
  cases xs with
  | nil => exact (List.append_nil ks).symm
  | cons x xs =>
      rw [tally, hfail]
      split <;> rfl

end Items

/-! ### Batches -/

/-- The batches that are not empty. -/
def full (bs : List (List α)) : ℕ := bs.countP fun b => !b.isEmpty

lemma full_cons (b : List α) (bs : List (List α)) :
    full (b :: bs) = (if !b.isEmpty then 1 else 0) + full bs := by
  rw [full, List.countP_cons, ← full, Nat.add_comm]

lemma full_le_length_flatten (bs : List (List α)) : full bs ≤ bs.flatten.length := by
  induction bs with
  | nil => exact Nat.le_refl 0
  | cons b bs ih =>
      rw [full_cons, List.flatten_cons, List.length_append]
      cases b with
      | nil => exact Nat.add_le_add (Nat.le_refl 0) ih
      | cons x b => exact Nat.add_le_add (Nat.succ_pos b.length) ih

/-- Where there is an item there is a batch that is not empty. -/
lemma full_pos_of_flatten {bs : List (List α)} (h : 0 < bs.flatten.length) : 0 < full bs := by
  obtain ⟨x, hx⟩ := List.exists_mem_of_length_pos h
  obtain ⟨b, hb, hmem⟩ := List.mem_flatten.mp hx
  refine List.countP_pos_iff.mpr ⟨b, hb, ?_⟩
  cases b with
  | nil => cases hmem
  | cons y b => rfl

/-- More batches bring no fewer. -/
lemma full_take_mono (bs : List (List α)) {m n : ℕ} (h : m ≤ n) :
    full (bs.take m) ≤ full (bs.take n) :=
  (List.take_sublist_take_left h).countP_le

lemma length_flatten_take_mono (bs : List (List α)) {m n : ℕ} (h : m ≤ n) :
    (bs.take m).flatten.length ≤ (bs.take n).flatten.length :=
  (List.take_sublist_take_left h).flatten.length_le

/-- The next one brings one at most. -/
lemma full_take_succ_le (bs : List (List α)) (n : ℕ) :
    full (bs.take (n + 1)) ≤ full (bs.take n) + 1 := by
  induction bs generalizing n with
  | nil => simp [full]
  | cons b bs ih =>
      cases n with
      | zero =>
          rw [List.take_succ_cons, List.take_zero, List.take_zero, full_cons]
          split <;> simp [full]
      | succ n =>
          rw [List.take_succ_cons, List.take_succ_cons, full_cons, full_cons, Nat.add_assoc]
          exact Nat.add_le_add_left (ih n) _

/-- **Batches that count alike**: while one of them has brought items and the items count, it has
brought one item; and when the second one brings items, they count. `opened n` says that items
count after so many batches. -/
structure Alike (opened : ℕ → Prop) (bs : List (List α)) : Prop where
  single : ∀ n, opened n → full (bs.take n) = 1 → (bs.take n).flatten.length = 1
  timely : ∀ n, full (bs.take n) = 1 → full (bs.take (n + 1)) = 2 → opened (n + 1)

/-- **Items and batches**: two items have been there to count exactly when two batches have come
that are not empty, after every number of batches, if and only if the batches count alike. -/
theorem alike_iff (opened : ℕ → Prop) (bs : List (List α)) :
    (∀ n, (∃ m ≤ n, opened m ∧ 2 ≤ (bs.take m).flatten.length) ↔ 2 ≤ full (bs.take n))
      ↔ Alike opened bs := by
  constructor
  · intro h
    refine ⟨fun n hopen hone => ?_, fun n hone htwo => ?_⟩
    · have hle := full_le_length_flatten (bs.take n)
      have hlt : ¬ 2 ≤ (bs.take n).flatten.length := by
        intro hlen
        have hfull := (h n).mp ⟨n, Nat.le_refl n, hopen, hlen⟩
        omega
      omega
    · obtain ⟨m, hm, hopen, hlen⟩ := (h (n + 1)).mpr (by omega)
      -- no fewer batches have brought two items that count
      have hfull := (h m).mp ⟨m, Nat.le_refl m, hopen, hlen⟩
      obtain rfl | hlt := Nat.eq_or_lt_of_le hm
      · exact hopen
      · have hmono := full_take_mono bs (Nat.le_of_lt_succ hlt)
        omega
  · intro h n
    constructor
    · rintro ⟨m, hm, hopen, hlen⟩
      have hpos : 0 < full (bs.take m) := full_pos_of_flatten (by omega)
      have hmono := full_take_mono bs hm
      by_contra hfull
      have hsingle := h.single m hopen (by omega)
      omega
    · intro hfull
      -- the first number of batches of which two are not empty
      have hex : ∃ m, 2 ≤ full (bs.take m) := ⟨n, hfull⟩
      have hfirst := Nat.find_spec hex
      have hle : Nat.find hex ≤ n := Nat.find_min' hex hfull
      cases hm : Nat.find hex with
      | zero =>
          rw [hm] at hfirst
          simp [full] at hfirst
      | succ m =>
          rw [hm] at hfirst hle
          have hbefore := Nat.find_min hex (m := m) (by omega)
          have hsucc := full_take_succ_le bs m
          have hlen := full_le_length_flatten (bs.take (m + 1))
          exact ⟨m + 1, hle, h.timely m (by omega) (by omega), by omega⟩

end Tally
