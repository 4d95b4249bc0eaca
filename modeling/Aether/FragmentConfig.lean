import Aether.Fragment
import Aether.Options

/-!
The settings of the wrapper as they are read from the environment (`from_env` and
`parse_range` of `fragment.rs`), and the numbers picked with them.

* `parseRange_pair`: two numbers with a dash between them, in either order.
* `Usable`: no range of the settings is empty.
* `pickChunkLen?`, `pickDelay?`: the picks, where `none` is the panic of `gen_range` on an
  empty range.
* `fromEnv_usable`: **the settings are usable**, for every environment.
-/

namespace Aether

/-! ### Strings -/

section Trim

variable {α : Type} {p : α → Bool}

/-- An element that stays holds everything behind it. -/
lemma dropWhile_append_cons {x : α} (hx : p x = false) (l r : List α) :
    (l ++ x :: r).dropWhile p = l.dropWhile p ++ x :: r := by
  induction l with
  | nil => rw [List.nil_append, List.dropWhile_cons_of_neg (by simp [hx])]; rfl
  | cons y l ih =>
      by_cases hy : p y = true
      · rw [List.cons_append, List.dropWhile_cons_of_pos hy, List.dropWhile_cons_of_pos hy, ih]
      · rw [List.cons_append, List.dropWhile_cons_of_neg hy, List.dropWhile_cons_of_neg hy]
        rfl

/-- The same from behind. -/
lemma rdropWhile_append_cons {x : α} (hx : p x = false) (l r : List α) :
    (l ++ x :: r).rdropWhile p = l ++ x :: r.rdropWhile p := by
  rw [List.rdropWhile, List.reverse_append, List.reverse_cons, List.append_assoc,
    List.singleton_append, dropWhile_append_cons hx, List.reverse_append, List.reverse_cons,
    List.reverse_reverse, List.append_assoc]
  rfl

/-- Elements are taken up to one that stays. -/
lemma takeWhile_append_stop {l r : List α} (hl : ∀ x ∈ l, p x = true)
    (hr : ∀ x ∈ r.head?, p x = false) :
    (l ++ r).takeWhile p = l ∧ (l ++ r).dropWhile p = r := by
  rw [List.takeWhile_append_of_pos hl, List.dropWhile_append_of_pos hl]
  cases r with
  | nil => simp
  | cons x r =>
      have hx := hr x rfl
      rw [List.takeWhile_cons_of_neg (by simp [hx]), List.dropWhile_cons_of_neg (by simp [hx])]
      simp

/-- Every list is dropped or has a first element that stays. -/
lemma dropWhile_cases (p : α → Bool) (l : List α) :
    l.dropWhile p = [] ∨ ∃ pre x r, l = pre ++ x :: r ∧ p x = false
      ∧ l.dropWhile p = x :: r := by
  cases h : l.dropWhile p with
  | nil => exact .inl rfl
  | cons x r =>
      refine .inr ⟨l.takeWhile p, x, r, ?_, ?_, rfl⟩
      · rw [← h, List.takeWhile_append_dropWhile]
      · have hhead := List.head_dropWhile_not p (l := l) (by rw [h]; exact List.cons_ne_nil _ _)
        simpa [h] using hhead

/-- An element that is not dropped is still there after both sides are trimmed. -/
lemma mem_trimmed {l : List α} {c : α} (hc : c ∈ l) (hp : p c = false) :
    c ∈ (l.dropWhile p).rdropWhile p := by
  obtain ⟨pre, r, rfl⟩ := List.append_of_mem hc
  rw [dropWhile_append_cons hp, rdropWhile_append_cons hp]
  exact List.mem_append_right _ (List.mem_cons_self ..)

/-- Trimming the right side first changes nothing. -/
lemma trimmed_rdropWhile (l : List α) :
    ((l.rdropWhile p).dropWhile p).rdropWhile p = (l.dropWhile p).rdropWhile p := by
  obtain hnil | ⟨pre, x, r, rfl, hx, hdrop⟩ := dropWhile_cases p l
  · have hall : ∀ c ∈ l, p c = true := List.dropWhile_eq_nil_iff.mp hnil
    have hempty : l.rdropWhile p = [] := List.rdropWhile_eq_nil_iff.mpr hall
    rw [hnil, hempty]
    rfl
  · have hpre : pre.dropWhile p ++ x :: r = [] ++ x :: r := by
      rw [← dropWhile_append_cons hx, hdrop]
      rfl
    rw [rdropWhile_append_cons hx, dropWhile_append_cons hx, dropWhile_append_cons hx,
      List.append_cancel_right hpre, List.nil_append, List.nil_append]
    rw [← List.nil_append (x :: r.rdropWhile p), ← List.nil_append (x :: r),
      rdropWhile_append_cons hx, rdropWhile_append_cons hx, List.rdropWhile_idempotent]

end Trim

lemma toList_trim (s : String) :
    (trim s).toList = (s.toList.dropWhile isWhitespace).rdropWhile isWhitespace := by
  rw [trim, String.toList_ofList]

lemma trim_dropWhile (s : String) : trim (.ofList (s.toList.dropWhile isWhitespace)) = trim s := by
  rw [trim, String.toList_ofList, List.dropWhile_idempotent, trim]

lemma trim_rdropWhile (s : String) :
    trim (.ofList (s.toList.rdropWhile isWhitespace)) = trim s := by
  rw [trim, String.toList_ofList, trimmed_rdropWhile, trim]

lemma trim_trim (s : String) : trim (trim s) = trim s := by
  have h := trim_rdropWhile (.ofList (s.toList.dropWhile isWhitespace))
  rw [String.toList_ofList, trim_dropWhile] at h
  exact h

/-- A number is made of digits, with a sign that is not a dash. -/
lemma parseUnsigned_mem {values n : ℕ} {s : String} (h : parseUnsigned values s = some n) :
    ∀ c ∈ s.toList, c = '+' ∨ c.isDigit = true := by
  intro c hc
  rw [parseUnsigned] at h
  obtain ⟨⟨-, hall, -⟩, -⟩ := Option.ite_none_right_eq_some.mp h
  by_cases hsign : s.toList.head? = some '+'
  · rw [if_pos hsign] at hall
    cases hs : s.toList with
    | nil => rw [hs] at hc; cases hc
    | cons a l =>
        rw [hs] at hc hall hsign
        obtain rfl : a = '+' := Option.some.inj hsign
        rcases List.mem_cons.mp hc with rfl | hmem
        · exact .inl rfl
        · exact .inr (List.all_eq_true.mp hall c hmem)
  · rw [if_neg hsign] at hall
    exact .inr (List.all_eq_true.mp hall c hc)

/-- There is no dash where a number is read from what is trimmed. -/
lemma not_mem_of_parseUnsigned {values n : ℕ} {s : String}
    (h : parseUnsigned values (trim s) = some n) : '-' ∉ s.toList := by
  intro hmem
  have hin : '-' ∈ (trim s).toList := by
    rw [toList_trim]
    exact mem_trimmed hmem (by decide)
  rcases parseUnsigned_mem h '-' hin with hc | hc
  · exact absurd hc (by decide)
  · exact absurd hc (by decide)

/-- `split_once` for a character. -/
def splitOnce (sep : Char) (s : String) : Option (String × String) :=
  match s.toList.dropWhile (· ≠ sep) with
  | [] => none
  | _ :: rest => some (.ofList (s.toList.takeWhile (· ≠ sep)), .ofList rest)

lemma splitOnce_append {sep : Char} {a : List Char} (ha : sep ∉ a) (b : List Char) :
    splitOnce sep (.ofList (a ++ sep :: b)) = some (.ofList a, .ofList b) := by
  have hne : ∀ c ∈ a, decide (c ≠ sep) = true := by
    intro c hc
    rw [decide_eq_true_eq]
    rintro rfl
    exact ha hc
  obtain ⟨htake, hdrop⟩ := takeWhile_append_stop hne (show ∀ c ∈ (sep :: b).head?, _ by simp)
  rw [splitOnce, String.toList_ofList, hdrop, htake]

lemma splitOnce_of_not_mem {sep : Char} {s : String} (h : sep ∉ s.toList) :
    splitOnce sep s = none := by
  have hdrop : s.toList.dropWhile (· ≠ sep) = [] := by
    refine List.dropWhile_eq_nil_iff.mpr fun c hc => ?_
    rw [decide_eq_true_eq]
    rintro rfl
    exact h hc
  rw [splitOnce, hdrop]

namespace Fragment

/-! ### Ranges -/

/-- `parse` for a `u64`. -/
def parseU64 : String → Option ℕ := parseUnsigned (2 ^ 64)

/-- `fragment::parse_range`. -/
def parseRange (spec : String) (default : ℕ × ℕ) : ℕ × ℕ :=
  let spec := trim spec
  if spec.isEmpty then default
  else
    match splitOnce '-' spec with
    | some (a, b) =>
        let lo := (parseU64 (trim a)).getD default.1
        let hi := (parseU64 (trim b)).getD default.2
        if hi < lo then (hi, lo) else (lo, hi)
    | none =>
        let v := (parseU64 spec).getD default.1
        (v, v)

/-- The dash of a range is not trimmed away, and no number holds one. -/
lemma splitOnce_trim {a b : String} {m : ℕ} (ha : parseU64 (trim a) = some m) :
    splitOnce '-' (trim (a ++ "-" ++ b))
      = some (.ofList (a.toList.dropWhile isWhitespace),
          .ofList (b.toList.rdropWhile isWhitespace)) := by
  have hdash : isWhitespace '-' = false := by decide
  have hno : '-' ∉ a.toList.dropWhile isWhitespace := fun hmem =>
    not_mem_of_parseUnsigned ha ((List.dropWhile_sublist _).subset hmem)
  have hlist : (a ++ "-" ++ b).toList = a.toList ++ '-' :: b.toList := by
    rw [String.toList_append, String.toList_append, List.append_assoc]
    rfl
  rw [trim, hlist, dropWhile_append_cons hdash, rdropWhile_append_cons hdash,
    splitOnce_append hno]

/-- **Two numbers with a dash between them** are the ends of the range, the smaller one first. -/
lemma parseRange_pair {a b : String} {m n : ℕ} (ha : parseU64 (trim a) = some m)
    (hb : parseU64 (trim b) = some n) (default : ℕ × ℕ) :
    parseRange (a ++ "-" ++ b) default = (min m n, max m n) := by
  have hsplit := splitOnce_trim (b := b) ha
  have hne : (trim (a ++ "-" ++ b)).isEmpty = false := by
    by_contra hempty
    rw [Bool.not_eq_false, String.isEmpty_iff] at hempty
    have hnone : splitOnce '-' "" = none := by decide
    rw [hempty, hnone] at hsplit
    cases hsplit
  simp only [parseRange, hne, Bool.false_eq_true, if_false, hsplit, trim_dropWhile,
    trim_rdropWhile, ha, hb, Option.getD_some]
  split
  · rw [min_eq_right (by omega), max_eq_left (by omega)]
  · rw [min_eq_left (by omega), max_eq_right (by omega)]

/-! ### The settings -/

namespace FragmentConfig

def fromEnv (env : Env) : FragmentConfig :=
  let size := parseRange ((env "AETHER_MASQUE_H2_FRAGMENT_SIZE").getD "") (16, 32)
  let delay := parseRange ((env "AETHER_MASQUE_H2_FRAGMENT_DELAY").getD "") (2, 10)
  let sizeMin := max size.1 1
  { enabled := fragmentFromEnv env
    sizeMin := sizeMin
    sizeMax := max size.2 sizeMin
    delayMinMs := delay.1
    delayMaxMs := max delay.2 delay.1 }

/-- No range of the settings is empty, and no chunk is. -/
structure Usable (cfg : FragmentConfig) : Prop where
  size_pos : 1 ≤ cfg.sizeMin
  size_le : cfg.sizeMin ≤ cfg.sizeMax
  delay_le : cfg.delayMinMs ≤ cfg.delayMaxMs

lemma fromEnv_ordered (env : Env) : (fromEnv env).Usable := by
  rw [fromEnv]
  generalize parseRange ((env "AETHER_MASQUE_H2_FRAGMENT_SIZE").getD "") (16, 32) = size
  generalize parseRange ((env "AETHER_MASQUE_H2_FRAGMENT_DELAY").getD "") (2, 10) = delay
  exact ⟨Nat.le_max_right _ 1, Nat.le_max_right _ _, Nat.le_max_right _ _⟩

/-! ### The picks -/

/-- `gen_range(lo..=hi)`, which panics on an empty range. -/
def genRange? (lo hi r : ℕ) : Option ℕ := if lo ≤ hi then some (genRange lo hi r) else none

/-- `pick_chunk_len`, `none` where it panics. -/
def pickChunkLen? (cfg : FragmentConfig) (remaining r : ℕ) : Option ℕ :=
  let hi := min (max cfg.sizeMax 1) remaining
  let lo := min (max cfg.sizeMin 1) hi
  if hi ≤ lo then some hi else genRange? lo hi r

/-- `pick_delay`, `none` where it panics. -/
def pickDelay? (cfg : FragmentConfig) (r : ℕ) : Option ℕ :=
  if cfg.delayMaxMs = 0 then some 0
  else if cfg.delayMaxMs ≤ cfg.delayMinMs then some cfg.delayMinMs
  else genRange? cfg.delayMinMs cfg.delayMaxMs r

/-- A range is sampled only behind a test that it is not empty. -/
lemma pickChunkLen?_eq (cfg : FragmentConfig) (remaining r : ℕ) :
    cfg.pickChunkLen? remaining r = some (cfg.pickChunkLen remaining r) := by
  simp only [pickChunkLen?, pickChunkLen]
  split
  · rfl
  · rename_i h
    rw [genRange?, if_pos (Nat.le_of_not_le h)]

lemma pickDelay?_eq (cfg : FragmentConfig) (r : ℕ) :
    cfg.pickDelay? r = some (cfg.pickDelay r) := by
  rw [pickDelay?, pickDelay]
  split
  · rfl
  · split
    · rfl
    · rename_i h
      rw [genRange?, if_pos (Nat.le_of_not_le h)]

variable {cfg : FragmentConfig}

lemma Usable.pickChunkLen (h : cfg.Usable) (remaining r : ℕ) :
    min cfg.sizeMin remaining ≤ cfg.pickChunkLen remaining r
      ∧ cfg.pickChunkLen remaining r ≤ min cfg.sizeMax remaining := by
  have hpos := h.size_pos
  have hle := h.size_le
  rw [FragmentConfig.pickChunkLen]
  split
  · omega
  · rename_i hlt
    have hgen := genRange_le (Nat.le_of_not_le hlt) r
    refine ⟨?_, by omega⟩
    rw [genRange]
    omega

lemma Usable.pickDelay (h : cfg.Usable) (r : ℕ) :
    cfg.delayMinMs ≤ cfg.pickDelay r ∧ cfg.pickDelay r ≤ cfg.delayMaxMs := by
  have hle := h.delay_le
  rw [FragmentConfig.pickDelay]
  split
  · omega
  · split
    · omega
    · refine ⟨?_, genRange_le hle r⟩
      rw [genRange]
      omega

end FragmentConfig

/-- **The settings are usable**, whatever the environment holds: the ranges are in order, two
numbers in a variable are its range, and no pick is outside its range or from an empty one. -/
theorem fromEnv_usable (env : Env) :
    (FragmentConfig.fromEnv env).Usable
      ∧ (∀ a b m n, env "AETHER_MASQUE_H2_FRAGMENT_SIZE" = some (a ++ "-" ++ b) →
          parseU64 (trim a) = some m → parseU64 (trim b) = some n → 1 ≤ m → 1 ≤ n →
          (FragmentConfig.fromEnv env).sizeMin = min m n
            ∧ (FragmentConfig.fromEnv env).sizeMax = max m n)
      ∧ (∀ a b m n, env "AETHER_MASQUE_H2_FRAGMENT_DELAY" = some (a ++ "-" ++ b) →
          parseU64 (trim a) = some m → parseU64 (trim b) = some n →
          (FragmentConfig.fromEnv env).delayMinMs = min m n
            ∧ (FragmentConfig.fromEnv env).delayMaxMs = max m n)
      ∧ (∀ remaining r, 1 ≤ remaining →
          ∃ len, (FragmentConfig.fromEnv env).pickChunkLen? remaining r = some len
            ∧ min (FragmentConfig.fromEnv env).sizeMin remaining ≤ len
            ∧ len ≤ min (FragmentConfig.fromEnv env).sizeMax remaining)
      ∧ ∀ r, ∃ ms, (FragmentConfig.fromEnv env).pickDelay? r = some ms
          ∧ (FragmentConfig.fromEnv env).delayMinMs ≤ ms
          ∧ ms ≤ (FragmentConfig.fromEnv env).delayMaxMs := by
  have husable := FragmentConfig.fromEnv_ordered env
  refine ⟨husable, ?_, ?_, ?_, ?_⟩
  · intro a b m n hvar ha hb hm hn
    have hrange := parseRange_pair ha hb (16, 32)
    simp only [FragmentConfig.fromEnv, hvar, Option.getD_some, hrange]
    omega
  · intro a b m n hvar ha hb
    have hrange := parseRange_pair ha hb (2, 10)
    simp only [FragmentConfig.fromEnv, hvar, Option.getD_some, hrange, true_and]
    omega
  · intro remaining r _
    exact ⟨_, FragmentConfig.pickChunkLen?_eq _ remaining r, husable.pickChunkLen remaining r⟩
  · intro r
    exact ⟨_, FragmentConfig.pickDelay?_eq _ r, husable.pickDelay r⟩

/-- The sizes in the wrong order, with blanks around them. -/
def sampleEnv : Env :=
  Function.update (fun _ => none) "AETHER_MASQUE_H2_FRAGMENT_SIZE" (some ("20 " ++ "-" ++ " 4"))

theorem fromEnv_usable_sample :
    (FragmentConfig.fromEnv sampleEnv).sizeMin = 4
      ∧ (FragmentConfig.fromEnv sampleEnv).sizeMax = 20
      ∧ ∃ len, (FragmentConfig.fromEnv sampleEnv).pickChunkLen? 100 30 = some len ∧ 4 ≤ len := by
  obtain ⟨-, hsize, -, hpick, -⟩ := fromEnv_usable sampleEnv
  obtain ⟨hmin, hmax⟩ := hsize "20 " " 4" 20 4 (Function.update_self ..) (by decide +kernel)
    (by decide +kernel) (by decide) (by decide)
  obtain ⟨len, hlen, hle, -⟩ := hpick 100 30 (by decide)
  rw [hmin] at hle
  exact ⟨hmin, hmax, len, hlen, hle⟩

end Fragment

end Aether
