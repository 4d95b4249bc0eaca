import Aether.Lib.Octets
import Mathlib.Data.List.TakeWhile

/-!
`String::from_utf8_lossy`: bytes that are not UTF-8 are replaced by U+FFFD, one for each
longest beginning of a character.

* `lossy_encode`: the bytes of a text are read as the text.

* `infix_lossy_iff`: text of ASCII characters is found in the result where its bytes are found in
  the bytes.
-/

namespace Utf8

/-- `utf8_char_width`: the length that the first byte of a character announces, zero for a
byte that begins none. -/
def charWidth (b : UInt8) : ℕ :=
  if b < 0x80 then 1
  else if 0xC2 ≤ b ∧ b ≤ 0xDF then 2
  else if 0xE0 ≤ b ∧ b ≤ 0xEF then 3
  else if 0xF0 ≤ b ∧ b ≤ 0xF4 then 4
  else 0

def isContinuation (b : UInt8) : Bool := 0x80 ≤ b && b ≤ 0xBF

/-- The second bytes that make no overlong form, no surrogate and nothing beyond U+10FFFF. -/
def isSecond (first b : UInt8) : Bool :=
  if first = 0xE0 then 0xA0 ≤ b && b ≤ 0xBF
  else if first = 0xED then 0x80 ≤ b && b ≤ 0x9F
  else if first = 0xF0 then 0x90 ≤ b && b ≤ 0xBF
  else if first = 0xF4 then 0x80 ≤ b && b ≤ 0x8F
  else isContinuation b

/-- The bytes behind the first one that still belong to its character. -/
def continuation (first : UInt8) : Bytes → Bytes
  | [] => []
  | b :: rest =>
      if 2 ≤ charWidth first ∧ isSecond first b then
        b :: (rest.take (charWidth first - 2)).takeWhile isContinuation
      else []

/-- The character of a first byte and all its continuation bytes. -/
def assemble (first : UInt8) (more : Bytes) : Char :=
  Char.ofNat (more.foldl (fun acc b => acc * 64 + b.toNat % 64)
    (if more.isEmpty then first.toNat else first.toNat % 2 ^ (6 - more.length)))

/-- The characters of the bytes behind the next `skip` ones. -/
def lossyFrom : ℕ → Bytes → List Char
  | _, [] => []
  | skip + 1, _ :: rest => lossyFrom skip rest
  | 0, first :: rest =>
      let more := continuation first rest
      (if more.length + 1 = charWidth first then assemble first more else '\uFFFD')
        :: lossyFrom more.length rest

/-- `String::from_utf8_lossy`. -/
def lossy (bs : Bytes) : String := String.ofList (lossyFrom 0 bs)

/-! ### ASCII -/

/-- An ASCII character, but for NUL. -/
def IsAscii (c : Char) : Prop := 0 < c.toNat ∧ c.toNat < 0x80

instance (c : Char) : Decidable (IsAscii c) := inferInstanceAs (Decidable (_ ∧ _))

/-- The byte of an ASCII character. -/
def byteOf (c : Char) : UInt8 := .ofNat c.toNat

/-- The character that begins with a byte. -/
def charOf (first : UInt8) (rest : Bytes) : Char :=
  if (continuation first rest).length + 1 = charWidth first then
    assemble first (continuation first rest)
  else '\uFFFD'

lemma lossyFrom_drop (n : ℕ) (bs : Bytes) : lossyFrom n bs = lossyFrom 0 (bs.drop n) := by
  induction bs generalizing n with
  | nil => cases n <;> rfl
  | cons b bs ih =>
      cases n with
      | zero => rfl
      | succ n => exact ih n

lemma lossyFrom_cons (first : UInt8) (rest : Bytes) : lossyFrom 0 (first :: rest)
    = charOf first rest :: lossyFrom 0 (rest.drop (continuation first rest).length) := by
  rw [← lossyFrom_drop]
  rfl

lemma continuation_isPrefix (first : UInt8) (rest : Bytes) : continuation first rest <+: rest := by
  cases rest with
  | nil => exact List.nil_prefix
  | cons b rest =>
      rw [continuation]
      split
      · refine (List.prefix_cons_inj b).mpr ?_
        exact (List.takeWhile_prefix _).trans (List.take_prefix _ _)
      · exact List.nil_prefix

lemma le_of_isContinuation {b : UInt8} (h : isContinuation b) : 0x80 ≤ b.toNat := by
  simp only [isContinuation, Bool.and_eq_true, decide_eq_true_eq, UInt8.le_iff_toNat_le] at h
  exact h.1

/-- A second byte is a continuation byte, and no overlong form begins with it. -/
lemma le_of_isSecond {first b : UInt8} (h : isSecond first b) : 0x80 ≤ b.toNat
    ∧ (first = 0xE0 → 0xA0 ≤ b.toNat ∧ b.toNat ≤ 0xBF)
    ∧ (first = 0xF0 → 0x90 ≤ b.toNat ∧ b.toNat ≤ 0xBF) := by
  unfold isSecond at h
  by_cases he0 : first = 0xE0
  · simp only [he0, if_true, Bool.and_eq_true, decide_eq_true_eq, UInt8.le_iff_toNat_le] at h
    have hb : 0xA0 ≤ b.toNat ∧ b.toNat ≤ 0xBF := h
    exact ⟨by omega, fun _ => hb, fun hf => absurd (he0.symm.trans hf) (by decide)⟩
  by_cases hf0 : first = 0xF0
  · rw [if_neg he0, if_neg (by rw [hf0]; decide), if_pos hf0] at h
    simp only [Bool.and_eq_true, decide_eq_true_eq, UInt8.le_iff_toNat_le] at h
    have hb : 0x90 ≤ b.toNat ∧ b.toNat ≤ 0xBF := h
    exact ⟨by omega, fun he => absurd he he0, fun _ => hb⟩
  · refine ⟨?_, fun he => absurd he he0, fun hf => absurd hf hf0⟩
    rw [if_neg he0, if_neg hf0] at h
    split at h
    · simp only [Bool.and_eq_true, decide_eq_true_eq, UInt8.le_iff_toNat_le] at h
      exact h.1
    · split at h
      · simp only [Bool.and_eq_true, decide_eq_true_eq, UInt8.le_iff_toNat_le] at h
        exact h.1
      · exact le_of_isContinuation h

/-- The bytes behind the first one of a character are not ASCII. -/
lemma le_of_mem_continuation {first b : UInt8} {rest : Bytes} (h : b ∈ continuation first rest) :
    0x80 ≤ b.toNat := by
  cases rest with
  | nil => cases h
  | cons c rest =>
      rw [continuation] at h
      split at h
      · rename_i hsecond
        rcases List.mem_cons.mp h with rfl | hb
        · exact (le_of_isSecond hsecond.2).1
        · exact le_of_isContinuation (List.all_eq_true.mp List.all_takeWhile b hb)
      · cases h

lemma charWidth_eq (first : UInt8) : charWidth first = if first.toNat < 0x80 then 1
    else if 0xC2 ≤ first.toNat ∧ first.toNat ≤ 0xDF then 2
    else if 0xE0 ≤ first.toNat ∧ first.toNat ≤ 0xEF then 3
    else if 0xF0 ≤ first.toNat ∧ first.toNat ≤ 0xF4 then 4 else 0 := by
  simp only [charWidth, UInt8.lt_iff_toNat_lt, UInt8.le_iff_toNat_le]
  rfl

lemma charWidth_low {first : UInt8} (h : first.toNat < 0x80) : charWidth first = 1 := by
  rw [charWidth_eq, if_pos h]

lemma continuation_low {first : UInt8} (h : first.toNat < 0x80) (rest : Bytes) :
    continuation first rest = [] := by
  cases rest with
  | nil => rfl
  | cons b rest =>
      rw [continuation, if_neg]
      rw [charWidth_low h]
      exact fun hc => absurd hc.1 (by decide)

/-- An ASCII byte is its own character. -/
lemma charOf_low {first : UInt8} (h : first.toNat < 0x80) (rest : Bytes) :
    charOf first rest = Char.ofNat first.toNat := by
  rw [charOf, continuation_low h, charWidth_low h]
  rfl

/-- The number of a character that is made of a number. -/
lemma toNat_ofNat (n : ℕ) : (Char.ofNat n).toNat = n ∨ (Char.ofNat n).toNat = 0 := by
  by_cases h : n.isValidChar
  · exact .inl (congrArg Char.toNat (dif_pos h))
  · exact .inr (congrArg Char.toNat (dif_neg h))

/-- The first bytes of characters of more than one byte, by the width of the character. -/
lemma charWidth_high {first : UInt8} (h : 0x80 ≤ first.toNat) (hne : charWidth first ≠ 0) :
    (charWidth first = 2 ∧ 0xC2 ≤ first.toNat ∧ first.toNat ≤ 0xDF)
      ∨ (charWidth first = 3 ∧ 0xE0 ≤ first.toNat ∧ first.toNat ≤ 0xEF)
      ∨ (charWidth first = 4 ∧ 0xF0 ≤ first.toNat ∧ first.toNat ≤ 0xF4) := by
  rw [charWidth_eq] at hne ⊢
  split_ifs at hne ⊢ <;> omega

/-- A first continuation byte is a second byte of the character. -/
lemma isSecond_of_continuation {first b : UInt8} {rest more : Bytes}
    (h : continuation first rest = b :: more) : isSecond first b := by
  cases rest with
  | nil => cases h
  | cons c rest =>
      rw [continuation] at h
      split at h
      · rename_i hc
        cases h
        exact hc.2
      · cases h

/-- **What is made of other bytes is not ASCII.** -/
lemma charOf_high {first : UInt8} (h : 0x80 ≤ first.toNat) (rest : Bytes) :
    ¬ IsAscii (charOf first rest) := by
  rw [charOf]
  split
  · rename_i hwidth
    suffices hvalue : ∃ n, 0x80 ≤ n ∧ assemble first (continuation first rest) = Char.ofNat n by
      obtain ⟨n, hn, hchar⟩ := hvalue
      rw [hchar]
      rintro ⟨hpos, hlt⟩
      rcases toNat_ofNat n with heq | heq <;> omega
    refine ⟨_, ?_, rfl⟩
    have hne : charWidth first ≠ 0 := by omega
    obtain hwide := charWidth_high h hne
    cases hmore : continuation first rest with
    | nil =>
        rw [hmore, List.length_nil] at hwidth
        omega
    | cons b more =>
        obtain ⟨hb, he0, hf0⟩ := le_of_isSecond (isSecond_of_continuation hmore)
        have hfirst : ∀ v : UInt8, first.toNat = v.toNat → first = v := fun v => UInt8.toNat_inj.mp
        rw [hmore, List.length_cons] at hwidth
        rcases hwide with ⟨hw, hlo, hhi⟩ | ⟨hw, hlo, hhi⟩ | ⟨hw, hlo, hhi⟩
        · obtain rfl : more = [] := List.length_eq_zero_iff.mp (by omega)
          show 0x80 ≤ first.toNat % 2 ^ 5 * 64 + b.toNat % 64
          omega
        · obtain ⟨c, rfl⟩ := List.length_eq_one_iff.mp (show more.length = 1 by omega)
          have he0 : first.toNat = 0xE0 → 0xA0 ≤ b.toNat ∧ b.toNat ≤ 0xBF :=
            fun hf => he0 (hfirst 0xE0 hf)
          show 0x80 ≤ (first.toNat % 2 ^ 4 * 64 + b.toNat % 64) * 64 + c.toNat % 64
          omega
        · obtain ⟨c, d, rfl⟩ := List.length_eq_two.mp (show more.length = 2 by omega)
          have hf0 : first.toNat = 0xF0 → 0x90 ≤ b.toNat ∧ b.toNat ≤ 0xBF :=
            fun hf => hf0 (hfirst 0xF0 hf)
          show 0x80 ≤ ((first.toNat % 2 ^ 3 * 64 + b.toNat % 64) * 64 + c.toNat % 64) * 64
            + d.toNat % 64
          omega
  · decide

/-! ### ASCII text in bytes -/

variable {text : List Char} {c : Char} {first : UInt8}

lemma toNat_byteOf (hc : IsAscii c) : (byteOf c).toNat = c.toNat := by
  have hlt := hc.2
  rw [byteOf, UInt8.toNat_ofNat']
  exact Nat.mod_eq_of_lt (by omega)

/-- An ASCII character begins with its byte, and with no other. -/
lemma eq_charOf_iff (hc : IsAscii c) (rest : Bytes) :
    c = charOf first rest ↔ byteOf c = first := by
  have hbyte := toNat_byteOf hc
  by_cases hfirst : first.toNat < 0x80
  · rw [charOf_low hfirst]
    constructor
    · rintro rfl
      refine UInt8.toNat_inj.mp (hbyte.trans ?_)
      exact (toNat_ofNat _).resolve_right (Nat.ne_of_gt hc.1)
    · rintro rfl
      rw [hbyte, Char.ofNat_toNat]
  · refine iff_of_false ?_ ?_
    · rintro rfl
      exact charOf_high (Nat.le_of_not_lt hfirst) rest hc
    · rintro rfl
      exact hfirst (hbyte ▸ hc.2)

/-- ASCII text begins where its bytes begin. -/
lemma prefix_lossy_iff (ht : ∀ c ∈ text, IsAscii c) (bs : Bytes) :
    text <+: lossyFrom 0 bs ↔ text.map byteOf <+: bs := by
  induction text generalizing bs with
  | nil => exact iff_of_true List.nil_prefix List.nil_prefix
  | cons c text ih =>
      obtain ⟨hc, ht⟩ := List.forall_mem_cons.mp ht
      cases bs with
      | nil => exact iff_of_false (by simp [lossyFrom]) (by simp)
      | cons first rest =>
          rw [lossyFrom_cons, List.cons_prefix_cons, List.map_cons, List.cons_prefix_cons,
            eq_charOf_iff hc]
          refine and_congr_right fun hbyte => ?_
          have hfirst : first.toNat < 0x80 := by
            rw [← hbyte, toNat_byteOf hc]
            exact hc.2
          rw [continuation_low hfirst]
          exact ih ht rest

/-- The bytes of ASCII text are not found in the rest of a character. -/
lemma infix_append_iff {more rest : Bytes} (hmore : ∀ b ∈ more, 0x80 ≤ b.toNat)
    (hc : IsAscii c) :
    (c :: text).map byteOf <:+: more ++ rest ↔ (c :: text).map byteOf <:+: rest := by
  induction more with
  | nil => exact Iff.rfl
  | cons b more ih =>
      obtain ⟨hb, hmore⟩ := List.forall_mem_cons.mp hmore
      rw [List.cons_append, List.infix_cons_iff, ih hmore]
      refine or_iff_right fun hpre => ?_
      rw [List.map_cons, List.cons_prefix_cons] at hpre
      rw [← hpre.1, toNat_byteOf hc] at hb
      exact absurd hc.2 (Nat.not_lt_of_le hb)

/-- **ASCII text is found where its bytes are found.** By induction on the bytes, a character at
a time. -/
theorem infix_lossy_iff (ht : ∀ c ∈ text, IsAscii c) (bs : Bytes) :
    text <:+: lossyFrom 0 bs ↔ text.map byteOf <:+: bs := by
  cases text with
  | nil => exact iff_of_true List.nil_infix List.nil_infix
  | cons c text =>
      obtain ⟨hc, ht'⟩ := List.forall_mem_cons.mp ht
      induction hn : bs.length using Nat.strong_induction_on generalizing bs with
      | _ n ih =>
        cases bs with
        | nil => exact iff_of_false (by simp [lossyFrom]) (by simp)
        | cons first rest =>
            obtain ⟨more, hrest⟩ := continuation_isPrefix first rest
            have hdrop := congrArg (List.drop (continuation first rest).length) hrest
            rw [List.drop_left] at hdrop
            have hlt : more.length < n := by
              rw [← hn, ← hrest, List.length_cons, List.length_append]
              omega
            have hpre := prefix_lossy_iff ht (first :: rest)
            rw [lossyFrom_cons] at hpre ⊢
            rw [List.infix_cons_iff, List.infix_cons_iff, hpre, ← hdrop,
              ih more.length hlt more rfl,
              ← infix_append_iff (fun b hb => le_of_mem_continuation hb) hc, hrest]

/-! ### The bytes of a text -/

/-- `as_bytes`. -/
def encode (s : String) : Bytes := s.toList.flatMap String.utf8EncodeChar

/-- `String::from_utf8`. -/
def decode (bs : Bytes) : Option String := if encode (lossy bs) = bs then some (lossy bs) else none

/-- The numbers of characters. -/
lemma char_range (c : Char) : c.toNat < 0xD800 ∨ (0xE000 ≤ c.toNat ∧ c.toNat < 0x110000) := by
  rcases c.valid with h | ⟨h, h'⟩
  · exact .inl h
  · exact .inr ⟨h, h'⟩

/-- A first byte with the bytes that it announces behind it begins with their character. -/
lemma lossyFrom_char {first : UInt8} {more rest : Bytes} {c : Char}
    (hmore : continuation first (more ++ rest) = more) (hwidth : more.length + 1 = charWidth first)
    (hchar : assemble first more = c) :
    lossyFrom 0 (first :: more ++ rest) = c :: lossyFrom 0 rest := by
  rw [List.cons_append, lossyFrom_cons, charOf, hmore, if_pos hwidth, hchar, List.drop_left]

/-- The byte of a small number. -/
lemma toNat_small {n : ℕ} (h : n < 0x100) : (UInt8.ofNat n).toNat = n := by
  rw [UInt8.toNat_ofNat']
  exact Nat.mod_eq_of_lt h

lemma isContinuation_iff (b : UInt8) :
    isContinuation b = true ↔ 0x80 ≤ b.toNat ∧ b.toNat ≤ 0xBF := by
  simp only [isContinuation, Bool.and_eq_true, decide_eq_true_eq, UInt8.le_iff_toNat_le]
  rfl

/-- A continuation byte that is in range for the first byte. -/
lemma isSecond_of {first b : UInt8} (hb : 0x80 ≤ b.toNat ∧ b.toNat ≤ 0xBF)
    (he0 : first.toNat = 0xE0 → 0xA0 ≤ b.toNat) (hed : first.toNat = 0xED → b.toNat ≤ 0x9F)
    (hf0 : first.toNat = 0xF0 → 0x90 ≤ b.toNat) (hf4 : first.toNat = 0xF4 → b.toNat ≤ 0x8F) :
    isSecond first b = true := by
  rw [isSecond]
  split_ifs with h h h h
  · subst h
    simpa [UInt8.le_iff_toNat_le] using ⟨he0 rfl, hb.2⟩
  · subst h
    simpa [UInt8.le_iff_toNat_le] using ⟨hb.1, hed rfl⟩
  · subst h
    simpa [UInt8.le_iff_toNat_le] using ⟨hf0 rfl, hb.2⟩
  · subst h
    simpa [UInt8.le_iff_toNat_le] using ⟨hb.1, hf4 rfl⟩
  · exact (isContinuation_iff b).mpr hb

/-- The bytes behind the first one, as many as it announces. -/
lemma continuation_append {first b : UInt8} {more : Bytes} (hw : charWidth first = more.length + 2)
    (hb : isSecond first b = true) (hmore : ∀ c ∈ more, isContinuation c = true) (rest : Bytes) :
    continuation first (b :: more ++ rest) = b :: more := by
  rw [List.cons_append, continuation, if_pos ⟨by omega, hb⟩, hw, Nat.add_sub_cancel,
    List.take_left, List.takeWhile_eq_self_iff.mpr hmore]

/-- A byte that continues a character has its six lower bits. -/
lemma isContinuation_low (n : ℕ) : isContinuation (.ofNat (n % 0x40 + 0x80)) = true := by
  have hlt := Nat.mod_lt n (show 0x40 > 0 by decide)
  rw [isContinuation_iff, toNat_small (by omega)]
  omega

section Encoded

variable {c : Char} (rest : Bytes)

lemma lossyFrom_one (h : c.toNat ≤ 0x7f) :
    lossyFrom 0 ([.ofNat c.toNat] ++ rest) = c :: lossyFrom 0 rest := by
  have hbyte : (UInt8.ofNat c.toNat).toNat = c.toNat := toNat_small (by omega)
  refine lossyFrom_char (continuation_low (by omega) rest) ?_ ?_
  · rw [charWidth_low (by omega)]
    rfl
  · rw [assemble]
    show Char.ofNat (UInt8.ofNat c.toNat).toNat = c
    rw [hbyte, Char.ofNat_toNat]

lemma lossyFrom_two (hlow : 0x7f < c.toNat) (hhigh : c.toNat ≤ 0x7ff) :
    lossyFrom 0 ([.ofNat (c.toNat / 64 % 0x20 + 0xc0), .ofNat (c.toNat % 0x40 + 0x80)] ++ rest)
      = c :: lossyFrom 0 rest := by
  have hself : Char.ofNat c.toNat = c := Char.ofNat_toNat c
  have hbyte : (UInt8.ofNat (c.toNat / 64 % 0x20 + 0xc0)).toNat = c.toNat / 64 % 0x20 + 0xc0 :=
    toNat_small (by omega)
  have hwidth : charWidth (.ofNat (c.toNat / 64 % 0x20 + 0xc0)) = 2 := by
    rw [charWidth_eq, hbyte, if_neg (by omega), if_pos (by omega)]
  refine lossyFrom_char (continuation_append hwidth ?_ (by simp) rest) hwidth.symm ?_
  · refine isSecond_of ((isContinuation_iff _).mp (isContinuation_low _)) ?_ ?_ ?_ ?_ <;>
      rw [hbyte] <;> omega
  · rw [assemble]
    show Char.ofNat ((UInt8.ofNat (c.toNat / 64 % 0x20 + 0xc0)).toNat % 2 ^ 5 * 64
      + (UInt8.ofNat (c.toNat % 0x40 + 0x80)).toNat % 64) = c
    rw [hbyte, toNat_small (by omega), ← hself]
    congr 1
    rw [hself]
    omega

lemma lossyFrom_three (hlow : 0x7ff < c.toNat) (hhigh : c.toNat ≤ 0xffff) :
    lossyFrom 0 ([.ofNat (c.toNat / 4096 % 0x10 + 0xe0), .ofNat (c.toNat / 64 % 0x40 + 0x80),
        .ofNat (c.toNat % 0x40 + 0x80)] ++ rest) = c :: lossyFrom 0 rest := by
  have hrange := char_range c
  have hself : Char.ofNat c.toNat = c := Char.ofNat_toNat c
  have hbyte : (UInt8.ofNat (c.toNat / 4096 % 0x10 + 0xe0)).toNat
      = c.toNat / 4096 % 0x10 + 0xe0 := toNat_small (by omega)
  have hsecond : (UInt8.ofNat (c.toNat / 64 % 0x40 + 0x80)).toNat
      = c.toNat / 64 % 0x40 + 0x80 := toNat_small (by omega)
  have hwidth : charWidth (.ofNat (c.toNat / 4096 % 0x10 + 0xe0)) = 3 := by
    rw [charWidth_eq, hbyte, if_neg (by omega), if_neg (by omega), if_pos (by omega)]
  refine lossyFrom_char (continuation_append hwidth ?_ ?_ rest) hwidth.symm ?_
  · refine isSecond_of ((isContinuation_iff _).mp (isContinuation_low _)) ?_ ?_ ?_ ?_ <;>
      rw [hbyte, hsecond] <;> omega
  · exact List.forall_mem_singleton.mpr (isContinuation_low _)
  · rw [assemble]
    show Char.ofNat (((UInt8.ofNat (c.toNat / 4096 % 0x10 + 0xe0)).toNat % 2 ^ 4 * 64
      + (UInt8.ofNat (c.toNat / 64 % 0x40 + 0x80)).toNat % 64) * 64
      + (UInt8.ofNat (c.toNat % 0x40 + 0x80)).toNat % 64) = c
    rw [hbyte, hsecond, toNat_small (by omega), ← hself]
    congr 1
    rw [hself]
    omega

lemma lossyFrom_four (hlow : 0xffff < c.toNat) :
    lossyFrom 0 ([.ofNat (c.toNat / 262144 % 0x08 + 0xf0), .ofNat (c.toNat / 4096 % 0x40 + 0x80),
        .ofNat (c.toNat / 64 % 0x40 + 0x80), .ofNat (c.toNat % 0x40 + 0x80)] ++ rest)
      = c :: lossyFrom 0 rest := by
  have hrange := char_range c
  have hself : Char.ofNat c.toNat = c := Char.ofNat_toNat c
  have hbyte : (UInt8.ofNat (c.toNat / 262144 % 0x08 + 0xf0)).toNat
      = c.toNat / 262144 % 0x08 + 0xf0 := toNat_small (by omega)
  have hsecond : (UInt8.ofNat (c.toNat / 4096 % 0x40 + 0x80)).toNat
      = c.toNat / 4096 % 0x40 + 0x80 := toNat_small (by omega)
  have hthird : (UInt8.ofNat (c.toNat / 64 % 0x40 + 0x80)).toNat
      = c.toNat / 64 % 0x40 + 0x80 := toNat_small (by omega)
  have hwidth : charWidth (.ofNat (c.toNat / 262144 % 0x08 + 0xf0)) = 4 := by
    rw [charWidth_eq, hbyte, if_neg (by omega), if_neg (by omega), if_neg (by omega),
      if_pos (by omega)]
  refine lossyFrom_char (continuation_append hwidth ?_ ?_ rest) hwidth.symm ?_
  · refine isSecond_of ((isContinuation_iff _).mp (isContinuation_low _)) ?_ ?_ ?_ ?_ <;>
      rw [hbyte, hsecond] <;> omega
  · exact List.forall_mem_cons.mpr
      ⟨isContinuation_low _, List.forall_mem_singleton.mpr (isContinuation_low _)⟩
  · rw [assemble]
    show Char.ofNat ((((UInt8.ofNat (c.toNat / 262144 % 0x08 + 0xf0)).toNat % 2 ^ 3 * 64
      + (UInt8.ofNat (c.toNat / 4096 % 0x40 + 0x80)).toNat % 64) * 64
      + (UInt8.ofNat (c.toNat / 64 % 0x40 + 0x80)).toNat % 64) * 64
      + (UInt8.ofNat (c.toNat % 0x40 + 0x80)).toNat % 64) = c
    rw [hbyte, hsecond, hthird, toNat_small (by omega), ← hself]
    congr 1
    rw [hself]
    omega

end Encoded

/-- The bytes of a character are read as the character, by the number of its bytes. -/
lemma lossyFrom_encodeChar (c : Char) (rest : Bytes) :
    lossyFrom 0 (String.utf8EncodeChar c ++ rest) = c :: lossyFrom 0 rest := by
  have hval : c.val.toNat = c.toNat := rfl
  rw [String.utf8EncodeChar]
  simp only [hval]
  by_cases h1 : c.toNat ≤ 0x7f
  · rw [if_pos h1]
    exact lossyFrom_one rest h1
  · rw [if_neg h1]
    by_cases h2 : c.toNat ≤ 0x7ff
    · rw [if_pos h2]
      exact lossyFrom_two rest (by omega) h2
    · rw [if_neg h2]
      by_cases h3 : c.toNat ≤ 0xffff
      · rw [if_pos h3]
        exact lossyFrom_three rest (by omega) h3
      · rw [if_neg h3]
        exact lossyFrom_four rest (by omega)

/-- **The bytes of a text are read as the text.** By induction on its characters. -/
theorem lossy_encode (s : String) : lossy (encode s) = s := by
  have hchars : ∀ cs : List Char, lossyFrom 0 (cs.flatMap String.utf8EncodeChar) = cs := by
    intro cs
    induction cs with
    | nil => rfl
    | cons c cs ih => rw [List.flatMap_cons, lossyFrom_encodeChar, ih]
  rw [lossy, encode, hchars, String.ofList_toList]

lemma decode_encode (s : String) : decode (encode s) = some s := by
  rw [decode, lossy_encode, if_pos rfl]

end Utf8
