import Aether.Lib.Octets

/-!
Base64 with the standard alphabet and padding (RFC 4648). The decoder is strict, as the engine
`STANDARD` is: the padding has to be there, and the bits that it cuts off have to be zero.

* `decode_encode`: what was encoded is decoded.
-/

namespace Base64

/-- The character of a number below 64. -/
def symbol (n : ℕ) : Char :=
  if n < 26 then Char.ofNat (n + 65)
  else if n < 52 then Char.ofNat (n + 71)
  else if n < 62 then Char.ofNat (n - 4)
  else if n = 62 then '+'
  else '/'

/-- The number of a character of the alphabet. -/
def value (c : Char) : Option ℕ :=
  if 'A' ≤ c ∧ c ≤ 'Z' then some (c.toNat - 65)
  else if 'a' ≤ c ∧ c ≤ 'z' then some (c.toNat - 71)
  else if '0' ≤ c ∧ c ≤ '9' then some (c.toNat + 4)
  else if c = '+' then some 62
  else if c = '/' then some 63
  else none

/-- The characters of three bytes at a time, with `=` for those that are missing. -/
def encodeChars : Bytes → List Char
  | [] => []
  | [x] => [symbol (x.toNat / 4), symbol (x.toNat % 4 * 16), '=', '=']
  | [x, y] =>
      [symbol (x.toNat / 4), symbol (x.toNat % 4 * 16 + y.toNat / 16), symbol (y.toNat % 16 * 4),
        '=']
  | x :: y :: z :: rest =>
      symbol (x.toNat / 4) :: symbol (x.toNat % 4 * 16 + y.toNat / 16)
        :: symbol (y.toNat % 16 * 4 + z.toNat / 64) :: symbol (z.toNat % 64) :: encodeChars rest

/-- The last four characters, if they are padded: one or two bytes. -/
def decodePadded (a b c : Char) : Option Bytes :=
  match value a, value b with
  | some i, some j =>
      if c = '=' then if j % 16 = 0 then some [.ofNat (i * 4 + j / 16)] else none
      else
        match value c with
        | some k =>
            if k % 4 = 0 then some [.ofNat (i * 4 + j / 16), .ofNat (j % 16 * 16 + k / 4)] else none
        | none => none
  | _, _ => none

/-- Four characters without padding: three bytes. -/
def decodeQuad (a b c d : Char) : Option Bytes :=
  match value a, value b, value c, value d with
  | some i, some j, some k, some l =>
      some [.ofNat (i * 4 + j / 16), .ofNat (j % 16 * 16 + k / 4), .ofNat (k % 4 * 64 + l)]
  | _, _, _, _ => none

def decodeChars : List Char → Option Bytes
  | [] => some []
  | a :: b :: c :: d :: rest =>
      if d = '=' then if rest = [] then decodePadded a b c else none
      else
        match decodeQuad a b c d, decodeChars rest with
        | some quad, some bs => some (quad ++ bs)
        | _, _ => none
  | _ => none

def encode (bs : Bytes) : String := .ofList (encodeChars bs)

def decode (s : String) : Option Bytes := decodeChars s.toList

/-! ### What was encoded is decoded -/

lemma value_symbol {n : ℕ} (h : n < 64) : value (symbol n) = some n := by
  have hall : ∀ n < 64, value (symbol n) = some n := by decide +kernel
  exact hall n h

lemma symbol_ne_pad {n : ℕ} (h : n < 64) : symbol n ≠ '=' := by
  have hall : ∀ n < 64, symbol n ≠ '=' := by decide +kernel
  exact hall n h

/-- A byte that is put together again. -/
lemma ofNat_eq {x : UInt8} {n : ℕ} (h : n = x.toNat) : UInt8.ofNat n = x := by
  rw [h, UInt8.ofNat_toNat]

lemma decodeChars_encodeChars (bs : Bytes) : decodeChars (encodeChars bs) = some bs := by
  induction bs using encodeChars.induct with
  | case1 => rfl
  | case2 x =>
      have hx := x.toNat_lt
      rw [encodeChars, decodeChars, if_pos rfl, if_pos rfl, decodePadded,
        value_symbol (by omega), value_symbol (by omega)]
      simp only [if_true]
      rw [if_pos (by omega), ofNat_eq (x := x) (by omega)]
  | case3 x y =>
      have hx := x.toNat_lt
      have hy := y.toNat_lt
      rw [encodeChars, decodeChars, if_pos rfl, if_pos rfl, decodePadded,
        value_symbol (by omega), value_symbol (by omega)]
      simp only [symbol_ne_pad (show y.toNat % 16 * 4 < 64 by omega), if_false,
        value_symbol (show y.toNat % 16 * 4 < 64 by omega)]
      rw [if_pos (by omega), ofNat_eq (x := x) (by omega), ofNat_eq (x := y) (by omega)]
  | case4 x y z rest ih =>
      have hx := x.toNat_lt
      have hy := y.toNat_lt
      have hz := z.toNat_lt
      rw [encodeChars, decodeChars, if_neg (symbol_ne_pad (by omega)), ih, decodeQuad,
        value_symbol (by omega), value_symbol (by omega), value_symbol (by omega),
        value_symbol (by omega)]
      simp only
      rw [ofNat_eq (x := x) (by omega), ofNat_eq (x := y) (by omega), ofNat_eq (x := z) (by omega)]
      rfl

/-- **What was encoded is decoded.** -/
theorem decode_encode (bs : Bytes) : decode (encode bs) = some bs := by
  rw [decode, encode, String.toList_ofList, decodeChars_encodeChars]

/-- Something is encoded as something. -/
lemma encode_isEmpty {bs : Bytes} (h : bs ≠ []) : (encode bs).isEmpty = false := by
  by_contra hempty
  rw [Bool.not_eq_false, String.isEmpty_iff] at hempty
  have hnil : decode (encode bs) = some [] := by
    rw [hempty]
    rfl
  rw [decode_encode] at hnil
  exact h (Option.some.inj hnil)

end Base64
