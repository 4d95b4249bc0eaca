import Aether.Lib.Octets
import Mathlib.Tactic.Positivity
import Mathlib.Tactic.Ring

/-!
The writes of the `octets` crate into a buffer of fixed size, and its encoder of
the variable-length integers of QUIC (RFC 9000).

* `Octets.isVarint_varintOfLen`: what the encoder writes for a number is a varint
  encoding of it, in as many bytes as the announced length says.
* `OctetsMut.putBytes_eq_ok` and its siblings: what a write does in a fresh buffer
  with room for it.
-/

namespace Octets

/-- A number as `n` big-endian bytes, what does not fit cut off. -/
def beBytes : ℕ → ℕ → Bytes
  | 0, _ => []
  | n + 1, v => UInt8.ofNat (v / 256 ^ n) :: beBytes n v

/-- `octets::varint_len`: the shortest length of a varint, `none` where it panics
because no varint is that large. -/
def varintLen (v : ℕ) : Option ℕ :=
  if v ≤ 63 then some 1
  else if v ≤ 16383 then some 2
  else if v ≤ 1073741823 then some 4
  else if v ≤ 4611686018427387903 then some 8
  else none

/-- The bits that announce a length, in the first byte. -/
def varintTag : ℕ → UInt8
  | 1 => 0x00
  | 2 => 0x40
  | 4 => 0x80
  | _ => 0xc0

/-- A number as a varint of a given length. -/
def varintOfLen (v n : ℕ) : Bytes := (beBytes n v).modifyHead (varintTag n ||| ·)

/-- The shortest varint of a number. -/
def varint (v : ℕ) : Option Bytes := (varintLen v).map (varintOfLen v)

@[simp] lemma length_beBytes (n v : ℕ) : (beBytes n v).length = n := by
  induction n with
  | zero => rfl
  | succ n ih => rw [beBytes, List.length_cons, ih]

@[simp] lemma length_varintOfLen (v n : ℕ) : (varintOfLen v n).length = n := by
  rw [varintOfLen, List.length_modifyHead, length_beBytes]

lemma foldl_beNat (bs : Bytes) (acc : ℕ) :
    bs.foldl (fun acc b => acc * 256 + b.toNat) acc = acc * 256 ^ bs.length + beNat bs := by
  induction bs generalizing acc with
  | nil => simp [beNat]
  | cons x t ih =>
      have hx : beNat (x :: t) = x.toNat * 256 ^ t.length + beNat t := by
        conv_lhs => rw [beNat, List.foldl_cons, ih, Nat.zero_mul, Nat.zero_add]
      rw [List.foldl_cons, ih, hx, List.length_cons]
      ring

lemma beNat_cons (x : UInt8) (t : Bytes) :
    beNat (x :: t) = x.toNat * 256 ^ t.length + beNat t := by
  rw [beNat, List.foldl_cons, foldl_beNat, Nat.zero_mul, Nat.zero_add]

lemma beNat_beBytes (n v : ℕ) : beNat (beBytes n v) = v % 256 ^ n := by
  induction n with
  | zero => simp [beBytes, beNat, Nat.mod_one]
  | succ n ih =>
      rw [beBytes, beNat_cons, length_beBytes, ih, UInt8.toNat_ofNat']
      calc v / 256 ^ n % 256 * 256 ^ n + v % 256 ^ n
          = v % 256 ^ n + 256 ^ n * (v / 256 ^ n % 256) := by ring
        _ = v % 256 ^ (n + 1) := by rw [Nat.pow_succ, ← Nat.mod_mul]

lemma beNat_lt (bs : Bytes) : beNat bs < 256 ^ bs.length := by
  induction bs with
  | nil => exact Nat.one_pos
  | cons x t ih =>
      have hx : x.toNat < 256 := x.toNat_lt
      calc beNat (x :: t) = x.toNat * 256 ^ t.length + beNat t := beNat_cons x t
        _ < x.toNat * 256 ^ t.length + 256 ^ t.length := Nat.add_lt_add_left ih _
        _ = (x.toNat + 1) * 256 ^ t.length := (Nat.succ_mul _ _).symm
        _ ≤ 256 * 256 ^ t.length := Nat.mul_le_mul_right _ hx
        _ = 256 ^ (x :: t).length := by rw [List.length_cons, Nat.pow_succ, Nat.mul_comm]

/-- The bytes of a number depend on what is below their range only. -/
lemma beBytes_add_mul (n v k : ℕ) : beBytes n (v + k * 256 ^ n) = beBytes n v := by
  induction n generalizing k with
  | zero => rfl
  | succ n ih =>
      have hsplit : v + k * 256 ^ (n + 1) = v + (k * 256) * 256 ^ n := by ring
      have hpos : 0 < 256 ^ n := Nat.pow_pos (by decide)
      rw [beBytes, beBytes, hsplit, ih, Nat.add_mul_div_right _ _ hpos, UInt8.ofNat_add,
        UInt8.ofNat_mul]
      simp

/-- Writing back what was read. -/
lemma beBytes_beNat (bs : Bytes) : beBytes bs.length (beNat bs) = bs := by
  induction bs with
  | nil => rfl
  | cons x t ih =>
      have hpos : 0 < 256 ^ t.length := Nat.pow_pos (by decide)
      rw [List.length_cons, beBytes, beNat_cons, Nat.add_comm, Nat.add_mul_div_right _ _ hpos,
        Nat.div_eq_of_lt (beNat_lt t), beBytes_add_mul, ih, Nat.zero_add, UInt8.ofNat_toNat]

/-- Two bits above six of a byte. -/
lemma toNat_tag_or {tag x : UInt8} {j : ℕ} (ht : tag.toNat = 64 * j) (hx : x.toNat < 64) :
    (tag ||| x).toNat = 64 * j + x.toNat := by
  rw [UInt8.toNat_or, ht, show 64 = 2 ^ 6 from rfl, ← Nat.two_pow_add_eq_or_of_lt hx]

/-- Length bits over a number that leaves them free make a varint of it. -/
lemma isVarint_tagged {tag : UInt8} {j k v : ℕ} (ht : tag.toNat = 64 * j)
    (hlen : ∀ x : UInt8, x.toNat / 64 = j → varintParseLen x = k + 1) (hv : v < 64 * 256 ^ k) :
    IsVarint ((beBytes (k + 1) v).modifyHead (tag ||| ·)) v := by
  have hx : v / 256 ^ k < 64 := (Nat.div_lt_iff_lt_mul (by positivity)).mpr hv
  have hhead : (UInt8.ofNat (v / 256 ^ k)).toNat = v / 256 ^ k := by
    rw [UInt8.toNat_ofNat']
    exact Nat.mod_eq_of_lt (by omega)
  have htag := toNat_tag_or (x := UInt8.ofNat (v / 256 ^ k)) ht (by rw [hhead]; exact hx)
  refine ⟨tag ||| UInt8.ofNat (v / 256 ^ k), beBytes k v, rfl, ?_, ?_⟩
  · rw [List.length_modifyHead, length_beBytes, hlen _ (by rw [htag, hhead]; omega)]
  · have hbits : 2 ^ (8 * (k + 1) - 2) = 64 * 256 ^ k := by
      rw [show 8 * (k + 1) - 2 = 6 + 8 * k by omega, Nat.pow_add, Nat.pow_mul]
    calc v = (64 * 256 ^ k * j + v) % (64 * 256 ^ k) := by
            rw [Nat.mul_add_mod, Nat.mod_eq_of_lt hv]
      _ = ((64 * j + v / 256 ^ k) * 256 ^ k + v % 256 ^ k) % (64 * 256 ^ k) := by
            conv_lhs => rw [← Nat.div_add_mod v (256 ^ k)]
            congr 1
            ring
      _ = varintValue ((beBytes (k + 1) v).modifyHead (tag ||| ·)) := by
            rw [beBytes, List.modifyHead_cons, varintValue, beNat_cons, htag, hhead,
              length_beBytes, beNat_beBytes, List.length_cons, length_beBytes, hbits]

/-- **The encoder is right**: it writes a varint encoding of the number. -/
theorem isVarint_varintOfLen {v n : ℕ} (h : varintLen v = some n) :
    IsVarint (varintOfLen v n) v := by
  rw [varintLen] at h
  split_ifs at h with h₁ h₂ h₄ h₈ <;> cases h
  · exact isVarint_tagged (j := 0) rfl (fun x hx => by rw [varintParseLen, hx]; rfl) (by omega)
  · exact isVarint_tagged (j := 1) rfl (fun x hx => by rw [varintParseLen, hx]; rfl) (by omega)
  · exact isVarint_tagged (j := 2) rfl (fun x hx => by rw [varintParseLen, hx]; rfl) (by omega)
  · exact isVarint_tagged (j := 3) rfl (fun x hx => by rw [varintParseLen, hx]; rfl) (by omega)

end Octets

/-- A write cursor into a buffer of fixed size: the bytes behind it and the bytes
in front of it, not written yet. -/
structure OctetsMut where
  written : Bytes
  rest : Bytes
  deriving DecidableEq, Repr

namespace OctetsMut

/-- A cursor at the front of a buffer. -/
def withSlice (buf : Bytes) : OctetsMut := ⟨[], buf⟩

/-- The buffer as it stands. -/
def buf (b : OctetsMut) : Bytes := b.written ++ b.rest

/-- The number of bytes left. -/
def cap (b : OctetsMut) : ℕ := b.rest.length

def putBytes (b : OctetsMut) (bs : Bytes) : Except BufferTooShort OctetsMut :=
  if b.cap < bs.length then .error {} else .ok ⟨b.written ++ bs, b.rest.drop bs.length⟩

def putU8 (b : OctetsMut) (x : UInt8) : Except BufferTooShort OctetsMut := b.putBytes [x]

/-- The shortest varint of a number, `none` where the crate panics. -/
def putVarint (b : OctetsMut) (v : ℕ) : Option (Except BufferTooShort OctetsMut) :=
  (Octets.varint v).map b.putBytes

/-- The cursor after a write whose result is thrown away: a write that fails has
changed nothing. -/
def ignore (b : OctetsMut) (r : Except BufferTooShort OctetsMut) : OctetsMut :=
  match r with
  | .ok c => c
  | .error _ => b

@[simp] lemma ignore_ok (b c : OctetsMut) : b.ignore (.ok c) = c := rfl

/-- A write into bytes kept for it. -/
lemma putBytes_eq_ok {bs : Bytes} {n m : ℕ} (h : n = bs.length + m) (w : Bytes) :
    putBytes ⟨w, List.replicate n 0⟩ bs = .ok ⟨w ++ bs, List.replicate m 0⟩ := by
  rw [putBytes, if_neg (by simp [cap, h])]
  simp [h]

lemma putU8_eq_ok {n m : ℕ} (h : n = 1 + m) (w : Bytes) (x : UInt8) :
    putU8 ⟨w, List.replicate n 0⟩ x = .ok ⟨w ++ [x], List.replicate m 0⟩ :=
  putBytes_eq_ok h w

lemma putVarint_eq_ok {v k n m : ℕ} (hv : Octets.varintLen v = some k) (h : n = k + m)
    (w : Bytes) :
    putVarint ⟨w, List.replicate n 0⟩ v
      = some (.ok ⟨w ++ Octets.varintOfLen v k, List.replicate m 0⟩) := by
  have hput : putBytes ⟨w, List.replicate n 0⟩ (Octets.varintOfLen v k) = _ :=
    putBytes_eq_ok (by rw [Octets.length_varintOfLen]; exact h) w
  rw [putVarint, Octets.varint, hv, Option.map_some, Option.map_some, hput]

end OctetsMut
