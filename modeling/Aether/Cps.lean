import Aether.FragmentConfig
import Aether.Lib.OctetsMut

/-!
The specifications of signature packets (`parse_cps` of `aethernoize.rs`): text with tags, of
which each one yields bytes.

The random numbers and the clock are an input, one `Draw` for each tag. A range is drawn with one
number, and each random byte or character with one.

* `captures`: the matches of the regular expression, from left to right.
* `Tag.least`: the least number of bytes that a tag yields; `least_le`, `length_bytes_worst`.
* `bytes_eq_nil_iff`: whether a tag yields anything does not depend on what is drawn.
-/

namespace Aether.Cps

open Fragment (genRange genRange_le)
open Octets (beBytes)

/-! ### Tags -/

structure Tag where
  name : String
  data : String
  deriving DecidableEq

/-- The match of `<([a-z]+)\s*([^>]*)>` behind its `<`: the tag and the length of the match. Nothing
in the data is a `>`, so the match ends at the first one. -/
def matchTag (cs : List Char) : Option (Tag × ℕ) :=
  let name := cs.takeWhile Char.isLower
  let rest := cs.dropWhile Char.isLower
  let data := rest.takeWhile (· ≠ '>')
  if name = [] ∨ rest.length = data.length then none
  else some (⟨.ofList name, trim (.ofList data)⟩, name.length + data.length + 1)

/-- The matches behind the next `skip` characters. -/
def capturesFrom : ℕ → List Char → List Tag
  | _, [] => []
  | skip + 1, _ :: cs => capturesFrom skip cs
  | 0, c :: cs =>
      if c = '<' then
        match matchTag cs with
        | some (tag, len) => tag :: capturesFrom len cs
        | none => capturesFrom 0 cs
      else capturesFrom 0 cs

/-- `captures_iter`. -/
def captures (spec : String) : List Tag := capturesFrom 0 spec.toList

/-! ### What is drawn -/

/-- The clock, in seconds since 1970, and the random numbers of a tag. -/
structure Draw where
  clock : ℕ
  len : ℕ
  byte : ℕ → ℕ

/-- `fill_bytes`. -/
def fillBytes (n : ℕ) (byte : ℕ → ℕ) : Bytes := (List.range n).map fun i => .ofNat (byte i)

/-- Characters of an alphabet. -/
def pick (chars : Bytes) (n : ℕ) (byte : ℕ → ℕ) : Bytes :=
  (List.range n).map fun i => chars.getD (genRange 0 (chars.length - 1) (byte i)) 0

/-- The bytes of ASCII text. -/
def ascii (text : String) : Bytes := text.toList.map fun c => .ofNat c.toNat

def letters : Bytes := ascii "abcdefghijklmnopqrstuvwxyzABCDEFGHIJKLMNOPQRSTUVWXYZ"

def digits : Bytes := ascii "0123456789"

/-! ### The data of a tag -/

/-- `parse` for a `usize`. -/
def parseUsize : String → Option ℕ := parseUnsigned (2 ^ 64)

/-- `aethernoize::parse_range`: the first two parts between dashes, or a number. -/
def parseRange (data : String) (r : ℕ) : ℕ :=
  let single := min ((parseUsize (trim data)).getD 0) 2048
  match splitOnce '-' data with
  | some (minStr, rest) =>
      let maxStr := ((splitOnce '-' rest).map Prod.fst).getD rest
      let lo := (parseUsize (trim minStr)).getD 0
      let hi := (parseUsize (trim maxStr)).getD 0
      if lo < hi ∧ 0 < lo then min (genRange lo hi r) 2048 else single
  | none => single

/-- `hex::decode`. -/
def decodeHex : List Char → Option Bytes
  | [] => some []
  | [_] => none
  | a :: b :: rest =>
      match AddrParser.toDigit 16 a, AddrParser.toDigit 16 b, decodeHex rest with
      | some hi, some lo, some bs => some (.ofNat (hi * 16 + lo) :: bs)
      | _, _, _ => none

/-- The bytes of a `b` tag, none where its digits are not. -/
def hexBytes (data : String) : Bytes :=
  let hexStr := data.toList.filter (!isWhitespace ·)
  let clean :=
    match hexStr with
    | '0' :: 'x' :: rest => rest
    | '0' :: 'X' :: rest => rest
    | _ => hexStr
  (decodeHex clean).getD []

/-- What a tag yields. -/
def Tag.bytes (t : Tag) (d : Draw) : Bytes :=
  match t.name with
  | "b" => hexBytes t.data
  | "t" => beBytes 4 (d.clock % 2 ^ 32)
  | "c" => beBytes 4 (d.clock % 0xFFFFFFFF)
  | "r" => fillBytes (parseRange t.data d.len) d.byte
  | "rc" => pick letters (parseRange t.data d.len) d.byte
  | "rd" => pick digits (parseRange t.data d.len) d.byte
  | _ => []

/-- What tags yield one after the other, each with its own draw. -/
def bytesOf : List Tag → (ℕ → Draw) → Bytes
  | [], _ => []
  | t :: ts, d => t.bytes (d 0) ++ bytesOf ts fun i => d (i + 1)

def parseCps (spec : String) (d : ℕ → Draw) : Bytes := bytesOf (captures spec) d

/-! ### Lengths -/

@[simp] lemma length_fillBytes (n : ℕ) (byte : ℕ → ℕ) : (fillBytes n byte).length = n := by
  rw [fillBytes, List.length_map, List.length_range]

@[simp] lemma length_pick (chars : Bytes) (n : ℕ) (byte : ℕ → ℕ) :
    (pick chars n byte).length = n := by
  rw [pick, List.length_map, List.length_range]

/-- The characters are of the alphabet. -/
lemma mem_of_mem_pick {chars : Bytes} (hne : chars ≠ []) {n : ℕ} {byte : ℕ → ℕ} {b : UInt8}
    (hb : b ∈ pick chars n byte) : b ∈ chars := by
  obtain ⟨i, -, rfl⟩ := List.mem_map.mp hb
  have hlt : genRange 0 (chars.length - 1) (byte i) < chars.length := by
    have hle := genRange_le (Nat.zero_le (chars.length - 1)) (byte i)
    have hpos := List.length_pos_iff.mpr hne
    omega
  rw [List.getD_eq_getElem?_getD, List.getElem?_eq_getElem hlt]
  exact List.getElem_mem hlt

lemma le_genRange (lo hi r : ℕ) : lo ≤ genRange lo hi r := Nat.le_add_right lo _

lemma genRange_zero (lo hi : ℕ) : genRange lo hi 0 = lo := by
  rw [genRange, Nat.zero_mod, Nat.add_zero]

/-- The least length of a range is drawn with zero, and is zero only if all are. -/
lemma parseRange_zero_le (data : String) (r : ℕ) : parseRange data 0 ≤ parseRange data r
    ∧ (parseRange data 0 = 0 → parseRange data r = 0) := by
  rw [parseRange, parseRange]
  split
  · rename_i minStr rest _
    dsimp only
    split
    · rename_i hrange
      have hle := le_genRange ((parseUsize (trim minStr)).getD 0)
        ((parseUsize (trim (((splitOnce '-' rest).map Prod.fst).getD rest))).getD 0) r
      rw [genRange_zero]
      omega
    · exact ⟨Nat.le_refl _, id⟩
  · exact ⟨Nat.le_refl _, id⟩

/-- The least number of bytes that a tag yields. -/
def Tag.least (t : Tag) : ℕ :=
  match t.name with
  | "b" => (hexBytes t.data).length
  | "t" | "c" => 4
  | "r" | "rc" | "rd" => parseRange t.data 0
  | _ => 0

/-- The least number of bytes that tags yield. -/
def least (ts : List Tag) : ℕ := (ts.map Tag.least).sum

/-- The shortest packet at a time whose first byte is 1, with ones for its random bytes. -/
def worst : Draw := ⟨2 ^ 24, 0, fun _ => 1⟩

/-- A tag yields at least so many bytes, and none at all if that is zero. -/
lemma Tag.least_le (t : Tag) (d : Draw) :
    t.least ≤ (t.bytes d).length ∧ (t.least = 0 → t.bytes d = []) := by
  have hrange := parseRange_zero_le t.data d.len
  rw [least, bytes]
  split
  case h_1 => exact ⟨Nat.le_refl _, List.length_eq_zero_iff.mp⟩
  case h_2 | h_3 =>
    exact ⟨Nat.le_of_eq (Octets.length_beBytes 4 _).symm, fun h => absurd h (by decide)⟩
  case h_4 =>
    rw [length_fillBytes]
    exact ⟨hrange.1, fun h => by rw [hrange.2 h]; rfl⟩
  case h_5 | h_6 =>
    rw [length_pick]
    exact ⟨hrange.1, fun h => by rw [hrange.2 h]; rfl⟩
  case h_7 => exact ⟨Nat.le_refl _, fun _ => rfl⟩

lemma Tag.length_bytes_worst (t : Tag) : (t.bytes worst).length = t.least := by
  rw [least, bytes]
  split
  case h_1 => rfl
  case h_2 | h_3 => exact Octets.length_beBytes 4 _
  case h_4 => exact length_fillBytes _ _
  case h_5 | h_6 => exact length_pick _ _ _
  case h_7 => rfl

/-- Whether a tag yields anything does not depend on what is drawn. -/
lemma Tag.bytes_eq_nil_iff (t : Tag) (d : Draw) : t.bytes d = [] ↔ t.least = 0 := by
  obtain ⟨hle, hnil⟩ := t.least_le d
  refine ⟨fun h => ?_, hnil⟩
  rw [h] at hle
  exact Nat.le_zero.mp hle

lemma least_cons (t : Tag) (ts : List Tag) : least (t :: ts) = t.least + least ts := by
  rw [least, least, List.map_cons, List.sum_cons]

lemma least_le (ts : List Tag) (d : ℕ → Draw) : least ts ≤ (bytesOf ts d).length := by
  induction ts generalizing d with
  | nil => exact Nat.le_refl 0
  | cons t ts ih =>
      have hhead := (t.least_le (d 0)).1
      have htail := ih fun i => d (i + 1)
      rw [least_cons, bytesOf, List.length_append]
      omega

lemma length_bytesOf_worst (ts : List Tag) : (bytesOf ts fun _ => worst).length = least ts := by
  induction ts with
  | nil => rfl
  | cons t ts ih => rw [least_cons, bytesOf, List.length_append, t.length_bytes_worst, ih]

lemma bytesOf_eq_nil_iff (ts : List Tag) (d : ℕ → Draw) : bytesOf ts d = [] ↔ least ts = 0 := by
  induction ts generalizing d with
  | nil => exact iff_of_true rfl rfl
  | cons t ts ih =>
      rw [bytesOf, List.append_eq_nil_iff, t.bytes_eq_nil_iff, ih, least_cons, Nat.add_eq_zero_iff]

/-- A tag in text, a `<` within the data of a tag, and a tag that never ends. -/
example : captures "x<r 5>y<b 00<rc 1>< d><t" = [⟨"r", "5"⟩, ⟨"b", "00<rc 1"⟩] := by
  decide +kernel

end Aether.Cps
