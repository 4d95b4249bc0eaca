import Aether.Lib.OnesComplement
import Aether.Masque.Probe
import Aether.Wireguard.Verify
import Mathlib.Algebra.Order.BigOperators.Group.List

/-!
The checksum of an IPv4 header, and the headers of the probes (`masque.rs`, `wireguard.rs`).

* `sumWords_eq`: the sum of the words is the plain one where that is below the size of a `u32`.
* `foldCarries_turns`: the carries are folded in as many turns as leave no carry.
* `Header.sum_write`: a header with its checksum sums up to the last word.
* `probes_valid`: **the checksum is right for every header**, and so are the headers of the probes.
-/

namespace Aether

open DnsWire (be16 length_be16 beNat_be16)
open Masque (ProbeDraw buildDnsProbePacket foldCarries ipv4HeaderChecksum probeDnsQuery sumWords)
open OnesComplement (Stands turn)
open Wireguard.Verify (buildDataplaneProbe ipv4Checksum)

/-! ### Words -/

/-- The words of two bytes, with an odd byte at the end as the high one of a word. -/
def words : Bytes → List ℕ
  | a :: b :: rest => (a.toNat * 256 + b.toNat) :: words rest
  | [a] => [a.toNat * 256]
  | [] => []

lemma words_append {a : Bytes} (ha : 2 ∣ a.length) (b : Bytes) :
    words (a ++ b) = words a ++ words b := by
  induction a using words.induct with
  | case1 x y rest ih =>
      have hrest : 2 ∣ rest.length := (Nat.dvd_add_left (Nat.dvd_refl 2)).mp ha
      rw [List.cons_append, List.cons_append, words, words, ih hrest, List.cons_append]
  | case2 x => exact absurd ha (by rw [List.length_singleton]; decide)
  | case3 => rfl

lemma words_be16 (v : UInt16) : words (be16 v) = [v.toNat] := by
  obtain ⟨a, b, hbytes⟩ : ∃ a b, be16 v = [a, b] := ⟨_, _, rfl⟩
  rw [← beNat_be16 v, hbytes]
  simp [words, Octets.beNat]

lemma words_lt (bs : Bytes) : ∀ w ∈ words bs, w < 65536 := by
  induction bs using words.induct with
  | case1 x y rest ih =>
      have hx : x.toNat < 256 := x.toNat_lt
      have hy : y.toNat < 256 := y.toNat_lt
      intro w hw
      rcases List.mem_cons.mp hw with rfl | hmem
      · omega
      · exact ih w hmem
  | case2 x =>
      have hx : x.toNat < 256 := x.toNat_lt
      intro w hw
      rw [List.mem_singleton.mp hw]
      omega
  | case3 => intro w hw; cases hw

lemma length_words {bs : Bytes} (h : 2 ∣ bs.length) : 2 * (words bs).length = bs.length := by
  induction bs using words.induct with
  | case1 x y rest ih =>
      have hrest := ih ((Nat.dvd_add_left (Nat.dvd_refl 2)).mp h)
      rw [words, List.length_cons, List.length_cons, List.length_cons]
      omega
  | case2 x => exact absurd h (by rw [List.length_singleton]; decide)
  | case3 => rfl

/-! ### The loops -/

/-- **The sum of the words** is the plain one while that fits. -/
lemma sumWords_eq {sum : ℕ} {bs : Bytes} (h : sum + (words bs).sum < 2 ^ 32) :
    sumWords sum bs = sum + (words bs).sum := by
  induction bs using words.induct generalizing sum with
  | case1 x y rest ih =>
      rw [words, List.sum_cons, ← Nat.add_assoc] at h
      have hfits : sum + (x.toNat * 256 + y.toNat) < 2 ^ 32 := by omega
      rw [sumWords, words, Nat.mod_eq_of_lt hfits, ih h, List.sum_cons, Nat.add_assoc]
  | case2 x =>
      rw [words, List.sum_singleton] at h ⊢
      rw [sumWords, Nat.mod_eq_of_lt h]
  | case3 => rfl

/-- **The carries are folded** until none is left. -/
lemma foldCarries_turns {n s : ℕ} (h : (turn 65536)^[n] s < 65536) :
    ∃ m ≤ n, foldCarries s = (turn 65536)^[m] s ∧ foldCarries s < 65536 := by
  induction n generalizing s with
  | zero =>
      have hs : ¬ s / 65536 ≠ 0 := by rw [not_not]; exact Nat.div_eq_of_lt h
      rw [foldCarries, dif_neg hs]
      exact ⟨0, Nat.le_refl 0, rfl, h⟩
  | succ n ih =>
      by_cases hs : s / 65536 ≠ 0
      · obtain ⟨m, hm, heq, hlt⟩ := ih h
        rw [foldCarries, dif_pos hs, ← turn]
        exact ⟨m + 1, by omega, heq, hlt⟩
      · rw [foldCarries, dif_neg hs]
        exact ⟨0, Nat.zero_le _, rfl, by omega⟩

lemma toNat_ipv4HeaderChecksum {header : Bytes} (h : foldCarries (sumWords 0 header) < 65536) :
    (ipv4HeaderChecksum header).toNat = 65536 - 1 - foldCarries (sumWords 0 header) := by
  have hword : (foldCarries (sumWords 0 header)).toUInt16.toNat
      = foldCarries (sumWords 0 header) := Nat.mod_eq_of_lt h
  rw [ipv4HeaderChecksum, UInt16.toNat_not, hword]

/-! ### Headers -/

/-- A header whose checksum is not written yet. -/
structure Header where
  bytes : Bytes
  even : 2 ∣ bytes.length
  low : 12 ≤ bytes.length
  high : bytes.length ≤ 131072
  blank : (bytes.drop 10).take 2 = [0, 0]

namespace Header

variable (h : Header)

/-- The checksum is copied to its place. -/
def write (csum : UInt16) : Bytes := h.bytes.take 10 ++ be16 csum ++ h.bytes.drop 12

lemma length_write (csum : UInt16) : (h.write csum).length = h.bytes.length := by
  have hlow := h.low
  rw [write, List.length_append, List.length_append, List.length_take, length_be16,
    List.length_drop]
  omega

/-- The words before and behind the checksum. -/
lemma words_write (csum : UInt16) : words (h.write csum)
    = words (h.bytes.take 10) ++ csum.toNat :: words (h.bytes.drop 12) := by
  have hlen : (h.bytes.take 10).length = 10 := by
    rw [List.length_take]
    exact Nat.min_eq_left (Nat.le_trans (by decide) h.low)
  rw [write, List.append_assoc, words_append (by rw [hlen]; decide),
    words_append (by rw [length_be16]), words_be16]
  rfl

lemma bytes_eq : h.bytes = h.write 0 := by
  have hrest : h.bytes.drop 10 = be16 0 ++ h.bytes.drop 12 := by
    have hsplit := List.take_append_drop 2 (h.bytes.drop 10)
    rw [h.blank, List.drop_drop] at hsplit
    exact hsplit.symm
  rw [write, List.append_assoc, ← hrest, List.take_append_drop]

/-- A checksum is added to the plain sum. -/
lemma sum_words_write (csum : UInt16) :
    (words (h.write csum)).sum = (words h.bytes).sum + csum.toNat := by
  have hzero := h.words_write 0
  rw [← h.bytes_eq] at hzero
  have hnat : (0 : UInt16).toNat = 0 := rfl
  rw [h.words_write, hzero, hnat]
  simp only [List.sum_append, List.sum_cons]
  omega

/-- No sum of words on the way is too large. -/
lemma sum_take_lt (n : ℕ) : ((words h.bytes).take n).sum < 2 ^ 32 := by
  have hlen := length_words h.even
  have hhigh := h.high
  have hword : ∀ w ∈ words h.bytes, w ≤ 65535 := fun w hw =>
    Nat.le_of_lt_succ (words_lt h.bytes w hw)
  calc ((words h.bytes).take n).sum ≤ (words h.bytes).sum := (List.take_sublist n _).sum_le_sum
        fun w _ => Nat.zero_le w
    _ ≤ (words h.bytes).length * 65535 := List.sum_le_card_nsmul _ _ hword
    _ < 2 ^ 32 := by omega

lemma sum_lt : (words h.bytes).sum < 2 ^ 32 := by
  have hlt := h.sum_take_lt (words h.bytes).length
  rwa [List.take_length] at hlt

/-- Nor does adding the carries make one. -/
lemma turns_lt (n : ℕ) : (turn 65536)^[n] (words h.bytes).sum < 2 ^ 32 :=
  Nat.lt_of_le_of_lt (OnesComplement.turns_le (by decide) n _) h.sum_lt

lemma sumWords_bytes : sumWords 0 h.bytes = (words h.bytes).sum := by
  rw [sumWords_eq (by rw [Nat.zero_add]; exact h.sum_lt), Nat.zero_add]

/-- Two turns are enough for the carries. -/
lemma foldCarries_bytes : ∃ n ≤ 2, foldCarries (sumWords 0 h.bytes)
    = (turn 65536)^[n] (words h.bytes).sum ∧ foldCarries (sumWords 0 h.bytes) < 65536 := by
  obtain ⟨n, hn, hturns⟩ := OnesComplement.exists_turns (b := 65536) (by decide) h.sum_lt
  obtain ⟨m, hm, heq⟩ := foldCarries_turns hturns
  rw [h.sumWords_bytes]
  exact ⟨m, Nat.le_trans hm hn, heq⟩

/-- **A header with its checksum** sums up to the last word. -/
lemma sum_write :
    OnesComplement.sum 65536 (words (h.write (ipv4HeaderChecksum h.bytes))) = 0xFFFF := by
  obtain ⟨n, -, heq, hlt⟩ := h.foldCarries_bytes
  have hstands : Stands 65536 (words h.bytes).sum (foldCarries (sumWords 0 h.bytes)) := by
    refine Stands.of_turns (by decide) (n := n) ?_
    rw [← heq]
    exact OnesComplement.stands_of_lt hlt
  have hall : Stands 65536 (words (h.write (ipv4HeaderChecksum h.bytes))).sum (65536 - 1) := by
    rw [h.sum_words_write, toNat_ipv4HeaderChecksum hlt]
    exact hstands.complement (by decide)
  exact (OnesComplement.stands_sum (by decide) (words_lt _)).unique hall

end Header

/-! ### Probes -/

/-- A UDP datagram behind an IPv4 header of twenty bytes whose checksum and lengths are right. -/
structure ValidProbe (pkt : Bytes) : Prop where
  version : pkt[0]? = some 0x45
  protocol : pkt[9]? = some 17
  checksum : OnesComplement.sum 65536 (words (pkt.take 20)) = 0xFFFF
  totalLength : Octets.beNat ((pkt.drop 2).take 2) = pkt.length
  udpLength : Octets.beNat ((pkt.drop 24).take 2) = pkt.length - 20

/-- The header of a probe before its checksum is written. -/
def probeHeader (src : Ipv4Addr) (draw : ProbeDraw) : Header where
  bytes := [0x45, 0x00] ++ be16 60 ++ be16 draw.id ++ [0x00, 0x00] ++ [64, 17] ++ [0x00, 0x00]
    ++ src.octets ++ (Ipv4Addr.new 8 8 8 8).octets
  even := by simp [src.len, Ipv4Addr.new]
  low := by simp [src.len, Ipv4Addr.new]
  high := by simp [src.len, Ipv4Addr.new]
  blank := rfl

lemma length_probeHeader (src : Ipv4Addr) (draw : ProbeDraw) :
    (probeHeader src draw).bytes.length = 20 := by
  simp [probeHeader, src.len, Ipv4Addr.new]

/-- A probe is its header with the checksum, the header of UDP and the query. -/
lemma buildDnsProbePacket_eq (src : Ipv4Addr) (draw : ProbeDraw) :
    buildDnsProbePacket src draw
      = (probeHeader src draw).write (ipv4HeaderChecksum (probeHeader src draw).bytes)
        ++ (be16 draw.sport ++ be16 53 ++ be16 40 ++ [0x00, 0x00] ++ probeDnsQuery draw) := by
  have hlen := length_probeHeader src draw
  have hbytes : [0x45, 0x00] ++ be16 (20 + (8 + (probeDnsQuery draw).length)).toUInt16
      ++ be16 draw.id ++ [0x00, 0x00] ++ [64, 17] ++ [0x00, 0x00] ++ src.octets
      ++ (Ipv4Addr.new 8 8 8 8).octets = (probeHeader src draw).bytes := rfl
  have hudp : be16 (8 + (probeDnsQuery draw).length).toUInt16 = be16 40 := rfl
  have htake : (probeHeader src draw).bytes.take 20 = (probeHeader src draw).bytes :=
    List.take_of_length_le (Nat.le_of_eq hlen)
  simp only [buildDnsProbePacket]
  rw [hbytes, htake, hudp, Header.write]
  simp only [List.append_assoc]

/-- A checksum leaves the rest of the header alone. -/
lemma probeHeader_frame (src : Ipv4Addr) (draw : ProbeDraw) (csum : UInt16) (udp : Bytes) :
    ((probeHeader src draw).write csum ++ udp)[0]? = some 0x45
      ∧ ((probeHeader src draw).write csum ++ udp)[9]? = some 17
      ∧ (((probeHeader src draw).write csum ++ udp).drop 2).take 2 = be16 60 := ⟨rfl, rfl, rfl⟩

/-- The probes have a right header. -/
lemma validProbe_buildDnsProbePacket (src : Ipv4Addr) (draw : ProbeDraw) :
    ValidProbe (buildDnsProbePacket src draw) := by
  have hlen : ((probeHeader src draw).write
      (ipv4HeaderChecksum (probeHeader src draw).bytes)).length = 20 := by
    rw [Header.length_write, length_probeHeader]
  have hsum := (probeHeader src draw).sum_write
  rw [buildDnsProbePacket_eq]
  generalize ipv4HeaderChecksum (probeHeader src draw).bytes = csum at hlen hsum
  obtain ⟨hversion, hprotocol, htotal⟩ := probeHeader_frame src draw csum
    (be16 draw.sport ++ be16 53 ++ be16 40 ++ [0x00, 0x00] ++ probeDnsQuery draw)
  refine ⟨hversion, hprotocol, ?_, ?_, ?_⟩
  · rw [List.take_append_of_le_length (Nat.le_of_eq hlen.symm),
      List.take_of_length_le (Nat.le_of_eq hlen)]
    exact hsum
  · rw [htotal, beNat_be16, List.length_append, hlen]
    rfl
  · have hports : (be16 draw.sport ++ be16 53).length = 4 := by
      rw [List.length_append, length_be16, length_be16]
    rw [List.length_append, hlen, List.append_assoc, List.append_assoc,
      ← List.append_assoc ((probeHeader src draw).write csum),
      List.drop_left' (by rw [List.length_append, hlen, hports]),
      List.take_left' (length_be16 40), beNat_be16]
    rfl

/-- **The checksum is right for every header**: neither adding up the words nor folding the carries
overflows, two turns fold them, and a header with its checksum sums up to the last word. The
headers of the probes are right for every address, id and port. -/
theorem probes_valid (h : Header) (src : Ipv4Addr) (draw : ProbeDraw)
    (p : Wireguard.Verify.Params) :
    (∀ n, ((words h.bytes).take n).sum < 2 ^ 32)
      ∧ (∀ n, (turn 65536)^[n] (words h.bytes).sum < 2 ^ 32)
      ∧ (∃ n ≤ 2, foldCarries (sumWords 0 h.bytes) = (turn 65536)^[n] (words h.bytes).sum
        ∧ foldCarries (sumWords 0 h.bytes) < 65536)
      ∧ OnesComplement.sum 65536 (words (h.write (ipv4HeaderChecksum h.bytes))) = 0xFFFF
      ∧ OnesComplement.sum 65536 (words (h.write (ipv4Checksum h.bytes))) = 0xFFFF
      ∧ ValidProbe (buildDnsProbePacket src draw) ∧ ValidProbe (buildDataplaneProbe p) :=
  ⟨h.sum_take_lt, h.turns_lt, h.foldCarries_bytes, h.sum_write, h.sum_write,
    validProbe_buildDnsProbePacket src draw,
    validProbe_buildDnsProbePacket p.localIpv4 p.draw⟩

end Aether
