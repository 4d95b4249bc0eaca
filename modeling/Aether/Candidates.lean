import Aether.FragmentConfig
import Aether.Lib.Gather
import Aether.Lib.OctetsMut

/-!
The addresses a scan tries: `build_candidates` (`prober.rs`) and `build_wg_candidates`
(`wg_prober.rs`). Addresses are numbers where the source makes them `u32` or `u128`.

What the random generator gives is a parameter. The set of what has been seen has the elements
of the list that is being built, so the two are one list that is pushed to.

* `mem_enumerateCidrV4`: the hosts of a network that are enumerated are the usable ones.
* `inCidrV4_of_mem_sample`, `inCidrV6_of_mem_sample`: sampled hosts lie in their network.
* `candidates_spec`: nothing is twice in a list of candidates,
  everything in it was wanted, and what was to be in it is.
-/

namespace Aether

/-! ### Addresses as numbers -/

namespace Ipv4Addr

/-- `Ipv4Addr::from(u32)`. -/
def ofU32 (n : ℕ) : Ipv4Addr := ⟨Octets.beBytes 4 n, Octets.length_beBytes 4 n⟩

/-- `u32::from(Ipv4Addr)`. -/
def toU32 (a : Ipv4Addr) : ℕ := Octets.beNat a.octets

/-- `parse::<Ipv4Addr>`: all of the string is the address. -/
def parse (s : String) : Option Ipv4Addr :=
  match AddrParser.readIpv4Addr s.toList with
  | some (ip, []) => some ip
  | _ => none

lemma toU32_ofU32 {n : ℕ} (h : n < 2 ^ 32) : (ofU32 n).toU32 = n := by
  rw [toU32, ofU32, Octets.beNat_beBytes]
  exact Nat.mod_eq_of_lt h

lemma ofU32_toU32 (a : Ipv4Addr) : ofU32 a.toU32 = a := by
  obtain ⟨octets, hlen⟩ := a
  simp only [ofU32, toU32, mk.injEq]
  rw [← hlen, Octets.beBytes_beNat]

lemma toU32_lt (a : Ipv4Addr) : a.toU32 < 2 ^ 32 := by
  have h := Octets.beNat_lt a.octets
  rw [a.len] at h
  exact h

end Ipv4Addr

namespace Ipv6Addr

/-- `Ipv6Addr::from(u128)`. -/
def ofU128 (n : ℕ) : Ipv6Addr := ⟨Octets.beBytes 16 n, Octets.length_beBytes 16 n⟩

/-- `u128::from(Ipv6Addr)`. -/
def toU128 (a : Ipv6Addr) : ℕ := Octets.beNat a.octets

/-- `parse::<Ipv6Addr>`. -/
def parse (s : String) : Option Ipv6Addr :=
  match AddrParser.readIpv6Addr s.toList with
  | some (ip, []) => some ip
  | _ => none

lemma toU128_ofU128 {n : ℕ} (h : n < 2 ^ 128) : (ofU128 n).toU128 = n := by
  rw [toU128, ofU128, Octets.beNat_beBytes]
  exact Nat.mod_eq_of_lt h

lemma toU128_lt (a : Ipv6Addr) : a.toU128 < 2 ^ 128 := by
  have h := Octets.beNat_lt a.octets
  rw [a.len] at h
  exact h

end Ipv6Addr

namespace Prober

open Gather

/-! ### Networks -/

/-- `parse_cidr_v4`: the address and the length of the network. -/
def parseCidrV4 (cidr : String) : Option (ℕ × ℕ) :=
  (splitOnce '/' cidr).bind fun (ip, len) =>
    (Ipv4Addr.parse ip).bind fun a => (parseUnsigned 256 len).map fun p => (a.toU32, p)

/-- `parse_cidr_v6`. -/
def parseCidrV6 (cidr : String) : Option (ℕ × ℕ) :=
  (splitOnce '/' cidr).bind fun (ip, len) =>
    (Ipv6Addr.parse ip).bind fun a => (parseUnsigned 256 len).map fun p => (a.toU128, p)

/-- The address lies in the network. -/
def InCidrV4 (cidr : String) (a : Ipv4Addr) : Prop :=
  ∃ base p, parseCidrV4 cidr = some (base, p)
    ∧ a.toU32 / 2 ^ (32 - p) = base / 2 ^ (32 - p)

def InCidrV6 (cidr : String) (a : Ipv6Addr) : Prop :=
  ∃ base p, parseCidrV6 cidr = some (base, p)
    ∧ a.toU128 / 2 ^ (128 - p) = base / 2 ^ (128 - p)

/-- The address is a usable host: its bits behind the network's are not all zero and not all
one. -/
def UsableHost (cidr : String) (a : Ipv4Addr) : Prop :=
  ∃ base p, parseCidrV4 cidr = some (base, p)
    ∧ a.toU32 / 2 ^ (32 - p) = base / 2 ^ (32 - p)
    ∧ a.toU32 % 2 ^ (32 - p) ≠ 0 ∧ a.toU32 % 2 ^ (32 - p) ≠ 2 ^ (32 - p) - 1

/-! ### Hosts -/

/-- `enumerate_cidr_v4`. -/
def enumerateCidrV4 (cidr : String) : List Ipv4Addr :=
  match parseCidrV4 cidr with
  | none => []
  | some (base, p) =>
      let hostBits := 32 - p
      if hostBits = 0 then [.ofU32 base]
      else if 12 < hostBits then []
      else (List.range' 1 (2 ^ hostBits - 1 - 1)).map fun off => .ofU32 (base + off)

/-- The loop of `sample_cidr_v4` on the offsets it has chosen, with what the generator gives. It
ends when it has as many as it wants; where the list ends first, it is still drawing. -/
def drawOffsets (usable want : ℕ) : List ℕ → List ℕ → List ℕ
  | chosen, [] => chosen
  | chosen, r :: rs =>
      if chosen.length < want then drawOffsets usable want (pushNew chosen (1 + r % usable)) rs
      else chosen

/-- `sample_cidr_v4`, for at least so many hosts as `n as u32` says. -/
def sampleCidrV4 (cidr : String) (n : ℕ) (draws : List ℕ) : List Ipv4Addr :=
  match parseCidrV4 cidr with
  | none => []
  | some (base, p) =>
      let hostBits := 32 - p
      let size := if 32 ≤ hostBits then 2 ^ 32 - 1 else 2 ^ hostBits
      if size ≤ 2 then [.ofU32 base]
      else
        let usable := size - 2
        let want := min (n % 2 ^ 32) usable
        (drawOffsets usable want [] draws).map fun off => .ofU32 (base + off)

/-- The address of IPv4 that a sample of `sample_cidr_v6` embeds, with what the generator gives
for the network and for the host. -/
def embeddedHost (v4 : List (ℕ × ℕ)) (draw : ℕ × ℕ) : ℕ :=
  if v4.isEmpty then draw.2 % 2 ^ 32
  else
    let (b, p) := v4.getD (draw.1 % v4.length) (0, 0)
    let hostBits := 32 - p
    let host := if hostBits = 0 then 0 else draw.2 % 2 ^ 32 &&& (2 ^ (hostBits % 32) - 1)
    b ||| host

/-- `sample_cidr_v6`. -/
def sampleCidrV6 (cidr : String) (n : ℕ) (v4Cidrs : List String) (draws : ℕ → ℕ × ℕ) :
    List Ipv6Addr :=
  match parseCidrV6 cidr with
  | none => []
  | some (base, p) =>
      if 128 - p = 0 then [.ofU128 base]
      else
        (List.range n).map fun i =>
          .ofU128 (base ||| embeddedHost (v4Cidrs.filterMap parseCidrV4) (draws i))

/-! ### The hosts of a network -/

/-- The network begins at its address, and leaves at most twelve bits and at least two to its
hosts. -/
def WellFormedV4 (cidr : String) : Prop :=
  ∃ net ∈ parseCidrV4 cidr, 20 ≤ net.2 ∧ net.2 ≤ 30 ∧ net.1 % 2 ^ (32 - net.2) = 0

/-- The network has room for an address of IPv4. -/
def WellFormedV6 (cidr : String) : Prop := ∃ net ∈ parseCidrV6 cidr, net.2 ≤ 96

instance (cidr : String) : Decidable (WellFormedV4 cidr) :=
  inferInstanceAs (Decidable (∃ net ∈ parseCidrV4 cidr, _))

instance (cidr : String) : Decidable (WellFormedV6 cidr) :=
  inferInstanceAs (Decidable (∃ net ∈ parseCidrV6 cidr, _))

lemma parseCidrV4_lt {cidr : String} {base p : ℕ} (h : parseCidrV4 cidr = some (base, p)) :
    base < 2 ^ 32 := by
  obtain ⟨parts, -, hparts⟩ := Option.bind_eq_some_iff.mp h
  obtain ⟨a, -, ha⟩ := Option.bind_eq_some_iff.mp hparts
  obtain ⟨len, -, heq⟩ := Option.map_eq_some_iff.mp ha
  rw [← (Prod.mk.inj heq).1]
  exact a.toU32_lt

lemma parseCidrV6_lt {cidr : String} {base p : ℕ} (h : parseCidrV6 cidr = some (base, p)) :
    base < 2 ^ 128 := by
  obtain ⟨parts, -, hparts⟩ := Option.bind_eq_some_iff.mp h
  obtain ⟨a, -, ha⟩ := Option.bind_eq_some_iff.mp hparts
  obtain ⟨len, -, heq⟩ := Option.map_eq_some_iff.mp ha
  rw [← (Prod.mk.inj heq).1]
  exact a.toU128_lt

lemma WellFormedV4.network {cidr : String} (h : WellFormedV4 cidr) :
    ∃ base p, parseCidrV4 cidr = some (base, p) ∧ 20 ≤ p ∧ p ≤ 30 ∧ base % 2 ^ (32 - p) = 0
      ∧ base < 2 ^ 32 := by
  obtain ⟨⟨base, p⟩, hparse, hlow, hhigh, hbase⟩ := h
  exact ⟨base, p, hparse, hlow, hhigh, hbase, parseCidrV4_lt hparse⟩

lemma WellFormedV6.network {cidr : String} (h : WellFormedV6 cidr) :
    ∃ base p, parseCidrV6 cidr = some (base, p) ∧ p ≤ 96 ∧ base < 2 ^ 128 := by
  obtain ⟨⟨base, p⟩, hparse, hp⟩ := h
  exact ⟨base, p, hparse, hp, parseCidrV6_lt hparse⟩

lemma add_div_of_aligned {base off m : ℕ} (hbase : base % m = 0) (hoff : off < m) :
    (base + off) / m = base / m := by
  obtain ⟨b, rfl⟩ := Nat.dvd_of_mod_eq_zero hbase
  have hm : 0 < m := Nat.zero_lt_of_lt hoff
  rw [Nat.mul_add_div hm, Nat.mul_div_cancel_left b hm, Nat.div_eq_of_lt hoff, Nat.add_zero]

/-- A host behind an aligned address still fits. -/
lemma add_lt_of_aligned {base off m k : ℕ} (hbase : base % m = 0) (hm : m ∣ k) (hlt : base < k)
    (hoff : off < m) : base + off < k := by
  obtain ⟨b, rfl⟩ := Nat.dvd_of_mod_eq_zero hbase
  obtain ⟨c, rfl⟩ := hm
  have hbc : b < c := Nat.lt_of_mul_lt_mul_left hlt
  calc m * b + off < m * b + m := Nat.add_lt_add_left hoff _
    _ = m * (b + 1) := (Nat.mul_succ m b).symm
    _ ≤ m * c := Nat.mul_le_mul_left m hbc

/-- The number of a host. -/
lemma toU32_host {base p off : ℕ} (hbase : base % 2 ^ (32 - p) = 0) (hlt : base < 2 ^ 32)
    (hoff : off < 2 ^ (32 - p)) : (Ipv4Addr.ofU32 (base + off)).toU32 = base + off :=
  Ipv4Addr.toU32_ofU32
    (add_lt_of_aligned hbase (Nat.pow_dvd_pow 2 (Nat.sub_le 32 p)) hlt hoff)

/-- **The hosts that are enumerated are the usable ones.** -/
theorem mem_enumerateCidrV4 {cidr : String} (h : WellFormedV4 cidr) (a : Ipv4Addr) :
    a ∈ enumerateCidrV4 cidr ↔ UsableHost cidr a := by
  obtain ⟨base, p, hparse, hlow, hhigh, hbase, hlt⟩ := h.network
  have hbits : 32 - p ≠ 0 := by omega
  have htwelve : ¬12 < 32 - p := by omega
  simp only [enumerateCidrV4, hparse, if_neg hbits, if_neg htwelve, List.mem_map,
    List.mem_range'_1]
  constructor
  · rintro ⟨off, ⟨hone, hoff⟩, rfl⟩
    have hsize : off < 2 ^ (32 - p) := by omega
    refine ⟨base, p, hparse, ?_⟩
    rw [toU32_host hbase hlt hsize, add_div_of_aligned hbase hsize]
    have hmod : (base + off) % 2 ^ (32 - p) = off := by
      rw [Nat.add_mod, hbase, Nat.zero_add, Nat.mod_mod, Nat.mod_eq_of_lt hsize]
    rw [hmod]
    exact ⟨rfl, by omega, by omega⟩
  · rintro ⟨base', p', hparse', hdiv, hzero, hones⟩
    obtain ⟨rfl, rfl⟩ : base = base' ∧ p = p' := by
      rw [hparse] at hparse'
      exact Prod.mk.inj (Option.some.inj hparse')
    have hsize : a.toU32 % 2 ^ (32 - p) < 2 ^ (32 - p) :=
      Nat.mod_lt _ (Nat.two_pow_pos _)
    have hsplit : base + a.toU32 % 2 ^ (32 - p) = a.toU32 := by
      calc base + a.toU32 % 2 ^ (32 - p)
          = 2 ^ (32 - p) * (base / 2 ^ (32 - p)) + a.toU32 % 2 ^ (32 - p) := by
            rw [Nat.mul_div_cancel' (Nat.dvd_of_mod_eq_zero hbase)]
        _ = a.toU32 := by rw [← hdiv, Nat.div_add_mod]
    refine ⟨a.toU32 % 2 ^ (32 - p), ⟨by omega, by omega⟩, ?_⟩
    rw [hsplit, Ipv4Addr.ofU32_toU32]

/-- What is drawn stays between the first usable host and the last one. -/
lemma mem_drawOffsets {usable want : ℕ} (hpos : 0 < usable) {chosen : List ℕ}
    (h : ∀ off ∈ chosen, 1 ≤ off ∧ off ≤ usable) (draws : List ℕ) :
    ∀ off ∈ drawOffsets usable want chosen draws, 1 ≤ off ∧ off ≤ usable := by
  induction draws generalizing chosen with
  | nil => exact h
  | cons r rs ih =>
      rw [drawOffsets]
      split
      · refine ih ?_
        intro off hoff
        rcases mem_pushNew.mp hoff with hold | rfl
        · exact h off hold
        · have hr := Nat.mod_lt r hpos
          omega
      · exact h

/-- A sampled host lies in its network. -/
lemma inCidrV4_of_mem_sample {cidr : String} (h : WellFormedV4 cidr) {n : ℕ} {draws : List ℕ}
    {a : Ipv4Addr} (ha : a ∈ sampleCidrV4 cidr n draws) : InCidrV4 cidr a := by
  obtain ⟨base, p, hparse, hlow, hhigh, hbase, hlt⟩ := h.network
  have hbits : ¬32 ≤ 32 - p := by omega
  have hfour : 2 ^ 2 ≤ 2 ^ (32 - p) := Nat.pow_le_pow_right (by decide) (by omega)
  have htwo : ¬2 ^ (32 - p) ≤ 2 := by omega
  simp only [sampleCidrV4, hparse, if_neg hbits, if_neg htwo, List.mem_map] at ha
  obtain ⟨off, hoff, rfl⟩ := ha
  have hrange := mem_drawOffsets (by omega) (by simp) draws off hoff
  have hsize : off < 2 ^ (32 - p) := by omega
  refine ⟨base, p, hparse, ?_⟩
  rw [toU32_host hbase hlt hsize, add_div_of_aligned hbase hsize]

lemma inCidrV4_of_usable {cidr : String} {a : Ipv4Addr} (h : UsableHost cidr a) :
    InCidrV4 cidr a := by
  obtain ⟨base, p, hparse, hdiv, -⟩ := h
  exact ⟨base, p, hparse, hdiv⟩

/-- An embedded host is an address of IPv4. -/
lemma embeddedHost_lt (cidrs : List String) (draw : ℕ × ℕ) :
    embeddedHost (cidrs.filterMap parseCidrV4) draw < 2 ^ 32 := by
  have hdraw : draw.2 % 2 ^ 32 < 2 ^ 32 := Nat.mod_lt _ (by decide)
  set v4 := cidrs.filterMap parseCidrV4 with hv4
  rw [embeddedHost]
  split
  · exact hdraw
  · have hb : (v4.getD (draw.1 % v4.length) (0, 0)).1 < 2 ^ 32 := by
      rw [List.getD_eq_getElem?_getD]
      cases hget : v4[draw.1 % v4.length]? with
      | none => exact Nat.two_pow_pos 32
      | some net =>
          obtain ⟨cidr, -, hparse⟩ := List.mem_filterMap.mp (hv4 ▸ List.mem_of_getElem? hget)
          exact parseCidrV4_lt hparse
    generalize v4.getD (draw.1 % v4.length) (0, 0) = net at hb
    refine Nat.or_lt_two_pow hb ?_
    by_cases hbits : 32 - net.2 = 0
    · rw [if_pos hbits]
      exact Nat.two_pow_pos 32
    · rw [if_neg hbits]
      exact Nat.lt_of_le_of_lt Nat.and_le_left hdraw

/-- A sampled host lies in its network: what is embedded is behind the network's bits. -/
lemma inCidrV6_of_mem_sample {cidr : String} (h : WellFormedV6 cidr) {n : ℕ}
    {v4Cidrs : List String} {draws : ℕ → ℕ × ℕ} {a : Ipv6Addr}
    (ha : a ∈ sampleCidrV6 cidr n v4Cidrs draws) : InCidrV6 cidr a := by
  obtain ⟨base, p, hparse, hp, hlt⟩ := h.network
  have hbits : 128 - p ≠ 0 := by omega
  simp only [sampleCidrV6, hparse, if_neg hbits, List.mem_map] at ha
  obtain ⟨i, -, rfl⟩ := ha
  have hhost := embeddedHost_lt v4Cidrs (draws i)
  generalize embeddedHost (v4Cidrs.filterMap parseCidrV4) (draws i) = e at hhost
  have hwide : e < 2 ^ (128 - p) :=
    Nat.lt_of_lt_of_le hhost (Nat.pow_le_pow_right (by decide) (by omega))
  have hfit : base ||| e < 2 ^ 128 :=
    Nat.or_lt_two_pow hlt (Nat.lt_trans hhost (by decide))
  refine ⟨base, p, hparse, ?_⟩
  rw [Ipv6Addr.toU128_ofU128 hfit, ← Nat.shiftRight_eq_div_pow, ← Nat.shiftRight_eq_div_pow,
    Nat.shiftRight_or_distrib, Nat.shiftRight_eq_div_pow e, Nat.div_eq_of_lt hwide, Nat.or_zero]

/-! ### What a scan aims at -/

/-- The seeds and the networks of a scan, as the source lists them, and how many hosts of a
network of IPv6 are tried where the strategy does not say. The lists are known to be in order. -/
structure Targets where
  seedsV4 : List String
  cidrsV4 : List String
  seedsV6 : List String
  cidrsV6 : List String
  perCidrV6 : ℕ
  wellFormedV4 : ∀ cidr ∈ cidrsV4, WellFormedV4 cidr
  wellFormedV6 : ∀ cidr ∈ cidrsV6, WellFormedV6 cidr
  nodupV4 : (seedsV4.filterMap Ipv4Addr.parse).Nodup
  nodupV6 : (seedsV6.filterMap Ipv6Addr.parse).Nodup

/-- `MASQUE_SEEDS`, `MASQUE_CIDRS_V4`, `MASQUE_SEEDS_V6` and `MASQUE_CIDRS_V6`. -/
def masque : Targets where
  seedsV4 := ["162.159.198.2", "162.159.198.1", "162.159.192.1", "162.159.193.1",
    "162.159.195.1", "162.159.196.1"]
  cidrsV4 := ["162.159.36.0/24", "162.159.46.0/24", "162.159.192.0/24", "162.159.193.0/24",
    "162.159.195.0/24", "162.159.196.0/24", "162.159.197.0/24", "162.159.198.0/24",
    "162.159.204.0/24", "172.65.251.0/24", "188.114.96.0/24", "188.114.97.0/24",
    "188.114.98.0/24", "188.114.99.0/24"]
  seedsV6 := ["2606:4700:d0::a29f:c602", "2606:4700:d1::a29f:c602", "2606:4700:d0::a29f:c601",
    "2606:4700:d0::a29f:c001"]
  cidrsV6 := ["2606:4700:d0::/48", "2606:4700:d1::/48", "2606:4700:102::/48"]
  perCidrV6 := 96
  wellFormedV4 := by decide +kernel
  wellFormedV6 := by decide +kernel
  nodupV4 := by decide +kernel
  nodupV6 := by decide +kernel

/-- `WG_SEEDS_V4`, `WG_PREFIXES_V4`, `WG_SEEDS_V6` and `WG_PREFIXES_V6`. -/
def wireguard : Targets where
  seedsV4 := ["162.159.192.1", "162.159.195.1", "188.114.96.1", "188.114.97.1"]
  cidrsV4 := ["162.159.192.0/24", "162.159.195.0/24", "188.114.96.0/24", "188.114.97.0/24",
    "188.114.98.0/24", "188.114.99.0/24"]
  seedsV6 := ["2606:4700:d0::a29f:c001", "2606:4700:d1::a29f:c001", "2606:4700:d0::a29f:c301",
    "2606:4700:d0::bc72:6001"]
  cidrsV6 := ["2606:4700:d0::/64", "2606:4700:d1::/64"]
  perCidrV6 := 80
  wellFormedV4 := by decide +kernel
  wellFormedV6 := by decide +kernel
  nodupV4 := by decide +kernel
  nodupV6 := by decide +kernel

/-- The fields of `Strategy` and `WgStrategy` that the list of candidates is made from. -/
structure Sampling where
  fullSubnet : Bool
  samplePerCidr : ℕ

/-- What the random generator gives for a network: to `sample_cidr_v4` and, for each of the
samples, to `sample_cidr_v6`. -/
structure Random where
  offsets : String → List ℕ
  embedded : String → ℕ → ℕ × ℕ

namespace Targets

variable (t : Targets) (st : Sampling) (ip : IpScan) (rnd : Random)

def seeds : List Ipv4Addr := t.seedsV4.filterMap Ipv4Addr.parse

def seeds6 : List Ipv6Addr := t.seedsV6.filterMap Ipv6Addr.parse

/-- The hosts that are generated for a network of IPv4. -/
def hostsV4 (st : Sampling) (rnd : Random) (cidr : String) : List Ipv4Addr :=
  if st.fullSubnet then enumerateCidrV4 cidr
  else sampleCidrV4 cidr st.samplePerCidr (rnd.offsets cidr)

/-- The hosts that are generated for a network of IPv6. -/
def hostsV6 (cidr : String) : List Ipv6Addr :=
  let per := if st.samplePerCidr = 0 then t.perCidrV6 else st.samplePerCidr
  sampleCidrV6 cidr per t.cidrsV4 (rnd.embedded cidr)

def cidrHosts : List (List Ipv4Addr) := t.cidrsV4.map (hostsV4 st rnd)

def cidr6 : List (List Ipv6Addr) := t.cidrsV6.map (t.hostsV6 st rnd)

/-- The seeds of the families that are wanted. -/
def anchors : List IpAddr :=
  (if ip.wantV4 then t.seeds.map .v4 else []) ++ if ip.wantV6 then t.seeds6.map .v6 else []

/-- The hosts that are generated for the families that are wanted, the first one of each
network, then the second ones, and so on. -/
def pool : List IpAddr :=
  (if ip.wantV4 then (columns (t.cidrHosts st rnd)).map .v4 else [])
    ++ if ip.wantV6 then (columns (t.cidr6 st rnd)).map .v6 else []

/-- A seed of a family that is wanted. -/
def IsSeed : IpAddr → Prop
  | .v4 a => ip.wantV4 = true ∧ a ∈ t.seeds
  | .v6 a => ip.wantV6 = true ∧ a ∈ t.seeds6

/-- A host that is generated for a network of a family that is wanted. -/
def Generates : IpAddr → Prop
  | .v4 a => ip.wantV4 = true ∧ ∃ cidr ∈ t.cidrsV4, a ∈ hostsV4 st rnd cidr
  | .v6 a => ip.wantV6 = true ∧ ∃ cidr ∈ t.cidrsV6, a ∈ t.hostsV6 st rnd cidr

/-- The address is of a family that is wanted, and a seed or in one of the networks. -/
def Wants : IpAddr → Prop
  | .v4 a => ip.wantV4 = true ∧ (a ∈ t.seeds ∨ ∃ cidr ∈ t.cidrsV4, InCidrV4 cidr a)
  | .v6 a => ip.wantV6 = true ∧ (a ∈ t.seeds6 ∨ ∃ cidr ∈ t.cidrsV6, InCidrV6 cidr a)

end Targets

/-- `build_candidates`: what its passes push, one after the other. -/
def buildCandidates (st : Sampling) (ports : List ℕ) (ip : IpScan) (rnd : Random) :
    List (IpAddr × ℕ) :=
  let primary := ports.head?.getD 443
  let others := ports.filter (· ≠ primary)
  let seedsV4 := masque.seeds.map IpAddr.v4
  let seedsV6 := masque.seeds6.map IpAddr.v6
  let hostsV4 := (columns (masque.cidrHosts st rnd)).map IpAddr.v4
  let hostsV6 := (columns (masque.cidr6 st rnd)).map IpAddr.v6
  pushAll [] <|
    (if ip.wantV4 then (seedsV4 ++ hostsV4).map (·, primary) else [])
      ++ (if ip.wantV6 then (seedsV6 ++ hostsV6).map (·, primary) else [])
      ++ (if ip.wantV4 then seedsV4.flatMap fun a => others.map (a, ·) else [])
      ++ (if ip.wantV6 then seedsV6.flatMap fun a => others.map (a, ·) else [])

/-- `build_wg_candidates`. -/
def buildWgCandidates (st : Sampling) (ports : List ℕ) (ip : IpScan) (rnd : Random) :
    List (IpAddr × ℕ) :=
  let deduped := pushAll [] ports
  let ports := if deduped.isEmpty then [2408] else deduped
  let ips := wireguard.anchors ip ++ wireguard.pool st ip rnd
  pushAll [] (ips.mapIdx fun idx a => (a, ports.getD (idx % ports.length) 0))

/-! ### What the lists have -/

section Wanted

variable {t : Targets} {st : Sampling} {ip : IpScan} {rnd : Random}

/-- What is generated for a network of IPv4 lies in it. -/
lemma inCidrV4_of_mem_hosts {cidr : String} (hcidr : cidr ∈ t.cidrsV4) {a : Ipv4Addr}
    (ha : a ∈ Targets.hostsV4 st rnd cidr) : InCidrV4 cidr a := by
  have hwell := t.wellFormedV4 cidr hcidr
  rw [Targets.hostsV4] at ha
  split at ha
  · exact inCidrV4_of_usable ((mem_enumerateCidrV4 hwell a).mp ha)
  · exact inCidrV4_of_mem_sample hwell ha

lemma mem_anchors {a : IpAddr} : a ∈ t.anchors ip ↔ t.IsSeed ip a := by
  rw [Targets.anchors, List.mem_append, List.mem_ite_nil_right, List.mem_ite_nil_right]
  cases a with
  | v4 a => simp [Targets.IsSeed]
  | v6 a => simp [Targets.IsSeed]

/-- The interleaving loses none of the hosts. -/
lemma mem_pool {a : IpAddr} : a ∈ t.pool st ip rnd ↔ t.Generates st ip rnd a := by
  rw [Targets.pool, List.mem_append, List.mem_ite_nil_right, List.mem_ite_nil_right,
    mem_map_columns, mem_map_columns, Targets.cidrHosts, Targets.cidr6]
  cases a with
  | v4 a => simp [Targets.Generates]
  | v6 a => simp [Targets.Generates]

lemma wants_of_isSeed {a : IpAddr} (h : t.IsSeed ip a) : t.Wants ip a := by
  cases a with
  | v4 a => exact ⟨h.1, .inl h.2⟩
  | v6 a => exact ⟨h.1, .inl h.2⟩

lemma wants_of_generates {a : IpAddr} (h : t.Generates st ip rnd a) : t.Wants ip a := by
  cases a with
  | v4 a =>
      obtain ⟨hwant, cidr, hcidr, ha⟩ := h
      exact ⟨hwant, .inr ⟨cidr, hcidr, inCidrV4_of_mem_hosts hcidr ha⟩⟩
  | v6 a =>
      obtain ⟨hwant, cidr, hcidr, ha⟩ := h
      exact ⟨hwant, .inr ⟨cidr, hcidr, inCidrV6_of_mem_sample (t.wellFormedV6 cidr hcidr) ha⟩⟩

lemma nodup_anchors (t : Targets) (ip : IpScan) : (t.anchors ip).Nodup := by
  have h4 : (t.seeds.map IpAddr.v4).Nodup :=
    t.nodupV4.map fun _ _ h => IpAddr.v4.inj h
  have h6 : (t.seeds6.map IpAddr.v6).Nodup :=
    t.nodupV6.map fun _ _ h => IpAddr.v6.inj h
  have hdisjoint : ∀ a ∈ t.seeds.map IpAddr.v4, ∀ b ∈ t.seeds6.map IpAddr.v6, a ≠ b := by
    intro a ha b hb heq
    obtain ⟨x, -, rfl⟩ := List.mem_map.mp ha
    obtain ⟨y, -, rfl⟩ := List.mem_map.mp hb
    cases heq
  rw [Targets.anchors]
  cases ip.wantV4 <;> cases ip.wantV6
  · exact List.nodup_nil
  · exact h6
  · exact (List.append_nil _).symm ▸ h4
  · exact List.nodup_append.mpr ⟨h4, h6, hdisjoint⟩

/-- All usable hosts are generated where the networks are enumerated. -/
lemma generates_of_usable (hfull : st.fullSubnet = true) (hwant : ip.wantV4 = true)
    {cidr : String} (hcidr : cidr ∈ t.cidrsV4) {a : Ipv4Addr} (ha : UsableHost cidr a) :
    t.Generates st ip rnd (.v4 a) := by
  refine ⟨hwant, cidr, hcidr, ?_⟩
  rw [Targets.hostsV4, if_pos hfull]
  exact (mem_enumerateCidrV4 (t.wellFormedV4 cidr hcidr) a).mpr ha

end Wanted

/-- Nothing is in the list twice, every port in it was given, and every address was wanted. -/
structure Sound (t : Targets) (given : List ℕ) (ip : IpScan) (out : List (IpAddr × ℕ)) : Prop where
  nodup : out.Nodup
  port : ∀ x ∈ out, x.2 ∈ given
  wanted : ∀ x ∈ out, t.Wants ip x.1

/-- The ports that were given, or the one that stands for none. -/
def portsOr (default : ℕ) (ports : List ℕ) : List ℕ := if ports = [] then [default] else ports

/-- What `build_candidates` is to give: the seeds of IPv4 on the first port come first, every seed
is there on every port and, where whole networks are scanned, so is every usable host of IPv4 on
the first port. -/
structure Candidates (st : Sampling) (ports : List ℕ) (ip : IpScan) (out : List (IpAddr × ℕ)) : Prop
    extends Sound masque (portsOr 443 ports) ip out where
  seedsFirst : ip.wantV4 = true →
    masque.seeds.map (fun a => (IpAddr.v4 a, ports.head?.getD 443)) <+: out
  seeds : ∀ a, masque.IsSeed ip a → ∀ port ∈ portsOr 443 ports, (a, port) ∈ out
  hosts : st.fullSubnet = true → ip.wantV4 = true → ∀ cidr ∈ masque.cidrsV4, ∀ a,
    UsableHost cidr a → (IpAddr.v4 a, ports.head?.getD 443) ∈ out

/-- What `build_wg_candidates` is to give: the seeds come first, those of IPv4 in front, each one
once, then hosts that were generated. Each seed and each generated host is there and so, where
whole networks are scanned, is every usable host of IPv4. -/
structure WgCandidates (st : Sampling) (ports : List ℕ) (ip : IpScan) (rnd : Random)
    (out : List (IpAddr × ℕ)) : Prop extends Sound wireguard (portsOr 2408 ports) ip out where
  seedsFirst : ∃ front rest, out = front ++ rest
    ∧ front.map Prod.fst = (if ip.wantV4 then wireguard.seeds.map .v4 else [])
      ++ (if ip.wantV6 then wireguard.seeds6.map .v6 else [])
    ∧ (front.map Prod.fst).Nodup
    ∧ ∀ x ∈ rest, wireguard.Generates st ip rnd x.1
  seeds : ∀ a, wireguard.IsSeed ip a → ∃ port, (a, port) ∈ out
  generated : ∀ a, wireguard.Generates st ip rnd a → ∃ port, (a, port) ∈ out
  hosts : st.fullSubnet = true → ip.wantV4 = true → ∀ cidr ∈ wireguard.cidrsV4, ∀ a,
    UsableHost cidr a → ∃ port, (IpAddr.v4 a, port) ∈ out

lemma head_mem_portsOr (default : ℕ) (ports : List ℕ) :
    ports.head?.getD default ∈ portsOr default ports := by
  cases ports with
  | nil => exact List.mem_singleton_self default
  | cons p ps => exact List.mem_cons_self

section

variable {st : Sampling} {ports : List ℕ} {ip : IpScan} {rnd : Random}

/-- All addresses are there on the first port, and the seeds on the other ones as well. -/
lemma mem_buildCandidates {a : IpAddr} {port : ℕ} :
    (a, port) ∈ buildCandidates st ports ip rnd
      ↔ ((masque.IsSeed ip a ∨ masque.Generates st ip rnd a) ∧ port = ports.head?.getD 443)
        ∨ (masque.IsSeed ip a ∧ port ∈ ports ∧ port ≠ ports.head?.getD 443) := by
  have hfirst : ∀ l : List IpAddr, (a, port) ∈ l.map (·, ports.head?.getD 443)
      ↔ a ∈ l ∧ port = ports.head?.getD 443 := by
    intro l
    rw [List.mem_map]
    constructor
    · rintro ⟨b, hb, heq⟩
      obtain ⟨rfl, rfl⟩ := Prod.mk.inj heq
      exact ⟨hb, rfl⟩
    · rintro ⟨ha, rfl⟩
      exact ⟨a, ha, rfl⟩
  have hothers : ∀ l : List IpAddr,
      ((a, port) ∈ l.flatMap fun b => (ports.filter (· ≠ ports.head?.getD 443)).map (b, ·))
        ↔ a ∈ l ∧ port ∈ ports ∧ port ≠ ports.head?.getD 443 := by
    intro l
    simp only [List.mem_flatMap, List.mem_map, List.mem_filter, decide_eq_true_eq]
    constructor
    · rintro ⟨b, hb, q, hq, heq⟩
      obtain ⟨rfl, rfl⟩ := Prod.mk.inj heq
      exact ⟨hb, hq⟩
    · rintro ⟨ha, hport⟩
      exact ⟨a, ha, port, hport, rfl⟩
  rw [← mem_anchors, ← mem_pool]
  simp only [buildCandidates, mem_pushAll, List.not_mem_nil, false_or, Targets.anchors,
    Targets.pool, List.mem_append, List.mem_ite_nil_right, hfirst, hothers]
  generalize masque.seeds.map IpAddr.v4 = seedsV4
  generalize masque.seeds6.map IpAddr.v6 = seedsV6
  generalize (columns (masque.cidrHosts st rnd)).map IpAddr.v4 = hostsV4
  generalize (columns (masque.cidr6 st rnd)).map IpAddr.v6 = hostsV6
  grind

/-- The seeds of IPv4 on the first port come first. -/
lemma seeds_isPrefix_buildCandidates (hwant : ip.wantV4 = true) :
    masque.seeds.map (fun a => (IpAddr.v4 a, ports.head?.getD 443))
      <+: buildCandidates st ports ip rnd := by
  have hnodup : (masque.seeds.map fun a => (IpAddr.v4 a, ports.head?.getD 443)).Nodup :=
    masque.nodupV4.map fun _ _ h => IpAddr.v4.inj (Prod.mk.inj h).1
  simp only [buildCandidates, hwant, if_true, List.map_append, List.append_assoc, List.map_map,
    Function.comp_def]
  obtain ⟨rest, hrest, -⟩ := pushAll_nil_append hnodup _
  exact ⟨rest, hrest.symm⟩

/-- **The list of candidates** has nothing twice, nothing that was not wanted, and all seeds and
hosts. -/
lemma buildCandidates_spec (st : Sampling) (ports : List ℕ) (ip : IpScan) (rnd : Random) :
    Candidates st ports ip (buildCandidates st ports ip rnd) := by
  refine ⟨⟨?_, ?_, ?_⟩, ?_, ?_, ?_⟩
  · exact nodup_pushAll List.nodup_nil _
  · rintro ⟨a, port⟩ hx
    rcases mem_buildCandidates.mp hx with ⟨-, rfl⟩ | ⟨-, hport, -⟩
    · exact head_mem_portsOr 443 ports
    · rw [portsOr, if_neg (List.ne_nil_of_mem hport)]
      exact hport
  · rintro ⟨a, port⟩ hx
    rcases mem_buildCandidates.mp hx with ⟨hseed | hhost, -⟩ | ⟨hseed, -, -⟩
    · exact wants_of_isSeed hseed
    · exact wants_of_generates hhost
    · exact wants_of_isSeed hseed
  · exact seeds_isPrefix_buildCandidates
  · intro a ha port hport
    rw [mem_buildCandidates]
    by_cases hprimary : port = ports.head?.getD 443
    · exact .inl ⟨.inl ha, hprimary⟩
    · refine .inr ⟨ha, ?_, hprimary⟩
      rw [portsOr] at hport
      split at hport
      · rename_i hnil
        rw [hnil] at hprimary
        exact absurd (List.mem_singleton.mp hport) hprimary
      · exact hport
  · intro hfull hwant cidr hcidr a ha
    exact mem_buildCandidates.mpr (.inl ⟨.inr (generates_of_usable hfull hwant hcidr ha), rfl⟩)

/-- The addresses with the ports that rotate over them. -/
def rotated (given : List ℕ) (ips : List IpAddr) : List (IpAddr × ℕ) :=
  ips.mapIdx fun idx a => (a, given.getD (idx % given.length) 0)

lemma map_fst_rotated (given : List ℕ) (ips : List IpAddr) :
    (rotated given ips).map Prod.fst = ips := by
  refine List.ext_getElem ?_ ?_
  · rw [List.length_map, rotated, List.length_mapIdx]
  · intro i _ _
    simp only [rotated, List.getElem_map, List.getElem_mapIdx]

/-- What follows goes on with the ports. -/
lemma rotated_append (given : List ℕ) (front back : List IpAddr) :
    ∃ rest, rotated given (front ++ back) = rotated given front ++ rest
      ∧ rest.map Prod.fst = back := by
  have happend : rotated given (front ++ back) = rotated given front ++ back.mapIdx
      fun i a => (a, given.getD ((i + front.length) % given.length) 0) := List.mapIdx_append
  refine ⟨_, happend, ?_⟩
  have hmap := map_fst_rotated given (front ++ back)
  rw [happend, List.map_append, map_fst_rotated] at hmap
  exact List.append_cancel_left hmap

lemma snd_mem_of_mem_rotated {given : List ℕ} (hne : given ≠ []) {ips : List IpAddr}
    {x : IpAddr × ℕ} (hx : x ∈ rotated given ips) : x.2 ∈ given := by
  obtain ⟨idx, hidx, rfl⟩ := List.mem_mapIdx.mp hx
  have hlt : idx % given.length < given.length :=
    Nat.mod_lt _ (List.length_pos_of_ne_nil hne)
  simp only [List.getD_eq_getElem?_getD, List.getElem?_eq_getElem hlt, Option.getD_some]
  exact List.getElem_mem hlt

/-- The ports of `build_wg_candidates`, each one once. -/
def wgPorts (ports : List ℕ) : List ℕ :=
  if (pushAll [] ports).isEmpty then [2408] else pushAll [] ports

lemma wgPorts_ne_nil (ports : List ℕ) : wgPorts ports ≠ [] := by
  rw [wgPorts]
  split
  · exact List.cons_ne_nil _ _
  · rename_i hne
    exact fun hnil => hne (List.isEmpty_iff.mpr hnil)

lemma mem_portsOr_of_mem_wgPorts {port : ℕ} (h : port ∈ wgPorts ports) :
    port ∈ portsOr 2408 ports := by
  have hmem : ∀ p, p ∈ pushAll [] ports ↔ p ∈ ports := by
    intro p
    rw [mem_pushAll, or_iff_right List.not_mem_nil]
  rw [wgPorts] at h
  split at h
  · rename_i hempty
    have hnil : ports = [] := by
      refine List.eq_nil_iff_forall_not_mem.mpr fun p hp => ?_
      have hp' := (hmem p).mpr hp
      rw [List.isEmpty_iff.mp hempty] at hp'
      exact List.not_mem_nil hp'
    rw [portsOr, if_pos hnil]
    exact h
  · rw [portsOr, if_neg (List.ne_nil_of_mem ((hmem port).mp h))]
    exact (hmem port).mp h

lemma buildWgCandidates_eq : buildWgCandidates st ports ip rnd
    = pushAll [] (rotated (wgPorts ports) (wireguard.anchors ip ++ wireguard.pool st ip rnd)) :=
  rfl

lemma mem_buildWgCandidates {x : IpAddr × ℕ} :
    x ∈ buildWgCandidates st ports ip rnd
      ↔ x ∈ rotated (wgPorts ports) (wireguard.anchors ip ++ wireguard.pool st ip rnd) := by
  rw [buildWgCandidates_eq, mem_pushAll, or_iff_right List.not_mem_nil]

/-- Every address that the builder goes over is in its list, and no other. -/
lemma exists_mem_buildWgCandidates {a : IpAddr} :
    (∃ port, (a, port) ∈ buildWgCandidates st ports ip rnd)
      ↔ wireguard.IsSeed ip a ∨ wireguard.Generates st ip rnd a := by
  rw [← mem_anchors, ← mem_pool, ← List.mem_append]
  constructor
  · rintro ⟨port, hx⟩
    have hmem := List.mem_map_of_mem (f := Prod.fst) (mem_buildWgCandidates.mp hx)
    rwa [map_fst_rotated] at hmem
  · intro ha
    rw [← map_fst_rotated (wgPorts ports) (_ ++ _)] at ha
    obtain ⟨x, hx, rfl⟩ := List.mem_map.mp ha
    exact ⟨x.2, mem_buildWgCandidates.mpr hx⟩

/-- **The list for WireGuard** has nothing twice, nothing that was not wanted, and all seeds and
hosts. -/
lemma buildWgCandidates_spec (st : Sampling) (ports : List ℕ) (ip : IpScan) (rnd : Random) :
    WgCandidates st ports ip rnd (buildWgCandidates st ports ip rnd) := by
  refine ⟨⟨?_, ?_, ?_⟩, ?_, ?_, ?_, ?_⟩
  · exact nodup_pushAll List.nodup_nil _
  · intro x hx
    exact mem_portsOr_of_mem_wgPorts
      (snd_mem_of_mem_rotated (wgPorts_ne_nil ports) (mem_buildWgCandidates.mp hx))
  · intro x hx
    exact (exists_mem_buildWgCandidates.mp ⟨x.2, hx⟩).elim wants_of_isSeed wants_of_generates
  · obtain ⟨back, hback, hpool⟩ := rotated_append (wgPorts ports) (wireguard.anchors ip)
      (wireguard.pool st ip rnd)
    have hnodup : (rotated (wgPorts ports) (wireguard.anchors ip)).Nodup := by
      refine List.Nodup.of_map Prod.fst ?_
      rw [map_fst_rotated]
      exact nodup_anchors wireguard ip
    obtain ⟨rest, hrest, hmem⟩ := pushAll_nil_append hnodup back
    refine ⟨rotated (wgPorts ports) (wireguard.anchors ip), rest, ?_, map_fst_rotated _ _, ?_, ?_⟩
    · rw [buildWgCandidates_eq, hback, hrest]
    · rw [map_fst_rotated]
      exact nodup_anchors wireguard ip
    · intro x hx
      rw [← mem_pool, ← hpool]
      exact List.mem_map_of_mem (hmem x hx)
  · exact fun a ha => exists_mem_buildWgCandidates.mpr (.inl ha)
  · exact fun a ha => exists_mem_buildWgCandidates.mpr (.inr ha)
  · intro hfull hwant cidr hcidr a ha
    exact exists_mem_buildWgCandidates.mpr (.inr (generates_of_usable hfull hwant hcidr ha))

end

/-- **Both lists** have nothing twice and nothing that was not wanted, the seeds in front, and all
that was to be in them. -/
theorem candidates_spec (st : Sampling) (ports : List ℕ) (ip : IpScan) (rnd : Random) :
    Candidates st ports ip (buildCandidates st ports ip rnd)
      ∧ WgCandidates st ports ip rnd (buildWgCandidates st ports ip rnd) :=
  ⟨buildCandidates_spec st ports ip rnd, buildWgCandidates_spec st ports ip rnd⟩

/-- A scan of whole networks that does not want IPv4 has none of its hosts. -/
theorem usable_host_left_out : UsableHost "162.159.36.0/24" (.new 162 159 36 1)
    ∧ "162.159.36.0/24" ∈ masque.cidrsV4
    ∧ (IpAddr.v4 (.new 162 159 36 1), 443)
      ∉ buildCandidates ⟨true, 0⟩ [443] .v6 ⟨fun _ => [], fun _ _ => (0, 0)⟩ := by
  refine ⟨⟨2728338432, 24, by decide +kernel, by decide +kernel, by decide +kernel,
    by decide +kernel⟩, List.mem_cons_self, ?_⟩
  intro hmem
  have hwants : masque.Wants .v6 (.v4 (.new 162 159 36 1)) := by
    rcases mem_buildCandidates.mp hmem with ⟨hseed | hhost, -⟩ | ⟨hseed, -, -⟩
    · exact wants_of_isSeed hseed
    · exact wants_of_generates hhost
    · exact wants_of_isSeed hseed
  exact absurd hwants.1 (by decide)

end Prober

end Aether
