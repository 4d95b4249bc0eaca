import Aether.Error
import Aether.Net
import Mathlib.Data.Option.Basic

/-!
The addresses of the netstack's interface: the configuration of `netstack::spawn`,
`apply_addrs`, and the bridge of `run_masque_tunnel` that turns every address the
edge assigns into one `Cmd::SetAddrs`.

`apply_addrs` rebuilds the address list from one command, and the bridge names one
family per command.

* `setAddrs_eq_some`: what one bridged address leaves on the interface, itself and
  nothing else.
* `syncAddrs_cons_eq_some`: after a nonempty sequence only the last address is left.
* `syncAddrs_keeps_families_iff`: the interface holds the newest address of each
  family exactly when the sequence is empty, or stays in one family of acceptable
  addresses and the other family was not configured.
-/

namespace Aether.Netstack

/-- What `Interface::update_ip_addrs` of smoltcp accepts without a panic: the
documented condition is that every address is unicast or unspecified. -/
abbrev AddrCheck := IpAddr → Bool

/-- `smoltcp::wire::IpCidr`. -/
structure IpCidr where
  address : IpAddr
  prefixLen : UInt8
  deriving DecidableEq

/-- `IpCidr::new`, which panics (`none`) on a prefix longer than the address. -/
def IpCidr.new (address : IpAddr) (prefixLen : UInt8) : Option IpCidr :=
  match address with
  | .v4 _ => if prefixLen ≤ 32 then some ⟨address, prefixLen⟩ else none
  | .v6 _ => if prefixLen ≤ 128 then some ⟨address, prefixLen⟩ else none

/-- The part of `smoltcp::iface::Interface` that `apply_addrs` writes. -/
structure Interface where
  ipAddrs : List IpCidr
  defaultV4 : Option Ipv4Addr
  defaultV6 : Option Ipv6Addr
  deriving DecidableEq

/-- A fresh interface. -/
def Interface.new : Interface := ⟨[], none, none⟩

def routablePrefixV4 (p : UInt8) : UInt8 := if p ≥ 31 then 24 else p

def routablePrefixV6 (p : UInt8) : UInt8 := if p ≥ 127 then 64 else p

/-- The last octet of the invented gateway: `2` behind a `1`, else `1`. -/
def gatewayHost (last : UInt8) : UInt8 := if last = 1 then 2 else 1

def gatewayV4 (ip : Ipv4Addr) : Ipv4Addr :=
  ⟨ip.octets.take 3 ++ [gatewayHost (ip.octets.getD 3 0)], by
    have := ip.len; simp; omega⟩

def gatewayV6 (ip : Ipv6Addr) : Ipv6Addr :=
  ⟨ip.octets.take 15 ++ [gatewayHost (ip.octets.getD 15 0)], by
    have := ip.len; simp; omega⟩

/-- `apply_addrs`; `none` is a panic. The address list is cleared and rebuilt from
the two arguments. -/
def applyAddrs (accepts : AddrCheck) (iface : Interface) (v4 : Option (Ipv4Addr × UInt8))
    (v6 : Option (Ipv6Addr × UInt8)) : Option Interface := do
  let a4 ← match v4 with
    | some (ip, p) => (IpCidr.new (.v4 ip) (routablePrefixV4 p)).map ([·])
    | none => some []
  let a6 ← match v6 with
    | some (ip, p) => (IpCidr.new (.v6 ip) (routablePrefixV6 p)).map ([·])
    | none => some []
  if (a4 ++ a6).all fun c => accepts c.address then
    some
      { ipAddrs := a4 ++ a6
        defaultV4 := match v4 with
          | some (ip, _) => some (gatewayV4 ip)
          | none => iface.defaultV4
        defaultV6 := match v6 with
          | some (ip, _) => some (gatewayV6 ip)
          | none => iface.defaultV6 }
  else none

lemma routablePrefixV4_le (p : UInt8) : routablePrefixV4 p ≤ 32 := by
  rw [routablePrefixV4]
  split
  · decide
  · rename_i h
    rw [ge_iff_le, UInt8.le_iff_toNat_le] at h
    rw [UInt8.le_iff_toNat_le]
    simp only [UInt8.reduceToNat] at h ⊢
    omega

lemma routablePrefixV6_le (p : UInt8) : routablePrefixV6 p ≤ 128 := by
  rw [routablePrefixV6]
  split
  · decide
  · rename_i h
    rw [ge_iff_le, UInt8.le_iff_toNat_le] at h
    rw [UInt8.le_iff_toNat_le]
    simp only [UInt8.reduceToNat] at h ⊢
    omega

/-- The addresses of a command, `v4` first. -/
def wanted (v4 : Option (Ipv4Addr × UInt8)) (v6 : Option (Ipv6Addr × UInt8)) : List IpAddr :=
  (v4.map fun a => IpAddr.v4 a.1).toList ++ (v6.map fun a => IpAddr.v6 a.1).toList

/-- The routable prefixes keep `IpCidr::new` from panicking, so `apply_addrs` panics
only on an address `update_ip_addrs` does not accept, and else holds exactly the
addresses of the command. -/
lemma applyAddrs_eq_some (accepts : AddrCheck) (iface : Interface)
    (v4 : Option (Ipv4Addr × UInt8)) (v6 : Option (Ipv6Addr × UInt8)) :
    (∃ i, applyAddrs accepts iface v4 v6 = some i) ↔ ∀ ip ∈ wanted v4 v6, accepts ip := by
  have h4 := routablePrefixV4_le
  have h6 := routablePrefixV6_le
  rcases v4 with _ | ⟨a, p⟩ <;> rcases v6 with _ | ⟨b, q⟩ <;>
    simp [applyAddrs, wanted, IpCidr.new, h4, h6]

lemma applyAddrs_addresses {accepts : AddrCheck} {iface i : Interface}
    {v4 : Option (Ipv4Addr × UInt8)} {v6 : Option (Ipv6Addr × UInt8)}
    (h : applyAddrs accepts iface v4 v6 = some i) :
    i.ipAddrs.map IpCidr.address = wanted v4 v6 := by
  have h4 := routablePrefixV4_le
  have h6 := routablePrefixV6_le
  rcases v4 with _ | ⟨a, p⟩ <;> rcases v6 with _ | ⟨b, q⟩ <;>
    simp [applyAddrs, IpCidr.new, h4, h6] at h
  · subst h; rfl
  · obtain ⟨_, rfl⟩ := h; rfl
  · obtain ⟨_, rfl⟩ := h; rfl
  · obtain ⟨_, rfl⟩ := h; rfl

/-! ### The initial configuration -/

section Spawn

/-- `strip_cidr`: the text before the first slash. -/
def stripCidr (s : String) : String := String.ofList (s.toList.takeWhile (· ≠ '/'))

/-- `str::parse::<u8>`: an optional plus sign and decimal digits, at most `255`. -/
def parseU8 (cs : List Char) : Option UInt8 :=
  let digits := match cs with
    | '+' :: t => t
    | _ => cs
  if digits ≠ [] ∧ digits.all Char.isDigit then
    let n := digits.foldl (fun acc c => acc * 10 + (c.toNat - '0'.toNat)) 0
    if n ≤ 255 then some (UInt8.ofNat n) else none
  else none

/-- `cidr_prefix`: the number behind the first slash, if there is a slash and a
number. -/
def cidrPrefix (s : String) : Option UInt8 :=
  match s.toList.dropWhile (· ≠ '/') with
  | [] => none
  | _ :: p => parseU8 p

/-- The address parsers of the standard library, which `spawn` calls. -/
structure AddrParsers where
  v4 : String → Option Ipv4Addr
  v6 : String → Option Ipv6Addr

variable (parse : AddrParsers)

def parseV4 (s : String) : Except AetherError (Option (Ipv4Addr × UInt8)) :=
  if s.isEmpty then .ok none
  else match parse.v4 (stripCidr s) with
    | some ip => .ok (some (ip, (cidrPrefix s).getD 32))
    | none => .error (.other s!"bad ipv4 {s}")

def parseV6 (s : String) : Except AetherError (Option (Ipv6Addr × UInt8)) :=
  if s.isEmpty then .ok none
  else match parse.v6 (stripCidr s) with
    | some ip => .ok (some (ip, (cidrPrefix s).getD 128))
    | none => .error (.other s!"bad ipv6 {s}")

/-- The interface `netstack::spawn` sets up; `none` is a panic. -/
def spawnIface (accepts : AddrCheck) (ipv4 ipv6 : String) :
    Option (Except AetherError Interface) :=
  match parseV4 parse ipv4 with
  | .error e => some (.error e)
  | .ok v4 =>
      match parseV6 parse ipv6 with
      | .error e => some (.error e)
      | .ok v6 => (applyAddrs accepts Interface.new v4 v6).map .ok

end Spawn

/-! ### The bridge from the edge -/

/-- `quic::AssignedAddr`. -/
structure AssignedAddr where
  ip : IpAddr
  prefixLen : UInt8
  deriving DecidableEq

/-- The arguments the bridge of `run_masque_tunnel` gives to `set_addrs`. -/
def bridge (a : AssignedAddr) : Option (Ipv4Addr × UInt8) × Option (Ipv6Addr × UInt8) :=
  match a.ip with
  | .v4 v4 => (some (v4, a.prefixLen), none)
  | .v6 v6 => (none, some (v6, a.prefixLen))

/-- One assigned address through the bridge and `Cmd::SetAddrs`. -/
def setAddrs (accepts : AddrCheck) (iface : Interface) (a : AssignedAddr) : Option Interface :=
  applyAddrs accepts iface (bridge a).1 (bridge a).2

/-- A sequence of assigned addresses, in order; `none` when the netstack panicked. -/
def syncAddrs (accepts : AddrCheck) (iface : Interface) (as : List AssignedAddr) :
    Option Interface :=
  as.foldlM (setAddrs accepts) iface

/-- The address of a family the interface holds. -/
def Interface.held (i : Interface) (f : Family) : Option IpAddr :=
  (i.ipAddrs.map IpCidr.address).find? fun ip => ip.family = f

/-- The address of a family after a sequence of assignments: the newest one of the
family, or the one the interface was set up with. -/
def newest (initial : Option IpAddr) (f : Family) (as : List AssignedAddr) : Option IpAddr :=
  match (as.reverse.map AssignedAddr.ip).find? fun ip => ip.family = f with
  | some ip => some ip
  | none => initial

section Sync

variable {accepts : AddrCheck}

lemma wanted_bridge (a : AssignedAddr) : wanted (bridge a).1 (bridge a).2 = [a.ip] := by
  obtain ⟨ip, p⟩ := a
  cases ip <;> rfl

/-- One bridged address is accepted or panics the netstack, and it is all that is
left on the interface. -/
lemma setAddrs_eq_some {iface i : Interface} {a : AssignedAddr}
    (h : setAddrs accepts iface a = some i) :
    accepts a.ip ∧ i.ipAddrs.map IpCidr.address = [a.ip] := by
  have hw := (applyAddrs_eq_some accepts iface (bridge a).1 (bridge a).2).mp ⟨i, h⟩
  rw [wanted_bridge] at hw
  exact ⟨hw a.ip List.mem_cons_self, (applyAddrs_addresses h).trans (wanted_bridge a)⟩

lemma exists_setAddrs (iface : Interface) {a : AssignedAddr} (h : accepts a.ip) :
    ∃ i, setAddrs accepts iface a = some i := by
  refine (applyAddrs_eq_some accepts iface _ _).mpr ?_
  rw [wanted_bridge]
  intro ip hip
  rw [List.mem_singleton.mp hip]
  exact h

/-- After a nonempty sequence every address was accepted and the last one is all the
interface holds. -/
lemma syncAddrs_concat_eq_some {iface i : Interface} {as : List AssignedAddr} {a : AssignedAddr}
    (h : syncAddrs accepts iface (as ++ [a]) = some i) :
    (∀ b ∈ as ++ [a], accepts b.ip) ∧ i.ipAddrs.map IpCidr.address = [a.ip] := by
  induction as generalizing iface with
  | nil =>
      rw [List.nil_append, syncAddrs, List.foldlM_cons] at h
      obtain ⟨j, hj, hi⟩ := Option.bind_eq_some_iff.mp h
      rw [List.foldlM_nil] at hi
      cases hi
      obtain ⟨hacc, haddr⟩ := setAddrs_eq_some hj
      exact ⟨fun b hb => List.mem_singleton.mp hb ▸ hacc, haddr⟩
  | cons b bs ih =>
      rw [List.cons_append, syncAddrs, List.foldlM_cons] at h
      obtain ⟨j, hj, hi⟩ := Option.bind_eq_some_iff.mp h
      obtain ⟨hacc, haddr⟩ := ih hi
      refine ⟨?_, haddr⟩
      intro c hc
      rcases List.mem_cons.mp hc with rfl | hc
      · exact (setAddrs_eq_some hj).1
      · exact hacc c hc

lemma exists_syncAddrs (iface : Interface) {as : List AssignedAddr}
    (h : ∀ b ∈ as, accepts b.ip) : ∃ i, syncAddrs accepts iface as = some i := by
  induction as generalizing iface with
  | nil => exact ⟨iface, rfl⟩
  | cons b bs ih =>
      obtain ⟨j, hj⟩ := exists_setAddrs iface (h b List.mem_cons_self)
      obtain ⟨i, hi⟩ := ih j fun c hc => h c (List.mem_cons_of_mem _ hc)
      exact ⟨i, by rw [syncAddrs, List.foldlM_cons, hj]; exact hi⟩

/-- The interface holds the last address of a nonempty sequence, in its own family
only. -/
lemma held_syncAddrs {iface i : Interface} {as : List AssignedAddr} {a : AssignedAddr}
    (h : syncAddrs accepts iface (as ++ [a]) = some i) (f : Family) :
    i.held f = if a.ip.family = f then some a.ip else none := by
  rw [Interface.held, (syncAddrs_concat_eq_some h).2, List.find?_cons]
  by_cases hf : a.ip.family = f <;> simp [hf]

lemma newest_concat_self (initial : Option IpAddr) (as : List AssignedAddr) (a : AssignedAddr) :
    newest initial a.ip.family (as ++ [a]) = some a.ip := by
  simp [newest]

/-- No address of a family is due exactly when none was assigned and none was set
up. -/
lemma newest_eq_none {initial : Option IpAddr} {f : Family} {as : List AssignedAddr} :
    newest initial f as = none ↔ (∀ a ∈ as, a.ip.family ≠ f) ∧ initial = none := by
  rw [newest]
  cases h : (as.reverse.map AssignedAddr.ip).find? fun ip => ip.family = f with
  | some ip =>
      obtain ⟨a, ha, rfl⟩ : ∃ a ∈ as, a.ip = ip := by
        simpa using List.mem_of_find?_eq_some h
      have hf : a.ip.family = f := by simpa using List.find?_some h
      simp only [reduceCtorEq, false_iff, not_and]
      exact fun hall => absurd hf (hall a ha)
  | none =>
      rw [List.find?_eq_none] at h
      have hall : ∀ a ∈ as, a.ip.family ≠ f := by simpa using h
      exact (and_iff_right hall).symm

end Sync

/-- The configuration text of a family. -/
def configText (ipv4 ipv6 : String) : Family → String
  | .v4 => ipv4
  | .v6 => ipv6

/-- There is no address exactly where there is no text. -/
lemma eq_none_of_text {α : Type} {s : String} {r : Except AetherError (Option α)} {v : Option α}
    (h : (if s.isEmpty then .ok none else r) = .ok v) (hr : r ≠ .ok none) :
    v = none ↔ s = "" := by
  split at h
  · rename_i hempty
    cases h
    exact iff_of_true rfl (String.isEmpty_iff.mp hempty)
  · rename_i hempty
    refine iff_of_false ?_ fun hs => hempty (String.isEmpty_iff.mpr hs)
    rintro rfl
    exact hr h

/-- A configured interface holds an address of a family exactly when the text of the
family is not empty. -/
lemma held_spawnIface_eq_none {parse : AddrParsers} {accepts : AddrCheck} {ipv4 ipv6 : String}
    {iface : Interface} (h : spawnIface parse accepts ipv4 ipv6 = some (.ok iface)) (f : Family) :
    iface.held f = none ↔ configText ipv4 ipv6 f = "" := by
  rw [spawnIface] at h
  cases h4 : parseV4 parse ipv4 with
  | error e => simp [h4] at h
  | ok v4 =>
      cases h6 : parseV6 parse ipv6 with
      | error e => simp [h4, h6] at h
      | ok v6 =>
          simp only [h4, h6, Option.map_eq_some_iff, Except.ok.injEq, exists_eq_right] at h
          rw [Interface.held, applyAddrs_addresses h]
          cases f with
          | v4 =>
              have hnone : v4 = none ↔ ipv4 = "" := by
                refine eq_none_of_text h4 ?_
                split <;> nofun
              rw [configText, ← hnone]
              cases v4 <;> cases v6 <;> simp [wanted, IpAddr.family]
          | v6 =>
              have hnone : v6 = none ↔ ipv6 = "" := by
                refine eq_none_of_text h6 ?_
                split <;> nofun
              rw [configText, ← hnone]
              cases v4 <;> cases v6 <;> simp [wanted, IpAddr.family]

/-- **Exactly when address synchronisation keeps both families**: the netstack
survives the sequence with the newest address of each family on its interface if and
only if nothing was assigned, or all assigned addresses are acceptable addresses of
one family and the configuration has no address of the other. -/
theorem syncAddrs_keeps_families_iff (parse : AddrParsers) (accepts : AddrCheck)
    (ipv4 ipv6 : String) (iface : Interface)
    (hspawn : spawnIface parse accepts ipv4 ipv6 = some (.ok iface)) (as : List AssignedAddr) :
    (∃ i, syncAddrs accepts iface as = some i ∧ ∀ f, i.held f = newest (iface.held f) f as)
      ↔ as = [] ∨ ∃ f, (∀ a ∈ as, a.ip.family = f ∧ accepts a.ip)
          ∧ configText ipv4 ipv6 f.other = "" := by
  simp only [← held_spawnIface_eq_none hspawn]
  rcases List.eq_nil_or_concat' as with rfl | ⟨bs, a, rfl⟩
  · exact ⟨fun _ => Or.inl rfl, fun _ => ⟨iface, rfl, fun f => rfl⟩⟩
  · rw [or_iff_right (by simp)]
    constructor
    · rintro ⟨i, hi, hheld⟩
      have hacc := (syncAddrs_concat_eq_some hi).1
      have hother : newest (iface.held a.ip.family.other) a.ip.family.other (bs ++ [a]) = none := by
        rw [← hheld, held_syncAddrs hi, if_neg (Family.other_ne _).symm]
      obtain ⟨hnone, hinit⟩ := newest_eq_none.mp hother
      refine ⟨a.ip.family, fun b hb => ⟨?_, hacc b hb⟩, hinit⟩
      exact (Family.eq_or_eq_other a.ip.family b.ip.family).resolve_right (hnone b hb)
    · rintro ⟨f, hall, hinit⟩
      obtain ⟨i, hi⟩ := exists_syncAddrs iface fun b hb => (hall b hb).2
      have ha : a.ip.family = f := (hall a (by simp)).1
      refine ⟨i, hi, ?_⟩
      intro g
      rw [held_syncAddrs hi]
      rcases Family.eq_or_eq_other f g with rfl | rfl
      · rw [if_pos ha, ← ha, newest_concat_self]
      · rw [if_neg (ha ▸ (Family.other_ne f).symm)]
        refine (newest_eq_none.mpr ⟨fun b hb => ?_, hinit⟩).symm
        rw [(hall b hb).1]
        exact (Family.other_ne f).symm

/-- The addresses smoltcp documents as accepted: neither broadcast nor multicast. -/
def unicastOrUnspecified : AddrCheck
  | .v4 ip =>
      ip.octets ≠ [255, 255, 255, 255] ∧ ¬ (224 ≤ ip.octets.headD 0 ∧ ip.octets.headD 0 ≤ 239)
  | .v6 ip => ip.octets.headD 0 ≠ 255

/-- `172.16.0.2` -/
def sampleV4 : Ipv4Addr := ⟨[172, 16, 0, 2], rfl⟩

/-- `fd00::2` -/
def sampleV6 : Ipv6Addr := ⟨[253, 0, 0, 0, 0, 0, 0, 0, 0, 0, 0, 0, 0, 0, 0, 2], rfl⟩

/-- Parsers that read the two sample addresses. -/
def sampleParsers : AddrParsers where
  v4 s := if s = "172.16.0.2" then some sampleV4 else none
  v6 s := if s = "fd00::2" then some sampleV6 else none

/-- The rule at a configuration without an IPv6 address and one assigned IPv4
address. -/
theorem syncAddrs_keeps_families_sample :
    ∃ i, syncAddrs unicastOrUnspecified
        ⟨[⟨.v4 sampleV4, 24⟩], some (gatewayV4 sampleV4), none⟩ [⟨.v4 sampleV4, 32⟩] = some i
      ∧ ∀ f, i.held f = newest ((⟨[⟨.v4 sampleV4, 24⟩], some (gatewayV4 sampleV4), none⟩ :
          Interface).held f) f [⟨.v4 sampleV4, 32⟩] :=
  (syncAddrs_keeps_families_iff sampleParsers unicastOrUnspecified "172.16.0.2" "" _ (by decide)
    [⟨.v4 sampleV4, 32⟩]).mpr (Or.inr ⟨.v4, by decide, rfl⟩)

/-- **An assigned IPv6 address removes the IPv4 address**: both families are
configured, the edge assigns one IPv6 address, and the interface no longer holds the
IPv4 address it was set up with. -/
theorem syncAddrs_drops_v4 :
    ∃ iface i, spawnIface sampleParsers unicastOrUnspecified "172.16.0.2" "fd00::2"
        = some (.ok iface)
      ∧ syncAddrs unicastOrUnspecified iface [⟨.v6 sampleV6, 128⟩] = some i
      ∧ newest (iface.held .v4) .v4 [⟨.v6 sampleV6, 128⟩] = some (.v4 sampleV4)
      ∧ i.held .v4 = none :=
  ⟨_, _, rfl, rfl, by decide, by decide⟩

end Aether.Netstack
