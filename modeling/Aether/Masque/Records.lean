import Aether.Lib.Records
import Aether.Masque.Capsule

/-!
The record lists of the capsules (`parse_address_assign` and `parse_route_advertisement` in
`masque.rs`) and their grammars.

* `assignedAddress_reads`, `routeAdvertisement_reads`: one turn of each loop reads one record
  of its grammar.
* `records_accepted`: the parsers accept exactly the concatenations of records, fail on
  everything else, and end.
-/

namespace Aether.Masque

open Octets (Reads IsLoop Series turns)

/-- The address is as long as its version says. -/
def IsAddress (ipVersion : UInt8) (address : Bytes) : Prop :=
  ipVersion = 4 ∧ address.length = 4 ∨ ipVersion = 6 ∧ address.length = 16

/-- A varint, a version, an address of that version and a prefix length. -/
def AddressRecord (bs : Bytes) (a : AssignedAddress) : Prop :=
  ∃ id, Octets.IsVarint id a.requestId ∧ IsAddress a.ipVersion a.address
    ∧ bs = id ++ a.ipVersion :: (a.address ++ [a.prefixLen])

/-- A version, two addresses of that version and a protocol. -/
def RouteRecord (bs : Bytes) (r : RouteAdvertisement) : Prop :=
  IsAddress r.ipVersion r.start ∧ IsAddress r.ipVersion r.end
    ∧ bs = r.ipVersion :: (r.start ++ (r.end ++ [r.protocol]))

lemma addrLen_eq_ok {v : UInt8} {address : Bytes} :
    addrLen v = .ok address.length ↔ IsAddress v address := by
  rw [addrLen, IsAddress]
  split
  · rename_i hv
    simp [hv, eq_comm]
  · rename_i hv
    split
    · rename_i hv'
      simp [hv', eq_comm]
    · rename_i hv'
      simp [hv, hv']

/-! ### One turn -/

lemma assignedAddress_reads : Reads AddressRecord assignedAddress where
  ne_nil := by
    rintro _ a ⟨id, -, -, rfl⟩
    simp
  sound := by
    intro b c a h
    obtain ⟨id, hid, haddr, hrest⟩ := assignedAddress_eq_ok h
    refine ⟨_, ⟨id, hid, addrLen_eq_ok.mp haddr, rfl⟩, ?_⟩
    rw [hrest]
    simp
  complete := by
    rintro _ a ⟨id, hid, haddr, rfl⟩ more o
    have hbytes : id ++ a.ipVersion :: (a.address ++ [a.prefixLen]) ++ more
        = id ++ (a.ipVersion :: (a.address ++ (a.prefixLen :: more))) := by simp
    have hvarint := Octets.getVarint_append hid (a.ipVersion :: (a.address ++ a.prefixLen :: more)) o
    have hbody := Octets.getBytes_append (Eq.refl a.address.length) (a.prefixLen :: more)
      (o + id.length + 1)
    simp only [assignedAddress, hbytes, hvarint, Except.mapError_ok, Except.ok_bind, Octets.getU8,
      addrLen_eq_ok.mpr haddr, hbody]
    simp [pure, Except.pure]
    omega

lemma routeAdvertisement_reads : Reads RouteRecord routeAdvertisement where
  ne_nil := by
    rintro _ r ⟨-, -, rfl⟩
    simp
  sound := by
    intro b c r h
    obtain ⟨hstart, hend, hrest⟩ := routeAdvertisement_eq_ok h
    refine ⟨_, ⟨addrLen_eq_ok.mp hstart, addrLen_eq_ok.mp hend, rfl⟩, ?_⟩
    rw [hrest]
    simp
  complete := by
    rintro _ r ⟨hstart, hend, rfl⟩ more o
    have hbytes : r.ipVersion :: (r.start ++ (r.end ++ [r.protocol])) ++ more
        = r.ipVersion :: (r.start ++ (r.end ++ (r.protocol :: more))) := by simp
    have hlen : r.end.length = r.start.length := by
      have := (addrLen_eq_ok.mpr hend).symm.trans (addrLen_eq_ok.mpr hstart)
      exact Except.ok.inj this
    have hfirst := Octets.getBytes_append (Eq.refl r.start.length) (r.end ++ r.protocol :: more)
      (o + 1)
    have hsecond := Octets.getBytes_append hlen (r.protocol :: more) (o + 1 + r.start.length)
    simp only [routeAdvertisement, hbytes, Except.mapError_ok, Except.ok_bind, Octets.getU8,
      addrLen_eq_ok.mpr hstart, hfirst, hsecond]
    simp [pure, Except.pure, hlen]
    omega

/-! ### The loops -/

lemma assignedAddresses_isLoop : IsLoop assignedAddress assignedAddresses := by
  intro b
  rw [assignedAddresses]
  split
  · split <;> rename_i h <;> simp only [h, Except.bind]
  · rfl

lemma routeAdvertisements_isLoop : IsLoop routeAdvertisement routeAdvertisements := by
  intro b
  rw [routeAdvertisements]
  split
  · split <;> rename_i h <;> simp only [h, Except.bind]
  · rfl

/-- What is not accepted is an error. -/
lemma exists_error_iff {α : Type} (x : Except AetherError α) :
    (∃ e, x = .error e) ↔ ∀ a, x ≠ .ok a := by
  cases x <;> simp

/-- **The record parsers accept exactly their grammar**: the list is returned exactly for a
concatenation of one record for each of its elements, everything else is an error, and one
turn for each byte is enough to see the end. -/
theorem records_accepted (v : Bytes) :
    ((∀ l, parseAddressAssign v = .ok l ↔ Series AddressRecord v l)
        ∧ ((∃ e, parseAddressAssign v = .error e) ↔ ∀ l, ¬ Series AddressRecord v l)
        ∧ turns assignedAddress (v.length + 1) (.withSlice v) = some (parseAddressAssign v))
      ∧ (∀ l, parseRouteAdvertisement v = .ok l ↔ Series RouteRecord v l)
        ∧ ((∃ e, parseRouteAdvertisement v = .error e) ↔ ∀ l, ¬ Series RouteRecord v l)
        ∧ turns routeAdvertisement (v.length + 1) (.withSlice v)
            = some (parseRouteAdvertisement v) := by
  have haddress : ∀ l, parseAddressAssign v = .ok l ↔ Series AddressRecord v l :=
    fun _ => assignedAddresses_isLoop.eq_ok_iff assignedAddress_reads
  have hroute : ∀ l, parseRouteAdvertisement v = .ok l ↔ Series RouteRecord v l :=
    fun _ => routeAdvertisements_isLoop.eq_ok_iff routeAdvertisement_reads
  refine ⟨⟨haddress, ?_, ?_⟩, hroute, ?_, ?_⟩
  · rw [exists_error_iff]
    exact forall_congr' fun l => not_congr (haddress l)
  · exact assignedAddresses_isLoop.turns_eq assignedAddress_reads (Nat.lt_succ_self _)
  · rw [exists_error_iff]
    exact forall_congr' fun l => not_congr (hroute l)
  · exact routeAdvertisements_isLoop.turns_eq routeAdvertisement_reads (Nat.lt_succ_self _)

end Aether.Masque
