import Aether.Dns
import Aether.Net

/-!
The address in a DNS response (`parse_dns_a` in `socks.rs`).

* `addressAt_record`: the four bytes that are read are the data of the record.
* `parseDnsA_right`: no bytes make the functions panic, and on a well-formed response the
  address is that of the first answer of type 1 with four bytes of data.
-/

namespace Aether.Socks

open DnsWire (Record Message)
open Scan (index)

/-! ### The code -/

/-- `skip_name`, which `dns.rs` has again. -/
def skipName (buf : Slice) (pos : ℕ) : Scan ℕ := Dns.skipName buf pos

/-- What `parse_dns_a` does with a record. -/
def addressAt (resp : Slice) (rtype pos rdlen : ℕ) : Scan IpAddr :=
  if rtype = 1 ∧ rdlen = 4 then do
    let a ← index resp pos
    let b ← index resp (pos + 1)
    let c ← index resp (pos + 2)
    let d ← index resp (pos + 3)
    return .v4 (.new a b c d)
  else .nothing

def parseDnsA (resp : Slice) : Scan IpAddr := Dns.firstAnswer (addressAt resp) resp

/-! ### What it finds -/

variable {resp : Slice} {top : ℕ}

lemma addressAt_safe (rtype pos rdlen : ℕ) (h : pos + rdlen ≤ resp.bytes.length) :
    (addressAt resp rtype pos rdlen).Safe := by
  rw [addressAt]
  split
  · rw [Scan.index_eq (by omega), Scan.found_bind, Scan.index_eq (by omega), Scan.found_bind,
      Scan.index_eq (by omega), Scan.found_bind, Scan.index_eq (by omega), Scan.found_bind]
    exact Scan.safe_found _
  · exact Scan.safe_nothing

lemma parseDnsA_safe (resp : Slice) : (parseDnsA resp).Safe :=
  Dns.firstAnswer_safe addressAt_safe

/-- The address in a response. -/
def dnsA (resp : Slice) : Option IpAddr := (parseDnsA resp).toOption (parseDnsA_safe resp)

/-- The address that a record holds. -/
def address (r : Record top) : Option IpAddr :=
  if h : r.rtype = 1 ∧ r.rdata.length = 4 then some (.v4 ⟨r.rdata, h.2⟩) else none

/-- The four bytes of an address are read. -/
lemma addressAt_ipv4 {pos : ℕ} : ∀ ip : Ipv4Addr, At resp.bytes pos ip.octets →
    addressAt resp 1 pos 4 = .found (.v4 ip)
  | ⟨[a, b, c, d], _⟩, h => by
      obtain ⟨-, hb⟩ := At.cons_iff.mp h
      obtain ⟨-, hc⟩ := At.cons_iff.mp hb
      obtain ⟨-, hd⟩ := At.cons_iff.mp hc
      rw [addressAt, if_pos ⟨rfl, rfl⟩, Scan.index_at h, Scan.found_bind, Scan.index_at hb,
        Scan.found_bind, Scan.index_at hc, Scan.found_bind, Scan.index_at hd, Scan.found_bind]
      rfl

/-- **The address is read off the data of a record.** -/
lemma addressAt_record {r : Record top} {pos : ℕ} (h : At resp.bytes pos r.rdata) :
    addressAt resp r.rtype.toNat pos r.rdata.length = .ofOption (address r) := by
  have htype : r.rtype.toNat = 1 ↔ r.rtype = 1 := UInt16.toNat_inj (b := 1)
  rw [address]
  by_cases hr : r.rtype = 1 ∧ r.rdata.length = 4
  · rw [dif_pos hr, htype.mpr hr.1, hr.2]
    exact addressAt_ipv4 ⟨r.rdata, hr.2⟩ h
  · rw [dif_neg hr, addressAt, if_neg fun hc => hr ⟨htype.mp hc.1, hc.2⟩]
    rfl

/-- The first answer that holds an address. -/
lemma parseDnsA_message {m : Message top} (htop : top ≤ 191) (h : resp.bytes = m.bytes) :
    parseDnsA resp = .ofOption (m.answers.findSome? address) :=
  Dns.firstAnswer_message htop h fun _ _ _ hdata _ => addressAt_record hdata

lemma dnsA_message {m : Message top} (htop : top ≤ 191) (h : resp.bytes = m.bytes) :
    dnsA resp = m.answers.findSome? address :=
  Scan.toOption_eq _ (parseDnsA_message htop h)

/-- **`parse_dns_a` is safe on everything and right on well-formed responses.** -/
theorem parseDnsA_right :
    (∀ resp, (parseDnsA resp).Safe) ∧ (∀ buf pos, (skipName buf pos).Safe)
      ∧ ∀ (m : Message 63) (resp : Slice), resp.bytes = m.bytes →
          parseDnsA resp = .ofOption (m.answers.findSome? address) :=
  ⟨parseDnsA_safe, fun buf pos => (Dns.skipName_spec buf pos).safe,
    fun _ _ h => parseDnsA_message (by decide) h⟩

/-- A response whose second answer is the address; its name is a pointer to that of the first. -/
def aliased : Message 63 where
  id := 7
  flags := 0x8180
  nscount := 0
  arcount := 0
  questions := [⟨⟨[⟨[119], by decide, by decide⟩], .root⟩, 1, 1⟩]
  answers := [⟨⟨[], .near 12⟩, 5, 1, [0, 0, 0, 60], rfl, [1, 120, 0], by decide⟩,
    ⟨⟨[], .near 31⟩, 1, 1, [0, 0, 0, 60], rfl, [93, 184, 216, 34], by decide⟩]
  trailing := [0]
  questions_lt := by decide
  answers_lt := by decide

theorem parseDnsA_aliased :
    parseDnsA ⟨aliased.bytes, by decide⟩ = .found (.v4 (.new 93 184 216 34)) :=
  parseDnsA_right.2.2 aliased ⟨aliased.bytes, by decide⟩ rfl

end Aether.Socks
