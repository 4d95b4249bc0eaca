import Aether.Lib.DnsWire
import Aether.Socks.Client

/-!
The datagrams of a UDP association (`parse_udp_request` and `build_udp_reply` in `socks.rs`).

* `Encodes`: the bytes of an address of each type, with the target that is read off them.
  `readAddress_encodes` and `udpTarget_encodes` are the two readers of them.
* `IsRequest`: a datagram that is long enough for what its head announces.
  `parseUdpRequest_request` and `parseUdpRequest_other` say what becomes of it and of others.
* `udp_agrees`: parser, builder and the parser of the control connection agree.
-/

namespace Aether.Socks.Udp

open Client (ATYP_V4 ATYP_V6 ATYP_DOMAIN Known)
open Scan (add index range u16)

/-! ### The code -/

/-- The `match` on the address type, with the position behind the address. -/
def udpTarget (buf : Slice) (atyp : UInt8) (pos : ℕ) : Scan (Client.Target × ℕ) :=
  if atyp = ATYP_V4 then do
    let stop ← add pos 4
    if buf.bytes.length < stop.1 then .nothing
    else
      let a ← index buf pos
      let b ← index buf (pos + 1)
      let c ← index buf (pos + 2)
      let d ← index buf (pos + 3)
      return (.ip (.v4 (.new a b c d)), stop.1)
  else if atyp = ATYP_V6 then do
    let stop ← add pos 16
    if buf.bytes.length < stop.1 then .nothing
    else
      let b ← range buf pos stop.1
      return (.ip (.v6 ⟨b.1, by rw [b.2, stop.2, Nat.add_sub_cancel_left]⟩), stop.1)
  else if atyp = ATYP_DOMAIN then do
    let len ← Scan.get buf pos
    let start ← add pos 1
    let stop ← add start.1 len.toNat
    if buf.bytes.length < stop.1 then .nothing
    else
      let name ← range buf start.1 stop.1
      return (.domain (Utf8.lossy name.1), stop.1)
  else .nothing

def parseUdpRequest (buf : Slice) : Scan (Client.Target × (ℕ × Bytes)) :=
  if buf.bytes.length < 4 then .nothing
  else do
    let frag ← index buf 2
    if frag ≠ 0 then .nothing
    else
      let atyp ← index buf 3
      let (target, pos) ← udpTarget buf atyp 4
      let stop ← add pos 2
      if buf.bytes.length < stop.1 then .nothing
      else
        let port ← u16 buf pos
        let payload ← range buf stop.1 buf.bytes.length
        return (target, (port, payload.1))

def buildUdpReply (src : SocketAddr) (data : Bytes) : Bytes :=
  [0x00, 0x00, 0x00] ++ Client.boundBytes src.ip ++ Octets.beBytes 2 src.port ++ data

/-! ### Addresses -/

/-- The bytes of an address of this type, and the target they are. -/
inductive Encodes : UInt8 → Bytes → Client.Target → Prop
  | v4 (ip : Ipv4Addr) : Encodes ATYP_V4 ip.octets (.ip (.v4 ip))
  | v6 (ip : Ipv6Addr) : Encodes ATYP_V6 ip.octets (.ip (.v6 ip))
  | domain (len : UInt8) (name : Bytes) (h : name.length = len.toNat) :
      Encodes ATYP_DOMAIN (len :: name) (.domain (Utf8.lossy name))

/-- How many bytes an address of this type takes. -/
def addressLength (atyp : UInt8) (rest : Bytes) : ℕ :=
  if atyp = ATYP_V4 then 4
  else if atyp = ATYP_V6 then 16
  else 1 + (rest.headD 0).toNat

section Readers

variable {atyp : UInt8} {addr rest : Bytes} {target : Client.Target} {buf : Slice} {pos : ℕ}

namespace Encodes

lemma ne_nil (h : Encodes atyp addr target) : addr ≠ [] := by
  cases h with
  | v4 ip => exact List.ne_nil_of_length_pos (by rw [ip.len]; decide)
  | v6 ip => exact List.ne_nil_of_length_pos (by rw [ip.len]; decide)
  | domain len name h => exact List.cons_ne_nil len name

lemma length_eq (h : Encodes atyp addr target) (rest : Bytes) :
    addr.length = addressLength atyp (addr ++ rest) := by
  cases h with
  | v4 ip => exact ip.len
  | v6 ip => exact ip.len
  | domain len name h => exact (congrArg (· + 1) h).trans (Nat.add_comm _ 1)

end Encodes

/-- Bytes that are long enough begin with an address. -/
lemma exists_encodes (rest : Bytes) (hk : Known atyp) (h : addressLength atyp rest ≤ rest.length) :
    ∃ addr target, Encodes atyp addr target ∧ addr <+: rest := by
  rcases hk with rfl | rfl | rfl
  · exact ⟨_, _, .v4 ⟨rest.take 4, List.length_take_of_le h⟩, List.take_prefix 4 rest⟩
  · exact ⟨_, _, .v6 ⟨rest.take 16, List.length_take_of_le h⟩, List.take_prefix 16 rest⟩
  · cases rest with
    | nil => exact absurd h (by decide)
    | cons len tail =>
        have hlen : 1 + len.toNat ≤ tail.length + 1 := h
        refine ⟨_, _, .domain len (tail.take len.toNat) (List.length_take_of_le (by omega)), ?_⟩
        exact (List.prefix_cons_inj len).mpr (List.take_prefix _ _)

/-- `read_target` reads an address off the stream. -/
lemma readAddress_encodes (h : Encodes atyp addr target) (rest : Bytes) (log : List Client.Deed) :
    Client.readAddress atyp ⟨addr ++ rest, log⟩ = (.ok target, ⟨rest, log⟩) := by
  cases h with
  | v4 ip =>
      rw [Client.readAddress, if_pos rfl, Dialog.bind_ok (Client.readExact_append ip.len rest log)]
      rfl
  | v6 ip =>
      rw [Client.readAddress, if_neg (by decide), if_pos rfl,
        Dialog.bind_ok (Client.readExact_append ip.len rest log)]
      rfl
  | domain len name hname =>
      have hsingle : [len].length = 1 := rfl
      have hone : Client.readExact 1 ⟨[len] ++ (name ++ rest), log⟩
          = (.ok ⟨[len], hsingle⟩, ⟨name ++ rest, log⟩) :=
        Client.readExact_append hsingle _ log
      rw [Client.readAddress, if_neg (by decide), if_neg (by decide), if_pos rfl]
      exact (Dialog.bind_ok hone).trans (Dialog.bind_ok (Client.readExact_append hname rest log))

/-- The `match` reads an address that stands at the position. -/
lemma udpTarget_encodes (h : Encodes atyp addr target) (hat : At buf.bytes pos addr) :
    udpTarget buf atyp pos = .found (target, pos + addr.length) := by
  have hfits := buf.fits
  have hle := hat.length_le h.ne_nil
  cases h with
  | v4 ip =>
      obtain ⟨octets, hlen⟩ := ip
      match octets, hlen with
      | [a, b, c, d], _ =>
        obtain ⟨-, hb⟩ := At.cons_iff.mp hat
        obtain ⟨-, hc⟩ := At.cons_iff.mp hb
        obtain ⟨-, hd⟩ := At.cons_iff.mp hc
        have hstop : pos + 4 ≤ buf.bytes.length := hle
        rw [udpTarget, if_pos rfl, Scan.add_bind (by omega)]
        dsimp only
        rw [if_neg (by omega), Scan.index_at hat, Scan.found_bind, Scan.index_at hb,
          Scan.found_bind, Scan.index_at hc, Scan.found_bind, Scan.index_at hd]
        rfl
  | v6 ip =>
      rw [ip.len] at hle ⊢
      rw [udpTarget, if_neg (by decide), if_pos rfl, Scan.add_bind (by omega)]
      dsimp only
      rw [if_neg (by omega), Scan.range_at hat (by rw [ip.len]) hle]
      rfl
  | domain len name hname =>
      obtain ⟨hfirst, hrest⟩ := At.cons_iff.mp hat
      rw [List.length_cons] at hle ⊢
      have hlen := len.toNat_lt
      rw [udpTarget, if_neg (by decide), if_neg (by decide), if_pos rfl, Scan.get, hfirst]
      dsimp only
      rw [Scan.found_bind, Scan.add_bind (by omega)]
      dsimp only
      rw [Scan.add_bind (by omega)]
      dsimp only
      rw [if_neg (by omega), Scan.range_at hrest (by omega) (by omega), Scan.found_bind]
      show Scan.found (Client.Target.domain (Utf8.lossy name), pos + 1 + len.toNat) = _
      rw [hname, Nat.add_assoc, Nat.add_comm 1]

/-- It finds nothing otherwise. -/
lemma udpTarget_other (hpos : pos ≤ buf.bytes.length)
    (h : ¬ (Known atyp ∧ addressLength atyp (buf.bytes.drop pos) ≤ (buf.bytes.drop pos).length)) :
    udpTarget buf atyp pos = .nothing := by
  have hfits := buf.fits
  rw [List.length_drop] at h
  by_cases h4 : atyp = ATYP_V4
  · have hshort : ¬ 4 ≤ buf.bytes.length - pos := fun hle => h ⟨.inl h4, h4 ▸ hle⟩
    rw [udpTarget, if_pos h4, Scan.add_bind (by omega)]
    dsimp only
    rw [if_pos (by omega)]
  by_cases h6 : atyp = ATYP_V6
  · have hshort : ¬ 16 ≤ buf.bytes.length - pos := fun hle => h ⟨.inr (.inl h6), h6 ▸ hle⟩
    rw [udpTarget, if_neg h4, if_pos h6, Scan.add_bind (by omega)]
    dsimp only
    rw [if_pos (by omega)]
  by_cases hd : atyp = ATYP_DOMAIN
  · rw [udpTarget, if_neg h4, if_neg h6, if_pos hd, Scan.get]
    by_cases hfirst : pos < buf.bytes.length
    · rw [List.drop_eq_getElem_cons hfirst] at h
      have hshort : ¬ 1 + buf.bytes[pos].toNat ≤ buf.bytes.length - pos :=
        fun hle => h ⟨.inr (.inr hd), hd ▸ hle⟩
      have hlen := buf.bytes[pos].toNat_lt
      rw [List.getElem?_eq_getElem hfirst]
      dsimp only
      rw [Scan.found_bind, Scan.add_bind (by omega)]
      dsimp only
      rw [Scan.add_bind (by omega)]
      dsimp only
      rw [if_pos (by omega)]
    · rw [List.getElem?_eq_none (by omega)]
      rfl
  · rw [udpTarget, if_neg h4, if_neg h6, if_neg hd]

end Readers

/-! ### Datagrams -/

/-- The datagram is not a fragment, and it is long enough for an address of its type and a
port. -/
def IsRequest (bs : Bytes) : Prop :=
  4 ≤ bs.length ∧ bs[2]? = some 0 ∧ ∃ atyp, bs[3]? = some atyp ∧ Known atyp
    ∧ addressLength atyp (bs.drop 4) + 2 ≤ (bs.drop 4).length

/-- A datagram, part by part. -/
structure Request where
  first : UInt8
  second : UInt8
  atyp : UInt8
  addr : Bytes
  target : Client.Target
  encodes : Encodes atyp addr target
  port : UInt16
  payload : Bytes

namespace Request

variable (d : Request)

/-- What is behind the head. -/
def rest : Bytes := d.addr ++ (Octets.beBytes 2 d.port.toNat ++ d.payload)

def bytes : Bytes := d.first :: d.second :: 0 :: d.atyp :: d.rest

lemma length_rest : d.rest.length = d.addr.length + 2 + d.payload.length := by
  rw [rest, List.length_append, List.length_append, Octets.length_beBytes, Nat.add_assoc]

lemma length_addr : d.addr.length = addressLength d.atyp d.rest := d.encodes.length_eq _

/-- The payload is what remains behind the address and the port. -/
lemma payload_eq : d.payload = d.bytes.drop (4 + (addressLength d.atyp (d.bytes.drop 4) + 2)) := by
  have hrest : d.bytes.drop 4 = d.rest := rfl
  have hport := Octets.length_beBytes 2 d.port.toNat
  rw [← List.drop_drop, hrest, ← d.length_addr, ← List.drop_drop, rest, List.drop_left,
    List.drop_left' hport]

/-- The port is read back. -/
lemma beNat_port : Octets.beNat (Octets.beBytes 2 d.port.toNat) = d.port.toNat := by
  rw [Octets.beNat_beBytes]
  exact Nat.mod_eq_of_lt d.port.toNat_lt

/-- The datagram parser finds the parts. -/
lemma parse {buf : Slice} (h : buf.bytes = d.bytes) :
    parseUdpRequest buf = .found (d.target, (d.port.toNat, d.payload)) := by
  have hself : At buf.bytes 0 d.bytes := h ▸ At.self _
  obtain ⟨-, hself⟩ := At.cons_iff.mp hself
  obtain ⟨-, hfrag⟩ := At.cons_iff.mp hself
  obtain ⟨-, htype⟩ := At.cons_iff.mp hfrag
  obtain ⟨-, hrest⟩ := At.cons_iff.mp htype
  obtain ⟨haddr, hrest⟩ := At.append_iff.mp hrest
  obtain ⟨hport, hpayload⟩ := At.append_iff.mp hrest
  have hlen : buf.bytes.length = 4 + d.addr.length + 2 + d.payload.length := by
    have := d.length_rest
    rw [h, bytes, List.length_cons, List.length_cons, List.length_cons, List.length_cons]
    omega
  have hfits := buf.fits
  rw [parseUdpRequest, if_neg (by omega), Scan.index_at hfrag, Scan.found_bind, if_neg (by simp),
    Scan.index_at htype, Scan.found_bind, udpTarget_encodes d.encodes haddr, Scan.found_bind]
  dsimp only
  rw [Scan.add_bind (by omega)]
  dsimp only
  rw [if_neg (by omega)]
  have hbytes := Octets.length_beBytes 2 d.port.toNat
  have hvalue := d.beNat_port
  rw [hbytes] at hpayload
  obtain ⟨high, low, hpair⟩ := List.length_eq_two.mp hbytes
  rw [hpair] at hport hvalue
  rw [Scan.u16_at hport, Scan.found_bind, Scan.range_at hpayload hlen (Nat.le_refl _), hvalue]
  rfl

/-- The parser of the control connection finds them behind the head. -/
lemma readTarget (log : List Client.Deed) :
    Client.readTarget d.atyp ⟨d.bytes.drop 4, log⟩
      = (.ok (d.target, d.port.toNat), ⟨d.payload, log⟩) := by
  show Client.readTarget d.atyp ⟨d.rest, log⟩ = _
  rw [rest, Client.readTarget, Dialog.bind_ok (readAddress_encodes d.encodes _ log),
    Dialog.bind_ok (Client.readExact_append (Octets.length_beBytes 2 _) d.payload log),
    d.beNat_port]
  rfl

end Request

/-- A request has its parts. -/
lemma IsRequest.exists {bs : Bytes} (h : IsRequest bs) : ∃ d : Request, bs = d.bytes := by
  obtain ⟨hlen, hfrag, atyp, htype, hknown, hlong⟩ := h
  match bs, hlen with
  | first :: second :: _ :: _ :: rest, _ =>
    cases hfrag
    cases htype
    have hlong : addressLength atyp rest + 2 ≤ rest.length := hlong
    obtain ⟨addr, target, hencodes, more, rfl⟩ :=
      exists_encodes rest hknown (by omega)
    rw [← hencodes.length_eq, List.length_append] at hlong
    obtain ⟨port, hport⟩ := DnsWire.exists_be16
      (more.take 2) (List.length_take_of_le (by omega))
    refine ⟨⟨first, second, atyp, addr, target, hencodes, port, more.drop 2⟩, ?_⟩
    show _ = first :: second :: 0 :: atyp :: (addr ++ (DnsWire.be16 port ++ more.drop 2))
    rw [hport, List.take_append_drop]

/-- Nothing is found in a datagram that is no request. -/
lemma parseUdpRequest_other {buf : Slice} (h : ¬ IsRequest buf.bytes) :
    parseUdpRequest buf = .nothing := by
  have hfits := buf.fits
  rw [parseUdpRequest]
  by_cases hlen : buf.bytes.length < 4
  · rw [if_pos hlen]
  rw [if_neg hlen, Scan.index_eq (by omega), Scan.found_bind]
  by_cases hfrag : buf.bytes[2] = 0
  · rw [if_neg (by rw [hfrag]; decide), Scan.index_eq (by omega), Scan.found_bind]
    have hlong : ¬ (Known buf.bytes[3]
        ∧ addressLength buf.bytes[3] (buf.bytes.drop 4) + 2 ≤ (buf.bytes.drop 4).length) := by
      rintro ⟨hknown, hlong⟩
      exact h ⟨by omega, by rw [List.getElem?_eq_getElem (by omega), hfrag], buf.bytes[3],
        List.getElem?_eq_getElem (by omega), hknown, hlong⟩
    by_cases haddr : Known buf.bytes[3]
        ∧ addressLength buf.bytes[3] (buf.bytes.drop 4) ≤ (buf.bytes.drop 4).length
    · -- the address is there, and the port is cut off
      obtain ⟨addr, target, hencodes, hat⟩ := exists_encodes _ haddr.1 haddr.2
      obtain ⟨more, hmore⟩ := hat
      have hcut : ¬ addr.length + 2 ≤ buf.bytes.length - 4 := by
        intro hle
        refine hlong ⟨haddr.1, ?_⟩
        rw [← hmore, ← hencodes.length_eq, hmore, List.length_drop]
        exact hle
      have hle : addr.length ≤ buf.bytes.length - 4 := by
        rw [← List.length_drop, ← hmore, List.length_append]
        omega
      rw [udpTarget_encodes hencodes ⟨more, hmore⟩, Scan.found_bind]
      dsimp only
      rw [Scan.add_bind (by omega)]
      dsimp only
      rw [if_pos (by omega)]
    · rw [udpTarget_other (by omega) haddr]
      rfl
  · rw [if_pos hfrag]

/-- What is found is a request. -/
lemma isRequest_of_found {buf : Slice} {x : Client.Target × (ℕ × Bytes)}
    (h : parseUdpRequest buf = .found x) : IsRequest buf.bytes := by
  by_contra hreq
  rw [parseUdpRequest_other hreq] at h
  cases h

lemma parseUdpRequest_safe (buf : Slice) : (parseUdpRequest buf).Safe := by
  by_cases hreq : IsRequest buf.bytes
  · obtain ⟨d, hd⟩ := hreq.exists
    rw [d.parse hd]
    exact Scan.safe_found _
  · rw [parseUdpRequest_other hreq]
    exact Scan.safe_nothing

/-- What `parse_udp_request` returns, as it does not panic. -/
def request (buf : Slice) : Option (Client.Target × (ℕ × Bytes)) :=
  (parseUdpRequest buf).toOption (parseUdpRequest_safe buf)

/-- The datagram that `build_udp_reply` makes, as a request. -/
def reply (ip : IpAddr) (port : UInt16) (data : Bytes) : Request where
  first := 0
  second := 0
  atyp := match ip with
    | .v4 _ => ATYP_V4
    | .v6 _ => ATYP_V6
  addr := match ip with
    | .v4 ip => ip.octets
    | .v6 ip => ip.octets
  target := .ip ip
  encodes := by
    cases ip with
    | v4 ip => exact .v4 ip
    | v6 ip => exact .v6 ip
  port := port
  payload := data

lemma buildUdpReply_eq (ip : IpAddr) (port : UInt16) (data : Bytes) :
    buildUdpReply ⟨ip, port.toNat⟩ data = (reply ip port data).bytes := by
  cases ip <;> simp [buildUdpReply, Client.boundBytes, Request.bytes, Request.rest, reply]

/-- **Parser, builder and the parser of the control connection agree.** -/
theorem udp_agrees :
    (∀ (ip : IpAddr) (port : UInt16) (data : Bytes) (pkt : Slice),
      pkt.bytes = buildUdpReply ⟨ip, port.toNat⟩ data →
        parseUdpRequest pkt = .found (.ip ip, (port.toNat, data)))
    ∧ (∀ buf, (∃ x, parseUdpRequest buf = .found x) ↔ IsRequest buf.bytes)
    ∧ (∀ buf target port payload, parseUdpRequest buf = .found (target, (port, payload)) →
        ∃ atyp, buf.bytes[3]? = some atyp
          ∧ payload = buf.bytes.drop (4 + (addressLength atyp (buf.bytes.drop 4) + 2))
          ∧ ∀ log, Client.readTarget atyp ⟨buf.bytes.drop 4, log⟩
              = (.ok (target, port), ⟨payload, log⟩))
    ∧ ∀ buf, (parseUdpRequest buf).Safe := by
  refine ⟨fun ip port data pkt h => ?_, fun buf => ⟨?_, ?_⟩, fun buf target port payload h => ?_,
    parseUdpRequest_safe⟩
  · exact (reply ip port data).parse (h.trans (buildUdpReply_eq ip port data))
  · rintro ⟨x, hx⟩
    exact isRequest_of_found hx
  · intro hreq
    obtain ⟨d, hd⟩ := hreq.exists
    exact ⟨_, d.parse hd⟩
  · obtain ⟨d, hd⟩ := (isRequest_of_found h).exists
    rw [d.parse hd] at h
    cases h
    rw [hd]
    exact ⟨d.atyp, rfl, d.payload_eq, d.readTarget⟩

/-- A reply of one byte from 10.0.0.1:53. -/
theorem udp_agrees_sample : parseUdpRequest ⟨[0, 0, 0, 1, 10, 0, 0, 1, 0, 53, 7], by decide⟩
    = .found (.ip (.v4 (.new 10 0 0 1)), (53, [7])) :=
  udp_agrees.1 (.v4 (.new 10 0 0 1)) 53 [7] ⟨[0, 0, 0, 1, 10, 0, 0, 1, 0, 53, 7], by decide⟩ rfl

end Aether.Socks.Udp
