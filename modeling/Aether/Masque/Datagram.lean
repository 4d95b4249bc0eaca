import Aether.Masque.Encode

/-!
HTTP/3 datagrams of the CONNECT-IP stream (`masque.rs`): a quarter stream id, a
context id, and an IP packet.

* `encodeIpDatagram_eq`: what the encoder writes.
* `decodeIpDatagram_eq_some`: what an accepted datagram is made of.
* `datagram_lossless`: **round trip and soundness** of the framing.
-/

namespace Aether.Masque

def connectIpContextId : ℕ := 0

def quarterStreamId (streamId : ℕ) : ℕ := streamId / 4

/-- `decode_ip_datagram`: the packet, `none` for another stream or context. -/
def decodeIpDatagram (datagram : Bytes) (expectStreamId : ℕ) :
    Except AetherError (Option Bytes) := do
  let b := Octets.withSlice datagram
  let (qsid, b) ← b.getVarint.mapError oct
  if qsid ≠ quarterStreamId expectStreamId then return none
  let (ctx, b) ← b.getVarint.mapError oct
  if ctx ≠ connectIpContextId then return none
  let (payload, _) ← (b.getBytes b.cap).mapError oct
  return some payload

example : decodeIpDatagram [0, 0, 69, 1] 0 = .ok (some [69, 1]) := by decide

/-- The packets of datagrams, once there is a request stream. -/
def packetsOf (stream : Option ℕ) (dgrams : List Bytes) : List Bytes :=
  match stream with
  | some sid => dgrams.filterMap fun d => (decodeIpDatagram d sid).toOption.join
  | none => []

lemma packetsOf_append {stream : Option ℕ} {front more : List Bytes} :
    packetsOf stream (front ++ more) = packetsOf stream front ++ packetsOf stream more := by
  cases stream with
  | none => rfl
  | some sid => exact List.filterMap_append

/-- `encode_ip_datagram`; `none` where the varint writer panics. -/
def encodeIpDatagram (streamId : ℕ) (ipPacket : Bytes) : Option (Except AetherError Bytes) :=
  let qsid := quarterStreamId streamId
  let ctx := connectIpContextId
  let cap := varintLen qsid + varintLen ctx + ipPacket.length
  let b := OctetsMut.withSlice (List.replicate cap 0)
  match b.putVarint qsid with
  | none => none
  | some (.error e) => some (.error (oct e))
  | some (.ok b) =>
      match b.putVarint ctx with
      | none => none
      | some (.error e) => some (.error (oct e))
      | some (.ok b) => some ((b.putBytes ipPacket).mapError oct |>.map OctetsMut.buf)

/-- The bytes of a datagram as the encoder writes it. -/
def datagramBytes (qsid : ℕ) (ipPacket : Bytes) : Bytes :=
  varint qsid ++ (varint connectIpContextId ++ ipPacket)

lemma encodeIpDatagram_eq {streamId : ℕ} (h : streamId < 2 ^ 64) (ipPacket : Bytes) :
    encodeIpDatagram streamId ipPacket
      = some (.ok (datagramBytes (quarterStreamId streamId) ipPacket)) := by
  have hq : quarterStreamId streamId < 2 ^ 62 := by
    rw [quarterStreamId]
    omega
  have h₁ := putVarint_eq_ok hq (Nat.add_assoc (varintLen (quarterStreamId streamId))
    (varintLen connectIpContextId) ipPacket.length) []
  have h₂ := putVarint_eq_ok (v := connectIpContextId) (by decide)
    (Eq.refl (varintLen connectIpContextId + ipPacket.length))
    ([] ++ varint (quarterStreamId streamId))
  have h₃ := OctetsMut.putBytes_eq_ok (Nat.add_zero ipPacket.length).symm
    ([] ++ varint (quarterStreamId streamId) ++ varint connectIpContextId)
  simp only [encodeIpDatagram, OctetsMut.withSlice, h₁, h₂, h₃]
  simp [OctetsMut.buf, datagramBytes, Except.map, Except.mapError]

/-- An accepted datagram is a quarter stream id, a context id and the packet. -/
lemma decodeIpDatagram_eq_some {d p : Bytes} {t : ℕ} (h : decodeIpDatagram d t = .ok (some p)) :
    ∃ q c : Bytes, Octets.IsVarint q (quarterStreamId t)
      ∧ Octets.IsVarint c connectIpContextId ∧ d = q ++ (c ++ p) := by
  simp only [decodeIpDatagram, Except.bind_eq_ok, Except.mapError_eq_ok, Prod.exists] at h
  obtain ⟨qsid, b, hq, h⟩ := h
  obtain ⟨q, hqv, hqr, _⟩ := Octets.getVarint_eq_ok hq
  by_cases hs : qsid = quarterStreamId t
  · rw [if_neg (not_not_intro hs)] at h
    simp only [Except.bind_eq_ok, Except.mapError_eq_ok, Prod.exists] at h
    obtain ⟨ctx, c, hc, h⟩ := h
    obtain ⟨cs, hcv, hcr, _⟩ := Octets.getVarint_eq_ok hc
    by_cases hx : ctx = connectIpContextId
    · rw [if_neg (not_not_intro hx)] at h
      simp only [Except.bind_eq_ok, Except.mapError_eq_ok, Prod.exists] at h
      obtain ⟨payload, e, hp, h⟩ := h
      cases h
      obtain ⟨hlen, hpr, _⟩ := Octets.getBytes_eq_ok hp
      have he : e.rest = [] := by
        have := congrArg List.length hpr
        rw [List.length_append, hlen, Octets.cap] at this
        exact List.length_eq_zero_iff.mp (by omega)
      refine ⟨q, cs, hs ▸ hqv, hx ▸ hcv, ?_⟩
      calc d = q ++ b.rest := hqr
        _ = q ++ (cs ++ c.rest) := by rw [hcr]
        _ = q ++ (cs ++ p) := by rw [hpr, he, List.append_nil]
    · rw [if_pos hx] at h
      cases h
  · rw [if_pos hs] at h
    cases h

/-- What the decoder does on a datagram for a quarter stream id. -/
lemma decodeIpDatagram_append {q c : Bytes} {qsid : ℕ} (hq : Octets.IsVarint q qsid)
    (hc : Octets.IsVarint c connectIpContextId) (p : Bytes) (t : ℕ) :
    decodeIpDatagram (q ++ (c ++ p)) t
      = .ok (if qsid = quarterStreamId t then some p else none) := by
  have h₁ := Octets.getVarint_append hq (c ++ p) 0
  have h₂ := Octets.getVarint_append hc p (0 + q.length)
  have h₃ := Octets.getBytes_append (Eq.refl p.length) [] (0 + q.length + c.length)
  rw [List.append_nil] at h₃
  simp only [decodeIpDatagram, Octets.withSlice, h₁, Except.mapError_ok, Except.ok_bind]
  by_cases hs : qsid = quarterStreamId t
  · rw [if_neg (not_not_intro hs), if_pos hs]
    simp only [h₂, Except.mapError_ok, Except.ok_bind, Octets.cap, h₃]
    rw [if_neg (not_not_intro rfl)]
    rfl
  · rw [if_pos hs, if_neg hs]
    rfl

/-- **HTTP/3 datagram framing is lossless and addressed.** -/
theorem datagram_lossless (s t : ℕ) (hs : s < 2 ^ 64) (p : Bytes) :
    (∃ d : Bytes, encodeIpDatagram s p = some (.ok d)
        ∧ d = varint (s / 4) ++ (varint 0 ++ p)
        ∧ d.length = varintLen (s / 4) + varintLen 0 + p.length
        ∧ decodeIpDatagram d t = .ok (if s / 4 = t / 4 then some p else none))
      ∧ ∀ d : Bytes, decodeIpDatagram d t = .ok (some p) →
          ∃ q c : Bytes, Octets.IsVarint q (t / 4) ∧ Octets.IsVarint c 0 ∧ d = q ++ (c ++ p) := by
  have hq : s / 4 < 2 ^ 62 := by omega
  refine ⟨⟨_, encodeIpDatagram_eq hs p, rfl, ?_, ?_⟩, fun d hd => decodeIpDatagram_eq_some hd⟩
  · rw [datagramBytes, List.length_append, List.length_append, length_varint, length_varint,
      ← Nat.add_assoc]
    rfl
  · exact decodeIpDatagram_append (isVarint_varint hq) (isVarint_varint (by decide)) p t

theorem datagram_lossless_other :
    ∃ d : Bytes, encodeIpDatagram 256 [69, 0] = some (.ok d)
      ∧ d = [0x40, 64, 0, 69, 0] ∧ decodeIpDatagram d 8 = .ok none := by
  obtain ⟨⟨d, he, hd, -, hr⟩, -⟩ := datagram_lossless 256 8 (by decide) [69, 0]
  exact ⟨d, he, by rw [hd]; decide, hr⟩

end Aether.Masque
