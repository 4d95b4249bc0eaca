import Aether.Lib.OctetsMut
import Aether.Masque.Capsule

/-!
The capsule encoders (`masque.rs`) and their inverse.

The encoders size their buffer with a length function of their own and throw the
results of the writes away.

* `varintLen_eq`: that length function is the crate's on every number that has a
  varint.
* `encodeCapsule_eq`: so every write fits, and fills the buffer.
* `nexts_encode`: **round trip**, over any sequence of encoded messages and
  whatever follows them.
-/

namespace Aether.Masque

/-- `varint_len`, the core's own. -/
def varintLen (v : ℕ) : ℕ :=
  if v < 64 then 1 else if v < 16384 then 2 else if v < 1073741824 then 4 else 8

/-- `encode_capsule`; `none` where the varint writer panics. -/
def encodeCapsule (kind : ℕ) (value : Bytes) : Option Bytes := do
  let cap := varintLen kind + varintLen value.length + value.length
  let b := OctetsMut.withSlice (List.replicate cap 0)
  let b := b.ignore (← b.putVarint kind)
  let b := b.ignore (← b.putVarint value.length)
  let b := b.ignore (b.putBytes value)
  return b.buf

def encodeAddressRequest (requestId : ℕ) (ipVersion prefixLen : UInt8) : Option Bytes := do
  let valueLen := varintLen requestId + 1 + 1
  let b := OctetsMut.withSlice (List.replicate valueLen 0)
  let b := b.ignore (← b.putVarint requestId)
  let b := b.ignore (b.putU8 ipVersion)
  let b := b.ignore (b.putU8 prefixLen)
  encodeCapsule capsuleAddressRequest b.buf

def encodeDatagramCapsule (ipPacket : Bytes) : Option Bytes :=
  encodeCapsule capsuleDatagram ipPacket

/-! ### What the encoders write -/

/-- The two length functions agree. -/
lemma varintLen_eq {v : ℕ} (h : v < 2 ^ 62) : Octets.varintLen v = some (varintLen v) := by
  rw [Octets.varintLen, varintLen]
  split_ifs <;> first | rfl | omega

/-- The varint of a number, in the length the core computes for it. -/
def varint (v : ℕ) : Bytes := Octets.varintOfLen v (varintLen v)

lemma length_varint (v : ℕ) : (varint v).length = varintLen v := Octets.length_varintOfLen _ _

lemma isVarint_varint {v : ℕ} (h : v < 2 ^ 62) : Octets.IsVarint (varint v) v :=
  Octets.isVarint_varintOfLen (varintLen_eq h)

lemma putVarint_eq_ok {v n m : ℕ} (hv : v < 2 ^ 62) (h : n = varintLen v + m) (w : Bytes) :
    OctetsMut.putVarint ⟨w, List.replicate n 0⟩ v
      = some (.ok ⟨w ++ varint v, List.replicate m 0⟩) :=
  OctetsMut.putVarint_eq_ok (varintLen_eq hv) h w

/-- The frame of a capsule as the encoder writes it. -/
def frameOf (kind : ℕ) (value : Bytes) (hk : kind < 2 ^ 62) (hv : value.length < 2 ^ 62) :
    CapsuleFrame :=
  ⟨varint kind, kind, varint value.length, value, isVarint_varint hk, isVarint_varint hv⟩

lemma encodeCapsule_eq {kind : ℕ} {value : Bytes} (hk : kind < 2 ^ 62)
    (hv : value.length < 2 ^ 62) :
    encodeCapsule kind value = some (frameOf kind value hk hv).bytes := by
  have h₁ := putVarint_eq_ok hk
    (Nat.add_assoc (varintLen kind) (varintLen value.length) value.length) []
  have h₂ := putVarint_eq_ok hv
    (Eq.refl (varintLen value.length + value.length)) (varint kind)
  have h₃ := OctetsMut.putBytes_eq_ok (Nat.add_zero value.length).symm
    (varint kind ++ varint value.length)
  simp only [encodeCapsule, OctetsMut.withSlice, h₁, List.nil_append, OctetsMut.ignore_ok,
    Option.bind_eq_bind, Option.bind_some, h₂, h₃]
  simp [OctetsMut.buf, frameOf, CapsuleFrame.bytes]

/-- The value of an address request. -/
def requestValue (requestId : ℕ) (ipVersion prefixLen : UInt8) : Bytes :=
  varint requestId ++ [ipVersion, prefixLen]

lemma length_requestValue (requestId : ℕ) (ipVersion prefixLen : UInt8) :
    (requestValue requestId ipVersion prefixLen).length = varintLen requestId + 1 + 1 := by
  rw [requestValue, List.length_append, length_varint]
  rfl

lemma encodeAddressRequest_eq {requestId : ℕ} (h : requestId < 2 ^ 62)
    (ipVersion prefixLen : UInt8) :
    encodeAddressRequest requestId ipVersion prefixLen
      = encodeCapsule capsuleAddressRequest (requestValue requestId ipVersion prefixLen) := by
  have h₁ := putVarint_eq_ok h
    (Nat.add_assoc (varintLen requestId) 1 1) []
  have h₂ := OctetsMut.putU8_eq_ok (Eq.refl (1 + 1)) (varint requestId) ipVersion
  have h₃ := OctetsMut.putU8_eq_ok (Eq.refl (1 + 0)) (varint requestId ++ [ipVersion]) prefixLen
  simp only [encodeAddressRequest, OctetsMut.withSlice, h₁, List.nil_append, OctetsMut.ignore_ok,
    Option.bind_eq_bind, Option.bind_some, h₂, h₃]
  simp [OctetsMut.buf, requestValue]

/-! ### Round trip -/

/-- A message for one of the three encoders. -/
inductive Outgoing where
  | capsule (kind : ℕ) (value : Bytes)
  | addressRequest (requestId : ℕ) (ipVersion prefixLen : UInt8)
  | datagram (ipPacket : Bytes)
  deriving DecidableEq, Repr

namespace Outgoing

/-- The encoder's call. -/
def encode : Outgoing → Option Bytes
  | capsule kind value => encodeCapsule kind value
  | addressRequest requestId ipVersion prefixLen =>
      encodeAddressRequest requestId ipVersion prefixLen
  | datagram ipPacket => encodeDatagramCapsule ipPacket

/-- Its numbers have varints. -/
def Fits : Outgoing → Prop
  | capsule kind value => kind < 2 ^ 62 ∧ value.length < 2 ^ 62
  | addressRequest requestId _ _ => requestId < 2 ^ 62
  | datagram ipPacket => ipPacket.length < 2 ^ 62

/-- The kind of the capsule. -/
def kind : Outgoing → ℕ
  | capsule kind _ => kind
  | addressRequest .. => 2
  | datagram _ => 0

/-- The value of the capsule. -/
def value : Outgoing → Bytes
  | capsule _ value => value
  | addressRequest requestId ipVersion prefixLen => requestValue requestId ipVersion prefixLen
  | datagram ipPacket => ipPacket

/-- The number of bytes the encoder allocates. -/
def allocated (m : Outgoing) : ℕ :=
  varintLen m.kind + varintLen m.value.length + m.value.length

/-- What a capsule of a kind and a value means to the receiver. -/
def meaning (m : Outgoing) : Except AetherError Capsule :=
  match m.kind with
  | 0 => .ok (.datagram m.value)
  | 1 => (parseAddressAssign m.value).map .addressAssign
  | 2 => .ok .addressRequest
  | 3 => (parseRouteAdvertisement m.value).map .routeAdvertisement
  | other => .ok (.unknown other m.value)

lemma Fits.kind_lt {m : Outgoing} (h : m.Fits) : m.kind < 2 ^ 62 := by
  cases m with
  | capsule kind value => exact h.1
  | addressRequest requestId ipVersion prefixLen => simp [Outgoing.kind]
  | datagram ipPacket => simp [Outgoing.kind]

lemma Fits.length_lt {m : Outgoing} (h : m.Fits) : m.value.length < 2 ^ 62 := by
  cases m with
  | capsule kind value => exact h.2
  | addressRequest requestId ipVersion prefixLen =>
      have hlen : varintLen requestId ≤ 8 := by
        rw [varintLen]
        split_ifs <;> omega
      rw [Outgoing.value, length_requestValue]
      omega
  | datagram ipPacket => exact h

lemma capsuleOf_eq_meaning (m : Outgoing) : capsuleOf m.kind m.value = m.meaning := by
  rw [meaning]
  split <;> simp_all [capsuleOf, capsuleDatagram, capsuleAddressAssign, capsuleAddressRequest,
    capsuleRouteAdvertisement]

/-- The frame of a message. -/
def frame (m : Outgoing) (h : m.Fits) : CapsuleFrame :=
  frameOf m.kind m.value h.kind_lt h.length_lt

lemma encode_eq {m : Outgoing} (h : m.Fits) : m.encode = some (m.frame h).bytes := by
  cases m with
  | capsule kind value => exact encodeCapsule_eq h.1 h.2
  | addressRequest requestId ipVersion prefixLen =>
      rw [encode, encodeAddressRequest_eq h]
      exact encodeCapsule_eq h.kind_lt h.length_lt
  | datagram ipPacket => exact encodeCapsule_eq h.kind_lt h.length_lt

end Outgoing

/-- `next`, so many times: the results and the parser left. -/
def CapsuleParser.nexts : ℕ → CapsuleParser →
    List (Except AetherError (Option Capsule)) × CapsuleParser
  | 0, p => ([], p)
  | n + 1, p => (p.next.1 :: (nexts n p.next.2).1, (nexts n p.next.2).2)

/-- The bytes are exactly the two varints and the value, and as many as were
allocated. -/
structure Exact (m : Outgoing) (out : Bytes) : Prop where
  bytes : out = varint m.kind ++ (varint m.value.length ++ m.value)
  allocated : out.length = m.allocated

lemma exact_frame {m : Outgoing} (h : m.Fits) : Exact m (m.frame h).bytes where
  bytes := rfl
  allocated := by
    rw [Outgoing.allocated, CapsuleFrame.bytes, List.length_append, List.length_append,
      ← Nat.add_assoc]
    exact congrArg₂ (fun a b => a + b + m.value.length) (length_varint _) (length_varint _)

/-- **Capsule encoding and decoding are inverse**: any messages whose numbers have
varints, encoded one after the other with anything behind them, are read back in
order, and what is behind them is left. -/
theorem nexts_encode (msgs : List Outgoing) (r : Bytes) (h : ∀ m ∈ msgs, m.Fits) :
    (∀ v < 2 ^ 62, Octets.varintLen v = some (varintLen v))
      ∧ ∃ outs : List Bytes, msgs.mapM Outgoing.encode = some outs
        ∧ List.Forall₂ Exact msgs outs
        ∧ CapsuleParser.nexts msgs.length (CapsuleParser.new.push (outs.flatten ++ r))
          = (msgs.map (fun m => m.meaning.map some), ⟨r⟩) := by
  refine ⟨fun v hv => varintLen_eq hv, ?_⟩
  induction msgs with
  | nil => exact ⟨[], rfl, .nil, rfl⟩
  | cons m msgs ih =>
      obtain ⟨outs, hmap, hexact, hnexts⟩ := ih fun m' hm' => h m' (List.mem_cons_of_mem _ hm')
      have hm := h m List.mem_cons_self
      refine ⟨(m.frame hm).bytes :: outs, ?_, .cons (exact_frame hm) hexact, ?_⟩
      · simp [List.mapM_cons, Outgoing.encode_eq hm, hmap]
      · have hnext : CapsuleParser.next
            (CapsuleParser.new.push (((m.frame hm).bytes :: outs).flatten ++ r))
              = (m.meaning.map some, CapsuleParser.new.push (outs.flatten ++ r)) := by
          have := CapsuleParser.next_append (m.frame hm) (outs.flatten ++ r)
          rw [← m.capsuleOf_eq_meaning]
          rw [← List.append_assoc] at this
          exact this
        rw [List.length_cons, CapsuleParser.nexts, hnext]
        simp only [hnexts, List.map_cons]

theorem nexts_encode_mixed :
    ∃ outs : List Bytes,
      [Outgoing.datagram [69], .addressRequest 300 4 32, .capsule 77 [1, 2]].mapM Outgoing.encode
        = some outs
      ∧ CapsuleParser.nexts 3 (CapsuleParser.new.push (outs.flatten ++ [0xff]))
        = ([.ok (some (.datagram [69])), .ok (some .addressRequest),
            .ok (some (.unknown 77 [1, 2]))], ⟨[0xff]⟩) := by
  obtain ⟨-, outs, hmap, -, hnexts⟩ := nexts_encode
    [.datagram [69], .addressRequest 300 4 32, .capsule 77 [1, 2]] [0xff]
    (by simp [Outgoing.Fits])
  exact ⟨outs, hmap, hnexts⟩

end Aether.Masque
