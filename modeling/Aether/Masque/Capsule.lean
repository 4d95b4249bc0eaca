import Aether.Error
import Aether.Lib.Octets

/-!
Capsules of the CONNECT-IP stream (`masque.rs`): their contents, the parsers of
the two record lists, and `CapsuleParser`, which takes one capsule at a time from
the front of a buffer.

* `CapsuleFrame`: the bytes of one complete capsule, a structure that carries the
  proofs that its header announces its body.
* `next_append`: `next` on a frame and anything behind it removes the frame and
  decodes its body.
* `next_cases`: `next` either asks for more and leaves the buffer as it is, or
  there is a frame at the front.
-/

namespace Aether.Masque

/-- A failed read as an error of the core. -/
def oct (e : BufferTooShort) : AetherError := .capsule e.text

def capsuleDatagram : ℕ := 0x00
def capsuleAddressAssign : ℕ := 0x01
def capsuleAddressRequest : ℕ := 0x02
def capsuleRouteAdvertisement : ℕ := 0x03

structure AssignedAddress where
  requestId : ℕ
  ipVersion : UInt8
  address : Bytes
  prefixLen : UInt8
  deriving DecidableEq, Repr

structure RouteAdvertisement where
  ipVersion : UInt8
  start : Bytes
  «end» : Bytes
  protocol : UInt8
  deriving DecidableEq, Repr

inductive Capsule where
  | addressAssign (addrs : List AssignedAddress)
  | addressRequest
  | datagram (packet : Bytes)
  | routeAdvertisement (routes : List RouteAdvertisement)
  | unknown (kind : ℕ) (payload : Bytes)
  deriving DecidableEq, Repr

/-! ### The record lists -/

/-- The number of address bytes of an IP version. -/
def addrLen (ipVersion : UInt8) : Except AetherError ℕ :=
  if ipVersion = 4 then .ok 4
  else if ipVersion = 6 then .ok 16
  else .error (.capsule s!"bad ip version {ipVersion}")

/-- One turn of the loop of `parse_address_assign`. -/
def assignedAddress (b : Octets) : Except AetherError (AssignedAddress × Octets) := do
  let (requestId, b) ← b.getVarint.mapError oct
  let (ipVersion, b) ← b.getU8.mapError oct
  let n ← addrLen ipVersion
  let (address, b) ← (b.getBytes n).mapError oct
  let (prefixLen, b) ← b.getU8.mapError oct
  return (⟨requestId, ipVersion, address, prefixLen⟩, b)

/-- One turn of the loop of `parse_route_advertisement`. -/
def routeAdvertisement (b : Octets) : Except AetherError (RouteAdvertisement × Octets) := do
  let (ipVersion, b) ← b.getU8.mapError oct
  let n ← addrLen ipVersion
  let (start, b) ← (b.getBytes n).mapError oct
  let (stop, b) ← (b.getBytes n).mapError oct
  let (protocol, b) ← b.getU8.mapError oct
  return (⟨ipVersion, start, stop, protocol⟩, b)

/-- What a parsed address record says about the bytes it was read from. -/
lemma assignedAddress_eq_ok {b c : Octets} {a : AssignedAddress}
    (h : assignedAddress b = .ok (a, c)) :
    ∃ id, Octets.IsVarint id a.requestId ∧ addrLen a.ipVersion = .ok a.address.length
      ∧ b.rest = id ++ a.ipVersion :: (a.address ++ a.prefixLen :: c.rest) := by
  simp only [assignedAddress, Except.bind_eq_ok, Except.mapError_eq_ok, Prod.exists] at h
  obtain ⟨id, b₁, h₁, v, b₂, h₂, n, h₃, addr, b₄, h₄, p, b₅, h₅, h₆⟩ := h
  cases h₆
  obtain ⟨bs, hv, hr₁, _⟩ := Octets.getVarint_eq_ok h₁
  obtain ⟨hr₂, _⟩ := Octets.getU8_eq_ok h₂
  obtain ⟨hn, hr₄, _⟩ := Octets.getBytes_eq_ok h₄
  obtain ⟨hr₅, _⟩ := Octets.getU8_eq_ok h₅
  exact ⟨bs, hv, by rw [hn]; exact h₃, by rw [hr₁, hr₂, hr₄, hr₅]⟩

/-- What a parsed route record says about the bytes it was read from. -/
lemma routeAdvertisement_eq_ok {b c : Octets} {r : RouteAdvertisement}
    (h : routeAdvertisement b = .ok (r, c)) :
    addrLen r.ipVersion = .ok r.start.length ∧ addrLen r.ipVersion = .ok r.end.length
      ∧ b.rest = r.ipVersion :: (r.start ++ (r.end ++ r.protocol :: c.rest)) := by
  simp only [routeAdvertisement, Except.bind_eq_ok, Except.mapError_eq_ok, Prod.exists] at h
  obtain ⟨v, b₁, h₁, n, h₂, s, b₃, h₃, e, b₄, h₄, p, b₅, h₅, h₆⟩ := h
  cases h₆
  obtain ⟨hr₁, _⟩ := Octets.getU8_eq_ok h₁
  obtain ⟨hs, hr₃, _⟩ := Octets.getBytes_eq_ok h₃
  obtain ⟨he, hr₄, _⟩ := Octets.getBytes_eq_ok h₄
  obtain ⟨hr₅, _⟩ := Octets.getU8_eq_ok h₅
  exact ⟨by rw [hs]; exact h₂, by rw [he]; exact h₂, by rw [hr₁, hr₃, hr₄, hr₅]⟩

lemma assignedAddress_cap_lt {b c : Octets} {a : AssignedAddress}
    (h : assignedAddress b = .ok (a, c)) : c.cap < b.cap := by
  obtain ⟨id, _, _, hrest⟩ := assignedAddress_eq_ok h
  simp only [Octets.cap, hrest, List.length_append, List.length_cons]
  omega

lemma routeAdvertisement_cap_lt {b c : Octets} {r : RouteAdvertisement}
    (h : routeAdvertisement b = .ok (r, c)) : c.cap < b.cap := by
  obtain ⟨_, _, hrest⟩ := routeAdvertisement_eq_ok h
  simp only [Octets.cap, hrest, List.length_append, List.length_cons]
  omega

/-- The loop of `parse_address_assign` from a cursor on. -/
def assignedAddresses (b : Octets) : Except AetherError (List AssignedAddress) :=
  if 0 < b.cap then
    match h : assignedAddress b with
    | .error e => .error e
    | .ok (a, c) =>
        have := assignedAddress_cap_lt h
        (assignedAddresses c).map (a :: ·)
  else .ok []
termination_by b.cap

/-- The loop of `parse_route_advertisement` from a cursor on. -/
def routeAdvertisements (b : Octets) : Except AetherError (List RouteAdvertisement) :=
  if 0 < b.cap then
    match h : routeAdvertisement b with
    | .error e => .error e
    | .ok (r, c) =>
        have := routeAdvertisement_cap_lt h
        (routeAdvertisements c).map (r :: ·)
  else .ok []
termination_by b.cap

def parseAddressAssign (value : Bytes) : Except AetherError (List AssignedAddress) :=
  assignedAddresses (Octets.withSlice value)

def parseRouteAdvertisement (value : Bytes) : Except AetherError (List RouteAdvertisement) :=
  routeAdvertisements (Octets.withSlice value)

/-! ### The parser -/

/-- The capsule of a kind and a value, once both are read. -/
def capsuleOf (kind : ℕ) (value : Bytes) : Except AetherError Capsule :=
  if kind = capsuleAddressAssign then (parseAddressAssign value).map .addressAssign
  else if kind = capsuleAddressRequest then .ok .addressRequest
  else if kind = capsuleRouteAdvertisement then
    (parseRouteAdvertisement value).map .routeAdvertisement
  else if kind = capsuleDatagram then .ok (.datagram value)
  else .ok (.unknown kind value)

structure CapsuleParser where
  buf : Bytes
  deriving DecidableEq, Repr

namespace CapsuleParser

def new : CapsuleParser := ⟨[]⟩

def push (p : CapsuleParser) (data : Bytes) : CapsuleParser := ⟨p.buf ++ data⟩

/-- `CapsuleParser::next`: the result and the parser left behind. The capsule is
removed from the buffer before its body is parsed. -/
def next (p : CapsuleParser) : Except AetherError (Option Capsule) × CapsuleParser :=
  match (Octets.withSlice p.buf).getVarint with
  | .error _ => (.ok none, p)
  | .ok (kind, b) =>
      match b.getVarint with
      | .error _ => (.ok none, p)
      | .ok (len, b) =>
          if b.cap < len then (.ok none, p)
          else
            match b.getBytes len with
            | .error e => (.error (oct e), p)
            | .ok (value, b) => ((capsuleOf kind value).map some, ⟨p.buf.drop b.off⟩)

end CapsuleParser

/-- The bytes of one complete capsule: a kind and the length of the value, each
in some varint encoding, then the value. -/
structure CapsuleFrame where
  kindBytes : Bytes
  kind : ℕ
  lenBytes : Bytes
  value : Bytes
  kind_ok : Octets.IsVarint kindBytes kind
  len_ok : Octets.IsVarint lenBytes value.length

namespace CapsuleFrame

def bytes (f : CapsuleFrame) : Bytes := f.kindBytes ++ (f.lenBytes ++ f.value)

lemma length_pos (f : CapsuleFrame) : 0 < f.bytes.length := by
  have := f.kind_ok.length_pos
  simp only [bytes, List.length_append]
  omega

end CapsuleFrame

namespace CapsuleParser

/-- A frame at the front is removed, and decoded, whatever follows it. -/
lemma next_append (f : CapsuleFrame) (more : Bytes) :
    next ⟨f.bytes ++ more⟩ = ((capsuleOf f.kind f.value).map some, ⟨more⟩) := by
  have hbuf : f.bytes ++ more = f.kindBytes ++ (f.lenBytes ++ (f.value ++ more)) := by
    simp [CapsuleFrame.bytes]
  have hdrop : (f.bytes ++ more).drop (0 + f.kindBytes.length + f.lenBytes.length + f.value.length)
      = more := by
    rw [List.drop_append_of_le_length (by simp [CapsuleFrame.bytes]; omega),
      List.drop_of_length_le (by simp [CapsuleFrame.bytes]; omega), List.nil_append]
  have hkind := Octets.getVarint_append f.kind_ok (f.lenBytes ++ (f.value ++ more)) 0
  have hlen := Octets.getVarint_append f.len_ok (f.value ++ more) (0 + f.kindBytes.length)
  have hval := Octets.getBytes_append (Eq.refl f.value.length) more
    (0 + f.kindBytes.length + f.lenBytes.length)
  rw [next, Octets.withSlice, hbuf, hkind]
  simp only [hlen]
  rw [if_neg (by simp), hval]
  simp only [← hbuf, hdrop]

/-- `next` asks for more and changes nothing, or a frame is at the front. -/
lemma next_cases (p : CapsuleParser) :
    p.next = (.ok none, p) ∨ ∃ (f : CapsuleFrame) (more : Bytes), p.buf = f.bytes ++ more := by
  rw [next]
  cases h₁ : (Octets.withSlice p.buf).getVarint with
  | error e => exact Or.inl rfl
  | ok kb =>
      obtain ⟨kind, b⟩ := kb
      dsimp only
      cases h₂ : b.getVarint with
      | error e => exact Or.inl rfl
      | ok lb =>
          obtain ⟨len, c⟩ := lb
          dsimp only
          by_cases hc : c.cap < len
          · rw [if_pos hc]; exact Or.inl rfl
          · rw [Octets.cap, Nat.not_lt] at hc
            obtain ⟨ks, hk, hr₁, _⟩ := Octets.getVarint_eq_ok h₁
            obtain ⟨ls, hl, hr₂, _⟩ := Octets.getVarint_eq_ok h₂
            have hval : (c.rest.take len).length = len := by
              rw [List.length_take]; exact Nat.min_eq_left hc
            refine Or.inr ⟨⟨ks, kind, ls, c.rest.take len, hk, by rw [hval]; exact hl⟩,
              c.rest.drop len, ?_⟩
            have hr₀ : p.buf = ks ++ b.rest := hr₁
            rw [hr₀, hr₂, CapsuleFrame.bytes]
            simp

/-- What is found is removed, also when its body does not parse. -/
lemma length_next {p q : CapsuleParser} {r : Except AetherError (Option Capsule)}
    (h : p.next = (r, q)) (hr : r ≠ .ok none) : q.buf.length < p.buf.length := by
  rcases p.next_cases with hn | ⟨f, more, hf⟩
  · rw [hn] at h
    cases h
    exact absurd rfl hr
  · have hp : p = ⟨f.bytes ++ more⟩ := by cases p; exact congrArg _ hf
    rw [hp, next_append] at h
    have hq : ⟨more⟩ = q := (Prod.mk.inj h).2
    have hpos := f.length_pos
    rw [← hq, hp]
    show more.length < (f.bytes ++ more).length
    rw [List.length_append]
    omega

end CapsuleParser

end Aether.Masque
