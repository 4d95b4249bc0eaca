import Aether.Lib.Machine
import Aether.Masque.CapsuleStream
import Aether.Tunnel.H2

/-!
The drain of the body chunks over HTTP/2 and the capsules of the whole body.

* `drainCapsules_eq`: with the inbound channel open, a drain takes the capsules up to the
  first malformed one.
* `Fed`: the body chunks received and the packets handed on, one drain for each chunk.
* `Clear`: the chunk completes no capsule behind a malformed one.
* `delivered_iff`: after every chunk the packets are those of the body so far, and no
  complete capsule is left in the buffer, exactly when every chunk is clear.
-/

namespace Aether.Tunnel.H2

open Framing Machine
open Masque (CapsuleParser Capsule capsuleDecoder)

/-- A capsule whose body does not parse. -/
def malformed : Except AetherError Capsule → Bool
  | .ok _ => false
  | .error _ => true

/-- The packet of a DATAGRAM capsule. -/
def packet? : Except AetherError Capsule → Option Bytes
  | .ok (.datagram packet) => some packet
  | _ => none

/-! ### One drain -/

/-- A capsule that parses: its packet is sent if it has one, and the drain goes on. -/
lemma drainCapsules_of_ok {p q : CapsuleParser} {c : Capsule} (h : p.next = (.ok (some c), q)) :
    (drainCapsules none p).packets = (packet? (.ok c)).toList ++ (drainCapsules none q).packets
      ∧ (drainCapsules none p).parser = (drainCapsules none q).parser := by
  rw [drainCapsules]
  split <;> rename_i h' <;> rw [h] at h' <;> cases h'
  case h_1 => exact ⟨rfl, rfl⟩
  case h_2 => exact ⟨rfl, rfl⟩
  case h_3 hdatagram _ =>
    cases c with
    | datagram packet => exact absurd rfl (hdatagram packet)
    | _ => exact ⟨rfl, rfl⟩

/-- With the channel open, a drain removes the capsules up to the first malformed one, and
its packets are theirs. -/
lemma drainCapsules_eq (p : CapsuleParser) :
    (drainCapsules none p).packets = (capsuleDecoder.takeUntil malformed p.buf).1.filterMap packet?
      ∧ (drainCapsules none p).parser = ⟨(capsuleDecoder.takeUntil malformed p.buf).2⟩ := by
  induction hk : p.buf.length using Nat.strong_induction_on generalizing p with
  | _ k ih =>
    have hnext := CapsuleParser.next_eq p
    cases hd : capsuleDecoder.next p.buf with
    | none =>
        rw [hd] at hnext
        rw [drainCapsules, capsuleDecoder.takeUntil_of_none malformed hd]
        split <;> rename_i h <;> rw [hnext] at h <;> cases h
        exact ⟨rfl, rfl⟩
    | some rn =>
        obtain ⟨r, n⟩ := rn
        rw [hd] at hnext
        rw [capsuleDecoder.takeUntil_of_some malformed hd]
        cases r with
        | error e =>
            rw [drainCapsules]
            split <;> rename_i h <;> rw [hnext] at h <;> cases h
            exact ⟨rfl, rfl⟩
        | ok c =>
            obtain ⟨hpackets, hparser⟩ :=
              ih _ (hk ▸ capsuleDecoder.drop_length_lt hd) ⟨p.buf.drop n⟩ rfl
            obtain ⟨hfst, hsnd⟩ := drainCapsules_of_ok hnext
            rw [if_neg (by simp [malformed]), hfst, hsnd, hpackets, hparser]
            refine ⟨?_, rfl⟩
            cases hc : packet? (.ok c) with
            | none => rw [List.filterMap_cons_none hc]; rfl
            | some packet => rw [List.filterMap_cons_some hc]; rfl

/-! ### The chunks of a body -/

/-- What the loop has received and handed on. -/
structure Fed where
  received : Bytes
  sent : List Bytes
  capsules : CapsuleParser

def Fed.start : Fed := ⟨[], [], .new⟩

/-- A body chunk: `capsules.push`, then `drain_capsules` with the inbound channel open. -/
def feed (s : Fed) (chunk : Bytes) : Option Fed :=
  let d := drainCapsules none (s.capsules.push chunk)
  some ⟨s.received ++ chunk, s.sent ++ d.packets, d.parser⟩

/-- The packets of the complete capsules of a body. -/
def datagrams (body : Bytes) : List Bytes := (capsuleDecoder.decode body).1.filterMap packet?

/-- The packets of the body so far have been sent, and no complete capsule waits. -/
def Delivered (s : Fed) : Prop :=
  s.sent = datagrams s.received ∧ s.capsules.next.1 = .ok none

/-- No capsule of the buffer with the chunk behind it follows a malformed one. -/
def Clear (s : Fed) (chunk : Bytes) : Prop :=
  ∀ r ∈ (capsuleDecoder.decode (s.capsules.buf ++ chunk)).1.dropLast, malformed r = false

/-- The books of the drain: the packets sent and those still in the buffer are the packets
of the body, and the body is incomplete where the buffer is. -/
def Kept (s : Fed) : Prop :=
  s.sent ++ datagrams s.capsules.buf = datagrams s.received
    ∧ (capsuleDecoder.decode s.capsules.buf).2 = (capsuleDecoder.decode s.received).2

lemma datagrams_append (body more : Bytes) :
    datagrams (body ++ more)
      = datagrams body ++ datagrams ((capsuleDecoder.decode body).2 ++ more) := by
  rw [datagrams, capsuleDecoder.decode_append, List.filterMap_append]
  rfl

/-- What a drain leaves holds the packets that it has not sent. -/
lemma datagrams_drainCapsules (p : CapsuleParser) :
    (drainCapsules none p).packets ++ datagrams (drainCapsules none p).parser.buf
      = datagrams p.buf := by
  obtain ⟨hpackets, hparser⟩ := drainCapsules_eq p
  rw [hpackets, hparser, datagrams, datagrams, ← List.filterMap_append,
    ← capsuleDecoder.takeUntil_append_decode malformed p.buf]

lemma decode_drainCapsules (p : CapsuleParser) :
    (capsuleDecoder.decode (drainCapsules none p).parser.buf).2
      = (capsuleDecoder.decode p.buf).2 := by
  rw [(drainCapsules_eq p).2, ← capsuleDecoder.takeUntil_append_decode malformed p.buf]

lemma start_kept : Kept Fed.start := ⟨rfl, rfl⟩

/-- **Every drain keeps the books**, malformed capsules or not. -/
lemma feed_kept {s t : Fed} {chunk : Bytes} (hs : Kept s) (h : feed s chunk = some t) :
    Kept t := by
  obtain ⟨hsent, hrest⟩ := hs
  obtain rfl := Option.some.inj h
  constructor
  · calc (s.sent ++ (drainCapsules none (s.capsules.push chunk)).packets)
          ++ datagrams (drainCapsules none (s.capsules.push chunk)).parser.buf
        = s.sent ++ datagrams (s.capsules.buf ++ chunk) := by
          rw [List.append_assoc, datagrams_drainCapsules]; rfl
      _ = datagrams s.received ++ datagrams ((capsuleDecoder.decode s.received).2 ++ chunk) := by
          rw [datagrams_append, ← List.append_assoc, hsent, hrest]
      _ = datagrams (s.received ++ chunk) := (datagrams_append _ _).symm
  · calc (capsuleDecoder.decode (drainCapsules none (s.capsules.push chunk)).parser.buf).2
        = (capsuleDecoder.decode (s.capsules.buf ++ chunk)).2 := decode_drainCapsules _
      _ = (capsuleDecoder.decode (s.received ++ chunk)).2 := by
          rw [capsuleDecoder.decode_append s.capsules.buf,
            capsuleDecoder.decode_append s.received, hrest]

/-- With the books kept, all packets are sent exactly when no complete capsule is left. -/
lemma delivered_iff_next {s : Fed} (hs : Kept s) :
    Delivered s ↔ capsuleDecoder.next s.capsules.buf = none := by
  have hnext : s.capsules.next.1 = .ok none ↔ capsuleDecoder.next s.capsules.buf = none := by
    rw [CapsuleParser.next_eq]
    cases hd : capsuleDecoder.next s.capsules.buf with
    | none => simp
    | some rn => cases hr : rn.1 <;> simp [Except.map, hr]
  refine ⟨fun h => hnext.mp h.2, fun h => ⟨?_, hnext.mpr h⟩⟩
  have hsent := hs.1
  rw [datagrams, capsuleDecoder.decode_of_none h, List.filterMap_nil, List.append_nil] at hsent
  exact hsent

/-- One chunk is delivered exactly when it is clear. -/
lemma feed_delivered_iff {s t : Fed} {chunk : Bytes} (hs : Kept s) (h : feed s chunk = some t) :
    Clear s chunk ↔ Delivered t := by
  rw [delivered_iff_next (feed_kept hs h)]
  obtain rfl := Option.some.inj h
  rw [(drainCapsules_eq _).2, capsuleDecoder.next_takeUntil_eq_none_iff]
  rfl

/-- A body of any chunks can be fed. -/
lemma exists_run_feed (s : Fed) (chunks : List Bytes) : ∃ t, run feed s chunks = some t := by
  induction chunks generalizing s with
  | nil => exact ⟨s, rfl⟩
  | cons chunk chunks ih =>
      obtain ⟨t, ht⟩ := ih _
      exact ⟨t, run_cons_eq_some.mpr ⟨_, rfl, ht⟩⟩

/-- **Delivery of a body in chunks.** For every list of chunks: after each of them the packets
sent are the DATAGRAM values of the complete capsules received, in order, and no complete
capsule is left in the buffer, exactly when no chunk completes a capsule behind a
malformed one. -/
theorem delivered_iff (chunks : List Bytes) :
    Meets feed Clear Fed.start chunks ↔ Always feed Delivered Fed.start chunks := by
  obtain ⟨t, ht⟩ := exists_run_feed Fed.start chunks
  have hstart : Delivered Fed.start := (delivered_iff_next start_kept).mpr rfl
  exact meets_iff_always (fun s chunk u hs h => feed_kept hs h)
    (fun s chunk u hs _ h => feed_delivered_iff hs h) start_kept hstart ht

/-- An ADDRESS_ASSIGN capsule of one byte, which does not parse, and a DATAGRAM capsule in one
chunk: nothing is sent, and the datagram stays in the buffer. -/
theorem datagram_behind_malformed :
    run feed Fed.start [[1, 1, 0x40, 0, 1, 7]]
        = some ⟨[1, 1, 0x40, 0, 1, 7], [], ⟨[0, 1, 7]⟩⟩
      ∧ datagrams [1, 1, 0x40, 0, 1, 7] = [[7]]
      ∧ ¬ Always feed Delivered Fed.start [[1, 1, 0x40, 0, 1, 7]] := by
  have hparse : Masque.parseAddressAssign [0x40] = .error (Masque.oct {}) := by
    rw [Masque.parseAddressAssign, Masque.assignedAddresses]; rfl
  have hcapsule : Masque.capsuleOf 1 [0x40] = .error (Masque.oct {}) := by
    rw [Masque.capsuleOf, if_pos (by decide), hparse]; rfl
  have hbad : capsuleDecoder.next [1, 1, 0x40, 0, 1, 7] = some (.error (Masque.oct {}), 3) := by
    have hnext : capsuleDecoder.next [1, 1, 0x40, 0, 1, 7]
        = some (Masque.capsuleOf 1 [0x40], 3) :=
      CapsuleParser.nextFrame_append
        ⟨[1], 1, [1], [0x40], ⟨_, _, rfl, rfl, rfl⟩, ⟨_, _, rfl, rfl, rfl⟩⟩ [0, 1, 7]
    rw [hnext, hcapsule]
  have hgood : capsuleDecoder.next [0, 1, 7] = some (.ok (.datagram [7]), 3) := rfl
  have hrun : run feed Fed.start [[1, 1, 0x40, 0, 1, 7]]
      = some ⟨[1, 1, 0x40, 0, 1, 7], [], ⟨[0, 1, 7]⟩⟩ := by
    have hdrain := drainCapsules_eq ⟨[1, 1, 0x40, 0, 1, 7]⟩
    rw [capsuleDecoder.takeUntil_of_some malformed hbad] at hdrain
    have hfeed : feed Fed.start [1, 1, 0x40, 0, 1, 7]
        = some ⟨[1, 1, 0x40, 0, 1, 7], (drainCapsules none ⟨[1, 1, 0x40, 0, 1, 7]⟩).packets,
          (drainCapsules none ⟨[1, 1, 0x40, 0, 1, 7]⟩).parser⟩ := rfl
    rw [hdrain.1, hdrain.2] at hfeed
    exact run_cons_eq_some.mpr ⟨_, hfeed, rfl⟩
  refine ⟨hrun, ?_, ?_⟩
  · rw [datagrams, capsuleDecoder.decode_of_some hbad]
    show List.filterMap packet? (_ :: (capsuleDecoder.decode [0, 1, 7]).1) = [[7]]
    rw [capsuleDecoder.decode_of_some hgood]
    show List.filterMap packet? (_ :: _ :: (capsuleDecoder.decode []).1) = [[7]]
    rw [capsuleDecoder.decode_of_none rfl]
    rfl
  · intro hall
    have hnext : (CapsuleParser.next ⟨[0, 1, 7]⟩).1 = .ok none :=
      (hall _ _ List.prefix_rfl hrun).2
    rw [CapsuleParser.next_eq, hgood] at hnext
    cases hnext

end Aether.Tunnel.H2
