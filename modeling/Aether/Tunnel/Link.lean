import Aether.Masque.Datagram
import Aether.Netstack.Stack

/-!
The netstack task and a MASQUE tunnel task, joined by the two bounded channels of
`quic::channels`.

The netstack is the machine of `Aether.Netstack.Stack`, whose `flush_tx` and whose
ingestion now go through the channels. The tunnel is the loop of `quic::run` or of
`masque_h2::run` as the channels see it: a biased `select`, what it takes from the
network, and `drain_datagrams` or `drain_capsules`, one packet at a time. A `Transport`
is what the two loops do differently.
-/

namespace Aether.Tunnel

open Netstack (NetStack Smoltcp maxIngestPerTick)
open Masque (CapsuleParser decodeIpDatagram)

def netQueue : ℕ := 1024

/-- One turn of a drain: a packet to deliver, something to skip, or the end, each with
what is left. -/
inductive Turn (β : Type) where
  | deliver (packet : Bytes) (b : β)
  | skip (b : β)
  | stop (b : β)

/-- A MASQUE tunnel loop as the channels see it. -/
structure Transport where
  /-- What has been received and not drained yet. -/
  Buf : Type
  /-- What one turn of the loop takes from the network. -/
  Arrival : Type
  fresh : Buf
  feed : Buf → Arrival → Buf
  pull : Buf → Turn Buf
  size : Buf → ℕ
  size_deliver : ∀ {b p b'}, pull b = .deliver p b' → size b' < size b
  size_skip : ∀ {b b'}, pull b = .skip b' → size b' < size b
  /-- The biased `select` looks at the network before the outbound channel. -/
  netFirst : Bool
  /-- Every branch of the `select` is followed by a drain. -/
  drainsAlways : Bool
  /-- A send waits until the peer has granted it the capacity. -/
  awaitsCapacity : Bool
  /-- A drain that follows every branch takes all that is there. -/
  drains : drainsAlways = true → ∀ {b b'}, pull b = .stop b' → b' = b
  drains_fresh : pull fresh = .stop fresh

/-! ### The two transports -/

/-- The request stream, once the request is sent, and the datagrams `dgram_recv` has
ready. -/
structure QuicBuf where
  reqStream : Option ℕ
  dgrams : List Bytes

/-- What one received UDP packet brings: the datagrams it completes, and, if it
completes the handshake, the stream the request is then sent on. -/
structure QuicArrival where
  opened : Option ℕ
  dgrams : List Bytes

namespace QuicBuf

def feed (b : QuicBuf) (a : QuicArrival) : QuicBuf :=
  ⟨b.reqStream <|> a.opened, b.dgrams ++ a.dgrams⟩

/-- One turn of `quic::drain_datagrams`. -/
def pull (b : QuicBuf) : Turn QuicBuf :=
  match b.reqStream, b.dgrams with
  | some sid, d :: dgrams =>
      match decodeIpDatagram d sid with
      | .ok (some packet) => .deliver packet ⟨some sid, dgrams⟩
      | _ => .skip ⟨some sid, dgrams⟩
  | _, _ => .stop b

/-- A turn that goes on takes one datagram. -/
lemma pull_cases (b : QuicBuf) : b.pull = .stop b ∨ ∃ sid d dgrams,
    b = ⟨some sid, d :: dgrams⟩
      ∧ (b.pull = .skip ⟨some sid, dgrams⟩ ∨ ∃ p, b.pull = .deliver p ⟨some sid, dgrams⟩) := by
  obtain ⟨sid, dgrams⟩ := b
  rcases sid with _ | sid
  · exact .inl rfl
  · rcases dgrams with _ | ⟨d, dgrams⟩
    · exact .inl rfl
    · refine .inr ⟨sid, d, dgrams, rfl, ?_⟩
      simp only [pull]
      split
      · exact .inr ⟨_, rfl⟩
      · exact .inl rfl

end QuicBuf

/-- `quic::run`. -/
def quic : Transport where
  Buf := QuicBuf
  Arrival := QuicArrival
  fresh := ⟨none, []⟩
  feed := QuicBuf.feed
  pull := QuicBuf.pull
  size b := b.dgrams.length
  size_deliver {b p b'} h := by
    rcases b.pull_cases with hs | ⟨sid, d, dgrams, rfl, hs | ⟨p', hs⟩⟩ <;> rw [hs] at h <;> cases h
    exact Nat.lt_succ_self _
  size_skip {b b'} h := by
    rcases b.pull_cases with hs | ⟨sid, d, dgrams, rfl, hs | ⟨p', hs⟩⟩ <;> rw [hs] at h <;> cases h
    exact Nat.lt_succ_self _
  netFirst := true
  drainsAlways := true
  awaitsCapacity := false
  drains _ {b b'} h := by
    rcases b.pull_cases with hs | ⟨sid, d, dgrams, rfl, hs | ⟨p', hs⟩⟩ <;> rw [hs] at h <;> cases h
    rfl
  drains_fresh := rfl

/-- One turn of `masque_h2::drain_capsules`. -/
def pullCapsule (p : CapsuleParser) : Turn CapsuleParser :=
  match p.next with
  | (.ok (some (.datagram packet)), q) => .deliver packet q
  | (.ok (some _), q) => .skip q
  | (.ok none, q) => .stop q
  | (.error _, q) => .stop q

/-- `masque_h2::run`. -/
def h2 : Transport where
  Buf := CapsuleParser
  Arrival := Bytes
  fresh := .new
  feed := CapsuleParser.push
  pull := pullCapsule
  size p := p.buf.length
  size_deliver {b p b'} h := by
    rw [pullCapsule] at h
    split at h <;> cases h
    rename_i hn
    exact CapsuleParser.length_next hn (by simp)
  size_skip {b b'} h := by
    rw [pullCapsule] at h
    split at h <;> cases h
    rename_i hn
    exact CapsuleParser.length_next hn (by simp)
  netFirst := false
  drainsAlways := false
  awaitsCapacity := true
  drains h := by cases h
  drains_fresh := rfl

/-! ### The two tasks -/

/-- Where the tunnel stands: in its `select`, in its drain, or awaiting capacity for a
packet whose failure ends the tunnel or is only logged. -/
inductive TunnelPc where
  | select
  | drain
  | sending (fatal : Bool)
  | done
  deriving DecidableEq, Repr

structure Link (tr : Transport) where
  stack : NetStack
  outbound : Mailbox Bytes netQueue
  inbound : Mailbox Bytes netQueue
  tunnel : TunnelPc
  arrivals : List tr.Arrival
  buf : tr.Buf

/-- Both tasks as they start. -/
def Link.start (tr : Transport) (iface : Netstack.Interface) : Link tr where
  stack := .spawned iface
  outbound := .empty
  inbound := .empty
  tunnel := .select
  arrivals := []
  buf := tr.fresh

inductive LinkEv (tr : Transport) where
  /-- A step of the netstack that uses neither channel. -/
  | stack (e : Netstack.Ev)
  /-- One turn of `flush_tx`. -/
  | flush
  /-- The netstack wakes on the inbound channel and ingests. -/
  | ingest
  /-- Something arrives from the edge. -/
  | arrive (a : tr.Arrival)
  /-- A branch of the tunnel's `select` that touches neither the network nor the outbound
  channel: a timer, a control message, a timeout. -/
  | tick
  /-- A probe that is sent with a wait for capacity. -/
  | probe
  | net
  | outbound
  | capacity (ok : Bool)
  /-- One turn of the drain. -/
  | drain
  | exit

/-- The netstack's receiver of the inbound channel is gone. -/
def stackGone (s : NetStack) : Prop := s.pc = .stopped ∨ s.pc = .panicked

instance (s : NetStack) : Decidable (stackGone s) :=
  inferInstanceAs (Decidable (_ ∨ _))

namespace Link

variable {tr : Transport}

/-- Where the tunnel goes after a branch of its `select`. -/
def afterBranch (tr : Transport) : TunnelPc := if tr.drainsAlways then .drain else .select

/-- Whether the event is a netstack step of its own. -/
def ownStep : Netstack.Ev → Bool
  | .flush _ | .inbound _ => false
  | _ => true

def step (sm : Smoltcp) (l : Link tr) : LinkEv tr → Option (Link tr)
  | .stack e =>
      if ownStep e then (Netstack.step sm l.stack e).map fun s => { l with stack := s } else none
  | .flush =>
      match l.stack.tx with
      | [] => (Netstack.step sm l.stack (.flush false)).map fun s => { l with stack := s }
      | packet :: _ =>
          if l.tunnel = .done then
            (Netstack.step sm l.stack (.flush true)).map fun s => { l with stack := s }
          else
            (l.outbound.send packet).bind fun o =>
              (Netstack.step sm l.stack (.flush false)).map fun s =>
                { l with stack := s, outbound := o }
  | .ingest =>
      (Netstack.step sm l.stack (.inbound (l.inbound.takeUpTo (1 + maxIngestPerTick)).1)).map
        fun s => { l with stack := s, inbound := (l.inbound.takeUpTo (1 + maxIngestPerTick)).2 }
  | .arrive a => some { l with arrivals := l.arrivals ++ [a] }
  | .tick => if l.tunnel = .select then some { l with tunnel := afterBranch tr } else none
  | .probe =>
      if l.tunnel = .select ∧ tr.awaitsCapacity then some { l with tunnel := .sending false }
      else none
  | .net =>
      match l.arrivals with
      | [] => none
      | a :: arrivals =>
          if l.tunnel = .select ∧ (tr.netFirst ∨ l.outbound.items = []) then
            some { l with arrivals, buf := tr.feed l.buf a, tunnel := .drain }
          else none
  | .outbound =>
      if l.tunnel = .select ∧ (tr.netFirst → l.arrivals.isEmpty) then
        l.outbound.recv.map fun r =>
          { l with
            outbound := r.2
            tunnel := if tr.awaitsCapacity then .sending true else afterBranch tr }
      else none
  | .capacity ok =>
      match l.tunnel with
      | .sending fatal =>
          some { l with tunnel := if fatal && !ok then .done else .select }
      | _ => none
  | .drain =>
      if l.tunnel = .drain then
        match tr.pull l.buf with
        | .deliver packet buf =>
            if stackGone l.stack then some { l with buf, tunnel := .select }
            else (l.inbound.send packet).map fun i => { l with inbound := i, buf }
        | .skip buf => some { l with buf }
        | .stop buf => some { l with buf, tunnel := .select }
      else none
  | .exit => if l.tunnel = .select then some { l with tunnel := .done } else none

/-- What each event does, with what enabled it. -/
inductive Stepped (sm : Smoltcp) (l : Link tr) : LinkEv tr → Link tr → Prop where
  | stack {e : Netstack.Ev} {s : NetStack} : ownStep e = true →
      Netstack.step sm l.stack e = some s → Stepped sm l (.stack e) { l with stack := s }
  | flushed : l.stack.pc = .flushTx → l.stack.tx = [] →
      Stepped sm l .flush { l with stack := l.stack.goto .select }
  | flushGone {packet : Bytes} {tx : List Bytes} : l.stack.pc = .flushTx →
      l.stack.tx = packet :: tx → l.tunnel = .done →
      Stepped sm l .flush { l with stack := { l.stack with tx }.goto .select }
  | flush {packet : Bytes} {tx : List Bytes} {o : Mailbox Bytes netQueue} :
      l.stack.pc = .flushTx → l.stack.tx = packet :: tx → l.tunnel ≠ .done →
      l.outbound.send packet = some o →
      Stepped sm l .flush { l with stack := { l.stack with tx }.goto .flushTx, outbound := o }
  | ingest {s : NetStack} : l.stack.pc = .select → s.pc = .poll →
      Stepped sm l .ingest
        { l with stack := s, inbound := (l.inbound.takeUpTo (1 + maxIngestPerTick)).2 }
  | arrive (a : tr.Arrival) : Stepped sm l (.arrive a) { l with arrivals := l.arrivals ++ [a] }
  | tick : l.tunnel = .select → Stepped sm l .tick { l with tunnel := afterBranch tr }
  | probe : l.tunnel = .select → tr.awaitsCapacity = true →
      Stepped sm l .probe { l with tunnel := .sending false }
  | net {a : tr.Arrival} {arrivals : List tr.Arrival} : l.arrivals = a :: arrivals →
      l.tunnel = .select → (tr.netFirst = true ∨ l.outbound.items = []) →
      Stepped sm l .net { l with arrivals, buf := tr.feed l.buf a, tunnel := .drain }
  | outbound {packet : Bytes} {o : Mailbox Bytes netQueue} : l.tunnel = .select →
      (tr.netFirst = true → l.arrivals = []) → l.outbound.recv = some (packet, o) →
      Stepped sm l .outbound { l with
        outbound := o
        tunnel := if tr.awaitsCapacity then .sending true else afterBranch tr }
  | capacity {fatal ok : Bool} : l.tunnel = .sending fatal →
      Stepped sm l (.capacity ok) { l with tunnel := if fatal && !ok then .done else .select }
  | deliver {packet : Bytes} {buf : tr.Buf} {i : Mailbox Bytes netQueue} : l.tunnel = .drain →
      tr.pull l.buf = .deliver packet buf → ¬ stackGone l.stack →
      l.inbound.send packet = some i → Stepped sm l .drain { l with inbound := i, buf }
  | deliverGone {packet : Bytes} {buf : tr.Buf} : l.tunnel = .drain →
      tr.pull l.buf = .deliver packet buf → stackGone l.stack →
      Stepped sm l .drain { l with buf, tunnel := .select }
  | skip {buf : tr.Buf} : l.tunnel = .drain → tr.pull l.buf = .skip buf →
      Stepped sm l .drain { l with buf }
  | stop {buf : tr.Buf} : l.tunnel = .drain → tr.pull l.buf = .stop buf →
      Stepped sm l .drain { l with buf, tunnel := .select }
  | exit : l.tunnel = .select → Stepped sm l .exit { l with tunnel := .done }

/-- **What a step of the two tasks can do.** -/
theorem stepped {sm : Smoltcp} {l l' : Link tr} {e : LinkEv tr} (h : l.step sm e = some l') :
    Stepped sm l e l' := by
  cases e with
  | stack e =>
      simp only [step, Option.ite_none_right_eq_some] at h
      obtain ⟨hown, h⟩ := h
      obtain ⟨s, hs, rfl⟩ := Option.map_eq_some_iff.mp h
      exact .stack hown hs
  | flush =>
      simp only [step] at h
      split at h
      · rename_i htx
        obtain ⟨s, hs, rfl⟩ := Option.map_eq_some_iff.mp h
        simp only [Netstack.step, htx, Option.ite_none_right_eq_some, Option.some.injEq] at hs
        obtain ⟨hpc, rfl⟩ := hs
        exact .flushed hpc htx
      · rename_i packet tx htx
        split at h
        · rename_i hdone
          obtain ⟨s, hs, rfl⟩ := Option.map_eq_some_iff.mp h
          simp only [Netstack.step, htx, Option.ite_none_right_eq_some, Option.some.injEq] at hs
          obtain ⟨hpc, rfl⟩ := hs
          exact .flushGone hpc htx hdone
        · rename_i hdone
          obtain ⟨o, ho, h⟩ := Option.bind_eq_some_iff.mp h
          obtain ⟨s, hs, rfl⟩ := Option.map_eq_some_iff.mp h
          simp only [Netstack.step, htx, Option.ite_none_right_eq_some, Option.some.injEq] at hs
          obtain ⟨hpc, rfl⟩ := hs
          exact .flush hpc htx hdone ho
  | ingest =>
      obtain ⟨s, hs, rfl⟩ := Option.map_eq_some_iff.mp h
      simp only [Netstack.step, Option.ite_none_right_eq_some, Option.some.injEq] at hs
      obtain ⟨⟨hpc, _⟩, rfl⟩ := hs
      exact .ingest hpc rfl
  | arrive a => cases h; exact .arrive a
  | tick =>
      simp only [step, Option.ite_none_right_eq_some, Option.some.injEq] at h
      obtain ⟨hsel, rfl⟩ := h
      exact .tick hsel
  | probe =>
      simp only [step, Option.ite_none_right_eq_some, Option.some.injEq] at h
      obtain ⟨⟨hsel, hcap⟩, rfl⟩ := h
      exact .probe hsel hcap
  | net =>
      simp only [step] at h
      split at h
      · cases h
      · rename_i ha
        simp only [Option.ite_none_right_eq_some, Option.some.injEq] at h
        obtain ⟨⟨hsel, hbias⟩, rfl⟩ := h
        exact .net ha hsel hbias
  | outbound =>
      simp only [step, Option.ite_none_right_eq_some] at h
      obtain ⟨⟨hsel, hbias⟩, h⟩ := h
      obtain ⟨r, hr, rfl⟩ := Option.map_eq_some_iff.mp h
      exact .outbound hsel (fun hn => List.isEmpty_iff.mp (hbias hn)) hr
  | capacity ok =>
      simp only [step] at h
      split at h
      · rename_i hs; cases h; exact .capacity hs
      · cases h
  | drain =>
      simp only [step, Option.ite_none_right_eq_some] at h
      obtain ⟨hdrain, h⟩ := h
      split at h
      · rename_i hp
        split at h
        · rename_i hgone; cases h; exact .deliverGone hdrain hp hgone
        · rename_i hgone
          obtain ⟨i, hi, rfl⟩ := Option.map_eq_some_iff.mp h
          exact .deliver hdrain hp hgone hi
      · rename_i hp; cases h; exact .skip hdrain hp
      · rename_i hp; cases h; exact .stop hdrain hp
  | exit =>
      simp only [step, Option.ite_none_right_eq_some, Option.some.injEq] at h
      obtain ⟨hsel, rfl⟩ := h
      exact .exit hsel

end Link

/-! ### The circular wait -/

/-- The netstack is suspended in `flush_tx` on the full outbound channel, the tunnel in
its drain on the full inbound channel, and each is the other's only reader. -/
def Link.Deadlocked {tr : Transport} (l : Link tr) : Prop :=
  l.stack.pc = .flushTx ∧ l.stack.tx ≠ [] ∧ l.outbound.room = 0
    ∧ l.tunnel = .drain ∧ (∃ packet buf, tr.pull l.buf = .deliver packet buf)
    ∧ l.inbound.room = 0

end Aether.Tunnel
