import Aether.Aethernoize
import Aether.Lib.Machine
import Aether.Lib.Octets

/-!
`WgTunnel::run` as a machine: its three spawned tasks, the helper tasks they
spawn, and the future of `run` itself.

The protocol object of boringtun is a parameter: three calls, each with an input
`w` for the clock and the randomness it reads. A task is at one of its awaits; an
event says which await completes and with what. What can be seen is a log, newest
entry first.
-/

namespace Aether.Wireguard

/-! ### The client id -/

def wgMsgTypeMin : UInt8 := 1
def wgMsgTypeMax : UInt8 := 4

/-- The reserved bytes of a WireGuard message, written over. -/
def setReserved (pkt : Bytes) (reserved : Bytes) : Bytes :=
  match pkt with
  | ty :: _ :: _ :: _ :: rest =>
      if ty < wgMsgTypeMin ∨ wgMsgTypeMax < ty then pkt else ty :: reserved ++ rest
  | _ => pkt

/-- `inject_client_id`. -/
def injectClientId (pkt clientId : Bytes) : Bytes := setReserved pkt clientId

/-- `strip_client_id`. -/
def stripClientId (pkt : Bytes) : Bytes := setReserved pkt [0, 0, 0]

/-! ### The protocol object -/

/-- boringtun's `TunnResult`. -/
inductive TunnResult where
  | done
  | err (e : String)
  | writeToNetwork (pkt : Bytes)
  | writeToTunnelV4 (pkt : Bytes)
  | writeToTunnelV6 (pkt : Bytes)
  deriving DecidableEq, Repr

/-- boringtun's `Tunn`: the calls of the tunnel. -/
structure Tunn (T ω : Type) where
  encapsulate : ω → T → Bytes → TunnResult × T
  decapsulate : ω → T → Bytes → TunnResult × T
  updateTimers : ω → T → TunnResult × T

/-! ### The state -/

/-- The tasks that `run` spawns. -/
inductive Task where
  | recv
  | send
  | timer
  deriving DecidableEq, Repr

/-- Where the recv task is; `gone` is not spawned yet, or ended. -/
inductive RecvPc where
  | recv
  | lock (datagram : Bytes)
  | send (pkt : Bytes)
  | deliver (pkt : Bytes)
  | gone
  deriving DecidableEq

inductive SendPc where
  | recv
  | lock (packet : Bytes)
  | obfuscate (pkt : Bytes)
  /-- In `apply_obfuscation`, with the datagrams it still sends. -/
  | cover (junk : List Bytes) (pkt : Bytes)
  | send (pkt : Bytes)
  | gone
  deriving DecidableEq

inductive TimerPc where
  | tick
  | lock
  | send (pkt : Bytes)
  | gone
  deriving DecidableEq

/-- The future of `run`. -/
inductive Phase where
  | idle
  | running
  | returned
  | aborted
  deriving DecidableEq, Repr

/-- What can be seen of a tunnel. `handled` is the recv loop's turn to the next datagram,
with the protocol object it leaves. -/
inductive Seen (T : Type) where
  | sent (task : Task) (pkt : Bytes)
  | delivered (pkt : Bytes)
  | handled (tunn : T)

/-- The datagrams that helper tasks still send are kept with the task that spawned them. -/
structure WgTunnel (T : Type) where
  tunn : T
  obfSent : Bool
  outbound : List Bytes
  /-- Someone still holds a sender of the outbound channel. -/
  outboundOpen : Bool
  phase : Phase
  recv : RecvPc
  send : SendPc
  timer : TimerPc
  helpers : List (Task × List Bytes)
  log : List (Seen T)

/-- What a tunnel is configured with. -/
structure WgConfig where
  clientId : Bytes
  aethernoize : AetherNoizeConfig

namespace WgTunnel

variable {T ω : Type}

/-- A tunnel that is not run yet. -/
def start (tunn : T) (obfSent : Bool) : WgTunnel T where
  tunn := tunn
  obfSent := obfSent
  outbound := []
  outboundOpen := true
  phase := .idle
  recv := .gone
  send := .gone
  timer := .gone
  helpers := []
  log := []

/-- `sock.send(..).await`, its result ignored. -/
def emit (s : WgTunnel T) (t : Task) (pkt : Bytes) (ok : Bool) : WgTunnel T :=
  if ok then { s with log := .sent t pkt :: s.log } else s

/-- What the recv loop has left behind at each turn, newest first. -/
def handled (s : WgTunnel T) : List T :=
  s.log.filterMap fun
    | .handled t => some t
    | _ => none

section Emit

variable (s : WgTunnel T) (t : Task) (pkt : Bytes) (ok : Bool)

@[simp] lemma emit_phase : (s.emit t pkt ok).phase = s.phase := by rw [emit]; split <;> rfl

@[simp] lemma emit_tunn : (s.emit t pkt ok).tunn = s.tunn := by rw [emit]; split <;> rfl

@[simp] lemma emit_recv : (s.emit t pkt ok).recv = s.recv := by rw [emit]; split <;> rfl

@[simp] lemma emit_handled : (s.emit t pkt ok).handled = s.handled := by rw [emit]; split <;> rfl

end Emit

/-- The recv loop turns to the next datagram. -/
def next (s : WgTunnel T) : WgTunnel T :=
  { s with recv := .recv, log := .handled s.tunn :: s.log }

end WgTunnel

/-! ### The recv task -/

/-- What the receiving task meets next. -/
inductive RecvEv (ω : Type) where
  | datagram (r : Except String Bytes)
  | locked (w : ω)
  | sent (ok : Bool)
  | delivered (ok : Bool)

section Tasks

variable {T ω : Type} (tunn : Tunn T ω) (cfg : WgConfig)

def recvStep (s : WgTunnel T) (e : RecvEv ω) : Option (WgTunnel T) :=
  match s.recv, e with
  | .recv, .datagram (.ok d) => some { s with recv := .lock (stripClientId d) }
  | .recv, .datagram (.error _) => some { s with recv := .gone }
  | .lock d, .locked w =>
      let (r, t) := tunn.decapsulate w s.tunn d
      let s := { s with tunn := t }
      match r with
      | .done => some s.next
      | .err _ => some s.next
      | .writeToNetwork pkt => some { s with recv := .send (injectClientId pkt cfg.clientId) }
      | .writeToTunnelV4 pkt => some { s with recv := .deliver pkt }
      | .writeToTunnelV6 pkt => some { s with recv := .deliver pkt }
  | .send pkt, .sent ok => some (s.emit .recv pkt ok).next
  | .deliver pkt, .delivered ok =>
      some (if ok then { s with log := .delivered pkt :: s.log } else s).next
  | _, _ => none

/-! ### The send task -/

/-- What the sending task meets next. -/
inductive SendEv (ω : Type) where
  /-- A packet, or the end of the channel. -/
  | packet
  | locked (w : ω)
  /-- The lock of `obf_sent`, and the datagrams `apply_obfuscation` goes on to send. -/
  | obfuscate (junk : List Bytes)
  | covered (ok : Bool)
  /-- The packet is out; the junk is that of `send_post_handshake_junk`. -/
  | sent (ok : Bool) (junk : List Bytes)

def sendStep (s : WgTunnel T) (e : SendEv ω) : Option (WgTunnel T) :=
  match s.send, e with
  | .recv, .packet =>
      match s.outbound with
      | p :: rest => some { s with outbound := rest, send := .lock p }
      | [] => if s.outboundOpen then none else some { s with send := .gone }
  | .lock p, .locked w =>
      let (r, t) := tunn.encapsulate w s.tunn p
      let s := { s with tunn := t }
      match r with
      | .writeToNetwork pkt => some { s with send := .obfuscate (injectClientId pkt cfg.clientId) }
      | _ => some { s with send := .recv }
  | .obfuscate pkt, .obfuscate junk =>
      if !s.obfSent && cfg.aethernoize.isEnabled then
        some { s with obfSent := true, send := .cover junk pkt }
      else some { s with send := .send pkt }
  | .cover (d :: junk) pkt, .covered ok => some { s.emit .send d ok with send := .cover junk pkt }
  | .cover [] pkt, .covered _ => some { s with send := .send pkt }
  | .send pkt, .sent ok junk =>
      let s := { s.emit .send pkt ok with send := .recv }
      if cfg.aethernoize.jcAfterHs > 0 then
        if junk.length = cfg.aethernoize.jcAfterHs then
          some { s with helpers := s.helpers ++ [(.send, junk)] }
        else none
      else some s
  | _, _ => none

/-! ### The timer task -/

/-- How many datagrams `send_keepalive_junk` may send. -/
def keepaliveJunk (cfg : AetherNoizeConfig) (count : ℕ) : Prop :=
  max cfg.jcBeforeHs 1 ≤ count ∧ count ≤ 2 * max cfg.jcBeforeHs 1

instance (cfg : AetherNoizeConfig) (count : ℕ) : Decidable (keepaliveJunk cfg count) :=
  inferInstanceAs (Decidable (_ ∧ _))

/-- What the timer task meets next. -/
inductive TimerEv (ω : Type) where
  | tick
  /-- The junk is that of `send_keepalive_junk`. -/
  | locked (w : ω) (junk : List Bytes)
  | sent (ok : Bool)

def timerStep (s : WgTunnel T) (e : TimerEv ω) : Option (WgTunnel T) :=
  match s.timer, e with
  | .tick, .tick => some { s with timer := .lock }
  | .lock, .locked w junk =>
      let (r, t) := tunn.updateTimers w s.tunn
      let s := { s with tunn := t }
      match r with
      | .writeToNetwork pkt =>
          let pkt := injectClientId pkt cfg.clientId
          if cfg.aethernoize.isEnabled then
            if keepaliveJunk cfg.aethernoize junk.length then
              some { s with timer := .tick, helpers := s.helpers ++ [(.timer, junk ++ [pkt])] }
            else none
          else some { s with timer := .send pkt }
      | _ => some { s with timer := .tick }
  | .send pkt, .sent ok => some { s.emit .timer pkt ok with timer := .tick }
  | _, _ => none

/-! ### The whole tunnel -/

/-- A step of `run`, of one of its tasks, or of the environment. -/
inductive Ev (ω : Type) where
  /-- `run` is polled for the first time. -/
  | run
  /-- A packet enters the outbound channel. -/
  | queue (p : Bytes)
  /-- The last sender of the outbound channel is dropped. -/
  | hangup
  | recv (e : RecvEv ω)
  | send (e : SendEv ω)
  | timer (e : TimerEv ω)
  /-- A helper task sends its next datagram. -/
  | helper (i : ℕ) (ok : Bool)
  /-- A panic ends a task. -/
  | panics (t : Task)
  /-- The `select` of `run` finds a task ended. -/
  | returns
  /-- The future of `run` is dropped. -/
  | aborts

def step (s : WgTunnel T) : Ev ω → Option (WgTunnel T)
  | .run =>
      if s.phase = .idle then
        some { s with phase := .running, recv := .recv, send := .recv, timer := .tick }
      else none
  | .queue p => if s.outboundOpen then some { s with outbound := s.outbound ++ [p] } else none
  | .hangup => if s.outboundOpen then some { s with outboundOpen := false } else none
  | .recv e => recvStep tunn cfg s e
  | .send e => sendStep tunn cfg s e
  | .timer e => timerStep tunn cfg s e
  | .helper i ok =>
      match s.helpers[i]? with
      | some (t, d :: junk) => some { s.emit t d ok with helpers := s.helpers.set i (t, junk) }
      | _ => none
  | .panics .recv => if s.recv ≠ .gone then some { s with recv := .gone } else none
  | .panics .send => if s.send ≠ .gone then some { s with send := .gone } else none
  | .panics .timer => if s.timer ≠ .gone then some { s with timer := .gone } else none
  | .returns =>
      if s.phase = .running ∧ (s.recv = .gone ∨ s.send = .gone ∨ s.timer = .gone) then
        some { s with phase := .returned }
      else none
  -- dropping the join handles detaches the tasks
  | .aborts =>
      if s.phase = .idle ∨ s.phase = .running then some { s with phase := .aborted } else none

end Tasks

/-! ### What the tasks leave alone -/

section Frame

variable {T ω : Type} {tunn : Tunn T ω} {cfg : WgConfig} {s t : WgTunnel T}

lemma recvStep_phase {e : RecvEv ω} (h : recvStep tunn cfg s e = some t) : t.phase = s.phase := by
  simp only [recvStep] at h
  split at h
  · cases h; rfl
  · cases h; rfl
  · split at h <;> (cases h; rfl)
  · cases h
    exact WgTunnel.emit_phase ..
  · cases h
    split <;> rfl
  · cases h

/-- The send task leaves `run` and the recv task alone, and at most encapsulates. -/
lemma sendStep_frame {e : SendEv ω} (h : sendStep tunn cfg s e = some t) :
    t.phase = s.phase ∧ t.recv = s.recv ∧ t.handled = s.handled
      ∧ (t.tunn = s.tunn ∨ ∃ w p, t.tunn = (tunn.encapsulate w s.tunn p).2) := by
  have hemit (pkt : Bytes) (ok : Bool) : (s.emit .send pkt ok).phase = s.phase
      ∧ (s.emit .send pkt ok).recv = s.recv ∧ (s.emit .send pkt ok).handled = s.handled
      ∧ ((s.emit .send pkt ok).tunn = s.tunn
        ∨ ∃ w p, (s.emit .send pkt ok).tunn = (tunn.encapsulate w s.tunn p).2) :=
    ⟨WgTunnel.emit_phase .., WgTunnel.emit_recv .., WgTunnel.emit_handled ..,
      .inl (WgTunnel.emit_tunn ..)⟩
  simp only [sendStep] at h
  split at h
  · split at h
    · cases h; exact ⟨rfl, rfl, rfl, .inl rfl⟩
    · split at h
      · cases h
      · cases h; exact ⟨rfl, rfl, rfl, .inl rfl⟩
  · split at h <;> (cases h; exact ⟨rfl, rfl, rfl, .inr ⟨_, _, rfl⟩⟩)
  · split at h <;> (cases h; exact ⟨rfl, rfl, rfl, .inl rfl⟩)
  · cases h; exact hemit ..
  · cases h; exact ⟨rfl, rfl, rfl, .inl rfl⟩
  · split at h
    · split at h
      · cases h; exact hemit ..
      · cases h
    · cases h; exact hemit ..
  · cases h

/-- So does the timer task, which at most updates the timers. -/
lemma timerStep_frame {e : TimerEv ω} (h : timerStep tunn cfg s e = some t) :
    t.phase = s.phase ∧ t.recv = s.recv ∧ t.handled = s.handled
      ∧ (t.tunn = s.tunn ∨ ∃ w, t.tunn = (tunn.updateTimers w s.tunn).2) := by
  simp only [timerStep] at h
  split at h
  · cases h; exact ⟨rfl, rfl, rfl, .inl rfl⟩
  · split at h
    · split at h
      · split at h
        · cases h; exact ⟨rfl, rfl, rfl, .inr ⟨_, rfl⟩⟩
        · cases h
      · cases h; exact ⟨rfl, rfl, rfl, .inr ⟨_, rfl⟩⟩
    · cases h; exact ⟨rfl, rfl, rfl, .inr ⟨_, rfl⟩⟩
  · cases h
    exact ⟨WgTunnel.emit_phase .., WgTunnel.emit_recv .., WgTunnel.emit_handled ..,
      .inl (WgTunnel.emit_tunn ..)⟩
  · cases h

end Frame

end Aether.Wireguard
