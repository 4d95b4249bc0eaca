import Aether.Tunnel.Readiness

/-!
`masque_h2::run` as a machine: the response to the CONNECT-IP request, then one event for
each iteration of the loop.

The HTTP/2 library is the environment: an event says which branch of the `select` is
taken and what it finds. The capsules of the body are drained by the model.
-/

namespace Aether.Tunnel.H2

open Masque (CapsuleParser Capsule)
open Netstack (AssignedAddr)

/-- `quic::Control`. -/
inductive Control where
  | migrate
  | close
  deriving DecidableEq, Repr

/-- The branches of the `select`, with what they find. -/
inductive Branch where
  /-- A keepalive ping goes out or fails, at a clock reading. -/
  | keepalive (sent : Bool) (now : ℕ)
  | pong (r : Except String Unit)
  | probe
  | ctrl (c : Option Control)
  /-- A packet of the outbound channel and the result of sending it. -/
  | outbound (packet : Option Bytes) (sent : Except AetherError Unit)
  /-- A chunk of the body, an error or its end; the inbound channel takes so many more
  packets before its receiver is found gone. -/
  | data (chunk : Option (Except String Bytes)) (takes : Option ℕ)

/-- What one iteration of the loop finds: the clock at its two checks, and a branch. -/
structure Turn where
  now : ℕ
  pongNow : ℕ
  branch : Branch

inductive Ev where
  /-- An error on the way to the response. -/
  | failed (e : AetherError)
  /-- The awaited response, or the error it ends with. -/
  | response (status : Except String ℕ) (now : ℕ)
  | turn (t : Turn)

/-- The variables of `run`; `connected` says that its loop has been entered. -/
structure Loop where
  ready : Readiness
  validationTimeout : ℕ
  keepaliveTimeout : ℕ
  connected : Bool
  capsules : CapsuleParser
  awaitingPong : Bool
  pongDeadline : Option ℕ
  result : Option Outcome

namespace Loop

def start (dataCheck readyTx : Bool) (validationTimeout keepaliveTimeout : ℕ) : Loop where
  ready := .start dataCheck readyTx
  validationTimeout := validationTimeout
  keepaliveTimeout := keepaliveTimeout
  connected := false
  capsules := .new
  awaitingPong := false
  pongDeadline := none
  result := none

/-- `return` from `run`. -/
def returns (s : Loop) (o : Outcome) : Loop := { s with result := some o }

/-- The next stage, unless `run` has returned. -/
def andThen (s : Loop) (f : Loop → Loop) : Loop := if s.result.isSome then s else f s

def observe (s : Loop) (o : Obs) : Loop := { s with ready := s.ready.observe o }

end Loop

/-! ### The drain -/

/-- What a drain hands on, and the parser it leaves. -/
structure Drain where
  packets : List Bytes
  assigned : List AssignedAddr
  parser : CapsuleParser

/-- `drain_capsules`, with an inbound channel that takes `takes` more packets if that is a
number. -/
def drainCapsules (takes : Option ℕ) (p : CapsuleParser) : Drain :=
  match h : p.next with
  | (.ok (some (.datagram packet)), q) =>
      have := CapsuleParser.length_next h (by simp)
      if takes = some 0 then ⟨[packet], [], q⟩
      else
        let d := drainCapsules (takes.map (· - 1)) q
        { d with packets := packet :: d.packets }
  | (.ok (some (.addressAssign addrs)), q) =>
      have := CapsuleParser.length_next h (by simp)
      let d := drainCapsules takes q
      { d with assigned := addrs.filterMap assignedAddr ++ d.assigned }
  | (.ok (some _), q) =>
      have := CapsuleParser.length_next h (by simp)
      drainCapsules takes q
  | (.ok none, q) => ⟨[], [], q⟩
  | (.error _, q) => ⟨[], [], q⟩
termination_by p.buf.length

/-! ### The response -/

/-- The status of the response, and the start of the validation. -/
def onResponse (s : Loop) (status : Except String ℕ) (now : ℕ) : Loop :=
  match status with
  | .error e => s.returns (.error (.masque s!"await response: {e}"))
  | .ok code =>
      let s := s.observe (.status code)
      if !isSuccess code then s.returns (.error (.masque s!"h2 connect-ip status {code}"))
      else { s with connected := true, ready := s.ready.begin now s.validationTimeout }

/-! ### The stages of an iteration -/

/-- The check of the validation deadline. -/
def checkDeadline (t : Turn) (s : Loop) : Loop :=
  if s.ready.expired t.now then
    s.returns (.error (.masque "h2 data-plane validation timeout (handshake ok, no traffic)"))
  else s

/-- The check of the keepalive deadline. -/
def checkPong (t : Turn) (s : Loop) : Loop :=
  if s.pongDeadline.any (· ≤ t.pongNow) then s.returns (.error (.masque "h2 keepalive timeout"))
  else s

/-- The branch of the `select`. -/
def select (t : Turn) (s : Loop) : Loop :=
  match t.branch with
  | .keepalive sent now =>
      if sent then { s with awaitingPong := true, pongDeadline := some (now + s.keepaliveTimeout) }
      else s
  | .pong (.ok ()) => { s with awaitingPong := false, pongDeadline := none }
  | .pong (.error e) => s.returns (.error (.masque s!"h2 keepalive: {e}"))
  | .probe => s
  | .ctrl (some .migrate) => s
  | .ctrl (some .close) => s.returns (.ok ())
  | .ctrl none => s.returns (.ok ())
  | .outbound (some _) (.ok ()) => s
  | .outbound (some _) (.error e) => s.returns (.error e)
  | .outbound none _ => s.returns (.ok ())
  | .data (some (.ok chunk)) takes =>
      let d := drainCapsules takes (s.capsules.push chunk)
      { s with
        capsules := d.parser
        ready := (s.ready.observeAll (d.assigned.map .assigned)).count !d.packets.isEmpty }
  | .data (some (.error e)) _ => (s.observe .reset).returns (.error (.masque s!"h2 body: {e}"))
  | .data none _ => (s.observe .finished).returns (.ok ())

/-- One iteration. -/
def iterate (t : Turn) (s : Loop) : Loop :=
  (checkDeadline t s).andThen fun s => (checkPong t s).andThen (select t)

/-- Whether the branch of the `select` is enabled. -/
def enabled (s : Loop) : Branch → Bool
  | .keepalive _ _ => s.ready.readyFired && !s.awaitingPong
  | .pong _ => s.awaitingPong
  | .probe => s.ready.dataCheck && !s.ready.readyFired
  | _ => true

/-- One event of a `run` that has not returned. -/
def step (s : Loop) : Ev → Option Loop
  | .failed e =>
      if s.result = none ∧ s.connected = false then some (s.returns (.error e)) else none
  | .response status now =>
      if s.result = none ∧ s.connected = false then some (onResponse s status now) else none
  | .turn t =>
      if s.result = none ∧ s.connected = true ∧ enabled s t.branch then some (iterate t s)
      else none

/-! ### What an event does -/

lemma Loop.andThen_returned (o : Outcome) (s : Loop) (f : Loop → Loop) :
    (s.returns o).andThen f = s.returns o := rfl

lemma Loop.andThen_running {s : Loop} (hr : s.result = none) (f : Loop → Loop) :
    s.andThen f = f s := by
  simp [Loop.andThen, hr]

/-- An iteration returns from one of the checks or goes on to its branch. -/
lemma iterate_cases {s : Loop} (hr : s.result = none) (t : Turn) :
    (∃ e, iterate t s = s.returns (.error e)) ∨ iterate t s = select t s := by
  rw [iterate, checkDeadline]
  split
  · exact .inl ⟨_, Loop.andThen_returned ..⟩
  · rw [Loop.andThen_running hr, checkPong]
    split
    · exact .inl ⟨_, Loop.andThen_returned ..⟩
    · rw [Loop.andThen_running hr]
      exact .inr rfl

/-- An event returns an error, brings the response, or runs an enabled branch. -/
lemma step_cases {s s' : Loop} {e : Ev} (h : step s e = some s') :
    s.result = none ∧ ((∃ err, s' = s.returns (.error err))
      ∨ (∃ status now, s.connected = false ∧ s' = onResponse s status now)
      ∨ ∃ t, e = .turn t ∧ s.connected = true ∧ enabled s t.branch = true ∧ s' = select t s) := by
  cases e with
  | failed err =>
      obtain ⟨⟨hr, -⟩, h⟩ := Option.ite_none_right_eq_some.mp h
      exact ⟨hr, .inl ⟨err, (Option.some.inj h).symm⟩⟩
  | response status now =>
      obtain ⟨⟨hr, hc⟩, h⟩ := Option.ite_none_right_eq_some.mp h
      exact ⟨hr, .inr (.inl ⟨status, now, hc, (Option.some.inj h).symm⟩)⟩
  | turn t =>
      obtain ⟨⟨hr, hc, he⟩, h⟩ := Option.ite_none_right_eq_some.mp h
      refine ⟨hr, ?_⟩
      rcases iterate_cases hr t with ⟨err, hreturn⟩ | hselect
      · exact .inl ⟨err, (Option.some.inj h).symm.trans hreturn⟩
      · exact .inr (.inr ⟨t, rfl, hc, he, (Option.some.inj h).symm.trans hselect⟩)

end Aether.Tunnel.H2
