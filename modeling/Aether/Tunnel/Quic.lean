import Aether.Masque.Datagram
import Aether.Tunnel.Readiness

/-!
`quic::run` as a machine: one event is one iteration of its loop.

The QUIC and HTTP/3 libraries are the environment. An event says what the iteration
finds in them: whether the handshake is through, the stream the request goes out on, the
HTTP/3 events of the request stream and how their polling ends, the datagrams, the
result of the flush, and whether the connection is closed. An iteration is the sequence
of its stages, and a stage that returns from `run` skips the rest.
-/

namespace Aether.Tunnel.Quic

open Masque (CapsuleParser Capsule decodeIpDatagram packetsOf)
open Netstack (AssignedAddr)

/-- `h3::Event`, with the stream it is about. `status` is the value of the `:status`
field, if the header list has one. -/
inductive H3Event where
  | headers (stream : ℕ) (status : Option ℕ)
  | data (stream : ℕ) (body : Bytes)
  | finished (stream : ℕ)
  | reset (stream : ℕ)
  | other (stream : ℕ)

/-- The branches of the `select`. -/
inductive Branch where
  | keepalive
  | probe
  | net
  | ctrl
  | outbound
  | timeout
  deriving DecidableEq, Repr

/-- What one iteration of the loop finds. -/
structure Turn where
  /-- The clock at the head of the loop. -/
  now : ℕ
  branch : Branch
  established : Bool
  /-- `h3::Connection::with_transport` and `send_request`. -/
  request : Except AetherError ℕ
  requestAt : ℕ
  events : List H3Event
  /-- The error that ended the polling, if it was not `Done`. -/
  h3Error : Option String
  dgrams : List Bytes
  flush : Except AetherError Unit
  closed : Bool
  /-- `tls::extract_ech_retry_configs`. -/
  retryConfigs : Option Bytes
  /-- `quiche::connect`, `inject_ech` and the first flush of a reconnect. -/
  reconnect : Except AetherError Unit

/-- A turn on an established connection in which nothing fails. -/
def Turn.plain (events : List H3Event) (dgrams : List Bytes) : Turn where
  now := 0
  branch := .net
  established := true
  request := .ok 0
  requestAt := 1
  events := events
  h3Error := none
  dgrams := dgrams
  flush := .ok ()
  closed := false
  retryConfigs := none
  reconnect := .ok ()

/-- The variables of the loop. -/
structure Loop where
  ready : Readiness
  validationTimeout : ℕ
  currentEch : Option Bytes
  h3Conn : Bool
  reqStream : Option ℕ
  capsules : CapsuleParser
  establishedEver : Bool
  echRetried : Bool
  result : Option Outcome

namespace Loop

def start (dataCheck readyTx : Bool) (validationTimeout : ℕ) (ech : Option Bytes) : Loop where
  ready := .start dataCheck readyTx
  validationTimeout := validationTimeout
  currentEch := ech
  h3Conn := false
  reqStream := none
  capsules := .new
  establishedEver := false
  echRetried := false
  result := none

/-- `return` from `run`. -/
def returns (s : Loop) (o : Outcome) : Loop := { s with result := some o }

/-- The next stage, unless `run` has returned. -/
def andThen (s : Loop) (f : Loop → Loop) : Loop := if s.result.isSome then s else f s

end Loop

/-! ### The stages of an iteration -/

/-- The check of the validation deadline. -/
def checkDeadline (t : Turn) (s : Loop) : Loop :=
  if s.ready.expired t.now then
    s.returns (.error (.masque "data-plane validation timeout (handshake ok, no traffic)"))
  else s

/-- The request, as soon as the handshake is through. -/
def sendRequest (t : Turn) (s : Loop) : Loop :=
  if t.established && !s.h3Conn then
    match t.request with
    | .error e => { s with establishedEver := true }.returns (.error e)
    | .ok sid =>
        { s with
          establishedEver := true
          reqStream := some sid
          h3Conn := true
          ready := s.ready.begin t.requestAt s.validationTimeout }
  else s

/-- `drain_capsules`: the addresses handed to the bridge, and the parser left behind. -/
def drainCapsules (p : CapsuleParser) : List AssignedAddr × CapsuleParser :=
  match h : p.next with
  | (.ok (some (.addressAssign addrs)), q) =>
      have := CapsuleParser.length_next h (by simp)
      (addrs.filterMap assignedAddr ++ (drainCapsules q).1, (drainCapsules q).2)
  | (.ok (some _), q) =>
      have := CapsuleParser.length_next h (by simp)
      drainCapsules q
  | (.ok none, q) => ([], q)
  | (.error _, q) => ([], q)
termination_by p.buf.length

/-- One event of `poll_h3`: a status is only logged, and so are the end and the reset of
the stream. -/
def onH3Event (sid : ℕ) (s : Loop) : H3Event → Loop
  | .headers stream (some code) =>
      if stream = sid then { s with ready := s.ready.observe (.status code) } else s
  | .data stream body =>
      if stream = sid then
        let (assigned, capsules) := drainCapsules (s.capsules.push body)
        { s with capsules, ready := s.ready.observeAll (assigned.map .assigned) }
      else s
  | .finished stream => if stream = sid then { s with ready := s.ready.observe .finished } else s
  | .reset stream => if stream = sid then { s with ready := s.ready.observe .reset } else s
  | _ => s

/-- `poll_h3`. -/
def pollH3 (t : Turn) (s : Loop) : Loop :=
  match s.h3Conn, s.reqStream with
  | true, some sid =>
      let s := t.events.foldl (onH3Event sid) s
      match t.h3Error with
      | some e => s.returns (.error (.h3 e))
      | none => s
  | _, _ => s

/-- Whether `drain_datagrams` delivers something. -/
def gotData (t : Turn) (reqStream : Option ℕ) : Bool :=
  match reqStream with
  | some sid => t.dgrams.any fun d => (decodeIpDatagram d sid).toOption.join.isSome
  | none => false

/-- `drain_datagrams` and the counting. -/
def drain (t : Turn) (s : Loop) : Loop :=
  { s with ready := s.ready.count (gotData t s.reqStream) }

def flush (t : Turn) (s : Loop) : Loop :=
  match t.flush with
  | .error e => s.returns (.error e)
  | .ok () => s

/-- The end of the iteration on a closed connection: one reconnect with the server's ECH
configuration, or the end. -/
def onClosed (t : Turn) (s : Loop) : Loop :=
  if t.closed then
    match !s.establishedEver && !s.echRetried && s.currentEch.isSome, t.retryConfigs with
    | true, some retry =>
        let s := { s with
          echRetried := true
          currentEch := some retry
          ready := s.ready.observe (.reconnect s.ready.validateSuccesses s.ready.validateDeadline
            s.reqStream s.ready.readyFired) }
        match t.reconnect with
        | .error e => s.returns (.error e)
        | .ok () => { s with h3Conn := false, reqStream := none, capsules := .new }
    | _, _ => s.returns (.ok ())
  else s

/-- One iteration. -/
def iterate (t : Turn) (s : Loop) : Loop :=
  (checkDeadline t s).andThen fun s =>
    (sendRequest t s).andThen fun s =>
      (pollH3 t s).andThen fun s =>
        (flush t (drain t s)).andThen (onClosed t)

/-- Whether the branch of the `select` is enabled. -/
def enabled (s : Loop) : Branch → Bool
  | .probe => s.ready.dataCheck && !s.ready.readyFired
  | _ => true

/-- One iteration of a loop that has not returned. The branch is taken after the check of
the deadline. -/
def step (s : Loop) (t : Turn) : Option Loop :=
  if s.result = none ∧ enabled s t.branch then some (iterate t s) else none

/-- A drain delivers something if one of the datagrams is a packet. -/
lemma gotData_eq (t : Turn) (stream : Option ℕ) :
    gotData t stream = !(packetsOf stream t.dgrams).isEmpty := by
  cases stream with
  | none => rfl
  | some sid =>
      rw [Bool.eq_iff_iff]
      simp [gotData, packetsOf, List.filterMap_eq_nil_iff, Option.isSome_iff_ne_none]

/-- A step is an iteration of a loop that has not returned. -/
lemma step_spec {s s' : Loop} {t : Turn} (h : step s t = some s') :
    s.result = none ∧ s' = iterate t s := by
  rw [step, Option.ite_none_right_eq_some, Option.some.injEq] at h
  exact ⟨h.1.1, h.2.symm⟩

/-- What holds if `run` has returned and after the next stage if it has not. -/
lemma Loop.andThen_rule {P : Loop → Prop} {s : Loop} {f : Loop → Loop} (h : P s)
    (hf : s.result = none → P (f s)) : P (s.andThen f) := by
  rw [Loop.andThen]
  split
  · exact h
  · rename_i hr
    exact hf (Option.not_isSome_iff_eq_none.mp hr)

lemma andThen_running {s : Loop} (hr : s.result = none) (f : Loop → Loop) :
    s.andThen f = f s := by
  simp [Loop.andThen, hr]

lemma andThen_returned {s : Loop} (hr : s.result.isSome) (f : Loop → Loop) :
    s.andThen f = s := by
  simp [Loop.andThen, hr]

/-- A stage is reached only if none before it returns. -/
lemma Loop.andThen_eq {s : Loop} {f : Loop → Loop} (h : (s.andThen f).result = none) :
    s.result = none ∧ s.andThen f = f s := by
  by_cases hr : s.result.isSome
  · rw [andThen_returned hr] at h
    rw [h] at hr
    cases hr
  · have hnone := Option.not_isSome_iff_eq_none.mp hr
    exact ⟨hnone, andThen_running hnone f⟩

lemma checkDeadline_eq {t : Turn} {s : Loop} (h : s.ready.expired t.now = false) :
    checkDeadline t s = s := by
  rw [checkDeadline, h, if_neg Bool.false_ne_true]

lemma flush_eq {t : Turn} {s : Loop} (h : t.flush = .ok ()) : flush t s = s := by
  rw [flush, h]

lemma onClosed_eq {t : Turn} {s : Loop} (h : t.closed = false) : onClosed t s = s := by
  rw [onClosed, h, if_neg Bool.false_ne_true]

/-- An iteration that does not return goes through all its stages. -/
lemma iterate_eq {t : Turn} {s : Loop} (h : (iterate t s).result = none) :
    s.ready.expired t.now = false ∧ (sendRequest t s).result = none
      ∧ (pollH3 t (sendRequest t s)).result = none
      ∧ iterate t s = onClosed t (drain t (pollH3 t (sendRequest t s))) := by
  obtain ⟨hdeadline, hiter⟩ := Loop.andThen_eq h
  have hexp : s.ready.expired t.now = false := by
    by_contra hexp
    rw [checkDeadline, if_pos (Bool.of_not_eq_false hexp)] at hdeadline
    cases hdeadline
  have hcheck := checkDeadline_eq hexp
  rw [iterate, hiter, hcheck] at h
  obtain ⟨hsend, hiter'⟩ := Loop.andThen_eq h
  rw [hiter'] at h
  obtain ⟨hpoll, hiter''⟩ := Loop.andThen_eq h
  rw [hiter''] at h
  obtain ⟨hflushed, hclosed⟩ := Loop.andThen_eq h
  refine ⟨hexp, hsend, hpoll, ?_⟩
  rw [iterate, hiter, hcheck, hiter', hiter'', hclosed]
  cases hf : t.flush with
  | error e =>
      rw [flush, hf] at hflushed
      cases hflushed
  | ok u => rw [flush_eq hf]

/-! ### What the HTTP/3 events do -/

/-- What an observer sees of an event of the request stream. -/
def seen (sid : ℕ) : H3Event → List Obs
  | .headers stream (some code) => if stream = sid then [.status code] else []
  | .finished stream => if stream = sid then [.finished] else []
  | .reset stream => if stream = sid then [.reset] else []
  | _ => []

lemma mem_ite_singleton {α : Type} {a b : α} {c : Prop} [Decidable c]
    (h : a ∈ if c then [b] else []) : a = b := by
  split at h
  · exact List.mem_singleton.mp h
  · cases h

lemma seen_plain {sid : ℕ} {e : H3Event} {o : Obs} (h : o ∈ seen sid e) : o.Plain := by
  cases e with
  | headers stream status =>
      cases status with
      | none => cases h
      | some code => rw [mem_ite_singleton h]; trivial
  | finished stream => rw [mem_ite_singleton h]; trivial
  | reset stream => rw [mem_ite_singleton h]; trivial
  | data | other => cases h

/-- An event is seen, pushes capsules, and hands assigned addresses on. -/
lemma onH3Event_frame (sid : ℕ) (s : Loop) (e : H3Event) :
    ∃ p, ∃ as : List AssignedAddr, onH3Event sid s e
    = { s with capsules := p, ready := s.ready.observeAll (seen sid e ++ as.map .assigned) } := by
  cases e with
  | headers stream status =>
      cases status with
      | none => exact ⟨s.capsules, [], rfl⟩
      | some code =>
          simp only [onH3Event, seen]
          split <;> exact ⟨s.capsules, [], rfl⟩
  | data stream body =>
      simp only [onH3Event, seen]
      split
      · exact ⟨_, (drainCapsules (s.capsules.push body)).1, rfl⟩
      · exact ⟨s.capsules, [], rfl⟩
  | finished stream | reset stream =>
      simp only [onH3Event, seen]
      split <;> exact ⟨s.capsules, [], rfl⟩
  | other stream => exact ⟨s.capsules, [], rfl⟩

/-- So do all events of a poll. -/
lemma events_frame (sid : ℕ) (s : Loop) (events : List H3Event) : ∃ p os,
    events.foldl (onH3Event sid) s = { s with capsules := p, ready := s.ready.observeAll os }
      ∧ (∀ o ∈ os, o.Plain)
      ∧ ∀ o, (∀ a, o ≠ .assigned a) → (o ∈ os ↔ ∃ e ∈ events, o ∈ seen sid e) := by
  induction events generalizing s with
  | nil => exact ⟨s.capsules, [], rfl, (by simp), fun o _ => by simp⟩
  | cons e events ih =>
      obtain ⟨p, as, he⟩ := onH3Event_frame sid s e
      obtain ⟨p', os, hes, hplain, hmem⟩ := ih (onH3Event sid s e)
      refine ⟨p', seen sid e ++ as.map .assigned ++ os, ?_, ?_, ?_⟩
      · rw [List.foldl_cons, hes, he]
        simp only [Readiness.observeAll, List.foldl_append]
      · intro o ho
        rcases List.mem_append.mp ho with ho | ho
        · rcases List.mem_append.mp ho with ho | ho
          · exact seen_plain ho
          · obtain ⟨a, _, rfl⟩ := List.mem_map.mp ho
            trivial
        · exact hplain o ho
      · intro o hne
        have hno : o ∉ as.map Obs.assigned := by
          intro ho
          obtain ⟨a, _, ha⟩ := List.mem_map.mp ho
          exact hne a ha.symm
        simp [hno, hmem o hne]

/-! ### Iterations that return nothing -/

/-- A poll that does not fail only observes and pushes capsules. -/
lemma pollH3_frame {t : Turn} {s : Loop} (h : (pollH3 t s).result = none) : ∃ p os,
    pollH3 t s = { s with capsules := p, ready := s.ready.observeAll os }
      ∧ ∀ o ∈ os, o.Plain := by
  rw [pollH3] at h ⊢
  split at h
  · rename_i sid _ _
    obtain ⟨p, os, hes, hplain, _⟩ := events_frame sid s t.events
    dsimp only at h ⊢
    split at h
    · cases h
    · exact ⟨p, os, hes, hplain⟩
  · exact ⟨s.capsules, [], rfl, fun o ho => absurd ho List.not_mem_nil⟩

/-- An iteration over an open connection whose request is sent counts the drain. -/
lemma iterate_connected {t : Turn} {s : Loop} {sid : ℕ} (hc : s.h3Conn = true)
    (hsid : s.reqStream = some sid) (hopen : t.closed = false)
    (h : (iterate t s).result = none) : ∃ p os,
    iterate t s = { s with
      capsules := p, ready := (s.ready.observeAll os).count (gotData t (some sid)) } := by
  obtain ⟨_, _, hpoll, hiter⟩ := iterate_eq h
  have hsend : sendRequest t s = s := by
    simp [sendRequest, hc]
  rw [hsend] at hpoll hiter
  obtain ⟨p, os, hpolled, _⟩ := pollH3_frame hpoll
  refine ⟨p, os, ?_⟩
  rw [hiter, onClosed_eq hopen, hpolled, drain, hsid]

/-- The request is sent in the iteration that finds the handshake complete. -/
lemma iterate_h3Conn {t : Turn} {s : Loop} (he : t.established = true)
    (hopen : t.closed = false) (h : (iterate t s).result = none) :
    (iterate t s).h3Conn = true := by
  obtain ⟨_, hsend, hpoll, hiter⟩ := iterate_eq h
  obtain ⟨p, os, hpolled, _⟩ := pollH3_frame hpoll
  rw [hiter, onClosed_eq hopen, hpolled]
  show (sendRequest t s).h3Conn = true
  rw [sendRequest] at hsend ⊢
  split at hsend
  · rename_i hnew
    rw [if_pos hnew]
    split at hsend
    · cases hsend
    · rfl
  · rename_i hnew
    rw [if_neg hnew]
    simpa [he] using hnew

lemma observeAll_keeps {P : Readiness → Prop} (hobs : ∀ r o, P r → P (r.observe o))
    {r : Readiness} {os : List Obs} (h : P r) : P (r.observeAll os) := by
  induction os generalizing r with
  | nil => exact h
  | cons o os ih => exact ih (hobs r o h)

/-- What the operations of `Readiness` preserve, an iteration preserves. -/
lemma step_ready {P : Readiness → Prop}
    (hbegin : ∀ r now timeout, P r → P (r.begin now timeout))
    (hobs : ∀ r o, P r → P (r.observe o)) (hcount : ∀ r g, P r → P (r.count g))
    {s s' : Loop} {t : Turn} (h : P s.ready) (hs : step s t = some s') : P s'.ready := by
  obtain ⟨_, rfl⟩ := step_spec hs
  have hcheck : P (checkDeadline t s).ready := by
    rw [checkDeadline]
    split <;> exact h
  refine Loop.andThen_rule (P := fun s => P s.ready) hcheck fun _ => ?_
  have hsend : P (sendRequest t (checkDeadline t s)).ready := by
    rw [sendRequest]
    split
    · split
      · exact hcheck
      · exact hbegin _ _ _ hcheck
    · exact hcheck
  refine Loop.andThen_rule (P := fun s => P s.ready) hsend fun _ => ?_
  generalize sendRequest t (checkDeadline t s) = s₁ at hsend ⊢
  have hpoll : P (pollH3 t s₁).ready := by
    rw [pollH3]
    split
    · rename_i sid _ _
      obtain ⟨p, os, heq, -, -⟩ := events_frame sid s₁ t.events
      have hfold : P (t.events.foldl (onH3Event sid) s₁).ready := by
        rw [heq]
        exact observeAll_keeps hobs hsend
      dsimp only
      split <;> exact hfold
    · exact hsend
  refine Loop.andThen_rule (P := fun s => P s.ready) hpoll fun _ => ?_
  have hflush : P (flush t (drain t (pollH3 t s₁))).ready := by
    rw [flush]
    split <;> exact hcount _ _ hpoll
  refine Loop.andThen_rule (P := fun s => P s.ready) hflush fun _ => ?_
  rw [onClosed]
  split
  · split
    · dsimp only
      split <;> exact hobs _ _ hflush
    · exact hflush
  · exact hflush

/-- A turn in which nothing fails and HTTP/3 has nothing to say. -/
structure Turn.Calm (t : Turn) : Prop where
  request : ∃ sid, t.request = .ok sid
  events : t.events = []
  h3Error : t.h3Error = none
  flush : t.flush = .ok ()
  closed : t.closed = false

/-- Such a turn sends the request if it is due, and counts the drain. -/
lemma Turn.Calm.iterate {t : Turn} {s : Loop} (h : t.Calm) (hr : s.result = none)
    (hexp : s.ready.expired t.now = false) :
    Quic.iterate t s = drain t (sendRequest t s) ∧ (sendRequest t s).result = none := by
  obtain ⟨sid, hreq⟩ := h.request
  have hsend : (sendRequest t s).result = none := by
    rw [sendRequest, hreq]
    split <;> exact hr
  have hpoll : pollH3 t (sendRequest t s) = sendRequest t s := by
    rw [pollH3, h.events, h.h3Error]
    split <;> rfl
  have hdrain : (drain t (sendRequest t s)).result = none := hsend
  refine ⟨?_, hsend⟩
  rw [Quic.iterate, checkDeadline_eq hexp, andThen_running hr, andThen_running hsend, hpoll,
    andThen_running hsend, flush_eq h.flush, andThen_running hdrain, onClosed_eq h.closed]

end Aether.Tunnel.Quic
