import Aether.Netstack.Lookups

/-!
An observer of the openings of connections.

`service_tcp` reports a connection when it sees its socket in `Established`, and
refuses it when it sees it closed before that. It looks once after each poll, and one
poll may take a socket through several states. The observer knows these states, the
payload that arrived, and which command opened which connection (`Watch`).

* `Lawful`: what holds of every environment: a poll walks along the TCP state machine,
  payload comes after the handshake, every command has an answer channel of its own,
  and only a reported connection is half-closed.
* `Seen`: a poll that completes a handshake leaves the socket `Established`.
* `Answered`: how the opener of a connection is answered; `Told.answered`: it is, wherever
  the opening stands.
-/

namespace Aether.Netstack

/-! ### The observer -/

/-- The states in which the handshake is complete. -/
def State.synchronized : State → Bool
  | .established | .finWait1 | .finWait2 | .closeWait | .closing | .lastAck | .timeWait => true
  | _ => false

/-- The states that a packet or a timer can lead to. -/
def State.next : State → List State
  | .closed => []
  | .listen => [.synReceived]
  | .synSent => [.established, .synReceived, .closed]
  | .synReceived => [.established, .closeWait, .closed, .listen]
  | .established => [.closeWait, .closed]
  | .finWait1 => [.finWait2, .closing, .timeWait, .closed]
  | .finWait2 => [.timeWait, .closed]
  | .closeWait => [.closed]
  | .closing => [.timeWait, .closed]
  | .lastAck => [.closed]
  | .timeWait => [.closed]

/-- A path of the TCP state machine. -/
def State.walks : State → List State → Bool
  | _, [] => true
  | x, y :: ys => x.next.contains y && y.walks ys

/-- The states that the socket of each connection passes through in a poll. -/
abbrev Trace := ℕ → List State

/-- What the observer knows: the connections whose handshake is complete, the payload
that arrived for each, which answer channel belongs to which connection, and the
channels that have been used. -/
structure Watch where
  done : ℕ → Bool
  payload : ℕ → Bytes
  opens : List (ℕ × ℕ)
  used : List ℕ

/-- The socket of a connection and what a poll does to it. -/
def arrives (s : NetStack) (tcp : Handle → Arrival) (id : ℕ) : Option (TcpSocket × Arrival) :=
  (s.tcpConns id).bind fun st => (s.tcp st.handle).map fun t => (t, tcp st.handle)

/-- Whether a poll completes the handshake of a connection. -/
def shakes (trace : Trace) (id : ℕ) : Bool := (trace id).any State.synchronized

def Watch.see (s : NetStack) (g : Watch) : Ev × Trace → Watch
  | (.poll tcp _ _ _ _, trace) =>
      { g with
        done := fun id => g.done id || ((arrives s tcp id).isSome && shakes trace id)
        payload := fun id => g.payload id ++ ((arrives s tcp id).map (·.2.bytes)).getD [] }
  | (.cmd (.openTcp _ resp) _ none, _) =>
      { g with opens := (resp, s.nextId) :: g.opens, used := resp :: g.used }
  | (.cmd (.openTcp _ resp) _ (some _), _) => { g with used := resp :: g.used }
  | (.cmd (.openUdp resp) _ _, _) => { g with used := resp :: g.used }
  | _ => g

/-- The stack beside the observer. -/
def watch (sm : Smoltcp) : NetStack × Watch → Ev × Trace → Option (NetStack × Watch) :=
  Machine.watched (step sm) Watch.see

/-- A fresh stack, and an observer that has seen nothing. -/
def Watch.spawned (iface : Interface) : NetStack × Watch :=
  (.spawned iface, ⟨fun _ => false, fun _ => [], [], []⟩)

/-- What every environment does. -/
def Lawful : NetStack × Watch → Ev × Trace → Prop
  | (s, g), (.poll tcp _ _ _ _, trace) => ∀ id ∈ s.tcpIds, ∀ p ∈ arrives s tcp id,
      p.1.state.walks (trace id) = true ∧ p.2.state = (trace id).getLastD p.1.state
        ∧ (p.2.bytes ≠ [] → g.done id = true ∨ shakes trace id = true)
  | (_, g), (.cmd (.openTcp _ resp) _ _, _) => resp ∉ g.used
  | (_, g), (.cmd (.openUdp resp) _ _, _) => resp ∉ g.used
  | (s, _), (.data (.tcpClose id) _, _) => ∀ st ∈ s.tcpConns id, st.established = true
  | _, _ => True

/-- A poll that completes a handshake leaves the socket established. -/
def Seen : NetStack × Watch → Ev × Trace → Prop
  | (s, g), (.poll tcp _ _ _ _, trace) => ∀ id ∈ s.tcpIds, ∀ p ∈ arrives s tcp id,
      g.done id = false → shakes trace id = true → p.2.state = .established
  | _, _ => True

instance decidableLawful : ∀ w x, Decidable (Lawful w x)
  | (s, g), (.poll tcp _ _ _ _, trace) =>
      inferInstanceAs (Decidable (∀ id ∈ s.tcpIds, ∀ p ∈ arrives s tcp id,
        p.1.state.walks (trace id) = true ∧ p.2.state = (trace id).getLastD p.1.state
          ∧ (p.2.bytes ≠ [] → g.done id = true ∨ shakes trace id = true)))
  | (_, g), (.cmd (.openTcp _ resp) _ _, _) => inferInstanceAs (Decidable (resp ∉ g.used))
  | (_, g), (.cmd (.openUdp resp) _ _, _) => inferInstanceAs (Decidable (resp ∉ g.used))
  | (s, _), (.data (.tcpClose id) _, _) =>
      inferInstanceAs (Decidable (∀ st ∈ s.tcpConns id, st.established = true))
  | _, (.cmd (.setAddrs _ _) _ _, _) | _, (.data (.tcp _ _) _, _)
  | _, (.data (.udp _ _ _) _, _) | _, (.data (.udpClose _) _, _) | _, (.serviceTcp _, _)
  | _, (.deliverTcp, _)
  | _, (.finishTcp, _) | _, (.tcpDone _, _) | _, (.serviceUdp, _) | _, (.deliverUdp, _)
  | _, (.udpDone, _) | _, (.flush _, _) | _, (.inbound _, _) | _, (.dataDone, _) | _, (.timer, _)
  | _, (.stop, _) | _, (.dropReceiver _, _) | _, (.appRecv _, _) | _, (.dropUdpReceiver _, _)
  | _, (.appRecvUdp _, _) => .isTrue trivial

instance decidableSeen : ∀ w x, Decidable (Seen w x)
  | (s, g), (.poll tcp _ _ _ _, trace) =>
      inferInstanceAs (Decidable (∀ id ∈ s.tcpIds, ∀ p ∈ arrives s tcp id,
        g.done id = false → shakes trace id = true → p.2.state = .established))
  | _, (.cmd _ _ _, _) | _, (.data _ _, _) | _, (.serviceTcp _, _) | _, (.deliverTcp, _)
  | _, (.finishTcp, _) | _, (.tcpDone _, _) | _, (.serviceUdp, _) | _, (.deliverUdp, _)
  | _, (.udpDone, _) | _, (.flush _, _) | _, (.inbound _, _) | _, (.dataDone, _) | _, (.timer, _)
  | _, (.stop, _) | _, (.dropReceiver _, _) | _, (.appRecv _, _) | _, (.dropUdpReceiver _, _)
  | _, (.appRecvUdp _, _) => .isTrue trivial

/-- An answer on a channel. -/
def Obs.answer (resp : ℕ) : Obs → Option (Except String ℕ)
  | .answered resp' a => if resp' = resp then some a else none
  | _ => none

namespace NetStack

/-- The answers on a channel, newest first. -/
def answers (s : NetStack) (resp : ℕ) : List (Except String ℕ) :=
  s.log.filterMap (Obs.answer resp)

end NetStack

/-- The connections that the current pass has still to come to. -/
def Pc.due : Pc → List ℕ
  | .serviceTcp todo => todo
  | .deliverTcp _ _ todo => todo
  | _ => []

/-- How the opener of a connection is answered: once; with `Ok` exactly when the
handshake is complete, as soon as the pass after that poll has come to the connection;
with an error only if it never was, and then nothing that was received is discarded. -/
structure Answered (w : NetStack × Watch) (resp id : ℕ) : Prop where
  once : (w.1.answers resp).length ≤ 1
  ok : ∀ id', .ok id' ∈ w.1.answers resp → id' = id ∧ w.2.done id = true
  complete : w.2.done id = true → .ok id ∈ w.1.answers resp ∨ id ∈ w.1.pc.due
  error : ∀ text, .error text ∈ w.1.answers resp →
    text = "connection refused" ∧ w.2.done id = false ∧ w.1.tcpConns id = none
  gone : w.1.tcpConns id = none → w.1.answers resp ≠ []
  payload : w.1.tcpConns id = none → .ok id ∉ w.1.answers resp → w.2.payload id = []

/-! ### What matters of a connection for its opening -/

/-- The part of an entry and its socket that decides about the answer. -/
structure Opening where
  established : Bool
  connectResp : Option ℕ
  fromStackRx : Bool
  halfClosed : Bool
  rxDropped : Bool
  state : State

def TcpState.opening (st : TcpState) (t : TcpSocket) : Opening :=
  ⟨st.established, st.connectResp, st.fromStackRx, st.halfClosed, st.rxDropped, t.state⟩

namespace NetStack

def opening (s : NetStack) (id : ℕ) : Option Opening :=
  (s.tcpConns id).bind fun st => (s.tcp st.handle).map fun t => st.opening t

end NetStack

/-- A connection that has not been reported, as its command left it. -/
structure Opening.Waits (o : Opening) (resp : ℕ) : Prop where
  established : o.established = false
  connectResp : o.connectResp = some resp
  fromStackRx : o.fromStackRx = true
  halfClosed : o.halfClosed = false
  rxDropped : o.rxDropped = false

variable {sm : Smoltcp} {s s' : NetStack} {g g' : Watch} {e : Ev} {id id' resp resp' : ℕ}
  {st st' : TcpState} {t t' : TcpSocket} {o : Opening}

lemma opening_eq (hid : s.tcpConns id = some st) (ht : s.tcp st.handle = some t) :
    s.opening id = some (st.opening t) := by
  rw [NetStack.opening, hid, Option.bind_some, ht, Option.map_some]

lemma opening_eq_some (h : s.opening id = some o) :
    ∃ st t, s.tcpConns id = some st ∧ s.tcp st.handle = some t ∧ o = st.opening t := by
  obtain ⟨st, hid, h⟩ := Option.bind_eq_some_iff.mp h
  obtain ⟨t, ht, rfl⟩ := Option.map_eq_some_iff.mp h
  exact ⟨st, t, hid, ht, rfl⟩

lemma opening_congr (hid : s'.tcpConns id = s.tcpConns id)
    (hsock : ∀ st, s.tcpConns id = some st → s'.sockets st.handle = s.sockets st.handle) :
    s'.opening id = s.opening id := by
  rw [NetStack.opening, NetStack.opening, hid]
  cases hc : s.tcpConns id with
  | none => rfl
  | some st => simp only [Option.bind_some, NetStack.tcp, hsock st hc]

/-- Where the opening of a connection stands. -/
inductive Told (s : NetStack) (g : Watch) (resp id : ℕ) : Prop where
  | waiting (o : Opening) : s.opening id = some o → o.Waits resp → s.answers resp = [] →
      (g.done id = true → id ∈ s.pc.due ∧ o.state = .established) →
      (o.state.synchronized = true → g.done id = true) →
      (g.done id = false → g.payload id = []) → Told s g resp id
  | reported : s.answers resp = [.ok id] → g.done id = true →
      (∀ st, s.tcpConns id = some st → st.established = true) → Told s g resp id
  | refused : s.answers resp = [.error "connection refused"] → g.done id = false →
      g.payload id = [] → s.tcpConns id = none → Told s g resp id

lemma Told.answered (h : Told s g resp id) : Answered (s, g) resp id := by
  cases h with
  | waiting o ho hw ha hdue hsync hpay =>
      obtain ⟨st, t, hid, -, -⟩ := opening_eq_some ho
      refine ⟨by simp [ha], by simp [ha], fun hd => .inr (hdue hd).1, by simp [ha], ?_, ?_⟩
      · intro hno
        rw [hid] at hno
        cases hno
      · intro hno
        rw [hid] at hno
        cases hno
  | reported ha hd he =>
      refine ⟨by simp [ha], ?_, fun _ => .inl (by simp [ha]), by simp [ha], by simp [ha], ?_⟩
      · intro id' hid'
        rw [ha, List.mem_singleton, Except.ok.injEq] at hid'
        exact ⟨hid', hd⟩
      · intro _ hno
        exact absurd (by simp [ha]) hno
  | refused ha hd hp hno =>
      refine ⟨by simp [ha], by simp [ha], ?_, ?_, by simp [ha], fun _ _ => hp⟩
      · intro hd'
        rw [hd] at hd'
        cases hd'
      · intro text ht
        rw [ha, List.mem_singleton, Except.error.injEq] at ht
        exact ⟨ht, hd, hno⟩

end Aether.Netstack
