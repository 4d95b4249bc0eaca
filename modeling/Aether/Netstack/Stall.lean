import Aether.Lib.Machine
import Aether.Netstack.Conn
import Aether.Netstack.Ports

/-!
Whether one application can hold up the loop.

`service_tcp` and `service_udp` send what they have taken from a socket into the bounded queue of
its connection, and wait while the queue is full. Only the application of that connection can
end the wait, and until then no other connection is serviced.

* `WaitsFor`: the loop waits for room in the queue of a connection.
* `stuck_of_waitsFor`, `exists_loop_step`: then no event of the loop is enabled, and otherwise
  one is.
* `flows_iff`: a run never waits exactly when each step that comes to a send finds room, or the
  receiver dropped.
-/

namespace Aether.Netstack

variable {sm : Smoltcp} {s s' : NetStack} {e : Ev} {id : ℕ} {st st' : TcpState} {t : TcpSocket}

/-- The events of the applications; all others are steps of the loop. -/
def Ev.app : Ev → Bool
  | .dropReceiver _ | .appRecv _ | .dropUdpReceiver _ | .appRecvUdp _ => true
  | _ => false

/-- Whether `n` sends find room, or no receiver. -/
def TcpState.takes (st : TcpState) (n : ℕ) : Prop := st.rxDropped = true ∨ n ≤ st.toApp.room

def UdpState.takes (st : UdpState) (n : ℕ) : Prop := st.rxDropped = true ∨ n ≤ st.toApp.room

/-- The loop is suspended at a `to_app.send` of the connection. -/
inductive WaitsFor (s : NetStack) (id : ℕ) : Prop where
  | tcp {chunk : Bytes} {chunks : List Bytes} {rest : List ℕ} {st : TcpState} :
      s.pc = .deliverTcp id (chunk :: chunks) rest → s.tcpConns id = some st → ¬ st.takes 1 →
      WaitsFor s id
  | udp {p : SocketAddr × Bytes} {packets : List (SocketAddr × Bytes)} {rest : List ℕ}
      {st : UdpState} :
      s.pc = .deliverUdp id (p :: packets) rest → s.udpConns id = some st → ¬ st.takes 1 →
      WaitsFor s id

/-- No application holds up the loop. -/
def Flows (s : NetStack) : Prop := ∀ id, ¬ WaitsFor s id

/-- A connection waits only for its own full queue. -/
lemma not_takes_one : ¬ st.takes 1 ↔ st.rxDropped = false ∧ st.toApp.items.length = appQueue := by
  have hbound := st.toApp.bound
  rw [TcpState.takes, Mailbox.room, not_or, Bool.not_eq_true]
  refine and_congr_right fun _ => ?_
  omega

/-! ### The loop goes on exactly if it does not wait -/

/-- **A loop that waits does nothing else**: nothing is delivered to, sent for, or opened by
anyone. -/
theorem stuck_of_waitsFor (hm : s.shape.Matched) (h : WaitsFor s id) (he : e.app = false) :
    step sm s e = none := by
  cases h with
  | @tcp chunk chunks rest st hpc hid htakes =>
      have hdrop : ¬ st.rxDropped = true := fun hd => htakes (.inl hd)
      have hroom : st.toApp.room = 0 := by
        by_contra hne
        exact htakes (.inr (by omega))
      cases e with
      | deliverTcp =>
          obtain ⟨t, ht⟩ := exists_socket hm hid
          simp [step, hpc, hid, ht, deliverChunk, hdrop, Mailbox.send_eq_none.mpr hroom]
      | dropReceiver | appRecv | dropUdpReceiver | appRecvUdp => cases he
      | _ => simp [step, hpc]
  | @udp p packets rest st hpc hid htakes =>
      have hdrop : ¬ st.rxDropped = true := fun hd => htakes (.inl hd)
      have hroom : st.toApp.room = 0 := by
        by_contra hne
        exact htakes (.inr (by omega))
      cases e with
      | deliverUdp => simp [step, hpc, hid, hdrop, Mailbox.send_eq_none.mpr hroom]
      | dropReceiver | appRecv | dropUdpReceiver | appRecvUdp => cases he
      | _ => simp [step, hpc]

/-- **A loop that does not wait goes on.** -/
theorem exists_loop_step (sm : Smoltcp) (hf : Flows s) (hstop : s.pc ≠ .stopped)
    (hpanic : s.pc ≠ .panicked) : ∃ e s', e.app = false ∧ step sm s e = some s' := by
  cases hpc : s.pc with
  | poll =>
      refine ⟨.poll (fun _ => ⟨.closed, [], 0⟩) (fun _ => []) [] false s.tcpIds, ?_⟩
      simp [step, hpc, Ev.app]
  | serviceTcp todo =>
      cases todo with
      | nil => exact ⟨.tcpDone s.udpIds, by simp [step, hpc, Ev.app]⟩
      | cons id rest =>
          refine ⟨.serviceTcp 0, ?_⟩
          cases hid : s.tcpConns id with
          | none => simp [step, hpc, hid, Ev.app]
          | some st => cases ht : s.tcp st.handle <;> simp [step, hpc, hid, ht, Ev.app]
  | deliverTcp id chunks todo =>
      cases chunks with
      | nil =>
          refine ⟨.finishTcp, ?_⟩
          cases hid : s.tcpConns id with
          | none => simp [step, hpc, hid, Ev.app]
          | some st => cases ht : s.tcp st.handle <;> simp [step, hpc, hid, ht, Ev.app]
      | cons c cs =>
          refine ⟨.deliverTcp, ?_⟩
          cases hid : s.tcpConns id with
          | none => simp [step, hpc, hid, Ev.app]
          | some st =>
              cases ht : s.tcp st.handle with
              | none => simp [step, hpc, hid, ht, Ev.app]
              | some t =>
                  rcases not_not.mp fun htakes => hf id (.tcp hpc hid htakes) with hd | hroom
                  · simp [step, hpc, hid, ht, deliverChunk, hd, Ev.app]
                  · obtain ⟨toApp, hsend⟩ := Mailbox.exists_send hroom c
                    by_cases hd : st.rxDropped = true
                    · simp [step, hpc, hid, ht, deliverChunk, hd, Ev.app]
                    · simp [step, hpc, hid, ht, deliverChunk, hd, hsend, Ev.app]
  | serviceUdp todo =>
      cases todo with
      | nil => exact ⟨.udpDone, by simp [step, hpc, Ev.app]⟩
      | cons id rest =>
          refine ⟨.serviceUdp, ?_⟩
          cases hid : s.udpConns id with
          | none => simp [step, hpc, hid, Ev.app]
          | some st => cases hu : s.udp st.handle <;> simp [step, hpc, hid, hu, Ev.app]
  | deliverUdp id packets todo =>
      cases packets with
      | nil => exact ⟨.deliverUdp, by simp [step, hpc, Ev.app]⟩
      | cons p ps =>
          refine ⟨.deliverUdp, ?_⟩
          cases hid : s.udpConns id with
          | none => simp [step, hpc, hid, Ev.app]
          | some st =>
              rcases not_not.mp fun htakes => hf id (.udp hpc hid htakes) with hd | hroom
              · simp [step, hpc, hid, hd, Ev.app]
              · obtain ⟨toApp, hsend⟩ := Mailbox.exists_send hroom p
                by_cases hd : st.rxDropped = true
                · simp [step, hpc, hid, hd, Ev.app]
                · simp [step, hpc, hid, hd, hsend, Ev.app]
  | flushTx =>
      refine ⟨.flush false, ?_⟩
      cases htx : s.tx <;> simp [step, hpc, htx, Ev.app]
  | select => exact ⟨.timer, by simp [step, hpc, Ev.app]⟩
  | dataIn => exact ⟨.dataDone, by simp [step, hpc, Ev.app]⟩
  | stopped => exact absurd hpc hstop
  | panicked => exact absurd hpc hpanic

/-- A loop that has not ended waits for an application exactly if none of its events is
enabled. -/
theorem flows_iff_exists_loop_step (hm : s.shape.Matched) (hstop : s.pc ≠ .stopped)
    (hpanic : s.pc ≠ .panicked) : Flows s ↔ ∃ e s', e.app = false ∧ step sm s e = some s' := by
  constructor
  · intro hf
    exact exists_loop_step sm hf hstop hpanic
  · rintro ⟨e, s', he, hstep⟩ id hw
    rw [stuck_of_waitsFor hm hw he] at hstep
    cases hstep

/-! ### Where a step comes to a send -/

lemma flows_of_pc (ht : ∀ id c cs rest, s.pc ≠ .deliverTcp id (c :: cs) rest)
    (hu : ∀ id p ps rest, s.pc ≠ .deliverUdp id (p :: ps) rest) : Flows s := by
  intro id h
  cases h with
  | tcp hpc => exact ht _ _ _ _ hpc
  | udp hpc => exact hu _ _ _ _ hpc

/-- At the delivery to a connection only its own queue matters. -/
lemma flows_deliverTcp {chunks : List Bytes} {rest : List ℕ}
    (hpc : s.pc = .deliverTcp id chunks rest) (hid : s.tcpConns id = some st) :
    Flows s ↔ (chunks ≠ [] → st.takes 1) := by
  constructor
  · intro hf hne
    obtain ⟨c, cs, rfl⟩ := List.exists_cons_of_ne_nil hne
    by_contra htakes
    exact hf id (.tcp hpc hid htakes)
  · intro htakes id' h
    cases h with
    | tcp hpc' hid' hn =>
        rw [hpc] at hpc'
        cases hpc'
        rw [hid] at hid'
        cases hid'
        exact hn (htakes (List.cons_ne_nil _ _))
    | udp hpc' =>
        rw [hpc] at hpc'
        cases hpc'

lemma flows_deliverUdp {ps : List (SocketAddr × Bytes)} {rest : List ℕ} {st : UdpState}
    (hpc : s.pc = .deliverUdp id ps rest) (hid : s.udpConns id = some st) :
    Flows s ↔ (ps ≠ [] → st.takes 1) := by
  constructor
  · intro hf hne
    obtain ⟨p, ps, rfl⟩ := List.exists_cons_of_ne_nil hne
    by_contra htakes
    exact hf id (.udp hpc hid htakes)
  · intro htakes id' h
    cases h with
    | tcp hpc' =>
        rw [hpc] at hpc'
        cases hpc'
    | udp hpc' hid' hn =>
        rw [hpc] at hpc'
        cases hpc'
        rw [hid] at hid'
        cases hid'
        exact hn (htakes (List.cons_ne_nil _ _))

/-- The condition: what the step comes to send finds room, or no receiver. A service step comes
to its first chunk, a send to the next. -/
def Roomy (s : NetStack) : Ev → Prop
  | .serviceTcp _ =>
      match s.pc with
      | .serviceTcp (id :: _) => ∀ st, s.tcpConns id = some st → ∀ t, s.tcp st.handle = some t →
          refused (st.seen t.state) t.state = false → t.rx.canRecv = true → st.takes 1
      | _ => True
  | .deliverTcp =>
      match s.pc with
      | .deliverTcp id (_ :: _ :: _) _ => ∀ st, s.tcpConns id = some st → st.takes 2
      | _ => True
  | .serviceUdp =>
      match s.pc with
      | .serviceUdp (id :: _) => ∀ st, s.udpConns id = some st → ∀ u, s.udp st.handle = some u →
          u.rx ≠ [] → st.takes 1
      | _ => True
  | .deliverUdp =>
      match s.pc with
      | .deliverUdp id (_ :: _ :: _) _ => ∀ st, s.udpConns id = some st → st.takes 2
      | _ => True
  | _ => True

lemma recvChunks_eq_nil {n : ℕ} {b : RingBuf} :
    (recvChunks (n + 1) b).1 = [] ↔ b.canRecv = false := by
  rw [recvChunks]
  split <;> simp_all

@[simp] lemma seen_takes (st : TcpState) (state : State) (n : ℕ) :
    (st.seen state).takes n ↔ st.takes n := by
  rw [TcpState.seen]
  split <;> rfl

/-- A service step comes to the delivery of what it takes; neither `send_slice` nor `close`
touches the receive buffer. -/
lemma serviceConn_flows (rest : List ℕ) (accept : ℕ) :
    Flows (serviceConn sm s id rest st t accept)
      ↔ (refused (st.seen t.state) t.state = false → t.rx.canRecv = true → st.takes 1) := by
  have hchunks : (recvChunks maxRecvChunks t.rx).1 ≠ [] ↔ t.rx.canRecv = true := by
    rw [ne_eq, maxRecvChunks, recvChunks_eq_nil, Bool.not_eq_false]
  have hseen : (sendPending (st.seen t.state) t accept).1.takes 1 ↔ st.takes 1 :=
    seen_takes st t.state 1
  rw [serviceConn]
  dsimp only
  split
  · rename_i href
    refine iff_of_true (flows_of_pc (by simp [NetStack.goto]) (by simp [NetStack.goto])) ?_
    intro hno
    rw [href] at hno
    cases hno
  · rename_i href
    rw [Bool.not_eq_true] at href
    rw [imp_iff_right href, ← hseen, ← hchunks]
    split
    · exact flows_deliverTcp rfl (Function.update_self ..)
    · exact flows_deliverTcp rfl (Function.update_self ..)

/-- After a send the loop comes to the next chunk. -/
lemma deliverChunk_flows {chunk : Bytes} {chunks : List Bytes} {rest : List ℕ}
    (h : deliverChunk sm s id chunk chunks rest st t = some s') :
    Flows s' ↔ (chunks ≠ [] → st.takes 2) := by
  rw [deliverChunk] at h
  split at h
  · rename_i hdrop
    cases h
    exact iff_of_true (flows_of_pc (by simp [NetStack.goto]) (by simp [NetStack.goto]))
      fun _ => .inl hdrop
  · rename_i hdrop
    obtain ⟨toApp, hsend, rfl⟩ := Option.map_eq_some_iff.mp h
    have hroom := Mailbox.room_send hsend
    cases chunks with
    | nil =>
        exact iff_of_true (flows_of_pc (by simp [NetStack.goto]) (by simp [NetStack.goto]))
          fun hne => absurd rfl hne
    | cons c cs =>
        rw [flows_deliverTcp rfl (Function.update_self ..)]
        refine imp_congr (by simp) (or_congr_right ?_)
        show 1 ≤ toApp.room ↔ 2 ≤ st.toApp.room
        omega

/-- The application takes from its queue, or drops its receiver. -/
lemma flows_setConn (ht : s'.tcpConns = Function.update s.tcpConns id (some st'))
    (hid : s.tcpConns id = some st) (htakes : st.takes 1 → st'.takes 1) (hpc : s'.pc = s.pc)
    (hu : s'.udpConns = s.udpConns) (hf : Flows s) : Flows s' := by
  intro id' h
  cases h with
  | tcp hpc' hid' hn =>
      rw [hpc] at hpc'
      rw [ht, Function.update_apply] at hid'
      split at hid'
      · rename_i heq
        cases hid'
        subst heq
        exact hf id' (.tcp hpc' hid fun h => hn (htakes h))
      · exact hf id' (.tcp hpc' hid' hn)
  | udp hpc' hid' hn =>
      rw [hpc] at hpc'
      rw [hu] at hid'
      exact hf id' (.udp hpc' hid' hn)

lemma flows_setUdp {st st' : UdpState}
    (hu : s'.udpConns = Function.update s.udpConns id (some st')) (hid : s.udpConns id = some st)
    (htakes : st.takes 1 → st'.takes 1) (hpc : s'.pc = s.pc) (ht : s'.tcpConns = s.tcpConns)
    (hf : Flows s) : Flows s' := by
  intro id' h
  cases h with
  | tcp hpc' hid' hn =>
      rw [hpc] at hpc'
      rw [ht] at hid'
      exact hf id' (.tcp hpc' hid' hn)
  | udp hpc' hid' hn =>
      rw [hpc] at hpc'
      rw [hu, Function.update_apply] at hid'
      split at hid'
      · rename_i heq
        cases hid'
        subst heq
        exact hf id' (.udp hpc' hid fun h => hn (htakes h))
      · exact hf id' (.udp hpc' hid' hn)

/-- A service step or a send that finds the entry or its socket missing comes to no send. -/
lemma lost_roomy (hm : s.shape.Matched) (hl : Lost s) : Roomy s e := by
  cases hl with
  | service hpc hid ht => cases e <;> simp [Roomy, hpc, hid, ht]
  | @deliver id chunks rest hpc hno =>
      cases e with
      | deliverTcp =>
          rw [Roomy, hpc]
          split
          · rename_i heq
            cases heq
            intro st hid
            obtain ⟨t, ht⟩ := exists_socket hm hid
            rw [hno st hid] at ht
            cases ht
          · trivial
      | _ => simp [Roomy, hpc]
  | serviceUdp hpc hid hu => cases e <;> simp [Roomy, hpc, hid, hu]
  | @deliverUdp id packets rest hpc hid =>
      cases e with
      | deliverUdp =>
          rw [Roomy, hpc]
          split
          · rename_i heq
            cases heq
            simp [hid]
          · trivial
      | _ => simp [Roomy, hpc]

/-- A pass over the packets of a connection ends early only if its receiver is dropped. -/
lemma dropUdp_roomy {packets : List (SocketAddr × Bytes)} {rest : List ℕ}
    (hpc : s.pc = .deliverUdp id packets rest)
    (h : step sm s .deliverUdp = some (s.goto (.serviceUdp rest))) : Roomy s .deliverUdp := by
  rw [Roomy, hpc]
  split
  · rename_i p p' ps _ heq
    cases heq
    intro st hid
    by_cases hdrop : st.rxDropped = true
    · exact .inl hdrop
    · simp only [step, hpc, hid, if_neg hdrop] at h
      obtain ⟨toApp, _, heq⟩ := Option.map_eq_some_iff.mp h
      have := congrArg NetStack.pc heq
      cases this
  · trivial

/-- What is handled in the `select` leads to no send. -/
lemma flows_of_handled {pc : Pc} (hpc : pc = .poll ∨ pc = .dataIn)
    (h : s'.pc = pc ∨ s'.pc = .panicked) : Flows s' := by
  refine flows_of_pc ?_ ?_
  · rcases hpc with rfl | rfl <;> rcases h with h | h <;> simp [h]
  · rcases hpc with rfl | rfl <;> rcases h with h | h <;> simp [h]

/-- **What makes the loop wait.** -/
theorem step_flows (hm : s.shape.Matched) (hf : Flows s) (h : step sm s e = some s') :
    Roomy s e ↔ Flows s' := by
  have hgoto : ∀ {pc : Pc} (s : NetStack), (∀ id c cs rest, pc ≠ .deliverTcp id (c :: cs) rest) →
      (∀ id p ps rest, pc ≠ .deliverUdp id (p :: ps) rest) → Flows (s.goto pc) :=
    fun s ht hu => flows_of_pc ht hu
  cases stepped h with
  | lost hl => exact iff_of_true (lost_roomy hm hl) (hgoto s (by simp) (by simp))
  | moved hmoved =>
      cases hmoved with
      | skipTcp hpc hnone =>
          exact iff_of_true (by simp [Roomy, hpc, hnone]) (hgoto s (by simp) (by simp))
      | skipUdp hpc hnone =>
          exact iff_of_true (by simp [Roomy, hpc, hnone]) (hgoto s (by simp) (by simp))
      | dropUdp hpc =>
          exact iff_of_true (dropUdp_roomy hpc h) (hgoto s (by simp) (by simp))
      | _ => exact iff_of_true trivial (hgoto s (by simp) (by simp))
  | serviceTcp hpc hid ht =>
      rw [serviceConn_flows]
      simp [Roomy, hpc, hid, ht]
  | @deliverTcp id chunk chunks rest st t s' hpc hid ht hd =>
      rw [deliverChunk_flows hd]
      cases chunks <;> simp [Roomy, hpc, hid]
  | finishTcp hpc hid ht =>
      refine iff_of_true trivial ?_
      rw [finishConn]
      split
      · exact hgoto _ (by simp) (by simp)
      · split <;> exact hgoto _ (by simp) (by simp)
  | @serviceUdp id rest st u hpc hid hu =>
      have hnext := flows_deliverUdp (s := { s with
        sockets := Function.update s.sockets st.handle
          (some (.udp { u with rx := u.rx.drop maxRecvChunks })) }.goto
        (.deliverUdp id (u.rx.take maxRecvChunks) rest)) rfl hid
      rw [hnext]
      simp [Roomy, hpc, hid, hu, maxRecvChunks]
  | @deliverUdp id p ps rest st toApp hpc hid hdrop hsend =>
      rw [flows_deliverUdp rfl (Function.update_self ..)]
      have hroom := Mailbox.room_send hsend
      cases ps with
      | nil => simp [Roomy, hpc]
      | cons p' ps =>
          simp only [Roomy, hpc, hid, Option.some.injEq, forall_eq', UdpState.takes, hdrop]
          simp
          omega
  | dropReceiver hid =>
      exact iff_of_true trivial (flows_setConn rfl hid (fun _ => .inl rfl) rfl rfl hf)
  | appRecv hid _ hrecv =>
      have hroom := Mailbox.room_recv hrecv
      refine iff_of_true trivial
        (flows_setConn rfl hid (fun htakes => htakes.imp_right ?_) rfl rfl hf)
      intro _
      dsimp only
      omega
  | dropUdpReceiver hid =>
      exact iff_of_true trivial (flows_setUdp rfl hid (fun _ => .inl rfl) rfl rfl hf)
  | appRecvUdp hid hrecv =>
      have hroom := Mailbox.room_recv hrecv
      refine iff_of_true trivial
        (flows_setUdp rfl hid (fun htakes => htakes.imp_right ?_) rfl rfl hf)
      intro _
      dsimp only
      omega
  | @flush gone _ _ _ _ => cases gone <;> exact iff_of_true trivial (hgoto _ (by simp) (by simp))
  | inbound => exact iff_of_true trivial (hgoto _ (by simp) (by simp))
  | poll => exact iff_of_true trivial (flows_of_pc (by simp) (by simp))
  | cmd =>
      exact iff_of_true trivial
        (flows_of_handled (.inl rfl) (handleCmd_pc sm (s.goto .poll) _ _ _))
  | data =>
      exact iff_of_true trivial
        (flows_of_handled (.inr rfl) (handleData_device (s.goto .dataIn) _ _).2)

/-- **When no application holds up the loop**: no state of a run waits for one exactly when each
of its steps that comes to a send finds room, or the receiver dropped. -/
theorem flows_iff {iface : Interface} {es : List Ev}
    (h : Machine.run (step sm) (NetStack.spawned iface) es = some s) :
    Machine.Meets (step sm) Roomy (NetStack.spawned iface) es
      ↔ Machine.Always (step sm) Flows (NetStack.spawned iface) es :=
  Machine.meets_iff_always (I := fun s => s.shape.Matched)
    (fun _ _ _ hm hstep => (step_shape hstep).matched hm)
    (fun _ _ _ hm hf hstep => step_flows hm hf hstep) (spawned_matched iface)
    (flows_of_pc (by simp [NetStack.spawned]) (by simp [NetStack.spawned])) h

/-! ### How long it takes to fill a queue -/

/-- No queue holds more than `n`. -/
structure Within (n : ℕ) (s : NetStack) : Prop where
  tcp : ∀ id st, s.tcpConns id = some st → st.toApp.items.length ≤ n
  udp : ∀ id st, s.udpConns id = some st → st.toApp.items.length ≤ n

/-- The events that send to an application. -/
def Ev.sends : Ev → Bool
  | .deliverTcp | .deliverUdp => true
  | _ => false

section Within

variable {n m : ℕ}

lemma Within.mono (h : Within n s) (hnm : n ≤ m) : Within m s :=
  ⟨fun id st hid => Nat.le_trans (h.tcp id st hid) hnm,
    fun id st hid => Nat.le_trans (h.udp id st hid) hnm⟩

lemma Within.of_eq (h : Within n s) (ht : s'.tcpConns = s.tcpConns)
    (hu : s'.udpConns = s.udpConns) : Within n s' where
  tcp := by rw [ht]; exact h.tcp
  udp := by rw [hu]; exact h.udp

lemma Within.goto (h : Within n s) (pc : Pc) : Within n (s.goto pc) := ⟨h.tcp, h.udp⟩

lemma Within.setTcp (h : Within n s)
    (ht : s'.tcpConns = Function.update s.tcpConns id (some st'))
    (hlen : st'.toApp.items.length ≤ n) (hu : s'.udpConns = s.udpConns) : Within n s' where
  tcp id' st hid := by
    rw [ht, Function.update_apply] at hid
    split at hid
    · cases hid
      exact hlen
    · exact h.tcp id' st hid
  udp := by
    rw [hu]
    exact h.udp

lemma Within.setUdp {st' : UdpState} (h : Within n s)
    (hu : s'.udpConns = Function.update s.udpConns id (some st'))
    (hlen : st'.toApp.items.length ≤ n) (ht : s'.tcpConns = s.tcpConns) : Within n s' where
  tcp := by
    rw [ht]
    exact h.tcp
  udp id' st hid := by
    rw [hu, Function.update_apply] at hid
    split at hid
    · cases hid
      exact hlen
    · exact h.udp id' st hid

lemma Within.removeTcp (h : Within n s) (hu : s'.udpConns = s.udpConns)
    (ht : s'.tcpConns = Function.update s.tcpConns id none) : Within n s' where
  tcp id' st hid := by
    rw [ht, Function.update_apply] at hid
    split at hid
    · cases hid
    · exact h.tcp id' st hid
  udp := by
    rw [hu]
    exact h.udp

lemma Within.removeUdp (h : Within n s) (ht : s'.tcpConns = s.tcpConns)
    (hu : s'.udpConns = Function.update s.udpConns id none) : Within n s' where
  tcp := by
    rw [ht]
    exact h.tcp
  udp id' st hid := by
    rw [hu, Function.update_apply] at hid
    split at hid
    · cases hid
    · exact h.udp id' st hid

lemma length_send {α : Type} {cap : ℕ} {a : α} {box box' : Mailbox α cap}
    (h : box.send a = some box') : box'.items.length = box.items.length + 1 := by
  rw [(Mailbox.send_eq_some h).1, List.length_append, List.length_singleton]

lemma length_recv {α : Type} {cap : ℕ} {a : α} {box box' : Mailbox α cap}
    (h : box.recv = some (a, box')) : box.items.length = box'.items.length + 1 := by
  rw [Mailbox.recv_eq_some h, List.length_cons]

lemma within_serviceConn (h : Within n s) (hid : s.tcpConns id = some st) (rest : List ℕ)
    (accept : ℕ) : Within n (serviceConn sm s id rest st t accept) := by
  obtain ⟨log, hs⟩ := establish_frame s id st t.state
  have hlen : (st.seen t.state).toApp.items.length ≤ n := by
    have := h.tcp id st hid
    rw [TcpState.seen]
    split <;> exact this
  rw [serviceConn]
  dsimp only
  rw [hs]
  split
  · rw [refuse]
    split <;> exact h.removeTcp rfl rfl
  · split <;> exact h.setTcp rfl hlen rfl

lemma within_handleData (h : Within n s) (d : DataIn) (room : Bool) :
    Within n (handleData s d room) := by
  cases d with
  | tcp id data =>
      rw [handleData]
      split
      · rename_i st hid
        have hlen := h.tcp id st hid
        exact h.setTcp rfl hlen rfl
      · exact h.of_eq rfl rfl
  | tcpClose id =>
      rw [handleData]
      split
      · rename_i st hid
        have hlen := h.tcp id st hid
        exact h.setTcp rfl hlen rfl
      · exact h.of_eq rfl rfl
  | udp id dst data =>
      rw [handleData]
      repeat' split
      all_goals exact h.of_eq rfl rfl
  | udpClose id =>
      rw [handleData]
      split
      · split
        · exact h.removeUdp rfl rfl
        · exact h.of_eq rfl rfl
      · exact h.of_eq rfl rfl

lemma within_handleCmd (h : Within n s) (c : Cmd) (slot : Handle) (err : Option String) :
    Within n (handleCmd sm s c slot err) := by
  cases c with
  | openTcp dst resp =>
      cases err with
      | some e => exact h.of_eq rfl rfl
      | none => exact h.setTcp rfl (Nat.zero_le n) rfl
  | openUdp resp =>
      cases err with
      | some e => exact h.of_eq rfl rfl
      | none => exact h.setUdp rfl (Nat.zero_le n) rfl
  | setAddrs v4 v6 =>
      rw [handleCmd]
      split <;> exact h.of_eq rfl rfl

/-- A step adds at most one item to a queue, and only by a send. -/
lemma step_within (h : Within n s) (hstep : step sm s e = some s') :
    Within (n + e.sends.toNat) s' := by
  have hzero : e.sends = false → Within n s' → Within (n + e.sends.toNat) s' := by
    intro he hw
    rw [he]
    exact hw
  cases stepped hstep with
  | lost | moved => exact (h.goto _).mono (Nat.le_add_right ..)
  | serviceTcp _ hid => exact hzero rfl (within_serviceConn h hid _ _)
  | @deliverTcp id chunk chunks rest st t s' _ hid _ hd =>
      have hlen := h.tcp id st hid
      rw [deliverChunk] at hd
      split at hd
      · cases hd
        have hkept : Within n (((s.observe (.closing id st)).update id st (t.close sm)).goto
          (.deliverTcp id [] rest)) := h.setTcp rfl hlen rfl
        exact hkept.mono (Nat.le_succ n)
      · obtain ⟨toApp, hsend, rfl⟩ := Option.map_eq_some_iff.mp hd
        have hnew := length_send hsend
        refine (h.mono (Nat.le_succ n)).setTcp rfl ?_ rfl
        show toApp.items.length ≤ n + 1
        omega
  | @finishTcp id rest st t _ hid =>
      have hlen := h.tcp id st hid
      refine hzero rfl ?_
      rw [finishConn]
      split
      · exact h.setTcp rfl hlen rfl
      · split
        · exact h.removeTcp rfl rfl
        · exact h.of_eq rfl rfl
  | @deliverUdp id p ps rest st toApp _ hid _ hsend =>
      have hlen := h.udp id st hid
      have hnew := length_send hsend
      refine (h.mono (Nat.le_succ n)).setUdp rfl ?_ rfl
      show toApp.items.length ≤ n + 1
      omega
  | cmd => exact hzero rfl (within_handleCmd (h.goto .poll) _ _ _)
  | data => exact hzero rfl (within_handleData (h.goto .dataIn) _ _)
  | @dropReceiver id st hid =>
      have hlen := h.tcp id st hid
      exact hzero rfl (h.setTcp rfl hlen rfl)
  | @appRecv id st r hid _ hrecv =>
      have hlen := h.tcp id st hid
      have hnew := length_recv hrecv
      refine hzero rfl (h.setTcp rfl ?_ rfl)
      show r.2.items.length ≤ n
      omega
  | @dropUdpReceiver id st hid =>
      have hlen := h.udp id st hid
      exact hzero rfl (h.setUdp rfl hlen rfl)
  | @appRecvUdp id st r hid hrecv =>
      have hlen := h.udp id st hid
      have hnew := length_recv hrecv
      refine hzero rfl (h.setUdp rfl ?_ rfl)
      show r.2.items.length ≤ n
      omega
  | _ => exact hzero rfl (h.of_eq rfl rfl)

/-- **A queue fills no faster than there are sends.** -/
theorem run_within {es : List Ev} (h : Within n s) (hrun : Machine.run (step sm) s es = some s') :
    Within (n + es.countP Ev.sends) s' := by
  induction es generalizing s n with
  | nil =>
      rw [Machine.run_nil, Option.some.injEq] at hrun
      exact hrun ▸ h
  | cons e es ih =>
      obtain ⟨t, ht, hes⟩ := Machine.run_cons_eq_some.mp hrun
      refine (ih (step_within h ht) hes).mono ?_
      rw [List.countP_cons]
      cases e.sends
      · simp
      · simp
        omega

end Within

/-- **Fewer sends than a queue has places** never wait. -/
theorem flows_of_few {iface : Interface} {es : List Ev} (hfew : es.countP Ev.sends < appQueue) :
    Machine.Always (step sm) Flows (NetStack.spawned iface) es := by
  intro fs u hfs hu id hw
  have hzero : Within 0 (NetStack.spawned iface) :=
    ⟨fun _ _ hid => absurd hid (by simp [NetStack.spawned]),
      fun _ _ hid => absurd hid (by simp [NetStack.spawned])⟩
  have hwithin := run_within hzero hu
  have hle : fs.countP Ev.sends ≤ es.countP Ev.sends := hfs.sublist.countP_le
  cases hw with
  | @tcp chunk chunks rest st _ hid htakes =>
      have hfull := (not_takes_one.mp htakes).2
      have := hwithin.tcp id st hid
      omega
  | @udp p ps rest st _ hid htakes =>
      have hbound := st.toApp.bound
      have := hwithin.udp id st hid
      refine htakes (.inr ?_)
      rw [Mailbox.room]
      omega

/-! ### Two runs -/

/-- The packets that come to the open UDP connection. -/
def packet : SocketAddr × Bytes := (⟨.v4 sampleV4, 53⟩, [0])

/-- One packet comes, up to its delivery. -/
def arrival : List Ev :=
  [.timer, .poll (fun _ => ⟨.closed, [], 0⟩) (fun _ => [packet]) [] false [], .tcpDone [1],
    .serviceUdp]

/-- It is delivered, and the pass ends. -/
def delivery : List Ev := [.deliverUdp, .deliverUdp, .udpDone, .flush false]

/-- A UDP connection is opened and gets a packet. -/
def onePacket : List Ev := udpOpened ++ (arrival ++ delivery)

/-- The loop is not held up. -/
theorem flows_sample : ∃ s,
    Machine.run (step stdSmoltcp) (NetStack.spawned sampleIface) onePacket = some s
      ∧ s.pc = .select
      ∧ Machine.Meets (step stdSmoltcp) Roomy (NetStack.spawned sampleIface) onePacket := by
  obtain ⟨s, hs, hpc⟩ : ∃ s,
      Machine.run (step stdSmoltcp) (NetStack.spawned sampleIface) onePacket = some s
        ∧ s.pc = .select := ⟨_, rfl, rfl⟩
  exact ⟨s, hs, hpc, (flows_iff hs).mpr (flows_of_few (by decide))⟩

/-- At the `select`, with a single UDP connection whose queue holds `n` packets. -/
structure Holding (n : ℕ) (s : NetStack) : Prop where
  pc : s.pc = .select
  tx : s.tx = []
  sockets : s.sockets = fun h => if h = 0 then some (.udp ⟨49152, [], []⟩) else none
  tcpConns : s.tcpConns = fun _ => none
  udpConns : ∃ box, s.udpConns = (fun id => if id = 1 then some ⟨0, box, false⟩ else none)
    ∧ box.items.length = n
  nextId : s.nextId = 2

lemma deliverUdp_step {p : SocketAddr × Bytes} {ps : List (SocketAddr × Bytes)} {rest : List ℕ}
    {st : UdpState} {toApp : Mailbox (SocketAddr × Bytes) appQueue}
    (hpc : s.pc = .deliverUdp id (p :: ps) rest) (hid : s.udpConns id = some st)
    (hdrop : st.rxDropped = false) (hsend : st.toApp.send p = some toApp) :
    step sm s .deliverUdp = some ({ s with
      udpConns := Function.update s.udpConns id (some { st with toApp }) }.goto
      (.deliverUdp id ps rest)) := by
  simp [step, hpc, hid, hdrop, hsend]

/-- A packet is delivered while there is room. -/
lemma holding_delivery {n : ℕ} (sm : Smoltcp) (h : Holding n s) (hn : n < appQueue) :
    ∃ s', Machine.run (step sm) s (arrival ++ delivery) = some s' ∧ Holding (n + 1) s' := by
  obtain ⟨pc, iface, rx, tx, sockets, tcpConns, udpConns, nextId, nextPort, log⟩ := s
  obtain ⟨rfl, rfl, rfl, rfl, ⟨box, rfl, hbox⟩, rfl⟩ := h
  obtain ⟨box', hsend⟩ := Mailbox.exists_send (m := box) (by rw [Mailbox.room]; omega) packet
  refine ⟨_, Machine.run_append_eq_some.mpr ⟨_, rfl, Machine.run_cons_eq_some.mpr
    ⟨_, deliverUdp_step rfl rfl rfl hsend, rfl⟩⟩, rfl, rfl, ?_, rfl, ⟨box', ?_, ?_⟩, rfl⟩
  · funext h
    cases h <;> rfl
  · funext id
    cases id with
    | zero => rfl
    | succ id => cases id <;> rfl
  · rw [length_send hsend, hbox]

/-- So it goes on until the queue is full. -/
lemma holding_repeat {m : ℕ} (sm : Smoltcp) (n : ℕ) (h : Holding m s) (hn : m + n ≤ appQueue) :
    ∃ s', Machine.run (step sm) s (List.replicate n (arrival ++ delivery)).flatten = some s'
      ∧ Holding (m + n) s' := by
  induction n generalizing m s with
  | zero => exact ⟨s, rfl, h⟩
  | succ n ih =>
      obtain ⟨t, ht, hone⟩ := holding_delivery sm h (by omega)
      obtain ⟨s', hs', hall⟩ := ih hone (by omega)
      refine ⟨s', ?_, ?_⟩
      · rw [List.replicate_succ, List.flatten_cons]
        exact Machine.run_append_eq_some.mpr ⟨t, ht, hs'⟩
      · rwa [Nat.add_assoc, Nat.add_comm 1 n] at hall

/-- An application opens a UDP connection and does not read the 4097 packets that come. -/
def unread : List Ev :=
  udpOpened ++ ((List.replicate appQueue (arrival ++ delivery)).flatten ++ arrival)

/-- The loop waits for that application, and does nothing for any other. -/
theorem unread_stalls : ∃ s,
    Machine.run (step stdSmoltcp) (NetStack.spawned sampleIface) unread = some s
      ∧ WaitsFor s 1 ∧ ∀ e : Ev, e.app = false → step stdSmoltcp s e = none := by
  obtain ⟨s₁, hs₁, hempty⟩ : ∃ s,
      Machine.run (step stdSmoltcp) (NetStack.spawned sampleIface) udpOpened = some s
        ∧ Holding 0 s := by
    refine ⟨_, rfl, rfl, rfl, ?_, ?_, ⟨.empty, ?_, rfl⟩, rfl⟩
    · funext h
      cases h <;> rfl
    · rfl
    · funext id
      cases id with
      | zero => rfl
      | succ id => cases id <;> rfl
  obtain ⟨s₂, hs₂, hfull⟩ := holding_repeat stdSmoltcp appQueue hempty (by omega)
  obtain ⟨s₃, hs₃, hwaits⟩ : ∃ s, Machine.run (step stdSmoltcp) s₂ arrival = some s
      ∧ WaitsFor s 1 := by
    obtain ⟨pc, iface, rx, tx, sockets, tcpConns, udpConns, nextId, nextPort, log⟩ := s₂
    obtain ⟨rfl, rfl, rfl, rfl, ⟨box, rfl, hbox⟩, rfl⟩ := hfull
    refine ⟨_, rfl, .udp rfl rfl ?_⟩
    rintro (hdrop | hroom)
    · cases hdrop
    · change 1 ≤ box.room at hroom
      rw [Mailbox.room] at hroom
      omega
  have hrun := Machine.run_append_eq_some.mpr
    ⟨s₁, hs₁, Machine.run_append_eq_some.mpr ⟨s₂, hs₂, hs₃⟩⟩
  exact ⟨s₃, hrun, hwaits, fun e he => stuck_of_waitsFor (tables_matched hrun) hwaits he⟩

end Aether.Netstack
