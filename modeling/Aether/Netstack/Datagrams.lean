import Aether.Netstack.Ends
import Aether.Netstack.Lookups

/-!
The datagrams of a UDP connection.

What smoltcp puts into the socket of a connection waits there, then in the pass that delivers
it, then in the queue of the application. A ledger beside the stack has all that has come, all
that the application has taken, and all that was given to `send_slice`. Neither `service_udp` nor
the socket looks at a source.

* `step_waiting`: what comes goes to the back of what waits, and what is taken is its front.
* `step_sent`: a socket accepts what it is given, unless it has no room for it.
* `datagrams_in_order`: **the application takes what has come, in order**, as long as it does
  not drop its receiver.
-/

namespace Aether.Netstack

/-- The datagrams of the connection that the current pass has still to deliver. -/
def Pc.packets (id : ℕ) : Pc → List (SocketAddr × Bytes)
  | .deliverUdp id' packets _ => if id' = id then packets else []
  | _ => []

/-- What the application has not taken: in its queue, on the way there, and in the socket. -/
def NetStack.waiting (s : NetStack) (id : ℕ) : List (SocketAddr × Bytes) :=
  match s.udpConns id with
  | some st => st.toApp.items ++ (s.pc.packets id ++ ((s.udp st.handle).map UdpSocket.rx).getD [])
  | none => []

/-- What a poll puts into the socket of the connection. -/
def Ev.coming (s : NetStack) (id : ℕ) : Ev → List (SocketAddr × Bytes)
  | .poll _ udp _ _ _ => ((s.udpConns id).map fun st => udp st.handle).getD []
  | _ => []

/-- What the application takes from its queue. -/
def Ev.taking (s : NetStack) (id : ℕ) : Ev → List (SocketAddr × Bytes)
  | .appRecvUdp id' =>
      if id' = id then (((s.udpConns id).bind fun st => st.toApp.recv).map Prod.fst).toList else []
  | _ => []

/-- What a data message gives to the socket of the connection, and whether there is room for it. -/
def Ev.giving (s : NetStack) (id : ℕ) : Ev → List ((SocketAddr × Bytes) × Bool)
  | .data (.udp id' dst payload) room =>
      if id' = id ∧ (s.udpConns id).isSome then [((dst, payload), room)] else []
  | _ => []

/-- What there was room for. -/
def accepted (given : List ((SocketAddr × Bytes) × Bool)) : List (SocketAddr × Bytes) :=
  (given.filter Prod.snd).map Prod.fst

/-- All that the socket of the connection has accepted. -/
def NetStack.sent (s : NetStack) (id : ℕ) : List (SocketAddr × Bytes) :=
  match s.udpConns id with
  | some st => ((s.udp st.handle).map UdpSocket.sent).getD []
  | none => []

/-- All that has come for a connection, all that its application has taken, and all that was given
to its socket. -/
structure Ledger where
  came : List (SocketAddr × Bytes)
  taken : List (SocketAddr × Bytes)
  given : List ((SocketAddr × Bytes) × Bool)

def Ledger.see (id : ℕ) (s : NetStack) (l : Ledger) (e : Ev) : Ledger :=
  ⟨l.came ++ e.coming s id, l.taken ++ e.taking s id, l.given ++ e.giving s id⟩

/-- The stack beside the ledger of one connection. -/
def record (sm : Smoltcp) (id : ℕ) (w : NetStack × Ledger) (e : Ev) : Option (NetStack × Ledger) :=
  (step sm w.1 e).map fun s => (s, w.2.see id w.1 e)

/-- A fresh stack, and an empty ledger. -/
def Ledger.spawned (iface : Interface) : NetStack × Ledger := (.spawned iface, ⟨[], [], []⟩)

variable {sm : Smoltcp} {s s' : NetStack} {e : Ev} {id id' : ℕ} {st : UdpState}

/-! ### What leaves the datagrams alone -/

lemma waiting_eq {u : UdpSocket} (hid : s.udpConns id = some st)
    (hu : s.udp st.handle = some u) :
    s.waiting id = st.toApp.items ++ (s.pc.packets id ++ u.rx) := by
  rw [NetStack.waiting, hid]
  dsimp only
  rw [hu]
  rfl

lemma waiting_eq_nil (hid : s.udpConns id = none) : s.waiting id = [] := by
  rw [NetStack.waiting, hid]

/-- The entry, its socket and the delivery are all that counts. -/
lemma waiting_congr (hid : s'.udpConns id = s.udpConns id)
    (hsock : ∀ st, s.udpConns id = some st → s'.sockets st.handle = s.sockets st.handle)
    (hpc : s'.pc.packets id = s.pc.packets id) : s'.waiting id = s.waiting id := by
  rw [NetStack.waiting, NetStack.waiting, hid, hpc]
  cases hc : s.udpConns id with
  | none => rfl
  | some st => simp only [NetStack.udp, hsock st hc]

/-- The step touches no UDP entry, and no slot but one. -/
structure OneSlot (h : Handle) (s s' : NetStack) : Prop where
  udpConns : s'.udpConns = s.udpConns
  sockets : ∀ h' ≠ h, s'.sockets h' = s.sockets h'

lemma serviceConn_slot (rest : List ℕ) (st : TcpState) (t : TcpSocket) (accept : ℕ) :
    OneSlot st.handle s (serviceConn sm s id rest st t accept) := by
  obtain ⟨log, hs⟩ := establish_frame s id st t.state
  have hh := seen_handle st t.state
  rw [serviceConn]
  dsimp only
  rw [hs]
  split
  · rw [refuse, hh]
    split <;> exact ⟨rfl, fun _ hne => Function.update_of_ne hne ..⟩
  · have hslot : (sendPending (st.seen t.state) t accept).1.handle = st.handle := hh
    rw [← hslot]
    split <;> exact ⟨rfl, fun _ hne => Function.update_of_ne hne ..⟩

lemma deliverChunk_slot {chunk : Bytes} {chunks : List Bytes} {rest : List ℕ} {st : TcpState}
    {t : TcpSocket} (h : deliverChunk sm s id chunk chunks rest st t = some s') :
    OneSlot st.handle s s' := by
  rw [deliverChunk] at h
  split at h
  · cases h
    exact ⟨rfl, fun _ hne => Function.update_of_ne hne ..⟩
  · obtain ⟨toApp, _, rfl⟩ := Option.map_eq_some_iff.mp h
    exact ⟨rfl, fun _ hne => Function.update_of_ne hne ..⟩

lemma finishConn_slot (rest : List ℕ) (st : TcpState) (t : TcpSocket) :
    OneSlot st.handle s (finishConn sm s id rest st t) := by
  rw [finishConn]
  split
  · exact ⟨rfl, fun _ hne => Function.update_of_ne hne ..⟩
  · split
    · exact ⟨rfl, fun _ hne => Function.update_of_ne hne ..⟩
    · exact ⟨rfl, fun _ _ => rfl⟩

/-- The slot of a TCP entry is that of no UDP entry. -/
lemma OneSlot.waiting_eq {st : TcpState} (hm : s.shape.Matched) (hid : s.tcpConns id' = some st)
    (h : OneSlot st.handle s s') (hpc : s.pc.packets id = []) (hpc' : s'.pc.packets id = []) :
    s'.waiting id = s.waiting id := by
  refine waiting_congr (congrFun h.udpConns id) (fun u hu => h.sockets _ ?_) (hpc'.trans hpc.symm)
  intro heq
  have hsame := entries_inj hm (entries_udp hu) (heq ▸ entries_tcp hid)
  cases hsame.1

/-- A pass over another connection delivers nothing to this one. -/
lemma packets_ne (hne : id ≠ id') (packets : List (SocketAddr × Bytes)) (rest : List ℕ) :
    (Pc.deliverUdp id' packets rest).packets id = [] := if_neg hne.symm

lemma packets_self (packets : List (SocketAddr × Bytes)) (rest : List ℕ) :
    (Pc.deliverUdp id packets rest).packets id = packets := if_pos rfl

lemma waiting_goto {pc : Pc} (h : pc.packets id = s.pc.packets id) :
    (s.goto pc).waiting id = s.waiting id :=
  waiting_congr rfl (fun _ _ => rfl) h

/-! ### One step -/

/-- A turn of the delivery moves a datagram on to the queue of its connection. -/
lemma deliverUdp_waiting (hm : s.shape.Matched) (hs : Serving s) (h : step sm s .deliverUdp = some s')
    (hlive : ∀ st, s'.udpConns id = some st → st.rxDropped = false) :
    s'.waiting id = s.waiting id := by
  simp only [step] at h
  split at h
  · rename_i id' p packets rest hpc
    split at h
    · rename_i hid
      exact absurd hid (hs.udp _ _ _ hpc)
    · rename_i st hid
      by_cases hne : id = id'
      · subst hne
        split at h
        · rename_i hdrop
          cases h
          exact absurd hdrop (Bool.eq_false_iff.mp (hlive st hid))
        · obtain ⟨toApp, hsend, rfl⟩ := Option.map_eq_some_iff.mp h
          obtain ⟨u, hu⟩ := exists_udpSocket hm hid
          refine Eq.trans (waiting_eq (u := u) (Function.update_self ..) ?_) ?_
          · exact hu
          rw [waiting_eq hid hu, hpc, packets_self, (Mailbox.send_eq_some hsend).1,
            List.append_assoc]
          show _ ++ ([p] ++ ((Pc.deliverUdp id packets rest).packets id ++ u.rx)) = _
          rw [packets_self]
          rfl
      · have hother := packets_ne hne (p :: packets) rest
        split at h
        · cases h
          exact waiting_goto (by rw [hpc, hother]; rfl)
        · obtain ⟨toApp, -, rfl⟩ := Option.map_eq_some_iff.mp h
          refine waiting_congr (Function.update_of_ne hne ..) (fun _ _ => rfl) ?_
          rw [hpc, hother]
          exact packets_ne hne packets rest
  · rename_i id' rest hpc
    cases h
    refine waiting_goto ?_
    rw [hpc, Pc.packets, ite_self]
    rfl
  · cases h

lemma udpConns_of_le (hm : s.shape.Matched) (hle : s.nextId ≤ id) : s.udpConns id = none := by
  by_contra hid
  exact absurd ((oneToOne_of_matched hm).below id (.inr hid)) (Nat.not_lt.mpr hle)

/-- The slot of a UDP entry is not free. -/
lemma handle_ne_free {h : Handle} (hm : s.shape.Matched) (hfree : (s.sockets h).isNone)
    (hid : s.udpConns id = some st) : st.handle ≠ h := by
  rintro rfl
  obtain ⟨u, hu⟩ := exists_udpSocket hm hid
  rw [udp_eq_some.mp hu] at hfree
  cases hfree

/-- A command leaves the datagrams alone; a connection that it opens has none. -/
lemma handleCmd_waiting {c : Cmd} {h : Handle} {err : Option String} (hm : s.shape.Matched)
    (hfree : slotFree s c h err = true) (hpc : s.pc = .poll) :
    (handleCmd sm s c h err).waiting id = s.waiting id := by
  cases c with
  | openTcp dst resp =>
      cases err with
      | some e => exact waiting_congr rfl (fun _ _ => rfl) rfl
      | none =>
          exact waiting_congr rfl (fun st hid => Function.update_of_ne (handle_ne_free hm hfree hid) ..) rfl
  | openUdp resp =>
      cases err with
      | some e => exact waiting_congr rfl (fun _ _ => rfl) rfl
      | none =>
          by_cases hid : id = s.nextId
          · subst hid
            have hnone : s.udpConns s.nextId = none := udpConns_of_le hm (Nat.le_refl _)
            have hsock : (handleCmd sm s (.openUdp resp) h none).udp h = some ⟨s.nextPort, [], []⟩ :=
              udp_eq_some.mpr (Function.update_self ..)
            have hentry : (handleCmd sm s (.openUdp resp) h none).udpConns s.nextId
                = some ⟨h, .empty, false⟩ := Function.update_self ..
            rw [waiting_eq_nil hnone, waiting_eq hentry hsock]
            show [] ++ (s.pc.packets s.nextId ++ []) = []
            rw [hpc]
            rfl
          · exact waiting_congr (Function.update_of_ne hid ..)
              (fun st hst => Function.update_of_ne (handle_ne_free hm hfree hst) ..) rfl
  | setAddrs v4 v6 =>
      rw [handleCmd]
      split
      · exact waiting_congr rfl (fun _ _ => rfl) rfl
      · exact waiting_goto (by rw [hpc]; rfl)

/-- So does a data message, unless it closes the connection. -/
lemma handleData_waiting (hm : s.shape.Matched) (d : DataIn) (room : Bool)
    (hkept : s.udpConns id ≠ none → (handleData s d room).udpConns id ≠ none) :
    (handleData s d room).waiting id = s.waiting id := by
  have hown := handleData_own hm d room
  cases d with
  | tcp | tcpClose =>
      rw [handleData]
      split <;> exact waiting_congr rfl (fun _ _ => rfl) rfl
  | udp id' dst data =>
      rw [handleData]
      split
      · rename_i st hid
        obtain ⟨u, hu⟩ := exists_udpSocket hm hid
        rw [hu]
        by_cases hne : id = id'
        · subst hne
          rw [waiting_eq hid hu, ← UdpSocket.sendSlice_rx]
          exact waiting_eq hid (udp_eq_some.mpr (Function.update_self ..))
        · refine waiting_congr rfl (fun st' hid' => Function.update_of_ne ?_ ..) rfl
          exact fun heq => hne (entries_inj hm (entries_udp hid') (heq ▸ entries_udp hid)).2
      · rfl
  | udpClose id' =>
      by_cases hne : id = id'
      · subst hne
        rw [handleData] at hkept ⊢
        split at hkept
        · rename_i st hid
          obtain ⟨u, hu⟩ := exists_udpSocket hm hid
          rw [udp_eq_some.mp hu] at hkept
          refine absurd (Function.update_self ..) (hkept ?_)
          rw [hid]
          exact Option.some_ne_none st
        · rfl
      · refine waiting_congr (hown.udp id hne) (fun st hid => ?_) (by rw [hown.pc])
        exact hown.sockets .udp st.handle id hne (entries_udp hid)

/-- A poll puts what comes behind what waits. -/
lemma poll_waiting {tcp : Handle → Arrival} {udp : Handle → List (SocketAddr × Bytes)}
    {rx tx : List Bytes} {order : List ℕ} (hm : s.shape.Matched) (hpc : s.pc = .poll) :
    ({ s with sockets := pollSockets s.sockets tcp udp, rx, tx, pc := .serviceTcp order } :
      NetStack).waiting id
      = s.waiting id ++ ((s.udpConns id).map fun st => udp st.handle).getD [] := by
  cases hid : s.udpConns id with
  | none =>
      rw [waiting_eq_nil hid]
      exact waiting_eq_nil hid
  | some st =>
      obtain ⟨u, hu⟩ := exists_udpSocket hm hid
      have hslot : pollSockets s.sockets tcp udp st.handle
          = some (.udp { u with rx := u.rx ++ udp st.handle }) := by
        rw [pollSockets, udp_eq_some.mp hu]
      have hquiet : s.pc.packets id = [] := by rw [hpc]; rfl
      rw [waiting_eq hid hu, hquiet, List.append_assoc]
      refine Eq.trans (waiting_eq ?_ (udp_eq_some.mpr hslot)) rfl
      exact hid

/-- The pass takes the datagrams from the socket, and has them to deliver. -/
lemma serviceUdp_waiting {rest : List ℕ} {u : UdpSocket} (hm : s.shape.Matched)
    (hpc : s.pc = .serviceUdp (id' :: rest)) (hid : s.udpConns id' = some st)
    (hu : s.udp st.handle = some u) :
    ({ s with
      sockets := Function.update s.sockets st.handle
        (some (.udp { u with rx := u.rx.drop maxRecvChunks })) }.goto
      (.deliverUdp id' (u.rx.take maxRecvChunks) rest)).waiting id = s.waiting id := by
  have hquiet : s.pc.packets id = [] := by rw [hpc]; rfl
  by_cases hne : id = id'
  · subst hne
    refine Eq.trans (waiting_eq ?_ (udp_eq_some.mpr (Function.update_self ..))) ?_
    · exact hid
    show _ ++ ((Pc.deliverUdp id (u.rx.take maxRecvChunks) rest).packets id ++ u.rx.drop _) = _
    rw [packets_self, List.take_append_drop, waiting_eq hid hu, hquiet]
    rfl
  · refine waiting_congr rfl (fun st' hid' => Function.update_of_ne ?_ ..) ?_
    · intro heq
      exact hne (entries_inj hm (entries_udp hid') (heq ▸ entries_udp hid)).2
    · rw [hquiet]
      exact packets_ne hne ..

/-- The application takes the first of what waits. -/
lemma appRecvUdp_waiting {r : (SocketAddr × Bytes) × Mailbox (SocketAddr × Bytes) appQueue}
    (hm : s.shape.Matched) (hid : s.udpConns id' = some st) (hr : st.toApp.recv = some r) :
    (Ev.appRecvUdp id').taking s id ++ ({ s with
      udpConns := Function.update s.udpConns id' (some { st with toApp := r.2 }) } :
        NetStack).waiting id = s.waiting id := by
  by_cases hne : id = id'
  · subst hne
    obtain ⟨u, hu⟩ := exists_udpSocket hm hid
    have hafter := waiting_eq (s := { s with
      udpConns := Function.update s.udpConns id (some { st with toApp := r.2 }) })
      (Function.update_self ..) hu
    rw [hafter, waiting_eq hid hu, Ev.taking, if_pos rfl, hid, Option.bind_some, hr,
      Mailbox.recv_eq_some hr]
    rfl
  · rw [Ev.taking, if_neg (Ne.symm hne)]
    exact waiting_congr (Function.update_of_ne hne ..) (fun _ _ => rfl) rfl

/-- A step that neither brings nor takes a datagram of the connection. -/
lemma waiting_quiet (h : s'.waiting id = s.waiting id) :
    [] ++ s'.waiting id = s.waiting id ++ [] := by
  rw [List.nil_append, List.append_nil, h]

/-- **What comes goes to the back of what waits, and what is taken is its front**, unless the
step closes the connection or finds its receiver dropped. -/
theorem step_waiting (hm : s.shape.Matched) (hs : Serving s) (h : step sm s e = some s')
    (hkept : s.udpConns id ≠ none → s'.udpConns id ≠ none)
    (hlive : ∀ st, s'.udpConns id = some st → st.rxDropped = false) :
    e.taking s id ++ s'.waiting id = s.waiting id ++ e.coming s id := by
  cases stepped h with
  | lost hl => exact absurd hl (not_lost hm hs)
  | moved hmoved =>
      cases hmoved with
      | dropUdp => exact waiting_quiet (deliverUdp_waiting hm hs h hlive)
      | skipTcp hpc | tcpDone hpc | skipUdp hpc | udpDone hpc | flushed hpc | dataDone hpc
      | timer hpc | stop hpc => exact waiting_quiet (waiting_goto (by rw [hpc]; rfl))
  | poll hpc => exact poll_waiting hm hpc
  | serviceTcp hpc hid ht =>
      refine waiting_quiet ((serviceConn_slot ..).waiting_eq hm hid (by rw [hpc]; rfl) ?_)
      rcases (serviceConn_device ..).2 with hpc' | ⟨chunks, hpc'⟩
      · rw [hpc']; rfl
      · rw [hpc']; rfl
  | deliverTcp hpc hid ht hd =>
      refine waiting_quiet ((deliverChunk_slot hd).waiting_eq hm hid (by rw [hpc]; rfl) ?_)
      obtain ⟨chunks, hpc'⟩ := (deliverChunk_device hd).2
      rw [hpc']
      rfl
  | finishTcp hpc hid ht =>
      refine waiting_quiet ((finishConn_slot ..).waiting_eq hm hid (by rw [hpc]; rfl) ?_)
      rw [(finishConn_device ..).2]
      rfl
  | serviceUdp hpc hid hu => exact waiting_quiet (serviceUdp_waiting hm hpc hid hu)
  | deliverUdp => exact waiting_quiet (deliverUdp_waiting hm hs h hlive)
  | @flush gone _ _ hpc =>
      refine waiting_quiet (waiting_congr rfl (fun _ _ => rfl) ?_)
      rw [hpc]
      cases gone <;> rfl
  | inbound hpc => exact waiting_quiet (waiting_congr rfl (fun _ _ => rfl) (by rw [hpc]; rfl))
  | cmd hpc hfree =>
      have hgo : (s.goto .poll).waiting id = s.waiting id := waiting_goto (by rw [hpc]; rfl)
      refine waiting_quiet (Eq.trans ?_ hgo)
      exact handleCmd_waiting (s := s.goto .poll) hm hfree rfl
  | data hpc =>
      have hgo : (s.goto .dataIn).waiting id = s.waiting id := by
        refine waiting_goto ?_
        rcases hpc with hpc | hpc
        · rw [hpc]
          rfl
        · rw [hpc]
      refine waiting_quiet (Eq.trans ?_ hgo)
      exact handleData_waiting (s := s.goto .dataIn) hm _ _ hkept
  | dropReceiver | appRecv => exact waiting_quiet (waiting_congr rfl (fun _ _ => rfl) rfl)
  | @dropUdpReceiver id' st hid =>
      refine waiting_quiet ?_
      by_cases hne : id = id'
      · subst hne
        obtain ⟨u, hu⟩ := exists_udpSocket hm hid
        rw [waiting_eq hid hu]
        refine Eq.trans (waiting_eq (u := u) (Function.update_self ..) ?_) rfl
        exact hu
      · exact waiting_congr (Function.update_of_ne hne ..) (fun _ _ => rfl) rfl
  | appRecvUdp hid hr => exact (appRecvUdp_waiting hm hid hr).trans (List.append_nil _).symm

/-! ### What the socket accepts -/

lemma sent_eq {u : UdpSocket} (hid : s.udpConns id = some st) (hu : s.udp st.handle = some u) :
    s.sent id = u.sent := by
  rw [NetStack.sent, hid]
  dsimp only
  rw [hu]
  rfl

lemma sent_eq_nil (hid : s.udpConns id = none) : s.sent id = [] := by
  rw [NetStack.sent, hid]

/-- The slot of the entry and its socket are all that counts. -/
lemma sent_congr (hid : (s'.udpConns id).map UdpState.handle = (s.udpConns id).map UdpState.handle)
    (hsock : ∀ st, s.udpConns id = some st → s'.sockets st.handle = s.sockets st.handle) :
    s'.sent id = s.sent id := by
  cases hc : s.udpConns id with
  | none =>
      rw [hc] at hid
      rw [sent_eq_nil hc, sent_eq_nil (Option.map_eq_none_iff.mp hid)]
  | some st =>
      rw [hc] at hid
      obtain ⟨st', hst', hh⟩ := Option.map_eq_some_iff.mp hid
      rw [NetStack.sent, NetStack.sent, hst', hc]
      simp only [NetStack.udp, hh, hsock st hc]

lemma OneSlot.sent_eq {st : TcpState} (hm : s.shape.Matched) (hid : s.tcpConns id' = some st)
    (h : OneSlot st.handle s s') : s'.sent id = s.sent id := by
  refine sent_congr (by rw [h.udpConns]) (fun u hu => h.sockets _ fun heq => ?_)
  have hsame := entries_inj hm (entries_udp hu) (heq ▸ entries_tcp hid)
  cases hsame.1

/-- One socket that keeps what it has accepted. -/
lemma sent_setSocket {h : Handle} {u u' : UdpSocket} (hu : s.udp h = some u)
    (hs : s'.sockets = Function.update s.sockets h (some (.udp u'))) (hsent : u'.sent = u.sent)
    (hid : s'.udpConns = s.udpConns) : s'.sent id = s.sent id := by
  cases hc : s.udpConns id with
  | none => rw [sent_eq_nil hc, sent_eq_nil (hid ▸ hc)]
  | some st =>
      by_cases heq : st.handle = h
      · subst heq
        have hslot : s'.udp st.handle = some u' := by
          rw [udp_eq_some, hs, Function.update_self]
        rw [Netstack.sent_eq hc hu, Netstack.sent_eq (hid ▸ hc) hslot, hsent]
      · refine sent_congr (by rw [hid]) (fun st' hst' => ?_)
        obtain rfl := Option.some.inj (hc.symm.trans hst')
        rw [hs, Function.update_of_ne heq]

lemma handleCmd_sent {c : Cmd} {h : Handle} {err : Option String} (hm : s.shape.Matched)
    (hfree : slotFree s c h err = true) : (handleCmd sm s c h err).sent id = s.sent id := by
  cases c with
  | openTcp dst resp =>
      cases err with
      | some e => exact sent_congr rfl fun _ _ => rfl
      | none =>
          exact sent_congr rfl fun st hid => Function.update_of_ne (handle_ne_free hm hfree hid) ..
  | openUdp resp =>
      cases err with
      | some e => exact sent_congr rfl fun _ _ => rfl
      | none =>
          by_cases hid : id = s.nextId
          · subst hid
            have hnone : s.udpConns s.nextId = none := udpConns_of_le hm (Nat.le_refl _)
            have hsock : (handleCmd sm s (.openUdp resp) h none).udp h
                = some ⟨s.nextPort, [], []⟩ := udp_eq_some.mpr (Function.update_self ..)
            have hentry : (handleCmd sm s (.openUdp resp) h none).udpConns s.nextId
                = some ⟨h, .empty, false⟩ := Function.update_self ..
            rw [sent_eq_nil hnone, sent_eq hentry hsock]
          · have hentry : (handleCmd sm s (.openUdp resp) h none).udpConns id = s.udpConns id :=
              Function.update_of_ne hid ..
            exact sent_congr (congrArg _ hentry)
              fun st hst => Function.update_of_ne (handle_ne_free hm hfree hst) ..
  | setAddrs v4 v6 =>
      rw [handleCmd]
      split <;> exact sent_congr rfl fun _ _ => rfl

lemma handleData_sent (hm : s.shape.Matched) (d : DataIn) (room : Bool)
    (hkept : s.udpConns id ≠ none → (handleData s d room).udpConns id ≠ none) :
    (handleData s d room).sent id = s.sent id ++ accepted ((Ev.data d room).giving s id) := by
  have hown := handleData_own hm d room
  have hother : id ≠ d.connId →
      (handleData s d room).sent id = s.sent id := by
    intro hne
    refine sent_congr (by rw [hown.udp id hne]) fun st hid => ?_
    exact hown.sockets .udp st.handle id hne (entries_udp hid)
  cases d with
  | tcp | tcpClose =>
      refine Eq.trans ?_ (List.append_nil _).symm
      rw [handleData]
      split <;> exact sent_congr rfl fun _ _ => rfl
  | udp id' dst data =>
      rw [Ev.giving]
      by_cases hne : id' = id
      · subst hne
        cases hid : s.udpConns id' with
        | none =>
            rw [handleData, hid, if_neg (by simp)]
            exact (List.append_nil _).symm
        | some st =>
            obtain ⟨u, hu⟩ := exists_udpSocket hm hid
            rw [handleData, hid, if_pos ⟨rfl, rfl⟩, sent_eq hid hu]
            dsimp only
            rw [hu]
            refine Eq.trans (sent_eq hid (?_ : _ = some (u.sendSlice dst data room))) ?_
            · exact udp_eq_some.mpr (Function.update_self ..)
            · cases room
              · exact (List.append_nil _).symm
              · rfl
      · rw [if_neg fun h => hne h.1, hother (Ne.symm hne)]
        exact (List.append_nil _).symm
  | udpClose id' =>
      refine Eq.trans ?_ (List.append_nil _).symm
      by_cases hne : id = id'
      · subst hne
        rw [handleData] at hkept ⊢
        split at hkept
        · rename_i st hid
          obtain ⟨u, hu⟩ := exists_udpSocket hm hid
          rw [udp_eq_some.mp hu] at hkept
          refine absurd (Function.update_self ..) (hkept ?_)
          rw [hid]
          exact Option.some_ne_none st
        · rfl
      · exact hother hne

lemma poll_sent {tcp : Handle → Arrival} {udp : Handle → List (SocketAddr × Bytes)}
    (hm : s.shape.Matched) (hs : s'.sockets = pollSockets s.sockets tcp udp)
    (hid : s'.udpConns = s.udpConns) : s'.sent id = s.sent id := by
  cases hc : s.udpConns id with
  | none => rw [sent_eq_nil hc, sent_eq_nil (hid ▸ hc)]
  | some st =>
      obtain ⟨u, hu⟩ := exists_udpSocket hm hc
      have hslot : s'.udp st.handle = some { u with rx := u.rx ++ udp st.handle } := by
        rw [udp_eq_some, hs, pollSockets, udp_eq_some.mp hu]
      rw [sent_eq hc hu, sent_eq (hid ▸ hc) hslot]

/-- **A socket accepts what it is given, unless it has no room for it**: nothing else changes what
it has accepted, unless the step closes the connection. -/
theorem step_sent (hm : s.shape.Matched) (hs : Serving s) (h : step sm s e = some s')
    (hkept : s.udpConns id ≠ none → s'.udpConns id ≠ none) :
    s'.sent id = s.sent id ++ accepted (e.giving s id) := by
  have hquiet : ∀ {x : List (SocketAddr × Bytes)}, x = s.sent id →
      x = s.sent id ++ accepted [] := fun h => h.trans (List.append_nil _).symm
  cases stepped h with
  | lost hl => exact absurd hl (not_lost hm hs)
  | moved hmoved =>
      refine Eq.trans (sent_congr rfl fun _ _ => rfl) ?_
      cases hmoved <;> exact (List.append_nil _).symm
  | poll => exact hquiet (poll_sent hm rfl rfl)
  | serviceTcp _ hid => exact hquiet ((serviceConn_slot ..).sent_eq hm hid)
  | deliverTcp _ hid _ hd => exact hquiet ((deliverChunk_slot hd).sent_eq hm hid)
  | finishTcp _ hid => exact hquiet ((finishConn_slot ..).sent_eq hm hid)
  | serviceUdp _ _ hu => exact hquiet (sent_setSocket hu rfl rfl rfl)
  | @deliverUdp id' _ _ _ st _ _ hid =>
      refine hquiet (sent_congr ?_ fun _ _ => rfl)
      exact congrFun (map_update_self (by rw [hid]; rfl)) id
  | flush | inbound | dropReceiver | appRecv => exact hquiet (sent_congr rfl fun _ _ => rfl)
  | cmd _ hfree => exact hquiet (handleCmd_sent (s := s.goto .poll) hm hfree)
  | data => exact handleData_sent (s := s.goto .dataIn) hm _ _ hkept
  | dropUdpReceiver hid | appRecvUdp hid _ =>
      refine hquiet (sent_congr ?_ fun _ _ => rfl)
      exact congrFun (map_update_self (by rw [hid]; rfl)) id

/-! ### The ledger of a run -/

lemma accepted_append (given given' : List ((SocketAddr × Bytes) × Bool)) :
    accepted (given ++ given') = accepted given ++ accepted given' := by
  rw [accepted, List.filter_append, List.map_append]
  rfl

lemma giving_eq_nil (hid : s.udpConns id = none) (e : Ev) : e.giving s id = [] := by
  unfold Ev.giving
  split
  · rw [hid, if_neg]
    simp
  · rfl

lemma coming_eq_nil (hid : s.udpConns id = none) (e : Ev) : e.coming s id = [] := by
  cases e with
  | poll => rw [Ev.coming, hid]; rfl
  | _ => rfl

lemma taking_eq_nil (hid : s.udpConns id = none) (e : Ev) : e.taking s id = [] := by
  cases e with
  | appRecvUdp id' =>
      rw [Ev.taking, hid]
      exact ite_self _
  | _ => rfl

/-- A connection whose receiver is not dropped was one before, or its id was not given out. -/
lemma live_before (h : step sm s e = some s') (hid : s'.udpConns id = some st)
    (hlive : st.rxDropped = false) :
    s.nextId ≤ id ∨ ∃ st, s.udpConns id = some st ∧ st.rxDropped = false := by
  cases he : e.drops with
  | false =>
      have hends : s'.udpEnds id = some false := by rw [NetStack.udpEnds, hid, ← hlive]; rfl
      refine ((step_ends h he).udp id false hends).imp And.left fun hold => ?_
      exact Option.map_eq_some_iff.mp hold
  | true =>
      right
      cases e with
      | dropReceiver id' =>
          simp only [step] at h
          split at h
          · split at h
            · cases h
            · cases h
              exact ⟨st, hid, hlive⟩
          · cases h
      | dropUdpReceiver id' =>
          obtain ⟨st', -, rfl⟩ := Option.map_eq_some_iff.mp h
          by_cases hne : id = id'
          · subst hne
            have hnew := Function.update_self id (some { st' with rxDropped := true }) s.udpConns
            cases hnew.symm.trans hid
            cases hlive
          · have hold := Function.update_of_ne hne (some { st' with rxDropped := true }) s.udpConns
            exact ⟨st, hold.symm.trans hid, hlive⟩
      | _ => cases he

/-- What every step preserves. -/
structure Accounted (id : ℕ) (w : NetStack × Ledger) : Prop where
  matched : w.1.shape.Matched
  serving : Serving w.1
  unopened : w.1.nextId ≤ id → w.2 = ⟨[], [], []⟩
  balanced : ∀ st, w.1.udpConns id = some st → st.rxDropped = false →
    w.2.taken ++ w.1.waiting id = w.2.came
  accepts : w.1.udpConns id ≠ none → w.1.sent id = accepted w.2.given

/-- An entry was there before the step, or its id was not given out. -/
lemma udpConns_before (h : ShapeStep s.shape s'.shape) (hid : s'.udpConns id ≠ none) :
    s.nextId ≤ id ∨ s.udpConns id ≠ none := by
  obtain ⟨st, hst⟩ := Option.ne_none_iff_exists'.mp hid
  refine (h.before (entries_udp hst)).imp_right fun hold hnone => ?_
  have hentry : s.shape.entries .udp id = none := congrArg (Option.map UdpState.handle) hnone
  cases hentry.symm.trans hold

/-- **One step keeps the ledger balanced.** -/
lemma step_accounted (w : NetStack × Ledger) (e : Ev) (w' : NetStack × Ledger)
    (hw : Accounted id w) (h : record sm id w e = some w') : Accounted id w' := by
  obtain ⟨s, l⟩ := w
  obtain ⟨s', hs', rfl⟩ := Option.map_eq_some_iff.mp h
  have hm : s.shape.Matched := hw.matched
  have hserving : Serving s := hw.serving
  have hunopened : s.nextId ≤ id → l = ⟨[], [], []⟩ := hw.unopened
  have hshape := step_shape hs'
  have hempty : s.nextId ≤ id → l.see id s e = ⟨[], [], []⟩ ∧ s.waiting id = [] := by
    intro hle
    have hid := udpConns_of_le hm hle
    rw [Ledger.see, hunopened hle, coming_eq_nil hid, taking_eq_nil hid, giving_eq_nil hid]
    exact ⟨rfl, waiting_eq_nil hid⟩
  refine ⟨hshape.matched hm, step_serving hserving hs', fun hle => ?_, fun st hid hlive => ?_,
    fun hid => ?_⟩
  · exact (hempty (Nat.le_trans hshape.nextId_le hle)).1
  · have hstep := step_waiting hm hserving hs' (fun _ => hid.trans_ne (Option.some_ne_none st))
      fun st' hid' => Option.some.inj (hid.symm.trans hid') ▸ hlive
    have hbefore : l.taken ++ s.waiting id = l.came := by
      rcases live_before hs' hid hlive with hle | ⟨st₀, hid₀, hlive₀⟩
      · rw [(hempty hle).2, hunopened hle]
        rfl
      · exact hw.balanced st₀ hid₀ hlive₀
    calc (l.taken ++ e.taking s id) ++ s'.waiting id
        = l.taken ++ (s.waiting id ++ e.coming s id) := by rw [List.append_assoc, hstep]
      _ = l.came ++ e.coming s id := by rw [← List.append_assoc, hbefore]
  · have hbefore : s.sent id = accepted l.given := by
      rcases udpConns_before hshape hid with hle | hold
      · rw [sent_eq_nil (udpConns_of_le hm hle), hunopened hle]
        rfl
      · exact hw.accepts hold
    calc s'.sent id
        = s.sent id ++ accepted (e.giving s id) := step_sent hm hserving hs' fun _ => hid
      _ = accepted (l.given ++ e.giving s id) := by rw [hbefore, accepted_append]

lemma spawned_accounted (id : ℕ) (iface : Interface) : Accounted id (Ledger.spawned iface) where
  matched := spawned_matched iface
  serving := spawned_serving iface
  unopened _ := rfl
  balanced _ hid := by cases hid
  accepts hid := absurd rfl hid

/-- **The application takes what has come, in order.** In every run, for a connection whose
receiver is not dropped, what it has taken and what waits for it are all that has come,
whoever sent it. -/
theorem datagrams_in_order {iface : Interface} {es : List Ev} {w : NetStack × Ledger}
    (h : Machine.run (record sm id) (Ledger.spawned iface) es = some w)
    (hid : w.1.udpConns id = some st) (hlive : st.rxDropped = false) :
    w.2.taken ++ w.1.waiting id = w.2.came := by
  exact (Machine.run_invariant step_accounted (spawned_accounted id iface) h).balanced st hid hlive

/-- Two datagrams of different senders; the application has taken the first. -/
def sampleDatagrams : List (SocketAddr × Bytes) :=
  [(⟨.v4 (.new 10 0 0 9), 53⟩, [1]), (⟨.v4 (.new 1 1 1 1), 53⟩, [2])]

example : (Machine.run (record stdSmoltcp 1) (Ledger.spawned sampleIface)
    ([samplePoll .closed [] []] ++ samplePass ++ [.cmd (.openUdp 7) 0 none,
      .poll (fun _ => ⟨.closed, [], 0⟩) (fun _ => sampleDatagrams) [] false [], .tcpDone [1],
      .serviceUdp, .deliverUdp, .deliverUdp, .appRecvUdp 1])).map (·.2.taken)
    = some (sampleDatagrams.take 1) := rfl

end Aether.Netstack
