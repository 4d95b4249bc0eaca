import Aether.Netstack.Tables

/-!
One connection, followed through a run.

A `View` is everything the stack and its observers know of one TCP connection: its
entry, its socket, the application bytes handled for it, the bytes delivered to the
application, and the chunks of the delivery that is under way. Only eight kinds of
change happen to it (`ConnStep`); the steps of all other connections leave it alone,
because no two entries share a slot.

* `step_view`: every step makes one of these changes, or opens the connection.
* `run_view`: what a new connection has and every change keeps, every connection has
  after every run.
-/

namespace Aether.Netstack

/-! ### What the log says of a connection -/

@[simp] def Obs.opens (id : ℕ) : Obs → Bool
  | .opened id' => id' = id
  | _ => false

/-- The bytes of a handled `DataIn::Tcp` for the connection. -/
@[simp] def Obs.handledFor (id : ℕ) : Obs → Bytes
  | .handled id' data => if id' = id then data else []
  | _ => []

/-- The bytes of a chunk sent on `to_app` for the connection. -/
@[simp] def Obs.deliveredFor (id : ℕ) : Obs → Bytes
  | .delivered id' chunk => if id' = id then chunk else []
  | _ => []

/-- The concatenation of a part of each observation since the connection was opened. -/
def since (id : ℕ) (part : Obs → Bytes) : List Obs → Bytes
  | [] => []
  | o :: log => if o.opens id then [] else since id part log ++ part o

namespace NetStack

/-- All application data handled for the connection since it was opened. -/
def handled (s : NetStack) (id : ℕ) : Bytes := since id (Obs.handledFor id) s.log

/-- All chunks sent on `to_app` since the connection was opened. -/
def delivered (s : NetStack) (id : ℕ) : Bytes := since id (Obs.deliveredFor id) s.log

end NetStack

/-- While the connection is being serviced: the chunks still to be sent. -/
def Pc.inflight (id : ℕ) : Pc → Option (List Bytes)
  | .deliverTcp id' chunks _ => if id' = id then some chunks else none
  | _ => none

structure View where
  entry : TcpState
  socket : TcpSocket
  handled : Bytes
  delivered : Bytes
  inflight : Option (List Bytes)

/-- The view of a connection that `tcp_conns` holds. -/
def NetStack.view (s : NetStack) (id : ℕ) : Option View :=
  (s.tcpConns id).bind fun st => (s.tcp st.handle).map fun t =>
    ⟨st, t, s.handled id, s.delivered id, s.pc.inflight id⟩

namespace View

/-- A connection as `OpenTcp` makes it. -/
def opened (h : Handle) (localPort : ℕ) (dst : SocketAddr) (resp : ℕ) : View where
  entry := ⟨h, .empty, false, true, some resp, [], false, false⟩
  socket := ⟨.synSent, localPort, dst, [], [], .empty⟩
  handled := []
  delivered := []
  inflight := none

/-- The entry and the socket after the send part and the half-close of a service pass. -/
def flushed (sm : Smoltcp) (v : View) (accept : ℕ) : TcpState × TcpSocket :=
  let (st, t) := sendPending (v.entry.seen v.socket.state) v.socket accept
  (st, if closesHalf st then t.close sm else t)

/-- The connection after the body of the service loop up to the delivery. -/
def serviced (sm : Smoltcp) (v : View) (accept : ℕ) : View :=
  let (st, t) := v.flushed sm accept
  let (chunks, rx) := recvChunks maxRecvChunks t.rx
  { v with entry := st, socket := { t with rx := rx }, inflight := some chunks }

/-- The connection after the end of the service loop, where it is kept. -/
def finished (sm : Smoltcp) (v : View) : View :=
  { v with
    socket := if v.socket.state = .closeWait then v.socket.close sm else v.socket
    inflight := none }

end View

/-- The changes of a connection that stays in `tcp_conns`. -/
inductive ConnStep (sm : Smoltcp) (v : View) : View → Prop where
  | idle : ConnStep sm v v
  | polled (a : Arrival) : v.inflight = none →
      ConnStep sm v { v with socket := v.socket.polled a }
  | data (d : Bytes) : ConnStep sm v
      { v with entry := { v.entry with pending := v.entry.pending ++ d },
               handled := v.handled ++ d }
  | halfClosed : ConnStep sm v { v with entry := { v.entry with halfClosed := true } }
  | app (toApp : Mailbox Bytes appQueue) (rxDropped : Bool) :
      (v.entry.rxDropped → rxDropped) →
      ConnStep sm v { v with entry := { v.entry with toApp, rxDropped } }
  | serviced (accept : ℕ) : v.inflight = none →
      ¬ refused (v.entry.seen v.socket.state) v.socket.state →
      ConnStep sm v (v.serviced sm accept)
  | chunk (c : Bytes) (cs : List Bytes) (toApp : Mailbox Bytes appQueue) :
      v.inflight = some (c :: cs) → v.entry.rxDropped = false →
      ConnStep sm v { v with
        entry := { v.entry with toApp }, delivered := v.delivered ++ c, inflight := some cs }
  | appGone (c : Bytes) (cs : List Bytes) : v.inflight = some (c :: cs) → v.entry.rxDropped →
      ConnStep sm v { v with socket := v.socket.close sm, inflight := some [] }
  | finished : v.inflight = some [] → ConnStep sm v (v.finished sm)

/-! ### What leaves a view alone -/

section Frame

variable {s s' : NetStack} {id id' : ℕ} {st st' : TcpState} {t t' : TcpSocket} {v v' : View}
  {sm : Smoltcp}

lemma view_eq (hid : s.tcpConns id = some st) (ht : s.tcp st.handle = some t) :
    s.view id = some ⟨st, t, s.handled id, s.delivered id, s.pc.inflight id⟩ := by
  rw [NetStack.view, hid, Option.bind_some, ht, Option.map_some]

lemma view_eq_some (h : s.view id = some v) :
    s.tcpConns id = some v.entry ∧ s.tcp v.entry.handle = some v.socket
      ∧ v.handled = s.handled id ∧ v.delivered = s.delivered id
      ∧ v.inflight = s.pc.inflight id := by
  obtain ⟨st, hid, h⟩ := Option.bind_eq_some_iff.mp h
  obtain ⟨t, ht, rfl⟩ := Option.map_eq_some_iff.mp h
  exact ⟨hid, ht, rfl, rfl, rfl⟩

lemma view_eq_none (hid : s.tcpConns id = none) : s.view id = none := by
  rw [NetStack.view, hid, Option.bind_none]

/-- A view reads the entry, the entry's slot, the log and the program counter. -/
lemma view_congr (hid : s'.tcpConns id = s.tcpConns id)
    (hsock : ∀ st, s.tcpConns id = some st → s'.sockets st.handle = s.sockets st.handle)
    (hlog : s'.log = s.log) (hin : s'.pc.inflight id = s.pc.inflight id) :
    s'.view id = s.view id := by
  rw [NetStack.view, NetStack.view, hid]
  cases hc : s.tcpConns id with
  | none => rfl
  | some st =>
      simp only [Option.bind_some, NetStack.tcp, NetStack.handled, NetStack.delivered,
        hsock st hc, hlog, hin]

@[simp] lemma inflight_self (cs : List Bytes) (todo : List ℕ) :
    (Pc.deliverTcp id cs todo).inflight id = some cs := if_pos rfl

lemma inflight_ne (hne : id ≠ id') (cs : List Bytes) (todo : List ℕ) :
    (Pc.deliverTcp id' cs todo).inflight id = none := if_neg hne.symm

lemma view_setLog {log : List Obs} (hh : ({ s with log } : NetStack).handled id = s.handled id)
    (hd : ({ s with log } : NetStack).delivered id = s.delivered id) :
    ({ s with log } : NetStack).view id = s.view id := by
  simp only [NetStack.view, hh, hd]
  rfl

lemma view_goto {pc : Pc} (h : pc.inflight id = s.pc.inflight id) :
    (s.goto pc).view id = s.view id :=
  view_congr rfl (fun _ _ => rfl) rfl h

@[simp] lemma handled_observe (o : Obs) :
    (s.observe o).handled id
      = if o.opens id then [] else s.handled id ++ o.handledFor id := rfl

@[simp] lemma delivered_observe (o : Obs) :
    (s.observe o).delivered id
      = if o.opens id then [] else s.delivered id ++ o.deliveredFor id := rfl

lemma view_observe {o : Obs} (ho : o.opens id = false) (hh : o.handledFor id = [])
    (hd : o.deliveredFor id = []) : (s.observe o).view id = s.view id := by
  refine view_setLog ?_ ?_
  · exact (handled_observe o).trans (by rw [ho, hh, List.append_nil]; rfl)
  · exact (delivered_observe o).trans (by rw [ho, hd, List.append_nil]; rfl)

/-- No other entry names the slot of this one. -/
lemma handle_ne (hm : s.shape.Matched) (hid : s.tcpConns id = some st)
    (hid' : s.tcpConns id' = some st') (hne : id ≠ id') : st.handle ≠ st'.handle := by
  intro h
  have he := entries_tcp hid
  rw [h] at he
  exact hne (hm.inj .tcp id id' _ he (entries_tcp hid'))

lemma view_update_self (pc : Pc) :
    ((s.update id st' t').goto pc).view id
      = some ⟨st', t', s.handled id, s.delivered id, pc.inflight id⟩ := by
  refine view_eq (s := (s.update id st' t').goto pc) ?_ ?_
  · exact Function.update_self ..
  · exact tcp_eq_some.mpr (Function.update_self ..)

lemma view_update_ne (hm : s.shape.Matched) (hid' : s.tcpConns id' = some st)
    (hh : st'.handle = st.handle) (hne : id ≠ id') : (s.update id' st' t').view id = s.view id := by
  refine view_congr (Function.update_of_ne hne ..) (fun st₁ hid => ?_) rfl rfl
  have hslot : st₁.handle ≠ st'.handle := hh ▸ handle_ne hm hid hid' hne
  exact Function.update_of_ne hslot ..

lemma view_removeTcp_ne (hm : s.shape.Matched) (hid' : s.tcpConns id' = some st)
    (hne : id ≠ id') : (s.removeTcp id' st.handle).view id = s.view id := by
  refine view_congr (Function.update_of_ne hne ..) (fun st₁ hid => ?_) rfl rfl
  exact Function.update_of_ne (handle_ne hm hid hid' hne) ..

/-- An entry that is replaced in its slot. -/
lemma view_setConn (hh : st'.handle = st.handle) :
    ({ s with tcpConns := Function.update s.tcpConns id (some st') } : NetStack).view id
      = (s.tcp st.handle).map fun t =>
          ⟨st', t, s.handled id, s.delivered id, s.pc.inflight id⟩ := by
  simp only [NetStack.view, Function.update_self, Option.bind_some, hh]
  rfl

lemma view_setConn_ne (hne : id ≠ id') :
    ({ s with tcpConns := Function.update s.tcpConns id' (some st') } : NetStack).view id
      = s.view id :=
  view_congr (Function.update_of_ne hne ..) (fun _ _ => rfl) rfl rfl

/-- A slot that holds another socket or none is not the slot of a connection. -/
lemma slot_ne {h : Handle} (hm : s.shape.Matched) (hid : s.tcpConns id = some st)
    (hk : ∀ t, s.sockets h ≠ some (.tcp t)) : st.handle ≠ h := by
  rintro rfl
  have hlive := hm.live .tcp id _ (entries_tcp hid)
  obtain ⟨x, hx, hxk⟩ := Option.map_eq_some_iff.mp hlive
  cases x with
  | tcp t => exact hk t hx
  | udp u => cases hxk

/-- Every entry has its socket. -/
lemma exists_socket (hm : s.shape.Matched) (hid : s.tcpConns id = some st) :
    ∃ t, s.tcp st.handle = some t := by
  obtain ⟨x, hx, hk⟩ := Option.map_eq_some_iff.mp (hm.live .tcp id _ (entries_tcp hid))
  cases x with
  | tcp t => exact ⟨t, tcp_eq_some.mpr hx⟩
  | udp u => cases hk

/-- The next id is not in use. -/
lemma tcpConns_nextId (hm : s.shape.Matched) : s.tcpConns s.nextId = none := by
  cases hid : s.tcpConns s.nextId with
  | none => rfl
  | some st => exact absurd (hm.below .tcp _ _ (entries_tcp hid)) (Nat.lt_irrefl _)

end Frame

/-! ### What a step does to a view -/

/-- What a step does to a connection: nothing while there is none, open it, change it,
or remove it, in one of the two ways `service_tcp` has. -/
inductive ViewStep (sm : Smoltcp) : Option View → Option View → Prop where
  | absent : ViewStep sm none none
  | opened (h : Handle) (localPort : ℕ) (dst : SocketAddr) (resp : ℕ) :
      ViewStep sm none (some (.opened h localPort dst resp))
  | kept {v v' : View} : ConnStep sm v v' → ViewStep sm (some v) (some v')
  | refused {v : View} : v.inflight = none → refused (v.entry.seen v.socket.state) v.socket.state →
      ViewStep sm (some v) none
  | ended {v : View} : v.inflight = some [] → v.socket.state = .closed → v.entry.established →
      ViewStep sm (some v) none

section Step

variable {s s' : NetStack} {id id' : ℕ} {st : TcpState} {t : TcpSocket} {sm : Smoltcp}

lemma ViewStep.of_eq {v v' : Option View} (h : v' = v) : ViewStep sm v v' := by
  subst h
  cases v' with
  | none => exact .absent
  | some v => exact .kept .idle

lemma ViewStep.of_some {v v' : View} (hv : s.view id = some v) (hv' : s'.view id = some v')
    (h : ConnStep sm v v') : ViewStep sm (s.view id) (s'.view id) := by
  rw [hv, hv']
  exact .kept h

/-- Steps of other connections and of the rest of the loop. -/
lemma viewStep_goto {pc : Pc} (h : pc.inflight id = s.pc.inflight id) :
    ViewStep sm (s.view id) ((s.goto pc).view id) :=
  .of_eq (view_goto h)

lemma viewStep_setConn {st' : TcpState} (hm : s.shape.Matched) (hid' : s.tcpConns id' = some st)
    (hh : st'.handle = st.handle)
    (h : ∀ t, ConnStep sm ⟨st, t, s.handled id', s.delivered id', s.pc.inflight id'⟩
      ⟨st', t, s.handled id', s.delivered id', s.pc.inflight id'⟩) :
    ViewStep sm (s.view id)
      (({ s with tcpConns := Function.update s.tcpConns id' (some st') } :
        NetStack).view id) := by
  by_cases hne : id = id'
  · subst hne
    obtain ⟨t, ht⟩ := exists_socket hm hid'
    exact .of_some (view_eq hid' ht) (by rw [view_setConn hh, ht]; rfl) (h t)
  · exact .of_eq (view_setConn_ne hne)

/-- A poll of the interface polls every socket. -/
lemma view_poll (tcp : Handle → Arrival) (udp : Handle → List (SocketAddr × Bytes))
    (rx tx : List Bytes) (order : List ℕ) :
    ({ s with sockets := pollSockets s.sockets tcp udp, rx, tx, pc := .serviceTcp order } :
      NetStack).view id
      = (s.view id).map fun v =>
          { v with socket := v.socket.polled (tcp v.entry.handle), inflight := none } := by
  simp only [NetStack.view]
  cases hid : s.tcpConns id with
  | none => rfl
  | some st =>
      simp only [Option.bind_some, NetStack.tcp, pollSockets]
      rcases s.sockets st.handle with _ | t | u <;> rfl

lemma poll_viewStep {tcp : Handle → Arrival} {udp : Handle → List (SocketAddr × Bytes)}
    {rx tx : List Bytes} {order : List ℕ} (hpc : s.pc = .poll) :
    ViewStep sm (s.view id) (({ s with
      sockets := pollSockets s.sockets tcp udp, rx, tx, pc := .serviceTcp order } :
        NetStack).view id) := by
  rw [view_poll]
  cases hv : s.view id with
  | none => exact .absent
  | some v =>
      have hquiet : v.inflight = none := by
        rw [(view_eq_some hv).2.2.2.2, hpc]; rfl
      refine .kept ?_
      dsimp only
      rw [← hquiet]
      exact .polled (tcp v.entry.handle) hquiet

/-- The end of a service step of one connection: after some observations its entry and
its socket are replaced, and the loop goes on. -/
lemma commit_viewStep {r : NetStack} {st' : TcpState} {t' : TcpSocket} {pc : Pc}
    (hm : s.shape.Matched) (hid' : s.tcpConns id' = some st) (hh : st'.handle = st.handle)
    (hr : ∃ log, r = { s with log })
    (hlog : ∀ i, i ≠ id' → r.handled i = s.handled i ∧ r.delivered i = s.delivered i)
    (hpc : ∀ i, i ≠ id' → pc.inflight i = s.pc.inflight i)
    (h : ∃ v, s.view id' = some v ∧ ConnStep sm v
      ⟨st', t', r.handled id', r.delivered id', pc.inflight id'⟩) :
    ViewStep sm (s.view id) (((r.update id' st' t').goto pc).view id) := by
  obtain ⟨log, rfl⟩ := hr
  by_cases hne : id = id'
  · subst hne
    obtain ⟨v, hv, hstep⟩ := h
    exact .of_some hv (view_update_self pc) hstep
  · obtain ⟨h₁, h₂⟩ := hlog id hne
    refine .of_eq ?_
    calc ((({ s with log } : NetStack).update id' st' t').goto pc).view id
        = (({ s with log } : NetStack).update id' st' t').view id := view_goto (hpc id hne)
      _ = ({ s with log } : NetStack).view id :=
          view_update_ne (s := { s with log }) hm hid' hh hne
      _ = s.view id := view_setLog h₁ h₂

lemma deliverChunk_viewStep {chunk : Bytes} {chunks : List Bytes} {rest : List ℕ}
    (hm : s.shape.Matched) (hpc : s.pc = .deliverTcp id' (chunk :: chunks) rest)
    (hid' : s.tcpConns id' = some st) (ht : s.tcp st.handle = some t)
    (h : deliverChunk sm s id' chunk chunks rest st t = some s') :
    ViewStep sm (s.view id) (s'.view id) := by
  have hin : s.pc.inflight id' = some (chunk :: chunks) := by rw [hpc, inflight_self]
  have hothers : ∀ cs i, i ≠ id' → (Pc.deliverTcp id' cs rest).inflight i = s.pc.inflight i := by
    intro cs i hi
    rw [hpc, inflight_ne hi, inflight_ne hi]
  rw [deliverChunk] at h
  split at h
  · rename_i hdrop
    cases h
    refine commit_viewStep hm hid' rfl ⟨_, rfl⟩ (fun i _ => ?_) (hothers [])
      ⟨_, view_eq hid' ht, ?_⟩
    · simp
    · have hstep : ConnStep sm ⟨st, t, s.handled id', s.delivered id', s.pc.inflight id'⟩ _ :=
        .appGone chunk chunks hin hdrop
      simpa using hstep
  · rename_i hdrop
    obtain ⟨toApp, _, rfl⟩ := Option.map_eq_some_iff.mp h
    refine commit_viewStep hm hid' rfl ⟨_, rfl⟩ (fun i hi => ?_) (hothers chunks)
      ⟨_, view_eq hid' ht, ?_⟩
    · simp [hi.symm]
    · have hstep : ConnStep sm ⟨st, t, s.handled id', s.delivered id', s.pc.inflight id'⟩ _ :=
        .chunk chunk chunks toApp hin (Bool.eq_false_iff.mpr hdrop)
      simpa using hstep

lemma finishConn_viewStep {rest : List ℕ} (hm : s.shape.Matched)
    (hpc : s.pc = .deliverTcp id' [] rest) (hid' : s.tcpConns id' = some st)
    (ht : s.tcp st.handle = some t) :
    ViewStep sm (s.view id) ((finishConn sm s id' rest st t).view id) := by
  have hin : s.pc.inflight id' = some [] := by rw [hpc, inflight_self]
  have hothers : ∀ i, i ≠ id' → (Pc.serviceTcp rest).inflight i = s.pc.inflight i := by
    intro i hi
    rw [hpc, inflight_ne hi]
    rfl
  have hstep : ConnStep sm ⟨st, t, s.handled id', s.delivered id', s.pc.inflight id'⟩ _ :=
    .finished hin
  rw [finishConn]
  split
  · rename_i hcw
    refine commit_viewStep hm hid' rfl ⟨_, rfl⟩ (fun i _ => ?_) hothers ⟨_, view_eq hid' ht, ?_⟩
    · simp
    · rw [View.finished, if_pos hcw] at hstep
      simpa [Pc.inflight] using hstep
  · rename_i hcw
    rw [View.finished, if_neg hcw] at hstep
    by_cases hne : id = id'
    · subst hne
      split
      · rename_i hend
        rw [view_eq hid' ht, view_eq_none (Function.update_self ..)]
        simp only [Bool.and_eq_true, decide_eq_true_eq] at hend
        exact .ended hin hend.1 hend.2
      · exact .of_some (view_eq hid' ht) (view_eq (s := s.goto _) hid' ht) hstep
    · refine .of_eq ?_
      split
      · calc ((((s.removeTcp id' st.handle).observe (.removed id' st t)).goto _).view id)
            = ((s.removeTcp id' st.handle).observe (.removed id' st t)).view id :=
              view_goto (hothers id hne)
          _ = (s.removeTcp id' st.handle).view id := view_observe rfl rfl rfl
          _ = s.view id := view_removeTcp_ne hm hid' hne
      · exact view_goto (hothers id hne)

/-- `establish` adds at most an answer to the log. -/
lemma establish_log (s : NetStack) (id' : ℕ) (st : TcpState) (state : State) (id : ℕ) :
    (establish s id' st state).handled id = s.handled id
      ∧ (establish s id' st state).delivered id = s.delivered id := by
  rw [establish]
  split <;> simp

/-- A logged close is no application data. -/
lemma closing_log (b : Bool) (s : NetStack) (id' : ℕ) (st : TcpState) (id : ℕ) :
    (if b then s.observe (.closing id' st) else s).handled id = s.handled id
      ∧ (if b then s.observe (.closing id' st) else s).delivered id = s.delivered id := by
  split <;> simp

lemma view_refuse_ne {st' : TcpState} (hm : s.shape.Matched) (hid' : s.tcpConns id' = some st)
    (hh : st'.handle = st.handle) (hne : id ≠ id') : (refuse s id' st' t).view id = s.view id := by
  rw [refuse, view_observe rfl rfl rfl, hh]
  split
  · rename_i resp _
    rw [view_removeTcp_ne (s := s.observe (.answered resp (.error "connection refused")))
      hm hid' hne, view_observe rfl rfl rfl]
  · exact view_removeTcp_ne hm hid' hne

lemma serviceConn_viewStep {rest : List ℕ} {accept : ℕ} (hm : s.shape.Matched)
    (hpc : s.pc = .serviceTcp (id' :: rest)) (hid' : s.tcpConns id' = some st)
    (ht : s.tcp st.handle = some t) :
    ViewStep sm (s.view id) ((serviceConn sm s id' rest st t accept).view id) := by
  have hquiet : ∀ i, s.pc.inflight i = none := fun i => by rw [hpc]; rfl
  have hothers : ∀ cs i, i ≠ id' → (Pc.deliverTcp id' cs rest).inflight i = s.pc.inflight i := by
    intro cs i hi
    rw [hquiet, inflight_ne hi]
  have hh := seen_handle st t.state
  have hlog := establish_log s id' st t.state
  obtain ⟨log, hs₁⟩ := establish_frame s id' st t.state
  rw [serviceConn]
  dsimp only
  rw [hs₁] at hlog ⊢
  split
  · by_cases hne : id = id'
    · subst hne
      rw [view_eq hid' ht, view_eq_none (Function.update_self ..)]
      exact .refused (hquiet id) ‹_›
    · refine .of_eq ?_
      calc ((refuse { s with log } id' (st.seen t.state) t).goto (.serviceTcp rest)).view id
          = (refuse { s with log } id' (st.seen t.state) t).view id := by
            refine view_goto ?_
            show none = (refuse { s with log } id' (st.seen t.state) t).pc.inflight id
            rw [refuse]
            split <;> exact (hquiet id).symm
        _ = ({ s with log } : NetStack).view id :=
            view_refuse_ne (s := { s with log }) hm hid' hh hne
        _ = s.view id := view_setLog (hlog id).1 (hlog id).2
  · rename_i hrf
    have hstep : ConnStep sm ⟨st, t, s.handled id', s.delivered id', s.pc.inflight id'⟩ _ :=
      .serviced accept (hquiet id') hrf
    refine commit_viewStep hm hid' hh ?_ (fun i _ => ?_) (hothers _) ⟨_, view_eq hid' ht, ?_⟩
    · split <;> exact ⟨_, rfl⟩
    · exact (closing_log _ _ id' _ i).imp (·.trans (hlog i).1) (·.trans (hlog i).2)
    · convert hstep using 1
      simp only [View.serviced, View.flushed, View.mk.injEq, true_and]
      exact ⟨(closing_log _ _ id' _ id').1.trans (hlog id').1,
        (closing_log _ _ id' _ id').2.trans (hlog id').2, inflight_self ..⟩

lemma handleCmd_viewStep {c : Cmd} {h : Handle} {err : Option String} (hm : s.shape.Matched)
    (hfree : slotFree s c h err = true) (hpc : s.pc.inflight id = none) :
    ViewStep sm (s.view id) ((handleCmd sm s c h err).view id) := by
  -- a new socket takes an empty slot, so it is not the slot of another connection
  have hslot : s.sockets h = none → ∀ st, s.tcpConns id = some st → st.handle ≠ h :=
    fun hh st hid => slot_ne hm hid fun t => by rw [hh]; simp
  cases c with
  | openTcp dst resp =>
      cases err with
      | some e => exact .of_eq (view_observe (s := { s with nextPort := _ }) rfl rfl rfl)
      | none =>
          have hempty : s.sockets h = none := Option.isNone_iff_eq_none.mp hfree
          by_cases hne : id = s.nextId
          · subst hne
            have hs' : (handleCmd sm s (.openTcp dst resp) h none).view s.nextId = _ :=
              view_eq (Function.update_self ..) (tcp_eq_some.mpr (Function.update_self ..))
            rw [view_eq_none (tcpConns_nextId hm), hs']
            convert ViewStep.opened h (allocPort s.nextPort).1 dst resp using 2
            rw [View.opened, View.mk.injEq]
            exact ⟨rfl, rfl, by simp [handleCmd], by simp [handleCmd], hpc⟩
          · refine .of_eq ?_
            have ho : Obs.opens id (.opened s.nextId) = false := decide_eq_false (Ne.symm hne)
            rw [handleCmd]
            dsimp only
            rw [view_observe ho rfl rfl]
            refine view_congr (Function.update_of_ne hne ..) (fun st hid => ?_) rfl rfl
            exact Function.update_of_ne (hslot hempty st hid) ..
  | openUdp resp =>
      cases err with
      | some e => exact .of_eq (view_observe (s := { s with nextPort := _ }) rfl rfl rfl)
      | none =>
          have hempty : s.sockets h = none := Option.isNone_iff_eq_none.mp hfree
          refine .of_eq ?_
          rw [handleCmd]
          dsimp only
          rw [view_observe rfl rfl rfl]
          refine view_congr rfl (fun st hid => ?_) rfl rfl
          exact Function.update_of_ne (hslot hempty st hid) ..
  | setAddrs v4 v6 =>
      rw [handleCmd]
      split
      · exact .of_eq (view_congr rfl (fun _ _ => rfl) rfl rfl)
      · exact viewStep_goto hpc.symm

lemma handleData_viewStep {d : DataIn} {room : Bool} (hm : s.shape.Matched)
    (hpc : s.pc.inflight id = none) :
    ViewStep sm (s.view id) ((handleData s d room).view id) := by
  cases d with
  | tcp id' data =>
      rw [handleData]
      by_cases hne : id = id'
      · subst hne
        split
        · rename_i st hid
          obtain ⟨t, ht⟩ := exists_socket hm hid
          have hstep : ConnStep sm ⟨st, t, s.handled id, s.delivered id, s.pc.inflight id⟩ _ :=
            .data data
          refine .of_some (view_eq hid ht) (view_eq (s := NetStack.observe _ _)
            (Function.update_self ..) ht) ?_
          simpa [NetStack.handled, NetStack.delivered, NetStack.observe, since] using hstep
        · rename_i hid
          exact .of_eq ((view_eq_none (s := s.observe _) hid).trans (view_eq_none hid).symm)
      · have hfor : Obs.handledFor id (.handled id' data) = [] := if_neg (Ne.symm hne)
        refine .of_eq ?_
        rw [view_observe rfl hfor rfl]
        split
        · exact view_setConn_ne hne
        · rfl
  | tcpClose id' =>
      rw [handleData]
      split
      · rename_i hid
        exact viewStep_setConn hm hid rfl fun t => .halfClosed
      · exact .of_eq rfl
  | udp id' dst data =>
      rw [handleData]
      split
      · split
        · rename_i hu
          refine .of_eq (view_congr rfl (fun st₁ hid₁ => Function.update_of_ne ?_ ..) rfl rfl)
          refine slot_ne hm hid₁ fun t ht => ?_
          rw [udp_eq_some.mp hu] at ht
          cases ht
        · exact viewStep_goto hpc.symm
      · exact .of_eq rfl
  | udpClose id' =>
      rw [handleData]
      split
      · rename_i st hid
        split
        · refine .of_eq (view_congr rfl (fun st₁ hid₁ => Function.update_of_ne ?_ ..) rfl rfl)
          obtain ⟨x, hx, hk⟩ := Option.map_eq_some_iff.mp (hm.live .udp id' _ (entries_udp hid))
          refine slot_ne hm hid₁ fun t ht => ?_
          rw [ht, Option.some.injEq] at hx
          subst hx
          cases hk
        · exact viewStep_goto hpc.symm
      · exact .of_eq rfl

/-- A pass that panics serves no connection that there is. -/
lemma lost_viewStep (hm : s.shape.Matched) (hl : Lost s) :
    ViewStep sm (s.view id) ((s.goto .panicked).view id) := by
  cases hl with
  | service hpc _ _ => exact viewStep_goto (by rw [hpc]; rfl)
  | serviceUdp hpc _ _ => exact viewStep_goto (by rw [hpc]; rfl)
  | deliverUdp hpc _ => exact viewStep_goto (by rw [hpc]; rfl)
  | @deliver id' chunks rest hpc hlost =>
      by_cases hne : id = id'
      · subst hne
        have hid : s.tcpConns id = none := by
          cases hid : s.tcpConns id with
          | none => rfl
          | some st =>
              obtain ⟨t, ht⟩ := exists_socket hm hid
              rw [hlost st hid] at ht
              cases ht
        exact .of_eq ((view_eq_none (s := s.goto .panicked) hid).trans (view_eq_none hid).symm)
      · exact viewStep_goto (by rw [hpc, inflight_ne hne]; rfl)

lemma Moved.inflight {e : Ev} {pc : Pc} (h : Moved s e pc) : pc.inflight id = s.pc.inflight id := by
  cases h <;> simp only [Pc.inflight, *]

/-- **What a step does to a connection.** -/
theorem step_view {e : Ev} (hm : s.shape.Matched) (h : step sm s e = some s') (id : ℕ) :
    ViewStep sm (s.view id) (s'.view id) := by
  cases stepped h with
  | lost hl => exact lost_viewStep hm hl
  | moved hmv => exact viewStep_goto hmv.inflight
  | poll hpc => exact poll_viewStep hpc
  | serviceTcp hpc hid ht => exact serviceConn_viewStep hm hpc hid ht
  | deliverTcp hpc hid ht hd => exact deliverChunk_viewStep hm hpc hid ht hd
  | finishTcp hpc hid ht => exact finishConn_viewStep hm hpc hid ht
  | serviceUdp hpc hid hu =>
      refine .of_eq (view_congr rfl (fun st₁ hid₁ => Function.update_of_ne ?_ ..) rfl
        (by rw [hpc]; rfl))
      refine slot_ne hm hid₁ fun t ht => ?_
      rw [udp_eq_some.mp hu] at ht
      cases ht
  | deliverUdp hpc => exact .of_eq (view_congr rfl (fun _ _ => rfl) rfl (by rw [hpc]; rfl))
  | flush hpc _ =>
      exact .of_eq (view_congr rfl (fun _ _ => rfl) rfl (by rw [hpc]; split <;> rfl))
  | inbound hpc => exact .of_eq (view_congr rfl (fun _ _ => rfl) rfl (by rw [hpc]; rfl))
  | cmd hpc hfree =>
      have hgo : (s.goto .poll).view id = s.view id := view_goto (by rw [hpc]; rfl)
      rw [← hgo]
      exact handleCmd_viewStep (s := s.goto .poll) hm hfree rfl
  | data hpc =>
      have hquiet : s.pc.inflight id = none := by
        rcases hpc with hpc | hpc
        · rw [hpc]; rfl
        · rw [hpc]; rfl
      have hgo : (s.goto .dataIn).view id = s.view id := view_goto hquiet.symm
      rw [← hgo]
      exact handleData_viewStep (s := s.goto .dataIn) hm rfl
  | dropReceiver hid => exact viewStep_setConn hm hid rfl fun t => .app _ true fun _ => rfl
  | @appRecv _ _ r hid => exact viewStep_setConn hm hid rfl fun t => .app r.2 _ fun h => h
  | dropUdpReceiver => exact .of_eq (view_congr rfl (fun _ _ => rfl) rfl rfl)
  | appRecvUdp => exact .of_eq (view_congr rfl (fun _ _ => rfl) rfl rfl)

end Step

/-- **What every run keeps of a connection**: what holds when it is opened and survives
each change holds as long as it is in `tcp_conns`. -/
theorem run_view {sm : Smoltcp} {iface : Interface} {es : List Ev} {s : NetStack} {id : ℕ}
    {v : View} {P : View → Prop} (hopened : ∀ h p dst resp, P (.opened h p dst resp))
    (hstep : ∀ v v', P v → ConnStep sm v v' → P v')
    (h : Machine.run (step sm) (NetStack.spawned iface) es = some s) (hv : s.view id = some v) :
    P v := by
  have hI : s.shape.Matched ∧ ∀ id v, s.view id = some v → P v := by
    refine Machine.run_invariant (I := fun s => s.shape.Matched ∧ ∀ id v, s.view id = some v → P v)
      ?_ ⟨spawned_matched iface, fun id v hv => by cases hv⟩ h
    rintro s e s' ⟨hm, hP⟩ hs
    refine ⟨(step_shape hs).matched hm, ?_⟩
    intro id v' hv'
    have hview := step_view hm hs id
    rw [hv'] at hview
    generalize hv : s.view id = ov at hview
    cases hview with
    | opened h p dst resp => exact hopened h p dst resp
    | kept hc => exact hstep _ v' (hP id _ hv) hc
  exact hI.2 id v hv

/-! ### A run to look at -/

/-- A poll that does one thing to every TCP socket. -/
def samplePoll (state : State) (bytes : Bytes) (order : List ℕ) : Ev :=
  .poll (fun _ => ⟨state, bytes, 2⟩) (fun _ => []) [] false order

/-- The rest of an iteration after the TCP pass. -/
def samplePass : List Ev := [.tcpDone [], .udpDone, .flush false]

/-- A connection is opened and established; the application sends three bytes; the
remote sends three bytes and its FIN; the socket accepts two of the application's, and
the application is sent what arrived. -/
def sampleRun : List Ev :=
  [samplePoll .closed [] []] ++ samplePass
    ++ [.cmd (.openTcp ⟨.v4 sampleV4, 80⟩ 0) 0 none, samplePoll .established [] [1],
      .serviceTcp 0, .finishTcp] ++ samplePass
    ++ [.data (.tcp 1 [10, 20, 30]) true, .dataDone, samplePoll .closeWait [7, 8, 9] [1],
      .serviceTcp 2, .deliverTcp, .deliverTcp]

end Aether.Netstack
