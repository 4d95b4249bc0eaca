import Aether.Netstack.Stack
import Aether.Lib.Machine

/-!
What a step of the stack can do.

`Stepped` lists the outcomes of `step` with what enabled them; every invariant of the
stack is a case analysis of it. The first use is the interface: only `SetAddrs`
touches it.

* `stepped`: every step is one of `Stepped`.
* `run_syncAddrs`: a run that handles the commands of a sequence of assigned addresses
  leaves the interface `syncAddrs` computes.
-/

namespace Aether.Netstack

/-- A pass that serves a connection whose entry is gone or names no socket of its
kind. -/
inductive Lost (s : NetStack) : Prop where
  | service {id : ℕ} {rest : List ℕ} {st : TcpState} : s.pc = .serviceTcp (id :: rest) →
      s.tcpConns id = some st → s.tcp st.handle = none → Lost s
  | deliver {id : ℕ} {chunks : List Bytes} {rest : List ℕ} : s.pc = .deliverTcp id chunks rest →
      (∀ st, s.tcpConns id = some st → s.tcp st.handle = none) → Lost s
  | serviceUdp {id : ℕ} {rest : List ℕ} {st : UdpState} : s.pc = .serviceUdp (id :: rest) →
      s.udpConns id = some st → s.udp st.handle = none → Lost s
  | deliverUdp {id : ℕ} {packets : List (SocketAddr × Bytes)} {rest : List ℕ} :
      s.pc = .deliverUdp id packets rest → s.udpConns id = none → Lost s

/-- A pass that is lost handles no command and no data message. -/
lemma Lost.pc_ne {s : NetStack} (h : Lost s) : s.pc ≠ .select ∧ s.pc ≠ .dataIn := by
  refine ⟨?_, ?_⟩
  · intro hpc
    cases h with
    | service hs | deliver hs | serviceUdp hs | deliverUdp hs =>
        rw [hpc] at hs
        cases hs
  · intro hpc
    cases h with
    | service hs | deliver hs | serviceUdp hs | deliverUdp hs =>
        rw [hpc] at hs
        cases hs

/-- The moves of the program counter that touch nothing else. -/
inductive Moved (s : NetStack) : Ev → Pc → Prop where
  | skipTcp {accept id : ℕ} {rest : List ℕ} : s.pc = .serviceTcp (id :: rest) →
      s.tcpConns id = none → Moved s (.serviceTcp accept) (.serviceTcp rest)
  | tcpDone {order : List ℕ} : s.pc = .serviceTcp [] → order.Perm s.udpIds →
      Moved s (.tcpDone order) (.serviceUdp order)
  | skipUdp {id : ℕ} {rest : List ℕ} : s.pc = .serviceUdp (id :: rest) → s.udpConns id = none →
      Moved s .serviceUdp (.serviceUdp rest)
  | dropUdp {id : ℕ} {packets : List (SocketAddr × Bytes)} {rest : List ℕ} :
      s.pc = .deliverUdp id packets rest → Moved s .deliverUdp (.serviceUdp rest)
  | udpDone : s.pc = .serviceUdp [] → Moved s .udpDone .flushTx
  | flushed {gone : Bool} : s.pc = .flushTx → s.tx = [] → Moved s (.flush gone) .select
  | dataDone : s.pc = .dataIn → Moved s .dataDone .poll
  | timer : s.pc = .select → Moved s .timer .poll
  | stop : s.pc = .select → Moved s .stop .stopped

/-- What each event does, with what enabled it. -/
inductive Stepped (sm : Smoltcp) (s : NetStack) : Ev → NetStack → Prop where
  | lost {e : Ev} : Lost s → Stepped sm s e (s.goto .panicked)
  | moved {e : Ev} {pc : Pc} : Moved s e pc → Stepped sm s e (s.goto pc)
  | poll {tcp : Handle → Arrival} {udp : Handle → List (SocketAddr × Bytes)}
      {emitted : List Bytes} {caught : Bool} {order : List ℕ} :
      s.pc = .poll → order.Perm s.tcpIds →
      Stepped sm s (.poll tcp udp emitted caught order)
        { s with
          sockets := pollSockets s.sockets tcp udp
          rx := []
          tx := if caught then [] else s.tx ++ emitted
          pc := .serviceTcp order }
  | serviceTcp {accept id : ℕ} {rest : List ℕ} {st : TcpState} {t : TcpSocket} :
      s.pc = .serviceTcp (id :: rest) → s.tcpConns id = some st → s.tcp st.handle = some t →
      Stepped sm s (.serviceTcp accept) (serviceConn sm s id rest st t accept)
  | deliverTcp {id : ℕ} {chunk : Bytes} {chunks : List Bytes} {rest : List ℕ} {st : TcpState}
      {t : TcpSocket} {s' : NetStack} :
      s.pc = .deliverTcp id (chunk :: chunks) rest → s.tcpConns id = some st →
      s.tcp st.handle = some t → deliverChunk sm s id chunk chunks rest st t = some s' →
      Stepped sm s .deliverTcp s'
  | finishTcp {id : ℕ} {rest : List ℕ} {st : TcpState} {t : TcpSocket} :
      s.pc = .deliverTcp id [] rest → s.tcpConns id = some st → s.tcp st.handle = some t →
      Stepped sm s .finishTcp (finishConn sm s id rest st t)
  | serviceUdp {id : ℕ} {rest : List ℕ} {st : UdpState} {u : UdpSocket} :
      s.pc = .serviceUdp (id :: rest) → s.udpConns id = some st → s.udp st.handle = some u →
      Stepped sm s .serviceUdp ({ s with
        sockets := Function.update s.sockets st.handle
          (some (.udp { u with rx := u.rx.drop maxRecvChunks })) }.goto
        (.deliverUdp id (u.rx.take maxRecvChunks) rest))
  | deliverUdp {id : ℕ} {p : SocketAddr × Bytes} {packets : List (SocketAddr × Bytes)}
      {rest : List ℕ} {st : UdpState} {toApp : Mailbox (SocketAddr × Bytes) appQueue} :
      s.pc = .deliverUdp id (p :: packets) rest → s.udpConns id = some st →
      st.rxDropped = false → st.toApp.send p = some toApp →
      Stepped sm s .deliverUdp ({ s with
        udpConns := Function.update s.udpConns id (some { st with toApp }) }.goto
        (.deliverUdp id packets rest))
  | flush {gone : Bool} {packet : Bytes} {tx : List Bytes} :
      s.pc = .flushTx → s.tx = packet :: tx →
      Stepped sm s (.flush gone) ({ s with tx }.goto (if gone then .select else .flushTx))
  | inbound {packets : List Bytes} :
      s.pc = .select → packets ≠ [] → packets.length ≤ 1 + maxIngestPerTick →
      Stepped sm s (.inbound packets) ({ s with rx := s.rx ++ packets }.goto .poll)
  | cmd {c : Cmd} {h : Handle} {err : Option String} :
      s.pc = .select → slotFree s c h err = true →
      Stepped sm s (.cmd c h err) (handleCmd sm (s.goto .poll) c h err)
  | data {d : DataIn} {room : Bool} : s.pc = .select ∨ s.pc = .dataIn →
      Stepped sm s (.data d room) (handleData (s.goto .dataIn) d room)
  | dropReceiver {id : ℕ} {st : TcpState} : s.tcpConns id = some st → st.fromStackRx = false →
      Stepped sm s (.dropReceiver id) { s with
        tcpConns := Function.update s.tcpConns id (some { st with rxDropped := true }) }
  | appRecv {id : ℕ} {st : TcpState} {r : Bytes × Mailbox Bytes appQueue} :
      s.tcpConns id = some st → st.fromStackRx = false → st.toApp.recv = some r →
      Stepped sm s (.appRecv id) { s with
        tcpConns := Function.update s.tcpConns id (some { st with toApp := r.2 }) }
  | dropUdpReceiver {id : ℕ} {st : UdpState} : s.udpConns id = some st →
      Stepped sm s (.dropUdpReceiver id) { s with
        udpConns := Function.update s.udpConns id (some { st with rxDropped := true }) }
  | appRecvUdp {id : ℕ} {st : UdpState}
      {r : (SocketAddr × Bytes) × Mailbox (SocketAddr × Bytes) appQueue} :
      s.udpConns id = some st → st.toApp.recv = some r →
      Stepped sm s (.appRecvUdp id) { s with
        udpConns := Function.update s.udpConns id (some { st with toApp := r.2 }) }

/-- **What a step can do**: the one case analysis of `step`. -/
theorem stepped {sm : Smoltcp} {s s' : NetStack} {e : Ev} (h : step sm s e = some s') :
    Stepped sm s e s' := by
  cases e with
  | poll tcp udp emitted caught order =>
      simp only [step, Option.ite_none_right_eq_some, Option.some.injEq] at h
      obtain ⟨⟨hpc, hperm⟩, rfl⟩ := h
      exact .poll hpc hperm
  | serviceTcp accept =>
      simp only [step] at h
      split at h
      · rename_i id rest hpc
        split at h
        · rename_i hid; cases h; exact .moved (.skipTcp hpc hid)
        · rename_i hid
          split at h
          · rename_i ht; cases h; exact .lost (.service hpc hid ht)
          · rename_i ht; cases h; exact .serviceTcp hpc hid ht
      · cases h
  | deliverTcp =>
      simp only [step] at h
      split at h
      · rename_i id chunk chunks rest hpc
        split at h
        · rename_i hid
          cases h
          exact .lost (.deliver hpc fun st hst => by rw [hid] at hst; cases hst)
        · rename_i st hid
          split at h
          · rename_i ht
            cases h
            exact .lost (.deliver hpc fun st' hst => by rw [hid] at hst; cases hst; exact ht)
          · rename_i ht; exact .deliverTcp hpc hid ht h
      · cases h
  | finishTcp =>
      simp only [step] at h
      split at h
      · rename_i id rest hpc
        split at h
        · rename_i hid
          cases h
          exact .lost (.deliver hpc fun st hst => by rw [hid] at hst; cases hst)
        · rename_i st hid
          split at h
          · rename_i ht
            cases h
            exact .lost (.deliver hpc fun st' hst => by rw [hid] at hst; cases hst; exact ht)
          · rename_i ht; cases h; exact .finishTcp hpc hid ht
      · cases h
  | tcpDone order =>
      simp only [step, Option.ite_none_right_eq_some, Option.some.injEq] at h
      obtain ⟨⟨hpc, hperm⟩, rfl⟩ := h
      exact .moved (.tcpDone hpc hperm)
  | serviceUdp =>
      simp only [step] at h
      split at h
      · rename_i id rest hpc
        split at h
        · rename_i hid; cases h; exact .moved (.skipUdp hpc hid)
        · rename_i hid
          split at h
          · rename_i hu; cases h; exact .lost (.serviceUdp hpc hid hu)
          · rename_i hu; cases h; exact .serviceUdp hpc hid hu
      · cases h
  | deliverUdp =>
      simp only [step] at h
      split at h
      · rename_i id p packets rest hpc
        split at h
        · rename_i hid; cases h; exact .lost (.deliverUdp hpc hid)
        · rename_i hid
          split at h
          · cases h; exact .moved (.dropUdp hpc)
          · rename_i hdrop
            obtain ⟨toApp, hsend, rfl⟩ := Option.map_eq_some_iff.mp h
            exact .deliverUdp hpc hid (Bool.eq_false_iff.mpr hdrop) hsend
      · rename_i hpc; cases h; exact .moved (.dropUdp hpc)
      · cases h
  | udpDone =>
      simp only [step, Option.ite_none_right_eq_some, Option.some.injEq] at h
      obtain ⟨hpc, rfl⟩ := h
      exact .moved (.udpDone hpc)
  | flush gone =>
      simp only [step, Option.ite_none_right_eq_some] at h
      obtain ⟨hpc, h⟩ := h
      split at h
      · rename_i htx; cases h; exact .moved (.flushed hpc htx)
      · rename_i htx; cases h; exact .flush hpc htx
  | inbound packets =>
      simp only [step, Option.ite_none_right_eq_some, Option.some.injEq] at h
      obtain ⟨⟨hpc, hne, hlen⟩, rfl⟩ := h
      exact .inbound hpc hne hlen
  | cmd c h' err =>
      simp only [step, Option.ite_none_right_eq_some, Option.some.injEq] at h
      obtain ⟨⟨hpc, hfree⟩, rfl⟩ := h
      exact .cmd hpc hfree
  | data d room =>
      simp only [step, Option.ite_none_right_eq_some, Option.some.injEq] at h
      obtain ⟨hpc, rfl⟩ := h
      exact .data hpc
  | dataDone =>
      simp only [step, Option.ite_none_right_eq_some, Option.some.injEq] at h
      obtain ⟨hpc, rfl⟩ := h
      exact .moved (.dataDone hpc)
  | timer =>
      simp only [step, Option.ite_none_right_eq_some, Option.some.injEq] at h
      obtain ⟨hpc, rfl⟩ := h
      exact .moved (.timer hpc)
  | stop =>
      simp only [step, Option.ite_none_right_eq_some, Option.some.injEq] at h
      obtain ⟨hpc, rfl⟩ := h
      exact .moved (.stop hpc)
  | dropReceiver id =>
      simp only [step] at h
      split at h
      · rename_i hid
        split at h
        · cases h
        · rename_i hrx; cases h; exact .dropReceiver hid (Bool.eq_false_iff.mpr hrx)
      · cases h
  | appRecv id =>
      simp only [step] at h
      split at h
      · rename_i hid
        split at h
        · cases h
        · rename_i hrx
          obtain ⟨r, hr, rfl⟩ := Option.map_eq_some_iff.mp h
          exact .appRecv hid (Bool.eq_false_iff.mpr hrx) hr
      · cases h
  | dropUdpReceiver id =>
      obtain ⟨st, hid, rfl⟩ := Option.map_eq_some_iff.mp h
      exact .dropUdpReceiver hid
  | appRecvUdp id =>
      simp only [step] at h
      split at h
      · rename_i hid
        obtain ⟨r, hr, rfl⟩ := Option.map_eq_some_iff.mp h
        exact .appRecvUdp hid hr
      · cases h

/-! ### What the passes leave alone -/

variable {sm : Smoltcp} {s s' : NetStack} {e : Ev}

/-- Interface and device, which the passes over the connections leave alone. -/
structure SameDevice (s s' : NetStack) : Prop where
  iface : s'.iface = s.iface
  rx : s'.rx = s.rx
  tx : s'.tx = s.tx

lemma SameDevice.refl (s : NetStack) : SameDevice s s := ⟨rfl, rfl, rfl⟩

lemma establish_device (s : NetStack) (id : ℕ) (st : TcpState) (state : State) :
    SameDevice s (establish s id st state) := by
  rw [establish]
  split <;> exact ⟨rfl, rfl, rfl⟩

/-- A service step goes on to the delivery, or to the next connection. -/
lemma serviceConn_device (sm : Smoltcp) (s : NetStack) (id : ℕ) (rest : List ℕ) (st : TcpState)
    (t : TcpSocket) (accept : ℕ) : SameDevice s (serviceConn sm s id rest st t accept)
      ∧ ((serviceConn sm s id rest st t accept).pc = .serviceTcp rest
        ∨ ∃ chunks, (serviceConn sm s id rest st t accept).pc = .deliverTcp id chunks rest) := by
  obtain ⟨hi, hr, ht⟩ := establish_device s id st t.state
  rw [serviceConn]
  dsimp only
  split
  · refine ⟨?_, .inl rfl⟩
    rw [refuse]
    split <;> exact ⟨hi, hr, ht⟩
  · refine ⟨?_, .inr ⟨_, rfl⟩⟩
    split <;> exact ⟨hi, hr, ht⟩

lemma deliverChunk_device {id : ℕ} {chunk : Bytes} {chunks : List Bytes} {rest : List ℕ}
    {st : TcpState} {t : TcpSocket} (h : deliverChunk sm s id chunk chunks rest st t = some s') :
    SameDevice s s' ∧ ∃ cs, s'.pc = .deliverTcp id cs rest := by
  rw [deliverChunk] at h
  split at h
  · cases h
    exact ⟨⟨rfl, rfl, rfl⟩, _, rfl⟩
  · obtain ⟨toApp, _, rfl⟩ := Option.map_eq_some_iff.mp h
    exact ⟨⟨rfl, rfl, rfl⟩, _, rfl⟩

lemma finishConn_device (sm : Smoltcp) (s : NetStack) (id : ℕ) (rest : List ℕ) (st : TcpState)
    (t : TcpSocket) : SameDevice s (finishConn sm s id rest st t)
      ∧ (finishConn sm s id rest st t).pc = .serviceTcp rest := by
  rw [finishConn]
  repeat' split
  all_goals exact ⟨⟨rfl, rfl, rfl⟩, rfl⟩

/-- A data message leaves the loop where it is, or panics it. -/
lemma handleData_device (s : NetStack) (d : DataIn) (room : Bool) :
    SameDevice s (handleData s d room)
      ∧ ((handleData s d room).pc = s.pc ∨ (handleData s d room).pc = .panicked) := by
  cases d with
  | tcp id data =>
      simp only [handleData, NetStack.observe]
      split <;> exact ⟨⟨rfl, rfl, rfl⟩, .inl rfl⟩
  | tcpClose | udp | udpClose =>
      rw [handleData]
      repeat' split
      all_goals first
        | exact ⟨⟨rfl, rfl, rfl⟩, .inl rfl⟩
        | exact ⟨⟨rfl, rfl, rfl⟩, .inr rfl⟩

/-- So does a command. -/
lemma handleCmd_pc (sm : Smoltcp) (s : NetStack) (c : Cmd) (h : Handle) (err : Option String) :
    (handleCmd sm s c h err).pc = s.pc ∨ (handleCmd sm s c h err).pc = .panicked := by
  cases c with
  | openTcp | openUdp => cases err <;> exact .inl rfl
  | setAddrs v4 v6 =>
      rw [handleCmd]
      split
      · exact .inl rfl
      · exact .inr rfl

/-- The loop does not go on after its end. -/
lemma step_ended (h : step sm s e = some s') (hpc : s.pc = .stopped ∨ s.pc = .panicked) :
    s'.pc = s.pc := by
  have hne : ∀ pc, s.pc = pc → pc = .stopped ∨ pc = .panicked := fun pc h => h ▸ hpc
  cases stepped h with
  | lost hl =>
      cases hl with
      | service h' | deliver h' | serviceUdp h' | deliverUdp h' => simpa using hne _ h'
  | moved hm => cases hm <;> simp_all
  | data hd => rcases hd with hd | hd <;> simpa using hne _ hd
  | _ => simp_all

/-! ### The interface of a run -/

/-- The addresses of a `SetAddrs` event. -/
def Ev.setAddrs : Ev → Option (Option (Ipv4Addr × UInt8) × Option (Ipv6Addr × UInt8))
  | .cmd (.setAddrs v4 v6) _ _ => some (v4, v6)
  | _ => none

/-- A command other than `SetAddrs` leaves the interface alone, and `SetAddrs` panics
unless `applyAddrs` accepts. -/
lemma handleCmd_iface {c : Cmd} {h : Handle} {err : Option String}
    (hrun : (handleCmd sm s c h err).pc ≠ .panicked) :
    match (Ev.cmd c h err).setAddrs with
    | some (v4, v6) => applyAddrs sm.accepts s.iface v4 v6 = some (handleCmd sm s c h err).iface
    | none => (handleCmd sm s c h err).iface = s.iface := by
  cases c with
  | openTcp | openUdp => cases err <;> rfl
  | setAddrs v4 v6 =>
      show applyAddrs sm.accepts s.iface v4 v6 = _
      rw [handleCmd] at hrun ⊢
      split at hrun
      · rename_i i hi
        rw [hi]
      · exact absurd rfl hrun

/-- A step changes the interface only by handling `SetAddrs`. -/
lemma step_iface (h : step sm s e = some s') (hrun : s'.pc ≠ .panicked) :
    match e.setAddrs with
    | some (v4, v6) => applyAddrs sm.accepts s.iface v4 v6 = some s'.iface
    | none => s'.iface = s.iface := by
  cases stepped h with
  | lost => exact absurd rfl hrun
  | moved hm => cases hm <;> rfl
  | serviceTcp => exact (serviceConn_device ..).1.iface
  | deliverTcp _ _ _ hd => exact (deliverChunk_device hd).1.iface
  | finishTcp => exact (finishConn_device ..).1.iface
  | cmd => exact handleCmd_iface (s := s.goto .poll) hrun
  | data => exact (handleData_device (s.goto .dataIn) _ _).1.iface
  | _ => rfl

/-- **The interface of a run** is what `syncAddrs` computes from the assigned addresses
whose commands it handled. -/
theorem run_syncAddrs {es : List Ev} {as : List AssignedAddr}
    (h : Machine.run (step sm) s es = some s') (hrun : s'.pc ≠ .panicked)
    (has : es.filterMap Ev.setAddrs = as.map bridge) :
    syncAddrs sm.accepts s.iface as = some s'.iface := by
  induction es generalizing s as with
  | nil =>
      rw [Machine.run_nil, Option.some.injEq] at h
      have hnil : as = [] := List.map_eq_nil_iff.mp has.symm
      rw [hnil, ← h]
      rfl
  | cons e es ih =>
      obtain ⟨t, ht, hes⟩ := Machine.run_cons_eq_some.mp h
      have htpc : t.pc ≠ .panicked := by
        intro hp
        exact hrun (Machine.run_invariant (I := fun s => s.pc = .panicked)
          (fun _ _ _ hs hst => (step_ended hst (.inr hs)).trans hs) hp hes)
      have hstep := step_iface ht htpc
      cases he : e.setAddrs with
      | none =>
          rw [List.filterMap_cons_none he] at has
          rw [he] at hstep
          rw [← hstep]
          exact ih hes has
      | some vs =>
          rw [List.filterMap_cons_some he] at has
          obtain ⟨a, as', rfl, ha, has'⟩ := List.map_eq_cons_iff.mp has.symm
          rw [he, ← ha] at hstep
          have hset : Netstack.setAddrs sm.accepts s.iface a = some t.iface := hstep
          rw [syncAddrs, List.foldlM_cons, hset]
          exact ih hes has'.symm

end Aether.Netstack
