import Aether.Netstack.Conn
import Aether.Netstack.Ports

/-!
No lookup of the stack fails, and an id is a connection once.

The tables and the socket set correspond one to one (`tables_matched`), so a lookup
can only fail for an entry that is gone, and the passes hold on to one entry at a
time, across the awaits of their sends.

* `Serving`: the entry that a pass delivers to is in its table; `step_serving`.
* `panicked_of_step`: so the only panic left is that of a refused address.
* `Spent`: an id that was given out keeps its slot or is gone.
* `tables_one_to_one`: **the correspondence**, with what follows from it.
-/

namespace Aether.Netstack

variable {sm : Smoltcp} {s s' : NetStack} {e : Ev} {id : ℕ}

/-! ### The entry that is served -/

/-- The entry that a pass delivers to is in its table. -/
structure Serving (s : NetStack) : Prop where
  tcp : ∀ id chunks rest, s.pc = .deliverTcp id chunks rest → s.tcpConns id ≠ none
  udp : ∀ id packets rest, s.pc = .deliverUdp id packets rest → s.udpConns id ≠ none

/-- Where the loop does not wait for an application. -/
lemma Serving.of_pc (ht : ∀ id chunks rest, s.pc ≠ .deliverTcp id chunks rest)
    (hu : ∀ id packets rest, s.pc ≠ .deliverUdp id packets rest) : Serving s where
  tcp id chunks rest hpc := absurd hpc (ht id chunks rest)
  udp id packets rest hpc := absurd hpc (hu id packets rest)

lemma Serving.of_handled {pc : Pc} (hpc : pc = .poll ∨ pc = .dataIn)
    (h : s'.pc = pc ∨ s'.pc = .panicked) : Serving s' := by
  refine .of_pc ?_ ?_
  · rcases hpc with rfl | rfl <;> rcases h with h | h <;> simp [h]
  · rcases hpc with rfl | rfl <;> rcases h with h | h <;> simp [h]

/-- No entry is removed while the loop waits. -/
lemma Serving.mono (h : Serving s) (hpc : s'.pc = s.pc)
    (ht : ∀ id, s.tcpConns id ≠ none → s'.tcpConns id ≠ none)
    (hu : ∀ id, s.udpConns id ≠ none → s'.udpConns id ≠ none) : Serving s' where
  tcp id chunks rest hs := ht id (h.tcp id chunks rest (hpc ▸ hs))
  udp id packets rest hs := hu id (h.udp id packets rest (hpc ▸ hs))

lemma update_ne_none {α : Type} {f : ℕ → Option α} {a : α} (id' : ℕ) (h : f id' ≠ none) :
    Function.update f id (some a) id' ≠ none := by
  rw [Function.update_apply]
  split
  · exact Option.some_ne_none a
  · exact h

lemma serving_serviceConn (rest : List ℕ) (st : TcpState) (t : TcpSocket) (accept : ℕ) :
    Serving (serviceConn sm s id rest st t accept) := by
  rw [serviceConn]
  dsimp only
  split
  · exact .of_pc (by simp [NetStack.goto]) (by simp [NetStack.goto])
  · refine ⟨?_, by simp [NetStack.goto]⟩
    intro id' chunks rest' hpc
    cases hpc
    exact (Function.update_self ..).trans_ne (Option.some_ne_none _)

lemma serving_deliverChunk {chunk : Bytes} {chunks : List Bytes} {rest : List ℕ} {st : TcpState}
    {t : TcpSocket} (h : deliverChunk sm s id chunk chunks rest st t = some s') : Serving s' := by
  rw [deliverChunk] at h
  split at h
  · cases h
    refine ⟨?_, by simp [NetStack.goto]⟩
    intro id' cs rest' hpc
    cases hpc
    exact (Function.update_self ..).trans_ne (Option.some_ne_none _)
  · obtain ⟨toApp, _, rfl⟩ := Option.map_eq_some_iff.mp h
    refine ⟨?_, by simp [NetStack.goto]⟩
    intro id' cs rest' hpc
    cases hpc
    exact (Function.update_self ..).trans_ne (Option.some_ne_none _)

/-- **A pass keeps hold of the entry it serves.** -/
theorem step_serving (hs : Serving s) (h : step sm s e = some s') : Serving s' := by
  cases stepped h with
  | lost => exact .of_pc (by simp [NetStack.goto]) (by simp [NetStack.goto])
  | moved hm =>
      cases hm <;> exact .of_pc (by simp [NetStack.goto]) (by simp [NetStack.goto])
  | poll => exact .of_pc (by simp) (by simp)
  | serviceTcp => exact serving_serviceConn ..
  | deliverTcp _ _ _ hd => exact serving_deliverChunk hd
  | @finishTcp id rest st t =>
      have hpc := (finishConn_device sm s id rest st t).2
      exact .of_pc (by simp [hpc]) (by simp [hpc])
  | serviceUdp _ hid =>
      refine ⟨by simp [NetStack.goto], ?_⟩
      intro id' packets rest hpc
      cases hpc
      exact hid.trans_ne (Option.some_ne_none _)
  | deliverUdp =>
      refine ⟨by simp [NetStack.goto], ?_⟩
      intro id' packets rest hpc
      cases hpc
      exact (Function.update_self ..).trans_ne (Option.some_ne_none _)
  | @flush gone =>
      cases gone <;> exact .of_pc (by simp [NetStack.goto]) (by simp [NetStack.goto])
  | inbound => exact .of_pc (by simp [NetStack.goto]) (by simp [NetStack.goto])
  | cmd => exact .of_handled (.inl rfl) (handleCmd_pc sm (s.goto .poll) _ _ _)
  | data => exact .of_handled (.inr rfl) (handleData_device (s.goto .dataIn) _ _).2
  | dropReceiver | appRecv => exact hs.mono rfl update_ne_none (fun _ h => h)
  | dropUdpReceiver | appRecvUdp => exact hs.mono rfl (fun _ h => h) update_ne_none

/-- Every UDP entry has its socket. -/
lemma exists_udpSocket {st : UdpState} (hm : s.shape.Matched) (hid : s.udpConns id = some st) :
    ∃ u, s.udp st.handle = some u := by
  obtain ⟨x, hx, hk⟩ := Option.map_eq_some_iff.mp (hm.live .udp id _ (entries_udp hid))
  cases x with
  | tcp t => cases hk
  | udp u => exact ⟨u, udp_eq_some.mpr hx⟩

/-- No pass is lost. -/
lemma not_lost (hm : s.shape.Matched) (hs : Serving s) : ¬ Lost s := by
  intro hl
  cases hl with
  | service hpc hid hno =>
      obtain ⟨t, ht⟩ := exists_socket hm hid
      rw [hno] at ht
      cases ht
  | deliver hpc hno =>
      obtain ⟨st, hid⟩ := Option.ne_none_iff_exists'.mp (hs.tcp _ _ _ hpc)
      obtain ⟨t, ht⟩ := exists_socket hm hid
      rw [hno st hid] at ht
      cases ht
  | serviceUdp hpc hid hno =>
      obtain ⟨u, hu⟩ := exists_udpSocket hm hid
      rw [hno] at hu
      cases hu
  | deliverUdp hpc hno => exact hs.udp _ _ _ hpc hno

/-! ### Data messages -/

/-- The id a data message is for. -/
def DataIn.connId : DataIn → ℕ
  | .tcp id _ | .tcpClose id | .udp id _ _ | .udpClose id => id

/-- The slot whose socket `handle_data` gives a datagram to. -/
def DataIn.slot (s : NetStack) : DataIn → Option Handle
  | .udp id _ _ => (s.udpConns id).map UdpState.handle
  | _ => none

/-- A data message panics nothing, and touches its own connection only. -/
structure OwnOnly (s s' : NetStack) (id : ℕ) : Prop where
  pc : s'.pc = s.pc
  tcp : ∀ id' ≠ id, s'.tcpConns id' = s.tcpConns id'
  udp : ∀ id' ≠ id, s'.udpConns id' = s.udpConns id'
  sockets : ∀ k slot, ∀ id' ≠ id, s.shape.entries k id' = some slot →
    s'.sockets slot = s.sockets slot

lemma ownOnly_refl (s : NetStack) (id : ℕ) : OwnOnly s s id :=
  ⟨rfl, fun _ _ => rfl, fun _ _ => rfl, fun _ _ _ _ _ => rfl⟩

lemma ownOnly_setConn (s : NetStack) (id : ℕ) (st : TcpState) :
    OwnOnly s { s with tcpConns := Function.update s.tcpConns id (some st) } id :=
  ⟨rfl, fun _ hne => Function.update_of_ne hne .., fun _ _ => rfl, fun _ _ _ _ _ => rfl⟩

lemma OwnOnly.observe (h : OwnOnly s s' id) (o : Obs) : OwnOnly s (s'.observe o) id :=
  ⟨h.pc, h.tcp, h.udp, h.sockets⟩

/-- Two entries for one slot are the same entry. -/
lemma entries_inj {a : Shape} (hm : a.Matched) {k k' : Kind} {id id' : ℕ} {slot : Handle}
    (h : a.entries k id = some slot) (h' : a.entries k' id' = some slot) : k = k' ∧ id = id' := by
  have hk : k = k' := by
    have hlive := hm.live k id slot h
    rw [hm.live k' id' slot h', Option.some.injEq] at hlive
    exact hlive.symm
  subst hk
  exact ⟨rfl, hm.inj k id id' slot h h'⟩

lemma handleData_own (hm : s.shape.Matched) (d : DataIn) (room : Bool) :
    OwnOnly s (handleData s d room) d.connId := by
  cases d with
  | tcp id data =>
      rw [handleData]
      refine OwnOnly.observe ?_ _
      split
      · exact ownOnly_setConn s id _
      · exact ownOnly_refl s id
  | tcpClose id =>
      rw [handleData]
      split
      · exact ownOnly_setConn s id _
      · exact ownOnly_refl s id
  | udp id dst data =>
      rw [handleData]
      split
      · rename_i st hid
        obtain ⟨u, hu⟩ := exists_udpSocket hm hid
        rw [hu]
        refine ⟨rfl, fun _ _ => rfl, fun _ _ => rfl, ?_⟩
        intro k slot id' hne he
        refine Function.update_of_ne ?_ ..
        rintro rfl
        exact hne (entries_inj hm he (entries_udp hid)).2
      · exact ownOnly_refl s id
  | udpClose id =>
      rw [handleData]
      split
      · rename_i st hid
        obtain ⟨u, hu⟩ := exists_udpSocket hm hid
        rw [udp_eq_some] at hu
        rw [hu]
        refine ⟨rfl, fun _ _ => rfl, fun _ hne => Function.update_of_ne hne .., ?_⟩
        intro k slot id' hne he
        refine Function.update_of_ne ?_ ..
        rintro rfl
        exact hne (entries_inj hm he (entries_udp hid)).2
      · exact ownOnly_refl s id

/-- The socket that a datagram is given to is a UDP socket, and no other entry's. -/
lemma slot_own (hm : s.shape.Matched) {d : DataIn} {slot : Handle} (h : d.slot s = some slot) :
    s.shape.entries .udp d.connId = some slot ∧ ∃ u, s.sockets slot = some (.udp u) := by
  cases d with
  | udp id dst data =>
      obtain ⟨st, hid, rfl⟩ := Option.map_eq_some_iff.mp h
      obtain ⟨u, hu⟩ := exists_udpSocket hm hid
      exact ⟨entries_udp hid, u, udp_eq_some.mp hu⟩
  | tcp | tcpClose | udpClose => cases h

/-! ### Panics -/

/-- **The only panic**: after a step that panics, an address was refused. -/
theorem panicked_of_step (hm : s.shape.Matched) (hs : Serving s) (h : step sm s e = some s')
    (hpanic : s'.pc = .panicked) : s.pc = .panicked
      ∨ ∃ v4 v6 slot err, e = .cmd (.setAddrs v4 v6) slot err
        ∧ applyAddrs sm.accepts s.iface v4 v6 = none := by
  cases stepped h with
  | lost hl => exact absurd hl (not_lost hm hs)
  | moved hmoved => cases hmoved <;> cases hpanic
  | poll | serviceUdp | deliverUdp | inbound => cases hpanic
  | serviceTcp =>
      rcases (serviceConn_device ..).2 with hpc | ⟨chunks, hpc⟩
      · rw [hpc] at hpanic
        cases hpanic
      · rw [hpc] at hpanic
        cases hpanic
  | deliverTcp _ _ _ hd =>
      obtain ⟨chunks, hpc⟩ := (deliverChunk_device hd).2
      rw [hpc] at hpanic
      cases hpanic
  | finishTcp =>
      rw [(finishConn_device ..).2] at hpanic
      cases hpanic
  | @flush gone => cases gone <;> cases hpanic
  | @cmd c slot err =>
      cases c with
      | openTcp | openUdp => cases err <;> cases hpanic
      | setAddrs v4 v6 =>
          refine .inr ⟨v4, v6, slot, err, rfl, ?_⟩
          rw [handleCmd] at hpanic
          split at hpanic
          · cases hpanic
          · rename_i hnone
            exact hnone
  | @data d room =>
      have hpc := (handleData_own (s := s.goto .dataIn) hm d room).pc
      rw [hpc] at hpanic
      cases hpanic
  | dropReceiver | appRecv | dropUdpReceiver | appRecvUdp => exact .inl hpanic

/-! ### Ids that are given out -/

/-- An id that is given out has the slot it had, or has no entry any more. -/
structure Spent (slot : Kind → Option Handle) (id : ℕ) (a : Shape) : Prop where
  lt : id < a.nextId
  entries : (∀ k, a.entries k id = slot k) ∨ ∀ k, a.entries k id = none

/-- **An id is never given out again.** -/
lemma Spent.shapeStep {slot : Kind → Option Handle} {a b : Shape} (h : Spent slot id a)
    (hm : a.Matched) (hstep : ShapeStep a b) : Spent slot id b := by
  cases hstep with
  | same => exact h
  | opened k x hfree =>
      have hold : ∀ k', (a.opened k x).entries k' id = a.entries k' id := by
        intro k'
        rw [Shape.entries_opened, if_neg (fun g => Nat.ne_of_lt h.lt g.2)]
      exact ⟨Nat.lt_succ_of_lt h.lt, by simpa only [hold] using h.entries⟩
  | removed k id' x hid =>
      refine ⟨h.lt, ?_⟩
      by_cases hne : id = id'
      · subst hne
        -- an id has an entry in one table only, so this was its last
        right
        intro k'
        rw [Shape.entries_removed]
        split
        · rfl
        · rename_i hk
          have hk' : k' ≠ k := fun g => hk ⟨g, rfl⟩
          cases hold : a.entries k' id with
          | none => rfl
          | some y =>
              cases k <;> cases k'
              · exact absurd rfl hk'
              · exact absurd hold (hm.disjoint id _ _ hid)
              · exact absurd hid (hm.disjoint id _ _ hold)
              · exact absurd rfl hk'
      · have hold : ∀ k', (a.removed k id' x).entries k' id = a.entries k' id := by
          intro k'
          rw [Shape.entries_removed, if_neg (fun g => hne g.2)]
        simpa only [hold] using h.entries

lemma Spent.run {slot : Kind → Option Handle} {es : List Ev} (h : Spent slot id s.shape)
    (hm : s.shape.Matched) (hrun : Machine.run (step sm) s es = some s') :
    Spent slot id s'.shape :=
  (Machine.run_invariant (I := fun s => Spent slot id s.shape ∧ s.shape.Matched)
    (fun _ _ _ hs hstep => ⟨hs.1.shapeStep hs.2 (step_shape hstep),
      (step_shape hstep).matched hs.2⟩) ⟨h, hm⟩ hrun).1

/-- Data for an id without an entry changes no table and no socket. -/
lemma handleData_gone {d : DataIn} {room : Bool} (ht : s.tcpConns d.connId = none)
    (hu : s.udpConns d.connId = none) :
    (handleData s d room).tcpConns = s.tcpConns ∧ (handleData s d room).udpConns = s.udpConns
      ∧ (handleData s d room).sockets = s.sockets ∧ d.slot s = none := by
  cases d with
  | tcp id data =>
      have hid : s.tcpConns id = none := ht
      refine ⟨?_, ?_, ?_, rfl⟩ <;> rw [handleData, hid] <;> rfl
  | tcpClose id =>
      have hid : s.tcpConns id = none := ht
      rw [handleData, hid]
      exact ⟨rfl, rfl, rfl, rfl⟩
  | udp id dst data =>
      have hid : s.udpConns id = none := hu
      rw [handleData, hid, DataIn.slot, hid]
      exact ⟨rfl, rfl, rfl, rfl⟩
  | udpClose id =>
      have hid : s.udpConns id = none := hu
      rw [handleData, hid]
      exact ⟨rfl, rfl, rfl, rfl⟩

/-! ### The correspondence -/

/-- The tables and the socket set, one to one. -/
structure OneToOne (s : NetStack) : Prop where
  tcp_live : ∀ id st, s.tcpConns id = some st → ∃ t, s.sockets st.handle = some (.tcp t)
  udp_live : ∀ id st, s.udpConns id = some st → ∃ u, s.sockets st.handle = some (.udp u)
  distinct : ∀ k k' id id' slot, s.shape.entries k id = some slot →
    s.shape.entries k' id' = some slot → k = k' ∧ id = id'
  owned : ∀ slot x, s.sockets slot = some x → ∃ k id, s.shape.entries k id = some slot
  below : ∀ id, (s.tcpConns id ≠ none ∨ s.udpConns id ≠ none) → id < s.nextId
  disjoint : ∀ id, s.tcpConns id = none ∨ s.udpConns id = none

lemma oneToOne_of_matched (hm : s.shape.Matched) : OneToOne s where
  tcp_live id st hid := by
    obtain ⟨t, ht⟩ := exists_socket hm hid
    exact ⟨t, tcp_eq_some.mp ht⟩
  udp_live id st hid := by
    obtain ⟨u, hu⟩ := exists_udpSocket hm hid
    exact ⟨u, udp_eq_some.mp hu⟩
  distinct k k' id id' slot h h' := entries_inj hm h h'
  owned slot x hx := by
    have hk : s.shape.kinds slot = some x.kind := congrArg (Option.map Socket.kind) hx
    obtain ⟨id, hid⟩ := hm.owned slot x.kind hk
    exact ⟨x.kind, id, hid⟩
  below id h := by
    rcases h with h | h
    · obtain ⟨st, hid⟩ := Option.ne_none_iff_exists'.mp h
      exact hm.below .tcp id _ (entries_tcp hid)
    · obtain ⟨st, hid⟩ := Option.ne_none_iff_exists'.mp h
      exact hm.below .udp id _ (entries_udp hid)
  disjoint id := by
    cases ht : s.tcpConns id with
    | none => exact .inl rfl
    | some st =>
        cases hu : s.udpConns id with
        | none => exact .inr rfl
        | some st' => exact absurd (entries_udp hu) (hm.disjoint id _ _ (entries_tcp ht))

lemma spawned_serving (iface : Interface) : Serving (NetStack.spawned iface) :=
  .of_pc (by simp [NetStack.spawned]) (by simp [NetStack.spawned])

/-- **The tables and the socket set stay in one-to-one correspondence**: so no lookup
panics, an id is one connection only, and data reaches its own connection only. -/
theorem tables_one_to_one {iface : Interface} {es : List Ev}
    (h : Machine.run (step sm) (NetStack.spawned iface) es = some s) :
    OneToOne s
      ∧ (∀ e s', step sm s e = some s' → s'.pc = .panicked → s.pc = .panicked
          ∨ ∃ v4 v6 slot err, e = .cmd (.setAddrs v4 v6) slot err)
      ∧ (∀ id < s.nextId, ∀ fs u, Machine.run (step sm) s fs = some u →
          (∀ k, u.shape.entries k id = s.shape.entries k id)
            ∨ ∀ k, u.shape.entries k id = none)
      ∧ (∀ (d : DataIn) room, s.tcpConns d.connId = none → s.udpConns d.connId = none →
          (handleData s d room).tcpConns = s.tcpConns ∧ (handleData s d room).udpConns = s.udpConns
            ∧ (handleData s d room).sockets = s.sockets ∧ d.slot s = none)
      ∧ ∀ (d : DataIn) room, OwnOnly s (handleData s d room) d.connId
          ∧ ∀ slot, d.slot s = some slot → s.shape.entries .udp d.connId = some slot
            ∧ ∃ u, s.sockets slot = some (.udp u) := by
  have hm := tables_matched h
  have hs : Serving s := Machine.run_invariant (I := Serving)
    (fun _ _ _ hs hstep => step_serving hs hstep) (spawned_serving iface) h
  refine ⟨oneToOne_of_matched hm, ?_, ?_, fun d room => handleData_gone,
    fun d room => ⟨handleData_own hm d room, fun _ => slot_own hm⟩⟩
  · intro e s' hstep hpanic
    refine (panicked_of_step hm hs hstep hpanic).imp_right ?_
    rintro ⟨v4, v6, slot, err, he, -⟩
    exact ⟨v4, v6, slot, err, he⟩
  · intro id hlt fs u hrun
    have hspent : Spent (fun k => s.shape.entries k id) id s.shape := ⟨hlt, .inl fun _ => rfl⟩
    exact (hspent.run hm hrun).entries

/-- A UDP association that is closed, and a TCP connection that takes over its slot. -/
def reusedSlot : List Ev :=
  udpOpened ++ [.data (.udpClose 1) true, .dataDone] ++ quietTurn []
    ++ [.cmd (.openTcp ⟨.v4 sampleV4, 80⟩ 1) 0 none]

theorem tables_one_to_one_reused : ∃ s,
    Machine.run (step stdSmoltcp) (NetStack.spawned sampleIface) reusedSlot = some s
      ∧ s.shape.entries .tcp 2 = some 0 ∧ OneToOne s
      ∧ (handleData s (.udp 1 ⟨.v4 sampleV4, 53⟩ [7]) true).sockets = s.sockets := by
  obtain ⟨s, hs, ht, hu, h₂⟩ : ∃ s,
      Machine.run (step stdSmoltcp) (NetStack.spawned sampleIface) reusedSlot = some s
        ∧ s.tcpConns 1 = none ∧ s.udpConns 1 = none ∧ s.shape.entries .tcp 2 = some 0 :=
    ⟨_, rfl, rfl, rfl, rfl⟩
  obtain ⟨hone, -, -, hgone, -⟩ := tables_one_to_one hs
  exact ⟨s, hs, h₂, hone, (hgone (.udp 1 ⟨.v4 sampleV4, 53⟩ [7]) true ht hu).2.2.1⟩

end Aether.Netstack
