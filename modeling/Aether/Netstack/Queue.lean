import Aether.Netstack.Ends
import Aether.Netstack.Streams

/-!
The bytes of a TCP connection on the side of the application.

The log has the bytes handled for a connection and the chunks sent on its `to_app`; the queue of
`to_app` has those that the application has not taken yet. `messages` and `taken` are what the
events of a run brought and took.

* `step_flow`: a data message is handled, a chunk of the delivery goes to the back of the queue,
  what the application takes is its front, and nothing else changes either.
* `removed_delivered`: a connection that was established leaves nothing undelivered behind.
* `upstream_conserved`: no application byte is lost, duplicated, reordered or mixed with another
  connection's.
* `downstream_complete`: the application has taken, or finds in its queue, a prefix of what was
  received, and all of it when the connection ends.
-/

namespace Aether.Netstack

/-- The bytes that a data message brings for the connection. -/
def DataIn.bytesFor (id : ℕ) : DataIn → Bytes
  | .tcp id' data => if id' = id then data else []
  | _ => []

/-- The bytes that an event has handled for the connection. -/
def Ev.bytesFor (id : ℕ) : Ev → Bytes
  | .data d _ => d.bytesFor id
  | _ => []

/-- The chunk that the application takes from the queue of the connection. -/
def Ev.taken (s : NetStack) (id : ℕ) : Ev → List Bytes
  | .appRecv id' =>
      if id' = id then (((s.tcpConns id).bind fun st => st.toApp.recv).map Prod.fst).toList else []
  | _ => []

/-- A step that handles some bytes of the connection, delivers the chunks `came`, and has the
chunks `taken` taken. -/
structure Flow (id : ℕ) (handled : Bytes) (came taken : List Bytes) (s s' : NetStack) : Prop where
  handled : s'.handled id = s.handled id ++ handled
  delivered : s'.delivered id = s.delivered id ++ came.flatten
  absent : s.tcpConns id = none → came = []
  removed : s'.tcpConns id = none → came = []
  queue : ∀ st st', s.tcpConns id = some st → s'.tcpConns id = some st' → st'.rxDropped = false →
    st.toApp.items ++ came = taken ++ st'.toApp.items

variable {sm : Smoltcp} {s s' : NetStack} {e : Ev} {id id' : ℕ} {st : TcpState} {t : TcpSocket}

/-- An observation that is not about the bytes of the connection. -/
structure Obs.Mute (id : ℕ) (o : Obs) : Prop where
  opens : o.opens id = false
  handledFor : o.handledFor id = []
  deliveredFor : o.deliveredFor id = []

lemma since_append {part : Obs → Bytes} {obs log : List Obs}
    (h : ∀ o ∈ obs, o.opens id = false ∧ part o = []) :
    since id part (obs ++ log) = since id part log := by
  induction obs with
  | nil => rfl
  | cons o obs ih =>
      obtain ⟨hopens, hpart⟩ := h o List.mem_cons_self
      rw [List.cons_append, since, hopens, hpart, List.append_nil,
        ih fun o' ho' => h o' (List.mem_cons_of_mem o ho')]
      rfl

/-- A log that grew by such observations. -/
lemma log_mute (obs : List Obs) (hlog : s'.log = obs ++ s.log) (hobs : ∀ o ∈ obs, o.Mute id) :
    s'.handled id = s.handled id ∧ s'.delivered id = s.delivered id := by
  refine ⟨?_, ?_⟩
  · rw [NetStack.handled, hlog]
    exact since_append fun o ho => ⟨(hobs o ho).opens, (hobs o ho).handledFor⟩
  · rw [NetStack.delivered, hlog]
    exact since_append fun o ho => ⟨(hobs o ho).opens, (hobs o ho).deliveredFor⟩

/-- A step that says nothing of the bytes of the connection, and leaves its queue alone. -/
lemma Flow.mute (obs : List Obs) (hlog : s'.log = obs ++ s.log) (hobs : ∀ o ∈ obs, o.Mute id)
    (hq : ∀ st', s'.tcpConns id = some st' → ∃ st, s.tcpConns id = some st
      ∧ st'.toApp = st.toApp) : Flow id [] [] [] s s' where
  handled := (log_mute obs hlog hobs).1.trans (List.append_nil _).symm
  delivered := (log_mute obs hlog hobs).2.trans (List.append_nil _).symm
  absent _ := rfl
  removed _ := rfl
  queue st st' hst hst' _ := by
    obtain ⟨st₀, hst₀, heq⟩ := hq st' hst'
    obtain rfl := Option.some.inj (hst.symm.trans hst₀)
    rw [heq, List.append_nil]
    rfl

lemma Flow.of_eq (hlog : s'.log = s.log) (ht : s'.tcpConns id = s.tcpConns id) :
    Flow id [] [] [] s s' :=
  .mute [] hlog (by simp) fun st' hst' => ⟨st', ht ▸ hst', rfl⟩

/-- An entry is put back, its queue as it was. -/
lemma exists_same_queue {st' u : TcpState} (hid : s.tcpConns id' = some st)
    (hu : Function.update s.tcpConns id' (some st') id = some u) (hq : st'.toApp = st.toApp) :
    ∃ st, s.tcpConns id = some st ∧ u.toApp = st.toApp := by
  rw [Function.update_apply] at hu
  split at hu
  · rename_i heq
    cases hu
    exact ⟨st, heq ▸ hid, hq⟩
  · exact ⟨u, hu, rfl⟩

/-- An entry that is not removed was there. -/
lemma exists_of_removed {u : TcpState} (hu : Function.update s.tcpConns id' none id = some u) :
    ∃ st, s.tcpConns id = some st ∧ u.toApp = st.toApp := by
  rw [Function.update_apply] at hu
  split at hu
  · cases hu
  · exact ⟨u, hu, rfl⟩

@[simp] lemma seen_toApp (st : TcpState) (state : State) : (st.seen state).toApp = st.toApp := by
  rw [TcpState.seen]
  split <;> rfl

lemma serviceConn_flow (rest : List ℕ) (accept : ℕ) (hid : s.tcpConns id' = some st) :
    Flow id [] [] [] s (serviceConn sm s id' rest st t accept) := by
  -- the answer of the first test
  obtain ⟨log, hmute, hs⟩ : ∃ log : List Obs, (∀ o ∈ log, o.Mute id)
      ∧ establish s id' st t.state = { s with log := log ++ s.log } := by
    rcases establish_cases s id' st t.state with h | ⟨resp, h, -⟩
    · exact ⟨[], (by simp), h⟩
    · exact ⟨[.answered resp (.ok id')], (by simpa using ⟨rfl, rfl, rfl⟩), h⟩
  have hcons : ∀ o : Obs, o.Mute id → ∀ o' ∈ o :: log, o'.Mute id :=
    fun o ho => List.forall_mem_cons.mpr ⟨ho, hmute⟩
  rw [serviceConn]
  dsimp only
  rw [hs]
  split
  · rw [refuse]
    split
    · refine .mute (_ :: _ :: log) rfl ?_ fun u hu => exists_of_removed hu
      exact List.forall_mem_cons.mpr ⟨⟨rfl, rfl, rfl⟩, hcons _ ⟨rfl, rfl, rfl⟩⟩
    · exact .mute (_ :: log) rfl (hcons _ ⟨rfl, rfl, rfl⟩) fun u hu => exists_of_removed hu
  · split
    · exact .mute (_ :: log) rfl (hcons _ ⟨rfl, rfl, rfl⟩)
        fun u hu => exists_same_queue hid hu (by simp [sendPending])
    · exact .mute log rfl hmute fun u hu => exists_same_queue hid hu (by simp [sendPending])

lemma deliverChunk_flow {chunk : Bytes} {chunks : List Bytes} {rest : List ℕ}
    (hid : s.tcpConns id' = some st)
    (h : deliverChunk sm s id' chunk chunks rest st t = some s') :
    ∃ came, Flow id [] came [] s s' := by
  rw [deliverChunk] at h
  split at h
  · cases h
    exact ⟨[], .mute [_] rfl (by simpa using ⟨rfl, rfl, rfl⟩)
      fun u hu => exists_same_queue hid hu rfl⟩
  · obtain ⟨toApp, hsend, rfl⟩ := Option.map_eq_some_iff.mp h
    by_cases hne : id' = id
    · subst hne
      have hnew := Function.update_self id' (some { st with toApp }) s.tcpConns
      refine ⟨[chunk], ?_, ?_, ?_, ?_, ?_⟩
      · exact handled_observe (s := s) (.delivered id' chunk)
      · refine (delivered_observe (s := s) (.delivered id' chunk)).trans ?_
        simp
      · intro hnone
        cases hid.symm.trans hnone
      · intro hnone
        cases hnew.symm.trans hnone
      · intro st₀ st' hst hst' _
        obtain rfl := Option.some.inj (hid.symm.trans hst)
        obtain rfl := Option.some.inj (hnew.symm.trans hst')
        exact (Mailbox.send_eq_some hsend).1.symm
    · refine ⟨[], .mute [_] rfl ?_ fun u hu =>
        ⟨u, (Function.update_of_ne (Ne.symm hne) ..).symm.trans hu, rfl⟩⟩
      simpa using ⟨rfl, rfl, if_neg hne⟩

lemma finishConn_flow (rest : List ℕ) (hid : s.tcpConns id' = some st) :
    Flow id [] [] [] s (finishConn sm s id' rest st t) := by
  have hmute : ∀ o : Obs, o.Mute id → ∀ o' ∈ [o], o'.Mute id :=
    fun o ho => List.forall_mem_singleton.mpr ho
  rw [finishConn]
  split
  · exact .mute [_] rfl (hmute _ ⟨rfl, rfl, rfl⟩) fun u hu => exists_same_queue hid hu rfl
  · split
    · exact .mute [_] rfl (hmute _ ⟨rfl, rfl, rfl⟩) fun u hu => exists_of_removed hu
    · exact .of_eq rfl rfl

/-- A command that does not open the connection. -/
lemma handleCmd_flow (c : Cmd) (h : Handle) (err : Option String) (hne : id ≠ s.nextId) :
    Flow id [] [] [] s (handleCmd sm s c h err) := by
  have hmute : ∀ o : Obs, o.Mute id → ∀ o' ∈ [o], o'.Mute id :=
    fun o ho => List.forall_mem_singleton.mpr ho
  cases c with
  | openTcp dst resp =>
      cases err with
      | some e => exact .mute [_] rfl (hmute _ ⟨rfl, rfl, rfl⟩) fun u hu => ⟨u, hu, rfl⟩
      | none =>
          exact .mute [_] rfl (hmute _ ⟨decide_eq_false hne.symm, rfl, rfl⟩)
            fun u hu => ⟨u, (Function.update_of_ne hne ..).symm.trans hu, rfl⟩
  | openUdp resp =>
      cases err <;> exact .mute [_] rfl (hmute _ ⟨rfl, rfl, rfl⟩) fun u hu => ⟨u, hu, rfl⟩
  | setAddrs v4 v6 =>
      rw [handleCmd]
      split <;> exact .of_eq rfl rfl

/-- A connection that is opened has no bytes. -/
lemma handleCmd_opened (c : Cmd) (h : Handle) (err : Option String) :
    (s.handled s.nextId = [] → (handleCmd sm s c h err).handled s.nextId = [])
      ∧ (s.delivered s.nextId = [] → (handleCmd sm s c h err).delivered s.nextId = []) := by
  have hquiet : ∀ {s' : NetStack} (obs : List Obs), s'.log = obs ++ s.log →
      (∀ o ∈ obs, o.Mute s.nextId) → (s.handled s.nextId = [] → s'.handled s.nextId = [])
        ∧ (s.delivered s.nextId = [] → s'.delivered s.nextId = []) := by
    intro s' obs hlog hobs
    obtain ⟨hh, hd⟩ := log_mute obs hlog hobs
    exact ⟨hh.trans, hd.trans⟩
  have hmute : ∀ o : Obs, o.Mute s.nextId → ∀ o' ∈ [o], o'.Mute s.nextId :=
    fun o ho => List.forall_mem_singleton.mpr ho
  cases c with
  | openTcp dst resp =>
      cases err with
      | some e => exact hquiet [_] rfl (hmute _ ⟨rfl, rfl, rfl⟩)
      | none =>
          exact ⟨fun _ => (handled_observe _).trans (by simp),
            fun _ => (delivered_observe _).trans (by simp)⟩
  | openUdp resp => cases err <;> exact hquiet [_] rfl (hmute _ ⟨rfl, rfl, rfl⟩)
  | setAddrs v4 v6 =>
      rw [handleCmd]
      split <;> exact ⟨fun hh => hh, fun hd => hd⟩

/-- A data message is handled for its connection, whether or not there is an entry. -/
lemma handleData_flow (d : DataIn) (room : Bool) :
    Flow id (d.bytesFor id) [] [] s (handleData s d room) := by
  cases d with
  | tcp id' data =>
      refine ⟨?_, ?_, fun _ => rfl, fun _ => rfl, ?_⟩
      · rw [handleData, handled_observe]
        simp only [Obs.opens, Bool.false_eq_true, if_false, Obs.handledFor, DataIn.bytesFor]
        split <;> rfl
      · rw [handleData, delivered_observe]
        simp only [Obs.opens, Bool.false_eq_true, if_false, Obs.deliveredFor]
        split <;> rfl
      · intro st st' hst hst' _
        have hq : ∃ st, s.tcpConns id = some st ∧ st'.toApp = st.toApp := by
          rw [handleData] at hst'
          cases hid : s.tcpConns id' with
          | none =>
              rw [hid] at hst'
              exact ⟨st', hst', rfl⟩
          | some st₀ =>
              rw [hid] at hst'
              exact exists_same_queue hid hst' rfl
        obtain ⟨st₁, hst₁, heq⟩ := hq
        obtain rfl := Option.some.inj (hst.symm.trans hst₁)
        rw [heq, List.append_nil]
        rfl
  | tcpClose id' =>
      rw [handleData]
      split
      · rename_i hid
        exact .mute [] rfl (by simp) fun u hu => exists_same_queue hid hu rfl
      · exact .of_eq rfl rfl
  | udp | udpClose =>
      rw [handleData]
      repeat' split
      all_goals exact .of_eq rfl rfl

lemma Flow.of_goto {pc : Pc} {handled : Bytes} {came taken : List Bytes}
    (h : Flow id handled came taken (s.goto pc) s') : Flow id handled came taken s s' :=
  ⟨h.handled, h.delivered, h.absent, h.removed, h.queue⟩

/-- An event that brings no data message. -/
lemma bytesFor_eq_nil (h : ∀ d room, e ≠ .data d room) : e.bytesFor id = [] := by
  cases e with
  | data d room => exact absurd rfl (h d room)
  | _ => rfl

/-- The application takes the front of its queue. -/
lemma appRecv_flow {r : Bytes × Mailbox Bytes appQueue} (hid : s.tcpConns id' = some st)
    (hr : st.toApp.recv = some r) :
    Flow id [] [] ((Ev.appRecv id').taken s id) s { s with
      tcpConns := Function.update s.tcpConns id' (some { st with toApp := r.2 }) } := by
  refine ⟨(List.append_nil _).symm, (List.append_nil _).symm, fun _ => rfl, fun _ => rfl, ?_⟩
  intro st₀ st' hst hst' _
  by_cases hne : id' = id
  · subst hne
    have hnew := Function.update_self id' (some { st with toApp := r.2 }) s.tcpConns
    obtain rfl := Option.some.inj (hid.symm.trans hst)
    obtain rfl := Option.some.inj (hnew.symm.trans hst')
    rw [Ev.taken, if_pos rfl, hid, Option.bind_some, hr, Mailbox.recv_eq_some hr, List.append_nil]
    rfl
  · have hold := Function.update_of_ne (Ne.symm hne) (some { st with toApp := r.2 }) s.tcpConns
    obtain rfl := Option.some.inj (hst.symm.trans (hold.symm.trans hst'))
    rw [Ev.taken, if_neg hne, List.append_nil]
    rfl

/-- A command, or a step that opens no connection. -/
lemma step_flow_or (h : step sm s e = some s') :
    (∃ came, Flow id (e.bytesFor id) came (e.taken s id) s s')
      ∨ ∃ c slot err, e = .cmd c slot err ∧ s' = handleCmd sm (s.goto .poll) c slot err := by
  cases stepped h with
  | lost hl =>
      have hdata : e.bytesFor id = [] := by
        refine bytesFor_eq_nil ?_
        rintro d room rfl
        simp only [step, Option.ite_none_right_eq_some] at h
        rcases h.1 with hpc | hpc
        · exact hl.pc_ne.1 hpc
        · exact hl.pc_ne.2 hpc
      have htaken : e.taken s id = [] := by
        cases e with
        | appRecv id' =>
            -- no application waits for a step of the stack
            exfalso
            have hpc : (s.goto .panicked).pc = s.pc := by
              simp only [step] at h
              split at h
              · split at h
                · cases h
                · obtain ⟨r, _, heq⟩ := Option.map_eq_some_iff.mp h
                  rw [← heq]
              · cases h
            cases hl with
            | service hs | deliver hs | serviceUdp hs | deliverUdp hs =>
                rw [← hpc] at hs
                cases hs
        | _ => rfl
      rw [hdata, htaken]
      exact .inl ⟨[], .of_eq rfl rfl⟩
  | moved hm => cases hm <;> exact .inl ⟨[], .of_eq rfl rfl⟩
  | serviceTcp _ hid => exact .inl ⟨[], serviceConn_flow _ _ hid⟩
  | deliverTcp _ hid _ hd => exact .inl (deliverChunk_flow hid hd)
  | finishTcp _ hid => exact .inl ⟨[], finishConn_flow _ hid⟩
  | cmd => exact .inr ⟨_, _, _, rfl, rfl⟩
  | data => exact .inl ⟨[], (handleData_flow (s := s.goto .dataIn) _ _).of_goto⟩
  | dropReceiver hid =>
      exact .inl ⟨[], .mute [] rfl (by simp) fun u hu => exists_same_queue hid hu rfl⟩
  | appRecv hid _ hr => exact .inl ⟨[], appRecv_flow hid hr⟩
  | _ => exact .inl ⟨[], .of_eq rfl rfl⟩

/-- **What a step does to the bytes of a connection** that has been opened. -/
theorem step_flow (hlt : id < s.nextId) (h : step sm s e = some s') :
    ∃ came, Flow id (e.bytesFor id) came (e.taken s id) s s' := by
  rcases step_flow_or h with hflow | ⟨c, slot, err, rfl, rfl⟩
  · exact hflow
  · exact ⟨[], (handleCmd_flow (s := s.goto .poll) _ _ _ (Nat.ne_of_lt hlt)).of_goto⟩

lemma lt_nextId (hm : s.shape.Matched) (hid : s.tcpConns id = some st) : id < s.nextId :=
  hm.below .tcp id _ (entries_tcp hid)

lemma tcpConns_of_le (hm : s.shape.Matched) (hle : s.nextId ≤ id) : s.tcpConns id = none := by
  by_contra hne
  obtain ⟨st, hid⟩ := Option.ne_none_iff_exists'.mp hne
  exact absurd (lt_nextId hm hid) (Nat.not_lt.mpr hle)

/-- A connection that has no bytes before it is opened has none then. -/
theorem step_unopened (hm : s.shape.Matched) (hle : s.nextId ≤ id) (h : step sm s e = some s') :
    (e.bytesFor id = [] → s.handled id = [] → s'.handled id = [])
      ∧ (s.delivered id = [] → s'.delivered id = []) := by
  have hnone := tcpConns_of_le hm hle
  have hquiet : ∀ {came taken}, Flow id (e.bytesFor id) came taken s s' →
      (e.bytesFor id = [] → s.handled id = [] → s'.handled id = [])
        ∧ (s.delivered id = [] → s'.delivered id = []) := by
    intro came taken hf
    refine ⟨fun he hh => ?_, fun hd => ?_⟩
    · rw [hf.handled, hh, he]
      rfl
    · rw [hf.delivered, hd, hf.absent hnone]
      rfl
  rcases step_flow_or h with ⟨came, hflow⟩ | ⟨c, slot, err, rfl, rfl⟩
  · exact hquiet hflow
  · by_cases hid : id = s.nextId
    · subst hid
      have hopened := @handleCmd_opened sm (s.goto .poll) c slot err
      exact ⟨fun _ => hopened.1, hopened.2⟩
    · exact hquiet (handleCmd_flow (s := s.goto .poll) _ _ _ hid).of_goto

/-! ### The end of a connection -/

/-- A connection whose receiver has left the stack is established. -/
def View.Given (v : View) : Prop := v.entry.fromStackRx = false → v.entry.established = true

lemma seen_given {state : State} (h : st.fromStackRx = false → st.established = true) :
    (st.seen state).fromStackRx = false → (st.seen state).established = true := by
  rw [TcpState.seen]
  split
  · exact fun _ => rfl
  · exact h

lemma given_step {v v' : View} (hv : v.Given) (h : ConnStep sm v v') : v'.Given := by
  cases h with
  | serviced accept =>
      intro hrx
      exact seen_given hv hrx
  | _ => exact hv

lemma handedOver_established {iface : Interface} {es : List Ev}
    (h : Machine.run (step sm) (.spawned iface) es = some s) (hh : HandedOver s id)
    (hid : s.tcpConns id = some st) : st.established = true := by
  obtain ⟨t, ht⟩ := exists_socket (tables_matched h) hid
  have hv : View.Given ⟨st, t, s.handled id, s.delivered id, s.pc.inflight id⟩ :=
    run_view (fun _ _ _ _ hrx => by cases hrx) (fun _ _ => given_step) h (view_eq hid ht)
  refine hv (hh.receiver st.ends ?_)
  rw [NetStack.tcpEnds, hid]
  rfl

/-- Nothing is queued, handled or delivered for a new connection. -/
lemma opened_empty {st' : TcpState} (hm : s.shape.Matched) (h : step sm s e = some s')
    (hid : s.tcpConns id = none) (hid' : s'.tcpConns id = some st') :
    st'.toApp.items = [] ∧ s'.handled id = [] ∧ s'.delivered id = [] := by
  obtain ⟨t, ht⟩ := exists_socket ((step_shape h).matched hm) hid'
  have hview := step_view hm h id
  rw [view_eq_none hid] at hview
  generalize hv : s'.view id = v at hview
  cases hview with
  | absent => cases (view_eq hid' ht).symm.trans hv
  | opened =>
      have heq := Option.some.inj ((view_eq hid' ht).symm.trans hv)
      exact ⟨congrArg (fun v : View => v.entry.toApp.items) heq, congrArg View.handled heq,
        congrArg View.delivered heq⟩

/-- A connection is not removed in the step that hands it over. -/
lemma granted_stays {obs : List Obs} {resp : ℕ} (hm : s.shape.Matched)
    (h : step sm s e = some s') (hlog : s'.log = obs ++ s.log)
    (hobs : .answered resp (.ok id) ∈ obs) (hid : s.tcpConns id = some st) :
    s'.tcpConns id ≠ none := by
  -- most steps answer nobody
  have hnot : ∀ obs' : List Obs, s'.log = obs' ++ s.log →
      ¬ ∀ o ∈ obs', o ≠ .answered resp (.ok id) := by
    intro obs' hlog' hne
    obtain rfl := List.append_cancel_right (hlog.symm.trans hlog')
    exact hne _ hobs rfl
  cases stepped h with
  | @serviceTcp accept id' rest st' t hpc hid' =>
      rcases establish_cases s id' st' t.state with hs | ⟨resp', hs, -, -, hest⟩
      · exfalso
        rw [serviceConn] at hnot
        dsimp only at hnot
        rw [hs] at hnot
        split at hnot
        · rw [refuse] at hnot
          split at hnot
          · exact hnot [_, _] rfl (by simp)
          · exact hnot [_] rfl (by simp)
        · split at hnot
          · exact hnot [_] rfl (by simp)
          · exact hnot [] rfl (by simp)
      · have hkept : ¬ refused (st'.seen t.state) t.state = true := by
          simp [refused, hest]
        rw [serviceConn]
        dsimp only
        rw [if_neg hkept, hs]
        -- the entry is put back
        have hput : ∀ s' u, s'.tcpConns = Function.update s.tcpConns id' (some u) →
            NetStack.tcpConns s' id ≠ none := by
          intro s' u hconns hnone
          rw [hconns, Function.update_apply] at hnone
          split at hnone
          · cases hnone
          · cases hid.symm.trans hnone
        split <;> exact hput _ _ rfl
  | deliverTcp _ _ _ hd =>
      exfalso
      rw [deliverChunk] at hd
      split at hd
      · cases hd
        exact hnot [_] rfl (by simp)
      · obtain ⟨toApp, _, rfl⟩ := Option.map_eq_some_iff.mp hd
        exact hnot [_] rfl (by simp)
  | finishTcp =>
      exfalso
      rw [finishConn] at hnot
      split at hnot
      · exact hnot [_] rfl (by simp)
      · split at hnot
        · exact hnot [_] rfl (by simp)
        · exact hnot [] rfl (by simp)
  | @cmd c slot err =>
      exfalso
      have hlt : id < s.nextId := hm.below .tcp id _ (entries_tcp hid)
      have hne : s.nextId ≠ id := Nat.ne_of_gt hlt
      cases c with
      | openTcp dst resp' => cases err <;> exact hnot [_] rfl (by simp)
      | openUdp resp' =>
          cases err with
          | some e => exact hnot [_] rfl (by simp)
          | none =>
              refine hnot [_] rfl (List.forall_mem_singleton.mpr fun heq => ?_)
              simp only [Obs.answered.injEq, Except.ok.injEq] at heq
              exact hne heq.2
      | setAddrs v4 v6 =>
          rw [handleCmd] at hnot
          split at hnot <;> exact hnot [] rfl (by simp)
  | @data d room =>
      exfalso
      cases d with
      | tcp id' data =>
          rw [handleData] at hnot
          split at hnot <;> exact hnot [_] rfl (by simp)
      | tcpClose | udp | udpClose =>
          rw [handleData] at hnot
          repeat' split at hnot
          all_goals exact hnot [] rfl (by simp)
  | _ => exact absurd (by simp) (hnot [] rfl)

/-- **The end of a connection**: when an established connection is removed, its receive buffer is
empty, and everything that was received for it has been sent to the application. -/
lemma removed_delivered {iface : Interface} {es : List Ev}
    (hrun : Machine.run (step sm) (.spawned iface) es = some s) (h : step sm s e = some s')
    (hid : s.tcpConns id = some st) (ht : s.tcp st.handle = some t)
    (hdrop : st.rxDropped = false) (hest : st.established = true)
    (hgone : s'.tcpConns id = none) :
    t.state = .closed ∧ t.rx.content = [] ∧ s.delivered id = t.received := by
  have hv := run_inOrder hrun hid ht
  have hview := step_view (tables_matched hrun) h id
  rw [view_eq hid ht, view_eq_none hgone] at hview
  have hstream := hv.stream hdrop
  cases hview with
  | refused _ href =>
      have hseen : (st.seen t.state).established = true := by
        simp [TcpState.seen, hest]
      simp [refused, hseen] at href
  | ended hin hclosed _ =>
      have hrx := hv.drained (by rw [hin]; simp)
      dsimp only at hin hclosed hrx hstream
      rw [hin, hrx] at hstream
      exact ⟨hclosed, hrx, by simpa using hstream⟩

/-! ### The streams of a run -/

/-- The bytes of all data messages handled for a connection since it was opened, in order. -/
def messages (sm : Smoltcp) (id : ℕ) (iface : Interface) (es : List Ev) : Bytes :=
  Machine.outputs (step sm) (fun s e => if id < s.nextId then e.bytesFor id else [])
    (.spawned iface) es

/-- The chunks that the application of a connection has taken from its queue, in order. -/
def taken (sm : Smoltcp) (id : ℕ) (iface : Interface) (es : List Ev) : List Bytes :=
  Machine.outputs (step sm) (fun s e => e.taken s id) (.spawned iface) es

/-- An entry was there before the step, or its id was not given out. -/
lemma tcpConns_before (h : ShapeStep s.shape s'.shape) (hid : s'.tcpConns id = some st) :
    s.nextId ≤ id ∨ ∃ st₀, s.tcpConns id = some st₀ := by
  refine (h.before (entries_tcp hid)).imp_right fun hold => ?_
  obtain ⟨st₀, hst₀, -⟩ := Option.map_eq_some_iff.mp hold
  exact ⟨st₀, hst₀⟩

lemma taken_eq_nil (hid : s.tcpConns id = none) (e : Ev) : e.taken s id = [] := by
  cases e with
  | appRecv id' =>
      rw [Ev.taken, hid]
      exact ite_self _
  | _ => rfl

/-- A receiver that is not dropped after a step was not dropped before. -/
lemma ConnStep.live {v v' : View} (h : ConnStep sm v v') (hlive : v'.entry.rxDropped = false) :
    v.entry.rxDropped = false := by
  cases h with
  | app toApp rxDropped hdrop =>
      by_contra hd
      rw [Bool.not_eq_false] at hd
      rw [hdrop hd] at hlive
      cases hlive
  | serviced accept => rwa [← (flushed_rx sm v accept).2.2]
  | _ => exact hlive

lemma step_live {st' : TcpState} (hm : s.shape.Matched) (h : step sm s e = some s')
    (hid : s.tcpConns id = some st) (hid' : s'.tcpConns id = some st')
    (hlive : st'.rxDropped = false) : st.rxDropped = false := by
  obtain ⟨t, ht⟩ := exists_socket hm hid
  obtain ⟨t', ht'⟩ := exists_socket ((step_shape h).matched hm) hid'
  have hview := step_view hm h id
  rw [view_eq hid ht, view_eq hid' ht'] at hview
  cases hview with
  | kept hc => exact hc.live hlive

/-- What is handled for a connection is what its messages bring. -/
lemma handled_eq_messages {iface : Interface} {es : List Ev}
    (h : Machine.run (step sm) (.spawned iface) es = some s) (hid : s.tcpConns id = some st) :
    s.handled id = messages sm id iface es := by
  -- an id that is not given out has brought nothing
  have hstart : (NetStack.spawned iface).shape.Matched
      ∧ ((NetStack.spawned iface).nextId ≤ id → ([] : Bytes) = [])
      ∧ ∀ st, (NetStack.spawned iface).tcpConns id = some st →
        (NetStack.spawned iface).handled id = [] :=
    ⟨spawned_matched iface, fun _ => rfl, fun st hid => by cases hid⟩
  have hinv := Machine.run_outputs_invariant
    (fun s e => if id < s.nextId then e.bytesFor id else [])
    (I := fun s acc => s.shape.Matched ∧ (s.nextId ≤ id → acc = [])
      ∧ ∀ st, s.tcpConns id = some st → s.handled id = acc) ?_ hstart h
  · exact hinv.2.2 st hid
  · rintro s e s' acc ⟨hm, hnone, heq⟩ hs
    have hshape := step_shape hs
    refine ⟨hshape.matched hm, fun hle => ?_, fun st' hid' => ?_⟩
    · have hle : s.nextId ≤ id := Nat.le_trans hshape.nextId_le hle
      rw [hnone hle, if_neg (Nat.not_lt.mpr hle)]
      rfl
    · rcases tcpConns_before hshape hid' with hle | ⟨st₀, hid₀⟩
      · rw [(opened_empty hm hs (tcpConns_of_le hm hle) hid').2.1, hnone hle, if_neg (Nat.not_lt.mpr hle)]
        rfl
      · have hlt := lt_nextId hm hid₀
        obtain ⟨came, hflow⟩ := step_flow hlt hs
        rw [hflow.handled, heq st₀ hid₀, if_pos hlt]

/-- **Upstream bytes are conserved**: in every run, for every connection, the bytes handed to its
socket followed by its pending buffer are the data of all messages handled for it since it was
opened. -/
theorem upstream_conserved {iface : Interface} {es : List Ev}
    (h : Machine.run (step sm) (.spawned iface) es = some s) (hid : s.tcpConns id = some st) :
    ∃ t, s.tcp st.handle = some t ∧ t.sent ++ st.pending = s.handled id
      ∧ s.handled id = messages sm id iface es := by
  obtain ⟨t, ht⟩ := exists_socket (tables_matched h) hid
  exact ⟨t, ht, run_conserved h hid ht, handled_eq_messages h hid⟩

/-- The rule at a run that leaves one of three bytes pending. -/
theorem upstream_conserved_sample :
    ∃ s st, Machine.run (step stdSmoltcp) (.spawned sampleIface) sampleRun = some s
      ∧ s.tcpConns 1 = some st ∧ st.pending = [30]
      ∧ messages stdSmoltcp 1 sampleIface sampleRun = [10, 20, 30]
      ∧ ∃ t, s.tcp st.handle = some t ∧ t.sent = [10, 20] ∧ t.sent ++ st.pending = [10, 20, 30] := by
  obtain ⟨s, hs, st, hid, hp, t₀, ht₀, hsent⟩ : ∃ s,
      Machine.run (step stdSmoltcp) (.spawned sampleIface) sampleRun = some s
        ∧ ∃ st, s.tcpConns 1 = some st ∧ st.pending = [30]
        ∧ ∃ t, s.tcp st.handle = some t ∧ t.sent = [10, 20] := ⟨_, rfl, _, rfl, rfl, _, rfl, rfl⟩
  obtain ⟨t, ht, hcons, hmsg⟩ := upstream_conserved hs hid
  obtain rfl := Option.some.inj (ht.symm.trans ht₀)
  exact ⟨s, st, hs, hid, hp, rfl, t, ht, hsent, hcons.trans hmsg⟩

/-- What was sent on `to_app` the application has taken, or it is in the queue. -/
lemma delivered_eq_taken {iface : Interface} {es : List Ev}
    (h : Machine.run (step sm) (.spawned iface) es = some s) (hid : s.tcpConns id = some st)
    (hdrop : st.rxDropped = false) :
    (taken sm id iface es ++ st.toApp.items).flatten = s.delivered id := by
  have hstart : (NetStack.spawned iface).shape.Matched
      ∧ ((NetStack.spawned iface).nextId ≤ id → ([] : List Bytes) = [])
      ∧ ∀ st, (NetStack.spawned iface).tcpConns id = some st → st.rxDropped = false →
        (([] : List Bytes) ++ st.toApp.items).flatten = (NetStack.spawned iface).delivered id :=
    ⟨spawned_matched iface, fun _ => rfl, fun st hid => by cases hid⟩
  have hinv := Machine.run_outputs_invariant (fun s e => e.taken s id)
    (I := fun s acc => s.shape.Matched ∧ (s.nextId ≤ id → acc = [])
      ∧ ∀ st, s.tcpConns id = some st → st.rxDropped = false →
        (acc ++ st.toApp.items).flatten = s.delivered id) ?_ hstart h
  · exact hinv.2.2 st hid hdrop
  · rintro s e s' acc ⟨hm, hnone, heq⟩ hs
    have hshape := step_shape hs
    refine ⟨hshape.matched hm, fun hle => ?_, fun st' hid' hlive => ?_⟩
    · have hle : s.nextId ≤ id := Nat.le_trans hshape.nextId_le hle
      rw [hnone hle, taken_eq_nil (tcpConns_of_le hm hle)]
      rfl
    · rcases tcpConns_before hshape hid' with hle | ⟨st₀, hid₀⟩
      · obtain ⟨hitems, -, hdel⟩ := opened_empty hm hs (tcpConns_of_le hm hle) hid'
        rw [hitems, hdel, hnone hle, taken_eq_nil (tcpConns_of_le hm hle)]
        rfl
      · obtain ⟨came, hflow⟩ := step_flow (lt_nextId hm hid₀) hs
        have hold := heq st₀ hid₀ (step_live hm hs hid₀ hid' hlive)
        calc (acc ++ e.taken s id ++ st'.toApp.items).flatten
            = (acc ++ (st₀.toApp.items ++ came)).flatten := by
              rw [hflow.queue st₀ st' hid₀ hid' hlive, List.append_assoc]
          _ = (acc ++ st₀.toApp.items).flatten ++ came.flatten := by
              rw [← List.append_assoc, List.flatten_append]
          _ = s'.delivered id := by rw [hold, hflow.delivered]

/-- **Downstream bytes are complete and in order.** In every run, for a connection whose receiver
is not dropped, the chunks sent on `to_app`, which the application has taken or finds in its queue,
are a prefix of what smoltcp received; and when the service pass removes the connection nothing is
left in the receive buffer: the application has been sent everything. -/
theorem downstream_complete {iface : Interface} {es : List Ev}
    (h : Machine.run (step sm) (.spawned iface) es = some s) (hid : s.tcpConns id = some st)
    (ht : s.tcp st.handle = some t) (hdrop : st.rxDropped = false) :
    (taken sm id iface es ++ st.toApp.items).flatten <+: t.received
      ∧ ∀ e s', step sm s e = some s' → s'.tcpConns id = none → st.established →
          t.state = .closed ∧ t.rx.content = []
            ∧ (taken sm id iface es ++ st.toApp.items).flatten = t.received := by
  rw [delivered_eq_taken h hid hdrop]
  refine ⟨?_, fun e s' hs hgone hest => removed_delivered h hs hid ht hdrop hest hgone⟩
  have hstream := (run_inOrder h hid ht).stream hdrop
  rw [List.append_assoc] at hstream
  exact ⟨_, hstream⟩

/-- `sampleRun` up to the removal of the connection; the application takes one chunk of two. -/
def sampleEnd : List Ev :=
  sampleRun ++ [.finishTcp, .appRecv 1] ++ samplePass
    ++ [.timer, samplePoll .closed [] [1], .serviceTcp 0]

/-- The rule at the end of a connection that received three bytes and a FIN. -/
theorem downstream_complete_sample :
    ∃ s st t s', Machine.run (step stdSmoltcp) (.spawned sampleIface) sampleEnd = some s
      ∧ s.tcpConns 1 = some st ∧ s.tcp st.handle = some t
      ∧ step stdSmoltcp s .finishTcp = some s' ∧ s'.tcpConns 1 = none
      ∧ taken stdSmoltcp 1 sampleIface sampleEnd = [[7, 8]] ∧ st.toApp.items = [[9]]
      ∧ t.received = [7, 8, 9] := by
  obtain ⟨s, hs, st, hid, t, ht, hdrop, hest, s', hs', hgone, hitems⟩ :
      ∃ s, Machine.run (step stdSmoltcp) (.spawned sampleIface) sampleEnd = some s
        ∧ ∃ st, s.tcpConns 1 = some st ∧ ∃ t, s.tcp st.handle = some t ∧ st.rxDropped = false
        ∧ st.established = true ∧ ∃ s', step stdSmoltcp s .finishTcp = some s'
        ∧ s'.tcpConns 1 = none ∧ st.toApp.items = [[9]] :=
    ⟨_, rfl, _, rfl, _, rfl, rfl, rfl, _, rfl, rfl, rfl⟩
  have htaken : taken stdSmoltcp 1 sampleIface sampleEnd = [[7, 8]] := rfl
  obtain ⟨-, hend⟩ := downstream_complete hs hid ht hdrop
  obtain ⟨-, -, hall⟩ := hend .finishTcp s' hs' hgone hest
  rw [htaken, hitems] at hall
  exact ⟨s, st, t, s', hs, hid, ht, hs', hgone, htaken, hitems, hall.symm⟩

end Aether.Netstack
