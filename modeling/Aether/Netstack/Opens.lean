import Aether.Netstack.Watch

/-!
How an `OpenTcp` is answered.

* `opens_answered`: **if every poll that completes a handshake leaves the socket
  `Established`, every open is answered once and correctly.**
* `handshake_and_fin`: a SYN-ACK and a FIN in one poll: the connection is refused, and
  what it received is lost.
-/

namespace Aether.Netstack

variable {sm : Smoltcp} {s s' : NetStack} {g g' : Watch} {e : Ev} {id id' resp resp' : ℕ}
  {st st' : TcpState} {t t' : TcpSocket} {o : Opening}

/-! ### The invariant -/

/-- What holds of the stack and the observer after every run that meets the condition. -/
structure Inv (s : NetStack) (g : Watch) : Prop where
  unused : ∀ resp, resp ∉ g.used → s.answers resp = []
  unborn : ∀ id, s.nextId ≤ id → g.done id = false ∧ g.payload id = []
  opens : ∀ resp id, (resp, id) ∈ g.opens → resp ∈ g.used ∧ id < s.nextId
  inj : ∀ resp resp' id id', (resp, id) ∈ g.opens → (resp', id') ∈ g.opens →
    (resp = resp' ↔ id = id')
  entry : ∀ id, s.tcpConns id ≠ none → ∃ resp, (resp, id) ∈ g.opens
  once : ∀ resp, (s.answers resp).length ≤ 1
  told : ∀ resp id, (resp, id) ∈ g.opens → Told s g resp id

/-- The connections of which `P` holds are left alone. -/
structure Frame (P : ℕ → Prop) (s s' : NetStack) : Prop where
  entry : ∀ id, P id → s'.tcpConns id = s.tcpConns id
  sockets : ∀ id, P id → ∀ st, s.tcpConns id = some st →
    s'.sockets st.handle = s.sockets st.handle
  due : ∀ id, P id → s.tcpConns id ≠ none → id ∈ s.pc.due → id ∈ s'.pc.due

variable {P : ℕ → Prop}

lemma Frame.opening (h : Frame P s s') (hid : P id) : s'.opening id = s.opening id :=
  opening_congr (h.entry id hid) (h.sockets id hid)

/-- An opening that is left alone stands where it stood. -/
lemma Told.frame (h : Told s g resp id) (hf : Frame P s s') (hid : P id)
    (ha : s'.answers resp = s.answers resp) : Told s' g resp id := by
  cases h with
  | waiting o ho hw hans hdue hsync hpay =>
      obtain ⟨st, t, hst, -, -⟩ := opening_eq_some ho
      refine .waiting o ((hf.opening hid).trans ho) hw (ha.trans hans) ?_ hsync hpay
      intro hd
      obtain ⟨hmem, hstate⟩ := hdue hd
      exact ⟨hf.due id hid (by rw [hst]; exact Option.some_ne_none st) hmem, hstate⟩
  | reported hans hd he =>
      exact .reported (ha.trans hans) hd fun st hst => he st ((hf.entry id hid).symm.trans hst)
  | refused hans hd hp hno =>
      exact .refused (ha.trans hans) hd hp ((hf.entry id hid).trans hno)

/-- A step that concerns the connections of which `P` does not hold. -/
lemma Inv.touch (h : Inv s g) (hf : Frame P s s') (hn : s'.nextId = s.nextId)
    (hans : ∀ resp, (∀ id, (resp, id) ∈ g.opens → P id) → s'.answers resp = s.answers resp)
    (hentry : ∀ id, ¬ P id → s'.tcpConns id ≠ none → s.tcpConns id ≠ none)
    (htold : ∀ resp id, ¬ P id → (resp, id) ∈ g.opens → Told s g resp id → Told s' g resp id) :
    Inv s' g := by
  have hsame : ∀ resp id, (resp, id) ∈ g.opens → P id → s'.answers resp = s.answers resp := by
    intro resp id ho hid
    refine hans resp ?_
    intro id' ho'
    rw [(h.inj resp resp id' id ho' ho).mp rfl]
    exact hid
  have htold' : ∀ resp id, (resp, id) ∈ g.opens → Told s' g resp id := by
    intro resp id ho
    by_cases hid : P id
    · exact (h.told resp id ho).frame hf hid (hsame resp id ho hid)
    · exact htold resp id hid ho (h.told resp id ho)
  refine ⟨?_, ?_, ?_, h.inj, ?_, ?_, htold'⟩
  · intro resp hresp
    refine (hans resp fun id ho => absurd (h.opens resp id ho).1 hresp).trans (h.unused resp hresp)
  · intro id hid
    exact h.unborn id (hn ▸ hid)
  · intro resp id ho
    rw [hn]
    exact h.opens resp id ho
  · intro id hid
    by_cases hP : P id
    · exact h.entry id ((hf.entry id hP) ▸ hid)
    · exact h.entry id (hentry id hP hid)
  · intro resp
    by_cases ho : ∃ id, (resp, id) ∈ g.opens
    · obtain ⟨id, ho⟩ := ho
      exact (htold' resp id ho).answered.once
    · rw [hans resp fun id hid => absurd ⟨id, hid⟩ ho]
      exact h.once resp

/-- A step that concerns no connection. -/
lemma Inv.quiet (h : Inv s g) (hf : Frame (fun _ => True) s s') (hn : s'.nextId = s.nextId)
    (hlog : ∀ resp, s'.answers resp = s.answers resp) : Inv s' g :=
  h.touch hf hn (fun resp _ => hlog resp) (fun _ hno => absurd trivial hno)
    (fun _ _ hno => absurd trivial hno)

/-! ### The steps of one connection -/

lemma answers_of_log (h : s'.log = s.log) (resp : ℕ) : s'.answers resp = s.answers resp := by
  rw [NetStack.answers, NetStack.answers, h]

lemma answers_observe_self (s : NetStack) (resp : ℕ) (a : Except String ℕ) :
    (s.observe (.answered resp a)).answers resp = a :: s.answers resp :=
  List.filterMap_cons_some (if_pos rfl)

lemma answers_observe_ne {o : Obs} (h : o.answer resp = none) :
    (s.observe o).answers resp = s.answers resp :=
  List.filterMap_cons_none h

/-- A step that replaces one entry, and the socket in its slot, leaves the others alone. -/
lemma frame_own (hm : s.shape.Matched) (hid : s.tcpConns id = some st)
    (hc : ∀ id' ≠ id, s'.tcpConns id' = s.tcpConns id')
    (hs : ∀ slot ≠ st.handle, s'.sockets slot = s.sockets slot)
    (hdue : ∀ id' ≠ id, id' ∈ s.pc.due → id' ∈ s'.pc.due) : Frame (· ≠ id) s s' where
  entry := hc
  sockets _ hne st' hid' := hs st'.handle (handle_ne hm hid' hid hne)
  due _ hne _ hmem := hdue _ hne hmem

lemma update_own (s : NetStack) (id : ℕ) (st : TcpState) (t : TcpSocket) :
    (∀ id' ≠ id, (s.update id st t).tcpConns id' = s.tcpConns id')
      ∧ ∀ slot ≠ st.handle, (s.update id st t).sockets slot = s.sockets slot :=
  ⟨fun _ hne => Function.update_of_ne hne .., fun _ hne => Function.update_of_ne hne ..⟩

/-- A connection with its socket that has not been reported. -/
structure Waiting (s : NetStack) (g : Watch) (resp id : ℕ) (st : TcpState) (t : TcpSocket) :
    Prop where
  waits : (st.opening t).Waits resp
  silent : s.answers resp = []
  due : g.done id = true → id ∈ s.pc.due ∧ t.state = .established
  done : t.state.synchronized = true → g.done id = true
  payload : g.done id = false → g.payload id = []

/-- A connection that has an entry waits, or has been reported. -/
lemma Inv.told_entry (h : Inv s g) (hid : s.tcpConns id = some st)
    (ht : s.tcp st.handle = some t) : ∃ resp, (resp, id) ∈ g.opens
      ∧ (st.established = true ∧ s.answers resp = [.ok id] ∧ g.done id = true
        ∨ Waiting s g resp id st t) := by
  obtain ⟨resp, ho⟩ := h.entry id (by rw [hid]; exact Option.some_ne_none st)
  refine ⟨resp, ho, ?_⟩
  cases h.told resp id ho with
  | refused ha hd hp hno =>
      rw [hid] at hno
      cases hno
  | reported ha hd he => exact .inl ⟨he st hid, ha, hd⟩
  | waiting o hop hw ha hdue hsync hpay =>
      rw [opening_eq hid ht] at hop
      cases hop
      exact .inr ⟨hw, ha, hdue, hsync, hpay⟩

/-- The connection that a step concerns is the only one of its channel. -/
lemma Inv.told_own (h : Inv s g) (ho : (resp, id) ∈ g.opens)
    (ht : Told s' g resp id) : ∀ resp' id', ¬ id' ≠ id → (resp', id') ∈ g.opens →
      Told s g resp' id' → Told s' g resp' id' := by
  intro resp' id' hid' ho' _
  obtain rfl := not_not.mp hid'
  obtain rfl := (h.inj resp' resp id' id' ho' ho).mpr rfl
  exact ht

lemma seen_of_established (h : st.established = true) (state : State) : st.seen state = st := by
  rw [TcpState.seen, h]
  rfl

lemma seen_of_ne {state : State} (h : state ≠ .established) : st.seen state = st := by
  rw [TcpState.seen, decide_eq_false h, Bool.and_false]
  rfl

/-- What a service step that keeps the connection does. -/
lemma serviceConn_eq (sm : Smoltcp) (s : NetStack) (id : ℕ) (rest : List ℕ) (accept : ℕ)
    (hr : refused (st.seen t.state) t.state = false) :
    ∃ log t₁ chunks, serviceConn sm s id rest st t accept
        = (({ s with log } : NetStack).update id (sendPending (st.seen t.state) t accept).1
            t₁).goto (.deliverTcp id chunks rest)
      ∧ (∀ resp, log.filterMap (Obs.answer resp) = (establish s id st t.state).answers resp)
      ∧ ((st.seen t.state).halfClosed = false → t₁.state = t.state) := by
  obtain ⟨log, hs₁⟩ := establish_frame s id st t.state
  rw [serviceConn]
  dsimp only
  rw [hs₁, if_neg (Bool.eq_false_iff.mp hr)]
  by_cases hc : closesHalf (sendPending (st.seen t.state) t accept).1
  · rw [if_pos hc, if_pos hc]
    refine ⟨.closing id _ :: log, _, _, rfl, fun resp => rfl, ?_⟩
    intro hh
    rw [closesHalf, Bool.and_eq_true] at hc
    exact absurd (hh.symm.trans hc.1) (by decide)
  · rw [if_neg hc, if_neg hc]
    exact ⟨log, _, _, rfl, fun resp => rfl, fun _ => rfl⟩

section ServiceConn

variable {rest : List ℕ} (accept : ℕ)

lemma due_tail (hpc : s.pc = .serviceTcp (id :: rest)) :
    ∀ id' ≠ id, id' ∈ s.pc.due → id' ∈ rest := by
  intro id' hne hmem
  rw [hpc] at hmem
  exact (List.mem_cons.mp hmem).resolve_left hne

/-- A channel that no step on a connection concerns is not its channel. -/
lemma ne_channel (ho : (resp, id) ∈ g.opens) (hne : ∀ id', (resp', id') ∈ g.opens → id' ≠ id) :
    resp' ≠ resp := by
  rintro rfl
  exact hne id ho rfl

/-- A service step that keeps the connection, with the answers it gives. -/
lemma Inv.serviceConn_kept (h : Inv s g) (hm : s.shape.Matched)
    (hpc : s.pc = .serviceTcp (id :: rest)) (hid : s.tcpConns id = some st)
    (ho : (resp, id) ∈ g.opens) (hr : refused (st.seen t.state) t.state = false)
    (hans : ∀ resp' ≠ resp, (establish s id st t.state).answers resp' = s.answers resp')
    (htold : ∀ (s' : NetStack) (t₁ : TcpSocket),
      s'.tcpConns id = some (sendPending (st.seen t.state) t accept).1 →
      s'.tcp (sendPending (st.seen t.state) t accept).1.handle = some t₁ →
      s'.answers resp = (establish s id st t.state).answers resp →
      ((st.seen t.state).halfClosed = false → t₁.state = t.state) → Told s' g resp id) :
    Inv (Netstack.serviceConn sm s id rest st t accept) g := by
  obtain ⟨log, t₁, chunks, heq, hlog, hstate⟩ := serviceConn_eq sm s id rest accept hr
  obtain ⟨hc, hs⟩ := update_own ({ s with log } : NetStack) id
    (sendPending (st.seen t.state) t accept).1 t₁
  have hh : (sendPending (st.seen t.state) t accept).1.handle = st.handle :=
    seen_handle st t.state
  rw [heq]
  refine h.touch (P := (· ≠ id)) (frame_own hm hid hc (hh ▸ hs) (due_tail hpc)) rfl ?_ ?_ ?_
  · intro resp' hne
    exact (hlog resp').trans (hans resp' (ne_channel ho hne))
  · intro id' hid' _
    rw [not_not.mp hid', hid]
    exact Option.some_ne_none st
  · refine h.told_own ho (htold _ t₁ (Function.update_self ..) ?_ (hlog resp) hstate)
    exact tcp_eq_some.mpr (Function.update_self ..)

lemma Inv.serviceConn_reported (h : Inv s g) (hm : s.shape.Matched)
    (hpc : s.pc = .serviceTcp (id :: rest)) (hid : s.tcpConns id = some st)
    (ho : (resp, id) ∈ g.opens) (hest : st.established = true)
    (ha : s.answers resp = [.ok id]) (hd : g.done id = true) :
    Inv (Netstack.serviceConn sm s id rest st t accept) g := by
  have hseen := seen_of_established hest t.state
  have hsame : establish s id st t.state = s := by
    rw [establish, hest]
    rfl
  refine h.serviceConn_kept accept hm hpc hid ho (by rw [hseen, refused, hest]; rfl)
    (fun _ _ => by rw [hsame]) ?_
  intro s' t₁ hid' _ hans _
  refine .reported (hans.trans (by rw [hsame, ha])) hd ?_
  intro st' hst'
  rw [hid', hseen] at hst'
  cases hst'
  exact hest

/-- The socket is seen established: the opener gets its connection. -/
lemma Inv.serviceConn_granted (h : Inv s g) (hm : s.shape.Matched)
    (hpc : s.pc = .serviceTcp (id :: rest)) (hid : s.tcpConns id = some st)
    (ho : (resp, id) ∈ g.opens) (hw : Waiting s g resp id st t)
    (hstate : t.state = .established) :
    Inv (Netstack.serviceConn sm s id rest st t accept) g := by
  have hest : st.established = false := hw.waits.established
  have hd : g.done id = true := hw.done (by rw [hstate]; rfl)
  have hseen : st.seen t.state
      = { st with established := true, connectResp := none, fromStackRx := false } :=
    if_pos (by rw [hest, hstate]; rfl)
  have hgrant : establish s id st t.state = s.observe (.answered resp (.ok id)) := by
    rw [establish, hest, hstate, show st.connectResp = some resp from hw.waits.connectResp,
      show st.fromStackRx = true from hw.waits.fromStackRx]
    rfl
  refine h.serviceConn_kept accept hm hpc hid ho (by rw [hseen]; rfl) ?_ ?_
  · intro resp' hne
    rw [hgrant]
    exact answers_observe_ne (if_neg (Ne.symm hne))
  · intro s' t₁ hid' _ hans _
    refine .reported ?_ hd ?_
    · rw [hans, hgrant, answers_observe_self, hw.silent]
    · intro st' hst'
      rw [hid', hseen] at hst'
      cases hst'
      rfl

/-- While the handshake is not complete, nothing is established. -/
lemma establish_of_ne {state : State} (hstate : state ≠ .established) :
    establish s id st state = s := by
  rw [establish, decide_eq_false hstate, Bool.and_false]

lemma Waiting.not_done (hw : Waiting s g resp id st t) (hstate : t.state ≠ .established) :
    g.done id = false := by
  by_contra hd
  exact hstate (hw.due (Bool.not_eq_false _ ▸ hd)).2

/-- The socket has ended before it was seen established: the opener is refused. -/
lemma Inv.serviceConn_refused (h : Inv s g) (hm : s.shape.Matched)
    (hpc : s.pc = .serviceTcp (id :: rest)) (hid : s.tcpConns id = some st)
    (ho : (resp, id) ∈ g.opens) (hw : Waiting s g resp id st t)
    (hstate : t.state ≠ .established) (hr : refused (st.seen t.state) t.state = true) :
    Inv (Netstack.serviceConn sm s id rest st t accept) g := by
  have hd := hw.not_done hstate
  have hresp : st.connectResp = some resp := hw.waits.connectResp
  have hrefuse : Netstack.serviceConn sm s id rest st t accept
      = ((((s.observe (.answered resp (.error "connection refused"))).removeTcp id
          st.handle).observe (.removed id st t)).goto (.serviceTcp rest)) := by
    rw [Netstack.serviceConn]
    dsimp only
    rw [if_pos hr, establish_of_ne hstate, seen_of_ne hstate, refuse, hresp]
  rw [hrefuse]
  refine h.touch (P := (· ≠ id)) (frame_own hm hid ?_ ?_ (due_tail hpc)) rfl ?_ ?_ ?_
  · exact fun _ hne => Function.update_of_ne hne ..
  · exact fun _ hne => Function.update_of_ne hne ..
  · intro resp' hne
    exact (answers_observe_ne rfl).trans
      (answers_observe_ne (if_neg (Ne.symm (ne_channel ho hne))))
  · intro id' hid' hno
    rw [not_not.mp hid'] at hno
    exact absurd (Function.update_self ..) hno
  · refine h.told_own ho (.refused ?_ hd (hw.payload hd) (Function.update_self ..))
    have hanswer := answers_observe_self s resp (.error "connection refused")
    rw [hw.silent] at hanswer
    exact (answers_observe_ne rfl).trans hanswer

/-- The handshake goes on. -/
lemma Inv.serviceConn_waiting (h : Inv s g) (hm : s.shape.Matched)
    (hpc : s.pc = .serviceTcp (id :: rest)) (hid : s.tcpConns id = some st)
    (ho : (resp, id) ∈ g.opens) (hw : Waiting s g resp id st t)
    (hstate : t.state ≠ .established) (hr : refused (st.seen t.state) t.state = false) :
    Inv (Netstack.serviceConn sm s id rest st t accept) g := by
  have hseen : st.seen t.state = st := seen_of_ne hstate
  have hsame : establish s id st t.state = s := establish_of_ne hstate
  refine h.serviceConn_kept accept hm hpc hid ho hr (fun _ _ => by rw [hsame]) ?_
  intro s' t₁ hid' ht₁ hans hkeep
  have hst₁ : t₁.state = t.state := hkeep (by rw [hseen]; exact hw.waits.halfClosed)
  refine .waiting _ (opening_eq hid' ht₁) ?_ (hans.trans (by rw [hsame, hw.silent])) ?_ ?_
    hw.payload
  · rw [hseen]
    exact ⟨hw.waits.established, hw.waits.connectResp, hw.waits.fromStackRx, hw.waits.halfClosed,
      hw.waits.rxDropped⟩
  · intro hd
    rw [hw.not_done hstate] at hd
    cases hd
  · intro hs
    exact hw.done ((congrArg State.synchronized hst₁).symm.trans hs)

lemma Inv.serviceConn (h : Inv s g) (hm : s.shape.Matched)
    (hpc : s.pc = .serviceTcp (id :: rest)) (hid : s.tcpConns id = some st)
    (ht : s.tcp st.handle = some t) : Inv (serviceConn sm s id rest st t accept) g := by
  obtain ⟨resp, ho, ⟨hest, ha, hd⟩ | hw⟩ := h.told_entry hid ht
  · exact h.serviceConn_reported accept hm hpc hid ho hest ha hd
  by_cases hstate : t.state = .established
  · exact h.serviceConn_granted accept hm hpc hid ho hw hstate
  by_cases hr : Netstack.refused (st.seen t.state) t.state = true
  · exact h.serviceConn_refused accept hm hpc hid ho hw hstate hr
  · exact h.serviceConn_waiting accept hm hpc hid ho hw hstate (Bool.eq_false_iff.mpr hr)

end ServiceConn

/-- A connection that has not been reported is as its command left it, and its socket is past
the handshake only where the pass is about to see that. -/
lemma Inv.unreported (h : Inv s g) (hid : s.tcpConns id = some st)
    (ht : s.tcp st.handle = some t) (hest : st.established = false) :
    (∃ resp, (st.opening t).Waits resp)
      ∧ (t.state.synchronized = true → t.state = .established) := by
  obtain ⟨resp, -, ⟨hyes, -, -⟩ | hw⟩ := h.told_entry hid ht
  · rw [hyes] at hest
    cases hest
  · exact ⟨⟨resp, hw.waits⟩, fun hs => (hw.due (hw.done hs)).2⟩

/-- A step that replaces an entry and its socket, and gives no answer. -/
lemma Inv.update (h : Inv s g) (hm : s.shape.Matched) (hid : s.tcpConns id = some st)
    (ht : s.tcp st.handle = some t) (hh : st'.handle = st.handle)
    (hest : st'.established = st.established) {log : List Obs} {pc : Pc}
    (hlog : ∀ resp, log.filterMap (Obs.answer resp) = s.answers resp)
    (hdue : ∀ id', id' ∈ s.pc.due → id' ∈ pc.due)
    (hkeep : st'.opening t' = st.opening t ∨ st.established = true) :
    Inv ((({ s with log } : NetStack).update id st' t').goto pc) g := by
  obtain ⟨hc, hs⟩ := update_own ({ s with log } : NetStack) id st' t'
  obtain ⟨resp, ho, htold⟩ := h.told_entry hid ht
  refine h.touch (P := (· ≠ id)) (frame_own hm hid hc (hh ▸ hs) fun id' _ => hdue id') rfl
    (fun resp' _ => hlog resp') ?_ ?_
  · intro id' hid' _
    rw [not_not.mp hid', hid]
    exact Option.some_ne_none st
  · refine h.told_own ho ?_
    obtain ⟨hyes, ha, hd⟩ | hw := htold
    · refine .reported ((hlog resp).trans ha) hd ?_
      intro st₁ hst₁
      have hnew : (({ s with log } : NetStack).update id st' t').tcpConns id = some st' :=
        Function.update_self ..
      obtain rfl : st' = st₁ := Option.some.inj (hnew.symm.trans hst₁)
      exact hest.trans hyes
    · have hsame : st'.opening t' = st.opening t :=
        hkeep.resolve_right (by
          rw [show st.established = false from hw.waits.established]
          decide)
      refine .waiting (st.opening t) ?_ hw.waits ((hlog resp).trans hw.silent) ?_ hw.done
        hw.payload
      · rw [← hsame]
        exact opening_eq (Function.update_self ..) (tcp_eq_some.mpr (Function.update_self ..))
      · intro hd
        exact ⟨hdue id (hw.due hd).1, (hw.due hd).2⟩

/-- A step that replaces an entry. -/
lemma Inv.setConn (h : Inv s g) (hm : s.shape.Matched) (hid : s.tcpConns id = some st)
    (hh : st'.handle = st.handle) (hest : st'.established = st.established)
    (hkeep : (∀ t, st'.opening t = st.opening t) ∨ st.established = true) :
    Inv { s with tcpConns := Function.update s.tcpConns id (some st') } g := by
  obtain ⟨t, ht⟩ := exists_socket hm hid
  have heq : ({ s with tcpConns := Function.update s.tcpConns id (some st') } : NetStack)
      = ((({ s with log := s.log } : NetStack).update id st' t).goto s.pc) := by
    have hsock : Function.update s.sockets st'.handle (some (.tcp t)) = s.sockets := by
      rw [hh, ← tcp_eq_some.mp ht]
      exact Function.update_eq_self ..
    rw [NetStack.update, hsock]
    rfl
  rw [heq]
  exact h.update hm hid ht hh hest (fun _ => rfl) (fun _ hmem => hmem)
    (hkeep.imp_left fun hk => hk t)

lemma Inv.deliverChunk (h : Inv s g) (hm : s.shape.Matched) {chunk : Bytes} {chunks : List Bytes}
    {rest : List ℕ} (hpc : s.pc = .deliverTcp id (chunk :: chunks) rest)
    (hid : s.tcpConns id = some st) (ht : s.tcp st.handle = some t)
    (hd : deliverChunk sm s id chunk chunks rest st t = some s') : Inv s' g := by
  have hdue : ∀ id', id' ∈ s.pc.due → id' ∈ rest := by
    intro id' hmem
    rw [hpc] at hmem
    exact hmem
  rw [Netstack.deliverChunk] at hd
  split at hd
  · rename_i hdrop
    cases hd
    refine h.update hm hid ht rfl rfl (fun _ => rfl) hdue (.inr ?_)
    by_contra hest
    obtain ⟨⟨resp, hw⟩, -⟩ := h.unreported hid ht (Bool.eq_false_iff.mpr hest)
    rw [show st.rxDropped = false from hw.rxDropped] at hdrop
    cases hdrop
  · obtain ⟨toApp, -, rfl⟩ := Option.map_eq_some_iff.mp hd
    refine h.update hm hid ht ?_ ?_ (fun _ => rfl) ?_ (.inl ?_)
    · rfl
    · rfl
    · exact hdue
    · rfl

lemma Inv.finishConn (h : Inv s g) (hm : s.shape.Matched) {rest : List ℕ}
    (hpc : s.pc = .deliverTcp id [] rest) (hid : s.tcpConns id = some st)
    (ht : s.tcp st.handle = some t) : Inv (finishConn sm s id rest st t) g := by
  have hdue : ∀ id', id' ∈ s.pc.due → id' ∈ rest := by
    intro id' hmem
    rw [hpc] at hmem
    exact hmem
  rw [Netstack.finishConn]
  split
  · rename_i hcw
    refine h.update hm hid ht rfl rfl (fun _ => rfl) hdue (.inr ?_)
    by_contra hest
    have hstate := (h.unreported hid ht (Bool.eq_false_iff.mpr hest)).2 (by rw [hcw]; rfl)
    rw [hcw] at hstate
    cases hstate
  · split
    · rename_i hend
      rw [Bool.and_eq_true] at hend
      obtain ⟨resp, ho, htold⟩ := h.told_entry hid ht
      refine h.touch (P := (· ≠ id)) (frame_own hm hid ?_ ?_ fun id' _ => hdue id') rfl
        (fun _ _ => rfl) ?_ ?_
      · exact fun _ hne => Function.update_of_ne hne ..
      · exact fun _ hne => Function.update_of_ne hne ..
      · intro id' hid' _
        rw [not_not.mp hid', hid]
        exact Option.some_ne_none st
      · refine h.told_own ho ?_
        obtain ⟨-, ha, hd⟩ | hw := htold
        · refine .reported ha hd ?_
          intro st₁ hst₁
          have hnone : (s.removeTcp id st.handle).tcpConns id = none := Function.update_self ..
          exact absurd (hnone.symm.trans hst₁) (by simp)
        · rw [show st.established = false from hw.waits.established] at hend
          exact absurd hend.2 (by decide)
    · exact h.quiet ⟨fun _ _ => rfl, fun _ _ _ _ => rfl, fun id' _ _ => hdue id'⟩ rfl fun _ => rfl

/-! ### The other steps -/

/-- The socket of a UDP connection changes, or goes. -/
lemma Inv.udpSocket {st : UdpState} {udpConns : ℕ → Option UdpState} {x : Option Socket}
    (h : Inv s g) (hm : s.shape.Matched) (hid : s.udpConns id = some st) :
    Inv { s with sockets := Function.update s.sockets st.handle x, udpConns } g := by
  refine h.quiet ⟨fun _ _ => rfl, ?_, fun _ _ _ hmem => hmem⟩ rfl fun _ => rfl
  intro id' _ st' hid'
  refine Function.update_of_ne (fun heq => ?_) ..
  have hsame := entries_inj hm (entries_tcp hid') (heq ▸ entries_udp hid)
  cases hsame.1

lemma Inv.handleData (h : Inv s g) (hm : s.shape.Matched) (d : DataIn) (room : Bool)
    (hlaw : ∀ id, d = .tcpClose id → ∀ st ∈ s.tcpConns id, st.established = true) :
    Inv (handleData s d room) g := by
  cases d with
  | tcp id data =>
      rw [Netstack.handleData]
      have hquiet : ∀ {s' : NetStack}, Inv s' g → Inv (s'.observe (.handled id data)) g :=
        fun hi => hi.quiet ⟨fun _ _ => rfl, fun _ _ _ _ => rfl, fun _ _ _ hmem => hmem⟩ rfl
          fun _ => rfl
      split
      · rename_i st hid
        exact hquiet (h.setConn hm hid rfl rfl (.inl fun _ => rfl))
      · exact hquiet h
  | tcpClose id =>
      rw [Netstack.handleData]
      split
      · rename_i st hid
        exact h.setConn hm hid rfl rfl (.inr (hlaw id rfl st hid))
      · exact h
  | udp id dst data =>
      rw [Netstack.handleData]
      split
      · rename_i st hid
        obtain ⟨u, hu⟩ := exists_udpSocket hm hid
        rw [hu]
        exact h.udpSocket hm hid
      · exact h
  | udpClose id =>
      rw [Netstack.handleData]
      split
      · rename_i st hid
        obtain ⟨u, hu⟩ := exists_udpSocket hm hid
        rw [udp_eq_some.mp hu]
        exact h.udpSocket hm hid
      · exact h

/-- What the observer does not look at makes no difference. -/
lemma Told.of_watch (h : Told s g resp id) (hd : g'.done = g.done)
    (hp : g'.payload = g.payload) : Told s g' resp id := by
  cases h with
  | waiting o hop hw ha hdue hsync hpay =>
      exact .waiting o hop hw ha (hd ▸ hdue) (hd ▸ hsync) (hd ▸ hp ▸ hpay)
  | reported ha hdone he => exact .reported ha (hd ▸ hdone) he
  | refused ha hdone hpay hno => exact .refused ha (hd ▸ hdone) (hp ▸ hpay) hno

/-- A command that is answered at once. -/
lemma Inv.answer (h : Inv s g) (hf : Frame (fun _ => True) s s') (hn : s.nextId ≤ s'.nextId)
    (hresp : resp ∉ g.used) {a : Except String ℕ} (hlog : s'.log = .answered resp a :: s.log) :
    Inv s' { g with used := resp :: g.used } := by
  have hself : s'.answers resp = [a] := by
    rw [NetStack.answers, hlog]
    exact (answers_observe_self s resp a).trans (by rw [h.unused resp hresp])
  have hne : ∀ resp' ≠ resp, s'.answers resp' = s.answers resp' := by
    intro resp' hr
    rw [NetStack.answers, hlog]
    exact answers_observe_ne (s := s) (if_neg (Ne.symm hr))
  have hold : ∀ resp' id, (resp', id) ∈ g.opens → resp' ≠ resp := by
    rintro resp' id ho rfl
    exact hresp (h.opens resp' id ho).1
  refine ⟨?_, ?_, ?_, h.inj, ?_, ?_, ?_⟩
  · intro resp' hr
    rw [List.mem_cons, not_or] at hr
    exact (hne resp' hr.1).trans (h.unused resp' hr.2)
  · exact fun id hid => h.unborn id (Nat.le_trans hn hid)
  · intro resp' id ho
    obtain ⟨hu, hlt⟩ := h.opens resp' id ho
    exact ⟨List.mem_cons_of_mem _ hu, Nat.lt_of_lt_of_le hlt hn⟩
  · exact fun id hid => h.entry id ((hf.entry id trivial) ▸ hid)
  · intro resp'
    by_cases hr : resp' = resp
    · rw [hr, hself]
      exact Nat.le_refl 1
    · rw [hne resp' hr]
      exact h.once resp'
  · intro resp' id ho
    exact ((h.told resp' id ho).frame hf trivial (hne resp' (hold resp' id ho))).of_watch rfl rfl

/-- A connection that is opened. -/
lemma Inv.openTcp (h : Inv s g) (hm : s.shape.Matched) {dst : SocketAddr} {slot : Handle}
    (hfree : s.sockets slot = none) (hpc : s.pc.due = []) (hresp : resp ∉ g.used) :
    Inv (handleCmd sm s (.openTcp dst resp) slot none)
      { g with opens := (resp, s.nextId) :: g.opens, used := resp :: g.used } := by
  have hans : ∀ resp', (handleCmd sm s (.openTcp dst resp) slot none).answers resp'
      = s.answers resp' := fun resp' => answers_observe_ne (s := { s with nextPort := _ }) rfl
  have hframe : Frame (· ≠ s.nextId) s (handleCmd sm s (.openTcp dst resp) slot none) := by
    refine ⟨fun _ hne => Function.update_of_ne hne .., ?_, ?_⟩
    · intro id hne st hid
      refine Function.update_of_ne (slot_ne hm hid ?_) ..
      intro t ht
      rw [hfree] at ht
      cases ht
    · intro id _ _ hmem
      rw [hpc] at hmem
      cases hmem
  have hold : ∀ resp' id, (resp', id) ∈ g.opens → resp' ≠ resp ∧ id ≠ s.nextId := by
    intro resp' id ho
    obtain ⟨hu, hlt⟩ := h.opens resp' id ho
    exact ⟨fun hr => hresp (hr ▸ hu), Nat.ne_of_lt hlt⟩
  obtain ⟨hdone, hpay⟩ := h.unborn s.nextId (Nat.le_refl _)
  refine ⟨?_, ?_, ?_, ?_, ?_, fun resp' => hans resp' ▸ h.once resp', ?_⟩
  · intro resp' hr
    rw [List.mem_cons, not_or] at hr
    exact (hans resp').trans (h.unused resp' hr.2)
  · exact fun id hid => h.unborn id (Nat.le_of_succ_le hid)
  · intro resp' id ho
    rcases List.mem_cons.mp ho with heq | ho
    · cases heq
      exact ⟨List.mem_cons_self, Nat.lt_succ_self _⟩
    · obtain ⟨hu, hlt⟩ := h.opens resp' id ho
      exact ⟨List.mem_cons_of_mem _ hu, Nat.lt_succ_of_lt hlt⟩
  · intro resp₁ resp₂ id₁ id₂ h₁ h₂
    rcases List.mem_cons.mp h₁ with heq₁ | h₁ <;> rcases List.mem_cons.mp h₂ with heq₂ | h₂
    · cases heq₁
      cases heq₂
      exact iff_of_true rfl rfl
    · cases heq₁
      exact iff_of_false (hold _ _ h₂).1.symm (hold _ _ h₂).2.symm
    · cases heq₂
      exact iff_of_false (hold _ _ h₁).1 (hold _ _ h₁).2
    · exact h.inj resp₁ resp₂ id₁ id₂ h₁ h₂
  · intro id hid
    by_cases hne : id = s.nextId
    · exact ⟨resp, by rw [hne]; exact List.mem_cons_self⟩
    · obtain ⟨resp', ho⟩ := h.entry id (hframe.entry id hne ▸ hid)
      exact ⟨resp', List.mem_cons_of_mem _ ho⟩
  · intro resp' id ho
    rcases List.mem_cons.mp ho with heq | ho
    · cases heq
      refine .waiting _ (opening_eq (Function.update_self ..)
        (tcp_eq_some.mpr (Function.update_self ..))) ⟨rfl, rfl, rfl, rfl, rfl⟩
        ((hans resp).trans (h.unused resp hresp)) ?_ ?_ fun _ => hpay
      · intro hd
        exact absurd (hdone.symm.trans hd) (by decide)
      · intro hs
        cases hs
    · exact ((h.told resp' id ho).frame hframe (hold resp' id ho).2 (hans resp')).of_watch rfl rfl

lemma arrives_none {tcp : Handle → Arrival} (hid : s.tcpConns id = none) :
    arrives s tcp id = none := by
  rw [arrives, hid, Option.bind_none]

lemma arrives_eq {tcp : Handle → Arrival} (hid : s.tcpConns id = some st)
    (ht : s.tcp st.handle = some t) : arrives s tcp id = some (t, tcp st.handle) := by
  rw [arrives, hid, Option.bind_some, ht, Option.map_some]

lemma mem_tcpIds (hm : s.shape.Matched) (hid : s.tcpConns id = some st) : id ∈ s.tcpIds := by
  rw [NetStack.tcpIds, List.mem_filter, List.mem_range, hid]
  exact ⟨hm.below .tcp id _ (entries_tcp hid), rfl⟩

/-- A walk that ends in a synchronized state completes the handshake, if it was not complete. -/
lemma shakes_of_last {x : State} {ys : List State} (hx : x.synchronized = false)
    (h : (ys.getLastD x).synchronized = true) : ys.any State.synchronized = true := by
  cases ys with
  | nil =>
      rw [List.getLastD_nil, hx] at h
      cases h
  | cons y ys =>
      rw [List.getLastD_cons] at h
      exact List.any_eq_true.mpr ⟨_, List.getLastD_mem_cons .., h⟩

section Poll

variable {tcp : Handle → Arrival} {udp : Handle → List (SocketAddr × Bytes)}
  {emitted rx tx : List Bytes} {caught : Bool} {order : List ℕ} {trace : Trace}

/-- A poll that leaves a connection unreported: its socket may have come to the end of the
handshake, and then the pass will find it established. -/
lemma Waiting.poll (hw : Waiting s g resp id st t) (hm : s.shape.Matched) (hpc : s.pc = .poll)
    (hperm : order.Perm s.tcpIds) (hid : s.tcpConns id = some st) (ht : s.tcp st.handle = some t)
    (hlaw : Lawful (s, g) (.poll tcp udp emitted caught order, trace))
    (hseen : Seen (s, g) (.poll tcp udp emitted caught order, trace)) :
    Told { s with sockets := pollSockets s.sockets tcp udp, rx, tx, pc := .serviceTcp order }
      (g.see s (.poll tcp udp emitted caught order, trace)) resp id := by
  have hd : g.done id = false := by
    by_contra hd
    have hmem := (hw.due (Bool.not_eq_false _ ▸ hd)).1
    rw [hpc] at hmem
    cases hmem
  have harr : arrives s tcp id = some (t, tcp st.handle) := arrives_eq hid ht
  have hids := mem_tcpIds hm hid
  obtain ⟨-, hlast, hbytes⟩ := hlaw id hids _ harr
  have hdone : (g.see s (.poll tcp udp emitted caught order, trace)).done id
      = shakes trace id := by
    simp [Watch.see, harr, hd]
  have hpayload : (g.see s (.poll tcp udp emitted caught order, trace)).payload id
      = (tcp st.handle).bytes := by
    simp [Watch.see, harr, hw.payload hd]
  have hx : t.state.synchronized = false := by
    by_contra hx
    have hyes := hw.done (Bool.not_eq_false _ ▸ hx)
    rw [hd] at hyes
    cases hyes
  refine .waiting (st.opening (t.polled (tcp st.handle))) (opening_eq hid ?_)
    ⟨hw.waits.established, hw.waits.connectResp, hw.waits.fromStackRx, hw.waits.halfClosed,
      hw.waits.rxDropped⟩ hw.silent ?_ ?_ ?_
  · rw [tcp_eq_some] at ht ⊢
    show pollSockets s.sockets tcp udp st.handle = _
    rw [pollSockets, ht]
  · intro hs
    rw [hdone] at hs
    exact ⟨hperm.mem_iff.mpr hids, hseen id hids _ harr hd hs⟩
  · intro hs
    rw [hdone]
    refine shakes_of_last hx ?_
    rw [← hlast]
    exact hs
  · intro hs
    rw [hdone] at hs
    rw [hpayload]
    by_contra hne
    rcases hbytes hne with hb | hb
    · rw [hd] at hb
      cases hb
    · rw [hs] at hb
      cases hb

lemma Inv.poll (h : Inv s g) (hm : s.shape.Matched) (hpc : s.pc = .poll)
    (hperm : order.Perm s.tcpIds)
    (hlaw : Lawful (s, g) (.poll tcp udp emitted caught order, trace))
    (hseen : Seen (s, g) (.poll tcp udp emitted caught order, trace)) :
    Inv { s with sockets := pollSockets s.sockets tcp udp, rx, tx, pc := .serviceTcp order }
      (g.see s (.poll tcp udp emitted caught order, trace)) := by
  have hnone : ∀ id, s.tcpConns id = none →
      (g.see s (.poll tcp udp emitted caught order, trace)).done id = g.done id
        ∧ (g.see s (.poll tcp udp emitted caught order, trace)).payload id = g.payload id := by
    intro id hid
    simp [Watch.see, arrives_none hid]
  refine ⟨h.unused, ?_, h.opens, h.inj, h.entry, h.once, ?_⟩
  · intro id hid
    have hno : s.tcpConns id = none := by
      cases hc : s.tcpConns id with
      | none => rfl
      | some st => exact absurd (hm.below .tcp id _ (entries_tcp hc)) (Nat.not_lt.mpr hid)
    obtain ⟨hd, hp⟩ := hnone id hno
    exact ⟨hd.trans (h.unborn id hid).1, hp.trans (h.unborn id hid).2⟩
  · intro resp id ho
    cases h.told resp id ho with
    | refused ha hd hp hno =>
        exact .refused ha ((hnone id hno).1.trans hd) ((hnone id hno).2.trans hp) hno
    | reported ha hd he =>
        refine .reported ha ?_ he
        show (g.done id || _) = true
        rw [hd, Bool.true_or]
    | waiting o hop hw ha hdue hsync hpay =>
        obtain ⟨st, t, hid, ht, rfl⟩ := opening_eq_some hop
        have hwait : Waiting s g resp id st t := ⟨hw, ha, hdue, hsync, hpay⟩
        exact hwait.poll hm hpc hperm hid ht hlaw hseen

end Poll

/-- A step of the part of the loop that comes to no connection. -/
lemma Inv.idle (h : Inv s g) (hdue : s.pc.due = []) (hc : s'.tcpConns = s.tcpConns)
    (hs : ∀ id st, s.tcpConns id = some st → s'.sockets st.handle = s.sockets st.handle)
    (hn : s'.nextId = s.nextId) (hlog : s'.log = s.log) : Inv s' g := by
  refine h.quiet ⟨fun id _ => by rw [hc], fun id _ => hs id, ?_⟩ hn (answers_of_log hlog)
  intro id _ _ hmem
  rw [hdue] at hmem
  cases hmem

lemma Inv.moved (h : Inv s g) {pc : Pc} (hm : Moved s e pc) : Inv (s.goto pc) g := by
  cases hm with
  | skipTcp hpc hno =>
      refine h.quiet ⟨fun _ _ => rfl, fun _ _ _ _ => rfl, ?_⟩ rfl fun _ => rfl
      intro id' _ hid' hmem
      rw [hpc] at hmem
      refine (List.mem_cons.mp hmem).resolve_left ?_
      rintro rfl
      exact hid' hno
  | tcpDone hpc | skipUdp hpc | dropUdp hpc | udpDone hpc | flushed hpc | dataDone hpc
  | timer hpc | stop hpc =>
      exact h.idle (by rw [hpc]; rfl) rfl (fun _ _ _ => rfl) rfl rfl

/-- What the observer sees of a command. -/
lemma Inv.handleCmd (h : Inv s g) (hm : s.shape.Matched) {c : Cmd} {slot : Handle}
    {err : Option String} {trace : Trace} (hpc : s.pc.due = [])
    (hfree : slotFree s c slot err = true) (hlaw : Lawful (s, g) (.cmd c slot err, trace)) :
    Inv (handleCmd sm s c slot err) (g.see s (.cmd c slot err, trace)) := by
  have hdue : ∀ s₁ : NetStack, ∀ id, True → s.tcpConns id ≠ none → id ∈ s.pc.due →
      id ∈ s₁.pc.due := by
    intro s₁ id _ _ hmem
    rw [hpc] at hmem
    cases hmem
  cases c with
  | openTcp dst resp =>
      cases err with
      | some e =>
          exact h.answer ⟨fun _ _ => rfl, fun _ _ _ _ => rfl, hdue _⟩ (Nat.le_refl _) hlaw rfl
      | none => exact h.openTcp hm (Option.isNone_iff_eq_none.mp hfree) hpc hlaw
  | openUdp resp =>
      cases err with
      | some e =>
          exact h.answer ⟨fun _ _ => rfl, fun _ _ _ _ => rfl, hdue _⟩ (Nat.le_refl _) hlaw rfl
      | none =>
          have hempty : s.sockets slot = none := Option.isNone_iff_eq_none.mp hfree
          refine h.answer ⟨fun _ _ => rfl, ?_, hdue _⟩ (Nat.le_succ _) hlaw rfl
          intro id _ st hid
          refine Function.update_of_ne (slot_ne hm hid ?_) ..
          intro t ht
          rw [hempty] at ht
          cases ht
  | setAddrs v4 v6 =>
      show Inv _ g
      rw [Netstack.handleCmd]
      split
      · exact h.idle hpc rfl (fun _ _ _ => rfl) rfl rfl
      · exact h.idle hpc rfl (fun _ _ _ => rfl) rfl rfl

/-- **A step that meets the condition keeps the invariant.** -/
theorem Inv.step {trace : Trace} (h : Inv s g) (hm : s.shape.Matched) (hs : Serving s)
    (hlaw : Lawful (s, g) (e, trace)) (hseen : Seen (s, g) (e, trace))
    (hstep : step sm s e = some s') : Inv s' (g.see s (e, trace)) := by
  have hgoto : ∀ {pc₀ pc : Pc}, s.pc = pc₀ → pc₀.due = [] → Inv (s.goto pc) g := fun hpc hnil =>
    h.idle (by rw [hpc, hnil]) rfl (fun _ _ _ => rfl) rfl rfl
  cases stepped hstep with
  | lost hl => exact absurd hl (not_lost hm hs)
  | moved hmoved =>
      have := h.moved hmoved
      cases hmoved <;> exact this
  | poll hpc hperm => exact h.poll hm hpc hperm hlaw hseen
  | serviceTcp hpc hid ht => exact h.serviceConn _ hm hpc hid ht
  | deliverTcp hpc hid ht hd => exact h.deliverChunk hm hpc hid ht hd
  | finishTcp hpc hid ht => exact h.finishConn hm hpc hid ht
  | serviceUdp hpc _ hu =>
      refine h.idle (by rw [hpc]; rfl) rfl ?_ rfl rfl
      intro id st hid
      refine Function.update_of_ne (slot_ne hm hid ?_) ..
      intro t ht
      rw [udp_eq_some.mp hu] at ht
      cases ht
  | deliverUdp hpc => exact h.idle (by rw [hpc]; rfl) rfl (fun _ _ _ => rfl) rfl rfl
  | flush hpc => exact h.idle (by rw [hpc]; rfl) rfl (fun _ _ _ => rfl) rfl rfl
  | inbound hpc => exact h.idle (by rw [hpc]; rfl) rfl (fun _ _ _ => rfl) rfl rfl
  | @cmd c _ _ hpc hfree =>
      refine (hgoto hpc rfl).handleCmd (s := s.goto .poll) hm rfl hfree ?_
      cases c <;> exact hlaw
  | @data d room hpc =>
      have hd : Inv (s.goto .dataIn) g := by
        rcases hpc with hpc | hpc
        · exact hgoto hpc rfl
        · exact hgoto hpc rfl
      refine hd.handleData (s := s.goto .dataIn) hm d room ?_
      rintro id rfl
      exact hlaw
  | dropReceiver hid hrx =>
      refine h.setConn hm hid rfl rfl (.inr ?_)
      by_contra hest
      obtain ⟨t, ht⟩ := exists_socket hm hid
      obtain ⟨⟨resp, hw⟩, -⟩ := h.unreported hid ht (Bool.eq_false_iff.mpr hest)
      exact absurd (hrx.symm.trans hw.fromStackRx) (by decide)
  | appRecv hid => exact h.setConn hm hid rfl rfl (.inl fun _ => rfl)
  | dropUdpReceiver | appRecvUdp =>
      exact h.quiet ⟨fun _ _ => rfl, fun _ _ _ _ => rfl, fun _ _ _ hmem => hmem⟩ rfl fun _ => rfl

/-! ### Whole runs -/

lemma spawned_inv (iface : Interface) :
    Inv (Watch.spawned iface).1 (Watch.spawned iface).2 where
  unused _ _ := rfl
  unborn _ _ := ⟨rfl, rfl⟩
  opens _ _ ho := by cases ho
  inj _ _ _ _ ho := by cases ho
  entry _ hid := absurd rfl hid
  once _ := Nat.zero_le 1
  told _ _ ho := by cases ho

/-- **Every TCP open is answered once and correctly**, in every run whose polls leave the
sockets established whose handshake they complete. -/
theorem opens_answered {iface : Interface} {xs : List (Ev × Trace)} {w : NetStack × Watch}
    (h : Machine.run (watch sm) (Watch.spawned iface) xs = some w)
    (hlaw : Machine.Meets (watch sm) Lawful (Watch.spawned iface) xs)
    (hseen : Machine.Meets (watch sm) Seen (Watch.spawned iface) xs) :
    (∀ resp, (w.1.answers resp).length ≤ 1)
      ∧ ∀ resp id, (resp, id) ∈ w.2.opens → Answered w resp id := by
  have hinv : Inv w.1 w.2 ∧ w.1.shape.Matched ∧ Serving w.1 := by
    refine Machine.run_invariant_of_meets
      (I := fun w => Inv w.1 w.2 ∧ w.1.shape.Matched ∧ Serving w.1) ?_
      ⟨spawned_inv iface, spawned_matched iface, spawned_serving iface⟩ (hlaw.and hseen) h
    rintro ⟨s, g⟩ ⟨e, trace⟩ ⟨s', g'⟩ ⟨hi, hm, hs⟩ ⟨hl, hsn⟩ hstep
    obtain ⟨hstep, rfl⟩ := Machine.watched_eq_some.mp hstep
    exact ⟨hi.step hm hs hl hsn hstep, (step_shape hstep).matched hm, step_serving hs hstep⟩
  exact ⟨hinv.1.once, fun resp id ho => (hinv.1.told resp id ho).answered⟩

/-- Steps of which the observer has nothing to see. -/
def unwatched (es : List Ev) : List (Ev × Trace) := es.map fun e => (e, fun _ => [])

/-- A connection is opened, and a poll takes its socket through some states. -/
def openedThen (bytes : Bytes) (states : List State) : List (Ev × Trace) :=
  unwatched (quietTurn [] ++ [.cmd (.openTcp ⟨.v4 sampleV4, 80⟩ 0) 0 none])
    ++ [(samplePoll (states.getLastD .synSent) bytes [1], fun _ => states)]

/-- The handshake completes, and is reported. -/
theorem opens_answered_ok : ∃ w,
    Machine.run (watch stdSmoltcp) (Watch.spawned sampleIface)
      (openedThen [7] [.established] ++ unwatched [.serviceTcp 0]) = some w
      ∧ w.1.answers 0 = [.ok 1] ∧ Answered w 0 1 := by
  have hended : (Machine.run (watch stdSmoltcp) (Watch.spawned sampleIface)
      (openedThen [7] [.established] ++ unwatched [.serviceTcp 0])).map
        (fun w => (w.1.answers 0, w.2.opens)) = some ([.ok 1], [(0, 1)]) := by decide +kernel
  obtain ⟨w, hw, hended⟩ := Option.map_eq_some_iff.mp hended
  obtain ⟨ha, ho⟩ := Prod.mk.inj hended
  exact ⟨w, hw, ha, (opens_answered hw (by decide +kernel) (by decide +kernel)).2 0 1
    (by rw [ho]; exact List.mem_cons_self)⟩

/-- The SYN-ACK, a byte and the FIN arrive in one poll, the last acknowledgement in the next. -/
def handshakeAndFin : List (Ev × Trace) :=
  openedThen [7] [.established, .closeWait]
    ++ unwatched ([.serviceTcp 0, .deliverTcp, .finishTcp] ++ samplePass ++ [.timer])
    ++ [(samplePoll .closed [] [1], fun _ => [.closed])] ++ unwatched [.serviceTcp 0]

/-- **A connection that was established is refused**, and the byte it received is lost. -/
theorem handshake_and_fin : ∃ w,
    Machine.run (watch stdSmoltcp) (Watch.spawned sampleIface) handshakeAndFin = some w
      ∧ Machine.Meets (watch stdSmoltcp) Lawful (Watch.spawned sampleIface) handshakeAndFin
      ∧ (0, 1) ∈ w.2.opens ∧ w.2.done 1 = true ∧ w.2.payload 1 = [7]
      ∧ w.1.answers 0 = [.error "connection refused"] ∧ w.1.tcpConns 1 = none
      ∧ ¬ Answered w 0 1 := by
  have hended : (Machine.run (watch stdSmoltcp) (Watch.spawned sampleIface) handshakeAndFin).map
      (fun w => (w.1.answers 0, (w.1.tcpConns 1).isNone))
      = some ([.error "connection refused"], true) := by decide +kernel
  have hwatched : (Machine.run (watch stdSmoltcp) (Watch.spawned sampleIface) handshakeAndFin).map
      (fun w => (w.2.opens, w.2.done 1, w.2.payload 1)) = some ([(0, 1)], true, [7]) := by
    decide +kernel
  obtain ⟨w, hw, hended⟩ := Option.map_eq_some_iff.mp hended
  rw [hw, Option.map_some, Option.some.injEq] at hwatched
  simp only [Prod.mk.injEq] at hended hwatched
  obtain ⟨ha, hno⟩ := hended
  obtain ⟨ho, hd, hp⟩ := hwatched
  refine ⟨w, hw, by decide +kernel, by rw [ho]; exact List.mem_cons_self, hd, hp, ha,
    Option.isNone_iff_eq_none.mp hno, ?_⟩
  intro h
  have := (h.error "connection refused" (by rw [ha]; exact List.mem_cons_self)).2.1
  rw [hd] at this
  cases this

end Aether.Netstack
