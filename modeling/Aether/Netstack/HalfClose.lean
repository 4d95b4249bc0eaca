import Aether.Netstack.Queue

/-!
Who closes the sending side of a connection, and over what.

`service_tcp` closes a socket in three places. The half-close waits until the pending
buffer is empty; the close after a failed delivery finds the application gone; the
answer to a remote half-close tests neither. The log keeps the entry at each close, and
an observer what each application sent before a close of its own.

* `step_log`: what a step adds to the log.
* `closes_flushed_iff`: a run closes live connections over empty pending buffers only, and
  hands everything sent before the application's close to the socket, exactly when no
  service pass ends in `CloseWait` with data pending, and no application goes on sending
  on a connection that the stack has closed.
-/

namespace Aether.Netstack

variable {sm : Smoltcp} {iface : Interface} {es : List Ev} {s s' : NetStack} {e : Ev} {id : ℕ}
  {st : TcpState} {t : TcpSocket}

/-- An established connection with unsent application data and a live receiver. -/
def Unsent (st : TcpState) : Prop :=
  st.established = true ∧ st.rxDropped = false ∧ st.pending ≠ []

/-- The event ends a service pass by closing the connection's socket in `CloseWait`. -/
def AnswersFin (s : NetStack) (e : Ev) (id : ℕ) (st : TcpState) : Prop :=
  e = .finishTcp ∧ (∃ rest, s.pc = .deliverTcp id [] rest) ∧ s.tcpConns id = some st
    ∧ ∃ t, s.tcp st.handle = some t ∧ t.state = .closeWait

/-- What a step may say of the end of a connection: it closes an entry that stays, over unsent data
only where it answers a FIN; and it removes an entry with its socket. -/
def Allowed (s s' : NetStack) (e : Ev) : Obs → Prop
  | .closing id st => (Unsent st → AnswersFin s e id st) ∧ s'.tcpConns id = some st
  | .removed id st t => s'.tcpConns id = none ∧ ∃ st₀, s.tcpConns id = some st₀
      ∧ s.tcp st₀.handle = some t ∧ st.rxDropped = st₀.rxDropped
  | _ => True

/-- A log that grew by observations with a property. -/
inductive Grows (P : Obs → Prop) (log : List Obs) : List Obs → Prop where
  | refl : Grows P log log
  | cons {o : Obs} {log' : List Obs} : P o → Grows P log log' → Grows P log (o :: log')

namespace Grows

variable {P : Obs → Prop} {log log' : List Obs} {o : Obs}

lemma of_eq (h : log' = log) : Grows P log log' := h ▸ .refl

lemma mem (h : Grows P log log') (ho : o ∈ log) : o ∈ log' := by
  induction h with
  | refl => exact ho
  | cons _ _ ih => exact List.mem_cons_of_mem _ ih

lemma mem_or (h : Grows P log log') (ho : o ∈ log') : o ∈ log ∨ P o := by
  induction h with
  | refl => exact .inl ho
  | cons hp _ ih =>
      rcases List.mem_cons.mp ho with rfl | ho
      · exact .inr hp
      · exact ih ho

end Grows

lemma establish_grows {P : Obs → Prop} (hP : ∀ resp answer, P (.answered resp answer))
    (s : NetStack) (id : ℕ) (st : TcpState) (state : State) :
    Grows P s.log (establish s id st state).log := by
  rw [establish]
  split
  · exact .cons (hP ..) .refl
  · exact .refl

lemma serviceConn_grows (rest : List ℕ) (accept : ℕ) (hid : s.tcpConns id = some st)
    (ht : s.tcp st.handle = some t) :
    Grows (Allowed s (serviceConn sm s id rest st t accept) e) s.log
      (serviceConn sm s id rest st t accept).log := by
  generalize hs' : serviceConn sm s id rest st t accept = s'
  have hest : Grows (Allowed s s' e) s.log (establish s id st t.state).log :=
    establish_grows (fun _ _ => trivial) ..
  rw [serviceConn] at hs'
  dsimp only at hs'
  split at hs'
  · subst hs'
    refine .cons ⟨Function.update_self .., st, hid, ht, seen_rxDropped ..⟩ ?_
    split
    · exact .cons trivial hest
    · exact hest
  · have hput : s'.tcpConns id = some (sendPending (st.seen t.state) t accept).1 := by
      rw [← hs']
      exact Function.update_self ..
    have hlog : s'.log = (if closesHalf (sendPending (st.seen t.state) t accept).1 then
        (establish s id st t.state).observe (.closing id (sendPending (st.seen t.state) t accept).1)
      else establish s id st t.state).log := by
      rw [← hs']
      rfl
    rw [hlog]
    split
    · rename_i hhalf
      refine .cons ⟨fun hu => absurd ?_ hu.2.2, hput⟩ hest
      rw [closesHalf, Bool.and_eq_true] at hhalf
      exact List.isEmpty_iff.mp hhalf.2
    · exact hest

lemma deliverChunk_grows {chunk : Bytes} {chunks : List Bytes} {rest : List ℕ}
    (h : deliverChunk sm s id chunk chunks rest st t = some s') :
    Grows (Allowed s s' e) s.log s'.log := by
  rw [deliverChunk] at h
  split at h
  · rename_i hdrop
    cases h
    refine .cons ⟨fun hu => ?_, Function.update_self ..⟩ .refl
    rw [hu.2.1] at hdrop
    cases hdrop
  · obtain ⟨toApp, _, rfl⟩ := Option.map_eq_some_iff.mp h
    exact .cons trivial .refl

lemma finishConn_grows {rest : List ℕ} (hpc : s.pc = .deliverTcp id [] rest)
    (hid : s.tcpConns id = some st) (ht : s.tcp st.handle = some t) :
    Grows (Allowed s (finishConn sm s id rest st t) .finishTcp) s.log
      (finishConn sm s id rest st t).log := by
  generalize hs' : finishConn sm s id rest st t = s'
  rw [finishConn] at hs'
  split at hs'
  · rename_i hcw
    subst hs'
    exact .cons ⟨fun _ => ⟨rfl, ⟨rest, hpc⟩, hid, t, ht, hcw⟩, Function.update_self ..⟩ .refl
  · split at hs'
    · subst hs'
      exact .cons ⟨Function.update_self .., st, hid, ht, rfl⟩ .refl
    · subst hs'
      exact .refl

lemma handleCmd_grows {P : Obs → Prop} (hP : ∀ resp answer, P (.answered resp answer))
    (hopened : ∀ id, P (.opened id)) (s : NetStack) (c : Cmd) (h : Handle) (err : Option String) :
    Grows P s.log (handleCmd sm s c h err).log := by
  cases c with
  | openTcp =>
      cases err
      · exact .cons (hopened _) .refl
      · exact .cons (hP ..) .refl
  | openUdp => cases err <;> exact .cons (hP ..) .refl
  | setAddrs v4 v6 =>
      rw [handleCmd]
      split <;> exact .refl

lemma handleData_grows {P : Obs → Prop} (hP : ∀ id data, P (.handled id data)) (s : NetStack)
    (d : DataIn) (room : Bool) : Grows P s.log (handleData s d room).log := by
  cases d with
  | tcp id data =>
      rw [handleData]
      refine .cons (hP ..) ?_
      split <;> exact .refl
  | tcpClose id | udp id | udpClose id =>
      rw [handleData]
      repeat' split
      all_goals exact .refl

/-- **What a step adds to the log**: a close over unsent data only where it answers a
FIN. -/
theorem step_log (h : step sm s e = some s') : Grows (Allowed s s' e) s.log s'.log := by
  cases stepped h with
  | serviceTcp _ hid ht => exact serviceConn_grows _ _ hid ht
  | deliverTcp _ _ _ hd => exact deliverChunk_grows hd
  | finishTcp hpc hid ht => exact finishConn_grows hpc hid ht
  | cmd => exact handleCmd_grows (fun _ _ => trivial) (fun _ => trivial) (s.goto .poll) ..
  | data => exact handleData_grows (fun _ _ => trivial) (s.goto .dataIn) ..
  | _ => exact .refl

/-! ### Runs that close over nothing -/

/-- What the application has sent on a connection: the bytes of the messages handled before its
own close, and whether it has closed; and whether the connection was reset. -/
structure Sending where
  due : Bytes
  closed : Bool
  reset : Bool

/-- The connection that the event opens. -/
def Ev.opensTcp (s : NetStack) : Ev → Option ℕ
  | .cmd (.openTcp _ _) _ none => some s.nextId
  | _ => none

/-- Whether the event is a poll that leaves the socket of the connection `Closed`. -/
def Ev.leavesClosed (s : NetStack) (id : ℕ) : Ev → Bool
  | .poll tcp _ _ _ _ => (s.tcpConns id).any fun st => (tcp st.handle).state = .closed
  | _ => false

/-- The observer sees every message, and is told which of the sockets that a poll leaves `Closed`
were reset. -/
def Sending.see (s : NetStack) (g : ℕ → Sending) (x : Ev × (ℕ → Bool)) (id : ℕ) : Sending :=
  if x.1.opensTcp s = some id then ⟨[], false, false⟩
  else
    { due := if (g id).closed then (g id).due else (g id).due ++ x.1.bytesFor id
      closed := (g id).closed || x.1.closes = some id
      reset := (g id).reset || x.2 id && x.1.leavesClosed s id }

/-- The stack beside that observer. -/
def followed (sm : Smoltcp) :
    NetStack × (ℕ → Sending) → Ev × (ℕ → Bool) → Option (NetStack × (ℕ → Sending)) :=
  Machine.watched (step sm) Sending.see

/-- A fresh stack, on which nothing was sent. -/
def followStart (iface : Interface) : NetStack × (ℕ → Sending) := (.spawned iface, fun _ => ⟨[], false, false⟩)

/-- The stack has closed an established connection whose receiver was alive. -/
def ClosedLive (s : NetStack) (id : ℕ) (st : TcpState) : Prop :=
  .closing id st ∈ s.log ∧ st.established = true ∧ st.rxDropped = false

/-- The socket of a connection whose receiver is alive, or was when the connection was removed. -/
def LiveSocket (s : NetStack) (id : ℕ) (t : TcpSocket) : Prop :=
  (∃ st, s.tcpConns id = some st ∧ s.tcp st.handle = some t ∧ st.rxDropped = false)
    ∨ ∃ st, .removed id st t ∈ s.log ∧ st.rxDropped = false

/-- Live connections were closed over empty pending buffers only, and their sockets have been
handed everything that was sent before the application's close, unless they were reset. -/
def Complete (w : NetStack × (ℕ → Sending)) : Prop :=
  ∀ id st, ClosedLive w.1 id st → st.pending = []
    ∧ ((w.2 id).reset = false → ∀ t, LiveSocket w.1 id t → (w.2 id).due <+: t.sent)

/-- The event does not close a live connection's socket over unsent data. -/
def FinFlushed (s : NetStack) (e : Ev) : Prop :=
  ∀ id st, AnswersFin s e id st → ¬ Unsent st

/-- Nor does it bring data that an application sends before its own close on a connection that the
stack has closed. -/
def Flushed (w : NetStack × (ℕ → Sending)) (x : Ev × (ℕ → Bool)) : Prop :=
  FinFlushed w.1 x.1 ∧ ∀ id data room, x.1 = .data (.tcp id data) room → data ≠ [] →
    (w.2 id).closed = false → (w.2 id).reset = false →
    ∀ st t, ClosedLive w.1 id st → ¬ LiveSocket w.1 id t

/-- Answering a FIN is logged as a close. -/
lemma closing_of_answersFin (ha : AnswersFin s e id st) (h : step sm s e = some s') :
    .closing id st ∈ s'.log := by
  obtain ⟨rfl, ⟨rest, hpc⟩, hid, t, ht, hcw⟩ := ha
  simp only [step, hpc, hid, ht, finishConn, hcw, if_true, Option.some.injEq] at h
  subst h
  exact List.mem_cons_self ..

/-! ### What a step does to the bytes -/

variable {g : ℕ → Sending} {w w' : NetStack × (ℕ → Sending)} {x : Ev × (ℕ → Bool)}

lemma handleCmd_handled (s : NetStack) (c : Cmd) (h : Handle) (err : Option String) (id : ℕ) :
    (handleCmd sm s c h err).handled id
      = if (Ev.cmd c h err).opensTcp s = some id then [] else s.handled id := by
  cases c with
  | openTcp dst resp =>
      cases err with
      | none =>
          refine (handled_observe _).trans ?_
          simp [Ev.opensTcp, NetStack.handled]
      | some e =>
          refine (handled_observe _).trans ?_
          simp [Ev.opensTcp, NetStack.handled]
  | openUdp resp =>
      cases err <;>
        · refine (handled_observe _).trans ?_
          simp [Ev.opensTcp, NetStack.handled]
  | setAddrs v4 v6 =>
      rw [handleCmd]
      split <;> rfl

/-- **What is handled**: the data of a message, and nothing for a new connection. -/
lemma step_handled (h : step sm s e = some s') (id : ℕ) :
    s'.handled id
      = if e.opensTcp s = some id then [] else s.handled id ++ e.bytesFor id := by
  have hflow : e.opensTcp s = none →
      (∃ came, Flow id (e.bytesFor id) came (e.taken s id) s s') →
      s'.handled id
        = if e.opensTcp s = some id then [] else s.handled id ++ e.bytesFor id := by
    rintro hno ⟨came, hf⟩
    rw [hno, if_neg (by simp), hf.handled]
  cases e with
  | cmd c slot err =>
      simp only [step, Option.ite_none_right_eq_some, Option.some.injEq] at h
      obtain ⟨-, rfl⟩ := h
      refine (handleCmd_handled (s.goto .poll) c slot err id).trans ?_
      have hnone : (Ev.cmd c slot err).bytesFor id = [] := rfl
      rw [hnone, List.append_nil]
      rfl
  | _ =>
      rcases step_flow_or h with hf | ⟨c, slot, err, heq, -⟩
      · exact hflow rfl hf
      · cases heq

/-- What is handed to a socket stays there. -/
lemma ConnStep.sent_prefix {v v' : View} (h : ConnStep sm v v') :
    v.socket.sent <+: v'.socket.sent := by
  cases h with
  | serviced accept =>
      refine ⟨v.entry.pending.take accept, ?_⟩
      rw [View.serviced, View.flushed]
      dsimp only
      rw [sendPending, seen_pending, TcpSocket.sendSlice]
      split <;> rfl
  | finished =>
      rw [View.finished]
      dsimp only
      split <;> exact List.prefix_rfl
  | _ => exact List.prefix_rfl

/-- A socket that is live after a step was live before, but for a new connection. -/
lemma live_before_step (hm : s.shape.Matched) (hlt : id < s.nextId) (h : step sm s e = some s')
    (hlive : LiveSocket s' id t) : ∃ t₀, LiveSocket s id t₀ ∧ t₀.sent <+: t.sent := by
  rcases hlive with ⟨st', hid', ht', hdrop'⟩ | ⟨st', hmem, hdrop'⟩
  · obtain ⟨st, hid⟩ := (tcpConns_before (step_shape h) hid').resolve_left (Nat.not_le.mpr hlt)
    obtain ⟨t₀, ht₀⟩ := exists_socket hm hid
    refine ⟨t₀, .inl ⟨st, hid, ht₀, step_live hm h hid hid' hdrop'⟩, ?_⟩
    have hview := step_view hm h id
    rw [view_eq hid ht₀, view_eq hid' ht'] at hview
    cases hview with
    | kept hc => exact hc.sent_prefix
  · rcases (step_log h).mem_or hmem with hold | ⟨-, st, hid, ht, heq⟩
    · exact ⟨t, .inr ⟨st', hold, hdrop'⟩, List.prefix_rfl⟩
    · exact ⟨t, .inl ⟨st, hid, ht, heq ▸ hdrop'⟩, List.prefix_rfl⟩

/-- A message leaves the sockets alone. -/
lemma live_after_data {id' : ℕ} {data : Bytes} {room : Bool}
    (h : step sm s (.data (.tcp id' data) room) = some s') (hlive : LiveSocket s id t) :
    LiveSocket s' id t := by
  have hlog := step_log h
  simp only [step, Option.ite_none_right_eq_some, Option.some.injEq] at h
  obtain ⟨-, rfl⟩ := h
  rcases hlive with ⟨st, hid, ht, hdrop⟩ | ⟨st, hmem, hdrop⟩
  · refine .inl ?_
    by_cases hne : id = id'
    · subst hne
      refine ⟨{ st with pending := st.pending ++ data }, ?_, ?_, hdrop⟩
      · rw [handleData, NetStack.goto, hid]
        exact Function.update_self ..
      · rw [handleData, NetStack.goto, hid]
        exact ht
    · refine ⟨st, ?_, ?_, hdrop⟩
      · rw [handleData, NetStack.observe]
        dsimp only
        split
        · exact (Function.update_of_ne hne ..).trans hid
        · exact hid
      · rw [handleData, NetStack.observe]
        split <;> exact ht
  · exact .inr ⟨st, hlog.mem hmem, hdrop⟩

/-! ### What the observer knows -/

/-- What every step preserves. -/
structure Followed (sm : Smoltcp) (iface : Interface) (w : NetStack × (ℕ → Sending)) : Prop where
  ran : ∃ es, Machine.run (step sm) (.spawned iface) es = some w.1
  due : ∀ id, (w.2 id).due <+: w.1.handled id
    ∧ ((w.2 id).closed = false → (w.2 id).due = w.1.handled id)
  closing : ∀ id st, .closing id st ∈ w.1.log → id < w.1.nextId
  removed : ∀ id st t, .removed id st t ∈ w.1.log →
    w.1.tcpConns id = none ∧ id < w.1.nextId ∧ t.sent <+: w.1.handled id

variable {iface : Interface}

lemma Followed.matched (h : Followed sm iface w) : w.1.shape.Matched := by
  obtain ⟨es, hes⟩ := h.ran
  exact tables_matched hes

lemma opensTcp_eq (hopens : e.opensTcp s = some id) : s.nextId = id := by
  cases e with
  | cmd c slot err =>
      cases c with
      | openTcp dst resp =>
          cases err with
          | none => exact Option.some.inj hopens
          | some err => cases hopens
      | openUdp | setAddrs => cases hopens
  | _ => cases hopens

/-- Only a message brings bytes. -/
lemma bytesFor_ne_nil (h : e.bytesFor id ≠ []) :
    ∃ data room, e = .data (.tcp id data) room ∧ data ≠ [] := by
  cases e with
  | data d room =>
      cases d with
      | tcp id' data =>
          by_cases hid : id' = id
          · subst hid
            rw [Ev.bytesFor, DataIn.bytesFor, if_pos rfl] at h
            exact ⟨data, room, rfl, h⟩
          · exact absurd (if_neg hid) h
      | _ => exact absurd rfl h
  | _ => exact absurd rfl h

lemma step_followed (hw : Followed sm iface w) (h : followed sm w x = some w') :
    Followed sm iface w' := by
  obtain ⟨hs, hsee⟩ := Machine.watched_eq_some.mp h
  have hm := hw.matched
  have hshape := step_shape hs
  -- what is handed over stays a part of what is handled
  have hgrown : ∀ id, id < w.1.nextId → w.1.handled id <+: w'.1.handled id := by
    intro id hlt
    rw [step_handled hs id, if_neg fun ho => Nat.ne_of_gt hlt (opensTcp_eq ho)]
    exact List.prefix_append ..
  have hgone : ∀ id, id < w.1.nextId → w.1.tcpConns id = none → w'.1.tcpConns id = none := by
    intro id hlt hnone
    by_contra hne
    obtain ⟨st, hid⟩ := Option.ne_none_iff_exists'.mp hne
    rcases tcpConns_before hshape hid with hle | ⟨st₀, hid₀⟩
    · exact absurd hlt (Nat.not_lt.mpr hle)
    · cases hnone.symm.trans hid₀
  refine ⟨?_, fun id => ?_, fun id st hmem => ?_, fun id st t hmem => ?_⟩
  · obtain ⟨es, hes⟩ := hw.ran
    exact ⟨es ++ [x.1], Machine.run_append_eq_some.mpr ⟨_, hes, Machine.run_cons_eq_some.mpr
      ⟨_, hs, rfl⟩⟩⟩
  · obtain ⟨hdue, hopen⟩ := hw.due id
    rw [hsee, Sending.see, step_handled hs id]
    split
    · exact ⟨List.prefix_rfl, fun _ => rfl⟩
    · dsimp only
      cases hc : (w.2 id).closed with
      | true => exact ⟨hdue.trans (List.prefix_append ..), fun hno => by simp at hno⟩
      | false =>
          rw [hopen hc]
          exact ⟨List.prefix_rfl, fun _ => rfl⟩
  · rcases (step_log hs).mem_or hmem with hold | ⟨-, hid⟩
    · exact Nat.lt_of_lt_of_le (hw.closing id st hold) hshape.nextId_le
    · exact lt_nextId (hshape.matched hm) hid
  · rcases (step_log hs).mem_or hmem with hold | ⟨hnone, st₀, hid, ht, -⟩
    · obtain ⟨hnone, hlt, hsent⟩ := hw.removed id st t hold
      exact ⟨hgone id hlt hnone, Nat.lt_of_lt_of_le hlt hshape.nextId_le,
        hsent.trans (hgrown id hlt)⟩
    · have hlt := lt_nextId hm hid
      obtain ⟨es, hes⟩ := hw.ran
      have hcons := run_conserved hes hid ht
      exact ⟨hnone, Nat.lt_of_lt_of_le hlt hshape.nextId_le,
        (hcons ▸ List.prefix_append ..).trans (hgrown id hlt)⟩

lemma followStart_followed (sm : Smoltcp) (iface : Interface) : Followed sm iface (followStart iface) where
  ran := ⟨[], rfl⟩
  due _ := ⟨List.prefix_rfl, fun _ => rfl⟩
  closing _ _ hmem := by cases hmem
  removed _ _ _ hmem := by cases hmem

/-- A live socket has been handed a part of what was handled. -/
lemma Followed.sent_prefix (h : Followed sm iface w) (hlive : LiveSocket w.1 id t) :
    t.sent <+: w.1.handled id := by
  rcases hlive with ⟨st, hid, ht, -⟩ | ⟨st, hmem, -⟩
  · obtain ⟨es, hes⟩ := h.ran
    exact run_conserved hes hid ht ▸ List.prefix_append ..
  · exact (h.removed id st t hmem).2.2

/-! ### Runs that close over nothing -/

/-- An event that meets the condition leaves the live connections complete. -/
lemma complete_step (hw : Followed sm iface w) (hc : Complete w) (hok : Flushed w x)
    (h : followed sm w x = some w') : Complete w' := by
  obtain ⟨hs, hsee⟩ := Machine.watched_eq_some.mp h
  have hw' := step_followed hw h
  rintro id st ⟨hmem, hest, hdrop⟩
  rcases (step_log hs).mem_or hmem with hold | ⟨hfin, hid⟩
  · have hlt := hw.closing id st hold
    have hopens : x.1.opensTcp w.1 ≠ some id := fun ho => Nat.ne_of_gt hlt (opensTcp_eq ho)
    obtain ⟨hpending, hsent⟩ := hc id st ⟨hold, hest, hdrop⟩
    refine ⟨hpending, fun hreset t hlive => ?_⟩
    rw [hsee, Sending.see, if_neg hopens] at hreset ⊢
    have hreset₀ := (Bool.or_eq_false_iff.mp hreset).1
    obtain ⟨t₀, hlive₀, hgrown⟩ := live_before_step hw.matched hlt hs hlive
    refine List.IsPrefix.trans ?_ ((hsent hreset₀ t₀ hlive₀).trans hgrown)
    dsimp only
    split
    · exact List.prefix_rfl
    · rename_i hopen
      -- the condition: there is no such message with data
      have hnil : x.1.bytesFor id = [] := by
        by_contra hne
        obtain ⟨data, room, hx, hdata⟩ := bytesFor_ne_nil hne
        exact hok.2 id data room hx hdata (Bool.not_eq_true _ ▸ hopen) hreset₀ st t₀
          ⟨hold, hest, hdrop⟩ hlive₀
      simp only [hnil, List.append_nil, List.prefix_rfl]
  · have hpending : st.pending = [] := by
      by_contra hp
      exact hok.1 id st (hfin ⟨hest, hdrop, hp⟩) ⟨hest, hdrop, hp⟩
    refine ⟨hpending, fun _ t hlive => ?_⟩
    rcases hlive with ⟨st', hid', ht', -⟩ | ⟨st', hmem', -⟩
    · obtain rfl := Option.some.inj (hid.symm.trans hid')
      obtain ⟨es, hes⟩ := hw'.ran
      have hcons := run_conserved hes hid ht'
      rw [hpending, List.append_nil] at hcons
      rw [hcons]
      exact (hw'.due id).1
    · cases (hw'.removed id st' t hmem').1.symm.trans hid

/-- And one that breaks it does not. -/
lemma flushed_of_complete (hw : Followed sm iface w) (h : followed sm w x = some w')
    (hc : Complete w') : Flushed w x := by
  obtain ⟨hs, hsee⟩ := Machine.watched_eq_some.mp h
  refine ⟨fun id st ha hu => ?_, ?_⟩
  · exact hu.2.2 (hc id st ⟨closing_of_answersFin ha hs, hu.1, hu.2.1⟩).1
  · rintro id data room hx hdata hopen hreset st t ⟨hmem, hest, hdrop⟩ hlive
    obtain ⟨e, resets⟩ := x
    obtain rfl : e = _ := hx
    obtain ⟨-, hsent⟩ := hc id st ⟨(step_log hs).mem hmem, hest, hdrop⟩
    have hbefore := (hw.due id).2 hopen
    have hdue : w'.2 id = { w.2 id with due := (w.2 id).due ++ data } := by
      rw [hsee, Sending.see, if_neg (by simp [Ev.opensTcp])]
      simp [Ev.bytesFor, DataIn.bytesFor, Ev.closes, DataIn.closes, Ev.leavesClosed, hopen, hreset]
    have hreset' : (w'.2 id).reset = false := by rw [hdue]; exact hreset
    have hall := (hsent hreset' t (live_after_data hs hlive)).length_le
    have hpart := (hw.sent_prefix hlive).length_le
    rw [hdue, List.length_append, hbefore] at hall
    exact hdata (List.length_eq_zero_iff.mp (by omega))

/-- **When nothing is closed over unsent data**: a run closes established connections with a live
receiver only over an empty pending buffer, and their sockets are handed every byte that the
application sends before its own close, unless they are reset, exactly when none of its service
passes ends in `CloseWait` with such a connection's data pending, and none of its messages brings
data of an application that has not closed for a connection that the stack has closed. -/
theorem closes_flushed_iff {es : List (Ev × (ℕ → Bool))}
    (h : Machine.run (followed sm) (followStart iface) es = some w) :
    Machine.Meets (followed sm) Flushed (followStart iface) es
      ↔ Machine.Always (followed sm) Complete (followStart iface) es := by
  refine Machine.meets_iff_always (I := Followed sm iface)
    (fun w x w' hw hs => step_followed hw hs) ?_ (followStart_followed sm iface) ?_ h
  · intro w x w' hw hc hs
    exact ⟨fun hok => complete_step hw hc hok hs, fun hc' => flushed_of_complete hw hs hc'⟩
  · rintro id st ⟨hmem, -⟩
    cases hmem

/-- Events of which no poll resets a socket. -/
def unreset (es : List Ev) : List (Ev × (ℕ → Bool)) := es.map fun e => (e, fun _ => false)

/-- A connection is established; the application sends three bytes, all of which the socket takes,
and closes; then the remote does. -/
def sampleClose : List Ev :=
  [samplePoll .closed [] []] ++ samplePass
    ++ [.cmd (.openTcp ⟨.v4 sampleV4, 80⟩ 0) 0 none, samplePoll .established [] [1],
      .serviceTcp 0, .finishTcp] ++ samplePass
    ++ [.data (.tcp 1 [10, 20, 30]) true, .data (.tcpClose 1) true, .dataDone,
      samplePoll .closeWait [] [1], .serviceTcp 3, .finishTcp]

/-- The rule at a run in which the application closes first. -/
theorem closes_flushed_sample : ∃ w,
    Machine.run (followed stdSmoltcp) (followStart sampleIface) (unreset sampleClose) = some w
      ∧ (w.1.tcp 0).map TcpSocket.state = some .lastAck
      ∧ (Machine.Meets (followed stdSmoltcp) Flushed (followStart sampleIface) (unreset sampleClose)
        ↔ Machine.Always (followed stdSmoltcp) Complete (followStart sampleIface)
          (unreset sampleClose)) := by
  obtain ⟨w, hw, hstate⟩ : ∃ w,
      Machine.run (followed stdSmoltcp) (followStart sampleIface) (unreset sampleClose) = some w
        ∧ (w.1.tcp 0).map TcpSocket.state = some .lastAck := ⟨_, rfl, rfl⟩
  exact ⟨w, hw, hstate, closes_flushed_iff hw⟩

/-- The remote half-closes a connection on which nothing is pending; then the application sends. -/
def sampleLate : List Ev :=
  [samplePoll .closed [] []] ++ samplePass
    ++ [.cmd (.openTcp ⟨.v4 sampleV4, 80⟩ 0) 0 none, samplePoll .established [] [1],
      .serviceTcp 0, .finishTcp] ++ samplePass
    ++ [.timer, samplePoll .closeWait [] [1], .serviceTcp 0, .finishTcp] ++ samplePass
    ++ [.data (.tcp 1 [30]) true]

/-- **A FIN cuts off unsent data**: with one byte pending, the answer to the remote's half-close
closes the socket of a live connection; and where none is pending, a byte that the application
sends afterwards is never handed to it. -/
theorem fin_closes_over_pending :
    (∃ s, Machine.run (step stdSmoltcp) (.spawned sampleIface) (sampleRun ++ [.finishTcp]) = some s
      ∧ (s.tcp 0).map TcpSocket.state = some .lastAck
      ∧ ∃ id st, .closing id st ∈ s.log ∧ st.established = true ∧ st.rxDropped = false
        ∧ st.pending = [30])
    ∧ ∃ w, Machine.run (followed stdSmoltcp) (followStart sampleIface) (unreset sampleLate) = some w
      ∧ w.2 1 = ⟨[30], false, false⟩
      ∧ ∃ st t, w.1.tcpConns 1 = some st ∧ st.established = true ∧ st.rxDropped = false
        ∧ w.1.tcp st.handle = some t ∧ t.state = .lastAck ∧ t.sent = [] ∧ ¬ Complete w := by
  refine ⟨⟨_, rfl, rfl, 1, _, List.mem_cons_self .., rfl, rfl, rfl⟩, _, rfl, rfl, _, _, rfl, rfl,
    rfl, rfl, rfl, rfl, ?_⟩
  intro hc
  obtain ⟨-, hsent⟩ := hc 1 _ ⟨List.mem_cons_of_mem _ (List.mem_cons_self ..), rfl, rfl⟩
  have hall := hsent rfl _ (.inl ⟨_, rfl, rfl, rfl⟩)
  exact absurd hall (by decide)

end Aether.Netstack
