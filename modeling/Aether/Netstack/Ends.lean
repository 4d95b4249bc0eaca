import Aether.Netstack.Conn

/-!
The application's end of the entries.

An entry shows whether the application has its receiver, whether it has dropped it, and whether
it has half-closed. What a pass does to these only goes forward, and the answers of the stack
name entries whose receiver has been handed over.

* `step_ends`: what a step other than the drop of a receiver does to the entries.
* `Drops`: what the application's own steps do to them.
* `step_logged`: what a step adds to the log, and whom it answers.
-/

namespace Aether.Netstack

/-- What a TCP entry shows of the application's end. -/
structure TcpEnds where
  rxDropped : Bool
  fromStackRx : Bool
  halfClosed : Bool

def TcpState.ends (st : TcpState) : TcpEnds := ⟨st.rxDropped, st.fromStackRx, st.halfClosed⟩

/-- A receiver that is handed over stays so; the half-close is the one that is handled. -/
structure TcpEnds.Later (closed : Bool) (x x' : TcpEnds) : Prop where
  rxDropped : x'.rxDropped = x.rxDropped
  fromStackRx : x.fromStackRx = false → x'.fromStackRx = false
  halfClosed : x'.halfClosed = (x.halfClosed || closed)

lemma TcpEnds.Later.refl (x : TcpEnds) : x.Later false x :=
  ⟨rfl, fun h => h, (Bool.or_false _).symm⟩

namespace NetStack

def tcpEnds (s : NetStack) (id : ℕ) : Option TcpEnds := (s.tcpConns id).map TcpState.ends

/-- Whether the receiver of a UDP entry is dropped. -/
def udpEnds (s : NetStack) (id : ℕ) : Option Bool := (s.udpConns id).map UdpState.rxDropped

end NetStack

variable {sm : Smoltcp} {s s' : NetStack} {e : Ev} {id : ℕ} {st st' : TcpState} {t : TcpSocket}

/-- Every entry was there before with an earlier end, or is new; `k` is half-closed. -/
structure EndsStep (k : Option ℕ) (s s' : NetStack) : Prop where
  next : s.nextId ≤ s'.nextId
  tcp : ∀ id x', s'.tcpEnds id = some x' → (s.nextId ≤ id ∧ x' = ⟨false, true, false⟩)
    ∨ ∃ x, s.tcpEnds id = some x ∧ x.Later (k == some id) x'
  udp : ∀ id b, s'.udpEnds id = some b → (s.nextId ≤ id ∧ b = false) ∨ s.udpEnds id = some b

lemma EndsStep.of_eq (hn : s'.nextId = s.nextId) (ht : s'.tcpConns = s.tcpConns)
    (hu : s'.udpConns = s.udpConns) : EndsStep none s s' where
  next := Nat.le_of_eq hn.symm
  tcp id x' hx := by
    rw [NetStack.tcpEnds, ht] at hx
    exact .inr ⟨x', hx, .refl x'⟩
  udp id b hb := by
    rw [NetStack.udpEnds, hu] at hb
    exact .inr hb

lemma EndsStep.setConn (ht : s'.tcpConns = Function.update s.tcpConns id (some st'))
    (hid : s.tcpConns id = some st) (hl : st.ends.Later false st'.ends)
    (hn : s'.nextId = s.nextId) (hu : s'.udpConns = s.udpConns) : EndsStep none s s' where
  next := Nat.le_of_eq hn.symm
  tcp id' x' hx := by
    rw [NetStack.tcpEnds, ht, Function.update_apply] at hx
    split at hx
    · rename_i heq
      cases hx
      refine .inr ⟨st.ends, ?_, hl⟩
      rw [heq, NetStack.tcpEnds, hid]
      rfl
    · exact .inr ⟨x', hx, .refl x'⟩
  udp id' b hb := by
    rw [NetStack.udpEnds, hu] at hb
    exact .inr hb

lemma EndsStep.setUdp {u u' : UdpState}
    (hu : s'.udpConns = Function.update s.udpConns id (some u')) (hid : s.udpConns id = some u)
    (hl : u'.rxDropped = u.rxDropped) (hn : s'.nextId = s.nextId)
    (ht : s'.tcpConns = s.tcpConns) : EndsStep none s s' where
  next := Nat.le_of_eq hn.symm
  tcp id' x' hx := by
    rw [NetStack.tcpEnds, ht] at hx
    exact .inr ⟨x', hx, .refl x'⟩
  udp id' b hb := by
    rw [NetStack.udpEnds, hu, Function.update_apply] at hb
    split at hb
    · rename_i heq
      cases hb
      refine .inr ?_
      rw [heq, NetStack.udpEnds, hid, hl]
      rfl
    · exact .inr hb

lemma EndsStep.removeTcp (hn : s'.nextId = s.nextId) (hu : s'.udpConns = s.udpConns)
    (ht : s'.tcpConns = Function.update s.tcpConns id none) : EndsStep none s s' where
  next := Nat.le_of_eq hn.symm
  tcp id' x' hx := by
    rw [NetStack.tcpEnds, ht, Function.update_apply] at hx
    split at hx
    · cases hx
    · exact .inr ⟨x', hx, .refl x'⟩
  udp id' b hb := by
    rw [NetStack.udpEnds, hu] at hb
    exact .inr hb

lemma EndsStep.removeUdp (hn : s'.nextId = s.nextId) (ht : s'.tcpConns = s.tcpConns)
    (hu : s'.udpConns = Function.update s.udpConns id none) : EndsStep none s s' where
  next := Nat.le_of_eq hn.symm
  tcp id' x' hx := by
    rw [NetStack.tcpEnds, ht] at hx
    exact .inr ⟨x', hx, .refl x'⟩
  udp id' b hb := by
    rw [NetStack.udpEnds, hu, Function.update_apply] at hb
    split at hb
    · cases hb
    · exact .inr hb

lemma EndsStep.of_goto {pc : Pc} {k : Option ℕ} (h : EndsStep k (s.goto pc) s') :
    EndsStep k s s' :=
  ⟨h.next, h.tcp, h.udp⟩

/-- The first test of a service step hands the receiver over. -/
lemma seen_later (st : TcpState) (state : State) :
    st.ends.Later false (st.seen state).ends := by
  rw [TcpState.seen]
  split
  · exact ⟨rfl, fun _ => rfl, (Bool.or_false _).symm⟩
  · exact .refl _

lemma serviceConn_ends (rest : List ℕ) (accept : ℕ) (hid : s.tcpConns id = some st) :
    EndsStep none s (serviceConn sm s id rest st t accept) := by
  obtain ⟨log, hs⟩ := establish_frame s id st t.state
  have hl := seen_later st t.state
  rw [serviceConn]
  dsimp only
  rw [hs]
  split
  · rw [refuse]
    split <;> exact EndsStep.removeTcp rfl rfl rfl
  · split <;> exact EndsStep.setConn rfl hid ⟨hl.rxDropped, hl.fromStackRx, hl.halfClosed⟩ rfl rfl

lemma deliverChunk_ends {chunk : Bytes} {chunks : List Bytes} {rest : List ℕ}
    (hid : s.tcpConns id = some st)
    (h : deliverChunk sm s id chunk chunks rest st t = some s') : EndsStep none s s' := by
  rw [deliverChunk] at h
  split at h
  · cases h
    exact EndsStep.setConn rfl hid (.refl _) rfl rfl
  · obtain ⟨toApp, _, rfl⟩ := Option.map_eq_some_iff.mp h
    exact EndsStep.setConn rfl hid (.refl _) rfl rfl

lemma finishConn_ends (rest : List ℕ) (hid : s.tcpConns id = some st) :
    EndsStep none s (finishConn sm s id rest st t) := by
  rw [finishConn]
  split
  · exact EndsStep.setConn rfl hid (.refl _) rfl rfl
  · split
    · exact EndsStep.removeTcp rfl rfl rfl
    · exact EndsStep.of_eq rfl rfl rfl

/-- The connection that a data message half-closes. -/
def DataIn.closes : DataIn → Option ℕ
  | .tcpClose id => some id
  | _ => none

lemma handleData_ends (s : NetStack) (d : DataIn) (room : Bool) :
    EndsStep d.closes s (handleData s d room) := by
  cases d with
  | tcp id data =>
      rw [handleData]
      split
      · rename_i hid
        exact EndsStep.setConn rfl hid (.refl _) rfl rfl
      · exact EndsStep.of_eq rfl rfl rfl
  | tcpClose id =>
      rw [handleData]
      split
      · rename_i st hid
        refine ⟨Nat.le_refl _, ?_, fun id b hb => .inr hb⟩
        intro id' x' hx
        refine .inr ?_
        change (Function.update s.tcpConns id _ id').map TcpState.ends = some x' at hx
        rw [Function.update_apply] at hx
        split at hx
        · rename_i heq
          cases hx
          refine ⟨st.ends, ?_, rfl, fun h => h, ?_⟩
          · rw [heq, NetStack.tcpEnds, hid]
            rfl
          · simp [DataIn.closes, TcpState.ends, heq]
        · rename_i hne
          refine ⟨x', hx, rfl, fun h => h, ?_⟩
          simp [DataIn.closes, Ne.symm hne]
      · rename_i hid
        refine ⟨Nat.le_refl _, ?_, fun id b hb => .inr hb⟩
        intro id' x' hx
        refine .inr ⟨x', hx, rfl, fun h => h, ?_⟩
        have hne : id ≠ id' := by
          rintro rfl
          rw [NetStack.tcpEnds, hid] at hx
          cases hx
        simp [DataIn.closes, hne]
  | udp id dst data =>
      rw [handleData]
      repeat' split
      all_goals exact EndsStep.of_eq rfl rfl rfl
  | udpClose id =>
      rw [handleData]
      split
      · split
        · exact EndsStep.removeUdp rfl rfl rfl
        · exact EndsStep.of_eq rfl rfl rfl
      · exact EndsStep.of_eq rfl rfl rfl

/-- A command adds at most one entry, under the next id. -/
lemma handleCmd_ends (sm : Smoltcp) (s : NetStack) (c : Cmd) (h : Handle) (err : Option String) :
    EndsStep none s (handleCmd sm s c h err) := by
  cases c with
  | openTcp dst resp =>
      cases err with
      | some e => exact EndsStep.of_eq rfl rfl rfl
      | none =>
          refine ⟨Nat.le_succ _, ?_, fun id b hb => .inr hb⟩
          intro id x' hx
          change (Function.update s.tcpConns s.nextId _ id).map TcpState.ends = some x' at hx
          rw [Function.update_apply] at hx
          split at hx
          · rename_i heq
            cases hx
            exact .inl ⟨Nat.le_of_eq heq.symm, rfl⟩
          · exact .inr ⟨x', hx, .refl x'⟩
  | openUdp resp =>
      cases err with
      | some e => exact EndsStep.of_eq rfl rfl rfl
      | none =>
          refine ⟨Nat.le_succ _, fun id x' hx => .inr ⟨x', hx, .refl x'⟩, ?_⟩
          intro id b hb
          change (Function.update s.udpConns s.nextId _ id).map UdpState.rxDropped = some b at hb
          rw [Function.update_apply] at hb
          split at hb
          · rename_i heq
            cases hb
            exact .inl ⟨Nat.le_of_eq heq.symm, rfl⟩
          · exact .inr hb
  | setAddrs v4 v6 =>
      rw [handleCmd]
      split <;> exact EndsStep.of_eq rfl rfl rfl

/-- The application drops a receiver. -/
def Ev.drops : Ev → Bool
  | .dropReceiver _ | .dropUdpReceiver _ => true
  | _ => false

def Ev.closes : Ev → Option ℕ
  | .data d _ => d.closes
  | _ => none

/-- **What a step does to the ends**, unless the application drops one. -/
theorem step_ends (h : step sm s e = some s') (he : e.drops = false) :
    EndsStep e.closes s s' := by
  have hpc : e.closes ≠ none → s.pc = .select ∨ s.pc = .dataIn := by
    intro hc
    cases e with
    | data d room =>
        simp only [step, Option.ite_none_right_eq_some] at h
        exact h.1
    | _ => exact absurd rfl hc
  cases stepped h with
  | lost hl =>
      have hc : e.closes = none := by
        by_contra hc
        rcases hpc hc with hs | hd
        · exact hl.pc_ne.1 hs
        · exact hl.pc_ne.2 hd
      rw [hc]
      exact EndsStep.of_eq rfl rfl rfl
  | moved hm => cases hm <;> exact EndsStep.of_eq rfl rfl rfl
  | serviceTcp _ hid => exact serviceConn_ends _ _ hid
  | deliverTcp _ hid _ hd => exact deliverChunk_ends hid hd
  | finishTcp _ hid => exact finishConn_ends _ hid
  | deliverUdp _ hid => exact EndsStep.setUdp rfl hid rfl rfl rfl
  | cmd => exact (handleCmd_ends sm (s.goto .poll) _ _ _).of_goto
  | data => exact (handleData_ends (s.goto .dataIn) _ _).of_goto
  | appRecv hid => exact EndsStep.setConn rfl hid (.refl _) rfl rfl
  | appRecvUdp hid => exact EndsStep.setUdp rfl hid rfl rfl rfl
  | dropReceiver | dropUdpReceiver => cases he
  | _ => exact EndsStep.of_eq rfl rfl rfl

/-- A `UdpClose` removes its entry, or panics. -/
lemma udpClose_ends {room : Bool} (h : step sm s (.data (.udpClose id) room) = some s') :
    s'.pc = .panicked ∨ s'.udpEnds id = none := by
  simp only [step, Option.ite_none_right_eq_some, Option.some.injEq] at h
  obtain ⟨_, rfl⟩ := h
  rw [NetStack.udpEnds, handleData]
  split
  · split
    · refine .inr ?_
      dsimp only
      rw [Function.update_self]
      rfl
    · exact .inl rfl
  · rename_i hnone
    exact .inr (by rw [hnone]; rfl)

/-- The receiver of the connection has left the stack. -/
structure HandedOver (s : NetStack) (id : ℕ) : Prop where
  below : id < s.nextId
  receiver : ∀ x, s.tcpEnds id = some x → x.fromStackRx = false

/-- A receiver that has left the stack does not come back. -/
lemma EndsStep.handedOver {k : Option ℕ} (h : EndsStep k s s') (hid : HandedOver s id) :
    HandedOver s' id where
  below := Nat.lt_of_lt_of_le hid.below h.next
  receiver x' hx := by
    rcases h.tcp id x' hx with ⟨hnew, -⟩ | ⟨x, hx, hl⟩
    · exact absurd hid.below (Nat.not_lt.mpr hnew)
    · exact hl.fromStackRx (hid.receiver x hx)

/-! ### The application's own steps -/

/-- The stack after the application has dropped the receivers of `f` and `g`. -/
structure Drops (f g : ℕ → Bool) (s s' : NetStack) : Prop where
  pc : s'.pc = s.pc
  shape : s'.shape = s.shape
  tcp : ∀ id, s'.tcpEnds id
    = (s.tcpEnds id).map fun x => { x with rxDropped := x.rxDropped || f id }
  udp : ∀ id, s'.udpEnds id = (s.udpEnds id).map fun b => b || g id

lemma map_drop_false (o : Option TcpEnds) :
    (o.map fun x => { x with rxDropped := x.rxDropped || false }) = o := by
  cases o <;> simp

lemma map_or_false (o : Option Bool) : (o.map fun b => b || false) = o := by
  cases o <;> simp

/-- No receiver is dropped. -/
lemma Drops.of_ends (hpc : s'.pc = s.pc) (hs : s'.shape = s.shape) (ht : s'.tcpEnds = s.tcpEnds)
    (hu : s'.udpEnds = s.udpEnds) : Drops (fun _ => false) (fun _ => false) s s' where
  pc := hpc
  shape := hs
  tcp id := by rw [ht, map_drop_false]
  udp id := by rw [hu, map_or_false]

lemma Drops.after {f g : ℕ → Bool} {s₁ : NetStack}
    (h₁ : Drops (fun _ => false) (fun _ => false) s s₁) (h : Drops f g s₁ s') : Drops f g s s' where
  pc := h.pc.trans h₁.pc
  shape := h.shape.trans h₁.shape
  tcp id := by rw [h.tcp, h₁.tcp, map_drop_false]
  udp id := by rw [h.udp, h₁.udp, map_or_false]

lemma appRecv_drops (h : step sm s (.appRecv id) = some s') :
    Drops (fun _ => false) (fun _ => false) s s' := by
  rw [step] at h
  split at h
  · rename_i st hid
    split at h
    · cases h
    · obtain ⟨p, _, rfl⟩ := Option.map_eq_some_iff.mp h
      refine .of_ends rfl (shape_setConn hid rfl) ?_ rfl
      exact map_update_self (by rw [hid]; rfl)
  · cases h

lemma appRecvUdp_drops (h : step sm s (.appRecvUdp id) = some s') :
    Drops (fun _ => false) (fun _ => false) s s' := by
  rw [step] at h
  split at h
  · rename_i st hid
    obtain ⟨p, _, rfl⟩ := Option.map_eq_some_iff.mp h
    refine .of_ends rfl (shape_setUdpConn hid rfl) rfl ?_
    exact map_update_self (by rw [hid]; rfl)
  · cases h

/-- The receiver of a connection that has been handed over is dropped. -/
lemma dropReceiver_drops (sm : Smoltcp) (h : HandedOver s id) :
    Drops (id == ·) (fun _ => false) s ((step sm s (.dropReceiver id)).getD s) := by
  rw [step]
  split
  · rename_i st hid
    have hrx : st.fromStackRx = false :=
      h.receiver st.ends (by rw [NetStack.tcpEnds, hid]; rfl)
    rw [if_neg (by simp [hrx])]
    refine ⟨rfl, shape_setConn hid rfl, ?_, fun _ => (map_or_false _).symm⟩
    intro id'
    by_cases heq : id' = id
    · subst heq
      simp [NetStack.tcpEnds, hid, TcpState.ends]
    · rw [beq_false_of_ne (Ne.symm heq), map_drop_false]
      simp [NetStack.tcpEnds, Function.update_of_ne heq]
  · rename_i hid
    refine ⟨rfl, rfl, ?_, fun _ => (map_or_false _).symm⟩
    intro id'
    by_cases heq : id' = id
    · subst heq
      simp [NetStack.tcpEnds, hid]
    · rw [beq_false_of_ne (Ne.symm heq), map_drop_false]
      rfl

/-- A receiver that is dropped already. -/
lemma Drops.again (h : ∀ x, s.tcpEnds id = some x → x.rxDropped = true) :
    Drops (id == ·) (fun _ => false) s s := by
  refine ⟨rfl, rfl, ?_, fun _ => (map_or_false _).symm⟩
  intro id'
  by_cases heq : id' = id
  · subst heq
    cases hx : s.tcpEnds id' with
    | none => rfl
    | some x =>
        have hrx := h x hx
        simp [← hrx]
  · rw [beq_false_of_ne (Ne.symm heq), map_drop_false]

lemma dropUdpReceiver_drops (sm : Smoltcp) (s : NetStack) (id : ℕ) :
    Drops (fun _ => false) (id == ·) s ((step sm s (.dropUdpReceiver id)).getD s) := by
  rw [step]
  cases hid : s.udpConns id with
  | some st =>
      refine ⟨rfl, shape_setUdpConn hid rfl, fun _ => (map_drop_false _).symm, ?_⟩
      intro id'
      by_cases heq : id' = id
      · subst heq
        simp [NetStack.udpEnds, hid]
      · rw [beq_false_of_ne (Ne.symm heq), map_or_false]
        simp [NetStack.udpEnds, Function.update_of_ne heq]
  | none =>
      refine ⟨rfl, rfl, fun _ => (map_drop_false _).symm, ?_⟩
      intro id'
      by_cases heq : id' = id
      · subst heq
        simp [NetStack.udpEnds, hid]
      · rw [beq_false_of_ne (Ne.symm heq), map_or_false]
        rfl

/-! ### The answers -/

/-- What a step adds to the log: it hands over at most one connection, to one opener, and that
had not been handed over. -/
structure Logged (s s' : NetStack) (obs : List Obs) : Prop where
  log : s'.log = obs ++ s.log
  granted : ∀ resp id, .answered resp (.ok id) ∈ obs → HandedOver s' id ∧ ¬ HandedOver s id
  one : ∀ resp id resp' id', .answered resp (.ok id) ∈ obs → .answered resp' (.ok id') ∈ obs →
    resp = resp' ∧ id = id'

lemma Logged.of_ne {obs : List Obs} (h : s'.log = obs ++ s.log)
    (hne : ∀ resp id, .answered resp (.ok id) ∉ obs) : Logged s s' obs :=
  ⟨h, fun resp id ho => absurd ho (hne resp id), fun resp id _ _ ho => absurd ho (hne resp id)⟩

lemma Logged.of_eq (h : s'.log = s.log) : Logged s s' [] := .of_ne h (by simp)

/-- One answer, perhaps followed by the notice that the socket is closed. -/
lemma Logged.of_grant {obs : List Obs} (resp id : ℕ) (h : s'.log = obs ++ s.log)
    (hone : ∀ resp' id', .answered resp' (.ok id') ∈ obs → resp' = resp ∧ id' = id)
    (hnew : HandedOver s' id) (hold : ¬ HandedOver s id) : Logged s s' obs where
  log := h
  granted resp' id' ho := by
    obtain ⟨rfl, rfl⟩ := hone resp' id' ho
    exact ⟨hnew, hold⟩
  one resp₁ id₁ resp₂ id₂ h₁ h₂ := by
    obtain ⟨rfl, rfl⟩ := hone resp₁ id₁ h₁
    obtain ⟨rfl, rfl⟩ := hone resp₂ id₂ h₂
    exact ⟨rfl, rfl⟩

lemma Logged.of_goto {pc : Pc} {obs : List Obs} (h : Logged (s.goto pc) s' obs) :
    Logged s s' obs where
  log := h.log
  granted resp id ho := ⟨(h.granted resp id ho).1, fun hh => (h.granted resp id ho).2 ⟨hh.1, hh.2⟩⟩
  one := h.one

/-- The answer of a service step, if it gives one, goes with the receiver. -/
lemma establish_cases (s : NetStack) (id : ℕ) (st : TcpState) (state : State) :
    establish s id st state = s
      ∨ ∃ resp, establish s id st state = s.observe (.answered resp (.ok id))
        ∧ st.fromStackRx = true ∧ (st.seen state).fromStackRx = false
        ∧ (st.seen state).established = true := by
  rw [establish]
  split
  · rename_i resp hnew _ hrx
    refine .inr ⟨resp, rfl, hrx, ?_⟩
    rw [TcpState.seen, if_pos hnew]
    exact ⟨rfl, rfl⟩
  · exact .inl rfl

/-- A service step answers the opener when it sees the socket established. -/
lemma serviceConn_logged (rest : List ℕ) (accept : ℕ) (hm : s.shape.Matched)
    (hid : s.tcpConns id = some st) :
    ∃ obs, Logged s (serviceConn sm s id rest st t accept) obs := by
  rw [serviceConn]
  dsimp only
  rcases establish_cases s id st t.state with h | ⟨resp, h, hrx, hseen, hest⟩
  · rw [h]
    split
    · rw [refuse]
      split
      · exact ⟨[_, _], .of_ne rfl (by simp)⟩
      · exact ⟨[_], .of_ne rfl (by simp)⟩
    · split
      · exact ⟨[_], .of_ne rfl (by simp)⟩
      · exact ⟨[], .of_eq rfl⟩
  · have hkept : ¬ refused (st.seen t.state) t.state = true := by
      simp [refused, hest]
    have hold : ¬ HandedOver s id := by
      intro hh
      have := hh.receiver st.ends (by rw [NetStack.tcpEnds, hid]; rfl)
      rw [show st.ends.fromStackRx = st.fromStackRx from rfl, hrx] at this
      cases this
    -- the entry is put back as it is seen
    have hnew : ∀ s' : NetStack, s'.nextId = s.nextId →
        s'.tcpConns id = some (sendPending (st.seen t.state) t accept).1 → HandedOver s' id := by
      intro s' hn hid'
      refine ⟨?_, ?_⟩
      · rw [hn]
        exact hm.below .tcp id _ (entries_tcp hid)
      · intro x' hx
        rw [NetStack.tcpEnds, hid'] at hx
        cases hx
        exact hseen
    rw [h, if_neg hkept]
    split
    · exact ⟨[_, .answered resp (.ok id)],
        .of_grant resp id rfl (by simp) (hnew _ rfl (Function.update_self ..)) hold⟩
    · exact ⟨[.answered resp (.ok id)],
        .of_grant resp id rfl (by simp) (hnew _ rfl (Function.update_self ..)) hold⟩

lemma deliverChunk_logged {chunk : Bytes} {chunks : List Bytes} {rest : List ℕ}
    (h : deliverChunk sm s id chunk chunks rest st t = some s') : ∃ obs, Logged s s' obs := by
  rw [deliverChunk] at h
  split at h
  · cases h
    exact ⟨[_], .of_ne rfl (by simp)⟩
  · obtain ⟨toApp, _, rfl⟩ := Option.map_eq_some_iff.mp h
    exact ⟨[_], .of_ne rfl (by simp)⟩

lemma finishConn_logged (rest : List ℕ) : ∃ obs, Logged s (finishConn sm s id rest st t) obs := by
  rw [finishConn]
  split
  · exact ⟨[_], .of_ne rfl (by simp)⟩
  · split
    · exact ⟨[_], .of_ne rfl (by simp)⟩
    · exact ⟨[], .of_eq rfl⟩

lemma handleData_logged (s : NetStack) (d : DataIn) (room : Bool) :
    ∃ obs, Logged s (handleData s d room) obs := by
  cases d with
  | tcp id data =>
      rw [handleData]
      split <;> exact ⟨[_], .of_ne rfl (by simp)⟩
  | tcpClose | udp | udpClose =>
      rw [handleData]
      repeat' split
      all_goals exact ⟨[], .of_eq rfl⟩

/-- A UDP connection is handed over as soon as it is opened. -/
lemma handleCmd_logged (hm : s.shape.Matched) (c : Cmd) (h : Handle) (err : Option String) :
    ∃ obs, Logged s (handleCmd sm s c h err) obs := by
  cases c with
  | openTcp dst resp => cases err <;> exact ⟨[_], .of_ne rfl (by simp)⟩
  | openUdp resp =>
      cases err with
      | some e => exact ⟨[_], .of_ne rfl (by simp)⟩
      | none =>
          refine ⟨[.answered resp (.ok s.nextId)],
            .of_grant resp s.nextId rfl (by simp) ⟨?_, ?_⟩ ?_⟩
          · exact Nat.lt_succ_self _
          · intro x' hx
            change (s.tcpConns s.nextId).map TcpState.ends = some x' at hx
            rw [tcpConns_nextId hm] at hx
            cases hx
          · exact fun hh => Nat.lt_irrefl _ hh.below
  | setAddrs v4 v6 =>
      rw [handleCmd]
      split <;> exact ⟨[], .of_eq rfl⟩

/-- **What a step adds to the log.** -/
theorem step_logged (hm : s.shape.Matched) (h : step sm s e = some s') :
    ∃ obs, Logged s s' obs := by
  cases stepped h with
  | serviceTcp _ hid => exact serviceConn_logged _ _ hm hid
  | deliverTcp _ _ _ hd => exact deliverChunk_logged hd
  | finishTcp => exact finishConn_logged _
  | cmd =>
      obtain ⟨obs, hl⟩ := handleCmd_logged (s := s.goto .poll) hm _ _ _
      exact ⟨obs, hl.of_goto⟩
  | data =>
      obtain ⟨obs, hl⟩ := handleData_logged (s.goto .dataIn) _ _
      exact ⟨obs, hl.of_goto⟩
  | _ => exact ⟨[], .of_eq rfl⟩

end Aether.Netstack
