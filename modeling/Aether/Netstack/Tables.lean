import Aether.Netstack.Step

/-!
The connection tables and the socket set.

Who owns which slot is the *shape* of a stack: the kind of socket in each slot, and
the slot of each entry. Almost every step keeps the shape; `step_shape` says that the
others open or remove one entry together with its socket.

* `Shape.Matched`: tables and socket set correspond one to one.
* `tables_matched`: they do after every run.
-/

namespace Aether.Netstack

/-- The kinds of socket that smoltcp's set holds here. -/
inductive Kind where
  | tcp
  | udp
  deriving DecidableEq

def Socket.kind : Socket → Kind
  | tcp _ => .tcp
  | udp _ => .udp

/-- Which kind of socket each slot holds, and which slot each entry names. -/
@[ext]
structure Shape where
  kinds : Handle → Option Kind
  tcp : ℕ → Option Handle
  udp : ℕ → Option Handle
  nextId : ℕ

/-- The shape of a stack: its tables and its socket set without what they hold. -/
def NetStack.shape (s : NetStack) : Shape where
  kinds h := (s.sockets h).map Socket.kind
  tcp id := (s.tcpConns id).map TcpState.handle
  udp id := (s.udpConns id).map UdpState.handle
  nextId := s.nextId

namespace Shape

variable {a : Shape}

/-- The slots of the entries of a kind. -/
def entries (a : Shape) : Kind → ℕ → Option Handle
  | .tcp => a.tcp
  | .udp => a.udp

/-- Tables and socket set correspond one to one: every entry names a live socket of
its kind, distinct entries name distinct slots, every live socket has an entry, and
the ids of both tables are disjoint and below the next id. -/
structure Matched (a : Shape) : Prop where
  live : ∀ k id h, a.entries k id = some h → a.kinds h = some k
  inj : ∀ k id id' h, a.entries k id = some h → a.entries k id' = some h → id = id'
  owned : ∀ h k, a.kinds h = some k → ∃ id, a.entries k id = some h
  below : ∀ k id h, a.entries k id = some h → id < a.nextId
  disjoint : ∀ id h h', a.tcp id = some h → a.udp id ≠ some h'

/-- A new entry and its socket, in an empty slot. -/
def opened (a : Shape) (k : Kind) (h : Handle) : Shape where
  kinds := Function.update a.kinds h (some k)
  tcp := if k = .tcp then Function.update a.tcp a.nextId (some h) else a.tcp
  udp := if k = .udp then Function.update a.udp a.nextId (some h) else a.udp
  nextId := a.nextId + 1

/-- An entry and its socket, both removed. -/
def removed (a : Shape) (k : Kind) (id : ℕ) (h : Handle) : Shape where
  kinds := Function.update a.kinds h none
  tcp := if k = .tcp then Function.update a.tcp id none else a.tcp
  udp := if k = .udp then Function.update a.udp id none else a.udp
  nextId := a.nextId

lemma entries_opened (k k' : Kind) (h : Handle) (id : ℕ) :
    (a.opened k h).entries k' id
      = if k' = k ∧ id = a.nextId then some h else a.entries k' id := by
  cases k <;> cases k' <;> simp [opened, entries, Function.update_apply]

lemma entries_removed (k k' : Kind) (id id' : ℕ) (h : Handle) :
    (a.removed k id h).entries k' id'
      = if k' = k ∧ id' = id then none else a.entries k' id' := by
  cases k <;> cases k' <;> simp [removed, entries, Function.update_apply]

/-- An entry in an empty slot, under an id that was not given out. -/
lemma Matched.opened (ha : a.Matched) {k : Kind} {h : Handle} (hfree : a.kinds h = none) :
    (a.opened k h).Matched where
  live k' id h' he := by
    rw [entries_opened] at he
    split at he
    · rename_i hk
      cases he
      simp [Shape.opened, hk.1]
    · have hne : h' ≠ h := by
        rintro rfl
        rw [ha.live k' id h' he] at hfree
        cases hfree
      simpa [Shape.opened, Function.update_apply, hne] using ha.live k' id h' he
  inj k' id id' h' he he' := by
    have hold : ∀ j, a.entries k' j ≠ some h := fun j hj => by
      rw [ha.live k' j h hj] at hfree; cases hfree
    rw [entries_opened] at he he'
    split at he <;> split at he'
    · rename_i h₁ h₂; rw [h₁.2, h₂.2]
    · cases he; exact absurd he' (hold _)
    · cases he'; exact absurd he (hold _)
    · exact ha.inj k' id id' h' he he'
  owned h' k' hk := by
    by_cases hh : h' = h
    · subst hh
      have : k' = k := by simpa [Shape.opened, eq_comm] using hk
      exact ⟨a.nextId, by rw [entries_opened, if_pos ⟨this, rfl⟩]⟩
    · obtain ⟨id, hid⟩ := ha.owned h' k'
        (by simpa [Shape.opened, Function.update_apply, hh] using hk)
      have hne : id ≠ a.nextId := Nat.ne_of_lt (ha.below k' id h' hid)
      exact ⟨id, by rw [entries_opened, if_neg (fun g => hne g.2), hid]⟩
  below k' id h' he := by
    show id < a.nextId + 1
    rw [entries_opened] at he
    split at he
    · rename_i hk; omega
    · have := ha.below k' id h' he; omega
  disjoint id h' h'' ht hu := by
    have ht' := entries_opened (a := a) k .tcp h id
    have hu' := entries_opened (a := a) k .udp h id
    rw [show (a.opened k h).entries .tcp id = some h' from ht] at ht'
    rw [show (a.opened k h).entries .udp id = some h'' from hu] at hu'
    have hlt := ha.below .tcp id
    have hlu := ha.below .udp id
    have hd := ha.disjoint id
    simp only [entries] at ht' hu' hlt hlu
    split at ht' <;> split at hu'
    · rename_i h₁ h₂; rw [← h₁.1] at h₂; exact absurd h₂.1 (by decide)
    · rename_i h₁ _; have := hlu h'' hu'.symm; omega
    · rename_i _ h₂; have := hlt h' ht'.symm; omega
    · exact hd h' h'' ht'.symm hu'.symm

/-- An entry that goes together with its socket. -/
lemma Matched.removed (ha : a.Matched) {k : Kind} {id : ℕ} {h : Handle}
    (hid : a.entries k id = some h) : (a.removed k id h).Matched where
  live k' id' h' he := by
    rw [entries_removed] at he
    split at he
    · cases he
    · rename_i hne
      have hlive := ha.live k' id' h' he
      have hh : h' ≠ h := by
        rintro rfl
        rw [ha.live k id h' hid, Option.some.injEq] at hlive
        subst hlive
        exact hne ⟨rfl, ha.inj k id' id h' he hid⟩
      simpa [Shape.removed, Function.update_apply, hh] using hlive
  inj k' id' id'' h' he he' := by
    rw [entries_removed] at he he'
    split at he <;> split at he'
    all_goals first | cases he | cases he' | exact ha.inj k' id' id'' h' he he'
  owned h' k' hk := by
    by_cases hh : h' = h
    · subst hh; simp [Shape.removed] at hk
    · obtain ⟨id', hid'⟩ := ha.owned h' k'
        (by simpa [Shape.removed, Function.update_apply, hh] using hk)
      refine ⟨id', ?_⟩
      rw [entries_removed, if_neg, hid']
      rintro ⟨rfl, rfl⟩
      rw [hid] at hid'
      exact hh (Option.some.inj hid').symm
  below k' id' h' he := by
    rw [entries_removed] at he
    split at he
    · cases he
    · exact ha.below k' id' h' he
  disjoint id' h' h'' ht hu := by
    have ht' := entries_removed (a := a) k .tcp id id' h
    have hu' := entries_removed (a := a) k .udp id id' h
    rw [show (a.removed k id h).entries .tcp id' = some h' from ht] at ht'
    rw [show (a.removed k id h).entries .udp id' = some h'' from hu] at hu'
    split at ht' <;> split at hu'
    all_goals first | cases ht' | cases hu' | exact ha.disjoint id' h' h'' ht'.symm hu'.symm

end Shape

/-! ### What a step does to the shape -/

section Step

variable {s s' : NetStack} {id : ℕ} {st st' : TcpState} {t t' : TcpSocket} {sm : Smoltcp}

/-- A table that is read through a projection is updated in one place. -/
lemma map_update {α β γ : Type} [DecidableEq α] (f : β → γ) (g : α → Option β) (a : α)
    (b : Option β) :
    (fun x => (Function.update g a b x).map f)
      = Function.update (fun x => (g x).map f) a (b.map f) :=
  Function.comp_update (Option.map f) g a b

/-- An update that the projection does not see. -/
lemma map_update_self {α β γ : Type} [DecidableEq α] {f : β → γ} {g : α → Option β} {a : α}
    {b : Option β} (h : b.map f = (g a).map f) :
    (fun x => (Function.update g a b x).map f) = fun x => (g x).map f := by
  rw [map_update, Function.update_eq_self_iff]
  exact h

@[simp] lemma shape_goto (s : NetStack) (pc : Pc) : (s.goto pc).shape = s.shape := rfl

@[simp] lemma shape_observe (s : NetStack) (o : Obs) : (s.observe o).shape = s.shape := rfl

lemma tcp_eq_some : s.tcp st.handle = some t ↔ s.sockets st.handle = some (.tcp t) := by
  rw [NetStack.tcp]
  split
  · rename_i h; simp [h]
  · rename_i h
    simp only [reduceCtorEq, false_iff]
    exact fun h' => h t h'

lemma udp_eq_some {h : Handle} {u : UdpSocket} :
    s.udp h = some u ↔ s.sockets h = some (.udp u) := by
  rw [NetStack.udp]
  split
  · rename_i h; simp [h]
  · rename_i h
    simp only [reduceCtorEq, false_iff]
    exact fun h' => h u h'

/-- An entry that keeps its slot keeps the shape. -/
lemma shape_setConn (hid : s.tcpConns id = some st) (hh : st'.handle = st.handle) :
    { s with tcpConns := Function.update s.tcpConns id (some st') }.shape = s.shape := by
  ext1
  · rfl
  · exact map_update_self (by simp [hid, hh])
  · rfl
  · rfl

lemma shape_setUdpConn {st st' : UdpState} (hid : s.udpConns id = some st)
    (hh : st'.handle = st.handle) :
    { s with udpConns := Function.update s.udpConns id (some st') }.shape = s.shape := by
  ext1
  · rfl
  · rfl
  · exact map_update_self (by simp [hid, hh])
  · rfl

/-- A socket that keeps its kind keeps the shape. -/
lemma shape_setSocket {h : Handle} {x y : Socket} (hx : s.sockets h = some x)
    (hk : y.kind = x.kind) :
    { s with sockets := Function.update s.sockets h (some y) }.shape = s.shape := by
  ext1
  · exact map_update_self (by simp [hx, hk])
  · rfl
  · rfl
  · rfl

/-- A connection and its socket, both put back into their places. -/
lemma shape_update (hid : s.tcpConns id = some st) (hh : st'.handle = st.handle)
    (ht : s.tcp st.handle = some t) : (s.update id st' t').shape = s.shape := by
  rw [tcp_eq_some, ← hh] at ht
  ext1
  · exact map_update_self (by simp [ht, Socket.kind])
  · exact map_update_self (by simp [hid, hh])
  · rfl
  · rfl

/-- `remove_tcp` takes the entry and its slot. -/
lemma shape_removeTcp (s : NetStack) (id : ℕ) (h : Handle) :
    (s.removeTcp id h).shape = s.shape.removed .tcp id h := by
  ext1
  · exact map_update ..
  · exact map_update ..
  · rfl
  · rfl

/-- A poll changes what is in the sockets, and no slot. -/
lemma shape_pollSockets (s : NetStack) (tcp : Handle → Arrival)
    (udp : Handle → List (SocketAddr × Bytes)) :
    { s with sockets := pollSockets s.sockets tcp udp }.shape = s.shape := by
  ext1
  · funext h
    show (pollSockets s.sockets tcp udp h).map Socket.kind = (s.sockets h).map Socket.kind
    rw [pollSockets]
    split <;> rename_i hs <;> simp [hs, Socket.kind]
  · rfl
  · rfl
  · rfl

/-- `establish` changes nothing but the log. -/
lemma establish_frame (s : NetStack) (id : ℕ) (st : TcpState) (state : State) :
    ∃ log, establish s id st state = { s with log } := by
  rw [establish]
  split <;> exact ⟨_, rfl⟩

@[simp] lemma seen_handle (st : TcpState) (state : State) :
    (st.seen state).handle = st.handle := by
  rw [TcpState.seen]; split <;> rfl

end Step

/-- What a step may do to the shape: nothing, open one entry in an empty slot, or
remove one entry with its socket. -/
inductive ShapeStep (a : Shape) : Shape → Prop where
  | same : ShapeStep a a
  | opened (k : Kind) (h : Handle) : a.kinds h = none → ShapeStep a (a.opened k h)
  | removed (k : Kind) (id : ℕ) (h : Handle) : a.entries k id = some h →
      ShapeStep a (a.removed k id h)

lemma ShapeStep.of_eq {a b : Shape} (h : b = a) : ShapeStep a b := h ▸ .same

lemma ShapeStep.of_opened {a b : Shape} (k : Kind) {h : Handle} (hfree : a.kinds h = none)
    (hb : b = a.opened k h) : ShapeStep a b := hb ▸ .opened k h hfree

lemma ShapeStep.of_removed {a b : Shape} {k : Kind} {id : ℕ} {h : Handle}
    (hid : a.entries k id = some h) (hb : b = a.removed k id h) : ShapeStep a b :=
  hb ▸ .removed k id h hid

/-- Each of the three keeps tables and socket set matched. -/
lemma ShapeStep.matched {a b : Shape} (h : ShapeStep a b) (ha : a.Matched) : b.Matched := by
  cases h with
  | same => exact ha
  | opened k h hfree => exact ha.opened hfree
  | removed k id h hid => exact ha.removed hid

/-- An entry was there before the step, or its id was not given out. -/
lemma ShapeStep.before {a b : Shape} {k : Kind} {id : ℕ} {h : Handle} (hstep : ShapeStep a b)
    (hid : b.entries k id = some h) : a.nextId ≤ id ∨ a.entries k id = some h := by
  cases hstep with
  | same => exact .inr hid
  | opened k' h' hfree =>
      rw [Shape.entries_opened] at hid
      split at hid
      · rename_i hnew
        exact .inl (Nat.le_of_eq hnew.2.symm)
      · exact .inr hid
  | removed k' id' h' hid' =>
      rw [Shape.entries_removed] at hid
      split at hid
      · cases hid
      · exact .inr hid

/-- No id is given out twice. -/
lemma ShapeStep.nextId_le {a b : Shape} (h : ShapeStep a b) : a.nextId ≤ b.nextId := by
  cases h with
  | same | removed => exact Nat.le_refl _
  | opened => exact Nat.le_succ _

section Step

variable {s s' : NetStack} {id : ℕ} {st : TcpState} {t : TcpSocket} {sm : Smoltcp}

lemma entries_tcp (hid : s.tcpConns id = some st) :
    s.shape.entries .tcp id = some st.handle := by
  show (s.tcpConns id).map TcpState.handle = _
  rw [hid]; rfl

lemma entries_udp {st : UdpState} (hid : s.udpConns id = some st) :
    s.shape.entries .udp id = some st.handle := by
  show (s.udpConns id).map UdpState.handle = _
  rw [hid]; rfl

lemma kinds_eq_none {h : Handle} (hh : s.sockets h = none) : s.shape.kinds h = none := by
  show (s.sockets h).map Socket.kind = none
  rw [hh]; rfl

/-- A command opens an entry in the free slot it is given, or nothing. -/
lemma handleCmd_shape (sm : Smoltcp) (s : NetStack) (c : Cmd) (h : Handle) (err : Option String)
    (hfree : slotFree s c h err = true) : ShapeStep s.shape (handleCmd sm s c h err).shape := by
  cases c with
  | openTcp dst resp =>
      cases err with
      | some e => exact .same
      | none =>
          refine .of_opened .tcp (kinds_eq_none (Option.isNone_iff_eq_none.mp hfree)) ?_
          ext1
          · exact map_update Socket.kind s.sockets h _
          · exact map_update TcpState.handle s.tcpConns s.nextId _
          · rfl
          · rfl
  | openUdp resp =>
      cases err with
      | some e => exact .same
      | none =>
          refine .of_opened .udp (kinds_eq_none (Option.isNone_iff_eq_none.mp hfree)) ?_
          ext1
          · exact map_update Socket.kind s.sockets h _
          · rfl
          · exact map_update UdpState.handle s.udpConns s.nextId _
          · rfl
  | setAddrs v4 v6 =>
      rw [handleCmd]
      split <;> exact .same

/-- Only the end of a UDP association removes anything here. -/
lemma handleData_shape (s : NetStack) (d : DataIn) (room : Bool) :
    ShapeStep s.shape (handleData s d room).shape := by
  cases d with
  | tcp id data =>
      rw [handleData, shape_observe]
      split
      · rename_i hid; exact .of_eq (shape_setConn hid rfl)
      · exact .same
  | tcpClose id =>
      rw [handleData]
      split
      · rename_i hid; exact .of_eq (shape_setConn hid rfl)
      · exact .same
  | udp id dst data =>
      rw [handleData]
      split
      · split
        · rename_i hu
          exact .of_eq (shape_setSocket (udp_eq_some.mp hu) rfl)
        · exact .same
      · exact .same
  | udpClose id =>
      rw [handleData]
      split
      · rename_i st hid
        split
        · refine .of_removed (entries_udp hid) ?_
          ext1
          · exact map_update Socket.kind s.sockets st.handle none
          · rfl
          · exact map_update UdpState.handle s.udpConns id none
          · rfl
        · exact .same
      · exact .same

lemma removeTcp_shape (hid : s.tcpConns id = some st) :
    ShapeStep s.shape (s.removeTcp id st.handle).shape :=
  shape_removeTcp s id st.handle ▸ .removed .tcp id st.handle (entries_tcp hid)

/-- The first half of `service_tcp`: a refused connection is removed, any other keeps its slot. -/
lemma serviceConn_shape (rest : List ℕ) (accept : ℕ) (hid : s.tcpConns id = some st)
    (ht : s.tcp st.handle = some t) :
    ShapeStep s.shape (serviceConn sm s id rest st t accept).shape := by
  obtain ⟨log, hs₁⟩ := establish_frame s id st t.state
  have hh := seen_handle st t.state
  rw [serviceConn]
  dsimp only
  rw [hs₁]
  split
  · rw [refuse, shape_goto, shape_observe, shape_removeTcp, hh]
    refine .of_removed (entries_tcp hid) ?_
    split <;> rfl
  · rw [shape_goto]
    refine .of_eq ?_
    split
    · exact shape_update hid hh ht
    · exact shape_update hid hh ht

/-- A chunk, delivered or kept back. -/
lemma deliverChunk_shape {chunk : Bytes} {chunks : List Bytes} {rest : List ℕ}
    (hid : s.tcpConns id = some st) (ht : s.tcp st.handle = some t)
    (h : deliverChunk sm s id chunk chunks rest st t = some s') : s'.shape = s.shape := by
  rw [deliverChunk] at h
  split at h
  · cases h
    exact shape_update (s := s.observe (.closing id st)) hid rfl ht
  · obtain ⟨toApp, _, rfl⟩ := Option.map_eq_some_iff.mp h
    exact shape_update (s := s.observe (.delivered id chunk)) hid rfl ht

/-- The end of `service_tcp`: a closed socket is removed with its entry. -/
lemma finishConn_shape (rest : List ℕ) (hid : s.tcpConns id = some st)
    (ht : s.tcp st.handle = some t) :
    ShapeStep s.shape (finishConn sm s id rest st t).shape := by
  rw [finishConn]
  split
  · exact .of_eq (shape_update (s := s.observe (.closing id st)) hid rfl ht)
  · split
    · exact removeTcp_shape hid
    · exact .same

/-- **What a step does to the shape.** -/
theorem step_shape {e : Ev} (h : step sm s e = some s') : ShapeStep s.shape s'.shape := by
  cases stepped h with
  | lost | moved | flush | inbound => exact .same
  | poll => exact .of_eq (shape_pollSockets ..)
  | serviceTcp _ hid ht => exact serviceConn_shape _ _ hid ht
  | deliverTcp _ hid ht hd => exact .of_eq (deliverChunk_shape hid ht hd)
  | finishTcp _ hid ht => exact finishConn_shape _ hid ht
  | serviceUdp _ _ hu => exact .of_eq (shape_setSocket (udp_eq_some.mp hu) rfl)
  | deliverUdp _ hid => exact .of_eq (shape_setUdpConn hid rfl)
  | cmd _ hfree => exact handleCmd_shape sm (s.goto .poll) _ _ _ hfree
  | data => exact handleData_shape (s.goto .dataIn) _ _
  | dropReceiver hid => exact .of_eq (shape_setConn hid rfl)
  | appRecv hid => exact .of_eq (shape_setConn hid rfl)
  | dropUdpReceiver hid => exact .of_eq (shape_setUdpConn hid rfl)
  | appRecvUdp hid => exact .of_eq (shape_setUdpConn hid rfl)

end Step

/-- The tables of a fresh stack correspond to its empty socket set. -/
lemma spawned_matched (iface : Interface) : (NetStack.spawned iface).shape.Matched where
  live k id h he := by cases k <;> cases he
  inj k id id' h he := by cases k <;> cases he
  owned h k hk := by cases hk
  below k id h he := by cases k <;> cases he
  disjoint id h h' ht := by cases ht

/-- **Tables and socket set correspond after every run.** -/
theorem tables_matched {sm : Smoltcp} {iface : Interface} {es : List Ev} {s : NetStack}
    (h : Machine.run (step sm) (NetStack.spawned iface) es = some s) : s.shape.Matched :=
  Machine.run_invariant (I := fun s => s.shape.Matched)
    (fun _ _ _ hs hstep => (step_shape hstep).matched hs) (spawned_matched iface) h

end Aether.Netstack
