import Aether.Netstack.Tables

/-!
The local addresses of the sockets.

`alloc_port` counts through 49152..=65000 and starts again, for TCP and UDP alike, without
looking at what is open. What matters of a socket is its *key*: the port, and for TCP the
remote end. Only opening a connection adds one.

* `step_keys`: what a step does to the keys.
* `ports_distinct_iff`: two sockets come to share a key exactly in a run that opens one under
  a key in use.
* `run_nextPort`: the counter of a run; `distinct_before_wrap`: before it starts again, no key
  is shared.
-/

namespace Aether.Netstack

/-- The local address of a socket, as smoltcp tells the packets of two sockets apart. -/
inductive Key where
  | tcp (localPort : ℕ) (remote : SocketAddr)
  | udp (localPort : ℕ)
  deriving DecidableEq

def Key.port : Key → ℕ
  | tcp p _ => p
  | udp p => p

def Socket.key : Socket → Key
  | tcp t => .tcp t.localPort t.remote
  | udp u => .udp u.localPort

namespace NetStack

/-- The key of the socket in each slot. -/
def keys (s : NetStack) (h : Handle) : Option Key := (s.sockets h).map Socket.key

/-- No two live sockets share a key. -/
def Distinct (s : NetStack) : Prop :=
  ∀ h h' k, s.keys h = some k → s.keys h' = some k → h = h'

end NetStack

/-- The slot and the key of the socket that the event creates. -/
def Ev.opens (s : NetStack) : Ev → Option (Handle × Key)
  | .cmd (.openTcp dst _) h none => some (h, .tcp s.nextPort dst)
  | .cmd (.openUdp _) h none => some (h, .udp s.nextPort)
  | _ => none

/-- The key of a new socket is not in use. -/
def Fresh (s : NetStack) (e : Ev) : Prop :=
  ∀ h k, e.opens s = some (h, k) → ∀ h', s.keys h' ≠ some k

variable {sm : Smoltcp} {s s' : NetStack} {e : Ev} {id : ℕ} {st st' : TcpState} {t t' : TcpSocket}

/-! ### What a step does to the keys -/

/-- Nothing is opened: every key was there before. -/
def Kept (s s' : NetStack) : Prop := ∀ h k, s'.keys h = some k → s.keys h = some k

lemma Kept.of_sockets (h : s'.sockets = s.sockets) : Kept s s' := by
  intro h' k hk
  rwa [NetStack.keys, h] at hk

/-- A socket that keeps its key. -/
lemma Kept.setSocket {h : Handle} {x y : Socket}
    (hs : s'.sockets = Function.update s.sockets h (some y)) (hx : s.sockets h = some x)
    (hk : y.key = x.key) : Kept s s' := by
  intro h' k hh'
  rw [NetStack.keys, hs] at hh'
  rw [NetStack.keys, ← hh']
  exact (congrFun (map_update_self (f := Socket.key) (g := s.sockets) (a := h) (b := some y)
    (by simp [hx, hk])) h').symm

lemma Kept.setTcp (hs : s'.sockets = Function.update s.sockets st.handle (some (.tcp t')))
    (ht : s.tcp st.handle = some t) (hk : (Socket.tcp t').key = (Socket.tcp t).key) :
    Kept s s' :=
  Kept.setSocket hs (tcp_eq_some.mp ht) hk

lemma Kept.removeSocket {h : Handle} (hs : s'.sockets = Function.update s.sockets h none) :
    Kept s s' := by
  intro h' k hh'
  rw [NetStack.keys, hs, Function.update_apply] at hh'
  split at hh'
  · cases hh'
  · exact hh'

lemma serviceConn_kept (rest : List ℕ) (accept : ℕ) (ht : s.tcp st.handle = some t) :
    Kept s (serviceConn sm s id rest st t accept) := by
  obtain ⟨log, hs⟩ := establish_frame s id st t.state
  rw [serviceConn]
  dsimp only
  rw [hs]
  split
  · refine Kept.removeSocket (h := (st.seen t.state).handle) ?_
    rw [refuse]
    split <;> rfl
  · have hh := seen_handle st t.state
    rw [← hh] at ht
    split
    · exact Kept.setTcp rfl ht rfl
    · exact Kept.setTcp rfl ht rfl

lemma deliverChunk_kept {chunk : Bytes} {chunks : List Bytes} {rest : List ℕ}
    (ht : s.tcp st.handle = some t) (h : deliverChunk sm s id chunk chunks rest st t = some s') :
    Kept s s' := by
  rw [deliverChunk] at h
  split at h
  · cases h
    exact Kept.setTcp rfl ht rfl
  · obtain ⟨toApp, _, rfl⟩ := Option.map_eq_some_iff.mp h
    exact Kept.setTcp rfl ht rfl

lemma finishConn_kept (rest : List ℕ) (ht : s.tcp st.handle = some t) :
    Kept s (finishConn sm s id rest st t) := by
  rw [finishConn]
  split
  · exact Kept.setTcp rfl ht rfl
  · split
    · exact Kept.removeSocket rfl
    · exact Kept.of_sockets rfl

lemma handleData_kept (s : NetStack) (d : DataIn) (room : Bool) :
    Kept s (handleData s d room) := by
  cases d with
  | tcp id data =>
      rw [handleData]
      split <;> exact Kept.of_sockets rfl
  | tcpClose id =>
      rw [handleData]
      split <;> exact Kept.of_sockets rfl
  | udp id dst data =>
      rw [handleData]
      split
      · split
        · rename_i hu
          exact Kept.setSocket rfl (udp_eq_some.mp hu) (by simp [Socket.key])
        · exact Kept.of_sockets rfl
      · exact Kept.of_sockets rfl
  | udpClose id =>
      rw [handleData]
      split
      · split
        · exact Kept.removeSocket rfl
        · exact Kept.of_sockets rfl
      · exact Kept.of_sockets rfl

lemma pollSockets_kept (s : NetStack) (tcp : Handle → Arrival)
    (udp : Handle → List (SocketAddr × Bytes)) (hs : s'.sockets = pollSockets s.sockets tcp udp) :
    Kept s s' := by
  intro h k hk
  rw [NetStack.keys, hs, pollSockets] at hk
  rw [NetStack.keys, ← hk]
  split <;> rename_i hsock <;> rw [hsock] <;> rfl

/-- A command opens at most the socket that the event names. -/
lemma handleCmd_keys (sm : Smoltcp) (s : NetStack) (c : Cmd) (h : Handle) (err : Option String) :
    match (Ev.cmd c h err).opens s with
    | some (h', k) => h' = h ∧ (handleCmd sm s c h err).keys = Function.update s.keys h (some k)
    | none => Kept s (handleCmd sm s c h err) := by
  cases c with
  | openTcp dst resp =>
      cases err with
      | none => exact ⟨rfl, map_update Socket.key s.sockets h _⟩
      | some e => exact Kept.of_sockets rfl
  | openUdp resp =>
      cases err with
      | none => exact ⟨rfl, map_update Socket.key s.sockets h _⟩
      | some e => exact Kept.of_sockets rfl
  | setAddrs v4 v6 =>
      show Kept s (handleCmd sm s (.setAddrs v4 v6) h err)
      rw [handleCmd]
      split <;> exact Kept.of_sockets rfl

/-- **What a step does to the keys**: it opens one in an empty slot, or keeps what is there. -/
lemma step_keys (h : step sm s e = some s') :
    (∃ slot k, e.opens s = some (slot, k) ∧ s.keys slot = none
        ∧ s'.keys = Function.update s.keys slot (some k))
      ∨ (e.opens s = none ∧ Kept s s') := by
  have hpc : e.opens s ≠ none → s.pc = .select := by
    intro hne
    cases e with
    | cmd c slot err =>
        simp only [step, Option.ite_none_right_eq_some] at h
        exact h.1.1
    | _ => exact absurd rfl hne
  cases stepped h with
  | lost hl =>
      refine .inr ⟨?_, Kept.of_sockets rfl⟩
      by_contra hne
      exact hl.pc_ne.1 (hpc hne)
  | moved hm => cases hm <;> exact .inr ⟨rfl, Kept.of_sockets rfl⟩
  | poll => exact .inr ⟨rfl, pollSockets_kept s _ _ rfl⟩
  | serviceTcp _ _ ht => exact .inr ⟨rfl, serviceConn_kept _ _ ht⟩
  | deliverTcp _ _ ht hd => exact .inr ⟨rfl, deliverChunk_kept ht hd⟩
  | finishTcp _ _ ht => exact .inr ⟨rfl, finishConn_kept _ ht⟩
  | serviceUdp _ _ hu => exact .inr ⟨rfl, Kept.setSocket rfl (udp_eq_some.mp hu) rfl⟩
  | @cmd c slot err _ hfree =>
      have hkeys := handleCmd_keys sm (s.goto .poll) c slot err
      cases hopens : (Ev.cmd c slot err).opens s with
      | none =>
          rw [show (Ev.cmd c slot err).opens (s.goto .poll) = none from hopens] at hkeys
          exact .inr ⟨rfl, hkeys⟩
      | some r =>
          obtain ⟨slot', k⟩ := r
          rw [show (Ev.cmd c slot err).opens (s.goto .poll) = some (slot', k) from hopens] at hkeys
          obtain ⟨rfl, hkeys⟩ := hkeys
          refine .inl ⟨slot', k, rfl, ?_, hkeys⟩
          have hempty : s.sockets slot' = none := by
            rw [← Option.isNone_iff_eq_none]
            cases c <;> cases err <;> first | exact hfree | cases hopens
          rw [NetStack.keys, hempty]
          rfl
  | data => exact .inr ⟨rfl, handleData_kept (s.goto .dataIn) _ _⟩
  | _ => exact .inr ⟨rfl, Kept.of_sockets rfl⟩

/-! ### When the keys stay distinct -/

lemma NetStack.Distinct.kept (h : s.Distinct) (hk : Kept s s') : s'.Distinct := by
  intro a b k ha hb
  exact h a b k (hk a k ha) (hk b k hb)

/-- A new key in an empty slot. -/
lemma distinct_opened_iff {slot : Handle} {k : Key} (h : s.Distinct) (hslot : s.keys slot = none)
    (hs : s'.keys = Function.update s.keys slot (some k)) :
    s'.Distinct ↔ ∀ h', s.keys h' ≠ some k := by
  constructor
  · intro hd h' hh'
    have hne : h' ≠ slot := by
      rintro rfl
      rw [hslot] at hh'
      cases hh'
    refine hne (hd h' slot k ?_ ?_)
    · rw [hs, Function.update_of_ne hne, hh']
    · rw [hs, Function.update_self]
  · intro hfresh a b k' ha hb
    rw [hs, Function.update_apply] at ha hb
    split at ha <;> split at hb
    · rename_i ha' hb'
      rw [ha', hb']
    · cases ha
      exact absurd hb (hfresh b)
    · cases hb
      exact absurd ha (hfresh a)
    · exact h a b k' ha hb

/-- A step keeps the keys distinct exactly if what it opens is fresh. -/
lemma step_distinct_iff (h : s.Distinct) (hs : step sm s e = some s') :
    Fresh s e ↔ s'.Distinct := by
  rcases step_keys hs with ⟨slot, k, hopens, hslot, hkeys⟩ | ⟨hopens, hkept⟩
  · rw [distinct_opened_iff h hslot hkeys]
    constructor
    · intro hfresh
      exact hfresh slot k hopens
    · rintro hfresh a b hab
      rw [hopens, Option.some.injEq, Prod.mk.injEq] at hab
      obtain ⟨rfl, rfl⟩ := hab
      exact hfresh
  · refine iff_of_true ?_ (h.kept hkept)
    intro a b hab
    rw [hopens] at hab
    cases hab

/-! ### The counter -/

/-- The ports `alloc_port` goes through. -/
def portCount : ℕ := 15849

/-- The event takes a port, for a socket that may then fail to connect or to bind. -/
def Ev.allocates : Ev → Bool
  | .cmd (.openTcp _ _) _ _ => true
  | .cmd (.openUdp _) _ _ => true
  | _ => false

lemma handleCmd_nextPort (sm : Smoltcp) (s : NetStack) (c : Cmd) (h : Handle)
    (err : Option String) : (handleCmd sm s c h err).nextPort
      = if (Ev.cmd c h err).allocates then (allocPort s.nextPort).2 else s.nextPort := by
  cases c with
  | openTcp | openUdp => cases err <;> rfl
  | setAddrs v4 v6 =>
      rw [handleCmd]
      split <;> rfl

lemma serviceConn_nextPort (rest : List ℕ) (accept : ℕ) :
    (serviceConn sm s id rest st t accept).nextPort = s.nextPort := by
  obtain ⟨log, hs⟩ := establish_frame s id st t.state
  rw [serviceConn]
  dsimp only
  rw [hs]
  split
  · rw [refuse]
    split <;> rfl
  · split <;> rfl

lemma finishConn_nextPort (rest : List ℕ) :
    (finishConn sm s id rest st t).nextPort = s.nextPort := by
  rw [finishConn]
  repeat' split
  all_goals rfl

lemma handleData_nextPort (s : NetStack) (d : DataIn) (room : Bool) :
    (handleData s d room).nextPort = s.nextPort := by
  cases d with
  | tcp | tcpClose =>
      rw [handleData]
      split <;> rfl
  | udp | udpClose =>
      rw [handleData]
      repeat' split
      all_goals rfl

/-- Only commands move the counter. -/
lemma step_nextPort (h : step sm s e = some s') :
    s'.nextPort = if e.allocates then (allocPort s.nextPort).2 else s.nextPort := by
  have hpc : e.allocates = true → s.pc = .select := by
    intro ha
    cases e with
    | cmd c slot err =>
        simp only [step, Option.ite_none_right_eq_some] at h
        exact h.1.1
    | _ => cases ha
  cases stepped h with
  | lost hl => rw [if_neg fun ha => hl.pc_ne.1 (hpc ha)]; rfl
  | moved hm => cases hm <;> rfl
  | serviceTcp => exact serviceConn_nextPort ..
  | deliverTcp _ _ _ hd =>
      rw [deliverChunk] at hd
      split at hd
      · cases hd; rfl
      · obtain ⟨toApp, _, rfl⟩ := Option.map_eq_some_iff.mp hd
        rfl
  | finishTcp => exact finishConn_nextPort ..
  | cmd => exact handleCmd_nextPort sm (s.goto .poll) _ _ _
  | data => exact handleData_nextPort (s.goto .dataIn) _ _
  | _ => rfl

lemma allocPort_next (n : ℕ) :
    (allocPort (49152 + n % portCount)).2 = 49152 + (n + 1) % portCount := by
  show (if 49152 + n % 15849 ≥ 65000 then 49152 else 49152 + n % 15849 + 1)
    = 49152 + (n + 1) % 15849
  by_cases hlast : 49152 + n % 15849 ≥ 65000
  · rw [if_pos hlast]
    omega
  · rw [if_neg hlast]
    omega

/-- **The counter of a run** counts the commands that take a port, and starts again. -/
theorem run_nextPort {n : ℕ} {es : List Ev} (hn : s.nextPort = 49152 + n % portCount)
    (h : Machine.run (step sm) s es = some s') :
    s'.nextPort = 49152 + (n + es.countP Ev.allocates) % portCount := by
  induction es generalizing s n with
  | nil =>
      rw [Machine.run_nil, Option.some.injEq] at h
      rw [← h, hn, List.countP_nil, Nat.add_zero]
  | cons e es ih =>
      obtain ⟨t, ht, hes⟩ := Machine.run_cons_eq_some.mp h
      have hport := step_nextPort ht
      by_cases ha : e.allocates
      · have hport' : t.nextPort = 49152 + (n + 1) % portCount := by
          rw [hport, if_pos ha, hn, allocPort_next]
        rw [ih hport' hes, List.countP_cons_of_pos ha, Nat.add_assoc, Nat.add_comm 1]
      · rw [if_neg ha] at hport
        rw [ih (hport.trans hn) hes, List.countP_cons_of_neg ha]

lemma opens_port {slot : Handle} {k : Key} (h : e.opens s = some (slot, k)) :
    e.allocates = true ∧ k.port = s.nextPort := by
  unfold Ev.opens at h
  split at h
  · cases h
    exact ⟨rfl, rfl⟩
  · cases h
    exact ⟨rfl, rfl⟩
  · cases h

/-- As long as the counter has not started again, every port in use is below it. -/
lemma meets_fresh {es : List Ev}
    (h : es.countP Ev.allocates = 0 ∨ ((∀ slot k, s.keys slot = some k → k.port < s.nextPort)
      ∧ s.nextPort + es.countP Ev.allocates ≤ 65001)) :
    Machine.Meets (step sm) Fresh s es := by
  induction es generalizing s with
  | nil => trivial
  | cons e es ih =>
      have hcount : (e :: es).countP Ev.allocates
          = es.countP Ev.allocates + if e.allocates then 1 else 0 := List.countP_cons
      rw [hcount] at h
      refine ⟨?_, ?_⟩
      · intro slot k hopens slot' hused
        obtain ⟨ha, hport⟩ := opens_port hopens
        rw [if_pos ha] at h
        have hlt := (h.resolve_left (by omega)).1 slot' k hused
        omega
      · intro t ht
        refine ih ?_
        have hport := step_nextPort ht
        by_cases ha : e.allocates
        · rw [if_pos ha] at h hport
          obtain ⟨hkeys, hroom⟩ := h.resolve_left (by omega)
          by_cases hlast : s.nextPort ≥ 65000
          · exact .inl (by omega)
          · rw [allocPort, if_neg hlast] at hport
            dsimp only at hport
            refine .inr ⟨?_, by omega⟩
            intro slot' k' hused
            rcases step_keys ht with ⟨slot, k, hopens, -, hnew⟩ | ⟨-, hkept⟩
            · rw [hnew, Function.update_apply] at hused
              split at hused
              · cases hused
                have hk := (opens_port hopens).2
                omega
              · have hlt := hkeys slot' k' hused
                omega
            · have hlt := hkeys slot' k' (hkept slot' k' hused)
              omega
        · rw [if_neg ha, Nat.add_zero] at h
          rw [if_neg ha] at hport
          refine h.imp_right fun hold => ?_
          rw [hport]
          refine ⟨?_, hold.2⟩
          intro slot' k' hused
          rcases step_keys ht with ⟨slot, k, hopens, -⟩ | ⟨-, hkept⟩
          · exact absurd (opens_port hopens).1 ha
          · exact hold.1 slot' k' (hkept slot' k' hused)

lemma spawned_fresh {iface : Interface} {es : List Ev} (h : es.countP Ev.allocates ≤ portCount) :
    Machine.Meets (step sm) Fresh (NetStack.spawned iface) es := by
  refine meets_fresh (.inr ⟨?_, ?_⟩)
  · intro slot k hk
    cases hk
  · show 49152 + es.countP Ev.allocates ≤ 65001
    simp only [portCount] at h
    omega

lemma spawned_distinct (iface : Interface) : (NetStack.spawned iface).Distinct := by
  intro a b k ha
  cases ha

/-- **Before the counter starts again, no key is shared**: that takes more than 15849 commands. -/
theorem distinct_before_wrap {iface : Interface} {es : List Ev}
    (h : es.countP Ev.allocates ≤ portCount) :
    Machine.Always (step sm) NetStack.Distinct (NetStack.spawned iface) es := by
  exact Machine.always_of_meets (fun s e t hp hok ht => (step_distinct_iff hp ht).mp hok)
    (spawned_distinct iface) (spawned_fresh h)

/-! ### When two sockets share an address -/

/-- **When live sockets never share a local address**: exactly in the runs in which no socket is
opened under a key that a live socket has. -/
theorem ports_distinct_iff {iface : Interface} {es : List Ev}
    (h : Machine.run (step sm) (NetStack.spawned iface) es = some s) :
    Machine.Meets (step sm) Fresh (NetStack.spawned iface) es
      ↔ Machine.Always (step sm) NetStack.Distinct (NetStack.spawned iface) es := by
  exact Machine.meets_iff_always (I := fun _ => True) (fun _ _ _ _ _ => trivial)
    (fun s e t _ hp ht => step_distinct_iff hp ht) trivial (spawned_distinct iface) h

/-- A turn of the loop in which nothing arrives, up to the `select`. -/
def quietTurn (udpIds : List ℕ) : List Ev :=
  .poll (fun _ => ⟨.closed, [], 0⟩) (fun _ => []) [] false [] :: .tcpDone udpIds
    :: udpIds.flatMap (fun _ => [.serviceUdp, .deliverUdp]) ++ [.udpDone, .flush false]

/-- A UDP socket is opened. -/
def udpOpened : List Ev := quietTurn [] ++ .cmd (.openUdp 0) 0 none :: quietTurn [1]

/-- A single socket keeps its address to itself. -/
theorem ports_distinct_sample : ∃ s,
    Machine.run (step stdSmoltcp) (NetStack.spawned sampleIface) udpOpened = some s
      ∧ s.udp 0 = some ⟨49152, [], []⟩
      ∧ Machine.Always (step stdSmoltcp) NetStack.Distinct (NetStack.spawned sampleIface)
        udpOpened := by
  obtain ⟨s, hs, hu⟩ : ∃ s,
      Machine.run (step stdSmoltcp) (NetStack.spawned sampleIface) udpOpened = some s
        ∧ s.udp 0 = some ⟨49152, [], []⟩ := ⟨_, rfl, rfl⟩
  exact ⟨s, hs, hu, (ports_distinct_iff hs).mp (spawned_fresh (by decide))⟩

/-- At the `select`, with a single UDP socket, on the first port. -/
structure OneUdp (s : NetStack) : Prop where
  pc : s.pc = .select
  tx : s.tx = []
  sockets : s.sockets = fun h => if h = 0 then some (.udp ⟨49152, [], []⟩) else none
  tcpConns : s.tcpConns = fun _ => none
  udpConns : s.udpConns = fun id => if id = 1 then some ⟨0, .empty, false⟩ else none
  nextId : s.nextId = 2

/-- A connection to port 0 is refused by smoltcp, and has taken a local port. -/
def refusedConnect : List Ev :=
  .cmd (.openTcp ⟨.v4 sampleV4, 0⟩ 1) 1 (some "Unaddressable") :: quietTurn [1]

lemma oneUdp_refused (sm : Smoltcp) (h : OneUdp s) :
    ∃ s', Machine.run (step sm) s refusedConnect = some s' ∧ OneUdp s' := by
  obtain ⟨pc, iface, rx, tx, sockets, tcpConns, udpConns, nextId, nextPort, log⟩ := s
  obtain ⟨rfl, rfl, rfl, rfl, rfl, rfl⟩ := h
  refine ⟨_, rfl, rfl, rfl, ?_, rfl, rfl, rfl⟩
  funext h
  cases h <;> rfl

/-- So it does however often it is repeated. -/
lemma oneUdp_repeat (n : ℕ) (h : OneUdp s) :
    ∃ s', Machine.run (step sm) s (List.replicate n refusedConnect).flatten = some s'
      ∧ OneUdp s' := by
  induction n generalizing s with
  | zero => exact ⟨s, rfl, h⟩
  | succ n ih =>
      obtain ⟨t, ht, hone⟩ := oneUdp_refused sm h
      obtain ⟨s', hs', hone'⟩ := ih hone
      refine ⟨s', ?_, hone'⟩
      rw [List.replicate_succ, List.flatten_cons]
      exact Machine.run_append_eq_some.mpr ⟨t, ht, hs'⟩

/-- A UDP socket stays open, 15848 connections to port 0 are refused, and another UDP socket is
opened. -/
def wrapRun : List Ev :=
  udpOpened ++ ((List.replicate 15848 refusedConnect).flatten ++ [.cmd (.openUdp 2) 1 none])

/-- The counter starts again, and two live UDP sockets are bound to port 49152. -/
theorem ports_collide : ∃ s,
    Machine.run (step stdSmoltcp) (NetStack.spawned sampleIface) wrapRun = some s
      ∧ s.udp 0 = some ⟨49152, [], []⟩ ∧ s.udp 1 = some ⟨49152, [], []⟩ := by
  obtain ⟨s₁, hs₁, hone⟩ : ∃ s,
      Machine.run (step stdSmoltcp) (NetStack.spawned sampleIface) udpOpened = some s
        ∧ OneUdp s := by
    refine ⟨_, rfl, rfl, rfl, ?_, ?_, ?_, rfl⟩
    · funext h
      cases h <;> rfl
    · rfl
    · funext id
      cases id with
      | zero => rfl
      | succ id => cases id <;> rfl
  obtain ⟨s₂, hs₂, hone'⟩ := oneUdp_repeat 15848 hone
  have hrun := Machine.run_append_eq_some.mpr ⟨s₁, hs₁, hs₂⟩
  have hcount : (udpOpened ++ (List.replicate 15848 refusedConnect).flatten).countP Ev.allocates
      = portCount := by
    rw [List.countP_append, List.countP_flatten, List.map_replicate, List.sum_replicate_nat]
    rfl
  have hport : s₂.nextPort = 49152 := by
    rw [run_nextPort (n := 0) rfl hrun, hcount]
    rfl
  obtain ⟨pc, iface, rx, tx, sockets, tcpConns, udpConns, nextId, nextPort, log⟩ := s₂
  obtain ⟨rfl, rfl, rfl, rfl, rfl, rfl⟩ := hone'
  dsimp only at hport
  subst hport
  refine ⟨_, Machine.run_append_eq_some.mpr ⟨s₁, hs₁, Machine.run_append_eq_some.mpr ⟨_, hs₂, rfl⟩⟩,
    ?_, ?_⟩
  · rfl
  · rfl

end Aether.Netstack
