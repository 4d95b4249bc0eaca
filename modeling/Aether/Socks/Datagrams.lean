import Aether.Netstack.Datagrams
import Aether.Socks.Leaks

/-!
The datagrams of the UDP connections of the server.

`handle_udp_associate` sends what its clients ask for over a connection of the netstack, and takes
what comes on it; `dns_resolve` does the same with one query. All tasks share one data channel. The
traffic of one connection is what its task was asked to send, what the netstack has given to
`send_slice` of its socket, what has come there and what the task has taken.

* `act_passes`: the datagrams that a task has in hand are what it was asked for and has not sent,
  and it takes datagrams from the front of its queue.
* `datagrams_conserved`: **no datagram is lost, repeated or reordered between a task and the socket
  of its connection**, in either direction, but for those that the socket has no room for.
-/

namespace Aether.Socks

open Netstack (NetStack Smoltcp Interface DataIn Accounted UdpState)
open Server (Books)

/-- What a data message carries for the socket of a UDP connection. -/
def packetFor (id : ℕ) : DataIn → List (SocketAddr × Bytes)
  | .udp id' dst data => if id' = id then [(dst, data)] else []
  | _ => []

def packetsOf (id : ℕ) (ds : List DataIn) : List (SocketAddr × Bytes) := ds.flatMap (packetFor id)

/-- The datagram that a task is about to send over a connection. -/
def Task.packets (id : ℕ) : Task → List (SocketAddr × Bytes)
  | .dns (.sending id' query) _ => if id' = id then [(dnsServer, query)] else []
  | .associateSend id' dst payload => if id' = id then [(dst, payload)] else []
  | _ => []

/-- What a task comes to send: the query of a resolution whose connection is open, the datagram of
a client, or one whose name is resolved. -/
def Task.asks (id : ℕ) (s : Server) (r : ℕ) : Task → Act → List (SocketAddr × Bytes)
  | .dns (.opening query) _, .answered =>
      if id ∈ answerIds (s.oneshot r) then [(dnsServer, query)] else []
  | .dns (.waiting _) (.associate id' port payload), .resolved (some ip) =>
      if id' = id then [(⟨ip, port⟩, payload)] else []
  | .associate id', .datagram dst payload => if id' = id then [(dst, payload)] else []
  | _, _ => []

/-- What a task takes from a connection: a packet for the client, or a response with an address. -/
def Task.takes (id : ℕ) (n : NetStack) : Task → Act → List (SocketAddr × Bytes)
  | .associate id', .packet | .dns (.waiting id') _, .resolved (some _) =>
      (Netstack.Ev.appRecvUdp id').taking n id
  | _, _ => []

/-- What was asked for on a connection, and what came, was taken and was given to its socket. -/
structure Traffic where
  asked : List (SocketAddr × Bytes)
  conn : Netstack.Ledger

namespace Traffic

def empty : Traffic := ⟨[], ⟨[], [], []⟩⟩

/-- What the netstack has given to the socket of the connection, whether or not it had room. -/
def given (l : Traffic) : List (SocketAddr × Bytes) := l.conn.given.map Prod.fst

def see (id : ℕ) (s : Server) (l : Traffic) : Ev → Traffic
  | .stack e => { l with conn := l.conn.see id s.stack e }
  | .data room =>
      match s.data.items with
      | d :: _ => { l with conn := l.conn.see id s.stack (.data d room) }
      | [] => l
  | .task r a =>
      match s.tasks r with
      | some t =>
          { l with
            asked := l.asked ++ t.asks id s r a
            conn := { l.conn with taken := l.conn.taken ++ t.takes id s.stack a } }
      | none => l
  | _ => l

end Traffic

/-- The server, with the traffic of one connection. -/
def record (sm : Smoltcp) (id : ℕ) (w : Server × Traffic) (e : Ev) : Option (Server × Traffic) :=
  (step sm w.1 e).map fun s => (s, w.2.see id w.1 e)

variable {sm : Smoltcp} {s s' : Server} {x : Effect} {r id : ℕ} {t t' : Task} {a : Act}
  {l : Traffic} {hand : List (SocketAddr × Bytes)}

lemma packetsOf_append (id : ℕ) (ds ds' : List DataIn) :
    packetsOf id (ds ++ ds') = packetsOf id ds ++ packetsOf id ds' := List.flatMap_append

lemma packetsOf_cons (id : ℕ) (d : DataIn) (ds : List DataIn) :
    packetsOf id (d :: ds) = packetFor id d ++ packetsOf id ds := rfl

lemma packetsOf_eq_nil {ds : List DataIn} :
    packetsOf id ds = [] ↔ ∀ d ∈ ds, packetFor id d = [] := List.flatMap_eq_nil_iff

/-- A data message is given to the socket of its connection, if there is one. -/
lemma giving_packets (n : NetStack) (id : ℕ) (d : DataIn) (room : Bool) :
    ((Netstack.Ev.data d room).giving n id).map Prod.fst
      = if (n.udpConns id).isSome then packetsOf id [d] else [] := by
  rw [packetsOf_cons, packetsOf, List.flatMap_nil, List.append_nil]
  cases d with
  | udp id' dst data =>
      rw [Netstack.Ev.giving, packetFor]
      by_cases hid : id' = id <;> cases n.udpConns id <;> simp [hid]
  | tcp | tcpClose | udpClose => exact (ite_self _).symm

/-- Only a holder has something to send. -/
lemma packets_eq_nil (h : id ∉ t.holds) : t.packets id = [] := by
  cases t with
  | dns d caller =>
      cases d with
      | sending id' query =>
          refine if_neg ?_
          rintro rfl
          exact h (List.mem_append_right _ (List.mem_singleton_self id'))
      | _ => rfl
  | associateSend id' dst payload =>
      refine if_neg ?_
      rintro rfl
      exact h (List.mem_singleton_self id')
  | _ => rfl

/-! ### What a task sends, and what it takes -/

/-- A step of a task: what it has in hand, and what it was asked for, it sends or keeps. -/
def Said (asked : ℕ → List (SocketAddr × Bytes)) (t t' : Task) (s s' : Server) : Prop :=
  ∃ ds, s'.data.items = s.data.items ++ ds ∧ ds.length ≤ 1
    ∧ ∀ id, packetsOf id ds ++ t'.packets id = t.packets id ++ asked id

/-- What is taken comes from the front of the queue of its connection. -/
def Fetched (taken : ℕ → List (SocketAddr × Bytes)) (n n' : NetStack) : Prop :=
  ∀ id c, Accounted id (n, c) → Accounted id (n', { c with taken := c.taken ++ taken id })

variable {asked taken : ℕ → List (SocketAddr × Bytes)} {n n' : NetStack}

lemma Said.silent (hdata : s'.data = s.data)
    (h : ∀ id, t'.packets id = t.packets id ++ asked id) : Said asked t t' s s' :=
  ⟨[], by rw [hdata, List.append_nil], Nat.zero_le 1, h⟩

lemma Said.message {d : DataIn} (hdata : s'.data.items = s.data.items ++ [d])
    (h : ∀ id, packetFor id d ++ t'.packets id = t.packets id ++ asked id) :
    Said asked t t' s s' := by
  refine ⟨[d], hdata, Nat.le_refl 1, fun id => ?_⟩
  rw [packetsOf_cons, packetsOf, List.flatMap_nil, List.append_nil]
  exact h id

/-- A step of the netstack that brings no datagram, and gives none to a socket. -/
lemma Fetched.step {e : Netstack.Ev} (h : Netstack.step sm n e = some n')
    (hcoming : ∀ id, e.coming n id = []) (hgiving : ∀ id, e.giving n id = []) :
    Fetched (e.taking n) n n' := by
  intro id c hw
  have hrec : Netstack.record sm id (n, c) e = some (n', c.see id n e) :=
    Option.map_eq_some_iff.mpr ⟨n', h, rfl⟩
  have hsee : c.see id n e = { c with taken := c.taken ++ e.taking n id } := by
    rw [Netstack.Ledger.see, hcoming, hgiving, List.append_nil, List.append_nil]
  rw [← hsee]
  exact Netstack.step_accounted _ e _ hw hrec

lemma Fetched.nothing (n : NetStack) : Fetched (fun _ => []) n n := by
  intro id c hw
  rw [List.append_nil]
  exact hw

/-- A step that the netstack may refuse. -/
lemma Fetched.getD (sm : Smoltcp) {e : Netstack.Ev} (hcoming : ∀ id, e.coming n id = [])
    (hgiving : ∀ id, e.giving n id = []) (htaking : ∀ id, e.taking n id = []) :
    Fetched (fun _ => []) n ((Netstack.step sm n e).getD n) := by
  cases h : Netstack.step sm n e with
  | none => exact .nothing n
  | some n' =>
      have hstep := Fetched.step h hcoming hgiving
      rw [funext htaking] at hstep
      exact hstep

lemma Fetched.dropReceiver (sm : Smoltcp) (n : NetStack) (j : ℕ) :
    Fetched (fun _ => []) n ((Netstack.step sm n (.dropReceiver j)).getD n) :=
  .getD sm (fun _ => rfl) (fun _ => rfl) fun _ => rfl

lemma Fetched.dropUdpReceiver (sm : Smoltcp) (n : NetStack) (j : ℕ) :
    Fetched (fun _ => []) n ((Netstack.step sm n (.dropUdpReceiver j)).getD n) :=
  .getD sm (fun _ => rfl) (fun _ => rfl) fun _ => rfl

lemma Fetched.quiet {c : Netstack.Ledger} (h : Fetched (fun _ => []) n n')
    (hw : Accounted id (n, c)) : Accounted id (n', c) := by
  have hnext := h id c hw
  rw [List.append_nil] at hnext
  exact hnext

/-- A connection is used, and its receiver is dropped. -/
lemma Fetched.dropped {n'' : NetStack} (h : Fetched taken n n')
    (hdrop : Fetched (fun _ => []) n' n'') : Fetched taken n n'' :=
  fun id c hw => hdrop.quiet (h id c hw)

lemma recvTcp_spec {j : ℕ} (h : s.recvTcp sm j = some s') :
    s'.data = s.data ∧ s'.tasks = s.tasks ∧ Fetched (fun _ => []) s.stack s'.stack := by
  rw [Server.recvTcp] at h
  split at h
  · cases h
    exact ⟨rfl, rfl, .nothing _⟩
  · obtain ⟨stack, hs, rfl⟩ := Option.map_eq_some_iff.mp h
    exact ⟨rfl, rfl, .step hs (fun _ => rfl) fun _ => rfl⟩

/-- How the caller goes on has nothing in hand, but for a datagram whose name is resolved. -/
lemma caller_packets (caller : Caller) (ip : Option IpAddr) (j id : ℕ) (s : Server) (r : ℕ) :
    (caller.task ip).packets id = (Task.dns (.waiting j) caller).asks id s r (.resolved ip) := by
  cases caller <;> cases ip <;> rfl

lemma caller_packets_none (caller : Caller) (id : ℕ) : (caller.task none).packets id = [] := by
  cases caller <;> rfl

lemma dns_passes {d : Dns} {caller : Caller} (he : ¬ s.Ended)
    (h : d.act sm s r caller a = some s') :
    ∃ t', s'.tasks r = some t'
      ∧ Said (fun id => (Task.dns d caller).asks id s r a) (.dns d caller) t' s s'
      ∧ Fetched (fun id => (Task.dns d caller).takes id s.stack a) s.stack s'.stack := by
  unfold Dns.act at h
  split at h
  · obtain ⟨⟨s₁, ok⟩, hs, rfl⟩ := Option.map_eq_some_iff.mp h
    obtain ⟨rfl, cmds, rfl⟩ := sendCmd_cases he hs
    exact ⟨_, Function.update_self .., .silent rfl fun _ => rfl, .nothing _⟩
  · obtain ⟨⟨answer, s₁⟩, hs, heq⟩ := Option.map_eq_some_iff.mp h
    obtain ⟨hr, rfl⟩ := takeAnswer_cases he hs
    cases answer with
    | error e =>
        cases heq
        refine ⟨_, Function.update_self .., .silent rfl fun id => ?_, .nothing _⟩
        rw [caller_packets_none, Task.asks, hr]
        rfl
    | ok id' =>
        cases heq
        refine ⟨_, Function.update_self .., .silent rfl fun id => ?_, .nothing _⟩
        rw [Task.asks, hr]
        show (if id' = id then _ else _) = [] ++ if id ∈ [id'] then _ else _
        simp only [List.mem_singleton, List.nil_append, eq_comm]
  · obtain ⟨⟨s₁, ok⟩, hs, rfl⟩ := Option.map_eq_some_iff.mp h
    obtain ⟨rfl, data, rfl, hdata⟩ := sendData_cases he hs
    exact ⟨_, Function.update_self .., .message hdata fun _ => rfl, .nothing _⟩
  · obtain ⟨s₁, hs, rfl⟩ := Option.map_eq_some_iff.mp h
    obtain ⟨stack, hrecv, rfl⟩ := Option.map_eq_some_iff.mp hs
    have hfetched := Fetched.step hrecv (fun _ => rfl) fun _ => rfl
    exact ⟨_, Function.update_self .., .silent rfl fun id => caller_packets caller _ _ id s r,
      hfetched.dropped (.dropUdpReceiver sm _ _)⟩
  · cases h
    exact ⟨_, Function.update_self .., .silent rfl fun id => caller_packets caller _ _ id s r,
      .dropUdpReceiver sm _ _⟩
  · cases h

lemma upload_passes {j : ℕ} {back : Upload → Task} {up : Upload} (he : ¬ s.Ended)
    (hback : ∀ up id, (back up).packets id = []) (h : up.act s r j back a = some s') :
    ∃ t', s'.tasks r = some t' ∧ Said (fun _ => []) (back up) t' s s'
      ∧ Fetched (fun _ => []) s.stack s'.stack := by
  have hkeep : ∀ up' id, (back up').packets id = (back up).packets id ++ [] := by
    intro up' id
    rw [hback, hback, List.append_nil]
  unfold Upload.act at h
  split at h
  · cases h
    exact ⟨_, Function.update_self .., .silent rfl (hkeep _), .nothing _⟩
  · cases h
    exact ⟨_, Function.update_self .., .silent rfl (hkeep _), .nothing _⟩
  · obtain ⟨⟨s₁, ok⟩, hs, rfl⟩ := Option.map_eq_some_iff.mp h
    obtain ⟨rfl, data, rfl, hdata⟩ := sendData_cases he hs
    exact ⟨_, Function.update_self .., .message hdata (hkeep _), .nothing _⟩
  · obtain ⟨⟨s₁, ok⟩, hs, rfl⟩ := Option.map_eq_some_iff.mp h
    obtain ⟨rfl, data, rfl, hdata⟩ := sendData_cases he hs
    exact ⟨_, Function.update_self .., .message hdata (hkeep _), .nothing _⟩
  · cases h

/-- **What a task was asked for it sends, once and in order**, or has it in hand; what it takes
comes from the front of the queue of its connection. -/
lemma act_passes (he : ¬ s.Ended) (hr : s.tasks r = some t) (h : t.act sm s r a = some s') :
    ∃ t', s'.tasks r = some t' ∧ Said (fun id => t.asks id s r a) t t' s s'
      ∧ Fetched (fun id => t.takes id s.stack a) s.stack s'.stack := by
  unfold Task.act at h
  split at h
  case h_1 => exact dns_passes he h
  -- commands and answers
  case h_2 | h_15 =>
      obtain ⟨⟨s₁, ok⟩, hs, rfl⟩ := Option.map_eq_some_iff.mp h
      obtain ⟨rfl, cmds, rfl⟩ := sendCmd_cases he hs
      exact ⟨_, Function.update_self .., .silent rfl fun _ => rfl, .nothing _⟩
  case h_3 | h_16 =>
      obtain ⟨⟨answer, s₁⟩, hs, heq⟩ := Option.map_eq_some_iff.mp h
      obtain ⟨-, rfl⟩ := takeAnswer_cases he hs
      cases answer <;> cases heq <;>
        exact ⟨_, Function.update_self .., .silent rfl fun _ => rfl, .nothing _⟩
  -- a relay of CONNECT
  case h_5 | h_10 =>
      cases h
      exact ⟨_, Function.update_self .., .silent rfl fun _ => rfl, .dropReceiver sm _ _⟩
  case h_6 =>
      obtain ⟨hdata, htasks, hfetched⟩ := recvTcp_spec h
      exact ⟨_, (congrFun htasks r).trans hr, .silent hdata fun _ => rfl, hfetched⟩
  case h_7 =>
      obtain ⟨s₁, hs, rfl⟩ := Option.map_eq_some_iff.mp h
      obtain ⟨hdata, -, hfetched⟩ := recvTcp_spec hs
      exact ⟨_, Function.update_self .., .silent hdata fun _ => rfl, hfetched⟩
  case h_9 | h_11 | h_13 => exact upload_passes he (fun _ _ => rfl) h
  case h_12 =>
      cases h
      refine ⟨_, Function.update_self .., .silent ?_ fun _ => rfl, ?_⟩
      · split <;> rfl
      · split <;> exact .nothing _
  -- an association
  case h_19 =>
      obtain ⟨stack, hrecv, rfl⟩ := Option.map_eq_some_iff.mp h
      exact ⟨_, hr, .silent rfl fun _ => rfl, .step hrecv (fun _ => rfl) fun _ => rfl⟩
  case h_22 =>
      obtain ⟨⟨s₁, ok⟩, hs, rfl⟩ := Option.map_eq_some_iff.mp h
      obtain ⟨rfl, data, rfl, hdata⟩ := sendData_cases he hs
      exact ⟨_, Function.update_self .., .message hdata fun _ => rfl, .nothing _⟩
  case h_23 =>
      obtain ⟨⟨s₁, ok⟩, hs, rfl⟩ := Option.map_eq_some_iff.mp h
      obtain ⟨rfl, data, rfl, hdata⟩ := sendData_cases he hs
      exact ⟨_, Function.update_self .., .message hdata fun _ => rfl, .dropUdpReceiver sm _ _⟩
  case h_8 | h_20 =>
      rw [Option.ite_none_right_eq_some, Option.some.injEq] at h
      obtain ⟨-, rfl⟩ := h
      exact ⟨_, Function.update_self .., .silent rfl fun _ => rfl, .nothing _⟩
  case h_14 =>
      rename_i ok
      cases h
      cases ok <;> exact ⟨_, Function.update_self .., .silent rfl fun _ => rfl, .nothing _⟩
  case h_24 => cases h
  all_goals
    cases h
    exact ⟨_, Function.update_self .., .silent rfl fun _ => rfl, .nothing _⟩

/-! ### What has been sent -/

/-- Where the datagrams are that were asked for on a connection; `hand` has not been sent. -/
structure Sends (id : ℕ) (s : Server) (l : Traffic) (hand : List (SocketAddr × Bytes)) : Prop where
  stream : s.stack.udpConns id ≠ none → l.given ++ packetsOf id s.data.items ++ hand = l.asked
  unopened : s.stack.nextId ≤ id →
    l.asked = [] ∧ l.given = [] ∧ packetsOf id s.data.items = [] ∧ hand = []
  held : ∀ r t, s.tasks r = some t → id ∈ t.holds → t.packets id = hand
  idle : (∀ r t, s.tasks r = some t → id ∉ t.holds) → hand = []
  last : s.data.items.Pairwise fun d d' => d = .udpClose id → packetFor id d' = []

lemma start_sends (id : ℕ) (iface : Interface) : Sends id (Server.start iface) .empty [] where
  stream _ := rfl
  unopened _ := ⟨rfl, rfl, rfl, rfl⟩
  held r t ht := by cases ht
  idle _ := rfl
  last := List.Pairwise.nil

/-- The netstack goes on, and may take a message. -/
lemma Sends.netstack {l' : Traffic} (h : Sends id s l hand) (popped : List DataIn)
    (hshape : Netstack.ShapeStep s.stack.shape s'.stack.shape)
    (htasks : s'.tasks = s.tasks) (hdata : s.data.items = popped ++ s'.data.items)
    (hasked : l'.asked = l.asked) (hgiven : l'.given
      = l.given ++ if (s.stack.udpConns id).isSome then packetsOf id popped else []) :
    Sends id s' l' hand := by
  have hqueue : packetsOf id s.data.items = packetsOf id popped ++ packetsOf id s'.data.items := by
    rw [hdata, packetsOf_append]
  have hfresh : s.stack.nextId ≤ id →
      l'.asked = [] ∧ l'.given = [] ∧ packetsOf id s'.data.items = [] ∧ hand = [] := by
    intro hle
    obtain ⟨hnoask, hnogiven, hnone, hhand⟩ := h.unopened hle
    rw [hqueue, List.append_eq_nil_iff] at hnone
    refine ⟨hasked.trans hnoask, ?_, hnone.2, hhand⟩
    rw [hgiven, hnogiven, hnone.1, ite_self]
    rfl
  refine ⟨fun hid => ?_, fun hle => hfresh (Nat.le_trans hshape.nextId_le hle), ?_, ?_, ?_⟩
  · rcases Netstack.udpConns_before hshape hid with hle | hold
    · obtain ⟨hnoask, hnogiven, hnone, hhand⟩ := hfresh hle
      rw [hnoask, hnogiven, hnone, hhand]
      rfl
    · rw [hasked, ← h.stream hold, hgiven, if_pos (Option.isSome_iff_ne_none.mpr hold), hqueue]
      simp only [List.append_assoc]
  · rw [htasks]
    exact h.held
  · rw [htasks]
    exact h.idle
  · have hlast := h.last
    rw [hdata] at hlast
    exact (List.pairwise_append.mp hlast).2.1

/-- A command is queued, or a task begins. -/
lemma Sends.quietly (h : Sends id s l hand) (hstack : s'.stack = s.stack) (hdata : s'.data = s.data)
    (htasks : ∀ r t, s'.tasks r = some t → s.tasks r = some t ∨ t.holds = [])
    (hkeep : ∀ r t, s.tasks r = some t → s'.tasks r = some t) : Sends id s' l hand where
  stream := by
    rw [hstack, hdata]
    exact h.stream
  unopened := by
    rw [hstack, hdata]
    exact h.unopened
  held r t ht hid := by
    rcases htasks r t ht with hold | hnone
    · exact h.held r t hold hid
    · rw [hnone] at hid
      cases hid
  idle hfree := h.idle fun r t ht => hfree r t (hkeep r t ht)
  last := by
    rw [hdata]
    exact h.last

lemma asks_eq_nil (ht : id ∉ t.holds) (ho : id ∉ answerIds (s.oneshot r)) :
    t.asks id s r a = [] := by
  unfold Task.asks
  split
  · exact if_neg ho
  · refine if_neg ?_
    rintro rfl
    exact ht (List.mem_append_left _ (List.mem_singleton_self _))
  · refine if_neg ?_
    rintro rfl
    exact ht (List.mem_singleton_self _)
  · rfl

/-- The tasks after a step of one of them. -/
lemma Acted.tasks_cases (h : Acted x r t t' s s') {r' : ℕ} {t₁ : Task}
    (ht₁ : s'.tasks r' = some t₁) : r' = r ∧ t₁ = t' ∨ r' ≠ r ∧ s.tasks r' = some t₁ := by
  rw [h.tasks, Function.update_apply] at ht₁
  split at ht₁
  · rename_i heq
    cases ht₁
    exact .inl ⟨heq, rfl⟩
  · rename_i hne
    exact .inr ⟨hne, ht₁⟩

/-- No task opens or closes a connection by itself. -/
lemma Acted.udpConns (h : Acted x r t t' s s') (hid : s'.stack.udpConns id ≠ none) :
    s.stack.udpConns id ≠ none := by
  intro hnone
  have hends := h.did.stack.udp id
  rw [NetStack.udpEnds, NetStack.udpEnds, hnone] at hends
  exact hid (Option.map_eq_none_iff.mp hends)

lemma Acted.nextId (h : Acted x r t t' s s') : s'.stack.nextId = s.stack.nextId :=
  congrArg Netstack.Shape.nextId h.did.stack.shape

lemma mem_holds_of_task (hr : s.tasks r = some t) (hid : id ∈ t.holds) : id ∈ s.holds r := by
  rw [Server.holds_eq hr]
  exact List.mem_append_left _ hid

/-- What the holder of a connection has in hand. -/
lemma Sends.hand_eq (h : Sends id s l hand) (hb : Books s) (hr : s.tasks r = some t)
    (hhold : id ∈ s.holds r) : hand = t.packets id := by
  by_cases hid : id ∈ t.holds
  · exact (h.held r t hr hid).symm
  · rw [packets_eq_nil hid]
    refine h.idle fun r' t₁ ht₁ hid₁ => hid ?_
    obtain rfl := hb.apart r' r id (mem_holds_of_task ht₁ hid₁) hhold
    obtain rfl := Option.some.inj (hr.symm.trans ht₁)
    exact hid₁

/-- Nothing is sent behind the close message. -/
lemma Sends.last_append (h : Sends id s l hand) (hb : Books s) {ds : List DataIn}
    (hitems : s'.data.items = s.data.items ++ ds) (hlen : ds.length ≤ 1)
    (hds : s.Gone id → packetsOf id ds = []) :
    s'.data.items.Pairwise fun d d' => d = .udpClose id → packetFor id d' = [] := by
  rw [hitems, List.pairwise_append]
  refine ⟨h.last, ?_, ?_⟩
  · rcases ds with _ | ⟨d, _ | ⟨d', ds⟩⟩
    · exact List.Pairwise.nil
    · exact List.pairwise_singleton _ _
    · simp at hlen
  · rintro d hd d' hd' rfl
    exact packetsOf_eq_nil.mp (hds (.inr (hb.udpClose id hd))) d' hd'

section Acting

variable {l' : Traffic} {ds : List DataIn}

/-- A step of the task that has the connection, or finds it in its oneshot channel. -/
lemma Sends.holder (h : Sends id s l hand) (hb : Books s) (hr : s.tasks r = some t)
    (hacted : Acted x r t t' s s') (hhold : id ∈ s.holds r)
    (hitems : s'.data.items = s.data.items ++ ds) (hlen : ds.length ≤ 1)
    (hsent : packetsOf id ds ++ t'.packets id = t.packets id ++ t.asks id s r a)
    (hasked : l'.asked = l.asked ++ t.asks id s r a) (hgiven : l'.given = l.given) :
    Sends id s' l' (t'.packets id) where
  stream hid := by
    rw [hgiven, hasked, hitems, packetsOf_append, ← h.stream (hacted.udpConns hid),
      h.hand_eq hb hr hhold]
    simp only [List.append_assoc, hsent]
  unopened hle := by
    rw [hacted.nextId] at hle
    exact absurd (hb.handed r id hhold).below (Nat.not_lt.mpr hle)
  held r' t₁ ht₁ hid := by
    rcases hacted.tasks_cases ht₁ with ⟨-, rfl⟩ | ⟨hne, hold⟩
    · rfl
    · exact absurd (hb.apart r' r id (mem_holds_of_task hold hid) hhold) hne
  idle hfree := by
    refine packets_eq_nil (hfree r t' ?_)
    rw [hacted.tasks, Function.update_self]
  last := h.last_append hb hitems hlen fun hgone => absurd hgone (hb.kept r id hhold)

/-- A step of another task. -/
lemma Sends.bystander (h : Sends id s l hand) (hb : Books s) (hr : s.tasks r = some t)
    (hacted : Acted x r t t' s s') (hfar : id ∉ s.holds r)
    (hitems : s'.data.items = s.data.items ++ ds) (hlen : ds.length ≤ 1)
    (hsent : packetsOf id ds ++ t'.packets id = t.packets id ++ t.asks id s r a)
    (hasked : l'.asked = l.asked ++ t.asks id s r a) (hgiven : l'.given = l.given) :
    Sends id s' l' hand := by
  rw [Server.holds_eq hr, List.mem_append, not_or] at hfar
  have hfar' : id ∉ t'.holds := by
    intro hid
    refine (List.mem_append.mp (hacted.holds.subset ?_)).elim hfar.1 hfar.2
    exact List.mem_append_right _ (List.mem_append_left _ hid)
  rw [packets_eq_nil hfar.1, packets_eq_nil hfar', asks_eq_nil hfar.1 hfar.2, List.append_nil,
    List.append_nil] at hsent
  rw [asks_eq_nil hfar.1 hfar.2, List.append_nil] at hasked
  have hqueue : packetsOf id s'.data.items = packetsOf id s.data.items := by
    rw [hitems, packetsOf_append, hsent, List.append_nil]
  refine ⟨fun hid => ?_, fun hle => ?_, fun r' t₁ ht₁ hid => ?_, fun hfree => ?_,
    h.last_append hb hitems hlen fun _ => hsent⟩
  · rw [hgiven, hasked, hqueue]
    exact h.stream (hacted.udpConns hid)
  · rw [hgiven, hasked, hqueue]
    exact h.unopened (hacted.nextId ▸ hle)
  · rcases hacted.tasks_cases ht₁ with ⟨-, rfl⟩ | ⟨-, hold⟩
    · exact absurd hid hfar'
    · exact h.held r' t₁ hold hid
  · refine h.idle fun r' t₁ ht₁ => ?_
    by_cases hne : r' = r
    · subst hne
      obtain rfl := Option.some.inj (hr.symm.trans ht₁)
      exact hfar.1
    · refine hfree r' t₁ ?_
      rw [hacted.tasks, Function.update_of_ne hne]
      exact ht₁

end Acting

/-! ### Runs -/

/-- What holds of a connection while the netstack of the server runs. -/
structure Relaying (id : ℕ) (s : Server) (l : Traffic) : Prop where
  books : Books s
  sends : ∃ hand, Sends id s l hand
  accounted : Accounted id (s.stack, l.conn)

lemma start_relaying (id : ℕ) (iface : Interface) : Relaying id (Server.start iface) .empty where
  books := start_books iface
  sends := ⟨[], start_sends id iface⟩
  accounted := Netstack.spawned_accounted id iface

/-- **One step of the server.** -/
lemma step_relaying {e : Ev} (he : ¬ s.Ended) (h : Relaying id s l)
    (hstep : step sm s e = some s') : Relaying id s' (l.see id s e) := by
  have hbooks := (step_books he h.books hstep).1
  obtain ⟨hand, hsends⟩ := h.sends
  cases e with
  | stack e =>
      simp only [step, Option.ite_none_right_eq_some] at hstep
      obtain ⟨hown, hstep⟩ := hstep
      obtain ⟨stack, hstack, rfl⟩ := Option.map_eq_some_iff.mp hstep
      have hgiving : e.giving s.stack id = [] := by
        cases e <;> first | rfl | cases hown
      have hrec : Netstack.record sm id (s.stack, l.conn) e
          = some (stack, l.conn.see id s.stack e) :=
        Option.map_eq_some_iff.mpr ⟨stack, hstack, rfl⟩
      refine ⟨hbooks, ⟨hand, hsends.netstack [] (Netstack.step_shape hstack) rfl rfl rfl ?_⟩,
        Netstack.step_accounted _ e _ h.accounted hrec⟩
      rw [packetsOf, List.flatMap_nil, ite_self, List.append_nil]
      show (l.conn.given ++ e.giving s.stack id).map Prod.fst = l.given
      rw [hgiving, List.append_nil]
      rfl
  | cmd slot err =>
      obtain ⟨⟨c, cmds⟩, -, hstep⟩ := Option.bind_eq_some_iff.mp hstep
      obtain ⟨stack, hstack, rfl⟩ := Option.map_eq_some_iff.mp hstep
      refine ⟨hbooks, ⟨hand, hsends.netstack [] (Netstack.step_shape hstack) rfl rfl rfl ?_⟩,
        Fetched.quiet (.step hstack (fun _ => rfl) fun _ => rfl) h.accounted⟩
      rw [packetsOf, List.flatMap_nil, ite_self, List.append_nil]
      rfl
  | data room =>
      obtain ⟨⟨d, data⟩, hrecv, hstep⟩ := Option.bind_eq_some_iff.mp hstep
      obtain ⟨stack, hstack, rfl⟩ := Option.map_eq_some_iff.mp hstep
      have hitems : s.data.items = [d] ++ data.items := Mailbox.recv_eq_some hrecv
      have hsee : l.see id s (.data room)
          = { l with conn := l.conn.see id s.stack (.data d room) } := by
        rw [Traffic.see, hitems]
        rfl
      have hrec : Netstack.record sm id (s.stack, l.conn) (.data d room)
          = some (stack, l.conn.see id s.stack (.data d room)) :=
        Option.map_eq_some_iff.mpr ⟨stack, hstack, rfl⟩
      rw [hsee]
      refine ⟨hbooks, ⟨hand, hsends.netstack [d] (Netstack.step_shape hstack) rfl hitems rfl ?_⟩,
        Netstack.step_accounted _ (.data d room) _ h.accounted hrec⟩
      show (l.conn.given ++ (Netstack.Ev.data d room).giving s.stack id).map Prod.fst = _
      rw [List.map_append, giving_packets]
      rfl
  | setAddrs v4 v6 =>
      obtain ⟨⟨s₁, ok⟩, hsend, rfl⟩ := Option.map_eq_some_iff.mp hstep
      obtain ⟨-, cmds, rfl⟩ := sendCmd_cases he hsend
      exact ⟨hbooks, ⟨hand, hsends.quietly rfl rfl (fun _ _ ht => .inl ht) fun _ _ ht => ht⟩,
        h.accounted⟩
  | accept r q =>
      simp only [step, Option.ite_none_right_eq_some, Option.some.injEq] at hstep
      obtain ⟨hr, rfl⟩ := hstep
      refine ⟨hbooks, ⟨hand, hsends.quietly rfl rfl (fun r' t ht => ?_) fun r' t ht => ?_⟩,
        h.accounted⟩
      · by_cases heq : r' = r
        · rw [heq] at ht
          simp only [Server.goto, Function.update_self, Option.some.injEq] at ht
          exact .inr (ht ▸ q.task_holds)
        · simp only [Server.goto, Function.update_of_ne heq] at ht
          exact .inl ht
      · have hne : r' ≠ r := by
          rintro rfl
          cases hr.symm.trans ht
        exact (Function.update_of_ne hne ..).trans ht
  | task r a =>
      obtain ⟨t, hr, hact⟩ := Option.bind_eq_some_iff.mp hstep
      obtain ⟨t', hacted⟩ := task_acted he hr (h.books.facts r t hr) (h.books.handed r) hact
      obtain ⟨t'', hr', ⟨ds, hitems, hlen, hsent⟩, hfetched⟩ := act_passes he hr hact
      have hsame : s'.tasks r = some t' := by
        rw [hacted.tasks, Function.update_self]
      obtain rfl := Option.some.inj (hsame.symm.trans hr')
      have hsee : l.see id s (.task r a) = { l with
          asked := l.asked ++ t.asks id s r a
          conn := { l.conn with taken := l.conn.taken ++ t.takes id s.stack a } } := by
        rw [Traffic.see, hr]
      rw [hsee]
      refine ⟨hbooks, ?_, hfetched id l.conn h.accounted⟩
      by_cases hhold : id ∈ s.holds r
      · exact ⟨_, hsends.holder h.books hr hacted hhold hitems hlen (hsent id) rfl rfl⟩
      · exact ⟨_, hsends.bystander h.books hr hacted hhold hitems hlen (hsent id) rfl rfl⟩

/-- **The datagrams of a connection**, over every run of the server. What its task was asked to
send, the netstack has given to the socket of the connection, or it is in the data channel, or in
the hand of the one task that has the connection, in this order; none comes behind the close
message, so all of it has been given to the socket when that message is handled. The socket has
accepted what it was given, in order, but for what it had no room for. What has come for it the
task has taken, or it waits in order, as long as the task has not dropped its receiver. -/
theorem datagrams_conserved {iface : Interface} {es : List Ev} {st : UdpState}
    (h : Machine.run (record sm id) (Server.start iface, .empty) es = some (s, l))
    (he : ¬ s.Ended) (hid : s.stack.udpConns id = some st) :
    (∃ hand, l.given ++ packetsOf id s.data.items ++ hand = l.asked
      ∧ (∀ r t, s.tasks r = some t → id ∈ t.holds → t.packets id = hand)
      ∧ ((∀ r t, s.tasks r = some t → id ∉ t.holds) → hand = []))
    ∧ (s.data.items.Pairwise fun d d' => d = .udpClose id → packetFor id d' = [])
    ∧ (.udpClose id ∈ s.data.items → l.given ++ packetsOf id s.data.items = l.asked)
    ∧ (∀ rest, s.data.items = .udpClose id :: rest → l.given = l.asked)
    ∧ (∃ u, s.stack.udp st.handle = some u ∧ u.sent = Netstack.accepted l.conn.given)
    ∧ (st.rxDropped = false → l.conn.taken ++ s.stack.waiting id = l.conn.came) := by
  have hI : s.Ended ∨ Relaying id s l := by
    refine Machine.run_invariant
      (I := fun w : Server × Traffic => w.1.Ended ∨ Relaying id w.1 w.2) ?_
      (.inr (start_relaying id iface)) h
    rintro ⟨s, l⟩ e w hI hstep
    obtain ⟨s', hs', rfl⟩ := Option.map_eq_some_iff.mp hstep
    by_cases he : s.Ended
    · exact .inl (step_ended hs' he)
    · exact .inr (step_relaying he (hI.resolve_left he) hs')
  obtain ⟨hb, ⟨hand, hsends⟩, hacc⟩ := hI.resolve_left he
  have hentry : s.stack.udpConns id ≠ none := hid.trans_ne (Option.some_ne_none st)
  have hstream := hsends.stream hentry
  -- the task that has sent the close message has let go of the connection
  have hclosed : .udpClose id ∈ s.data.items → l.given ++ packetsOf id s.data.items = l.asked := by
    intro hclose
    have hgone : s.Gone id := .inr (hb.udpClose id hclose)
    have hfree : hand = [] := hsends.idle fun r t ht hheld =>
      hb.kept r id (mem_holds_of_task ht hheld) hgone
    rw [← hstream, hfree, List.append_nil]
  refine ⟨⟨hand, hstream, hsends.held, hsends.idle⟩, hsends.last, hclosed, ?_, ?_,
    hacc.balanced st hid⟩
  · intro rest hitems
    have hlast := hsends.last
    rw [hitems, List.pairwise_cons] at hlast
    have hnone : packetsOf id s.data.items = [] := by
      rw [hitems, packetsOf_cons, packetsOf_eq_nil.mpr fun d hd => hlast.1 d hd rfl]
      rfl
    have hall := hclosed (by rw [hitems]; exact List.mem_cons_self)
    rwa [hnone, List.append_nil] at hall
  · obtain ⟨u, hu⟩ := Netstack.exists_udpSocket hacc.matched hid
    exact ⟨u, hu, (Netstack.sent_eq hid hu).symm.trans (hacc.accepts hentry)⟩

/-- Four datagrams of a client, of which two are handled, one queued and one in hand; the socket
has room for the first only. A reply to it is taken, and another waits. -/
def datagramRun : List Ev :=
  turn [] ++ [.accept 0 .associate, .task 0 (.replied true), .task 0 .sent, .cmd 0 none,
    .task 0 .answered, .task 0 (.datagram dnsServer [1]), .task 0 .sent,
    .task 0 (.datagram dnsServer [2]), .task 0 .sent]
    ++ turn [1] ++ [.data true, .data false, .stack .dataDone]
    ++ [.stack (.poll (fun _ => ⟨.closed, [], 0⟩) (fun _ => [(dnsServer, [7]), (dnsServer, [8])]) []
      false []), .stack (.tcpDone [1]), .stack .serviceUdp, .stack .deliverUdp, .stack .deliverUdp,
      .task 0 .packet, .task 0 (.datagram dnsServer [3]), .task 0 .sent,
      .task 0 (.datagram dnsServer [4])]

/-- Nothing else is lost, in either direction. -/
theorem datagrams_conserved_sample : ∃ s l st,
    Machine.run (record Netstack.stdSmoltcp 1) (Server.start Netstack.sampleIface, .empty)
        datagramRun = some (s, l)
      ∧ l.asked = [(dnsServer, [1]), (dnsServer, [2]), (dnsServer, [3]), (dnsServer, [4])]
      ∧ l.conn.given = [((dnsServer, [1]), true), ((dnsServer, [2]), false)]
      ∧ s.stack.udpConns 1 = some st
      ∧ (∃ hand, l.given ++ packetsOf 1 s.data.items ++ hand = l.asked)
      ∧ (∃ u, s.stack.udp st.handle = some u ∧ u.sent = [(dnsServer, [1])])
      ∧ l.conn.taken = [(dnsServer, [7])] ∧ l.conn.taken ++ s.stack.waiting 1 = l.conn.came := by
  obtain ⟨s, l, hs, hasked, hgiven, he, st, hid, htaken, hlive⟩ : ∃ s l,
      Machine.run (record Netstack.stdSmoltcp 1) (Server.start Netstack.sampleIface, .empty)
          datagramRun = some (s, l)
        ∧ l.asked = [(dnsServer, [1]), (dnsServer, [2]), (dnsServer, [3]), (dnsServer, [4])]
        ∧ l.conn.given = [((dnsServer, [1]), true), ((dnsServer, [2]), false)] ∧ ¬ s.Ended
        ∧ ∃ st, s.stack.udpConns 1 = some st
        ∧ l.conn.taken = [(dnsServer, [7])] ∧ st.rxDropped = false :=
    ⟨_, _, rfl, rfl, rfl, by decide, _, rfl, rfl, rfl⟩
  obtain ⟨⟨hand, hsent, -⟩, -, -, -, ⟨u, hu, hacc⟩, hcame⟩ := datagrams_conserved hs he hid
  rw [hgiven] at hacc
  exact ⟨s, l, st, hs, hasked, hgiven, hid, ⟨hand, hsent⟩, ⟨u, hu, hacc⟩, htaken, hcame hlive⟩

end Aether.Socks
