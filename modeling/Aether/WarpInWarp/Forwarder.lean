import Aether.Netstack.Datagrams
import Aether.Socks.Server

/-!
The way of the inner tunnel through the outer one (`spawn_udp_forwarder`).

The inner tunnel dials a socket of this host. One task reads the socket, notes the sender, and
sends what it has read to the edge over a UDP connection of the outer netstack. The other takes
what comes on this connection, and sends it to the sender that was noted last. An event is what
the netstack or one of the tasks does next; a ledger beside them sees all of it.

* `step_kept`: what every event preserves.
* `forwarded_in_order`: **what is read goes to the edge, in order, and what comes back goes to
  the sender noted last**, in order too. A reply is dropped only before the first sender.
-/

namespace Aether.WarpInWarp

open Machine
open Netstack (NetStack Smoltcp DataIn Handle Interface appQueue Accounted)
open Socks (own)

/-- What `open_udp` has answered. -/
inductive Conn where
  | opening
  | refused
  | opened (id : ℕ)
  deriving DecidableEq

/-- The await of the task that reads the socket: `recv_from`, the lock, `send_to`. -/
inductive Up where
  | receiving
  | locking (source : SocketAddr) (data : Bytes)
  | sending (data : Bytes)
  | ended

/-- The await of the other task: `recv`, the lock, `send_to`. -/
inductive Down where
  | receiving
  | locking (data : Bytes)
  | sending (data : Bytes) (dst : SocketAddr)
  | ended

structure Forwarder where
  stack : NetStack
  dataIn : Mailbox DataIn appQueue
  conn : Conn
  innerPeer : Option SocketAddr
  up : Up
  down : Down

namespace Forwarder

def start (iface : Interface) : Forwarder where
  stack := .spawned iface
  dataIn := .empty
  conn := .opening
  innerPeer := none
  up := .receiving
  down := .receiving

/-- The netstack has returned or panicked: the receiver of its channel is dropped. -/
def Ended (s : Forwarder) : Prop := s.stack.pc = .stopped ∨ s.stack.pc = .panicked

instance (s : Forwarder) : Decidable s.Ended := inferInstanceAs (Decidable (_ ∨ _))

end Forwarder

inductive Ev where
  /-- The netstack goes on by itself, handles the command of `open_udp`, or takes the next data
  message. -/
  | stack (e : Netstack.Ev)
  | opened (h : Handle) (err : Option String)
  | data (room : Bool)
  /-- `recv_from`, or its error; the lock; `send_to` of the connection. -/
  | received (r : Option (SocketAddr × Bytes))
  | noted
  | sent
  /-- `recv`; the lock; `send_to` of the socket, whatever its result. -/
  | reply
  | looked
  | answered

def Up.read : Option (SocketAddr × Bytes) → Up
  | some (source, data) => .locking source data
  | none => .ended

/-- A reply goes to the peer, if there is one. -/
def Down.look (data : Bytes) : Option SocketAddr → Down
  | some dst => .sending data dst
  | none => .receiving

/-- The first datagram in the queue of the connection. -/
def front (s : NetStack) (id : ℕ) : Option (SocketAddr × Bytes) :=
  ((s.udpConns id).bind fun st => st.toApp.recv).map Prod.fst

def step (sm : Smoltcp) (remote : SocketAddr) (s : Forwarder) : Ev → Option Forwarder
  | .stack e =>
      if own e then (Netstack.step sm s.stack e).map fun stack => { s with stack } else none
  | .opened h err =>
      if s.conn = .opening then
        (Netstack.step sm s.stack (.cmd (.openUdp 0) h err)).map fun stack =>
          { s with stack, conn := if err = none then .opened s.stack.nextId else .refused }
      else none
  | .data room =>
      s.dataIn.recv.bind fun (d, dataIn) =>
        (Netstack.step sm s.stack (.data d room)).map fun stack => { s with stack, dataIn }
  | .received r =>
      match s.conn, s.up with
      | .opened _, .receiving => some { s with up := .read r }
      | _, _ => none
  | .noted =>
      match s.up with
      | .locking source data => some { s with innerPeer := some source, up := .sending data }
      | _ => none
  | .sent =>
      match s.conn, s.up with
      | .opened id, .sending data =>
          -- the channel is closed
          if s.Ended then some { s with up := .ended }
          else
            (s.dataIn.send (.udp id remote data)).map fun dataIn =>
              { s with dataIn, up := .receiving }
      | _, _ => none
  | .reply =>
      match s.conn, s.down with
      | .opened id, .receiving =>
          match front s.stack id with
          | some (_, data) =>
              (Netstack.step sm s.stack (.appRecvUdp id)).map fun stack =>
                { s with stack, down := .locking data }
          | none => if s.Ended then some { s with down := .ended } else none
      | _, _ => none
  | .looked =>
      match s.down with
      | .locking data => some { s with down := .look data s.innerPeer }
      | _ => none
  | .answered =>
      match s.down with
      | .sending _ _ => some { s with down := .receiving }
      | _ => none

/-! ### What a step can do -/

variable {sm : Smoltcp} {remote : SocketAddr} {id : ℕ} {s s' : Forwarder} {l : Ledger} {e : Ev}

/-- What each event does, with what enabled it. -/
inductive Stepped (sm : Smoltcp) (remote : SocketAddr) (s : Forwarder) : Ev → Forwarder → Prop where
  | stack {e : Netstack.Ev} {n : NetStack} : own e = true → Netstack.step sm s.stack e = some n →
      Stepped sm remote s (.stack e) { s with stack := n }
  | opened {h : Handle} {err : Option String} {n : NetStack} : s.conn = .opening →
      Netstack.step sm s.stack (.cmd (.openUdp 0) h err) = some n →
      Stepped sm remote s (.opened h err) { s with
        stack := n, conn := if err = none then .opened s.stack.nextId else .refused }
  | data {d : DataIn} {room : Bool} {dataIn : Mailbox DataIn appQueue} {n : NetStack} :
      s.dataIn.items = d :: dataIn.items → Netstack.step sm s.stack (.data d room) = some n →
      Stepped sm remote s (.data room) { s with stack := n, dataIn }
  | received {id : ℕ} {r : Option (SocketAddr × Bytes)} : s.conn = .opened id →
      s.up = .receiving → Stepped sm remote s (.received r) { s with up := .read r }
  | noted {source : SocketAddr} {data : Bytes} : s.up = .locking source data →
      Stepped sm remote s .noted { s with innerPeer := some source, up := .sending data }
  | closed {id : ℕ} {data : Bytes} : s.conn = .opened id → s.up = .sending data → s.Ended →
      Stepped sm remote s .sent { s with up := .ended }
  | sent {id : ℕ} {data : Bytes} {dataIn : Mailbox DataIn appQueue} : s.conn = .opened id →
      s.up = .sending data → dataIn.items = s.dataIn.items ++ [.udp id remote data] →
      Stepped sm remote s .sent { s with dataIn, up := .receiving }
  | reply {id : ℕ} {source : SocketAddr} {data : Bytes} {n : NetStack} : s.conn = .opened id →
      s.down = .receiving → front s.stack id = some (source, data) →
      Netstack.step sm s.stack (.appRecvUdp id) = some n →
      Stepped sm remote s .reply { s with stack := n, down := .locking data }
  | drained {id : ℕ} : s.conn = .opened id → s.down = .receiving → front s.stack id = none →
      s.Ended → Stepped sm remote s .reply { s with down := .ended }
  | looked {data : Bytes} : s.down = .locking data →
      Stepped sm remote s .looked { s with down := .look data s.innerPeer }
  | answered {data : Bytes} {dst : SocketAddr} : s.down = .sending data dst →
      Stepped sm remote s .answered { s with down := .receiving }

/-- **What a step can do.** -/
lemma stepped (h : step sm remote s e = some s') : Stepped sm remote s e s' := by
  cases e with
  | stack e =>
      simp only [step, Option.ite_none_right_eq_some] at h
      obtain ⟨n, hn, rfl⟩ := Option.map_eq_some_iff.mp h.2
      exact .stack h.1 hn
  | opened slot err =>
      simp only [step, Option.ite_none_right_eq_some] at h
      obtain ⟨n, hn, rfl⟩ := Option.map_eq_some_iff.mp h.2
      exact .opened h.1 hn
  | data room =>
      obtain ⟨⟨d, dataIn⟩, hd, h⟩ := Option.bind_eq_some_iff.mp h
      obtain ⟨n, hn, rfl⟩ := Option.map_eq_some_iff.mp h
      exact .data (Mailbox.recv_eq_some hd) hn
  | received r =>
      simp only [step] at h
      split at h
      · rename_i hconn hup; cases h; exact .received hconn hup
      · cases h
  | noted =>
      simp only [step] at h
      split at h
      · rename_i hup; cases h; exact .noted hup
      · cases h
  | sent =>
      simp only [step] at h
      split at h
      · rename_i hconn hup
        split at h
        · rename_i hended; cases h; exact .closed hconn hup hended
        · obtain ⟨dataIn, hd, rfl⟩ := Option.map_eq_some_iff.mp h
          exact .sent hconn hup (Mailbox.send_eq_some hd).1
      · cases h
  | reply =>
      simp only [step] at h
      split at h
      · rename_i hconn hdown
        split at h
        · rename_i hfront
          obtain ⟨n, hn, rfl⟩ := Option.map_eq_some_iff.mp h
          exact .reply hconn hdown hfront hn
        · rename_i hfront
          rw [Option.ite_none_right_eq_some] at h
          obtain ⟨hended, h⟩ := h
          cases h
          exact .drained hconn hdown hfront hended
      · cases h
  | looked =>
      simp only [step] at h
      split at h
      · rename_i hdown; cases h; exact .looked hdown
      · cases h
  | answered =>
      simp only [step] at h
      split at h
      · rename_i hdown; cases h; exact .answered hdown
      · cases h

/-! ### The ledger -/

/-- What the tasks do under the lock: a sender is noted, or looked up for a reply. -/
inductive Note where
  | sender (source : SocketAddr)
  | reply (data : Bytes) (dst : Option SocketAddr)
  deriving DecidableEq

/-- What was read from the socket, what the netstack took from its channel, the datagrams of the
connection, what was done under the lock, and what was sent on the socket. -/
structure Ledger where
  read : List (SocketAddr × Bytes)
  handled : List DataIn
  conn : Netstack.Ledger
  notes : List Note
  out : List (SocketAddr × Bytes)

namespace Ledger

def empty : Ledger := ⟨[], [], ⟨[], [], []⟩, [], []⟩

/-- A step of the netstack. -/
def follow (s : Forwarder) (l : Ledger) (e : Netstack.Ev) : Ledger :=
  match s.conn with
  | .opened id => { l with conn := l.conn.see id s.stack e }
  | _ => l

def see (s : Forwarder) (l : Ledger) : Ev → Ledger
  | .stack e => l.follow s e
  | .data room =>
      match s.dataIn.items with
      | d :: _ => { l.follow s (.data d room) with handled := l.handled ++ [d] }
      | [] => l
  | .received r => { l with read := l.read ++ r.toList }
  | .noted =>
      match s.up with
      | .locking source _ => { l with notes := l.notes ++ [.sender source] }
      | _ => l
  | .reply =>
      match s.conn with
      | .opened id => l.follow s (.appRecvUdp id)
      | _ => l
  | .looked =>
      match s.down with
      | .locking data => { l with notes := l.notes ++ [.reply data s.innerPeer] }
      | _ => l
  | .answered =>
      match s.down with
      | .sending data dst => { l with out := l.out ++ [(dst, data)] }
      | _ => l
  | .opened .. | .sent => l

end Ledger

/-- The forwarder beside its ledger. -/
def record (sm : Smoltcp) (remote : SocketAddr) (w : Forwarder × Ledger) (e : Ev) :
    Option (Forwarder × Ledger) :=
  (step sm remote w.1 e).map fun s => (s, w.2.see w.1 e)

/-- What the tasks have in hand. -/
def Up.hand (id : ℕ) (remote : SocketAddr) : Up → List DataIn
  | .locking _ data | .sending data => [.udp id remote data]
  | _ => []

def Up.source : Up → List SocketAddr
  | .locking source _ => [source]
  | _ => []

def Down.looking : Down → List Bytes
  | .locking data => [data]
  | _ => []

def Down.outgoing : Down → List (SocketAddr × Bytes)
  | .sending data dst => [(dst, data)]
  | _ => []

/-- The senders in the order of the notes. -/
def senders (notes : List Note) : List SocketAddr :=
  notes.filterMap fun
    | .sender source => some source
    | .reply _ _ => none

/-- The replies, with the peer that was looked up for each. -/
def replies (notes : List Note) : List (Bytes × Option SocketAddr) :=
  notes.filterMap fun
    | .sender _ => none
    | .reply data dst => some (data, dst)

/-- The replies that have a peer. -/
def answers (notes : List Note) : List (SocketAddr × Bytes) :=
  (replies notes).filterMap fun x => x.2.map fun dst => (dst, x.1)

/-- Each reply is for the last sender before it. -/
def Addressed (notes : List Note) : Prop :=
  ∀ front data dst back, notes = front ++ .reply data dst :: back →
    dst = (senders front).getLast?

lemma addressed_concat {notes : List Note} {x : Note} (h : Addressed notes)
    (hx : ∀ data dst, x = .reply data dst → dst = (senders notes).getLast?) :
    Addressed (notes ++ [x]) := by
  intro front data dst back heq
  rcases List.append_eq_append_iff.mp heq with ⟨more, rfl, hmore⟩ | ⟨more, rfl, hmore⟩
  · cases more with
    | nil =>
        rw [List.nil_append, List.cons.injEq] at hmore
        rw [List.append_nil]
        exact hx data dst hmore.1
    | cons y ys =>
        have hlen := congrArg List.length hmore
        simp at hlen
  · cases more with
    | nil =>
        rw [List.nil_append, List.cons.injEq] at hmore
        rw [List.append_nil] at hx
        exact hx data dst hmore.1.symm
    | cons y ys =>
        rw [List.cons_append, List.cons.injEq] at hmore
        rw [← hmore.1] at h
        exact h front data dst ys rfl

/-! ### The invariant -/

/-- What every event preserves once the connection is open. -/
structure Kept (remote : SocketAddr) (id : ℕ) (s : Forwarder) (l : Ledger) : Prop where
  accounted : Accounted id (s.stack, l.conn)
  alive : s.stack.udpEnds id = some false
  given : l.conn.given.map (fun g => .udp id g.1.1 g.1.2) = l.handled
  upward : ∃ lost, l.handled ++ (s.dataIn.items ++ (s.up.hand id remote ++ lost))
    = l.read.map (fun x => .udp id remote x.2) ∧ (lost ≠ [] → s.Ended ∧ s.up = .ended)
  senders : senders l.notes ++ s.up.source = l.read.map Prod.fst
  innerPeer : s.innerPeer = (WarpInWarp.senders l.notes).getLast?
  replies : (replies l.notes).map Prod.fst ++ s.down.looking = l.conn.taken.map Prod.snd
  addressed : Addressed l.notes
  out : l.out ++ s.down.outgoing = answers l.notes

/-- And what it preserves before. -/
structure Fresh (s : Forwarder) (l : Ledger) : Prop where
  matched : s.stack.shape.Matched
  serving : Netstack.Serving s.stack
  dataIn : s.dataIn.items = []
  innerPeer : s.innerPeer = none
  up : s.up = .receiving
  down : s.down = .receiving
  ledger : l = .empty

lemma update_ne_none {α : Type} {f : ℕ → Option α} (hid : f id ≠ none) (id' : ℕ) (a : α) :
    Function.update f id' (some a) id ≠ none := by
  rw [Function.update_apply]
  split
  · exact Option.some_ne_none a
  · exact hid

/-- A data message keeps the entries of the UDP connections that it does not close. -/
lemma handleData_kept {n : NetStack} {d : DataIn} {room : Bool} (hid : n.udpConns id ≠ none)
    (hclose : d ≠ .udpClose id) : (Netstack.handleData n d room).udpConns id ≠ none := by
  cases d with
  | tcp | tcpClose =>
      rw [Netstack.handleData]
      split <;> exact hid
  | udp id' =>
      rw [Netstack.handleData]
      split
      · split <;> exact hid
      · exact hid
  | udpClose id' =>
      have hne : id ≠ id' := fun heq => hclose (heq ▸ rfl)
      rw [Netstack.handleData]
      split
      · split
        · dsimp only
          rw [Function.update_of_ne hne]
          exact hid
        · exact hid
      · exact hid

/-- So does every other step. -/
lemma udpConns_kept {n n' : NetStack} {e : Netstack.Ev} (h : Netstack.step sm n e = some n')
    (hid : n.udpConns id ≠ none) (hclose : ∀ room, e ≠ .data (.udpClose id) room) :
    n'.udpConns id ≠ none := by
  cases Netstack.stepped h with
  | serviceTcp _ hst ht => rwa [(Netstack.serviceConn_slot _ _ _ _).udpConns]
  | deliverTcp _ hst ht hd => rwa [(Netstack.deliverChunk_slot hd).udpConns]
  | finishTcp => rwa [(Netstack.finishConn_slot _ _ _).udpConns]
  | deliverUdp | dropUdpReceiver | appRecvUdp => exact update_ne_none hid _ _
  | @cmd c slot err =>
      cases c with
      | openTcp => cases err <;> exact hid
      | openUdp =>
          cases err with
          | some e => exact hid
          | none => exact update_ne_none hid _ _
      | setAddrs =>
          rw [Netstack.handleCmd]
          split <;> exact hid
  | @data d room =>
      exact handleData_kept (n := n.goto .dataIn) hid fun heq => hclose room (heq ▸ rfl)
  | _ => exact hid

/-- A step of the netstack that is nobody's close and nobody's drop. -/
lemma stack_kept {n n' : NetStack} {e : Netstack.Ev} {c : Netstack.Ledger}
    (h : Netstack.step sm n e = some n') (hacc : Accounted id (n, c))
    (halive : n.udpEnds id = some false) (hdrop : e.drops = false)
    (hclose : ∀ room, e ≠ .data (.udpClose id) room) :
    Accounted id (n', c.see id n e) ∧ n'.udpEnds id = some false := by
  have hrecord : Netstack.record sm id (n, c) e = some (n', c.see id n e) := by
    rw [Netstack.record, h]
    rfl
  refine ⟨Netstack.step_accounted _ _ _ hacc hrecord, ?_⟩
  obtain ⟨st, hst, -⟩ := Option.map_eq_some_iff.mp halive
  have hne := udpConns_kept h (hst ▸ Option.some_ne_none st) hclose
  obtain ⟨st', hst'⟩ := Option.ne_none_iff_exists'.mp hne
  have hends : n'.udpEnds id = some st'.rxDropped := by
    rw [NetStack.udpEnds, hst']
    rfl
  rcases (Netstack.step_ends h hdrop).udp id _ hends with ⟨-, hfalse⟩ | hold
  · rw [hends, hfalse]
  · rw [hends, ← hold, halive]

/-- The netstack does not come back. -/
lemma ended_step {e : Netstack.Ev} {n : NetStack} (h : Netstack.step sm s.stack e = some n)
    (hs' : s'.stack = n) (hended : s.Ended) : s'.Ended := by
  rw [Forwarder.Ended, hs', Netstack.step_ended h hended]
  exact hended

/-- While the reading task goes on, nothing is lost. -/
lemma Kept.upward_all (h : Kept remote id s l) (hup : s.up ≠ .ended) :
    l.handled ++ (s.dataIn.items ++ s.up.hand id remote)
      = l.read.map (fun x => .udp id remote x.2) := by
  obtain ⟨lost, heq, hlost⟩ := h.upward
  have hnil : lost = [] := by
    by_contra hne
    exact hup (hlost hne).2
  rw [← heq, hnil, List.append_nil]

/-- What is in the channel is a datagram for the edge. -/
lemma Kept.eq_udp (h : Kept remote id s l) {d : DataIn} (hd : d ∈ s.dataIn.items) :
    ∃ data, d = .udp id remote data := by
  obtain ⟨lost, heq, -⟩ := h.upward
  have hmem : d ∈ l.read.map (fun x => DataIn.udp id remote x.2) := by
    rw [← heq]
    exact List.mem_append_right _ (List.mem_append_left _ hd)
  obtain ⟨x, -, rfl⟩ := List.mem_map.mp hmem
  exact ⟨x.2, rfl⟩

/-- A step of the netstack that takes nothing from the connection, and leaves the tasks and their
channel where they are. -/
lemma Kept.stack {e : Netstack.Ev} {n : NetStack} (h : Kept remote id s l)
    (hstep : Netstack.step sm s.stack e = some n) (hdrop : e.drops = false)
    (hclose : ∀ room, e ≠ .data (.udpClose id) room) (htaking : e.taking s.stack id = [])
    {handled : List DataIn} {dataIn : Mailbox DataIn appQueue}
    (hgiving : (l.conn.given ++ e.giving s.stack id).map (fun g => .udp id g.1.1 g.1.2) = handled)
    (hdata : handled ++ dataIn.items = l.handled ++ s.dataIn.items) :
    Kept remote id { s with stack := n, dataIn }
      { l with handled, conn := l.conn.see id s.stack e } := by
  obtain ⟨hacc, halive⟩ := stack_kept hstep h.accounted h.alive hdrop hclose
  obtain ⟨lost, heq, hlost⟩ := h.upward
  refine ⟨hacc, halive, hgiving, ⟨lost, ?_, ?_⟩, h.senders, h.innerPeer, ?_, h.addressed, h.out⟩
  · rw [← heq]
    show handled ++ (dataIn.items ++ (s.up.hand id remote ++ lost)) = _
    rw [← List.append_assoc, hdata, List.append_assoc]
  · exact fun hne => ⟨ended_step hstep rfl (hlost hne).1, (hlost hne).2⟩
  · show _ = (l.conn.taken ++ e.taking s.stack id).map Prod.snd
    rw [htaking, List.append_nil]
    exact h.replies

/-- The netstack by itself takes nothing and drops nothing, and gives nothing to a socket. -/
lemma own_quiet {e : Netstack.Ev} (h : own e = true) (n : NetStack) (id : ℕ) :
    e.drops = false ∧ (∀ room, e ≠ .data (.udpClose id) room) ∧ e.taking n id = []
      ∧ e.giving n id = [] := by
  cases e with
  | cmd | data | dropReceiver | appRecv | dropUdpReceiver | appRecvUdp => cases h
  | _ => exact ⟨rfl, by rintro _ ⟨⟩, rfl, rfl⟩

/-- What the queue of the connection gives is what the ledger sees taken. -/
lemma taking_front (n : NetStack) (id : ℕ) :
    (Netstack.Ev.appRecvUdp id).taking n id = (front n id).toList := by
  rw [Netstack.Ev.taking, if_pos rfl]
  rfl

/-- Where nothing comes, is taken or is given, there is nothing to see. -/
lemma see_quiet (c : Netstack.Ledger) {n : NetStack} {e : Netstack.Ev}
    (hcoming : e.coming n id = []) (htaking : e.taking n id = []) (hgiving : e.giving n id = []) :
    c.see id n e = c := by
  rw [Netstack.Ledger.see, hcoming, htaking, hgiving]
  simp only [List.append_nil]

lemma follow_opened (hconn : s.conn = .opened id) (l : Ledger) (e : Netstack.Ev) :
    l.follow s e = { l with conn := l.conn.see id s.stack e } := by
  rw [Ledger.follow, hconn]

lemma see_reply (hconn : s.conn = .opened id) (l : Ledger) :
    l.see s .reply = { l with conn := l.conn.see id s.stack (.appRecvUdp id) } := by
  rw [Ledger.see, hconn]
  exact follow_opened hconn l _

/-- **Every event preserves it** once the connection is open. -/
lemma step_kept (hk : Kept remote id s l) (hconn : s.conn = .opened id)
    (h : step sm remote s e = some s') : s'.conn = .opened id ∧ Kept remote id s' (l.see s e) := by
  cases stepped h with
  | @stack e n hown hn =>
      obtain ⟨hdrop, hclose, htaking, hgiving⟩ := own_quiet hown s.stack id
      refine ⟨hconn, ?_⟩
      rw [Ledger.see, follow_opened hconn]
      exact hk.stack hn hdrop hclose htaking (by rw [hgiving, List.append_nil, hk.given]) rfl
  | opened hopening => rw [hconn] at hopening; cases hopening
  | @data d room dataIn n hd hn =>
      obtain ⟨data, rfl⟩ := hk.eq_udp (hd ▸ List.mem_cons_self)
      obtain ⟨st, hst, -⟩ := Option.map_eq_some_iff.mp hk.alive
      have hgiving : (Netstack.Ev.data (.udp id remote data) room).giving s.stack id
          = [((remote, data), room)] := by
        rw [Netstack.Ev.giving, if_pos ⟨rfl, by rw [hst]; rfl⟩]
      refine ⟨hconn, ?_⟩
      rw [Ledger.see, hd]
      dsimp only
      rw [follow_opened hconn]
      refine hk.stack hn rfl (by rintro _ ⟨⟩) rfl ?_ ?_
      · rw [hgiving, List.map_append, hk.given]
        rfl
      · rw [hd, List.append_assoc]
        rfl
  | @received id' r hopened hup =>
      have hne : s.up ≠ .ended := by rw [hup]; exact Up.noConfusion
      have hall := hk.upward_all hne
      have hsenders := hk.senders
      rw [hup] at hall hsenders
      refine ⟨hconn, hk.accounted, hk.alive, hk.given, ⟨[], ?_, fun hnil => absurd rfl hnil⟩, ?_,
        hk.innerPeer, hk.replies, hk.addressed, hk.out⟩
      · show l.handled ++ (s.dataIn.items ++ ((Up.read r).hand id remote ++ []))
          = (l.read ++ r.toList).map _
        rw [List.map_append, ← hall]
        cases r <;> simp [Up.read, Up.hand]
      · show senders l.notes ++ (Up.read r).source = (l.read ++ r.toList).map Prod.fst
        rw [List.map_append, ← hsenders]
        cases r <;> simp [Up.read, Up.source]
  | @noted source data hup =>
      have hne : s.up ≠ .ended := by rw [hup]; exact Up.noConfusion
      have hall := hk.upward_all hne
      have hsenders := hk.senders
      rw [hup] at hall hsenders
      refine ⟨hconn, ?_⟩
      rw [Ledger.see, hup]
      refine ⟨hk.accounted, hk.alive, hk.given, ⟨[], ?_, fun hnil => absurd rfl hnil⟩, ?_, ?_, ?_,
        addressed_concat hk.addressed (by rintro _ _ ⟨⟩), ?_⟩
      · rw [List.append_nil]
        exact hall
      · rw [← hsenders]
        simp [senders, Up.source]
      · simp [senders]
      · rw [← hk.replies]
        simp [replies]
      · rw [hk.out]
        simp [answers, replies]
  | @closed id' data hopened hup hended =>
      have hne : s.up ≠ .ended := by rw [hup]; exact Up.noConfusion
      have hall := hk.upward_all hne
      have hsenders := hk.senders
      rw [hup] at hall hsenders
      exact ⟨hconn, hk.accounted, hk.alive, hk.given, ⟨[.udp id remote data], hall, fun _ => ⟨hended, rfl⟩⟩,
        hsenders, hk.innerPeer, hk.replies, hk.addressed, hk.out⟩
  | @sent id' data dataIn hopened hup hdata =>
      have hne : s.up ≠ .ended := by rw [hup]; exact Up.noConfusion
      have hall := hk.upward_all hne
      have hsenders := hk.senders
      obtain rfl : id' = id := Conn.opened.inj (hopened.symm.trans hconn)
      rw [hup] at hall hsenders
      refine ⟨hconn, hk.accounted, hk.alive, hk.given, ⟨[], ?_, fun hnil => absurd rfl hnil⟩, hsenders,
        hk.innerPeer, hk.replies, hk.addressed, hk.out⟩
      show l.handled ++ (dataIn.items ++ []) = _
      rw [hdata, List.append_nil]
      exact hall
  | @reply id' source data n hopened hdown hfront hn =>
      obtain rfl : id' = id := Conn.opened.inj (hopened.symm.trans hconn)
      obtain ⟨hacc, halive⟩ := stack_kept hn hk.accounted hk.alive rfl (by rintro _ ⟨⟩)
      obtain ⟨lost, heq, hlost⟩ := hk.upward
      have hreplies := hk.replies
      have hout := hk.out
      rw [hdown] at hreplies hout
      refine ⟨hconn, ?_⟩
      rw [see_reply hconn]
      refine ⟨hacc, halive, ?_, ⟨lost, heq, ?_⟩, hk.senders, hk.innerPeer, ?_, hk.addressed, hout⟩
      · show (l.conn.given ++ []).map _ = l.handled
        rw [List.append_nil, hk.given]
      · exact fun hne => ⟨ended_step hn rfl (hlost hne).1, (hlost hne).2⟩
      · show (replies l.notes).map Prod.fst ++ [data]
          = (l.conn.taken ++ (Netstack.Ev.appRecvUdp id').taking s.stack id').map Prod.snd
        rw [taking_front, hfront, List.map_append, ← hreplies]
        simp [Down.looking]
  | @drained id' hopened hdown hfront hended =>
      obtain rfl : id' = id := Conn.opened.inj (hopened.symm.trans hconn)
      have hreplies := hk.replies
      have hout := hk.out
      rw [hdown] at hreplies hout
      have htaking : (Netstack.Ev.appRecvUdp id').taking s.stack id' = [] := by
        rw [taking_front, hfront]
        rfl
      refine ⟨hconn, ?_⟩
      rw [see_reply hconn, see_quiet l.conn rfl htaking rfl]
      exact ⟨hk.accounted, hk.alive, hk.given, hk.upward, hk.senders, hk.innerPeer, hreplies, hk.addressed,
        hout⟩
  | @looked data hdown =>
      have hreplies := hk.replies
      have hout := hk.out
      rw [hdown] at hreplies hout
      refine ⟨hconn, ?_⟩
      rw [Ledger.see, hdown]
      refine ⟨hk.accounted, hk.alive, hk.given, hk.upward, ?_, ?_, ?_, addressed_concat hk.addressed ?_, ?_⟩
      · rw [← hk.senders]
        simp [senders]
      · rw [hk.innerPeer]
        simp [senders]
      · rw [← hreplies]
        cases hp : s.innerPeer <;> simp [replies, Down.look, Down.looking]
      · rintro _ _ ⟨⟩
        exact hk.innerPeer
      · cases hp : s.innerPeer <;>
          simp_all [answers, replies, Down.look, Down.outgoing]
  | @answered data dst hdown =>
      have hreplies := hk.replies
      have hout := hk.out
      rw [hdown] at hreplies hout
      refine ⟨hconn, ?_⟩
      rw [Ledger.see, hdown]
      refine ⟨hk.accounted, hk.alive, hk.given, hk.upward, hk.senders, hk.innerPeer, hreplies, hk.addressed,
        ?_⟩
      rw [← hout]
      exact List.append_nil _

/-- The connection that `open_udp` opens has nothing yet. -/
lemma opened_kept {slot : Handle} {n : NetStack} (hf : Fresh s l)
    (hn : Netstack.step sm s.stack (.cmd (.openUdp 0) slot none) = some n) :
    Kept remote s.stack.nextId { s with stack := n, conn := .opened s.stack.nextId } l := by
  have hnone := Netstack.udpConns_of_le hf.matched (Nat.le_refl _)
  have hacc : Accounted s.stack.nextId (s.stack, ⟨[], [], []⟩) :=
    ⟨hf.matched, hf.serving, fun _ => rfl, fun st hid => absurd (hid.symm.trans hnone)
      (Option.some_ne_none st), fun hid => absurd hnone hid⟩
  have hrecord : Netstack.record sm s.stack.nextId (s.stack, ⟨[], [], []⟩)
      (.cmd (.openUdp 0) slot none) = some (n, ⟨[], [], []⟩) := by
    rw [Netstack.record, hn]
    rfl
  have halive : n.udpEnds s.stack.nextId = some false := by
    simp only [Netstack.step, Option.ite_none_right_eq_some, Option.some.injEq] at hn
    obtain ⟨-, rfl⟩ := hn
    exact Option.map_eq_some_iff.mpr ⟨⟨slot, .empty, false⟩, Function.update_self .., rfl⟩
  obtain rfl := hf.ledger
  refine ⟨Netstack.step_accounted _ _ _ hacc hrecord, halive, rfl,
    ⟨[], ?_, fun hnil => absurd rfl hnil⟩, ?_, hf.innerPeer, ?_, ?_, ?_⟩
  · show [] ++ (s.dataIn.items ++ (s.up.hand _ remote ++ [])) = []
    rw [hf.dataIn, hf.up]
    rfl
  · show [] ++ s.up.source = []
    rw [hf.up]
    rfl
  · show [] ++ s.down.looking = []
    rw [hf.down]
    rfl
  · rintro (_ | ⟨_, _⟩) _ _ _ heq <;> cases heq
  · show [] ++ s.down.outgoing = []
    rw [hf.down]
    rfl

/-- Before that, the tasks do nothing. -/
lemma step_fresh (hf : Fresh s l) (hconn : ∀ id, s.conn ≠ .opened id)
    (h : step sm remote s e = some s') :
    (∃ id, s'.conn = .opened id ∧ Kept remote id s' (l.see s e))
      ∨ ((∀ id, s'.conn ≠ .opened id) ∧ Fresh s' (l.see s e)) := by
  have hfresh : ∀ {e : Netstack.Ev} {n : NetStack} (c : Conn), (∀ id, c ≠ .opened id) →
      Netstack.step sm s.stack e = some n → Fresh { s with stack := n, conn := c } l := by
    intro e n c _ hn
    exact ⟨(Netstack.step_shape hn).matched hf.matched, Netstack.step_serving hf.serving hn,
      hf.dataIn, hf.innerPeer, hf.up, hf.down, hf.ledger⟩
  cases stepped h with
  | @stack e n hown hn =>
      refine .inr ⟨hconn, ?_⟩
      have hsame : l.see s (.stack e) = l := by
        rw [Ledger.see, Ledger.follow]
        split
        · rename_i id hid
          exact absurd hid (hconn id)
        · rfl
      rw [hsame]
      exact hfresh s.conn hconn hn
  | @opened slot err n hopening hn =>
      cases err with
      | none => exact .inl ⟨_, rfl, opened_kept hf hn⟩
      | some err => exact .inr ⟨by rintro _ ⟨⟩, hfresh .refused (by rintro _ ⟨⟩) hn⟩
  | data hd => rw [hf.dataIn] at hd; cases hd
  | received hid | closed hid | sent hid | reply hid | drained hid => exact absurd hid (hconn _)
  | noted hup => rw [hf.up] at hup; cases hup
  | looked hdown | answered hdown => rw [hf.down] at hdown; cases hdown

/-- What holds along a run. -/
def Sound (remote : SocketAddr) (w : Forwarder × Ledger) : Prop :=
  (∃ id, w.1.conn = .opened id ∧ Kept remote id w.1 w.2)
    ∨ ((∀ id, w.1.conn ≠ .opened id) ∧ Fresh w.1 w.2)

lemma start_sound (remote : SocketAddr) (iface : Interface) :
    Sound remote (.start iface, .empty) :=
  .inr ⟨by rintro _ ⟨⟩, Netstack.spawned_matched iface, Netstack.spawned_serving iface,
    rfl, rfl, rfl, rfl, rfl⟩

lemma step_sound {w w' : Forwarder × Ledger} (hw : Sound remote w)
    (h : record sm remote w e = some w') : Sound remote w' := by
  obtain ⟨s', hs', rfl⟩ := Option.map_eq_some_iff.mp h
  rcases hw with ⟨id, hid, hk⟩ | ⟨hconn, hf⟩
  · exact .inl ⟨id, step_kept hk hid hs'⟩
  · exact step_fresh hf hconn hs'

lemma Sound.kept {w : Forwarder × Ledger} (h : Sound remote w) (hid : w.1.conn = .opened id) :
    Kept remote id w.1 w.2 := by
  rcases h with ⟨id', hid', hk⟩ | ⟨hconn, -⟩
  · obtain rfl : id' = id := Conn.opened.inj (hid'.symm.trans hid)
    exact hk
  · exact absurd hid (hconn id)

/-- An answer is for one of the senders that were noted. -/
lemma mem_senders {notes : List Note} (h : Addressed notes) {x : SocketAddr × Bytes}
    (hx : x ∈ answers notes) : x.1 ∈ senders notes := by
  obtain ⟨⟨data, dst⟩, hreply, hdst⟩ := List.mem_filterMap.mp hx
  obtain ⟨a, ha, rfl⟩ := Option.map_eq_some_iff.mp hdst
  obtain ⟨note, hnote, heq⟩ := List.mem_filterMap.mp hreply
  cases note with
  | sender => cases heq
  | reply data' dst' =>
      cases heq
      obtain ⟨front, back, rfl⟩ := List.append_of_mem hnote
      have hlast := h front data dst back rfl
      rw [senders, List.filterMap_append]
      refine List.mem_append_left _ (List.mem_of_getLast? ?_)
      rw [← senders, ← hlast]
      exact ha

/-- **What the forwarder does**, in every run of its tasks and the outer netstack:

* what it read from its socket is, in order and for the edge alone, what the netstack took from
  its channel, what the channel holds and what the task has in hand; only a datagram that finds the
  netstack gone is lost;
* what the netstack took it gave to the socket of the connection, which accepted it in order, but
  for what it had no room for;
* what has come on the connection is, in order, what the other task took and what waits;
* each reply was for the sender noted last, and those that had one, and no others, were sent there
  in order; so only what came before the first sender was noted is dropped;
* and if all that was read is from one sender, all replies are for it. -/
theorem forwarded_in_order (sm : Smoltcp) (remote : SocketAddr) (iface : Interface) (id : ℕ)
    (es : List Ev) (w : Forwarder × Ledger)
    (h : run (record sm remote) (.start iface, .empty) es = some w)
    (hid : w.1.conn = .opened id) :
    (∃ lost, w.2.handled ++ (w.1.dataIn.items ++ (w.1.up.hand id remote ++ lost))
        = w.2.read.map (fun x => .udp id remote x.2) ∧ (lost ≠ [] → w.1.Ended))
    ∧ (w.2.conn.given.map (fun g => .udp id g.1.1 g.1.2) = w.2.handled
      ∧ w.1.stack.sent id = Netstack.accepted w.2.conn.given)
    ∧ (w.2.conn.taken ++ w.1.stack.waiting id = w.2.conn.came
      ∧ (replies w.2.notes).map Prod.fst ++ w.1.down.looking = w.2.conn.taken.map Prod.snd)
    ∧ (senders w.2.notes ++ w.1.up.source = w.2.read.map Prod.fst
      ∧ (∀ front data dst back, w.2.notes = front ++ .reply data dst :: back →
        dst = (senders front).getLast?)
      ∧ w.2.out ++ w.1.down.outgoing = answers w.2.notes)
    ∧ ∀ a, (∀ x ∈ w.2.read, x.1 = a) → ∀ x ∈ w.2.out, x.1 = a := by
  have hsound : Sound remote w :=
    run_invariant (fun _ _ _ hw hs => step_sound hw hs) (start_sound remote iface) h
  have hk := hsound.kept hid
  obtain ⟨st, hst, hlive⟩ := Option.map_eq_some_iff.mp hk.alive
  obtain ⟨lost, heq, hlost⟩ := hk.upward
  refine ⟨⟨lost, heq, fun hne => (hlost hne).1⟩,
    ⟨hk.given, hk.accounted.accepts (hst.trans_ne (Option.some_ne_none st))⟩,
    ⟨hk.accounted.balanced st hst hlive, hk.replies⟩, ⟨hk.senders, hk.addressed, hk.out⟩, ?_⟩
  intro a hall x hx
  have hanswer : x ∈ answers w.2.notes := by
    rw [← hk.out]
    exact List.mem_append_left _ hx
  have hread : x.1 ∈ w.2.read.map Prod.fst := by
    rw [← hk.senders]
    exact List.mem_append_left _ (mem_senders hk.addressed hanswer)
  obtain ⟨y, hy, heq⟩ := List.mem_map.mp hread
  rw [← heq]
  exact hall y hy

def sampleEdge : SocketAddr := ⟨.v4 (.new 162 159 192 1), 2408⟩

def sampleInner : SocketAddr := ⟨.v4 (.new 127 0 0 1), 40000⟩

/-- A datagram of the edge comes before the inner tunnel has sent one, and another one after. -/
def sampleRelay : List Ev :=
  ([Netstack.samplePoll .closed [] []] ++ Netstack.samplePass).map .stack
    ++ [.opened 0 none]
    ++ [.poll (fun _ => ⟨.closed, [], 0⟩) (fun _ => [(sampleEdge, [9]), (sampleEdge, [8])]) [] false
        [], .tcpDone [1], .serviceUdp, .deliverUdp, .deliverUdp, .deliverUdp, .udpDone,
        .flush false].map .stack
    ++ [.reply, .looked, .received (some (sampleInner, [1])), .noted, .sent, .data true, .reply, .looked,
      .answered, .received (some (sampleInner, [2]))]

theorem forwarded_in_order_sample : ∃ w,
    run (record Netstack.stdSmoltcp sampleEdge) (.start Netstack.sampleIface, .empty) sampleRelay
        = some w
      ∧ w.2.handled = [.udp 1 sampleEdge [1]] ∧ w.2.out = [(sampleInner, [8])]
      ∧ replies w.2.notes = [([9], none), ([8], some sampleInner)]
      ∧ w.2.conn.taken ++ w.1.stack.waiting 1 = w.2.conn.came
      ∧ ∀ x ∈ w.2.out, x.1 = sampleInner := by
  obtain ⟨w, hw, hid, hread, hhandled, hout, hreplies⟩ : ∃ w,
      run (record Netstack.stdSmoltcp sampleEdge) (.start Netstack.sampleIface, .empty) sampleRelay
          = some w
        ∧ w.1.conn = .opened 1 ∧ w.2.read = [(sampleInner, [1]), (sampleInner, [2])]
        ∧ w.2.handled = [.udp 1 sampleEdge [1]] ∧ w.2.out = [(sampleInner, [8])]
        ∧ replies w.2.notes = [([9], none), ([8], some sampleInner)] :=
    ⟨_, rfl, rfl, rfl, rfl, rfl, rfl⟩
  obtain ⟨-, -, ⟨hcame, -⟩, -, hone⟩ := forwarded_in_order _ _ _ 1 _ w hw hid
  refine ⟨w, hw, hhandled, hout, hreplies, hcame, hone sampleInner ?_⟩
  rw [hread]
  simp

end Aether.WarpInWarp
