import Aether.Lib.Mailbox
import Aether.Netstack.Addrs
import Mathlib.Logic.Function.Basic

/-!
The userspace TCP/IP stack (`netstack.rs`) as a machine: `run`, `handle_cmd`,
`handle_data`, `service_tcp`, `service_udp` and `flush_tx`, suspended where the
source awaits.

The library `smoltcp` is the environment. A poll event says what one
`Interface::poll` does to every socket: the new TCP state, the bytes that arrived and
how the ring buffer lays them out. A service event says how long a prefix
`send_slice` accepts. What the source calls on a socket is a function of the model
(`TcpSocket.sendSlice`, `TcpSocket.close`, `recvChunks`). A panic of the source is
the program counter `panicked`.
-/

namespace Aether.Netstack

def appQueue : ℕ := 4096
def maxIngestPerTick : ℕ := 512
def maxRecvChunks : ℕ := 128

/-! ### Sockets -/

/-- `smoltcp::socket::tcp::State`. -/
inductive State where
  | closed | listen | synSent | synReceived | established | finWait1 | finWait2
  | closeWait | closing | lastAck | timeWait
  deriving DecidableEq, Repr

/-- What the model takes from smoltcp: the addresses `update_ip_addrs` accepts, and
the state after `close()` on a TCP socket. -/
structure Smoltcp where
  accepts : AddrCheck
  close : State → State

/-- The content of a ring buffer as the two contiguous pieces it is stored in. -/
structure RingBuf where
  front : Bytes
  wrapped : Bytes
  wrapped_of_front : front = [] → wrapped = []
  deriving DecidableEq

namespace RingBuf

def empty : RingBuf := ⟨[], [], fun _ => rfl⟩

def content (b : RingBuf) : Bytes := b.front ++ b.wrapped

/-- The bytes laid out with `k` of them before the end of the storage. -/
def layout (bytes : Bytes) (k : ℕ) : RingBuf :=
  if h : bytes.take k = [] then ⟨bytes, [], fun _ => rfl⟩
  else ⟨bytes.take k, bytes.drop k, fun h' => absurd h' h⟩

/-- `can_recv`. -/
def canRecv (b : RingBuf) : Bool := !b.front.isEmpty

/-- `recv` with a closure that takes everything it is shown: the front piece. -/
def recv (b : RingBuf) : Bytes × RingBuf := (b.front, ⟨b.wrapped, [], fun _ => rfl⟩)

@[simp] lemma content_layout (bytes : Bytes) (k : ℕ) : (layout bytes k).content = bytes := by
  rw [layout, content]
  split
  · exact List.append_nil _
  · exact List.take_append_drop k bytes

lemma recv_content (b : RingBuf) : b.recv.1 ++ b.recv.2.content = b.content := by
  simp [recv, content]

end RingBuf

/-- The receive loop of `service_tcp`, with room for `n` more chunks. -/
def recvChunks : ℕ → RingBuf → List Bytes × RingBuf
  | 0, b => ([], b)
  | n + 1, b =>
      if b.canRecv then
        (b.recv.1 :: (recvChunks n b.recv.2).1, (recvChunks n b.recv.2).2)
      else ([], b)

/-- A TCP socket: `sent` is all that `send_slice` has accepted and `received` all
that smoltcp has put into the receive buffer, since the socket was created. -/
structure TcpSocket where
  state : State
  localPort : ℕ
  remote : SocketAddr
  sent : Bytes
  received : Bytes
  rx : RingBuf
  deriving DecidableEq

/-- What one poll does to a TCP socket. -/
structure Arrival where
  state : State
  bytes : Bytes
  split : ℕ

namespace TcpSocket

/-- A poll appends the bytes that arrived to the receive buffer. -/
def polled (t : TcpSocket) (a : Arrival) : TcpSocket :=
  { t with
    state := a.state
    received := t.received ++ a.bytes
    rx := .layout (t.rx.content ++ a.bytes) a.split }

/-- `send_slice`, of which the socket accepts the first `accept` bytes. -/
def sendSlice (t : TcpSocket) (data : Bytes) (accept : ℕ) : TcpSocket :=
  { t with sent := t.sent ++ data.take accept }

def close (sm : Smoltcp) (t : TcpSocket) : TcpSocket := { t with state := sm.close t.state }

end TcpSocket

/-- A UDP socket: `sent` is all that `send_slice` has accepted since the socket was created. -/
structure UdpSocket where
  localPort : ℕ
  sent : List (SocketAddr × Bytes)
  rx : List (SocketAddr × Bytes)
  deriving DecidableEq

/-- `send_slice`, which fails where there is no room for the datagram: the send buffer is full, or
the destination cannot be sent to. -/
def UdpSocket.sendSlice (u : UdpSocket) (dst : SocketAddr) (data : Bytes) (room : Bool) :
    UdpSocket :=
  if room then { u with sent := u.sent ++ [(dst, data)] } else u

@[simp] lemma UdpSocket.sendSlice_localPort (u : UdpSocket) (dst : SocketAddr) (data : Bytes)
    (room : Bool) : (u.sendSlice dst data room).localPort = u.localPort := by
  cases room <;> rfl

@[simp] lemma UdpSocket.sendSlice_rx (u : UdpSocket) (dst : SocketAddr) (data : Bytes)
    (room : Bool) : (u.sendSlice dst data room).rx = u.rx := by
  cases room <;> rfl

inductive Socket where
  | tcp (t : TcpSocket)
  | udp (u : UdpSocket)
  deriving DecidableEq

/-! ### The stack -/

/-- `SocketHandle`: a slot of the socket set. -/
abbrev Handle := ℕ

/-- `TcpState`. The response channel of `OpenTcp` is a number; `fromStackRx` says
that the stack still keeps the application's receiver; `rxDropped` that the
application has dropped it. -/
structure TcpState where
  handle : Handle
  toApp : Mailbox Bytes appQueue
  rxDropped : Bool
  fromStackRx : Bool
  connectResp : Option ℕ
  pending : Bytes
  established : Bool
  halfClosed : Bool

/-- `UdpState`. -/
structure UdpState where
  handle : Handle
  toApp : Mailbox (SocketAddr × Bytes) appQueue
  rxDropped : Bool

inductive Cmd where
  | openTcp (dst : SocketAddr) (resp : ℕ)
  | openUdp (resp : ℕ)
  | setAddrs (v4 : Option (Ipv4Addr × UInt8)) (v6 : Option (Ipv6Addr × UInt8))

inductive DataIn where
  | tcp (id : ℕ) (data : Bytes)
  | tcpClose (id : ℕ)
  | udp (id : ℕ) (dst : SocketAddr) (data : Bytes)
  | udpClose (id : ℕ)

/-- Where `run` stands. `deliverTcp` and `deliverUdp` are the awaits of
`to_app.send`, with the connection, what is still to be sent to it, and the
connections still to be serviced. -/
inductive Pc where
  | poll
  | serviceTcp (todo : List ℕ)
  | deliverTcp (id : ℕ) (chunks : List Bytes) (todo : List ℕ)
  | serviceUdp (todo : List ℕ)
  | deliverUdp (id : ℕ) (packets : List (SocketAddr × Bytes)) (todo : List ℕ)
  | flushTx
  | select
  | dataIn
  | stopped
  | panicked
  deriving DecidableEq

/-- What an observer of the stack sees. -/
inductive Obs where
  | opened (id : ℕ)
  | handled (id : ℕ) (data : Bytes)
  | delivered (id : ℕ) (chunk : Bytes)
  | closing (id : ℕ) (entry : TcpState)
  | removed (id : ℕ) (entry : TcpState) (socket : TcpSocket)
  | answered (resp : ℕ) (answer : Except String ℕ)

/-- `NetStack`, with the program counter of `run` and the log of an observer, newest
observation first. -/
structure NetStack where
  pc : Pc
  iface : Interface
  rx : List Bytes
  tx : List Bytes
  sockets : Handle → Option Socket
  tcpConns : ℕ → Option TcpState
  udpConns : ℕ → Option UdpState
  nextId : ℕ
  nextPort : ℕ
  log : List Obs

namespace NetStack

/-- The stack `spawn` starts `run` with. -/
def spawned (iface : Interface) : NetStack where
  pc := .poll
  iface := iface
  rx := []
  tx := []
  sockets _ := none
  tcpConns _ := none
  udpConns _ := none
  nextId := 1
  nextPort := 49152
  log := []

/-- The keys of `tcp_conns`; an event chooses the order of the iteration. -/
def tcpIds (s : NetStack) : List ℕ := (List.range s.nextId).filter fun id => (s.tcpConns id).isSome

def udpIds (s : NetStack) : List ℕ := (List.range s.nextId).filter fun id => (s.udpConns id).isSome

/-- `sockets.get_mut::<tcp::Socket>`, which panics (`none`) on another slot. -/
def tcp (s : NetStack) (h : Handle) : Option TcpSocket :=
  match s.sockets h with
  | some (.tcp t) => some t
  | _ => none

def udp (s : NetStack) (h : Handle) : Option UdpSocket :=
  match s.sockets h with
  | some (.udp u) => some u
  | _ => none

def goto (s : NetStack) (pc : Pc) : NetStack := { s with pc := pc }

def observe (s : NetStack) (o : Obs) : NetStack := { s with log := o :: s.log }

/-- A connection and its socket, both replaced. -/
def update (s : NetStack) (id : ℕ) (st : TcpState) (t : TcpSocket) : NetStack :=
  { s with
    tcpConns := Function.update s.tcpConns id (some st)
    sockets := Function.update s.sockets st.handle (some (.tcp t)) }

/-- A connection and its socket, both removed. -/
def removeTcp (s : NetStack) (id : ℕ) (h : Handle) : NetStack :=
  { s with
    tcpConns := Function.update s.tcpConns id none
    sockets := Function.update s.sockets h none }

end NetStack

def allocPort (p : ℕ) : ℕ × ℕ := (p, if p ≥ 65000 then 49152 else p + 1)

/-! ### Commands and data messages -/

/-- `handle_cmd`. `SocketSet::add` puts the new socket into the slot `h`; `err` is the
error of `connect` or `bind`, if it fails. -/
def handleCmd (sm : Smoltcp) (s : NetStack) (cmd : Cmd) (h : Handle) (err : Option String) :
    NetStack :=
  match cmd with
  | .openTcp dst resp =>
      let (localPort, nextPort) := allocPort s.nextPort
      match err with
      | some e => { s with nextPort }.observe (.answered resp (.error s!"connect: {e}"))
      | none =>
          { s with
            nextPort
            sockets := Function.update s.sockets h
              (some (.tcp ⟨.synSent, localPort, dst, [], [], .empty⟩))
            tcpConns := Function.update s.tcpConns s.nextId
              (some ⟨h, .empty, false, true, some resp, [], false, false⟩)
            nextId := s.nextId + 1 }.observe (.opened s.nextId)
  | .openUdp resp =>
      let (localPort, nextPort) := allocPort s.nextPort
      match err with
      | some e => { s with nextPort }.observe (.answered resp (.error s!"bind: {e}"))
      | none =>
          { s with
            nextPort
            sockets := Function.update s.sockets h (some (.udp ⟨localPort, [], []⟩))
            udpConns := Function.update s.udpConns s.nextId (some ⟨h, .empty, false⟩)
            nextId := s.nextId + 1 }.observe (.answered resp (.ok s.nextId))
  | .setAddrs v4 v6 =>
      match applyAddrs sm.accepts s.iface v4 v6 with
      | some iface => { s with iface }
      | none => s.goto .panicked

/-- `handle_data`. The error of the UDP `send_slice` is ignored: without `room` for it the datagram
is lost. -/
def handleData (s : NetStack) (d : DataIn) (room : Bool) : NetStack :=
  match d with
  | .tcp id data =>
      (match s.tcpConns id with
        | some st =>
            { s with
              tcpConns := Function.update s.tcpConns id
                (some { st with pending := st.pending ++ data }) }
        | none => s).observe (.handled id data)
  | .tcpClose id =>
      match s.tcpConns id with
      | some st =>
          { s with
            tcpConns := Function.update s.tcpConns id (some { st with halfClosed := true }) }
      | none => s
  | .udp id dst data =>
      match s.udpConns id with
      | some st =>
          match s.udp st.handle with
          | some u =>
              { s with
                sockets := Function.update s.sockets st.handle
                  (some (.udp (u.sendSlice dst data room))) }
          | none => s.goto .panicked
      | none => s
  | .udpClose id =>
      match s.udpConns id with
      | some st =>
          match s.sockets st.handle with
          | some _ =>
              { s with
                udpConns := Function.update s.udpConns id none
                sockets := Function.update s.sockets st.handle none }
          | none => s.goto .panicked
      | none => s

/-! ### The service passes -/

/-- The entry after the first test of `service_tcp`: marked when its socket is seen
established. -/
def TcpState.seen (st : TcpState) (state : State) : TcpState :=
  if !st.established && state = .established then
    { st with established := true, connectResp := none, fromStackRx := false }
  else st

/-- The answer of that test: the opener gets its connection. -/
def establish (s : NetStack) (id : ℕ) (st : TcpState) (state : State) : NetStack :=
  match !st.established && state = .established, st.connectResp, st.fromStackRx with
  | true, some resp, true => s.observe (.answered resp (.ok id))
  | _, _, _ => s

/-- The second test of `service_tcp`: a socket that ended before it was seen
established. -/
def refused (st : TcpState) (state : State) : Bool :=
  !st.established && (state = .closed || state = .timeWait)

/-- The refusal: the opener is told, and the connection removed. -/
def refuse (s : NetStack) (id : ℕ) (st : TcpState) (t : TcpSocket) : NetStack :=
  (match st.connectResp with
    | some resp => s.observe (.answered resp (.error "connection refused"))
    | none => s).removeTcp id st.handle |>.observe (.removed id st t)

/-- The send part of `service_tcp`: `send_slice` accepts `accept` bytes of the
pending buffer, none of them when `can_send` is false. -/
def sendPending (st : TcpState) (t : TcpSocket) (accept : ℕ) : TcpState × TcpSocket :=
  ({ st with pending := st.pending.drop accept }, t.sendSlice st.pending accept)

/-- Whether `service_tcp` closes the socket because the application half-closed. -/
def closesHalf (st : TcpState) : Bool := st.halfClosed && st.pending.isEmpty

/-- The body of the loop of `service_tcp` up to the delivery of the chunks it took
from the socket. -/
def serviceConn (sm : Smoltcp) (s : NetStack) (id : ℕ) (rest : List ℕ) (st : TcpState)
    (t : TcpSocket) (accept : ℕ) : NetStack :=
  let s := establish s id st t.state
  let st := st.seen t.state
  if refused st t.state then (refuse s id st t).goto (.serviceTcp rest)
  else
    let (st, t) := sendPending st t accept
    let t' := if closesHalf st then t.close sm else t
    let s := if closesHalf st then s.observe (.closing id st) else s
    let (chunks, rx) := recvChunks maxRecvChunks t'.rx
    (s.update id st { t' with rx := rx }).goto (.deliverTcp id chunks rest)

/-- One `to_app.send` of `service_tcp`. The send is not enabled while the
application's queue is full; a dropped receiver closes the socket and discards the
chunks. -/
def deliverChunk (sm : Smoltcp) (s : NetStack) (id : ℕ) (chunk : Bytes) (chunks : List Bytes)
    (rest : List ℕ) (st : TcpState) (t : TcpSocket) : Option NetStack :=
  if st.rxDropped then
    some (((s.observe (.closing id st)).update id st (t.close sm)).goto (.deliverTcp id [] rest))
  else
    (st.toApp.send chunk).map fun toApp =>
      ((s.observe (.delivered id chunk)).update id { st with toApp } t).goto
        (.deliverTcp id chunks rest)

/-- The end of the loop body: `CloseWait` is answered with a close, an established
connection that is `Closed` is removed. -/
def finishConn (sm : Smoltcp) (s : NetStack) (id : ℕ) (rest : List ℕ) (st : TcpState)
    (t : TcpSocket) : NetStack :=
  if t.state = .closeWait then
    ((s.observe (.closing id st)).update id st (t.close sm)).goto (.serviceTcp rest)
  else if t.state = .closed && st.established then
    ((s.removeTcp id st.handle).observe (.removed id st t)).goto (.serviceTcp rest)
  else s.goto (.serviceTcp rest)

/-! ### The loop -/

/-- Everything that can happen to the stack, with the choices of its environment. -/
inductive Ev where
  /-- One `Interface::poll`, caught panic or not, and the order of the next pass. -/
  | poll (tcp : Handle → Arrival) (udp : Handle → List (SocketAddr × Bytes))
      (emitted : List Bytes) (caught : Bool) (order : List ℕ)
  | serviceTcp (accept : ℕ)
  | deliverTcp
  | finishTcp
  | tcpDone (order : List ℕ)
  | serviceUdp
  | deliverUdp
  | udpDone
  /-- One turn of `flush_tx`; `gone` says that the tunnel dropped its receiver. -/
  | flush (gone : Bool)
  | inbound (packets : List Bytes)
  | cmd (c : Cmd) (h : Handle) (err : Option String)
  /-- A data message, and whether a UDP socket has room for its datagram. -/
  | data (d : DataIn) (room : Bool)
  | dataDone
  | timer
  /-- The inbound channel or the command channel is closed. -/
  | stop
  /-- An application drops its receiver. -/
  | dropReceiver (id : ℕ)
  /-- An application takes the next chunk from its queue. -/
  | appRecv (id : ℕ)
  | dropUdpReceiver (id : ℕ)
  | appRecvUdp (id : ℕ)

/-- One poll's effect on the socket set. -/
def pollSockets (sockets : Handle → Option Socket) (tcp : Handle → Arrival)
    (udp : Handle → List (SocketAddr × Bytes)) (h : Handle) : Option Socket :=
  match sockets h with
  | some (.tcp t) => some (.tcp (t.polled (tcp h)))
  | some (.udp u) => some (.udp { u with rx := u.rx ++ udp h })
  | none => none

/-- Whether `SocketSet::add` may choose the slot for this command. -/
def slotFree (s : NetStack) (c : Cmd) (h : Handle) (err : Option String) : Bool :=
  match c, err with
  | .setAddrs _ _, _ => true
  | _, some _ => true
  | _, none => (s.sockets h).isNone

/-- One step of `run` or of its environment; `none` when the event is not enabled. -/
def step (sm : Smoltcp) (s : NetStack) : Ev → Option NetStack
  | .poll tcp udp emitted caught order =>
      if s.pc = .poll ∧ order.Perm s.tcpIds then
        some { s with
          sockets := pollSockets s.sockets tcp udp
          rx := []
          tx := if caught then [] else s.tx ++ emitted
          pc := .serviceTcp order }
      else none
  | .serviceTcp accept =>
      match s.pc with
      | .serviceTcp (id :: rest) =>
          match s.tcpConns id with
          | none => some (s.goto (.serviceTcp rest))
          | some st =>
              match s.tcp st.handle with
              | none => some (s.goto .panicked)
              | some t => some (serviceConn sm s id rest st t accept)
      | _ => none
  | .deliverTcp =>
      match s.pc with
      | .deliverTcp id (chunk :: chunks) rest =>
          match s.tcpConns id with
          | none => some (s.goto .panicked)
          | some st =>
              match s.tcp st.handle with
              | none => some (s.goto .panicked)
              | some t => deliverChunk sm s id chunk chunks rest st t
      | _ => none
  | .finishTcp =>
      match s.pc with
      | .deliverTcp id [] rest =>
          match s.tcpConns id with
          | none => some (s.goto .panicked)
          | some st =>
              match s.tcp st.handle with
              | none => some (s.goto .panicked)
              | some t => some (finishConn sm s id rest st t)
      | _ => none
  | .tcpDone order =>
      if s.pc = .serviceTcp [] ∧ order.Perm s.udpIds then some (s.goto (.serviceUdp order))
      else none
  | .serviceUdp =>
      match s.pc with
      | .serviceUdp (id :: rest) =>
          match s.udpConns id with
          | none => some (s.goto (.serviceUdp rest))
          | some st =>
              match s.udp st.handle with
              | none => some (s.goto .panicked)
              | some u =>
                  some ({ s with
                    sockets := Function.update s.sockets st.handle
                      (some (.udp { u with rx := u.rx.drop maxRecvChunks })) }.goto
                    (.deliverUdp id (u.rx.take maxRecvChunks) rest))
      | _ => none
  | .deliverUdp =>
      match s.pc with
      | .deliverUdp id (p :: packets) rest =>
          match s.udpConns id with
          | none => some (s.goto .panicked)
          | some st =>
              if st.rxDropped then some (s.goto (.serviceUdp rest))
              else
                (st.toApp.send p).map fun toApp =>
                  { s with
                    udpConns := Function.update s.udpConns id (some { st with toApp }) }.goto
                    (.deliverUdp id packets rest)
      | .deliverUdp _ [] rest => some (s.goto (.serviceUdp rest))
      | _ => none
  | .udpDone => if s.pc = .serviceUdp [] then some (s.goto .flushTx) else none
  | .flush gone =>
      if s.pc = .flushTx then
        match s.tx with
        | [] => some (s.goto .select)
        | _ :: tx => some ({ s with tx }.goto (if gone then .select else .flushTx))
      else none
  | .inbound packets =>
      if s.pc = .select ∧ packets ≠ [] ∧ packets.length ≤ 1 + maxIngestPerTick then
        some ({ s with rx := s.rx ++ packets }.goto .poll)
      else none
  | .cmd c h err =>
      if s.pc = .select ∧ slotFree s c h err then
        some (handleCmd sm (s.goto .poll) c h err)
      else none
  | .data d room =>
      if s.pc = .select ∨ s.pc = .dataIn then some (handleData (s.goto .dataIn) d room) else none
  | .dataDone => if s.pc = .dataIn then some (s.goto .poll) else none
  | .timer => if s.pc = .select then some (s.goto .poll) else none
  | .stop => if s.pc = .select then some (s.goto .stopped) else none
  | .dropReceiver id =>
      match s.tcpConns id with
      | some st =>
          if st.fromStackRx then none
          else some { s with
            tcpConns := Function.update s.tcpConns id (some { st with rxDropped := true }) }
      | none => none
  | .appRecv id =>
      match s.tcpConns id with
      | some st =>
          if st.fromStackRx then none
          else st.toApp.recv.map fun r => { s with
            tcpConns := Function.update s.tcpConns id (some { st with toApp := r.2 }) }
      | none => none
  | .dropUdpReceiver id =>
      (s.udpConns id).map fun st => { s with
        udpConns := Function.update s.udpConns id (some { st with rxDropped := true }) }
  | .appRecvUdp id =>
      match s.udpConns id with
      | some st =>
          st.toApp.recv.map fun r => { s with
            udpConns := Function.update s.udpConns id (some { st with toApp := r.2 }) }
      | none => none

/-! ### smoltcp's own rules -/

/-- The rules of smoltcp itself. -/
def stdSmoltcp : Smoltcp where
  accepts := unicastOrUnspecified
  close
    | .listen | .synSent => .closed
    | .synReceived | .established => .finWait1
    | .closeWait => .lastAck
    | state => state

def sampleIface : Interface := ⟨[⟨.v4 sampleV4, 24⟩], some (gatewayV4 sampleV4), none⟩

end Aether.Netstack
