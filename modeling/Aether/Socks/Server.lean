import Aether.Lib.Mailbox
import Aether.Netstack.Tables

/-!
The SOCKS server (`socks.rs`) over the netstack: the tasks of `handle_connect` and
`handle_udp_associate`, and the `dns_resolve` they call.

The netstack is the machine of `Aether.Netstack.Stack`; its commands and data messages come
through the two channels of `spawn`, and its answers go to one oneshot channel for each task. A
task is the await it stands at. An event says what the sockets of its client and the clock make
of that await. The other end of each connection, which the netstack cannot see, is what
`tcpSenderGone` and `udpSenderGone` are about.
-/

namespace Aether.Socks

open Netstack (NetStack Smoltcp Cmd DataIn Obs Handle appQueue)

def cmdQueue : ℕ := 256

/-- The address `dns_resolve` sends its query to, 1.1.1.1:53. -/
def dnsServer : SocketAddr := ⟨.v4 ⟨[1, 1, 1, 1], rfl⟩, 53⟩

/-! ### Tasks -/

/-- Where `dns_resolve` stands, with the query it has built: before the command of `open_udp`,
at its answer, at `send_to`, and at the response. -/
inductive Dns where
  | command (query : Bytes)
  | opening (query : Bytes)
  | sending (id : ℕ) (query : Bytes)
  | waiting (id : ℕ)

/-- Who called `dns_resolve`: nobody of this server, `handle_connect` for a port, or
`handle_udp_associate` for a datagram. -/
inductive Caller where
  | other
  | connect (port : ℕ)
  | associate (id port : ℕ) (payload : Bytes)

/-- The upload task of `handle_connect`. -/
inductive Upload where
  | reading
  | sending (data : Bytes)
  | closing
  | finished
  deriving DecidableEq

/-- The await a task stands at. `shutting` is at `wr.shutdown()`; `stopping` is a finished
`handle_connect` whose upload task has not been dropped yet. -/
inductive Task where
  | dns (d : Dns) (caller : Caller)
  | connectCommand (dst : SocketAddr)
  | connectOpen
  | connectReply (id : ℕ)
  | relay (id : ℕ) (up : Upload)
  | shutting (id : ℕ) (up : Upload)
  | stopping (id : ℕ) (up : Upload)
  | associateReply
  | associateCommand
  | associateOpen
  | associate (id : ℕ)
  | associateSend (id : ℕ) (dst : SocketAddr) (payload : Bytes)
  | associateClose (id : ℕ)
  | ended

/-- What `read_target` finds: an address, or a name with the query it makes. -/
inductive Target where
  | ip (ip : IpAddr)
  | name (query : Bytes)

/-- A new task. -/
inductive Request where
  | connect (target : Target) (port : ℕ)
  | associate
  | resolve (query : Bytes)

def Request.task : Request → Task
  | connect (.ip ip) port => .connectCommand ⟨ip, port⟩
  | connect (.name query) port => .dns (.command query) (.connect port)
  | associate => .associateReply
  | resolve query => .dns (.command query) .other

/-- How an await ends. -/
inductive Act where
  /-- The oneshot channel has the answer, or has lost its sender. -/
  | answered
  /-- The channel takes what is sent, or is found closed. -/
  | sent
  /-- The response has an A record; or it has none, the channel is closed, or the time is up. -/
  | resolved (ip : Option IpAddr)
  /-- `reply_bound`. -/
  | replied (ok : Bool)
  /-- The client's bytes; or its end, or an error. -/
  | read (data : Option Bytes)
  /-- A chunk of the connection is taken, and written to the client or not. -/
  | chunk (written : Bool)
  /-- The channel of the connection is closed. -/
  | drained
  /-- The client's connection is shut down, or is not. -/
  | shutDown
  /-- The abort of the upload task takes effect. -/
  | aborted
  /-- A datagram of the client, for an address or for a name. -/
  | datagram (dst : SocketAddr) (payload : Bytes)
  | named (query : Bytes) (port : ℕ) (payload : Bytes)
  /-- A packet of the connection is taken. -/
  | packet
  /-- The control connection ends, or the relay socket fails. -/
  | hangUp

/-! ### The server -/

structure Server where
  stack : NetStack
  cmds : Mailbox Cmd cmdQueue
  data : Mailbox DataIn appQueue
  /-- The answer in the oneshot channel of each task. -/
  oneshot : ℕ → Option (Except String ℕ)
  tasks : ℕ → Option Task
  /-- The connections whose `TcpSender` or `UdpSender` has been dropped. -/
  tcpSenderGone : ℕ → Bool
  udpSenderGone : ℕ → Bool

namespace Server

def start (iface : Netstack.Interface) : Server where
  stack := .spawned iface
  cmds := .empty
  data := .empty
  oneshot _ := none
  tasks _ := none
  tcpSenderGone _ := false
  udpSenderGone _ := false

/-- The netstack has returned or panicked: its tables and the receivers of its channels are
dropped. -/
def Ended (s : Server) : Prop := s.stack.pc = .stopped ∨ s.stack.pc = .panicked

instance (s : Server) : Decidable s.Ended := inferInstanceAs (Decidable (_ ∨ _))

def goto (s : Server) (r : ℕ) (t : Task) : Server :=
  { s with tasks := Function.update s.tasks r (some t) }

/-- A send on the command channel: `false` when it is closed, not enabled while it is full. -/
def sendCmd (s : Server) (c : Cmd) : Option (Server × Bool) :=
  if s.Ended then some (s, false) else (s.cmds.send c).map fun cmds => ({ s with cmds }, true)

/-- A send on the data channel. -/
def sendData (s : Server) (d : DataIn) : Option (Server × Bool) :=
  if s.Ended then some (s, false) else (s.data.send d).map fun data => ({ s with data }, true)

/-- The answer to the task, taken out of its oneshot channel. -/
def takeAnswer (s : Server) (r : ℕ) : Option (Except String ℕ × Server) :=
  match s.oneshot r with
  | some answer => some (answer, { s with oneshot := Function.update s.oneshot r none })
  | none => if s.Ended then some (.error "netstack dropped", s) else none

def dropTcpSender (s : Server) (id : ℕ) : Server :=
  { s with tcpSenderGone := Function.update s.tcpSenderGone id true }

/-- The receiver of a connection that the netstack still has. -/
def dropTcpReceiver (sm : Smoltcp) (s : Server) (id : ℕ) : Server :=
  { s with stack := (Netstack.step sm s.stack (.dropReceiver id)).getD s.stack }

/-- Both ends of a UDP connection. -/
def dropUdp (sm : Smoltcp) (s : Server) (id : ℕ) : Server :=
  { s with
    stack := (Netstack.step sm s.stack (.dropUdpReceiver id)).getD s.stack
    udpSenderGone := Function.update s.udpSenderGone id true }

/-- `from_stack.recv()` of a TCP connection; what a removed connection still had queued is not
followed. -/
def recvTcp (sm : Smoltcp) (s : Server) (id : ℕ) : Option Server :=
  if s.stack.tcpConns id = none then some s
  else (Netstack.step sm s.stack (.appRecv id)).map fun stack => { s with stack }

def recvUdp (sm : Smoltcp) (s : Server) (id : ℕ) : Option Server :=
  (Netstack.step sm s.stack (.appRecvUdp id)).map fun stack => { s with stack }

/-- A step of the netstack, with the answers it gives. -/
def follow (s : Server) (stack : NetStack) : Server :=
  { s with
    stack
    oneshot := (stack.log.take (stack.log.length - s.stack.log.length)).foldr
      (fun o f => match o with
        | .answered r answer => Function.update f r (some answer)
        | _ => f) s.oneshot }

end Server

/-! ### The awaits -/

/-- How the caller goes on after `dns_resolve`. -/
def Caller.task : Caller → Option IpAddr → Task
  | connect port, some ip => .connectCommand ⟨ip, port⟩
  | associate id port payload, some ip => .associateSend id ⟨ip, port⟩ payload
  | associate id _ _, none => .associate id
  | _, _ => .ended

def Dns.act (sm : Smoltcp) (s : Server) (r : ℕ) (caller : Caller) : Dns → Act → Option Server
  | .command query, .sent =>
      (s.sendCmd (.openUdp r)).map fun (s, ok) =>
        s.goto r (if ok then .dns (.opening query) caller else caller.task none)
  | .opening query, .answered =>
      (s.takeAnswer r).map fun
        | (.ok id, s) => s.goto r (.dns (.sending id query) caller)
        | (.error _, s) => s.goto r (caller.task none)
  | .sending id query, .sent =>
      (s.sendData (.udp id dnsServer query)).map fun (s, ok) =>
        if ok then s.goto r (.dns (.waiting id) caller)
        else (s.dropUdp sm id).goto r (caller.task none)
  -- a response is there to be parsed
  | .waiting id, .resolved (some ip) =>
      (s.recvUdp sm id).map fun s => (s.dropUdp sm id).goto r (caller.task (some ip))
  | .waiting id, .resolved none => some ((s.dropUdp sm id).goto r (caller.task none))
  | _, _ => none

/-- The upload task, in the task that `back` makes of it. -/
def Upload.act (s : Server) (r id : ℕ) (back : Upload → Task) : Upload → Act → Option Server
  | .reading, .read (some data) => some (s.goto r (back (.sending data)))
  | .reading, .read none => some (s.goto r (back .closing))
  | .sending data, .sent =>
      (s.sendData (.tcp id data)).map fun (s, ok) =>
        if ok then s.goto r (back .reading) else (s.dropTcpSender id).goto r (back .finished)
  | .closing, .sent =>
      (s.sendData (.tcpClose id)).map fun (s, _) => (s.dropTcpSender id).goto r (back .finished)
  | _, _ => none

def Task.act (sm : Smoltcp) (s : Server) (r : ℕ) : Task → Act → Option Server
  | .dns d caller, a => d.act sm s r caller a
  -- handle_connect
  | .connectCommand dst, .sent =>
      (s.sendCmd (.openTcp dst r)).map fun (s, ok) =>
        s.goto r (if ok then .connectOpen else .ended)
  | .connectOpen, .answered =>
      (s.takeAnswer r).map fun
        | (.ok id, s) => s.goto r (.connectReply id)
        | (.error _, s) => s.goto r .ended
  | .connectReply id, .replied true => some (s.goto r (.relay id .reading))
  | .connectReply id, .replied false =>
      some (((s.dropTcpReceiver sm id).dropTcpSender id).goto r .ended)
  | .relay id _, .chunk true => s.recvTcp sm id
  | .relay id up, .chunk false => (s.recvTcp sm id).map fun s => s.goto r (.shutting id up)
  | .relay id up, .drained =>
      if s.Ended ∨ s.stack.tcpConns id = none then some (s.goto r (.shutting id up)) else none
  | .relay id up, a => up.act s r id (.relay id) a
  | .shutting id up, .shutDown =>
      some ((s.dropTcpReceiver sm id).goto r (.stopping id up))
  | .shutting id up, a => up.act s r id (.shutting id) a
  | .stopping id up, .aborted =>
      some ((if up = .finished then s else s.dropTcpSender id).goto r .ended)
  | .stopping id up, a => up.act s r id (.stopping id) a
  -- handle_udp_associate
  | .associateReply, .replied ok => some (s.goto r (if ok then .associateCommand else .ended))
  | .associateCommand, .sent =>
      (s.sendCmd (.openUdp r)).map fun (s, ok) =>
        s.goto r (if ok then .associateOpen else .ended)
  | .associateOpen, .answered =>
      (s.takeAnswer r).map fun
        | (.ok id, s) => s.goto r (.associate id)
        | (.error _, s) => s.goto r .ended
  | .associate id, .datagram dst payload => some (s.goto r (.associateSend id dst payload))
  | .associate id, .named query port payload =>
      some (s.goto r (.dns (.command query) (.associate id port payload)))
  | .associate id, .packet => s.recvUdp sm id
  | .associate id, .drained =>
      if s.Ended ∨ s.stack.udpConns id = none then some (s.goto r (.associateClose id)) else none
  | .associate id, .hangUp => some (s.goto r (.associateClose id))
  | .associateSend id dst payload, .sent =>
      (s.sendData (.udp id dst payload)).map fun (s, _) => s.goto r (.associate id)
  | .associateClose id, .sent =>
      (s.sendData (.udpClose id)).map fun (s, _) => (s.dropUdp sm id).goto r .ended
  | _, _ => none

/-! ### The steps of the server -/

inductive Ev where
  /-- The netstack goes on by itself, with the next command, or with the next data message. -/
  | stack (e : Netstack.Ev)
  | cmd (h : Handle) (err : Option String)
  | data (room : Bool)
  /-- `set_addrs`. -/
  | setAddrs (v4 : Option (Ipv4Addr × UInt8)) (v6 : Option (Ipv6Addr × UInt8))
  | accept (r : ℕ) (q : Request)
  | task (r : ℕ) (a : Act)

/-- The events of the netstack that no task and no channel has a part in. -/
def own : Netstack.Ev → Bool
  | .cmd .. | .data .. | .dropReceiver _ | .appRecv _ | .dropUdpReceiver _ | .appRecvUdp _ => false
  | _ => true

def step (sm : Smoltcp) (s : Server) : Ev → Option Server
  | .stack e => if own e then (Netstack.step sm s.stack e).map s.follow else none
  | .cmd h err =>
      s.cmds.recv.bind fun (c, cmds) =>
        (Netstack.step sm s.stack (.cmd c h err)).map { s with cmds }.follow
  | .data room =>
      s.data.recv.bind fun (d, data) =>
        (Netstack.step sm s.stack (.data d room)).map { s with data }.follow
  | .setAddrs v4 v6 => (s.sendCmd (.setAddrs v4 v6)).map Prod.fst
  | .accept r q => if s.tasks r = none then some (s.goto r q.task) else none
  | .task r a => (s.tasks r).bind fun t => t.act sm s r a

end Aether.Socks
