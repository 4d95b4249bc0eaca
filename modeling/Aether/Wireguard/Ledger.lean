import Aether.Wireguard.Tunnel

/-!
What goes through a tunnel (`WgTunnel::run`), beside its steps.

* `Ledger`: what enters the channel and comes from the socket, what boringtun makes of it, what the
  tasks set out to send besides, and what is given to the socket and to the netstack.
* `record`: a step of the tunnel with what it adds to the ledger. The speakers are the three tasks
  and the helper tasks that they spawn.
* `LogKept`: the log of the tunnel has what the socket and the netstack took.
-/

namespace Aether.Wireguard

/-! ### The ledger -/

/-- Who gives a datagram to the socket: a task, or a helper task, by its number. -/
inductive Speaker where
  | task (t : Task)
  | helper (i : ℕ)
  deriving DecidableEq

/-- The datagram that boringtun answers. -/
def TunnResult.network : TunnResult → Option Bytes
  | .writeToNetwork pkt => some pkt
  | _ => none

/-- The packet that boringtun finds. -/
def TunnResult.packet : TunnResult → Option Bytes
  | .writeToTunnelV4 pkt => some pkt
  | .writeToTunnelV6 pkt => some pkt
  | _ => none

/-- What has gone through a tunnel: the packets that entered its channel and those given to
`encapsulate`; the datagrams that boringtun made, for each task; the datagrams of
`apply_obfuscation`; the helper tasks, with all they have to send; what was given to the socket, by
whom and whether it took it; the datagrams that came from the socket, and those given to
`decapsulate`, with its answers; the packets that boringtun found in datagrams, and those given to
the netstack, with whether it took them. -/
structure Ledger where
  queued : List Bytes
  asked : List Bytes
  made : Task → List Bytes
  cover : List Bytes
  spawned : List (Task × List Bytes)
  wire : List (Speaker × Bytes × Bool)
  received : List Bytes
  answered : List (Bytes × TunnResult)
  opened : List Bytes
  handed : List (Bytes × Bool)

namespace Ledger

/-- Nothing yet. -/
def empty : Ledger := ⟨[], [], fun _ => [], [], [], [], [], [], [], []⟩

/-- Boringtun makes a datagram for a task. -/
def makes (l : Ledger) (t : Task) (pkt : Bytes) : Ledger :=
  { l with made := Function.update l.made t (l.made t ++ [pkt]) }

/-- A speaker gives a datagram to the socket. -/
def tries (l : Ledger) (sp : Speaker) (pkt : Bytes) (ok : Bool) : Ledger :=
  { l with wire := l.wire ++ [(sp, pkt, ok)] }

/-- A task spawns a helper task. -/
def spawns (l : Ledger) (t : Task) (ds : List Bytes) : Ledger :=
  { l with spawned := l.spawned ++ [(t, ds)] }

/-- What a speaker has given to the socket. -/
def said (l : Ledger) (sp : Speaker) : List Bytes := (l.wire.filter (·.1 = sp)).map (·.2.1)

/-- The datagrams of boringtun as a task sends them. -/
def due (cfg : WgConfig) (l : Ledger) (t : Task) : List Bytes :=
  (l.made t).map (injectClientId · cfg.clientId)

/-- The keepalives that the timer has left to its helper tasks, each behind its decoys. -/
def keepalives (l : Ledger) : List Bytes :=
  l.spawned.filterMap fun x => if x.1 = .timer then x.2.getLast? else none

/-- The ledgers agree on what came in. -/
structure SameIn (l l' : Ledger) : Prop where
  received : l'.received = l.received
  answered : l'.answered = l.answered
  opened : l'.opened = l.opened
  handed : l'.handed = l.handed

lemma said_tries (l : Ledger) (sp sp' : Speaker) (pkt : Bytes) (ok : Bool) :
    (l.tries sp pkt ok).said sp' = l.said sp' ++ if sp = sp' then [pkt] else [] := by
  rw [said, tries, List.filter_append, List.map_append]
  by_cases h : sp = sp' <;> simp [h, said]

@[simp] lemma made_makes (l : Ledger) (t : Task) (pkt : Bytes) :
    (l.makes t pkt).made t = l.made t ++ [pkt] := Function.update_self ..

lemma due_makes (cfg : WgConfig) (l : Ledger) (t t' : Task) (pkt : Bytes) :
    (l.makes t pkt).due cfg t'
      = l.due cfg t' ++ if t = t' then [injectClientId pkt cfg.clientId] else [] := by
  show (Function.update l.made t (l.made t ++ [pkt]) t').map _ = (l.made t').map _ ++ _
  by_cases h : t = t'
  · subst h
    rw [Function.update_self, List.map_append, if_pos rfl]
    rfl
  · rw [Function.update_of_ne (Ne.symm h), if_neg h, List.append_nil]

end Ledger

section Observe

variable {T ω : Type} (tunn : Tunn T ω) (cfg : WgConfig) (s : WgTunnel T) (l : Ledger)

/-- What a step of the recv task adds to the ledger. -/
def seeRecv : RecvEv ω → Ledger
  | .datagram (.ok d) => { l with received := l.received ++ [d] }
  | .datagram (.error _) => l
  | .locked w =>
      match s.recv with
      | .lock d =>
          let r := (tunn.decapsulate w s.tunn d).1
          let l := { l with answered := l.answered ++ [(d, r)] }
          match r with
          | .writeToNetwork pkt => l.makes .recv pkt
          | .writeToTunnelV4 pkt => { l with opened := l.opened ++ [pkt] }
          | .writeToTunnelV6 pkt => { l with opened := l.opened ++ [pkt] }
          | .done => l
          | .err _ => l
      | _ => l
  | .sent ok =>
      match s.recv with
      | .send pkt => l.tries (.task .recv) pkt ok
      | _ => l
  | .delivered ok =>
      match s.recv with
      | .deliver pkt => { l with handed := l.handed ++ [(pkt, ok)] }
      | _ => l

/-- What a step of the send task adds. -/
def seeSend : SendEv ω → Ledger
  | .locked w =>
      match s.send with
      | .lock p =>
          match (tunn.encapsulate w s.tunn p).1 with
          | .writeToNetwork pkt => { l with asked := l.asked ++ [p] }.makes .send pkt
          | _ => { l with asked := l.asked ++ [p] }
      | _ => l
  | .obfuscate junk =>
      if !s.obfSent && cfg.aethernoize.isEnabled then { l with cover := l.cover ++ junk } else l
  | .covered ok =>
      match s.send with
      | .cover (d :: _) _ => l.tries (.task .send) d ok
      | _ => l
  | .sent ok junk =>
      match s.send with
      | .send pkt =>
          if cfg.aethernoize.jcAfterHs > 0 then (l.tries (.task .send) pkt ok).spawns .send junk
          else l.tries (.task .send) pkt ok
      | _ => l
  | .packet => l

/-- What a step of the timer adds. -/
def seeTimer : TimerEv ω → Ledger
  | .locked w junk =>
      match (tunn.updateTimers w s.tunn).1 with
      | .writeToNetwork pkt =>
          if cfg.aethernoize.isEnabled then
            (l.makes .timer pkt).spawns .timer (junk ++ [injectClientId pkt cfg.clientId])
          else l.makes .timer pkt
      | _ => l
  | .sent ok =>
      match s.timer with
      | .send pkt => l.tries (.task .timer) pkt ok
      | _ => l
  | .tick => l

/-- What a step adds to the ledger. -/
def see : Ev ω → Ledger
  | .queue p => { l with queued := l.queued ++ [p] }
  | .recv e => seeRecv tunn s l e
  | .send e => seeSend tunn cfg s l e
  | .timer e => seeTimer tunn cfg s l e
  | .helper i ok =>
      match s.helpers[i]? with
      | some (_, d :: _) => l.tries (.helper i) d ok
      | _ => l
  | _ => l

/-- A step of the tunnel beside its ledger. -/
def record (w : WgTunnel T × Ledger) (e : Ev ω) : Option (WgTunnel T × Ledger) :=
  (step tunn cfg w.1 e).map fun s => (s, see tunn cfg w.1 w.2 e)

end Observe

lemma emit_eq {T : Type} (s : WgTunnel T) (t : Task) (pkt : Bytes) (ok : Bool) :
    ∃ log, s.emit t pkt ok = { s with log } := by
  rw [WgTunnel.emit]
  split
  · exact ⟨_, rfl⟩
  · exact ⟨s.log, rfl⟩

/-! ### The log -/

section Log

variable {T : Type}

/-- The datagrams that the socket took, oldest first. -/
def sentOf (log : List (Seen T)) : List Bytes :=
  log.reverse.filterMap fun
    | .sent _ pkt => some pkt
    | _ => none

/-- The packets that the netstack took, oldest first. -/
def deliveredOf (log : List (Seen T)) : List Bytes :=
  log.reverse.filterMap fun
    | .delivered pkt => some pkt
    | _ => none

lemma sentOf_cons (x : Seen T) (log : List (Seen T)) : sentOf (x :: log)
    = sentOf log ++ (match x with | .sent _ pkt => [pkt] | _ => []) := by
  rw [sentOf, List.reverse_cons, List.filterMap_append]
  cases x <;> rfl

lemma deliveredOf_cons (x : Seen T) (log : List (Seen T)) : deliveredOf (x :: log)
    = deliveredOf log ++ (match x with | .delivered pkt => [pkt] | _ => []) := by
  rw [deliveredOf, List.reverse_cons, List.filterMap_append]
  cases x <;> rfl

lemma emit_sent (s : WgTunnel T) (t : Task) (pkt : Bytes) (ok : Bool) :
    sentOf (s.emit t pkt ok).log = sentOf s.log ++ if ok then [pkt] else [] := by
  rw [WgTunnel.emit]
  cases ok with
  | true => exact sentOf_cons _ _
  | false => exact (List.append_nil _).symm

lemma emit_delivered (s : WgTunnel T) (t : Task) (pkt : Bytes) (ok : Bool) :
    deliveredOf (s.emit t pkt ok).log = deliveredOf s.log := by
  rw [WgTunnel.emit]
  cases ok with
  | true => exact (deliveredOf_cons _ _).trans (List.append_nil _)
  | false => rfl

/-- The part that the other side took. -/
def taken (xs : List (Bytes × Bool)) : List Bytes := (xs.filter (·.2)).map Prod.fst

lemma taken_append (xs ys : List (Bytes × Bool)) : taken (xs ++ ys) = taken xs ++ taken ys := by
  rw [taken, List.filter_append, List.map_append]
  rfl

lemma taken_singleton (pkt : Bytes) (ok : Bool) :
    taken [(pkt, ok)] = if ok then [pkt] else [] := by
  cases ok <;> rfl

/-- The log has what the socket and the netstack took. -/
structure LogKept (s : WgTunnel T) (l : Ledger) : Prop where
  sent : sentOf s.log = taken (l.wire.map Prod.snd)
  delivered : deliveredOf s.log = taken l.handed

end Log

end Aether.Wireguard
