import Aether.Netstack.Ends
import Aether.Socks.Server

/-!
What a step of a task does to the ends of the connections.

A task holds the sender of each connection it was given, and drops it once. Of such a step only
its *effect* matters to the other end: which receiver is dropped, which sender, and whether the
close message went ahead of it.

* `Task.holds`, `Server.holds`: the connections whose sender a task has, or finds in its oneshot
  channel.
* `Effect.Did`: the ends before and after a step with an effect.
* `task_acted`: every step of a task has the effect `Task.effect`, and what it drops is what the
  task no longer holds.
-/

namespace Aether.Socks

open Netstack (NetStack Smoltcp Kind Cmd DataIn Obs Handle TcpEnds HandedOver appQueue)

/-! ### What a task holds -/

def Dns.holds : Dns → List ℕ
  | .sending id _ | .waiting id => [id]
  | _ => []

def Caller.holds : Caller → List ℕ
  | .associate id _ _ => [id]
  | _ => []

def Upload.holds (id : ℕ) : Upload → List ℕ
  | .finished => []
  | _ => [id]

/-- The connections whose sender the task has. -/
def Task.holds : Task → List ℕ
  | .dns d caller => caller.holds ++ d.holds
  | .connectReply id => [id]
  | .relay id up | .shutting id up | .stopping id up => up.holds id
  | .associate id | .associateSend id _ _ | .associateClose id => [id]
  | _ => []

/-- The connection that an answer hands over. -/
def answerIds : Option (Except String ℕ) → List ℕ
  | some (.ok id) => [id]
  | _ => []

def Server.holds (s : Server) (r : ℕ) : List ℕ :=
  (s.tasks r).elim [] Task.holds ++ answerIds (s.oneshot r)

lemma dns_holds (d : Dns) (caller : Caller) :
    (Task.dns d caller).holds = caller.holds ++ d.holds := rfl

lemma Caller.task_holds (caller : Caller) (ip : Option IpAddr) :
    (caller.task ip).holds = caller.holds := by
  cases caller <;> cases ip <;> rfl

/-! ### Effects -/

/-- What a step of a task does to the ends it has: nothing, the drop of the receiver of a TCP
connection, or letting go of a connection, after the close message or without one. -/
inductive Effect where
  | quiet
  | dropReceiver (id : ℕ)
  | close (k : Kind) (id : ℕ)
  | abandon (k : Kind) (id : ℕ)
  deriving DecidableEq

namespace Effect

/-- The connection whose sender is dropped. -/
def freed : Effect → List ℕ
  | close _ id | abandon _ id => [id]
  | _ => []

/-- Whether the receiver of a TCP connection is dropped. -/
def dropsTcp : Effect → ℕ → Bool
  | dropReceiver id, id' | abandon .tcp id, id' => id == id'
  | _, _ => false

/-- Whether both ends of a UDP connection are dropped. -/
def dropsUdp : Effect → ℕ → Bool
  | close .udp id, id' | abandon .udp id, id' => id == id'
  | _, _ => false

lemma dropsTcp_iff {x : Effect} {id : ℕ} :
    x.dropsTcp id = true ↔ x = .dropReceiver id ∨ x = .abandon .tcp id := by
  cases x with
  | abandon k j => cases k <;> simp [dropsTcp]
  | _ => simp [dropsTcp]

lemma dropsUdp_iff {x : Effect} {id : ℕ} :
    x.dropsUdp id = true ↔ x = .close .udp id ∨ x = .abandon .udp id := by
  cases x with
  | close k j | abandon k j => cases k <;> simp [dropsUdp]
  | _ => simp [dropsUdp]

/-- The ends of the server after a step with the effect `x`. -/
structure Did (x : Effect) (s s' : Server) : Prop where
  stack : Netstack.Drops x.dropsTcp x.dropsUdp s.stack s'.stack
  tcpGone : ∀ id, s'.tcpSenderGone id = true
    ↔ s.tcpSenderGone id = true ∨ x = .close .tcp id ∨ x = .abandon .tcp id
  udpGone : ∀ id, s'.udpSenderGone id = true
    ↔ s.udpSenderGone id = true ∨ x = .close .udp id ∨ x = .abandon .udp id
  tcpClose : ∀ id, .tcpClose id ∈ s'.data.items
    ↔ .tcpClose id ∈ s.data.items ∨ x = .close .tcp id
  udpClose : ∀ id, .udpClose id ∈ s'.data.items
    ↔ .udpClose id ∈ s.data.items ∨ x = .close .udp id

end Effect

open Effect (Did)

variable {sm : Smoltcp} {s s₁ s' : Server} {x : Effect} {r id : ℕ} {t t' : Task} {a : Act}

/-- A step that drops no receiver and no sender, and sends no close message. -/
lemma Effect.Did.of_drops
    (hs : Netstack.Drops (fun _ => false) (fun _ => false) s.stack s'.stack)
    (ht : s'.tcpSenderGone = s.tcpSenderGone) (hu : s'.udpSenderGone = s.udpSenderGone)
    (hct : ∀ id, .tcpClose id ∈ s'.data.items ↔ .tcpClose id ∈ s.data.items)
    (hcu : ∀ id, .udpClose id ∈ s'.data.items ↔ .udpClose id ∈ s.data.items) :
    Did .quiet s s' where
  stack := hs
  tcpGone id := by simp [ht]
  udpGone id := by simp [hu]
  tcpClose id := by simp [hct]
  udpClose id := by simp [hcu]

lemma Effect.Did.goto (h : Did x s s') : Did x s (s'.goto r t) :=
  ⟨h.stack, h.tcpGone, h.udpGone, h.tcpClose, h.udpClose⟩

lemma Effect.Did.of_eq (hs : s'.stack = s.stack) (ht : s'.tcpSenderGone = s.tcpSenderGone)
    (hu : s'.udpSenderGone = s.udpSenderGone) (hd : s'.data = s.data) : Did .quiet s s' :=
  .of_drops (hs ▸ .of_ends rfl rfl rfl rfl) ht hu (fun _ => by rw [hd]) fun _ => by rw [hd]

/-- A step with an effect after one without. -/
lemma Effect.Did.after (h₁ : Did .quiet s s₁) (h : Did x s₁ s') : Did x s s' where
  stack := h₁.stack.after h.stack
  tcpGone id := by simp [h.tcpGone, h₁.tcpGone]
  udpGone id := by simp [h.udpGone, h₁.udpGone]
  tcpClose id := by simp [h.tcpClose, h₁.tcpClose]
  udpClose id := by simp [h.udpClose, h₁.udpClose]

/-! ### The channels -/

lemma sendCmd_cases {c : Cmd} {ok : Bool} (he : ¬ s.Ended) (h : s.sendCmd c = some (s₁, ok)) :
    ok = true ∧ ∃ cmds, s₁ = { s with cmds } := by
  rw [Server.sendCmd, if_neg he] at h
  obtain ⟨cmds, _, heq⟩ := Option.map_eq_some_iff.mp h
  cases heq
  exact ⟨rfl, cmds, rfl⟩

lemma sendData_cases {d : DataIn} {ok : Bool} (he : ¬ s.Ended)
    (h : s.sendData d = some (s₁, ok)) :
    ok = true ∧ ∃ data, s₁ = { s with data } ∧ data.items = s.data.items ++ [d] := by
  rw [Server.sendData, if_neg he] at h
  obtain ⟨data, hdata, heq⟩ := Option.map_eq_some_iff.mp h
  cases heq
  exact ⟨rfl, data, rfl, (Mailbox.send_eq_some hdata).1⟩

lemma takeAnswer_cases {answer : Except String ℕ} (he : ¬ s.Ended)
    (h : s.takeAnswer r = some (answer, s₁)) :
    s.oneshot r = some answer ∧ s₁ = { s with oneshot := Function.update s.oneshot r none } := by
  rw [Server.takeAnswer] at h
  split at h
  · rename_i hr
    cases h
    exact ⟨hr, rfl⟩
  · rw [if_neg he] at h
    cases h

/-- A connection is read without an effect on its ends. -/
lemma recvTcp_did (h : s.recvTcp sm id = some s') :
    Did .quiet s s' ∧ s'.tasks = s.tasks ∧ s'.oneshot = s.oneshot := by
  rw [Server.recvTcp] at h
  split at h
  · cases h
    exact ⟨.of_eq rfl rfl rfl rfl, rfl, rfl⟩
  · obtain ⟨stack, hstep, rfl⟩ := Option.map_eq_some_iff.mp h
    exact ⟨.of_drops (Netstack.appRecv_drops hstep) rfl rfl (fun _ => Iff.rfl) fun _ => Iff.rfl,
      rfl, rfl⟩

lemma recvUdp_did (h : s.recvUdp sm id = some s') :
    Did .quiet s s' ∧ s'.tasks = s.tasks ∧ s'.oneshot = s.oneshot := by
  obtain ⟨stack, hstep, rfl⟩ := Option.map_eq_some_iff.mp h
  exact ⟨.of_drops (Netstack.appRecvUdp_drops hstep) rfl rfl (fun _ => Iff.rfl) fun _ => Iff.rfl,
    rfl, rfl⟩

/-! ### Letting go -/

lemma dropTcpReceiver_did (sm : Smoltcp) (h : HandedOver s.stack id) :
    Did (.dropReceiver id) s (s.dropTcpReceiver sm id) where
  stack := Netstack.dropReceiver_drops sm h
  tcpGone id := by simp [Server.dropTcpReceiver]
  udpGone id := by simp [Server.dropTcpReceiver]
  tcpClose id := by simp [Server.dropTcpReceiver]
  udpClose id := by simp [Server.dropTcpReceiver]

lemma gone_update {f : ℕ → Bool} {id id' : ℕ} :
    Function.update f id true id' = true ↔ f id' = true ∨ id = id' := by
  rw [Function.update_apply]
  split
  · rename_i h
    exact iff_of_true rfl (.inr h.symm)
  · rename_i h
    exact ⟨.inl, fun hor => hor.resolve_right (Ne.symm h)⟩

/-- Both ends of a TCP connection, without a close message. -/
lemma abandonTcp_did (sm : Smoltcp) (h : HandedOver s.stack id) :
    Did (.abandon .tcp id) s ((s.dropTcpReceiver sm id).dropTcpSender id) where
  stack := Netstack.dropReceiver_drops sm h
  tcpGone id' := by
    simp [Server.dropTcpSender, Server.dropTcpReceiver, gone_update]
  udpGone id' := by simp [Server.dropTcpSender, Server.dropTcpReceiver]
  tcpClose id' := by simp [Server.dropTcpSender, Server.dropTcpReceiver]
  udpClose id' := by simp [Server.dropTcpSender, Server.dropTcpReceiver]

/-- The sender of a TCP connection whose receiver is dropped already. -/
lemma dropTcpSender_did (h : ∀ x, s.stack.tcpEnds id = some x → x.rxDropped = true) :
    Did (.abandon .tcp id) s (s.dropTcpSender id) where
  stack := Netstack.Drops.again h
  tcpGone id' := by simp [Server.dropTcpSender, gone_update]
  udpGone id' := by simp [Server.dropTcpSender]
  tcpClose id' := by simp [Server.dropTcpSender]
  udpClose id' := by simp [Server.dropTcpSender]

/-- A message other than a close message is queued. -/
lemma queued_did {data : Mailbox DataIn appQueue} {d : DataIn}
    (h : data.items = s.data.items ++ [d]) (ht : ∀ id, .tcpClose id ≠ d)
    (hu : ∀ id, .udpClose id ≠ d) : Did .quiet s { s with data } :=
  .of_drops (.of_ends rfl rfl rfl rfl) rfl rfl (by simp [h, ht]) (by simp [h, hu])

/-- The close message, and then the sender. -/
lemma closeTcp_did {data : Mailbox DataIn appQueue}
    (h : data.items = s.data.items ++ [.tcpClose id]) :
    Did (.close .tcp id) s ({ s with data }.dropTcpSender id) where
  stack := .of_ends rfl rfl rfl rfl
  tcpGone id' := by simp [Server.dropTcpSender, gone_update]
  udpGone id' := by simp [Server.dropTcpSender]
  tcpClose id' := by simp [Server.dropTcpSender, h, eq_comm]
  udpClose id' := by simp [Server.dropTcpSender, h]

lemma abandonUdp_did (sm : Smoltcp) (s : Server) (id : ℕ) :
    Did (.abandon .udp id) s (s.dropUdp sm id) where
  stack := Netstack.dropUdpReceiver_drops sm s.stack id
  tcpGone id' := by simp [Server.dropUdp]
  udpGone id' := by simp [Server.dropUdp, gone_update]
  tcpClose id' := by simp [Server.dropUdp]
  udpClose id' := by simp [Server.dropUdp]

lemma closeUdp_did {data : Mailbox DataIn appQueue} (sm : Smoltcp)
    (h : data.items = s.data.items ++ [.udpClose id]) :
    Did (.close .udp id) s ({ s with data }.dropUdp sm id) where
  stack := Netstack.dropUdpReceiver_drops sm s.stack id
  tcpGone id' := by simp [Server.dropUdp]
  udpGone id' := by simp [Server.dropUdp, gone_update]
  tcpClose id' := by simp [Server.dropUdp, h]
  udpClose id' := by simp [Server.dropUdp, h, eq_comm]

/-! ### What the tasks rely on -/

namespace Server

/-- The connection has been let go of after its close message. -/
structure Closed (s : Server) (id : ℕ) : Prop where
  gone : s.tcpSenderGone id = true
  sent : ∀ y, s.stack.tcpEnds id = some y → y.halfClosed = true ∨ .tcpClose id ∈ s.data.items

/-- The receiver of the connection is dropped. -/
def Unread (s : Server) (id : ℕ) : Prop := ∀ y, s.stack.tcpEnds id = some y → y.rxDropped = true

end Server

/-- A finished upload has sent the close message, and a stopping relay has dropped its
receiver. -/
def Task.Fact (s : Server) : Task → Prop
  | .relay id up | .shutting id up =>
      HandedOver s.stack id ∧ (up = .finished → s.Closed id)
  | .stopping id up => HandedOver s.stack id ∧ (up = .finished → s.Closed id) ∧ s.Unread id
  | _ => True

lemma Effect.Did.handedOver (h : Did x s s') (hid : HandedOver s.stack id) :
    HandedOver s'.stack id where
  below := by
    have : s'.stack.nextId = s.stack.nextId := congrArg Netstack.Shape.nextId h.stack.shape
    rw [this]
    exact hid.below
  receiver y hy := by
    rw [h.stack.tcp] at hy
    obtain ⟨y₀, hy₀, rfl⟩ := Option.map_eq_some_iff.mp hy
    exact hid.receiver y₀ hy₀

lemma Effect.Did.closed (h : Did x s s') (hid : s.Closed id) : s'.Closed id where
  gone := (h.tcpGone id).mpr (.inl hid.gone)
  sent y hy := by
    rw [h.stack.tcp] at hy
    obtain ⟨y₀, hy₀, rfl⟩ := Option.map_eq_some_iff.mp hy
    exact (hid.sent y₀ hy₀).imp_right fun hd => (h.tcpClose _).mpr (.inl hd)

lemma Effect.Did.unread (h : Did x s s') (hid : s.Unread id) : s'.Unread id := by
  intro y hy
  rw [h.stack.tcp] at hy
  obtain ⟨y₀, hy₀, rfl⟩ := Option.map_eq_some_iff.mp hy
  simp [hid y₀ hy₀]

lemma Effect.Did.fact (h : Did x s s') (ht : t.Fact s) : t.Fact s' := by
  cases t with
  | relay id up | shutting id up => exact ⟨h.handedOver ht.1, fun hup => h.closed (ht.2 hup)⟩
  | stopping id up =>
      exact ⟨h.handedOver ht.1, fun hup => h.closed (ht.2.1 hup), h.unread ht.2.2⟩
  | _ => trivial

/-! ### The steps of the tasks -/

def Upload.effect (id : ℕ) : Upload → Act → Effect
  | .closing, .sent => .close .tcp id
  | _, _ => .quiet

/-- What a step of a task does to its ends while the netstack runs. -/
def Task.effect : Task → Act → Effect
  | .dns (.waiting id) _, .resolved _ => .abandon .udp id
  | .connectReply id, .replied false => .abandon .tcp id
  | .shutting id _, .shutDown => .dropReceiver id
  | .relay id up, a | .shutting id up, a => up.effect id a
  | .stopping id up, .aborted => if up = .finished then .quiet else .abandon .tcp id
  | .stopping id up, a => up.effect id a
  | .associateClose id, .sent => .close .udp id
  | _, _ => .quiet

/-- A step of the task `r` with an effect, and the task it leaves. -/
structure Acted (x : Effect) (r : ℕ) (t t' : Task) (s s' : Server) : Prop where
  did : Did x s s'
  tasks : s'.tasks = Function.update s.tasks r (some t')
  oneshot : ∀ r' ≠ r, s'.oneshot r' = s.oneshot r'
  holds : (x.freed ++ (t'.holds ++ answerIds (s'.oneshot r))).Perm
    (t.holds ++ answerIds (s.oneshot r))
  fact : t'.Fact s'

/-- The task goes on with what it holds. -/
lemma Acted.moved (hd : Did x s s₁) (ht : s₁.tasks = s.tasks) (ho : s₁.oneshot = s.oneshot)
    (hh : (x.freed ++ t'.holds).Perm t.holds) (hf : t'.Fact s₁) :
    Acted x r t t' s (s₁.goto r t') where
  did := hd.goto
  tasks := by
    rw [← ht]
    rfl
  oneshot r' _ := congrFun ho r'
  holds := by
    rw [← List.append_assoc, show (s₁.goto r t').oneshot = s₁.oneshot from rfl, ho]
    exact hh.append_right _
  fact := Effect.Did.fact (s := s₁) (.of_eq rfl rfl rfl rfl) hf

/-- The task goes on, perhaps after a command. -/
lemma Acted.went {cmds : Mailbox Cmd cmdQueue} (hh : t'.holds.Perm t.holds) (hf : t'.Fact s) :
    Acted .quiet r t t' s ({ s with cmds }.goto r t') :=
  have hd : Did .quiet s { s with cmds } := .of_eq rfl rfl rfl rfl
  .moved hd rfl rfl hh (hd.fact hf)

/-- The task waits on. -/
lemma Acted.stay (hd : Did .quiet s s') (ht : s'.tasks = s.tasks) (ho : s'.oneshot = s.oneshot)
    (hr : s.tasks r = some t) (hf : t.Fact s) : Acted .quiet r t t s s' where
  did := hd
  tasks := by rw [ht, ← hr, Function.update_eq_self]
  oneshot r' _ := congrFun ho r'
  holds := by
    rw [ho]
    exact .refl _
  fact := hd.fact hf

/-- The task takes its answer. -/
lemma Acted.taken {answer : Except String ℕ} (hr : s.oneshot r = some answer)
    (hh : t'.holds = t.holds ++ answerIds (some answer)) (hf : t'.Fact s) :
    Acted .quiet r t t' s
      ({ s with oneshot := Function.update s.oneshot r none }.goto r t') where
  did := .goto (.of_eq rfl rfl rfl rfl)
  tasks := rfl
  oneshot r' hne := Function.update_of_ne hne ..
  holds := by
    have hnone : ({ s with oneshot := Function.update s.oneshot r none }.goto r t').oneshot r
        = none := Function.update_self ..
    rw [hnone, hr, hh]
    simp [Effect.freed, answerIds]
  fact := Effect.Did.fact (s := s) (.of_eq rfl rfl rfl rfl) hf

/-- How `dns_resolve` goes on, its caller included. -/
lemma Caller.task_fact (caller : Caller) (ip : Option IpAddr) (s : Server) :
    (caller.task ip).Fact s := by
  cases caller <;> cases ip <;> trivial

lemma dns_acted {d : Dns} {caller : Caller} (he : ¬ s.Ended)
    (h : d.act sm s r caller a = some s') :
    ∃ t', Acted (Task.effect (.dns d caller) a) r (.dns d caller) t' s s' := by
  -- the caller goes on when the connection is dropped
  have hfreed : ∀ (id : ℕ) (ip : Option IpAddr),
      (Effect.freed (.abandon .udp id) ++ (caller.task ip).holds).Perm
        (Task.dns (.waiting id) caller).holds := by
    intro id ip
    rw [caller.task_holds, dns_holds]
    exact List.perm_append_comm
  unfold Dns.act at h
  split at h
  · obtain ⟨⟨s₁, ok⟩, hs, rfl⟩ := Option.map_eq_some_iff.mp h
    obtain ⟨rfl, cmds, rfl⟩ := sendCmd_cases he hs
    exact ⟨_, .went (.refl _) trivial⟩
  · obtain ⟨⟨answer, s₁⟩, hs, heq⟩ := Option.map_eq_some_iff.mp h
    obtain ⟨hr, rfl⟩ := takeAnswer_cases he hs
    cases answer with
    | ok id =>
        cases heq
        exact ⟨_, .taken hr (by simp [dns_holds, Dns.holds, answerIds]) trivial⟩
    | error e =>
        cases heq
        refine ⟨_, .taken hr ?_ (caller.task_fact ..)⟩
        simp [caller.task_holds, dns_holds, Dns.holds, answerIds]
  · obtain ⟨⟨s₁, ok⟩, hs, rfl⟩ := Option.map_eq_some_iff.mp h
    obtain ⟨rfl, data, rfl, hdata⟩ := sendData_cases he hs
    have hd := queued_did (s := s) hdata (by simp) (by simp)
    exact ⟨_, .moved hd rfl rfl (.refl _) trivial⟩
  · obtain ⟨s₁, hs, rfl⟩ := Option.map_eq_some_iff.mp h
    obtain ⟨hd, ht, ho⟩ := recvUdp_did hs
    exact ⟨_, .moved (hd.after (abandonUdp_did ..)) ht ho (hfreed ..) (caller.task_fact ..)⟩
  · cases h
    exact ⟨_, .moved (abandonUdp_did ..) rfl rfl (hfreed ..) (caller.task_fact ..)⟩
  · cases h

/-- The upload task, in a relay that goes on or stops. -/
lemma upload_acted {up : Upload} (back : Upload → Task) (he : ¬ s.Ended)
    (hx : (back up).effect a = up.effect id a) (hh : ∀ up, (back up).holds = up.holds id)
    (hback : ∀ s' up', Did (up.effect id a) s s' → (up' = .finished → s'.Closed id) →
      (back up').Fact s')
    (h : up.act s r id back a = some s') :
    ∃ t', Acted ((back up).effect a) r (back up) t' s s' := by
  rw [hx]
  unfold Upload.act at h
  split at h
  · cases h
    refine ⟨_, .went ?_ ?_⟩
    · rw [hh, hh]
      exact .refl _
    · exact hback s _ (.of_eq rfl rfl rfl rfl) (by simp)
  · cases h
    refine ⟨_, .went ?_ ?_⟩
    · rw [hh, hh]
      exact .refl _
    · exact hback s _ (.of_eq rfl rfl rfl rfl) (by simp)
  · obtain ⟨⟨s₁, ok⟩, hs, rfl⟩ := Option.map_eq_some_iff.mp h
    obtain ⟨rfl, data, rfl, hdata⟩ := sendData_cases he hs
    have hd := queued_did (s := s) hdata (by simp) (by simp)
    refine ⟨_, .moved hd rfl rfl ?_ (hback _ _ hd (by simp))⟩
    rw [hh, hh]
    exact .refl _
  · obtain ⟨⟨s₁, ok⟩, hs, rfl⟩ := Option.map_eq_some_iff.mp h
    obtain ⟨rfl, data, rfl, hdata⟩ := sendData_cases he hs
    have hd := closeTcp_did (s := s) hdata
    have hclosed : ({ s with data }.dropTcpSender id).Closed id := by
      refine ⟨(hd.tcpGone id).mpr (.inr (.inl rfl)), ?_⟩
      intro y _
      exact .inr ((hd.tcpClose id).mpr (.inr rfl))
    refine ⟨_, .moved hd rfl rfl ?_ (hback _ _ hd fun _ => hclosed)⟩
    rw [hh, hh]
    exact .refl _
  · cases h

/-- What is left of a relay that has dropped its receiver. -/
lemma Effect.Did.stopping {up : Upload} (h : Did (.dropReceiver id) s s')
    (hf : (Task.shutting id up).Fact s) : (Task.stopping id up).Fact s' := by
  refine ⟨h.handedOver hf.1, fun hup => h.closed (hf.2 hup), ?_⟩
  intro y hy
  rw [h.stack.tcp] at hy
  obtain ⟨y₀, _, rfl⟩ := Option.map_eq_some_iff.mp hy
  simp [Effect.dropsTcp]

/-- **The steps of the tasks**: each has the effect of its await. -/
theorem task_acted (he : ¬ s.Ended) (hr : s.tasks r = some t) (hf : t.Fact s)
    (hlive : ∀ id ∈ s.holds r, HandedOver s.stack id) (h : t.act sm s r a = some s') :
    ∃ t', Acted (t.effect a) r t t' s s' := by
  unfold Task.act at h
  split at h
  · exact dns_acted he h
  · obtain ⟨⟨s₁, ok⟩, hs, rfl⟩ := Option.map_eq_some_iff.mp h
    obtain ⟨rfl, cmds, rfl⟩ := sendCmd_cases he hs
    exact ⟨_, .went (.refl _) trivial⟩
  -- the connection is taken from the oneshot channel
  · obtain ⟨⟨answer, s₁⟩, hs, heq⟩ := Option.map_eq_some_iff.mp h
    obtain ⟨ho, rfl⟩ := takeAnswer_cases he hs
    cases answer <;> cases heq <;> exact ⟨_, .taken ho rfl trivial⟩
  · rename_i id
    cases h
    have hid : HandedOver s.stack id := hlive id (by simp [Server.holds, hr, Task.holds])
    exact ⟨_, .went (.refl _) ⟨hid, by simp⟩⟩
  · rename_i id
    cases h
    have hid : HandedOver s.stack id := hlive id (by simp [Server.holds, hr, Task.holds])
    exact ⟨_, .moved (abandonTcp_did sm hid) rfl rfl (.refl _) trivial⟩
  · rename_i id up
    obtain ⟨hd, ht, ho⟩ := recvTcp_did h
    have hx : Task.effect (.relay id up) (.chunk true) = .quiet := by cases up <;> rfl
    rw [hx]
    exact ⟨_, .stay hd ht ho hr hf⟩
  · rename_i id up
    obtain ⟨s₁, hs, rfl⟩ := Option.map_eq_some_iff.mp h
    obtain ⟨hd, ht, ho⟩ := recvTcp_did hs
    have hx : Task.effect (.relay id up) (.chunk false) = .quiet := by cases up <;> rfl
    rw [hx]
    exact ⟨_, .moved hd ht ho (.refl _) (hd.fact hf)⟩
  · rename_i id up
    rw [Option.ite_none_right_eq_some, Option.some.injEq] at h
    obtain ⟨_, rfl⟩ := h
    have hx : Task.effect (.relay id up) .drained = .quiet := by cases up <;> rfl
    rw [hx]
    exact ⟨_, .went (.refl _) hf⟩
  · rename_i id up _ _ _
    refine upload_acted (.relay id) he rfl (fun _ => rfl) ?_ h
    intro s' up' hd hup
    exact ⟨hd.handedOver hf.1, hup⟩
  · rename_i id up
    cases h
    have hd := dropTcpReceiver_did sm hf.1
    exact ⟨_, .moved hd rfl rfl (.refl _) (hd.stopping hf)⟩
  · rename_i id up hne
    refine upload_acted (.shutting id) he ?_ (fun _ => rfl) ?_ h
    · cases a with
      | shutDown => exact absurd rfl hne
      | _ => rfl
    · intro s' up' hd hup
      exact ⟨hd.handedOver hf.1, hup⟩
  · rename_i id up
    cases h
    cases up with
    | finished => exact ⟨_, .went (.refl _) trivial⟩
    | _ => exact ⟨_, .moved (dropTcpSender_did hf.2.2) rfl rfl (.refl _) trivial⟩
  · rename_i id up hne
    refine upload_acted (.stopping id) he ?_ (fun _ => rfl) ?_ h
    · cases a with
      | aborted => exact absurd rfl hne
      | _ => rfl
    · intro s' up' hd hup
      exact ⟨hd.handedOver hf.1, hup, hd.unread hf.2.2⟩
  -- handle_udp_associate
  · rename_i ok
    cases h
    cases ok <;> exact ⟨_, .went (.refl _) trivial⟩
  · obtain ⟨⟨s₁, ok⟩, hs, rfl⟩ := Option.map_eq_some_iff.mp h
    obtain ⟨rfl, cmds, rfl⟩ := sendCmd_cases he hs
    exact ⟨_, .went (.refl _) trivial⟩
  · obtain ⟨⟨answer, s₁⟩, hs, heq⟩ := Option.map_eq_some_iff.mp h
    obtain ⟨ho, rfl⟩ := takeAnswer_cases he hs
    cases answer <;> cases heq <;> exact ⟨_, .taken ho rfl trivial⟩
  · cases h
    exact ⟨_, .went (.refl _) trivial⟩
  · cases h
    exact ⟨_, .went (.refl _) trivial⟩
  · obtain ⟨hd, ht, ho⟩ := recvUdp_did h
    exact ⟨_, .stay hd ht ho hr hf⟩
  · rw [Option.ite_none_right_eq_some, Option.some.injEq] at h
    obtain ⟨_, rfl⟩ := h
    exact ⟨_, .went (.refl _) trivial⟩
  · cases h
    exact ⟨_, .went (.refl _) trivial⟩
  · obtain ⟨⟨s₁, ok⟩, hs, rfl⟩ := Option.map_eq_some_iff.mp h
    obtain ⟨rfl, data, rfl, hdata⟩ := sendData_cases he hs
    have hd := queued_did (s := s) hdata (by simp) (by simp)
    exact ⟨_, .moved hd rfl rfl (.refl _) trivial⟩
  · obtain ⟨⟨s₁, ok⟩, hs, rfl⟩ := Option.map_eq_some_iff.mp h
    obtain ⟨rfl, data, rfl, hdata⟩ := sendData_cases he hs
    exact ⟨_, .moved (closeUdp_did sm hdata) rfl rfl (.refl _) trivial⟩
  · cases h

/-! ### The program counter of the netstack -/

namespace Server

variable {ok : Bool}

@[simp] lemma goto_pc (s : Server) (r : ℕ) (t : Task) : (s.goto r t).stack.pc = s.stack.pc := rfl

@[simp] lemma dropTcpSender_pc (s : Server) (id : ℕ) :
    (s.dropTcpSender id).stack.pc = s.stack.pc := rfl

@[simp] lemma dropTcpReceiver_pc (sm : Smoltcp) (s : Server) (id : ℕ) :
    (s.dropTcpReceiver sm id).stack.pc = s.stack.pc := by
  rw [dropTcpReceiver, Netstack.step]
  split
  · split <;> rfl
  · rfl

@[simp] lemma dropUdp_pc (sm : Smoltcp) (s : Server) (id : ℕ) :
    (s.dropUdp sm id).stack.pc = s.stack.pc :=
  (Netstack.dropUdpReceiver_drops sm s.stack id).pc

lemma sendCmd_pc {c : Cmd} (h : s.sendCmd c = some (s₁, ok)) : s₁.stack.pc = s.stack.pc := by
  rw [sendCmd] at h
  split at h
  · cases h
    rfl
  · obtain ⟨_, _, heq⟩ := Option.map_eq_some_iff.mp h
    cases heq
    rfl

lemma sendData_pc {d : DataIn} (h : s.sendData d = some (s₁, ok)) :
    s₁.stack.pc = s.stack.pc := by
  rw [sendData] at h
  split at h
  · cases h
    rfl
  · obtain ⟨_, _, heq⟩ := Option.map_eq_some_iff.mp h
    cases heq
    rfl

lemma takeAnswer_pc {answer : Except String ℕ} (h : s.takeAnswer r = some (answer, s₁)) :
    s₁.stack.pc = s.stack.pc := by
  rw [takeAnswer] at h
  split at h
  · cases h
    rfl
  · split at h <;> cases h
    rfl

end Server

lemma dns_pc {d : Dns} {caller : Caller} (h : d.act sm s r caller a = some s') :
    s'.stack.pc = s.stack.pc := by
  unfold Dns.act at h
  split at h
  · obtain ⟨⟨s₁, ok⟩, hs, rfl⟩ := Option.map_eq_some_iff.mp h
    simp [Server.sendCmd_pc hs]
  · obtain ⟨⟨answer, s₁⟩, hs, heq⟩ := Option.map_eq_some_iff.mp h
    cases answer <;> cases heq <;> simp [Server.takeAnswer_pc hs]
  · obtain ⟨⟨s₁, ok⟩, hs, rfl⟩ := Option.map_eq_some_iff.mp h
    cases ok <;> simp [Server.sendData_pc hs]
  · obtain ⟨s₁, hs, rfl⟩ := Option.map_eq_some_iff.mp h
    simp [(recvUdp_did hs).1.stack.pc]
  · cases h
    simp
  · cases h

lemma upload_pc {up : Upload} {back : Upload → Task} (h : up.act s r id back a = some s') :
    s'.stack.pc = s.stack.pc := by
  unfold Upload.act at h
  split at h
  · cases h
    simp
  · cases h
    simp
  · obtain ⟨⟨s₁, ok⟩, hs, rfl⟩ := Option.map_eq_some_iff.mp h
    cases ok <;> simp [Server.sendData_pc hs]
  · obtain ⟨⟨s₁, ok⟩, hs, rfl⟩ := Option.map_eq_some_iff.mp h
    simp [Server.sendData_pc hs]
  · cases h

/-- No task moves the netstack. -/
lemma act_pc (h : t.act sm s r a = some s') : s'.stack.pc = s.stack.pc := by
  unfold Task.act at h
  split at h
  case h_1 => exact dns_pc h
  case h_9 | h_11 | h_13 => exact upload_pc h
  -- a command, an answer, a data message
  case h_2 | h_15 =>
      obtain ⟨⟨s₁, ok⟩, hs, rfl⟩ := Option.map_eq_some_iff.mp h
      simp [Server.sendCmd_pc hs]
  case h_3 | h_16 =>
      obtain ⟨⟨answer, s₁⟩, hs, heq⟩ := Option.map_eq_some_iff.mp h
      cases answer <;> cases heq <;> simp [Server.takeAnswer_pc hs]
  case h_22 | h_23 =>
      obtain ⟨⟨s₁, ok⟩, hs, rfl⟩ := Option.map_eq_some_iff.mp h
      simp [Server.sendData_pc hs]
  -- a chunk or a packet
  case h_6 => exact (recvTcp_did h).1.stack.pc
  case h_7 =>
      obtain ⟨s₁, hs, rfl⟩ := Option.map_eq_some_iff.mp h
      simp [(recvTcp_did hs).1.stack.pc]
  case h_19 => exact (recvUdp_did h).1.stack.pc
  case h_8 | h_20 =>
      rw [Option.ite_none_right_eq_some, Option.some.injEq] at h
      obtain ⟨_, rfl⟩ := h
      simp
  case h_12 =>
      cases h
      split <;> simp
  case h_24 => cases h
  all_goals
    cases h
    simp

end Aether.Socks
