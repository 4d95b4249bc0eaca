import Aether.Netstack.Queue
import Aether.Socks.Leaks

/-!
What a step of a task does with the bytes of its connection.

The upload task of `handle_connect` reads from the client and hands what it read to the netstack;
the relay itself takes chunks from the netstack and writes them to the client. Of such a step only
its *move* matters to the two streams.

* `Task.move`: the move of a task at an await that ends.
* `Took`: what a step with a move does to the data channel, to the netstack and to what the task
  has in hand; `task_took` says that every step of a task is one.
* `stepped`: what a step of the server is, while the netstack runs.
-/

namespace Aether.Socks

open Netstack (NetStack Smoltcp DataIn appQueue)

/-- What a step does with the bytes of a connection: bytes come from the client, go on to the
netstack, or end; a chunk goes to the client, if it can be written; or the chunks end. -/
inductive Move where
  | quiet
  | read (id : ℕ) (data : Bytes)
  | send (id : ℕ) (data : Bytes)
  | close (id : ℕ)
  | chunk (id : ℕ) (written : Bool)
  | drained (id : ℕ)
  deriving DecidableEq

def Upload.move (id : ℕ) : Upload → Act → Move
  | .reading, .read (some data) => .read id data
  | .sending data, .sent => .send id data
  | .closing, .sent => .close id
  | _, _ => .quiet

def Task.move : Task → Act → Move
  | .relay id _, .chunk written => .chunk id written
  | .relay id _, .drained => .drained id
  | .relay id up, a | .shutting id up, a | .stopping id up, a => up.move id a
  | _, _ => .quiet

/-- What the upload task has read and not handed on. -/
def Upload.inHand : Upload → Bytes
  | .sending data => data
  | _ => []

def Task.inHand : Task → Bytes
  | .relay _ up | .shutting _ up | .stopping _ up => up.inHand
  | _ => []

/-- The connections whose chunks the task is going to write. -/
def Task.reads : Task → List ℕ
  | .connectReply id | .relay id _ => [id]
  | _ => []

/-- The connections whose receiver the task has. -/
def Task.receives : Task → List ℕ
  | .connectReply id | .relay id _ | .shutting id _ => [id]
  | _ => []

/-- The bytes of data messages for a connection. -/
def bytesOf (id : ℕ) (ds : List DataIn) : Bytes := (ds.map (DataIn.bytesFor id)).flatten

lemma bytesOf_append (id : ℕ) (ds ds' : List DataIn) :
    bytesOf id (ds ++ ds') = bytesOf id ds ++ bytesOf id ds' := by
  rw [bytesOf, List.map_append, List.flatten_append]
  rfl

lemma bytesOf_cons (id : ℕ) (d : DataIn) (ds : List DataIn) :
    bytesOf id (d :: ds) = d.bytesFor id ++ bytesOf id ds := rfl

namespace Move

/-- The bytes that go into the data channel for a connection. -/
def sends (id : ℕ) : Move → Bytes
  | .send id' data => if id' = id then data else []
  | _ => []

/-- The chunks that are taken from the queue of a connection. -/
def takes (s : NetStack) (id : ℕ) : Move → List Bytes
  | .chunk id' _ =>
      if id' = id then ((s.tcpConns id).map fun st => st.toApp.items.take 1).getD [] else []
  | _ => []

/-- What a task has in hand before and after a move. -/
def Hand (t t' : Task) : Move → Prop
  | .read id data => t.holds = [id] ∧ t.inHand = [] ∧ t'.inHand = data
  | .send id data => t.holds = [id] ∧ t.inHand = data ∧ t'.inHand = []
  | .close id => t.holds = [id] ∧ t.inHand = [] ∧ t'.holds = []
  | .quiet | .chunk _ _ | .drained _ => t'.inHand = t.inHand ∨ t'.holds = []

end Move

/-- Steps of the netstack that move no bytes but what they take from the queues. -/
structure Drawn (sm : Smoltcp) (taken : ℕ → List Bytes) (s s' : NetStack) : Prop where
  stack : ∃ es, Machine.run (Netstack.step sm) s es = some s'
  log : s'.log = s.log
  queue : ∀ id st', s'.tcpConns id = some st' → ∃ st, s.tcpConns id = some st
    ∧ st.toApp.items = taken id ++ st'.toApp.items

/-- A task that goes on with the connections it has, or with the answer it takes. -/
structure Kept (r : ℕ) (t t' : Task) (s s' : Server) : Prop where
  oneshot : s'.oneshot r = s.oneshot r ∨ s'.oneshot r = none
  fresh : t'.inHand = [] ∨ t'.holds ⊆ t.holds
  reads : ∀ id ∈ t'.reads, id ∈ t.reads ∨ id ∈ answerIds (s.oneshot r) ∧ s'.oneshot r = none
  receives : ∀ id ∈ t'.receives,
    id ∈ t.receives ∨ id ∈ answerIds (s.oneshot r) ∧ s'.oneshot r = none

/-- A step of a task that makes a move. -/
structure Took (sm : Smoltcp) (m : Move) (r : ℕ) (t t' : Task) (s s' : Server) : Prop where
  kept : Kept r t t' s s'
  drawn : Drawn sm (m.takes s.stack) s.stack s'.stack
  sent : ∃ ds, s'.data.items = s.data.items ++ ds ∧ (∀ id, bytesOf id ds = m.sends id)
    ∧ ∀ id, DataIn.tcpClose id ∈ ds → m = .close id ∧ ds = [.tcpClose id]
  hand : m.Hand t t'
  gone : ∀ id, m = .chunk id false → id ∉ t'.reads

variable {sm : Smoltcp} {s s₁ s' : Server} {x : Effect} {r id : ℕ} {t t' : Task} {a : Act}

/-! ### What the netstack loses to a task -/

lemma Drawn.refl (sm : Smoltcp) (s : NetStack) : Drawn sm (fun _ => []) s s :=
  ⟨⟨[], rfl⟩, rfl, fun _ st' h => ⟨st', h, rfl⟩⟩

/-- A step of the netstack that leaves the log and the queues alone. -/
lemma Drawn.of_step {n n' : NetStack} {e : Netstack.Ev} (h : Netstack.step sm n e = some n')
    (hlog : n'.log = n.log) (hq : ∀ id st', n'.tcpConns id = some st' →
      ∃ st, n.tcpConns id = some st ∧ st'.toApp = st.toApp) : Drawn sm (fun _ => []) n n' where
  stack := ⟨[e], Machine.run_cons_eq_some.mpr ⟨n', h, rfl⟩⟩
  log := hlog
  queue id st' hst' := by
    obtain ⟨st, hst, heq⟩ := hq id st' hst'
    exact ⟨st, hst, by rw [heq]; rfl⟩

/-- Nothing is taken before the other steps. -/
lemma Drawn.after {taken : ℕ → List Bytes} {n n₁ n' : NetStack}
    (h₁ : Drawn sm (fun _ => []) n n₁) (h : Drawn sm taken n₁ n') : Drawn sm taken n n' where
  stack := by
    obtain ⟨es, hes⟩ := h₁.stack
    obtain ⟨fs, hfs⟩ := h.stack
    exact ⟨es ++ fs, Machine.run_append_eq_some.mpr ⟨n₁, hes, hfs⟩⟩
  log := h.log.trans h₁.log
  queue id st' hst' := by
    obtain ⟨st₁, hst₁, heq⟩ := h.queue id st' hst'
    obtain ⟨st, hst, heq₁⟩ := h₁.queue id st₁ hst₁
    exact ⟨st, hst, heq₁.trans heq⟩

lemma Drawn.same_log {n n' : NetStack} {taken : ℕ → List Bytes} (h : Drawn sm taken n n') :
    n'.handled id = n.handled id ∧ n'.delivered id = n.delivered id := by
  rw [NetStack.handled, NetStack.handled, NetStack.delivered, NetStack.delivered, h.log]
  exact ⟨rfl, rfl⟩

lemma dropReceiver_drawn (sm : Smoltcp) (n : NetStack) (id : ℕ) :
    Drawn sm (fun _ => []) n ((Netstack.step sm n (.dropReceiver id)).getD n) := by
  cases h : Netstack.step sm n (.dropReceiver id) with
  | none => exact .refl sm n
  | some n' =>
      cases Netstack.stepped h with
      | lost hl => exact .of_step h rfl fun _ st' hst' => ⟨st', hst', rfl⟩
      | moved hm => cases hm
      | dropReceiver hid =>
          exact .of_step h rfl fun _ st' hst' => Netstack.exists_same_queue hid hst' rfl

lemma dropUdpReceiver_drawn (sm : Smoltcp) (n : NetStack) (id : ℕ) :
    Drawn sm (fun _ => []) n ((Netstack.step sm n (.dropUdpReceiver id)).getD n) := by
  cases h : Netstack.step sm n (.dropUdpReceiver id) with
  | none => exact .refl sm n
  | some n' =>
      have hstep := h
      obtain ⟨st, -, rfl⟩ := Option.map_eq_some_iff.mp hstep
      exact .of_step h rfl fun _ st' hst' => ⟨st', hst', rfl⟩

/-- A step that goes on with the netstack alone. -/
structure Only (s s' : Server) : Prop where
  data : s'.data = s.data
  oneshot : s'.oneshot = s.oneshot
  tasks : s'.tasks = s.tasks

lemma recvUdp_drawn (h : s.recvUdp sm id = some s') :
    Drawn sm (fun _ => []) s.stack s'.stack ∧ Only s s' := by
  obtain ⟨stack, hstep, rfl⟩ := Option.map_eq_some_iff.mp h
  refine ⟨?_, rfl, rfl, rfl⟩
  have hrecv := hstep
  simp only [Netstack.step] at hrecv
  split at hrecv
  · obtain ⟨p, _, rfl⟩ := Option.map_eq_some_iff.mp hrecv
    exact .of_step hstep rfl fun _ st' hst' => ⟨st', hst', rfl⟩
  · cases hrecv

/-- The relay takes the front of the queue, if the connection is still there. -/
lemma recvTcp_drawn (written : Bool) (h : s.recvTcp sm id = some s') :
    Drawn sm ((Move.chunk id written).takes s.stack) s.stack s'.stack ∧ Only s s' := by
  have hother : ∀ id' ≠ id, (Move.chunk id written).takes s.stack id' = [] :=
    fun id' hne => if_neg (Ne.symm hne)
  rw [Server.recvTcp] at h
  split at h
  · rename_i hid
    cases h
    refine ⟨⟨⟨[], rfl⟩, rfl, fun id' st' hst' => ⟨st', hst', ?_⟩⟩, rfl, rfl, rfl⟩
    have hne : id' ≠ id := by
      rintro rfl
      cases hid.symm.trans hst'
    rw [hother id' hne]
    rfl
  · obtain ⟨stack, hstep, rfl⟩ := Option.map_eq_some_iff.mp h
    refine ⟨?_, rfl, rfl, rfl⟩
    have hrecv := hstep
    simp only [Netstack.step] at hrecv
    split at hrecv
    · rename_i st hid
      split at hrecv
      · cases hrecv
      · obtain ⟨p, hp, rfl⟩ := Option.map_eq_some_iff.mp hrecv
        refine ⟨⟨[_], Machine.run_cons_eq_some.mpr ⟨_, hstep, rfl⟩⟩, rfl, fun id' st' hst' => ?_⟩
        by_cases hne : id' = id
        · subst hne
          have hnew := Function.update_self id' (some { st with toApp := p.2 }) s.stack.tcpConns
          obtain rfl := Option.some.inj (hnew.symm.trans hst')
          refine ⟨st, hid, ?_⟩
          have hitems := Mailbox.recv_eq_some hp
          rw [Move.takes, if_pos rfl, hid, Option.map_some, Option.getD_some, hitems]
          rfl
        · have hold := Function.update_of_ne hne (some { st with toApp := p.2 }) s.stack.tcpConns
          refine ⟨st', hold.symm.trans hst', ?_⟩
          rw [hother id' hne]
          rfl
    · cases hrecv

/-! ### The steps of the tasks -/

lemma Kept.of_eq (h : s'.oneshot r = s.oneshot r) (hf : t'.inHand = [] ∨ t'.holds ⊆ t.holds)
    (hr : t'.reads ⊆ t.reads) (hr' : t'.receives ⊆ t.receives) : Kept r t t' s s' :=
  ⟨.inl h, hf, fun _ hid => .inl (hr hid), fun _ hid => .inl (hr' hid)⟩

/-- A step that moves nothing. -/
lemma Took.of_quiet (hk : Kept r t t' s s') (hd : Drawn sm (fun _ => []) s.stack s'.stack)
    (hdata : s'.data = s.data) (hh : t'.inHand = t.inHand ∨ t'.holds = []) :
    Took sm .quiet r t t' s s' where
  kept := hk
  drawn := hd
  sent := ⟨[], by rw [hdata, List.append_nil], fun _ => rfl, by simp⟩
  hand := hh
  gone _ h := by cases h

/-- A message of another connection goes into the data channel. -/
lemma Took.of_message {d : DataIn} (hk : Kept r t t' s s')
    (hd : Drawn sm (fun _ => []) s.stack s'.stack)
    (hdata : s'.data.items = s.data.items ++ [d]) (hbytes : ∀ id, d.bytesFor id = [])
    (hclose : ∀ id, d ≠ .tcpClose id) (hh : t'.inHand = t.inHand ∨ t'.holds = []) :
    Took sm .quiet r t t' s s' where
  kept := hk
  drawn := hd
  sent := by
    refine ⟨[d], hdata, fun id => ?_, fun id hid => ?_⟩
    · rw [bytesOf_cons, hbytes]
      rfl
    · exact absurd (List.mem_singleton.mp hid).symm (hclose id)
  hand := hh
  gone _ h := by cases h

/-- A task without a TCP connection. -/
structure Task.Bare (t : Task) : Prop where
  inHand : t.inHand = []
  reads : t.reads = []
  receives : t.receives = []

lemma Task.Bare.kept (h : t'.Bare) (ho : s'.oneshot r = s.oneshot r ∨ s'.oneshot r = none) :
    Kept r t t' s s' := by
  refine ⟨ho, .inl h.inHand, fun id hid => ?_, fun id hid => ?_⟩
  · rw [h.reads] at hid
    cases hid
  · rw [h.receives] at hid
    cases hid

/-- A task that moves nothing and comes to have nothing. -/
lemma Task.Bare.took (h : t'.Bare) (ho : s'.oneshot r = s.oneshot r ∨ s'.oneshot r = none)
    (hd : Drawn sm (fun _ => []) s.stack s'.stack) (hdata : s'.data = s.data)
    (hh : t.inHand = [] ∨ t'.holds = []) : Took sm .quiet r t t' s s' :=
  .of_quiet (h.kept ho) hd hdata (hh.imp_left fun hin => h.inHand.trans hin.symm)

lemma Caller.task_bare (caller : Caller) (ip : Option IpAddr) : (caller.task ip).Bare := by
  cases caller <;> cases ip <;> exact ⟨rfl, rfl, rfl⟩

lemma dns_bare (d : Dns) (caller : Caller) : (Task.dns d caller).Bare := ⟨rfl, rfl, rfl⟩

lemma dns_took {d : Dns} {caller : Caller} (he : ¬ s.Ended) (h : d.act sm s r caller a = some s') :
    ∃ t', s'.tasks r = some t' ∧ Took sm .quiet r (.dns d caller) t' s s' := by
  unfold Dns.act at h
  split at h
  · obtain ⟨⟨s₁, ok⟩, hs, rfl⟩ := Option.map_eq_some_iff.mp h
    obtain ⟨rfl, cmds, rfl⟩ := sendCmd_cases he hs
    exact ⟨_, Function.update_self .., (dns_bare _ _).took (.inl rfl) (.refl sm _) rfl (.inl rfl)⟩
  · obtain ⟨⟨answer, s₁⟩, hs, heq⟩ := Option.map_eq_some_iff.mp h
    obtain ⟨hr, rfl⟩ := takeAnswer_cases he hs
    have hnone : Function.update s.oneshot r none r = none := Function.update_self ..
    cases answer <;> cases heq
    · exact ⟨_, Function.update_self ..,
        (caller.task_bare none).took (.inr hnone) (.refl sm _) rfl (.inl rfl)⟩
    · exact ⟨_, Function.update_self ..,
        (dns_bare _ _).took (.inr hnone) (.refl sm _) rfl (.inl rfl)⟩
  · obtain ⟨⟨s₁, ok⟩, hs, rfl⟩ := Option.map_eq_some_iff.mp h
    obtain ⟨rfl, data, rfl, hdata⟩ := sendData_cases he hs
    exact ⟨_, Function.update_self .., .of_message ((dns_bare _ _).kept (.inl rfl)) (.refl sm _)
      hdata (fun _ => rfl) (by simp) (.inl rfl)⟩
  · obtain ⟨s₁, hs, rfl⟩ := Option.map_eq_some_iff.mp h
    obtain ⟨hd, ho⟩ := recvUdp_drawn hs
    exact ⟨_, Function.update_self .., (caller.task_bare _).took (.inl (congrFun ho.oneshot r))
      (hd.after (dropUdpReceiver_drawn sm s₁.stack _)) ho.data (.inl rfl)⟩
  · cases h
    exact ⟨_, Function.update_self .., (caller.task_bare none).took (.inl rfl)
      (dropUdpReceiver_drawn sm s.stack _) rfl (.inl rfl)⟩
  · cases h

/-- A task with the upload task of a connection. -/
structure Upload.Back (id : ℕ) (back : Upload → Task) (reads receives : List ℕ) : Prop where
  inHand : ∀ up, (back up).inHand = up.inHand
  holds : ∀ up, (back up).holds = up.holds id
  reads : ∀ up, (back up).reads = reads
  receives : ∀ up, (back up).receives = receives

lemma Upload.Back.kept {back : Upload → Task} {reads receives : List ℕ} {up up' : Upload}
    (hb : Upload.Back id back reads receives) (ho : s'.oneshot r = s.oneshot r)
    (hh : up'.holds id ⊆ up.holds id) : Kept r (back up) (back up') s s' := by
  refine .of_eq ho (.inr ?_) ?_ ?_
  · rw [hb.holds, hb.holds]
    exact hh
  · rw [hb.reads, hb.reads]
    exact List.Subset.refl _
  · rw [hb.receives, hb.receives]
    exact List.Subset.refl _

/-- The upload task reads, sends what it has read, or closes. -/
lemma upload_took {back : Upload → Task} {reads receives : List ℕ} {up : Upload}
    (he : ¬ s.Ended) (hb : Upload.Back id back reads receives)
    (h : up.act s r id back a = some s') :
    ∃ t', s'.tasks r = some t' ∧ Took sm (up.move id a) r (back up) t' s s' := by
  unfold Upload.act at h
  split at h
  · rename_i data
    cases h
    refine ⟨_, Function.update_self .., hb.kept rfl (List.Subset.refl _), .refl sm _,
      ⟨[], (List.append_nil _).symm, fun _ => rfl, by simp⟩, ⟨?_, ?_, ?_⟩, fun _ hm => by cases hm⟩
    · exact hb.holds _
    · exact hb.inHand _
    · exact hb.inHand _
  · cases h
    refine ⟨_, Function.update_self .., .of_quiet (hb.kept rfl (List.Subset.refl _)) (.refl sm _)
      rfl (.inl ?_)⟩
    rw [hb.inHand, hb.inHand]
    rfl
  · rename_i data
    obtain ⟨⟨s₁, ok⟩, hs, rfl⟩ := Option.map_eq_some_iff.mp h
    obtain ⟨rfl, data', rfl, hdata⟩ := sendData_cases he hs
    refine ⟨_, Function.update_self .., hb.kept rfl (List.Subset.refl _), .refl sm _,
      ⟨[.tcp id data], hdata, fun id' => ?_, by simp⟩, ⟨?_, ?_, ?_⟩, fun _ hm => by cases hm⟩
    · exact List.append_nil _
    · exact hb.holds _
    · exact hb.inHand _
    · exact hb.inHand _
  · obtain ⟨⟨s₁, ok⟩, hs, rfl⟩ := Option.map_eq_some_iff.mp h
    obtain ⟨rfl, data', rfl, hdata⟩ := sendData_cases he hs
    refine ⟨_, Function.update_self .., hb.kept rfl (List.nil_subset _), .refl sm _,
      ⟨[.tcpClose id], hdata, fun _ => rfl, fun id' hid => ?_⟩, ⟨?_, ?_, ?_⟩,
      fun _ hm => by cases hm⟩
    · cases List.mem_singleton.mp hid
      exact ⟨rfl, rfl⟩
    · exact hb.holds _
    · exact hb.inHand _
    · exact hb.holds _
  · cases h

lemma relay_back (id : ℕ) : Upload.Back id (.relay id) [id] [id] :=
  ⟨fun _ => rfl, fun _ => rfl, fun _ => rfl, fun _ => rfl⟩

lemma shutting_back (id : ℕ) : Upload.Back id (.shutting id) [] [id] :=
  ⟨fun _ => rfl, fun _ => rfl, fun _ => rfl, fun _ => rfl⟩

lemma stopping_back (id : ℕ) : Upload.Back id (.stopping id) [] [] :=
  ⟨fun _ => rfl, fun _ => rfl, fun _ => rfl, fun _ => rfl⟩

/-- **The steps of the tasks**: each makes the move of its await. -/
theorem task_took (he : ¬ s.Ended) (hr : s.tasks r = some t) (h : t.act sm s r a = some s') :
    ∃ t', s'.tasks r = some t' ∧ Took sm (t.move a) r t t' s s' := by
  have hnone : Function.update s.oneshot r none r = none := Function.update_self ..
  unfold Task.act at h
  split at h
  · exact dns_took he h
  · obtain ⟨⟨s₁, ok⟩, hs, rfl⟩ := Option.map_eq_some_iff.mp h
    obtain ⟨rfl, cmds, rfl⟩ := sendCmd_cases he hs
    exact ⟨_, Function.update_self .., Task.Bare.took ⟨rfl, rfl, rfl⟩ (.inl rfl) (.refl sm _) rfl
      (.inl rfl)⟩
  -- the connection is taken from the oneshot channel
  · obtain ⟨⟨answer, s₁⟩, hs, heq⟩ := Option.map_eq_some_iff.mp h
    obtain ⟨ho, rfl⟩ := takeAnswer_cases he hs
    cases answer with
    | error e =>
        cases heq
        exact ⟨_, Function.update_self .., Task.Bare.took ⟨rfl, rfl, rfl⟩ (.inr hnone) (.refl sm _)
          rfl (.inl rfl)⟩
    | ok id =>
        cases heq
        refine ⟨.connectReply id, Function.update_self .., .of_quiet ⟨.inr hnone, .inl rfl, ?_, ?_⟩
          (.refl sm _) rfl (.inl rfl)⟩
        · intro id' hid
          rw [ho]
          exact .inr ⟨hid, hnone⟩
        · intro id' hid
          rw [ho]
          exact .inr ⟨hid, hnone⟩
  · cases h
    exact ⟨_, Function.update_self .., .of_quiet (.of_eq rfl (.inl rfl) (List.Subset.refl _)
      (List.Subset.refl _)) (.refl sm _) rfl (.inl rfl)⟩
  · rename_i id
    cases h
    exact ⟨_, Function.update_self .., Task.Bare.took ⟨rfl, rfl, rfl⟩ (.inl rfl)
      (dropReceiver_drawn sm s.stack id) rfl (.inr rfl)⟩
  · rename_i id up
    obtain ⟨hd, ho⟩ := recvTcp_drawn true h
    exact ⟨.relay id up, (congrFun ho.tasks r).trans hr,
      .of_eq (congrFun ho.oneshot r) (.inr (List.Subset.refl _)) (List.Subset.refl _)
        (List.Subset.refl _), hd,
      ⟨[], by rw [ho.data, List.append_nil], fun _ => rfl, by simp⟩, .inl rfl,
      fun _ hm => by cases hm⟩
  · rename_i id up
    obtain ⟨s₁, hs, rfl⟩ := Option.map_eq_some_iff.mp h
    obtain ⟨hd, ho⟩ := recvTcp_drawn false hs
    refine ⟨.shutting id up, Function.update_self .., .of_eq (congrFun ho.oneshot r)
      (.inr (List.Subset.refl _)) (List.nil_subset _) (List.Subset.refl _), hd,
      ⟨[], ?_, fun _ => rfl, by simp⟩, .inl rfl, fun _ _ => List.not_mem_nil⟩
    exact (congrArg Mailbox.items ho.data).trans (List.append_nil _).symm
  · rename_i id up
    rw [Option.ite_none_right_eq_some, Option.some.injEq] at h
    obtain ⟨_, rfl⟩ := h
    exact ⟨.shutting id up, Function.update_self .., .of_eq rfl (.inr (List.Subset.refl _))
      (List.nil_subset _) (List.Subset.refl _), .refl sm _,
      ⟨[], (List.append_nil _).symm, fun _ => rfl, by simp⟩, .inl rfl, fun _ hm => by cases hm⟩
  · rename_i id up hchunk hmissed hdrained
    have hm : (Task.relay id up).move a = up.move id a := by
      cases a with
      | chunk written => cases written <;> contradiction
      | drained => contradiction
      | _ => rfl
    rw [hm]
    exact upload_took he (relay_back id) h
  · rename_i id up
    cases h
    have hm : (Task.shutting id up).move .shutDown = .quiet := by cases up <;> rfl
    rw [hm]
    exact ⟨.stopping id up, Function.update_self .., .of_quiet (.of_eq rfl
      (.inr (List.Subset.refl _)) (List.nil_subset _) (List.nil_subset _))
      (dropReceiver_drawn sm s.stack id) rfl (.inl rfl)⟩
  · exact upload_took he (shutting_back _) h
  · rename_i id up
    cases h
    have hm : (Task.stopping id up).move .aborted = .quiet := by cases up <;> rfl
    rw [hm]
    refine ⟨.ended, Function.update_self .., Task.Bare.took ⟨rfl, rfl, rfl⟩ ?_ ?_ ?_ (.inr rfl)⟩
    · split <;> exact .inl rfl
    · split <;> exact .refl sm _
    · split <;> rfl
  · exact upload_took he (stopping_back _) h
  -- handle_udp_associate
  · rename_i ok
    cases h
    cases ok <;> exact ⟨_, Function.update_self .., Task.Bare.took ⟨rfl, rfl, rfl⟩ (.inl rfl)
      (.refl sm _) rfl (.inl rfl)⟩
  · obtain ⟨⟨s₁, ok⟩, hs, rfl⟩ := Option.map_eq_some_iff.mp h
    obtain ⟨rfl, cmds, rfl⟩ := sendCmd_cases he hs
    exact ⟨_, Function.update_self .., Task.Bare.took ⟨rfl, rfl, rfl⟩ (.inl rfl) (.refl sm _) rfl
      (.inl rfl)⟩
  · obtain ⟨⟨answer, s₁⟩, hs, heq⟩ := Option.map_eq_some_iff.mp h
    obtain ⟨ho, rfl⟩ := takeAnswer_cases he hs
    cases answer <;> cases heq <;> exact ⟨_, Function.update_self ..,
      Task.Bare.took ⟨rfl, rfl, rfl⟩ (.inr hnone) (.refl sm _) rfl (.inl rfl)⟩
  · cases h
    exact ⟨_, Function.update_self .., Task.Bare.took ⟨rfl, rfl, rfl⟩ (.inl rfl) (.refl sm _) rfl
      (.inl rfl)⟩
  · cases h
    exact ⟨_, Function.update_self .., Task.Bare.took ⟨rfl, rfl, rfl⟩ (.inl rfl) (.refl sm _) rfl
      (.inl rfl)⟩
  · obtain ⟨hd, ho⟩ := recvUdp_drawn h
    exact ⟨_, (congrFun ho.tasks r).trans hr, Task.Bare.took ⟨rfl, rfl, rfl⟩
      (.inl (congrFun ho.oneshot r)) hd ho.data (.inl rfl)⟩
  · rw [Option.ite_none_right_eq_some, Option.some.injEq] at h
    obtain ⟨_, rfl⟩ := h
    exact ⟨_, Function.update_self .., Task.Bare.took ⟨rfl, rfl, rfl⟩ (.inl rfl) (.refl sm _) rfl
      (.inl rfl)⟩
  · cases h
    exact ⟨_, Function.update_self .., Task.Bare.took ⟨rfl, rfl, rfl⟩ (.inl rfl) (.refl sm _) rfl
      (.inl rfl)⟩
  · obtain ⟨⟨s₁, ok⟩, hs, rfl⟩ := Option.map_eq_some_iff.mp h
    obtain ⟨rfl, data, rfl, hdata⟩ := sendData_cases he hs
    exact ⟨_, Function.update_self .., .of_message (Task.Bare.kept ⟨rfl, rfl, rfl⟩ (.inl rfl))
      (.refl sm _) hdata (fun _ => rfl) (by simp) (.inl rfl)⟩
  · obtain ⟨⟨s₁, ok⟩, hs, rfl⟩ := Option.map_eq_some_iff.mp h
    obtain ⟨rfl, data, rfl, hdata⟩ := sendData_cases he hs
    exact ⟨_, Function.update_self .., .of_message (Task.Bare.kept ⟨rfl, rfl, rfl⟩ (.inl rfl))
      (dropUdpReceiver_drawn sm s.stack _) hdata (fun _ => rfl) (by simp) (.inl rfl)⟩
  · cases h

/-! ### The steps of the server -/

/-- A step of the netstack, which may take a data message; a step that leaves both streams alone;
or a step of a task. -/
inductive Stepped (sm : Smoltcp) (s : Server) : Ev → Server → Prop where
  | netstack {e : Ev} {n : Netstack.Ev} {s' : Server} (hstep : Netstack.step sm s.stack n
      = some s'.stack) (hran : Ran n.closes s s') (htaken : ∀ id, n.taken s.stack id = [])
      (hdata : (∃ d room, n = .data d room ∧ s.data.items = d :: s'.data.items)
        ∨ (∀ d room, n ≠ .data d room) ∧ s'.data = s.data) (he : ∀ r a, e ≠ .task r a) : Stepped sm s e s'
  | quiet {e : Ev} {s' : Server} (hstack : s'.stack = s.stack) (hdata : s'.data = s.data)
      (honeshot : s'.oneshot = s.oneshot) (htasks : ∀ r t, s'.tasks r = some t →
        s.tasks r = some t ∨ t.Bare ∧ t.holds = []) (he : ∀ r a, e ≠ .task r a) : Stepped sm s e s'
  | task {r : ℕ} {a : Act} {t t' : Task} {s' : Server} (hr : s.tasks r = some t)
      (hact : t.act sm s r a = some s') (hacted : Acted (t.effect a) r t t' s s')
      (htook : Took sm (t.move a) r t t' s s') : Stepped sm s (.task r a) s'

lemma Request.task_bare (q : Request) : q.task.Bare := by
  cases q with
  | connect target port => cases target <;> exact ⟨rfl, rfl, rfl⟩
  | _ => exact ⟨rfl, rfl, rfl⟩

lemma stepped {e : Ev} (he : ¬ s.Ended) (hb : Server.Books s) (h : step sm s e = some s') :
    Stepped sm s e s' := by
  cases e with
  | stack e =>
      simp only [step, Option.ite_none_right_eq_some] at h
      obtain ⟨hown, h⟩ := h
      obtain ⟨stack, hstep, rfl⟩ := Option.map_eq_some_iff.mp h
      have hdrops : e.drops = false := by
        cases e <;> simp_all [own, Netstack.Ev.drops]
      have hcloses : e.closes = none := by
        cases e <;> simp_all [own, Netstack.Ev.closes]
      have hdata : ∀ d room, e ≠ .data d room := by
        rintro d room rfl
        cases hown
      refine .netstack hstep (ran_follow s hb hstep hdrops rfl rfl rfl rfl rfl (fun _ hd => hd)
        (by simp [hcloses])) ?_ (.inr ⟨hdata, rfl⟩) (by simp)
      intro id
      cases e with
      | appRecv id' => cases hown
      | _ => rfl
  | cmd slot err =>
      obtain ⟨⟨c, cmds⟩, hrecv, h⟩ := Option.bind_eq_some_iff.mp h
      obtain ⟨stack, hstep, rfl⟩ := Option.map_eq_some_iff.mp h
      exact .netstack hstep (ran_follow { s with cmds } hb hstep rfl rfl rfl rfl rfl rfl
        (fun _ hd => hd) (by simp [Netstack.Ev.closes])) (fun _ => rfl) (.inr ⟨by simp, rfl⟩)
        (by simp)
  | data room =>
      obtain ⟨⟨d, data⟩, hrecv, h⟩ := Option.bind_eq_some_iff.mp h
      obtain ⟨stack, hstep, rfl⟩ := Option.map_eq_some_iff.mp h
      have hitems := Mailbox.recv_eq_some hrecv
      refine .netstack hstep (ran_follow { s with data } hb hstep rfl rfl rfl rfl rfl rfl
        (fun d' hd => ?_) fun id => ?_) (fun _ => rfl) (.inl ⟨d, room, rfl, hitems⟩) (by simp)
      · rw [hitems]
        exact List.mem_cons_of_mem _ hd
      · rw [hitems, List.mem_cons, or_comm]
        refine or_congr_right ?_
        cases d <;> simp [Netstack.Ev.closes, Netstack.DataIn.closes, eq_comm]
  | setAddrs v4 v6 =>
      obtain ⟨⟨s₁, ok⟩, hsend, rfl⟩ := Option.map_eq_some_iff.mp h
      obtain ⟨-, cmds, rfl⟩ := sendCmd_cases he hsend
      exact .quiet rfl rfl rfl (fun _ _ ht => .inl ht) (by simp)
  | accept r q =>
      simp only [step, Option.ite_none_right_eq_some, Option.some.injEq] at h
      obtain ⟨hr, rfl⟩ := h
      refine .quiet rfl rfl rfl (fun r' t ht => ?_) (by simp)
      by_cases heq : r' = r
      · rw [heq] at ht
        simp only [Server.goto, Function.update_self, Option.some.injEq] at ht
        exact .inr ⟨ht ▸ q.task_bare, ht ▸ q.task_holds⟩
      · simp only [Server.goto, Function.update_of_ne heq] at ht
        exact .inl ht
  | task r a =>
      obtain ⟨t, hr, hact⟩ := Option.bind_eq_some_iff.mp h
      obtain ⟨t', hacted⟩ := task_acted he hr (hb.facts r t hr) (hb.handed r) hact
      obtain ⟨t'', hr', htook⟩ := task_took he hr hact
      have hsame : s'.tasks r = some t' := by
        rw [hacted.tasks, Function.update_self]
      obtain rfl := Option.some.inj (hsame.symm.trans hr')
      exact .task hr hact hacted htook

/-- **The netstack of the server makes a run of the netstack.** -/
theorem stack_step {e : Ev} (h : Stepped sm s e s') :
    ∃ ns, Machine.run (Netstack.step sm) s.stack ns = some s'.stack := by
  cases h with
  | netstack hstep => exact ⟨[_], Machine.run_cons_eq_some.mpr ⟨_, hstep, rfl⟩⟩
  | quiet hstack => exact ⟨[], congrArg some hstack.symm⟩
  | task _ _ _ htook => exact htook.drawn.stack

lemma run_stack {iface : Netstack.Interface} {e : Ev}
    (hrun : ∃ ns, Machine.run (Netstack.step sm) (.spawned iface) ns = some s.stack)
    (h : Stepped sm s e s') :
    ∃ ns, Machine.run (Netstack.step sm) (.spawned iface) ns = some s'.stack := by
  obtain ⟨ns, hns⟩ := hrun
  obtain ⟨ms, hms⟩ := stack_step h
  exact ⟨ns ++ ms, Machine.run_append_eq_some.mpr ⟨_, hns, hms⟩⟩

end Aether.Socks
