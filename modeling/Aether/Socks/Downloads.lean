import Aether.Socks.Moves

/-!
What a client of CONNECT is sent.

`service_tcp` puts what arrives into the queue of the connection, and the relay takes its chunks
and writes them to the client. When the netstack drops its end, the relay still gets what is
queued, and only then the end.

* `Ledger`: what has been written for one connection, what could not be, and what a removed
  connection has left.
* `Downloads`: every byte that was delivered is written, or in the one chunk that could not be, or
  still queued, in this order.
* `downloads_complete`: so a client is written a prefix of what was received, and all of it before
  its relay finds the connection at its end.
-/

namespace Aether.Socks

open Netstack (NetStack Smoltcp Interface DataIn HandedOver TcpState)
open Server (Books)

/-- What became of the chunks of a connection. `left` is what was queued when it was removed, less
what has been taken since, and `total` what its socket had received by then. -/
structure Ledger where
  written : Bytes
  missed : List Bytes
  left : List Bytes
  total : Bytes
  deriving DecidableEq

namespace Ledger

def empty : Ledger := ⟨[], [], [], []⟩

def take (l : Ledger) (chunk : Bytes) (written : Bool) : Ledger :=
  if written then { l with written := l.written ++ chunk }
  else { l with missed := l.missed ++ [chunk] }

/-- The end of the channel is found after its last chunk. -/
def move (id : ℕ) (s : NetStack) (l : Ledger) : Move → Option Ledger
  | .chunk id' written =>
      if id' = id then
        match s.tcpConns id with
        | some st => st.toApp.items.head?.map fun chunk => l.take chunk written
        | none => l.left.head?.map fun chunk => { l.take chunk written with left := l.left.tail }
      else some l
  | .drained id' => if id' = id ∧ s.tcpConns id = none ∧ l.left ≠ [] then none else some l
  | _ => some l

/-- A connection that is removed leaves its queue. -/
def leave (id : ℕ) (s s' : NetStack) (l : Ledger) : Ledger :=
  match s.tcpConns id, s'.tcpConns id with
  | some st, none =>
      { l with left := st.toApp.items, total := (s.tcp st.handle).elim [] fun t => t.received }
  | _, _ => l

end Ledger

def Ev.move (s : Server) : Ev → Move
  | .task r a => (s.tasks r).elim .quiet fun t => t.move a
  | _ => .quiet

/-- The connections that a task has in one way, or finds in its oneshot channel. -/
def Server.has (f : Task → List ℕ) (s : Server) (r : ℕ) : List ℕ :=
  (s.tasks r).elim [] f ++ answerIds (s.oneshot r)

/-- The receiver of a connection is with one task, which writes until a chunk cannot be. -/
structure Receivers (id : ℕ) (s : Server) (l : Ledger) : Prop where
  apart : ∀ r r', id ∈ s.has Task.receives r → id ∈ s.has Task.receives r' → r = r'
  once : ∀ r t, s.tasks r = some t → id ∈ t.receives → id ∉ answerIds (s.oneshot r)
  handed : ∀ r, id ∈ s.has Task.receives r → HandedOver s.stack id
  live : ∀ r st, id ∈ s.has Task.receives r → s.stack.tcpConns id = some st →
    st.rxDropped = false
  fresh : ¬ HandedOver s.stack id →
    l = .empty ∧ ∀ st, s.stack.tcpConns id = some st → st.rxDropped = false
  missed : ∀ r, id ∈ s.has Task.reads r → l.missed = []
  one : l.missed.length ≤ 1

/-- Where the bytes are that have been delivered for a connection. -/
structure Downloads (id : ℕ) (s : Server) (l : Ledger) : Prop where
  receivers : Receivers id s l
  unopened : s.stack.nextId ≤ id → s.stack.delivered id = []
  queue : ∀ st, s.stack.tcpConns id = some st → st.rxDropped = false →
    l.written ++ l.missed.flatten ++ st.toApp.items.flatten = s.stack.delivered id
  removed : ∀ r, id ∈ s.has Task.receives r → s.stack.tcpConns id = none →
    l.written ++ l.missed.flatten ++ l.left.flatten = l.total

variable {sm : Smoltcp} {s s' : Server} {r id : ℕ} {t t' : Task} {a : Act} {m : Move}
  {l l' : Ledger} {st st' : TcpState} {e : Ev}

lemma Task.reads_subset (t : Task) : t.reads ⊆ t.receives := by
  cases t <;> simp [Task.reads, Task.receives]

lemma Server.has_eq {f : Task → List ℕ} (hr : s.tasks r = some t) :
    s.has f r = f t ++ answerIds (s.oneshot r) := by
  rw [Server.has, hr]
  rfl

lemma Server.has_reads (h : id ∈ s.has Task.reads r) : id ∈ s.has Task.receives r := by
  rw [Server.has, List.mem_append] at h ⊢
  refine h.imp_left fun hid => ?_
  cases hr : s.tasks r with
  | none =>
      rw [hr] at hid
      cases hid
  | some t =>
      rw [hr] at hid
      exact t.reads_subset hid

lemma tcpEnds_eq {n : NetStack} (hid : n.tcpConns id = some st) :
    n.tcpEnds id = some st.ends := by
  rw [NetStack.tcpEnds, hid]
  rfl

lemma tcpConns_of_ends {n : NetStack} {y : Netstack.TcpEnds} (hy : n.tcpEnds id = some y) :
    ∃ st, n.tcpConns id = some st ∧ st.ends = y := Option.map_eq_some_iff.mp hy

namespace Ledger

@[simp] lemma leave_written (n n' : NetStack) : (l.leave id n n').written = l.written := by
  rw [leave]
  split <;> rfl

@[simp] lemma leave_missed (n n' : NetStack) : (l.leave id n n').missed = l.missed := by
  rw [leave]
  split <;> rfl

/-- A connection that is there, or that was not there before, leaves nothing. -/
lemma leave_of {n n' : NetStack} (h : n.tcpConns id = none ∨ n'.tcpConns id ≠ none) :
    l.leave id n n' = l := by
  rw [leave]
  split
  · rename_i st hst hnone
    rcases h with h | h
    · cases hst.symm.trans h
    · exact absurd hnone h
  · rfl

end Ledger

/-! ### The steps of the netstack -/

/-- An entry after a step of the netstack: new, or the one there was. -/
lemma Ran.entry {k : Option ℕ} (h : Ran k s s') (hid : s'.stack.tcpConns id = some st') :
    s.stack.nextId ≤ id ∧ st'.rxDropped = false
      ∨ ∃ st, s.stack.tcpConns id = some st ∧ st'.rxDropped = st.rxDropped := by
  rcases h.ends.tcp id st'.ends (tcpEnds_eq hid) with ⟨hnew, heq⟩ | ⟨y, hy, hl⟩
  · exact .inl ⟨hnew, congrArg Netstack.TcpEnds.rxDropped heq⟩
  · obtain ⟨st, hst, rfl⟩ := tcpConns_of_ends hy
    exact .inr ⟨st, hst, hl.rxDropped⟩

/-- A connection that is gone has been handed over, if it was opened. -/
lemma handedOver_of_none {n : NetStack} (hlt : id < n.nextId) (h : n.tcpConns id = none) :
    HandedOver n id := by
  refine ⟨hlt, fun y hy => ?_⟩
  obtain ⟨st, hst, -⟩ := tcpConns_of_ends hy
  cases h.symm.trans hst

/-- What a step of the netstack hands to the tasks. -/
structure Answers (s s' : Server) (obs : List Netstack.Obs) : Prop where
  logged : Netstack.Logged s.stack s'.stack obs
  has : ∀ f r id, id ∈ s'.has f r → id ∈ s.has f r ∨ .answered r (.ok id) ∈ obs

lemma Ran.exists_answers {k : Option ℕ} (h : Ran k s s') : ∃ obs, Answers s s' obs := by
  obtain ⟨obs, hlog, hans⟩ := h.answers
  refine ⟨obs, hlog, fun f r id hid => ?_⟩
  rw [Server.has, h.tasks, List.mem_append] at hid
  rcases hid with htask | hone
  · exact .inl (List.mem_append_left _ htask)
  · rcases hans r with heq | ⟨answer, hobs, heq⟩
    · rw [heq] at hone
      exact .inl (List.mem_append_right _ hone)
    · rw [heq, mem_answerIds] at hone
      cases hone
      exact .inr hobs

lemma Receivers.netstack {k : Option ℕ} (h : Receivers id s l) (hran : Ran k s s')
    (hm : s.stack.shape.Matched) : Receivers id s' (l.leave id s.stack s'.stack) := by
  obtain ⟨obs, hans⟩ := hran.exists_answers
  have hnew : ∀ r r', id ∈ s.has Task.receives r' → .answered r (.ok id) ∉ obs :=
    fun r r' hid hobs => (hans.logged.granted r id hobs).2 (h.handed r' hid)
  -- an entry of a connection that was not handed over
  have hfresh : ¬ HandedOver s.stack id → ∀ st', s'.stack.tcpConns id = some st' →
      st'.rxDropped = false := by
    intro hn st' hst'
    rcases hran.entry hst' with ⟨-, hd⟩ | ⟨st, hst, hd⟩
    · exact hd
    · exact hd.trans ((h.fresh hn).2 st hst)
  refine ⟨?_, ?_, ?_, ?_, ?_, ?_, ?_⟩
  · intro r r' h₁ h₂
    rcases hans.has _ r id h₁ with h₁ | h₁ <;> rcases hans.has _ r' id h₂ with h₂ | h₂
    · exact h.apart r r' h₁ h₂
    · exact absurd h₂ (hnew r' r h₁)
    · exact absurd h₁ (hnew r r' h₂)
    · exact (hans.logged.one r id r' id h₁ h₂).1
  · intro r t ht hid hone
    rw [hran.tasks] at ht
    have hold : id ∈ s.has Task.receives r := by
      rw [Server.has_eq ht]
      exact List.mem_append_left _ hid
    obtain ⟨obs', hlog', hans'⟩ := hran.answers
    rcases hans' r with heq | ⟨answer, hobs, heq⟩
    · exact h.once r t ht hid (heq ▸ hone)
    · rw [heq, mem_answerIds] at hone
      cases hone
      exact (hlog'.granted r id hobs).2 (h.handed r hold)
  · intro r hid
    rcases hans.has _ r id hid with hold | hobs
    · exact hran.ends.handedOver (h.handed r hold)
    · exact (hans.logged.granted r id hobs).1
  · intro r st' hid hst'
    rcases hans.has _ r id hid with hold | hobs
    · rcases hran.entry hst' with ⟨-, hd⟩ | ⟨st, hst, hd⟩
      · exact hd
      · exact hd.trans (h.live r st hold hst)
    · exact hfresh (hans.logged.granted r id hobs).2 st' hst'
  · intro hn
    have hold : ¬ HandedOver s.stack id := mt hran.ends.handedOver hn
    refine ⟨(Ledger.leave_of ?_).trans (h.fresh hold).1, hfresh hold⟩
    by_contra hor
    obtain ⟨hthere, hgone⟩ := not_or.mp hor
    obtain ⟨st, hst⟩ := Option.ne_none_iff_exists'.mp hthere
    have hlt : id < s.stack.nextId := hm.below .tcp id _ (Netstack.entries_tcp hst)
    exact hn (handedOver_of_none (Nat.lt_of_lt_of_le hlt hran.ends.next) (not_not.mp hgone))
  · intro r hid
    rw [Ledger.leave_missed]
    rcases hans.has _ r id hid with hold | hobs
    · exact h.missed r hold
    · rw [(h.fresh (hans.logged.granted r id hobs).2).1]
      rfl
  · rw [Ledger.leave_missed]
    exact h.one

/-- A chunk goes to the back of the queue, or the connection is removed. -/
lemma Downloads.netstack {n : Netstack.Ev} {iface : Interface} (h : Downloads id s l)
    (hb : Books s) (hrun : ∃ ns, Machine.run (Netstack.step sm) (.spawned iface) ns = some s.stack)
    (hstep : Netstack.step sm s.stack n = some s'.stack) (hran : Ran n.closes s s')
    (htaken : n.taken s.stack id = []) : Downloads id s' (l.leave id s.stack s'.stack) := by
  obtain ⟨ns, hns⟩ := hrun
  refine ⟨h.receivers.netstack hran hb.matched, ?_, ?_, ?_⟩
  · intro hle
    have hle' := Nat.le_trans hran.ends.next hle
    exact (Netstack.step_unopened hb.matched hle' hstep).2 (h.unopened hle')
  · intro st' hst' hd
    rw [Ledger.leave_written, Ledger.leave_missed]
    rcases hran.entry hst' with ⟨hnew, -⟩ | ⟨st, hst, hdrop⟩
    · -- a connection that has just been opened
      have hnone : ¬ HandedOver s.stack id := fun hh => absurd hh.below (Nat.not_lt.mpr hnew)
      have hempty : st'.toApp.items = [] := by
        refine (Netstack.opened_empty hb.matched hstep ?_ hst').1
        by_contra hthere
        obtain ⟨st, hst⟩ := Option.ne_none_iff_exists'.mp hthere
        exact absurd (hb.matched.below .tcp id _ (Netstack.entries_tcp hst)) (Nat.not_lt.mpr hnew)
      rw [(h.receivers.fresh hnone).1, hempty,
        (Netstack.step_unopened hb.matched hnew hstep).2 (h.unopened hnew)]
      rfl
    · have hlt : id < s.stack.nextId := hb.matched.below .tcp id _ (Netstack.entries_tcp hst)
      obtain ⟨came, hflow⟩ := Netstack.step_flow hlt hstep
      have hq := hflow.queue st st' hst hst' hd
      rw [htaken, List.nil_append] at hq
      rw [hflow.delivered, ← h.queue st hst (hdrop ▸ hd), ← hq, List.flatten_append]
      simp only [List.append_assoc]
  · intro r hid hgone
    obtain ⟨obs, hans⟩ := hran.exists_answers
    cases hst : s.stack.tcpConns id with
    | none =>
        rw [Ledger.leave_of (.inl hst)]
        rcases hans.has _ r id hid with hold | hobs
        · exact h.removed r hold hst
        · rw [(h.receivers.fresh (hans.logged.granted r id hobs).2).1]
          rfl
    | some st =>
        -- a receiver is alive, and the connection has been established
        have hboth : st.rxDropped = false ∧ st.established = true := by
          rcases hans.has _ r id hid with hold | hobs
          · exact ⟨h.receivers.live r st hold hst,
              Netstack.handedOver_established hns (h.receivers.handed r hold) hst⟩
          · exact absurd hgone
              (Netstack.granted_stays hb.matched hstep hans.logged.log hobs hst)
        obtain ⟨t, ht⟩ := Netstack.exists_socket hb.matched hst
        obtain ⟨-, -, hrec⟩ := Netstack.removed_delivered hns hstep hst ht hboth.1 hboth.2 hgone
        have hq := h.queue st hst hboth.1
        rw [Ledger.leave_written, Ledger.leave_missed, Ledger.leave, hst, hgone]
        dsimp only
        rw [hq, ht, hrec]
        rfl

/-! ### The steps of the tasks -/

namespace Ledger

/-- A step leaves the ledger alone, or takes the front of the queue. -/
lemma move_cases {n : NetStack} (h : l.move id n m = some l') :
    l' = l ∧ (∀ written, m ≠ .chunk id written)
      ∨ ∃ chunk written, m = .chunk id written ∧ (
        (∃ st, n.tcpConns id = some st ∧ st.toApp.items.head? = some chunk
          ∧ l' = l.take chunk written)
        ∨ n.tcpConns id = none ∧ l.left.head? = some chunk
          ∧ l' = { l.take chunk written with left := l.left.tail }) := by
  cases m with
  | chunk id' written =>
      rw [move] at h
      split at h
      · rename_i hid
        subst hid
        refine .inr ?_
        split at h
        · rename_i st hst
          obtain ⟨chunk, hc, rfl⟩ := Option.map_eq_some_iff.mp h
          exact ⟨chunk, written, rfl, .inl ⟨st, hst, hc, rfl⟩⟩
        · rename_i hst
          obtain ⟨chunk, hc, rfl⟩ := Option.map_eq_some_iff.mp h
          exact ⟨chunk, written, rfl, .inr ⟨hst, hc, rfl⟩⟩
      · rename_i hid
        cases h
        exact .inl ⟨rfl, fun _ heq => hid (Move.chunk.inj heq).1⟩
  | drained id' =>
      rw [move] at h
      split at h
      · cases h
      · cases h
        exact .inl ⟨rfl, by simp⟩
  | _ =>
      cases h
      exact .inl ⟨rfl, by simp⟩

/-- The bytes of a chunk are written or missed. -/
lemma take_bytes (hm : l.missed = []) (chunk : Bytes) (written : Bool) :
    (l.take chunk written).written ++ (l.take chunk written).missed.flatten
      = l.written ++ l.missed.flatten ++ chunk := by
  cases written <;> simp [take, hm]

lemma take_missed_le (hm : l.missed = []) (chunk : Bytes) (written : Bool) :
    (l.take chunk written).missed.length ≤ 1 := by
  cases written <;> simp [take, hm]

@[simp] lemma take_left (chunk : Bytes) (written : Bool) :
    (l.take chunk written).left = l.left := by
  cases written <;> rfl

@[simp] lemma take_total (chunk : Bytes) (written : Bool) :
    (l.take chunk written).total = l.total := by
  cases written <;> rfl

end Ledger

/-- Only a relay takes chunks. -/
lemma move_chunk {written : Bool} (h : t.move a = .chunk id written) : id ∈ t.reads := by
  have hup : ∀ id' up, Upload.move id' up a ≠ .chunk id written := by
    intro id' up
    unfold Upload.move
    split <;> simp
  unfold Task.move at h
  split at h
  · cases h
    exact List.mem_singleton_self _
  · cases h
  all_goals first | exact absurd h (hup _ _) | cases h

/-- The tasks that drop the receiver of a connection. -/
lemma dropsTcp_cases (h : (t.effect a).dropsTcp id = true) :
    t = .connectReply id ∧ a = .replied false ∨ (∃ up, t = .shutting id up ∧ a = .shutDown)
      ∨ ∃ up, t = .stopping id up ∧ a = .aborted := by
  have hup : ∀ id' up, (Upload.effect id' up a).dropsTcp id = false := by
    intro id' up
    unfold Upload.effect
    split <;> rfl
  unfold Task.effect at h
  split at h
  · cases h
  · rw [Effect.dropsTcp, beq_iff_eq] at h
    exact .inl ⟨congrArg Task.connectReply h, rfl⟩
  · rw [Effect.dropsTcp, beq_iff_eq] at h
    exact .inr (.inl ⟨_, congrArg (Task.shutting · _) h, rfl⟩)
  · exact absurd h (by simp [hup])
  · exact absurd h (by simp [hup])
  · split at h
    · cases h
    · rw [Effect.dropsTcp, beq_iff_eq] at h
      exact .inr (.inr ⟨_, congrArg (Task.stopping · _) h, rfl⟩)
  · exact absurd h (by simp [hup])
  · cases h
  · cases h

/-- They do not receive from it any more. -/
lemma dropsTcp_receives (h : (t.effect a).dropsTcp id = true) (hact : t.act sm s r a = some s')
    (hr' : s'.tasks r = some t') : t'.receives = [] := by
  have hgoto : ∀ (s₁ : Server) (u : Task), u.receives = [] → some (s₁.goto r u) = some s' →
      t'.receives = [] := by
    rintro s₁ u hu heq
    cases heq
    have hnew := Function.update_self r (some u) s₁.tasks
    obtain rfl := Option.some.inj (hnew.symm.trans hr')
    exact hu
  rcases dropsTcp_cases h with ⟨rfl, rfl⟩ | ⟨up, rfl, rfl⟩ | ⟨up, rfl, rfl⟩ <;>
    exact hgoto _ _ rfl hact

/-- What a task has after a step, it had before. -/
lemma Took.has {f : Task → List ℕ} (htook : Took sm m r t t' s s')
    (hf : ∀ id ∈ f t', id ∈ f t ∨ id ∈ answerIds (s.oneshot r) ∧ s'.oneshot r = none)
    (hr : s.tasks r = some t) (hr' : s'.tasks r = some t') (hid : id ∈ s'.has f r) :
    id ∈ s.has f r := by
  rw [Server.has_eq hr', List.mem_append] at hid
  rw [Server.has_eq hr, List.mem_append]
  rcases hid with hmem | hone
  · exact (hf id hmem).imp_right And.left
  · rcases htook.kept.oneshot with heq | heq
    · exact .inr (heq ▸ hone)
    · rw [heq] at hone
      cases hone

lemma Acted.has {x : Effect} {f : Task → List ℕ} {r' : ℕ} (h : Acted x r t t' s s')
    (hne : r' ≠ r) : s'.has f r' = s.has f r' := by
  rw [Server.has, Server.has, h.tasks, Function.update_of_ne hne, h.oneshot r' hne]

/-- The entry of a connection after a step of a task. -/
lemma Effect.Did.entry {x : Effect} (h : Effect.Did x s s')
    (hid : s'.stack.tcpConns id = some st') :
    ∃ st, s.stack.tcpConns id = some st ∧ st'.rxDropped = (st.rxDropped || x.dropsTcp id) := by
  have hy := tcpEnds_eq hid
  rw [h.stack.tcp] at hy
  obtain ⟨y, hy, heq⟩ := Option.map_eq_some_iff.mp hy
  obtain ⟨st, hst, rfl⟩ := tcpConns_of_ends hy
  exact ⟨st, hst, (congrArg Netstack.TcpEnds.rxDropped heq).symm⟩

lemma Effect.Did.none_iff {x : Effect} (h : Effect.Did x s s') :
    s'.stack.tcpConns id = none ↔ s.stack.tcpConns id = none := by
  have hy := h.stack.tcp id
  rw [NetStack.tcpEnds, NetStack.tcpEnds] at hy
  constructor
  · intro hnone
    rw [hnone, Option.map_none, eq_comm, Option.map_eq_none_iff, Option.map_eq_none_iff] at hy
    exact hy
  · intro hnone
    rw [hnone, Option.map_none, Option.map_none, Option.map_eq_none_iff] at hy
    exact hy

/-- A step of a task, with the task it leaves. -/
structure Acting (sm : Smoltcp) (a : Act) (r : ℕ) (t t' : Task) (s s' : Server) : Prop where
  task : s.tasks r = some t
  act : t.act sm s r a = some s'
  acted : Acted (t.effect a) r t t' s s'
  took : Took sm (t.move a) r t t' s s'

lemma Acting.task' (h : Acting sm a r t t' s s') : s'.tasks r = some t' := by
  rw [h.acted.tasks, Function.update_self]

lemma Acting.receives {r' : ℕ} (h : Acting sm a r t t' s s')
    (hid : id ∈ s'.has Task.receives r') : id ∈ s.has Task.receives r' := by
  by_cases hne : r' = r
  · subst hne
    exact h.took.has h.took.kept.receives h.task h.task' hid
  · rwa [h.acted.has hne] at hid

lemma Acting.reads {r' : ℕ} (h : Acting sm a r t t' s s') (hid : id ∈ s'.has Task.reads r') :
    id ∈ s.has Task.reads r' := by
  by_cases hne : r' = r
  · subst hne
    exact h.took.has h.took.kept.reads h.task h.task' hid
  · rwa [h.acted.has hne] at hid

lemma Receivers.of_reads (h : Receivers id s l) (hr : s.tasks r = some t) (hid : id ∈ t.reads) :
    id ∈ s.has Task.receives r ∧ l.missed = [] := by
  refine ⟨?_, h.missed r ?_⟩
  · rw [Server.has_eq hr]
    exact List.mem_append_left _ (t.reads_subset hid)
  · rw [Server.has_eq hr]
    exact List.mem_append_left _ hid

/-- A receiver that is dropped is with no task any more. -/
lemma Receivers.not_dropped {r' : ℕ} (h : Receivers id s l) (hb : Books s)
    (hs : Acting sm a r t t' s s') (hid : id ∈ s'.has Task.receives r')
    (hst : s.stack.tcpConns id = some st) : (t.effect a).dropsTcp id = false := by
  by_contra hd
  rw [Bool.not_eq_false] at hd
  have hold := hs.receives hid
  have hnone := dropsTcp_receives hd hs.act hs.task'
  have hmine : id ∈ t.receives → False := by
    intro hmem
    have hr : id ∈ s.has Task.receives r := by
      rw [Server.has_eq hs.task]
      exact List.mem_append_left _ hmem
    obtain rfl := h.apart r' r hold hr
    rw [Server.has_eq hs.task', hnone, List.nil_append] at hid
    rcases hs.took.kept.oneshot with heq | heq
    · exact h.once r' t hs.task hmem (heq ▸ hid)
    · rw [heq] at hid
      cases hid
  rcases dropsTcp_cases hd with ⟨rfl, -⟩ | ⟨up, rfl, -⟩ | ⟨up, rfl, -⟩
  · exact hmine (List.mem_singleton_self id)
  · exact hmine (List.mem_singleton_self id)
  · -- it has been dropped before
    have hunread := (hb.facts r _ hs.task).2.2 st.ends (tcpEnds_eq hst)
    have hlive := h.live r' st hold hst
    cases hunread.symm.trans hlive

lemma Receivers.task (h : Receivers id s l) (hb : Books s) (hs : Acting sm a r t t' s s')
    (hmove : l.move id s.stack (t.move a) = some l') : Receivers id s' l' := by
  refine ⟨fun r₁ r₂ h₁ h₂ => h.apart r₁ r₂ (hs.receives h₁) (hs.receives h₂), ?_, ?_, ?_, ?_, ?_,
    ?_⟩
  · intro r' t₁ ht₁ hid hone
    rw [hs.acted.tasks, Function.update_apply] at ht₁
    split at ht₁
    · rename_i heq
      subst heq
      cases ht₁
      rcases hs.took.kept.receives id hid with hold | ⟨-, hnone⟩
      · rcases hs.took.kept.oneshot with heq | heq
        · exact h.once r' t hs.task hold (heq ▸ hone)
        · rw [heq] at hone
          cases hone
      · rw [hnone] at hone
        cases hone
    · rename_i hne
      exact h.once r' t₁ ht₁ hid (hs.acted.oneshot r' hne ▸ hone)
  · intro r' hid
    exact hs.acted.did.handedOver (h.handed r' (hs.receives hid))
  · intro r' st' hid hst'
    obtain ⟨st, hst, hd⟩ := hs.acted.did.entry hst'
    rw [hd, h.live r' st (hs.receives hid) hst, h.not_dropped hb hs hid hst]
    rfl
  · intro hn
    have hold : ¬ HandedOver s.stack id := mt hs.acted.did.handedOver hn
    refine ⟨?_, ?_⟩
    · rcases Ledger.move_cases hmove with ⟨rfl, -⟩ | ⟨chunk, written, hm, -⟩
      · exact (h.fresh hold).1
      · exact absurd (h.handed r (h.of_reads hs.task (move_chunk hm)).1) hold
    · intro st' hst'
      obtain ⟨st, hst, hd⟩ := hs.acted.did.entry hst'
      rw [hd, (h.fresh hold).2 st hst, Bool.false_or]
      by_contra hdrop
      rw [Bool.not_eq_false] at hdrop
      have hfact := hb.facts r t hs.task
      rcases dropsTcp_cases hdrop with ⟨rfl, -⟩ | ⟨up, rfl, -⟩ | ⟨up, rfl, -⟩
      · refine hold (h.handed r ?_)
        rw [Server.has_eq hs.task]
        exact List.mem_append_left _ (List.mem_singleton_self id)
      · exact hold hfact.1
      · exact hold hfact.1
  · intro r' hid
    have hmissed := h.missed r' (hs.reads hid)
    rcases Ledger.move_cases hmove with ⟨rfl, -⟩ | ⟨chunk, written, hm, hor⟩
    · exact hmissed
    · cases written with
      | true => rcases hor with ⟨-, -, -, rfl⟩ | ⟨-, -, rfl⟩ <;> exact hmissed
      | false =>
          -- the task that could not write does not read any more
          exfalso
          have hmem := move_chunk hm
          have hmine := (h.of_reads hs.task hmem).1
          obtain rfl := h.apart r' r (hs.receives (Server.has_reads hid)) hmine
          rw [Server.has_eq hs.task', List.mem_append] at hid
          rcases hid with hid | hid
          · exact hs.took.gone id hm hid
          · rcases hs.took.kept.oneshot with heq | heq
            · exact h.once r' t hs.task (t.reads_subset hmem) (heq ▸ hid)
            · rw [heq] at hid
              cases hid
  · rcases Ledger.move_cases hmove with ⟨rfl, -⟩ | ⟨chunk, written, hm, hor⟩
    · exact h.one
    · -- a task that reads has written all it took so far
      have hnone := (h.of_reads hs.task (move_chunk hm)).2
      have htaken : l'.missed = (l.take chunk written).missed := by
        rcases hor with ⟨-, -, -, rfl⟩ | ⟨-, -, rfl⟩ <;> rfl
      rw [htaken]
      exact Ledger.take_missed_le hnone chunk written

lemma head_take {α : Type} {xs ys : List α} {x : α} (h : xs.head? = some x)
    (heq : xs = xs.take 1 ++ ys) : xs = x :: ys := by
  cases xs with
  | nil => cases h
  | cons y xs =>
      cases h
      exact heq

/-- A move that takes no chunk of the connection. -/
lemma takes_eq_nil (n : NetStack) (h : ∀ written, m ≠ .chunk id written) : m.takes n id = [] := by
  cases m with
  | chunk id' written =>
      refine if_neg ?_
      rintro rfl
      exact h written rfl
  | _ => rfl

/-- The front of the queue is written, or missed. -/
lemma Downloads.task (h : Downloads id s l) (hb : Books s) (hs : Acting sm a r t t' s s')
    (hmove : l.move id s.stack (t.move a) = some l') : Downloads id s' l' := by
  have hnext : s'.stack.nextId = s.stack.nextId :=
    congrArg Netstack.Shape.nextId hs.acted.did.stack.shape
  have hlog : s'.stack.handled id = s.stack.handled id
      ∧ s'.stack.delivered id = s.stack.delivered id := hs.took.drawn.same_log
  refine ⟨h.receivers.task hb hs hmove, ?_, ?_, ?_⟩
  · rw [hnext, hlog.2]
    exact h.unopened
  · intro st' hst' hd
    obtain ⟨st, hst, hitems⟩ := hs.took.drawn.queue id st' hst'
    obtain ⟨st₁, hst₁, hdrop⟩ := hs.acted.did.entry hst'
    obtain rfl := Option.some.inj (hst.symm.trans hst₁)
    rw [hd, eq_comm, Bool.or_eq_false_iff] at hdrop
    rw [hlog.2, ← h.queue st hst hdrop.1]
    rcases Ledger.move_cases hmove with ⟨rfl, hm⟩ | ⟨chunk, written, hm, hor⟩
    · rw [hitems, takes_eq_nil s.stack hm]
      rfl
    · have hmissed := (h.receivers.of_reads hs.task (move_chunk hm)).2
      rcases hor with ⟨st₂, hst₂, hc, rfl⟩ | ⟨hnone, -⟩
      · obtain rfl := Option.some.inj (hst.symm.trans hst₂)
        rw [hm, Move.takes, if_pos rfl, hst] at hitems
        rw [head_take hc hitems, Ledger.take_bytes hmissed, List.flatten_cons]
        simp only [List.append_assoc]
      · cases hst.symm.trans hnone
  · intro r' hid hgone
    have hgone' := hs.acted.did.none_iff.mp hgone
    have hold := h.removed r' (hs.receives hid) hgone'
    rcases Ledger.move_cases hmove with ⟨rfl, -⟩ | ⟨chunk, written, hm, hor⟩
    · exact hold
    · have hmissed := (h.receivers.of_reads hs.task (move_chunk hm)).2
      rcases hor with ⟨st, hst, -⟩ | ⟨-, hc, rfl⟩
      · cases hst.symm.trans hgone'
      · show (l.take chunk written).written ++ (l.take chunk written).missed.flatten
          ++ l.left.tail.flatten = (l.take chunk written).total
        rw [Ledger.take_bytes hmissed, Ledger.take_total, ← hold, List.append_assoc]
        congr 1
        cases hleft : l.left with
        | nil =>
            rw [hleft] at hc
            cases hc
        | cons c left =>
            rw [hleft] at hc
            cases hc
            rfl

/-- A step that leaves the streams alone. -/
lemma Downloads.quietly (h : Downloads id s l) (hstack : s'.stack = s.stack)
    (honeshot : s'.oneshot = s.oneshot)
    (htasks : ∀ r t, s'.tasks r = some t → s.tasks r = some t ∨ t.Bare ∧ t.holds = []) :
    Downloads id s' l := by
  have hhas : ∀ {f : Task → List ℕ}, (∀ t : Task, t.Bare → f t = []) → ∀ r,
      id ∈ s'.has f r → id ∈ s.has f r := by
    intro f hf r hid
    rw [Server.has, honeshot, List.mem_append] at hid
    rcases hid with hid | hid
    · cases hr : s'.tasks r with
      | none =>
          rw [hr] at hid
          cases hid
      | some t =>
          rw [hr] at hid
          rcases htasks r t hr with hold | ⟨hbare, -⟩
          · rw [Server.has_eq hold]
            exact List.mem_append_left _ hid
          · have hnone := hf t hbare
            rw [show (some t).elim [] f = f t from rfl, hnone] at hid
            cases hid
    · exact List.mem_append_right _ hid
  have hreceives : ∀ r, id ∈ s'.has Task.receives r → id ∈ s.has Task.receives r :=
    hhas fun t ht => ht.receives
  have hr := h.receivers
  refine ⟨⟨?_, ?_, ?_, ?_, ?_, ?_, hr.one⟩, ?_, ?_, ?_⟩
  · exact fun r r' h₁ h₂ => hr.apart r r' (hreceives r h₁) (hreceives r' h₂)
  · intro r t ht hid
    rw [honeshot]
    rcases htasks r t ht with hold | ⟨hbare, -⟩
    · exact hr.once r t hold hid
    · rw [hbare.receives] at hid
      cases hid
  · rw [hstack]
    exact fun r hid => hr.handed r (hreceives r hid)
  · rw [hstack]
    exact fun r st hid => hr.live r st (hreceives r hid)
  · rw [hstack]
    exact hr.fresh
  · exact fun r hid => hr.missed r (hhas (fun t ht => ht.reads) r hid)
  · rw [hstack]
    exact h.unopened
  · rw [hstack]
    exact h.queue
  · rw [hstack]
    exact fun r hid => h.removed r (hreceives r hid)

/-! ### Runs -/

end Aether.Socks
