import Aether.Tunnel.Link
import Aether.Netstack.Step
import Aether.Lib.Machine

/-!
When the netstack and a MASQUE tunnel wait for each other.

The netstack flushes without ingesting and the tunnel drains without taking outbound
packets. Once each of them has more to send than the other's channel has room for, the
circular wait is inevitable; before, it is impossible.

* `Doomed`: both have more to send than there is room for. No step repairs it, and the
  turns of the two sending loops alone lead to the wait.
* `deadlock_free_iff`: a run from which they cannot get stuck is a run in which neither
  task starts such a batch while the other is in one.
* `deadlock_reachable`: the wait is reached, with either transport.
-/

namespace Aether.Tunnel

open Netstack (NetStack Smoltcp Pc)

variable {tr : Transport} {sm : Smoltcp}

namespace Transport

/-- The packets a drain that starts here delivers. -/
def drainable (tr : Transport) (b : tr.Buf) : List Bytes :=
  match h : tr.pull b with
  | .deliver packet b' =>
      have := tr.size_deliver h
      packet :: drainable tr b'
  | .skip b' =>
      have := tr.size_skip h
      drainable tr b'
  | .stop _ => []
termination_by tr.size b

lemma drainable_deliver {b b' : tr.Buf} {packet : Bytes} (h : tr.pull b = .deliver packet b') :
    tr.drainable b = packet :: tr.drainable b' := by
  rw [drainable]
  split <;> rename_i h' <;> rw [h] at h' <;> cases h'
  rfl

lemma drainable_skip {b b' : tr.Buf} (h : tr.pull b = .skip b') :
    tr.drainable b = tr.drainable b' := by
  rw [drainable]
  split <;> rename_i h' <;> rw [h] at h' <;> cases h'
  rfl

lemma drainable_stop {b b' : tr.Buf} (h : tr.pull b = .stop b') : tr.drainable b = [] := by
  rw [drainable]
  split <;> rename_i h' <;> rw [h] at h' <;> cases h'

end Transport

/-! ### Batches that do not fit -/

/-- The netstack flushes more packets than the outbound channel has room for. -/
def Link.FlushOver (l : Link tr) : Prop :=
  l.stack.pc = .flushTx ∧ l.outbound.room < l.stack.tx.length

/-- The tunnel drains more packets than the inbound channel has room for. -/
def Link.DrainOver (l : Link tr) : Prop :=
  l.tunnel = .drain ∧ l.inbound.room < (tr.drainable l.buf).length

def Link.Doomed (l : Link tr) : Prop := l.FlushOver ∧ l.DrainOver

/-- The event starts no batch that does not fit while the other task is in one: the end
of the service passes starts a flush, a packet from the network a drain. -/
def Fits (l : Link tr) : LinkEv tr → Prop
  | .stack .udpDone => l.DrainOver → l.stack.tx.length ≤ l.outbound.room
  | .net => ∀ a ∈ l.arrivals.head?, l.FlushOver →
      (tr.drainable (tr.feed l.buf a)).length ≤ l.inbound.room
  | _ => True

/-! ### The netstack's side -/

section Stack

variable {s s' : NetStack} {e : Netstack.Ev}

/-- The end of the service passes is where a flush begins, with what the poll left. -/
lemma udpDone_step (h : Netstack.step sm s .udpDone = some s') :
    s'.pc = .flushTx ∧ s'.tx = s.tx := by
  simp only [Netstack.step, Option.ite_none_right_eq_some, Option.some.injEq] at h
  obtain ⟨_, rfl⟩ := h
  exact ⟨rfl, rfl⟩

/-- No other step of the netstack's own begins a flush. -/
lemma ownStep_to_flush (h : Netstack.step sm s e = some s') (hown : Link.ownStep e)
    (he : e ≠ .udpDone) (hpc : s'.pc = .flushTx) : s.pc = .flushTx ∧ s'.tx = s.tx := by
  cases Netstack.stepped h with
  | lost | poll | serviceUdp | deliverUdp => cases hpc
  | moved hm =>
      cases hm with
      | udpDone => exact absurd rfl he
      | _ => cases hpc
  | serviceTcp =>
      rcases (Netstack.serviceConn_device ..).2 with hp | ⟨cs, hp⟩ <;> rw [hp] at hpc <;> cases hpc
  | deliverTcp _ _ _ hd =>
      obtain ⟨_, cs, hp⟩ := Netstack.deliverChunk_device hd
      rw [hp] at hpc
      cases hpc
  | finishTcp =>
      rw [(Netstack.finishConn_device ..).2] at hpc
      cases hpc
  | flush | inbound => cases hown
  | cmd =>
      rcases Netstack.handleCmd_pc sm (s.goto .poll) _ _ _ with hp | hp <;> rw [hp] at hpc
        <;> cases hpc
  | data =>
      rcases (Netstack.handleData_device (s.goto .dataIn) _ _).2 with hp | hp <;> rw [hp] at hpc
        <;> cases hpc
  | _ => exact ⟨hpc, rfl⟩

/-- While the netstack flushes, only its applications move. -/
lemma ownStep_of_flush (h : Netstack.step sm s e = some s') (hown : Link.ownStep e)
    (hpc : s.pc = .flushTx) : s'.pc = .flushTx ∧ s'.tx = s.tx := by
  have hne : ∀ pc, s.pc = pc → pc = .flushTx := fun pc h => h ▸ hpc
  cases Netstack.stepped h with
  | lost hl =>
      cases hl with
      | service h' | deliver h' | serviceUdp h' | deliverUdp h' => cases hne _ h'
  | moved hm =>
      cases hm with
      | flushed => cases hown
      | skipTcp h' | tcpDone h' | skipUdp h' | dropUdp h' | udpDone h' | dataDone h' | timer h'
      | stop h' => cases hne _ h'
  | data hd => rcases hd with hd | hd <;> cases hne _ hd
  | flush | inbound => cases hown
  | poll h' | serviceTcp h' | deliverTcp h' | finishTcp h' | serviceUdp h' | deliverUdp h'
  | cmd h' => cases hne _ h'
  | _ => exact ⟨hpc, rfl⟩

end Stack

/-! ### One step -/

section Step

variable {l l' : Link tr} {e : LinkEv tr}

/-- Outside its drain the tunnel has nothing left to drain, unless the drain was cut
short by the end of the netstack. -/
def Link.Drained (l : Link tr) : Prop :=
  tr.drainsAlways = true → l.tunnel ≠ .drain → tr.drainable l.buf = [] ∨ stackGone l.stack

lemma start_drained (tr : Transport) (iface : Netstack.Interface) :
    (Link.start tr iface).Drained :=
  fun _ _ => .inl (Transport.drainable_stop tr.drains_fresh)

lemma stackGone_step {s s' : NetStack} {e : Netstack.Ev} (h : Netstack.step sm s e = some s')
    (hs : stackGone s) : stackGone s' := by
  have hpc := Netstack.step_ended h hs
  rw [stackGone, hpc]
  exact hs

lemma not_gone {s : NetStack} (h : s.pc = .flushTx ∨ s.pc = .select) : ¬ stackGone s := by
  rintro (hs | hs) <;> rcases h with h | h <;> rw [h] at hs <;> cases hs

lemma afterBranch_eq_drain : Link.afterBranch tr = .drain ↔ tr.drainsAlways = true := by
  rw [Link.afterBranch]
  split <;> simp_all

lemma drained_step (hl : l.Drained) (h : l.step sm e = some l') : l'.Drained := by
  intro hd htun
  cases Link.stepped h with
  | stack _ hs => exact (hl hd htun).imp_right (stackGone_step hs)
  | flushed hpc | flushGone hpc | flush hpc =>
      exact .inl ((hl hd htun).resolve_right (not_gone (.inl hpc)))
  | ingest hpc => exact .inl ((hl hd htun).resolve_right (not_gone (.inr hpc)))
  | arrive => exact hl hd htun
  | tick => exact absurd (afterBranch_eq_drain.mpr hd) htun
  | probe hsel => exact hl hd (by rw [hsel]; simp)
  | outbound hsel => exact hl hd (by rw [hsel]; simp)
  | capacity hsend => exact hl hd (by rw [hsend]; simp)
  | exit hsel => exact hl hd (by rw [hsel]; simp)
  | deliver hdrain | skip hdrain => exact absurd hdrain htun
  | net => exact absurd rfl htun
  | deliverGone _ _ hgone => exact .inr hgone
  | stop _ hp =>
      have hb := tr.drains hd hp
      subst hb
      exact .inl (Transport.drainable_stop hp)

/-- Where nothing is left to drain no drain is over, and where the netstack has ended no
flush. -/
lemma not_doomed_of_drained (h : tr.drainable l.buf = [] ∨ stackGone l.stack) : ¬ l.Doomed := by
  rintro ⟨⟨hpc, -⟩, ⟨-, hroom⟩⟩
  rcases h with h | h
  · rw [h] at hroom
    exact Nat.not_lt_zero _ hroom
  · exact not_gone (.inl hpc) h

/-- A step that fits dooms no one. -/
lemma not_doomed_step (hl : l.Drained) (hnd : ¬ l.Doomed) (hfits : Fits l e)
    (h : l.step sm e = some l') : ¬ l'.Doomed := by
  intro hd
  obtain ⟨⟨hpc, htx⟩, ⟨htun, hroom⟩⟩ := id hd
  cases Link.stepped h with
  | @stack e s hown hs =>
      by_cases he : e = .udpDone
      · subst he
        have hle := hfits ⟨htun, hroom⟩
        rw [← (udpDone_step hs).2] at hle
        exact absurd htx (Nat.not_lt.mpr hle)
      · obtain ⟨hpc', htx'⟩ := ownStep_to_flush hs hown he hpc
        exact hnd ⟨⟨hpc', htx' ▸ htx⟩, htun, hroom⟩
  | flushed => cases hpc
  | flushGone => cases hpc
  | flush hpc' hcons _ hsend =>
      refine hnd ⟨⟨hpc', ?_⟩, htun, hroom⟩
      have ho := Mailbox.room_send hsend
      rw [hcons, List.length_cons]
      dsimp only [NetStack.goto] at htx
      omega
  | ingest _ hpoll => rw [hpoll] at hpc; cases hpc
  | arrive => exact hnd hd
  | tick hsel =>
      have hdr := hl (afterBranch_eq_drain.mp htun) (by rw [hsel]; simp)
      exact absurd hd (not_doomed_of_drained (by exact hdr))
  | outbound hsel =>
      dsimp only at htun
      split at htun
      · cases htun
      · have hdr := hl (afterBranch_eq_drain.mp htun) (by rw [hsel]; simp)
        exact absurd hd (not_doomed_of_drained (by exact hdr))
  | probe => cases htun
  | net ha =>
      have hle := hfits _ (by rw [ha]; rfl) ⟨hpc, htx⟩
      exact absurd hroom (Nat.not_lt.mpr hle)
  | capacity =>
      dsimp only at htun
      split at htun <;> cases htun
  | deliver hdrain hp _ hsend =>
      refine hnd ⟨⟨hpc, htx⟩, hdrain, ?_⟩
      have hi := Mailbox.room_send hsend
      rw [Transport.drainable_deliver hp, List.length_cons]
      dsimp only at hroom
      omega
  | skip hdrain hp => exact hnd ⟨⟨hpc, htx⟩, hdrain, Transport.drainable_skip hp ▸ hroom⟩
  | deliverGone => cases htun
  | stop => cases htun
  | exit => cases htun

/-- A step that does not fit dooms both tasks. -/
lemma doomed_of_not_fits (hfits : ¬ Fits l e) (h : l.step sm e = some l') : l'.Doomed := by
  cases Link.stepped h with
  | @stack e s hown hs =>
      by_cases he : e = .udpDone
      · subst he
        simp only [Fits, Classical.not_imp, Nat.not_le] at hfits
        obtain ⟨hpc, htx⟩ := udpDone_step hs
        exact ⟨⟨hpc, htx ▸ hfits.2⟩, hfits.1⟩
      · refine absurd ?_ hfits
        cases e <;> trivial
  | net ha =>
      simp only [Fits, ha, List.head?_cons, Option.mem_some_iff, forall_eq', Classical.not_imp,
        Nat.not_le] at hfits
      exact ⟨hfits.1, rfl, hfits.2⟩
  | _ => exact absurd trivial hfits

/-- No step repairs it. -/
lemma doomed_step (hd : l.Doomed) (h : l.step sm e = some l') : l'.Doomed := by
  obtain ⟨⟨hpc, htx⟩, ⟨htun, hroom⟩⟩ := id hd
  cases Link.stepped h with
  | stack hown hs =>
      obtain ⟨hpc', htx'⟩ := ownStep_of_flush hs hown hpc
      exact ⟨⟨hpc', by rw [htx']; exact htx⟩, htun, hroom⟩
  | flushed _ hnil => rw [hnil] at htx; exact absurd htx (Nat.not_lt_zero _)
  | flushGone _ _ hdone => rw [hdone] at htun; cases htun
  | flush _ hcons _ hsend =>
      refine ⟨⟨rfl, ?_⟩, htun, hroom⟩
      have ho := Mailbox.room_send hsend
      rw [hcons, List.length_cons] at htx
      dsimp only [NetStack.goto]
      omega
  | ingest hpc' => rw [hpc] at hpc'; cases hpc'
  | arrive => exact hd
  | tick hsel | probe hsel | net _ hsel | outbound hsel | capacity hsel | exit hsel =>
      rw [htun] at hsel; cases hsel
  | deliver _ hp _ hsend =>
      refine ⟨⟨hpc, htx⟩, htun, ?_⟩
      have hi := Mailbox.room_send hsend
      rw [Transport.drainable_deliver hp, List.length_cons] at hroom
      dsimp only
      omega
  | deliverGone _ _ hgone => exact absurd hgone (not_gone (.inl hpc))
  | skip _ hp => exact ⟨⟨hpc, htx⟩, htun, Transport.drainable_skip hp ▸ hroom⟩
  | stop _ hp =>
      rw [Transport.drainable_stop hp] at hroom
      exact absurd hroom (Nat.not_lt_zero _)

end Step

/-! ### Getting stuck -/

section Stuck

variable {l l' : Link tr}

/-- A continuation in which only the two sending loops move. -/
def SendsOnly (fs : List (LinkEv tr)) : Prop := ∀ f ∈ fs, f = .flush ∨ f = .drain

lemma sendsOnly_cons {f : LinkEv tr} {fs : List (LinkEv tr)} (hf : f = .flush ∨ f = .drain)
    (hfs : SendsOnly fs) : SendsOnly (f :: fs) := by
  intro g hg
  rcases List.mem_cons.mp hg with rfl | hg
  · exact hf
  · exact hfs g hg

lemma doomed_of_deadlocked (h : l.Deadlocked) : l.Doomed := by
  obtain ⟨hpc, hne, ho, htun, ⟨packet, buf, hp⟩, hi⟩ := h
  refine ⟨⟨hpc, ?_⟩, htun, ?_⟩
  · rw [ho]
    exact List.length_pos_iff.mpr hne
  · rw [hi, Transport.drainable_deliver hp]
    exact Nat.succ_pos _

/-- A doomed netstack with room in its channel sends one more packet. -/
lemma flush_of_doomed (sm : Smoltcp) (hd : l.Doomed) (hroom : 0 < l.outbound.room) :
    ∃ l', l.step sm .flush = some l' ∧ l'.outbound.room < l.outbound.room ∧ l'.buf = l.buf := by
  obtain ⟨⟨hpc, htx⟩, ⟨htun, -⟩⟩ := hd
  cases hcons : l.stack.tx with
  | nil =>
      rw [hcons] at htx
      exact absurd htx (Nat.not_lt_zero _)
  | cons packet tx =>
      obtain ⟨o, ho⟩ := Mailbox.exists_send hroom packet
      refine ⟨{ l with stack := { l.stack with tx }.goto .flushTx, outbound := o }, ?_, ?_, rfl⟩
      · simp [Link.step, hcons, htun, ho, Netstack.step, hpc]
      · have := Mailbox.room_send ho
        dsimp only
        omega

/-- A doomed tunnel makes one more turn, or is suspended on its full channel. -/
lemma drain_of_doomed (sm : Smoltcp) (hd : l.Doomed) :
    (∃ l', l.step sm .drain = some l' ∧ l'.outbound = l.outbound
        ∧ tr.size l'.buf < tr.size l.buf)
      ∨ (∃ packet buf, tr.pull l.buf = .deliver packet buf) ∧ l.inbound.room = 0 := by
  obtain ⟨⟨hpc, -⟩, ⟨htun, hroom⟩⟩ := hd
  have hgone : ¬ stackGone l.stack := not_gone (.inl hpc)
  cases hp : tr.pull l.buf with
  | deliver packet buf =>
      rcases Nat.eq_zero_or_pos l.inbound.room with hfull | hfree
      · exact .inr ⟨⟨packet, buf, rfl⟩, hfull⟩
      · obtain ⟨i, hi⟩ := Mailbox.exists_send hfree packet
        refine .inl ⟨{ l with inbound := i, buf }, ?_, rfl, tr.size_deliver hp⟩
        simp [Link.step, htun, hp, hgone, hi]
  | skip buf =>
      refine .inl ⟨{ l with buf }, ?_, rfl, tr.size_skip hp⟩
      simp [Link.step, htun, hp]
  | stop buf =>
      rw [Transport.drainable_stop hp] at hroom
      exact absurd hroom (Nat.not_lt_zero _)

/-- **Doom leads to the circular wait** by the turns of the two sending loops alone. -/
lemma deadlock_of_doomed (sm : Smoltcp) (hd : l.Doomed) :
    ∃ fs l', SendsOnly fs ∧ Machine.run (Link.step sm) l fs = some l' ∧ l'.Deadlocked := by
  induction hn : l.outbound.room + tr.size l.buf using Nat.strong_induction_on generalizing l with
  | _ n ih =>
    -- one step, after which less is left to do
    have hgo : ∀ f l₁, (f = .flush ∨ f = .drain) → l.step sm f = some l₁ →
        l₁.outbound.room + tr.size l₁.buf < n →
        ∃ fs l', SendsOnly fs ∧ Machine.run (Link.step sm) l fs = some l' ∧ l'.Deadlocked := by
      intro f l₁ hf hs hlt
      obtain ⟨fs, l', hfs, hrun, hdead⟩ := ih _ hlt (doomed_step hd hs) rfl
      exact ⟨f :: fs, l', sendsOnly_cons hf hfs, Machine.run_cons_eq_some.mpr ⟨l₁, hs, hrun⟩, hdead⟩
    rcases Nat.eq_zero_or_pos l.outbound.room with ho | ho
    · rcases drain_of_doomed sm hd with ⟨l₁, hs, hout, hlt⟩ | ⟨hp, hi⟩
      · exact hgo .drain l₁ (.inr rfl) hs (by rw [hout]; omega)
      · refine ⟨[], l, (fun _ hf => absurd hf List.not_mem_nil), rfl, hd.1.1, ?_, ho, hd.2.1, hp,
          hi⟩
        have htx := hd.1.2
        rw [ho] at htx
        exact List.length_pos_iff.mp htx
    · obtain ⟨l₁, hs, hlt, hbuf⟩ := flush_of_doomed sm hd ho
      exact hgo .flush l₁ (.inl rfl) hs (by rw [hbuf]; omega)

/-- **Exactly when the two tasks cannot get stuck**: a run cannot go on by turns of the two
sending loops into the circular wait, and so is not in it, exactly when no step of the run
started a batch that does not fit while the other task was in one. -/
theorem deadlock_free_iff {tr : Transport} {sm : Smoltcp} {iface : Netstack.Interface}
    {es : List (LinkEv tr)} {l : Link tr}
    (h : Machine.run (Link.step sm) (Link.start tr iface) es = some l) :
    Machine.Meets (Link.step sm) Fits (Link.start tr iface) es
      ↔ ∀ fs l', SendsOnly fs → Machine.run (Link.step sm) l fs = some l' → ¬ l'.Deadlocked := by
  have hstart : ¬ (Link.start tr iface).Doomed := by
    rintro ⟨-, htun, -⟩
    cases htun
  have hiff : Machine.Meets (Link.step sm) Fits (Link.start tr iface) es ↔ ¬ l.Doomed :=
    Machine.meets_iff_of_doom (I := Link.Drained) (fun _ _ _ hl hs => drained_step hl hs)
      (fun _ _ _ hl hnd hok hs => not_doomed_step hl hnd hok hs)
      (fun _ _ _ _ _ hbad hs => doomed_of_not_fits hbad hs)
      (fun _ _ _ _ hd hs => doomed_step hd hs) (start_drained tr iface) hstart h
  rw [hiff]
  constructor
  · intro hnd fs l' hfs hrun hdead
    have hl : l.Drained :=
      Machine.run_invariant (I := Link.Drained) (fun _ _ _ hl hs => drained_step hl hs)
        (start_drained tr iface) h
    -- the turns of the sending loops start no batch
    have hok : Machine.Meets (Link.step sm) Fits l fs := by
      refine Machine.meets_of_forall fun f hf s => ?_
      rcases hfs f hf with rfl | rfl <;> trivial
    have hend : l'.Drained ∧ ¬ l'.Doomed :=
      Machine.run_invariant_of_meets (I := fun l => l.Drained ∧ ¬ l.Doomed)
        (fun _ _ _ hl hok hs => ⟨drained_step hl.1 hs, not_doomed_step hl.1 hl.2 hok hs⟩)
        ⟨hl, hnd⟩ hok hrun
    exact hend.2 (doomed_of_deadlocked hdead)
  · intro hall hd
    obtain ⟨fs, l', hfs, hrun, hdead⟩ := deadlock_of_doomed sm hd
    exact hall fs l' hfs hrun hdead

end Stuck

/-! ### Runs into the wait -/

section Runs

variable {l : Link tr}

/-- A poll that emits one packet more than the outbound channel holds, up to the flush. -/
def floodRun (tr : Transport) : List (LinkEv tr) :=
  [.stack (.poll (fun _ => ⟨.closed, [], 0⟩) (fun _ => [])
    (List.replicate (netQueue + 1) [69]) false []), .stack (.tcpDone []), .stack .udpDone]

/-- The rule at the flood: as long as the tunnel is in its `select`, no one is stuck. -/
theorem deadlock_free_sample :
    ∃ l, Machine.run (Link.step Netstack.stdSmoltcp) (Link.start quic Netstack.sampleIface)
        (floodRun quic) = some l
      ∧ ∀ fs l', SendsOnly fs → Machine.run (Link.step Netstack.stdSmoltcp) l fs = some l' →
        ¬ l'.Deadlocked := by
  obtain ⟨l, hl⟩ : ∃ l, Machine.run (Link.step Netstack.stdSmoltcp)
      (Link.start quic Netstack.sampleIface) (floodRun quic) = some l := ⟨_, rfl⟩
  refine ⟨l, hl, (deadlock_free_iff hl).mp ⟨trivial, fun l₁ h₁ => ⟨trivial, fun l₂ h₂ => ?_⟩⟩⟩
  cases h₁
  cases h₂
  refine ⟨?_, fun _ _ => trivial⟩
  intro hd
  cases hd.1

/-- One packet at a time fills the inbound channel while the netstack flushes. -/
lemma doomed_of_trickle (sm : Smoltcp) {a : tr.Arrival} {packet : Bytes} {b : tr.Buf}
    (hpull : tr.pull (tr.feed b a) = .deliver packet b) (hstop : tr.pull b = .stop b)
    (hfeed : tr.feed l.buf a = tr.feed b a) (hsel : l.tunnel = .select) (harr : l.arrivals = [])
    (hout : l.outbound.items = []) (hflush : l.FlushOver) :
    ∃ es l', Machine.run (Link.step sm) l es = some l' ∧ l'.Doomed := by
  induction hn : l.inbound.room generalizing l with
  | zero =>
      refine ⟨[.arrive a, .net],
        { l with arrivals := [], buf := tr.feed l.buf a, tunnel := .drain }, ?_, hflush, rfl, ?_⟩
      · simp [Machine.run, Link.step, harr, hsel, hout]
      · rw [hn, hfeed, Transport.drainable_deliver hpull]
        exact Nat.succ_pos _
  | succ n ih =>
      obtain ⟨i, hi⟩ := Mailbox.exists_send (m := l.inbound) (by omega) packet
      have hroom := Mailbox.room_send hi
      have hgone : ¬ stackGone l.stack := not_gone (.inl hflush.1)
      have hround : Machine.run (Link.step sm) l [.arrive a, .net, .drain, .drain]
          = some { l with inbound := i, buf := b } := by
        simp [Machine.run, Link.step, harr, hsel, hout, hfeed, hpull, hstop, hgone, hi]
      obtain ⟨es, l', hrun, hd⟩ := ih (l := { l with inbound := i, buf := b }) rfl hsel harr hout
        hflush (by dsimp only; omega)
      exact ⟨_ ++ es, l', Machine.run_append_eq_some.mpr ⟨_, hround, hrun⟩, hd⟩

/-- With a transport whose packets trickle in, the wait is reached. -/
lemma deadlock_of_trickle {a : tr.Arrival} {packet : Bytes} {b : tr.Buf}
    (hpull : tr.pull (tr.feed b a) = .deliver packet b) (hstop : tr.pull b = .stop b)
    (hfeed : tr.feed tr.fresh a = tr.feed b a) :
    ∃ es l, Machine.run (Link.step Netstack.stdSmoltcp) (Link.start tr Netstack.sampleIface) es
      = some l ∧ l.Deadlocked := by
  obtain ⟨l₁, h₁, hpc, htx, hout, htun, harr, hbuf⟩ :
      ∃ l, Machine.run (Link.step Netstack.stdSmoltcp) (Link.start tr Netstack.sampleIface)
          (floodRun tr) = some l ∧ l.stack.pc = .flushTx
        ∧ l.stack.tx = List.replicate (netQueue + 1) [69] ∧ l.outbound = .empty
        ∧ l.tunnel = .select ∧ l.arrivals = [] ∧ l.buf = tr.fresh :=
    ⟨_, rfl, rfl, rfl, rfl, rfl, rfl, rfl⟩
  have hflush : l₁.FlushOver := by
    refine ⟨hpc, ?_⟩
    rw [htx, hout, List.length_replicate]
    exact Nat.lt_succ_self _
  obtain ⟨es, l₂, h₂, hd⟩ := doomed_of_trickle Netstack.stdSmoltcp hpull hstop
    (by rw [hbuf, hfeed]) htun harr (by rw [hout]; rfl) hflush
  obtain ⟨fs, l₃, _, h₃, hdead⟩ := deadlock_of_doomed Netstack.stdSmoltcp hd
  exact ⟨_ ++ (es ++ fs), l₃, Machine.run_append_eq_some.mpr
    ⟨l₁, h₁, Machine.run_append_eq_some.mpr ⟨l₂, h₂, h₃⟩⟩, hdead⟩

/-- **The circular wait is reached**, with either transport: the netstack has 1025 packets to
flush, and before it sends the first the tunnel receives 1025 packets, one at a time. -/
theorem deadlock_reachable :
    (∃ es l, Machine.run (Link.step Netstack.stdSmoltcp) (Link.start quic Netstack.sampleIface) es
        = some l ∧ l.Deadlocked)
      ∧ ∃ es l, Machine.run (Link.step Netstack.stdSmoltcp) (Link.start h2 Netstack.sampleIface) es
        = some l ∧ l.Deadlocked :=
  ⟨@deadlock_of_trickle quic ⟨some 0, [[0, 0, 69]]⟩ [69] ⟨some 0, []⟩ rfl rfl rfl,
    @deadlock_of_trickle h2 [0, 1, 69] [69] .new rfl rfl rfl⟩

end Runs

end Aether.Tunnel
