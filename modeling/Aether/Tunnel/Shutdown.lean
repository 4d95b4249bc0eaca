import Aether.Lib.Execution
import Aether.Tunnel.Response
import Aether.Tunnel.Select
import Aether.Tunnel.Validation

/-!
The end of `quic::run` once one of its driving channels is gone.

A closed channel is always ready, and both channels stand above the timeout in the `select`:
from then on no iteration reaches `on_timeout`, so the connection that `close` was called on is
never found closed. The one way out that is left is the deadline of the validation.

* `turn_gone`: what an iteration does on a closed channel.
* `Validating.step`, `diverges_of_spinning`, `diverges_of_completing`: the three ways it goes on.
* `terminates_iff`: when every execution returns.
-/

namespace Aether.Tunnel.Select

open Quic (Loop Branch)
open Masque (decodeIpDatagram)
open Machine (Execution prepend exists_execution)

variable {d d' : Driver} {a : Answers} {b : Branch} {e : Ev}

/-- The outbound channel or the control channel has lost all its senders. -/
def Gone (d : Driver) : Prop := d.outbound.live = false ∨ d.ctrl.live = false

/-- The datagram carries an IP packet of the stream. -/
def carries (sid : ℕ) (dgram : Bytes) : Bool := (decodeIpDatagram dgram sid).toOption.join.isSome

/-- How many of the datagrams left in the connection carry a packet. -/
def Driver.waiting (d : Driver) : ℕ :=
  match d.loop.reqStream with
  | some sid => d.conn.dgrams.countP (carries sid)
  | none => 0

/-- Nothing arrives from the network. -/
def Ev.Silent : Ev → Prop
  | .turn a => a.packet = none
  | _ => True

/-- An infinite execution in which nothing arrives and the clock passes every deadline. -/
structure Idle (d : Driver) (es : ℕ → Ev) (ds : ℕ → Driver) : Prop where
  execution : Execution step d es ds
  silent : ∀ n, (es n).Silent
  clock : ∀ c, ∃ n, c ≤ (ds n).clock

/-- `run` returns from the state, however it goes on without the network. -/
def Terminates (d : Driver) : Prop := ∀ es ds, ¬ Idle d es ds

lemma Idle.cons {es : ℕ → Ev} {ds : ℕ → Driver} (h : step d e = some d') (he : e.Silent)
    (hidle : Idle d' es ds) : Idle d (prepend e es) (prepend d ds) where
  execution := hidle.execution.cons h
  silent n := by
    cases n with
    | zero => exact he
    | succ n => exact hidle.silent n
  clock c := by
    obtain ⟨n, hn⟩ := hidle.clock c
    exact ⟨n + 1, hn⟩

/-! ### The drain -/

lemma drainDatagrams_append (sid : ℕ) (takes : Option ℕ) (queue : List Bytes) :
    (drainDatagrams sid takes queue).1 ++ (drainDatagrams sid takes queue).2 = queue := by
  induction queue generalizing takes with
  | nil => rfl
  | cons dgram queue ih =>
      rw [drainDatagrams]
      split
      · split
        · rfl
        · exact congrArg (dgram :: ·) (ih _)
      · exact congrArg (dgram :: ·) (ih _)

/-- Without a receiver the drain stops at the first packet. -/
lemma drainDatagrams_gone {sid : ℕ} {queue : List Bytes}
    (h : 0 < queue.countP (carries sid)) :
    ((drainDatagrams sid (some 0) queue).1).countP (carries sid) = 1 := by
  induction queue with
  | nil => exact absurd h (Nat.lt_irrefl 0)
  | cons dgram queue ih =>
      rw [drainDatagrams]
      split
      · rename_i packet hpacket
        have hc : carries sid dgram = true := by simp [carries, hpacket, Except.toOption]
        rw [if_pos rfl, List.countP_cons_of_pos hc]
        rfl
      · rename_i hno
        have hc : ¬ carries sid dgram = true := by
          rw [carries]
          cases hd : decodeIpDatagram dgram sid with
          | error err => simp [Except.toOption]
          | ok packet =>
              cases packet with
              | none => simp [Except.toOption]
              | some p => exact absurd hd (hno p)
        rw [List.countP_cons_of_neg hc] at h
        show (dgram :: (drainDatagrams sid (some 0) queue).1).countP (carries sid) = 1
        rw [List.countP_cons_of_neg hc]
        exact ih h

/-- A drain that delivers leaves fewer packets behind. -/
lemma countP_left (sid : ℕ) {taken left queue : List Bytes} (h : taken ++ left = queue) :
    left.countP (carries sid) + (if taken.any (carries sid) then 1 else 0)
      ≤ queue.countP (carries sid) := by
  rw [← h, List.countP_append]
  split
  · rename_i hany
    have hpos : 0 < taken.countP (carries sid) := by
      rw [List.countP_pos_iff]
      simpa using hany
    omega
  · omega

/-! ### The select on a closed channel -/

/-- The closed channel hides the timeout. -/
lemma firstReady_gone (hg : Gone d) (hp : a.packet = none) :
    ∃ b, firstReady d a = some b ∧ b ≠ .net ∧ b ≠ .timeout := by
  have hnet : ¬ a.packet.isSome = true := by simp [hp]
  rw [firstReady, if_neg hnet]
  by_cases hk : d.keepaliveAt ≤ a.now
  · exact ⟨_, if_pos hk, by simp⟩
  · rw [if_neg hk]
    split
    · exact ⟨_, rfl, by simp⟩
    · split
      · exact ⟨_, rfl, by simp⟩
      · rename_i hctrl
        have hout : d.outbound.ready = true := by
          rcases hg with hg | hg
          · simp [Receiver.ready, hg]
          · exact absurd (by simp [Receiver.ready, hg]) hctrl
        exact ⟨_, if_pos hout, by simp⟩

/-- No branch brings a sender back. -/
lemma takeBranch_gone (hg : Gone d) : Gone (takeBranch d a b) := by
  have hlive : (takeBranch d a b).outbound.live = d.outbound.live
      ∧ (takeBranch d a b).ctrl.live = d.ctrl.live := by
    cases b with
    | keepalive | probe | timeout => exact ⟨rfl, rfl⟩
    | net =>
        rw [takeBranch]
        split <;> exact ⟨rfl, rfl⟩
    | ctrl =>
        have hrecv := d.ctrl.recv_live
        rw [takeBranch]
        split <;> rename_i heq <;> rw [heq] at hrecv <;> exact ⟨rfl, hrecv⟩
    | outbound =>
        have hrecv := d.outbound.recv_live
        rw [takeBranch]
        split <;> rename_i heq <;> rw [heq] at hrecv <;> exact ⟨hrecv, rfl⟩
  rwa [Gone, hlive.1, hlive.2]

/-- The branches that are left do not find the connection closed. -/
lemma takeBranch_quiet (hb : b ≠ .net) (hb' : b ≠ .timeout) (hrec : d.conn.received = true) :
    (takeBranch d a b).conn.closed = d.conn.closed
      ∧ (takeBranch d a b).conn.received = true
      ∧ (takeBranch d a b).conn.established = d.conn.established
      ∧ (takeBranch d a b).conn.dgrams = d.conn.dgrams := by
  rcases takeBranch_conn d a b with hc | hc | ⟨hn, -⟩ | ⟨ht, -⟩
  · rw [hc]
    exact ⟨rfl, hrec, rfl, rfl⟩
  · rw [hc, Conn.close]
    refine ⟨?_, hrec, rfl, rfl⟩
    simp [hrec]
  · exact absurd hn hb
  · exact absurd ht hb'

/-- The branches that are left do not change what the drain finds. -/
lemma drained_takeBranch (he : (takeBranch d a b).conn.established = d.conn.established)
    (hdgrams : (takeBranch d a b).conn.dgrams = d.conn.dgrams) :
    drained (takeBranch d a b) a = drained d a := by
  have hin : (takeBranch d a b).inboundLive = d.inboundLive := by
    cases b <;> simp only [takeBranch]
    all_goals split <;> rfl
  simp only [drained, requestStream, takeBranch_loop, he, hdgrams, hin]

/-- **What an iteration does on a closed channel**, if it returns nothing: it takes some of the
datagrams left, and counts if one of them carries a packet. -/
lemma turn_gone {sid : ℕ} (hg : Gone d) (hsound : Sound d) (he : d.conn.established = true)
    (hsid : d.loop.reqStream = some sid) (hp : a.packet = none)
    (h : step d (.turn a) = some d') (hr : d'.loop.result = none) :
    d.loop.ready.expired a.headNow = false ∧ Gone d' ∧ d'.conn.established = true
      ∧ ∃ p os taken, taken ++ d'.conn.dgrams = d.conn.dgrams
        ∧ d'.loop = { d.loop with
          capsules := p
          ready := (d.loop.ready.observeAll os).count (taken.any (carries sid)) } := by
  obtain ⟨hr₀, -, -, ⟨hexp, rfl⟩ | ⟨hexp, b, hb, rfl⟩⟩ := step_turn h
  · rw [Quic.checkDeadline, show (turn d a .net).now = a.headNow from rfl, if_pos hexp] at hr
    cases hr
  obtain ⟨b', hb', hnet, htimeout⟩ := firstReady_gone hg hp
  rw [hb, Option.some.injEq] at hb'
  subst hb'
  obtain ⟨hclosed, -, hest, hdgrams⟩ := takeBranch_quiet (a := a) hnet htimeout (hsound.received he)
  rw [hsound.isOpen hr₀] at hclosed
  rw [he] at hest
  have hc : d.loop.h3Conn = true := hsound.requested hr₀ he
  have hloop := takeBranch_loop d a b
  obtain ⟨p, os, hiter⟩ := Quic.iterate_connected (t := turn (takeBranch d a b) a b)
    (hloop ▸ hc) (hloop ▸ hsid) hclosed hr
  have hstream : requestStream (takeBranch d a b) a = some sid := by
    simp [requestStream, hc, hsid]
  refine ⟨hexp, takeBranch_gone hg, ?_, p, os, (drained (takeBranch d a b) a).1, ?_, ?_⟩
  · simp [finish, hclosed, hest]
  · simp only [finish, hclosed, Bool.false_and, Bool.false_eq_true, if_false]
    rw [drained, hstream, drainDatagrams_append, hdgrams]
  · rw [hloop] at hiter
    simp only [finish, hloop]
    exact hiter

/-! ### While the validation is running -/

/-- The validation is running, and what is left in the connection cannot end it. -/
structure Validating (dl : ℕ) (d : Driver) : Prop where
  running : d.loop.result = none
  gone : Gone d
  sound : Sound d
  established : d.conn.established = true
  streamed : d.loop.reqStream.isSome
  dataCheck : d.loop.ready.dataCheck = true
  notReady : d.loop.ready.readyFired = false
  armed : d.loop.ready.validateDeadline = some dl
  short : dl ≤ d.clock ∨ d.loop.ready.validateSuccesses + d.waiting < dataProbeRequiredSuccesses

lemma Validating.expired {dl now : ℕ} (h : Validating dl d) :
    d.loop.ready.expired now = decide (dl ≤ now) := by
  simp [Readiness.expired, h.dataCheck, h.notReady, h.armed]

/-- Counting that does not reach the required successes. -/
lemma count_short {r : Readiness} (delivered : Bool) (hf : r.readyFired = false)
    (h : r.validateSuccesses + (if delivered then 1 else 0) < dataProbeRequiredSuccesses) :
    (r.count delivered).readyFired = false
      ∧ (r.count delivered).validateDeadline = r.validateDeadline
      ∧ (r.count delivered).validateSuccesses
        = r.validateSuccesses + (if delivered then 1 else 0) := by
  cases delivered with
  | false => exact ⟨hf, rfl, rfl⟩
  | true =>
      have hfew : ¬ r.validateSuccesses + 1 ≥ dataProbeRequiredSuccesses := by
        simp only [if_true] at h
        omega
      simp [Readiness.count, Readiness.confirm, Readiness.observe, hf, hfew]

/-- **The validation goes on, or `run` returns**; past the deadline no iteration goes on. -/
lemma Validating.step {dl : ℕ} (h : Validating dl d) (he : e.Silent)
    (hs : step d e = some d') :
    d'.loop.result ≠ none
      ∨ (Validating dl d' ∧ (dl ≤ d.clock → d'.clock = d.clock)) := by
  have hsound := step_sound h.sound hs
  by_cases hr : d'.loop.result = none
  · refine .inr ?_
    cases e with
    | turn a =>
        obtain ⟨sid, hsid⟩ := Option.isSome_iff_exists.mp h.streamed
        obtain ⟨-, hhead, -, -⟩ := step_turn hs
        obtain ⟨hexp, hg, hest, p, os, taken, happ, hloop⟩ :=
          turn_gone h.gone h.sound h.established hsid he hs hr
        rw [h.expired, decide_eq_false_iff_not] at hexp
        have hshort := h.short.resolve_left (by omega)
        have hleft := countP_left sid happ
        rw [Driver.waiting, hsid] at hshort
        have hready : d'.loop.ready
            = (d.loop.ready.observeAll os).count (taken.any (carries sid)) := by rw [hloop]
        rw [Readiness.observeAll_frame] at hready
        obtain ⟨hf', hdl', hsucc⟩ := count_short (taken.any (carries sid))
          (r := { d.loop.ready with log := os.reverse ++ d.loop.ready.log }) h.notReady
          (by dsimp only at hshort ⊢; omega)
        rw [← hready] at hf' hdl' hsucc
        have hsid' : d'.loop.reqStream = some sid := by rw [hloop]; exact hsid
        refine ⟨⟨hr, hg, hsound, hest, by rw [hsid']; rfl, ?_, hf', hdl'.trans h.armed,
          .inr ?_⟩, fun hpast => by omega⟩
        · rw [hready, (Readiness.count_frame _ _).1]
          exact h.dataCheck
        · rw [Driver.waiting, hsid', hsucc]
          dsimp only at hshort ⊢
          omega
    | control c =>
        simp only [Select.step, Option.ite_none_right_eq_some, Option.some.injEq] at hs
        obtain ⟨_, rfl⟩ := hs
        exact ⟨⟨hr, h.gone, hsound, h.established, h.streamed, h.dataCheck, h.notReady, h.armed,
          h.short⟩, fun _ => rfl⟩
    | packet p =>
        simp only [Select.step, Option.ite_none_right_eq_some, Option.some.injEq] at hs
        obtain ⟨_, rfl⟩ := hs
        exact ⟨⟨hr, h.gone, hsound, h.established, h.streamed, h.dataCheck, h.notReady, h.armed,
          h.short⟩, fun _ => rfl⟩
    | dropCtrl | dropOutbound | dropInbound =>
        simp only [Select.step, Option.some.injEq] at hs
        subst hs
        refine ⟨⟨hr, ?_, hsound, h.established, h.streamed, h.dataCheck, h.notReady, h.armed,
          h.short⟩, fun _ => rfl⟩
        rcases h.gone with hg | hg <;> simp [Gone, hg]
  · exact .inl hr

/-- The clock never goes back, and stops when `run` returns. -/
lemma step_clock (hs : step d e = some d') :
    d.clock ≤ d'.clock ∧ (d.loop.result ≠ none → d'.loop.result ≠ none ∧ d'.clock = d.clock) := by
  cases e with
  | turn a =>
      obtain ⟨hr, hhead, hnow, ⟨-, rfl⟩ | ⟨-, b, -, rfl⟩⟩ := step_turn hs
      · exact ⟨hhead, fun hret => absurd hr hret⟩
      · exact ⟨Nat.le_trans hhead hnow, fun hret => absurd hr hret⟩
  | control c | packet p =>
      simp only [step, Option.ite_none_right_eq_some, Option.some.injEq] at hs
      obtain ⟨_, rfl⟩ := hs
      exact ⟨Nat.le_refl _, fun hret => ⟨hret, rfl⟩⟩
  | dropCtrl | dropOutbound | dropInbound =>
      simp only [step, Option.some.injEq] at hs
      subst hs
      exact ⟨Nat.le_refl _, fun hret => ⟨hret, rfl⟩⟩

variable {es : ℕ → Ev} {ds : ℕ → Driver}

/-- In an idle execution the clock moves on from every instant. -/
lemma Idle.later (h : Idle d es ds) (n : ℕ) : ∃ m, n ≤ m ∧ (ds n).clock < (ds m).clock := by
  obtain ⟨m, hm⟩ := h.clock ((ds n).clock + 1)
  refine ⟨m, ?_, hm⟩
  by_contra hlt
  have hle := h.execution.invariant (I := fun x => (ds m).clock ≤ x.clock) h.silent
    (fun x f y hx _ hs => Nat.le_trans hx (step_clock hs).1) (Nat.le_refl _)
    (Nat.le_of_not_le hlt)
  omega

/-- In an idle execution `run` never returns. -/
lemma Idle.running (h : Idle d es ds) (n : ℕ) : (ds n).loop.result = none := by
  by_contra hret
  obtain ⟨m, hnm, hm⟩ := h.later n
  have hstop := h.execution.invariant
    (I := fun x => x.loop.result ≠ none ∧ x.clock = (ds n).clock) h.silent
    (fun x f y hx _ hs => by
      obtain ⟨hy, hclock⟩ := (step_clock hs).2 hx.1
      exact ⟨hy, hclock.trans hx.2⟩) ⟨hret, rfl⟩ hnm
  omega

/-- What a silent step between running states preserves holds from some instant on. -/
lemma Idle.invariant (h : Idle d es ds) {I : Driver → Prop}
    (hstep : ∀ x f y, I x → f.Silent → step x f = some y → y.loop.result = none → I y)
    {n m : ℕ} (hn : I (ds n)) (hnm : n ≤ m) : I (ds m) := by
  induction m, hnm using Nat.le_induction with
  | base => exact hn
  | succ m _ ih =>
      exact hstep _ _ _ ih (h.silent m) (h.execution.next m) (h.running (m + 1))

/-- The deadline of a validation that cannot end any more ends `run`. -/
lemma Validating.terminates {dl : ℕ} (h : Validating dl d) : Terminates d := by
  intro es ds hidle
  obtain ⟨n, hn⟩ := hidle.clock dl
  have hval : Validating dl (ds n) := by
    refine hidle.invariant ?_ (hidle.execution.start ▸ h) (Nat.zero_le n)
    intro x f y hx hf hs hy
    exact ((hx.step hf hs).resolve_left (not_not_intro hy)).1
  obtain ⟨m, hnm, hm⟩ := hidle.later n
  have hstop : Validating dl (ds m) ∧ (ds m).clock = (ds n).clock := by
    refine hidle.invariant (I := fun x => Validating dl x ∧ x.clock = (ds n).clock) ?_
      ⟨hval, rfl⟩ hnm
    rintro x f y ⟨hx, hclock⟩ hf hs hy
    obtain ⟨hval', hpast⟩ := (hx.step hf hs).resolve_left (not_not_intro hy)
    exact ⟨hval', (hpast (by omega)).trans hclock⟩
  omega

/-! ### Executions that never return -/

/-- The answers of an iteration in which nothing happens at the instant `now`. -/
def calm (now : ℕ) (takes : Option ℕ) : Answers where
  headNow := now
  now := now
  packet := none
  expires := false
  request := .ok 0
  requestAt := now
  events := []
  h3Error := none
  takes := takes
  flush := .ok ()
  deadline := none
  retryConfigs := none
  reconnect := .ok ()

/-- A loop that runs on a closed channel, over a connection that stays open. -/
structure Stuck (d : Driver) : Prop where
  running : d.loop.result = none
  gone : Gone d
  isOpen : d.conn.closed = false
  received : d.conn.received = true

/-- It can always take another iteration. -/
lemma Stuck.turn_calm (h : Stuck d) (now : ℕ) (takes : Option ℕ) (hnow : d.clock ≤ now)
    (hexp : d.loop.ready.expired now = false) : ∃ d' t,
    step d (.turn (calm now takes)) = some d' ∧ Stuck d' ∧ d'.clock = now
      ∧ t.dgrams = (drained d (calm now takes)).1
      ∧ d'.conn.dgrams = (drained d (calm now takes)).2
      ∧ d'.loop = Quic.drain t (Quic.sendRequest t d.loop) := by
  obtain ⟨b, hb, hnet, htimeout⟩ := firstReady_gone (a := calm now takes) h.gone rfl
  obtain ⟨hclosed, hrec, hest, hdgrams⟩ :=
    takeBranch_quiet (a := calm now takes) hnet htimeout h.received
  rw [h.isOpen] at hclosed
  have hloop := takeBranch_loop d (calm now takes) b
  have hdrained := drained_takeBranch (a := calm now takes) (b := b) hest hdgrams
  have hcalm : (turn (takeBranch d (calm now takes) b) (calm now takes) b).Calm :=
    ⟨⟨0, rfl⟩, rfl, rfl, rfl, hclosed⟩
  obtain ⟨hiter, hsend⟩ := hcalm.iterate h.running hexp
  refine ⟨finish (takeBranch d (calm now takes) b) (calm now takes) b,
    turn (takeBranch d (calm now takes) b) (calm now takes) b, ?_, ?_, rfl, ?_, ?_, ?_⟩
  · have hguard : d.loop.result = none ∧ d.clock ≤ (calm now takes).headNow
        ∧ (calm now takes).headNow ≤ (calm now takes).now :=
      ⟨h.running, hnow, Nat.le_refl now⟩
    have hhead : ¬ d.loop.ready.expired (calm now takes).headNow = true :=
      Bool.eq_false_iff.mp hexp
    rw [step, if_pos hguard, if_neg hhead, hb, Option.map_some]
  · refine ⟨?_, takeBranch_gone h.gone, ?_, ?_⟩
    · simp only [finish, hloop]
      rw [hiter]
      exact hsend
    · simp [finish, hclosed]
    · simp [finish, hclosed, hrec]
  · simp only [turn, hdrained]
  · simp [finish, hclosed, hdrained]
  · simp only [finish, hloop]
    exact hiter

/-- No deadline of the validation is looked at any more. -/
def Untimed (r : Readiness) : Prop := r.dataCheck = false ∨ r.readyFired = true

lemma Untimed.expired {r : Readiness} (h : Untimed r) (now : ℕ) : r.expired now = false := by
  rcases h with h | h <;> simp [Readiness.expired, h]

lemma Untimed.begin {r : Readiness} (h : Untimed r) (now timeout : ℕ) :
    Untimed (r.begin now timeout) := by
  rw [Readiness.begin]
  split
  · exact h
  · split
    · exact .inr rfl
    · exact h

lemma Untimed.count {r : Readiness} (h : Untimed r) (delivered : Bool) :
    Untimed (r.count delivered) := by
  obtain ⟨hdc, hfired⟩ := r.count_frame delivered
  rcases h with h | h
  · exact .inl (hdc.trans h)
  · refine .inr ?_
    by_contra hf
    exact absurd h (by simp [(hfired (Bool.eq_false_iff.mpr hf)).1])

/-- The request and the drain keep it. -/
lemma untimed_drain {l : Loop} {t : Quic.Turn} (h : Untimed l.ready)
    (hr : (Quic.sendRequest t l).result = none) :
    Untimed (Quic.drain t (Quic.sendRequest t l)).ready := by
  refine Untimed.count ?_ _
  rw [Quic.sendRequest] at hr ⊢
  split at hr
  · rename_i hnew
    rw [if_pos hnew]
    split at hr
    · cases hr
    · exact h.begin _ _
  · rename_i hnew
    rw [if_neg hnew]
    exact h

/-- **Without a deadline the loop spins for ever.** -/
lemma diverges_of_spinning (h : Stuck d) (hu : Untimed d.loop.ready) :
    ∃ es ds, Idle d es ds := by
  have hstep : ∀ x, Stuck x ∧ Untimed x.loop.ready → ∃ e y, step x e = some y
      ∧ (Stuck y ∧ Untimed y.loop.ready) ∧ e.Silent ∧ x.clock < y.clock := by
    rintro x ⟨hx, hux⟩
    obtain ⟨y, t, hs, hy, hclock, -, -, hloop⟩ :=
      hx.turn_calm (x.clock + 1) none (Nat.le_succ _) (hux.expired _)
    refine ⟨_, y, hs, ⟨hy, ?_⟩, rfl, by omega⟩
    rw [hloop]
    exact untimed_drain hux (hloop ▸ hy.running : (Quic.drain t _).result = none)
  obtain ⟨es, ds, hex, hall⟩ := exists_execution hstep ⟨h, hu⟩
  refine ⟨es, ds, hex, fun n => (hall n).1, ?_⟩
  intro c
  refine ⟨c, ?_⟩
  induction c with
  | zero => exact Nat.zero_le _
  | succ c ih =>
      have hlt := (hall c).2
      omega

/-- One packet of those left in the connection counts, as the inbound receiver is dropped and
the clock stands. -/
lemma Stuck.count {sid : ℕ} (h : Stuck d) (hc : d.loop.h3Conn = true)
    (hsid : d.loop.reqStream = some sid) (hexp : d.loop.ready.expired d.clock = false)
    (hleft : 0 < d.conn.dgrams.countP (carries sid)) : ∃ e d', step d e = some d' ∧ e.Silent
      ∧ Stuck d' ∧ d'.clock = d.clock ∧ d'.loop = { d.loop with ready := d.loop.ready.count true }
      ∧ d'.conn.dgrams.countP (carries sid) + 1 = d.conn.dgrams.countP (carries sid) := by
  obtain ⟨d', t, hs, hd', hclock, hdgrams, hrest, hloop⟩ :=
    h.turn_calm d.clock (some 0) (Nat.le_refl _) hexp
  have hdrained : drained d (calm d.clock (some 0))
      = drainDatagrams sid (some 0) d.conn.dgrams := by
    simp [drained, requestStream, hc, hsid, calm]
  rw [hdrained] at hdgrams hrest
  have hone := drainDatagrams_gone hleft
  have happ := drainDatagrams_append sid (some 0) d.conn.dgrams
  refine ⟨_, d', hs, rfl, hd', hclock, ?_, ?_⟩
  · have hsend : Quic.sendRequest t d.loop = d.loop := by
      simp [Quic.sendRequest, hc]
    have hany : Quic.gotData t (some sid) = true := by
      have hpos : 0 < t.dgrams.countP (carries sid) := by
        rw [hdgrams, hone]
        exact Nat.one_pos
      exact List.any_eq_true.mpr (List.countP_pos_iff.mp hpos)
    rw [← hsid] at hany
    rw [hloop, hsend, Quic.drain, hany]
  · rw [hrest]
    have hsum := congrArg (List.countP (carries sid)) happ
    rw [List.countP_append, hone] at hsum
    omega

/-- **What is left in the connection can complete the validation**: with the last packet that
is missing no deadline is looked at any more. -/
lemma diverges_of_completing {sid : ℕ} (missing : ℕ) (h : Stuck d) (hc : d.loop.h3Conn = true)
    (hsid : d.loop.reqStream = some sid) (hexp : d.loop.ready.expired d.clock = false)
    (hfired : d.loop.ready.readyFired = false)
    (hmissing : d.loop.ready.validateSuccesses + (missing + 1) = dataProbeRequiredSuccesses)
    (hleft : missing + 1 ≤ d.conn.dgrams.countP (carries sid)) : ∃ es ds, Idle d es ds := by
  induction missing generalizing d with
  | zero =>
      obtain ⟨e, d', hs, hsilent, hd', -, hloop, -⟩ := h.count hc hsid hexp (by omega)
      have henough : d.loop.ready.validateSuccesses + 1 ≥ dataProbeRequiredSuccesses := by omega
      have hu : Untimed d'.loop.ready := by
        rw [hloop]
        refine .inr ?_
        simp [Readiness.count, Readiness.confirm, Readiness.observe, Readiness.fire, hfired,
          henough]
      obtain ⟨es, ds, hidle⟩ := diverges_of_spinning hd' hu
      exact ⟨_, _, hidle.cons hs hsilent⟩
  | succ missing ih =>
      obtain ⟨e, d', hs, hsilent, hd', hclock, hloop, hcount⟩ := h.count hc hsid hexp (by omega)
      obtain ⟨hf', hdl', hsucc⟩ := count_short true hfired (by
        simp only [if_true]
        omega)
      have hready : d'.loop.ready = d.loop.ready.count true := by rw [hloop]
      rw [← hready] at hf' hdl' hsucc
      simp only [if_true] at hsucc
      have hexp' : d'.loop.ready.expired d'.clock = false := by
        rw [hclock, Readiness.expired, hf', hdl', hready, (Readiness.count_frame _ _).1]
        rw [Readiness.expired, hfired] at hexp
        exact hexp
      have hc' : d'.loop.h3Conn = true := by rw [hloop]; exact hc
      have hsid' : d'.loop.reqStream = some sid := by rw [hloop]; exact hsid
      obtain ⟨es, ds, hidle⟩ := ih hd' hc' hsid' hexp' hf' (by omega) (by omega)
      exact ⟨_, _, hidle.cons hs hsilent⟩

/-! ### When every execution returns -/

/-- While a tunnel is not ready, the successes are not enough. -/
def Few (r : Readiness) : Prop :=
  r.readyFired = false → r.validateSuccesses < dataProbeRequiredSuccesses

lemma Few.begin {r : Readiness} (h : Few r) (now timeout : ℕ) : Few (r.begin now timeout) := by
  rw [Readiness.begin]
  split
  · exact h
  · split
    · intro h; cases h
    · exact h

lemma Few.count {r : Readiness} (h : Few r) (delivered : Bool) : Few (r.count delivered) := by
  rw [Readiness.count]
  split
  · rw [Readiness.confirm]
    split
    · split
      · intro h; cases h
      · rename_i hfew
        exact fun _ => Nat.lt_of_not_le hfew
    · exact h
  · exact h

/-- What a reachable driver is in, with an established connection. -/
structure Reached (dataCheck : Bool) (d : Driver) : Prop where
  sound : Sound d
  asked : Quic.Asked d.loop
  few : Few d.loop.ready
  mode : d.loop.ready.dataCheck = dataCheck
  valid : dataCheck = true → Quic.Inv d.loop

lemma run_reached {dataCheck readyTx : Bool} {timeout : ℕ} {ech : Option Bytes}
    {deadline : Option ℕ} {evs : List Ev}
    (h : Machine.run step (.start dataCheck readyTx timeout ech deadline) evs = some d) :
    Reached dataCheck d where
  sound := run_sound h
  asked := run_refines (fun _ _ _ hi hs => Quic.step_asked hi hs)
    (Quic.start_asked dataCheck readyTx timeout ech) h
  few := run_refines (I := fun l => Few l.ready)
    (fun _ _ _ hi hs => Quic.step_ready (fun _ now timeout hr => hr.begin now timeout)
      (fun _ _ hr => hr) (fun _ g hr => hr.count g) hi hs)
    (fun _ => (by decide : 0 < dataProbeRequiredSuccesses)) h
  mode := run_refines (I := fun l => l.ready.dataCheck = dataCheck)
    (fun _ _ _ hi hs => Quic.step_ready (P := fun r => r.dataCheck = dataCheck)
      (fun r now timeout hr => by
        rw [Readiness.begin]
        split
        · exact hr
        · split <;> exact hr)
      (fun _ _ hr => hr) (fun r g hr => (r.count_frame g).1.trans hr) hi hs) rfl h
  valid hdc := by
    subst hdc
    exact run_refines (fun _ _ _ hi hs => Quic.step_inv hi hs)
      (Quic.start_inv readyTx timeout ech) h

/-- **When `quic::run` returns.** From a reachable state with an established connection and a
closed channel, every execution without the network returns exactly if the validation is
running, and its deadline has passed or the datagrams left in the connection cannot complete
it. -/
theorem terminates_iff {dataCheck readyTx : Bool} {timeout : ℕ} {ech : Option Bytes}
    {deadline : Option ℕ} {evs : List Ev}
    (h : Machine.run step (.start dataCheck readyTx timeout ech deadline) evs = some d)
    (hr : d.loop.result = none) (he : d.conn.established = true) (hg : Gone d) :
    Terminates d ↔ d.loop.ready.dataCheck = true ∧ d.loop.ready.readyFired = false
      ∧ ((∃ dl, d.loop.ready.validateDeadline = some dl ∧ dl ≤ d.clock)
        ∨ d.loop.ready.validateSuccesses + d.waiting < dataProbeRequiredSuccesses) := by
  have hreached := run_reached h
  have hc : d.loop.h3Conn = true := hreached.sound.requested hr he
  have hstream : d.loop.reqStream.isSome = true := (hreached.asked.live hr).2.trans hc
  have hstuck : Stuck d := ⟨hr, hg, hreached.sound.isOpen hr, hreached.sound.received he⟩
  constructor
  · intro hterm
    have hdc : d.loop.ready.dataCheck = true := by
      by_contra hdc
      obtain ⟨es, ds, hidle⟩ := diverges_of_spinning hstuck (.inl (Bool.eq_false_iff.mpr hdc))
      exact hterm es ds hidle
    have hf : d.loop.ready.readyFired = false := by
      by_contra hf
      obtain ⟨es, ds, hidle⟩ := diverges_of_spinning hstuck (.inr (Bool.of_not_eq_false hf))
      exact hterm es ds hidle
    refine ⟨hdc, hf, ?_⟩
    by_contra hcond
    obtain ⟨hdl, hmany⟩ := not_or.mp hcond
    obtain ⟨sid, hsid⟩ := Option.isSome_iff_exists.mp hstream
    rw [Driver.waiting, hsid] at hmany
    have hexp : d.loop.ready.expired d.clock = false := by
      simp only [Readiness.expired, Bool.and_eq_false_iff]
      refine .inr ?_
      rw [Option.any_eq_false]
      intro dl hmem
      exact decide_eq_false fun hle => hdl ⟨dl, hmem, hle⟩
    have hfew := hreached.few hf
    obtain ⟨es, ds, hidle⟩ := diverges_of_completing
      (dataProbeRequiredSuccesses - d.loop.ready.validateSuccesses - 1)
      hstuck hc hsid hexp hf (by omega) (by dsimp only at hmany; omega)
    exact hterm es ds hidle
  · rintro ⟨hdc, hf, hcond⟩
    have hinv := hreached.valid (hreached.mode.symm.trans hdc)
    obtain ⟨dl, hdl⟩ := Option.isSome_iff_exists.mp (hinv.armed hr hc hf)
    have hshort : dl ≤ d.clock
        ∨ d.loop.ready.validateSuccesses + d.waiting < dataProbeRequiredSuccesses := by
      rcases hcond with ⟨dl', hdl', hle⟩ | hlt
      · rw [hdl, Option.some.injEq] at hdl'
        exact .inl (hdl' ▸ hle)
      · exact .inr hlt
    exact Validating.terminates ⟨hr, hg, hreached.sound, he, hstream, hdc, hf, hdl, hshort⟩

/-- The handshake completes with the next packet, and then the netstack is gone. -/
def handshakeThenGone : List Ev :=
  [.turn { calm 0 none with packet := some ⟨true, true, []⟩ }, .dropOutbound]

/-- A tunnel that is being validated when the netstack goes away. -/
theorem terminates_sample : ∃ d,
    Machine.run step (.start true true 10 none none)
        (.turn (calm 0 none) :: .turn (calm 0 none) :: handshakeThenGone) = some d
      ∧ d.loop.ready.validateDeadline = some 10 ∧ Terminates d := by
  obtain ⟨d, hd, hr, he, hg, hdl, hcond⟩ : ∃ d,
      Machine.run step (.start true true 10 none none)
          (.turn (calm 0 none) :: .turn (calm 0 none) :: handshakeThenGone) = some d
        ∧ d.loop.result = none ∧ d.conn.established = true ∧ Gone d
        ∧ d.loop.ready.validateDeadline = some 10
        ∧ d.loop.ready.dataCheck = true ∧ d.loop.ready.readyFired = false
        ∧ d.loop.ready.validateSuccesses + d.waiting < dataProbeRequiredSuccesses :=
    ⟨_, rfl, rfl, rfl, .inl rfl, rfl, rfl, rfl, by decide⟩
  exact ⟨d, hd, hdl, (terminates_iff hd hr he hg).mpr ⟨hcond.1, hcond.2.1, .inr hcond.2.2⟩⟩

/-- Without data checking the loop spins for ever once the netstack is gone. -/
theorem spins_without_netstack : ∃ d es ds,
    Machine.run step (.start false true 10 none none)
        (.turn (calm 0 none) :: handshakeThenGone) = some d
      ∧ d.loop.result = none ∧ d.conn.established = true ∧ d.outbound.live = false
      ∧ Idle d es ds := by
  obtain ⟨d, hd, hr, he, hg, hopen, hrec, hdc⟩ : ∃ d,
      Machine.run step (.start false true 10 none none)
          (.turn (calm 0 none) :: handshakeThenGone) = some d
        ∧ d.loop.result = none ∧ d.conn.established = true ∧ d.outbound.live = false
        ∧ d.conn.closed = false ∧ d.conn.received = true ∧ d.loop.ready.dataCheck = false :=
    ⟨_, rfl, rfl, rfl, rfl, rfl, rfl, rfl⟩
  obtain ⟨es, ds, hidle⟩ := diverges_of_spinning ⟨hr, .inl hg, hopen, hrec⟩ (.inl hdc)
  exact ⟨d, es, ds, hd, hr, he, hg, hidle⟩

end Aether.Tunnel.Select
