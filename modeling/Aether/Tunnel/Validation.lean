import Aether.Lib.Machine
import Aether.Tunnel.H2
import Aether.Tunnel.Quic

/-!
Readiness is gated by data-plane validation.

Both loops keep the gate of `Readiness` and have the deadline armed while they validate;
`quic::run` also replaces its connection, once and only from variables that are as good
as new. An iteration is a sequence of stages, and each stage keeps the invariant.

* `Quic.run_inv`, `H2.run_inv`: the invariants after every run.
* `signals_delivering`: an iteration that signals delivers packets, and so did one before it.
* `readiness_gated`: what they say of the signal, the deadline and the reconnect.
-/

namespace Aether.Tunnel

open Machine (outputs run_outputs_invariant)

/-! ### The packets behind the signal -/

section Packets

variable {σ ε : Type} {step : σ → ε → Option σ} {I : σ → Prop} (ready : σ → Readiness)
  (packets : σ → ε → List Bytes)

/-- The log of a run has no more deliveries than there are events that deliver packets. -/
lemma delivered_le_countP (hI : ∀ s e t, I s → step s e = some t → I t)
    (hadds : ∀ s e t, I s → step s e = some t → Adds (packets s e) (ready s).log (ready t).log)
    {s u : σ} {es : List ε} (hs : I s) (hnone : (ready s).log = [])
    (h : Machine.run step s es = some u) :
    (ready u).log.count .delivered
      ≤ (outputs step (fun s e => [packets s e]) s es).countP (!·.isEmpty) := by
  have hkeep : ∀ t e t' acc, I t ∧ (ready t).log.count .delivered ≤ acc.countP (!·.isEmpty) →
      step t e = some t' →
      I t' ∧ (ready t').log.count .delivered ≤ (acc ++ [packets t e]).countP (!·.isEmpty) := by
    rintro t e t' acc ⟨ht, hle⟩ hstep
    refine ⟨hI t e t' ht hstep, ?_⟩
    have hone := (hadds t e t' ht hstep).delivered_le
    rw [List.countP_append, List.countP_singleton]
    cases hempty : (packets t e).isEmpty <;> rw [hempty] at hone <;> simp at hone ⊢ <;> omega
  have hstart : I s ∧ (ready s).log.count .delivered ≤ ([] : List (List Bytes)).countP
      (!·.isEmpty) := ⟨hs, by rw [hnone]; exact Nat.zero_le _⟩
  exact (run_outputs_invariant (fun s e => [packets s e]) hkeep hstart h).2

/-- **An event that signals delivers packets**, and is not the first to do so. -/
lemma signals_delivering (hI : ∀ s e t, I s → step s e = some t → I t)
    (hadds : ∀ s e t, I s → step s e = some t → Adds (packets s e) (ready s).log (ready t).log)
    (hgate : ∀ s, I s → Gated (ready s))
    {s u v : σ} {es : List ε} {e : ε} (hs : I s) (hnone : (ready s).log = [])
    (h : Machine.run step s es = some u) (hstep : step u e = some v)
    (hold : .ready ∉ (ready u).log) (hnew : .ready ∈ (ready v).log) :
    packets u e ≠ [] ∧ ∃ ps ∈ outputs step (fun s e => [packets s e]) s es, ps ≠ [] := by
  have hu : I u := Machine.run_invariant hI hs h
  have hadd := hadds u e v hu hstep
  refine ⟨hadd.ne_nil hold hnew, ?_⟩
  obtain ⟨late, early, hlog⟩ := List.append_of_mem hnew
  have htwo := ((hgate v (hI u e v hu hstep)).enough early ⟨late, hlog.symm⟩).2
  have hle : early.count .delivered ≤ (ready v).log.count .delivered := by
    rw [hlog]
    exact ((List.sublist_cons_self ..).trans (List.sublist_append_right ..)).count_le _
  have hone := hadd.delivered_le
  have hcount := delivered_le_countP ready packets hI hadds hs hnone h
  have hpos : 0 < (outputs step (fun s e => [packets s e]) s es).countP (!·.isEmpty) := by
    rw [dataProbeRequiredSuccesses] at htwo
    split at hone <;> omega
  obtain ⟨ps, hps, hne⟩ := List.countP_pos_iff.mp hpos
  exact ⟨ps, hps, by simpa using hne⟩

end Packets

/-! ### `quic::run` -/

namespace Quic

variable {s s' : Loop} {t : Turn}

/-- What the loop keeps while it validates. Until the request is sent nothing of the
validation has begun; from then on the deadline is armed until the tunnel is ready; and
every reconnect was the first and found nothing begun. -/
structure Inv (s : Loop) : Prop where
  dataCheck : s.ready.dataCheck = true
  gated : Gated s.ready
  live : s.result = none → s.establishedEver = s.h3Conn ∧ s.reqStream.isSome = s.h3Conn
  idle : s.result = none → s.h3Conn = false → s.ready.validateSuccesses = 0
    ∧ s.ready.validateDeadline = none ∧ s.ready.readyFired = false
  armed : s.result = none → s.h3Conn = true → s.ready.readyFired = false →
    s.ready.validateDeadline.isSome
  once : s.ready.log.countP Obs.reconnects ≤ if s.echRetried then 1 else 0
  clean : ∀ n dl sid fired, .reconnect n dl sid fired ∈ s.ready.log →
    n = 0 ∧ dl = none ∧ sid = none ∧ fired = false

lemma start_inv (readyTx : Bool) (timeout : ℕ) (ech : Option Bytes) :
    Inv (.start true readyTx timeout ech) where
  dataCheck := rfl
  gated := start_gated true readyTx
  live _ := ⟨rfl, rfl⟩
  idle _ _ := ⟨rfl, rfl, rfl⟩
  armed _ h := by cases h
  once := Nat.zero_le _
  clean _ _ _ _ h := by cases h

/-- A return keeps it. -/
lemma Inv.returns (h : Inv s) (o : Outcome) : Inv (s.returns o) :=
  ⟨h.dataCheck, h.gated, (by intro hr; cases hr), (by intro hr; cases hr),
    (by intro hr; cases hr), h.once, h.clean⟩

lemma checkDeadline_inv (h : Inv s) : Inv (checkDeadline t s) := by
  rw [checkDeadline]
  split
  · exact h.returns _
  · exact h

lemma sendRequest_inv (h : Inv s) : Inv (sendRequest t s) := by
  rw [sendRequest]
  split
  · split
    · exact ⟨h.dataCheck, h.gated, (by intro hr; cases hr), (by intro hr; cases hr),
        (by intro hr; cases hr), h.once, h.clean⟩
    · have hb : s.ready.begin t.requestAt s.validationTimeout
          = { s.ready with validateDeadline := some (t.requestAt + s.validationTimeout) } :=
        if_pos h.dataCheck
      refine ⟨?_, h.gated.begin h.dataCheck .., fun _ => ⟨rfl, rfl⟩, (by simp), fun _ _ _ => ?_,
        ?_, ?_⟩
      · rw [hb]; exact h.dataCheck
      · rw [hb]; rfl
      · rw [hb]; exact h.once
      · rw [hb]; exact h.clean
  · exact h

/-- A stage that only logs plain observations, and pushes capsules. -/
lemma Inv.observeAll (h : Inv s) {os : List Obs} (hos : ∀ o ∈ os, o.Plain)
    (p : Masque.CapsuleParser) : Inv { s with capsules := p, ready := s.ready.observeAll os } := by
  have hgated := h.gated.observeAll fun o ho => (hos o ho).ne
  rw [Readiness.observeAll_frame] at hgated ⊢
  have hrec : os.reverse.countP Obs.reconnects = 0 := by
    rw [List.countP_eq_zero]
    intro o ho
    have hp := hos o (List.mem_reverse.mp ho)
    cases o <;> first | exact hp.elim | simp [Obs.reconnects]
  refine ⟨h.dataCheck, hgated, h.live, h.idle, h.armed, ?_, ?_⟩
  · show (os.reverse ++ s.ready.log).countP Obs.reconnects ≤ _
    rw [List.countP_append, hrec, Nat.zero_add]
    exact h.once
  · intro n dl sid fired hmem
    rcases List.mem_append.mp hmem with hmem | hmem
    · exact (hos _ (List.mem_reverse.mp hmem)).elim
    · exact h.clean n dl sid fired hmem

lemma pollH3_inv (h : Inv s) : Inv (pollH3 t s) := by
  rw [pollH3]
  split
  · rename_i sid _ _
    obtain ⟨p, os, heq, hos, _⟩ := events_frame sid s t.events
    have hinv : Inv (t.events.foldl (onH3Event sid) s) := heq ▸ h.observeAll hos p
    dsimp only
    split
    · exact hinv.returns _
    · exact hinv
  · exact h

/-- What a poll adds to the log, and that it leaves the stream alone. -/
lemma pollH3_log {log : List Obs} (h : s.ready.log = log) :
    ∃ os : List Obs, (∀ o ∈ os, o ≠ .ready ∧ o ≠ .delivered)
      ∧ (pollH3 t s).ready.log = os ++ log ∧ (pollH3 t s).reqStream = s.reqStream := by
  rw [pollH3]
  split
  · rename_i sid _ _
    obtain ⟨p, os, heq, hos, -⟩ := events_frame sid s t.events
    refine ⟨os.reverse, fun o ho => (hos o (List.mem_reverse.mp ho)).ne, ?_⟩
    have hpolled : (t.events.foldl (onH3Event sid) s).ready.log = os.reverse ++ log
        ∧ (t.events.foldl (onH3Event sid) s).reqStream = s.reqStream := by
      rw [heq, Readiness.observeAll_frame, ← h]
      exact ⟨rfl, rfl⟩
    dsimp only
    split <;> exact hpolled
  · exact ⟨[], fun o ho => absurd ho List.not_mem_nil, h, rfl⟩

lemma Inv.no_stream (h : Inv s) (hr : s.result = none) (hc : s.h3Conn = false) :
    s.reqStream = none := by
  have hlive := (h.live hr).2
  rw [hc] at hlive
  exact Option.not_isSome_iff_eq_none.mp (by simp [hlive])

/-- Before the request no drain delivers. -/
lemma drain_inv (h : Inv s) (hr : s.result = none) : Inv (drain t s) := by
  obtain ⟨os, hlog, hos⟩ := s.ready.count_log (gotData t s.reqStream)
  obtain ⟨hdc, hfired⟩ := s.ready.count_frame (gotData t s.reqStream)
  have hrec : os.countP Obs.reconnects = 0 := by
    rw [List.countP_eq_zero]
    intro o ho
    rcases hos o ho with rfl | rfl <;> simp [Obs.reconnects]
  refine ⟨hdc.trans h.dataCheck, h.gated.count _, h.live, ?_, ?_, ?_, ?_⟩
  · intro _ hc
    have hsid := h.no_stream hr hc
    simpa [drain, gotData, hsid, Readiness.count] using h.idle hr hc
  · intro _ hc hf
    obtain ⟨hf', hdl⟩ := hfired hf
    show (s.ready.count (gotData t s.reqStream)).validateDeadline.isSome
    rw [hdl]
    exact h.armed hr hc hf'
  · show (s.ready.count (gotData t s.reqStream)).log.countP Obs.reconnects ≤ _
    rw [hlog, List.countP_append, hrec, Nat.zero_add]
    exact h.once
  · intro n dl sid fired hmem
    change _ ∈ (s.ready.count (gotData t s.reqStream)).log at hmem
    rw [hlog] at hmem
    rcases List.mem_append.mp hmem with hmem | hmem
    · rcases hos _ hmem with h | h <;> cases h
    · exact h.clean n dl sid fired hmem

lemma flush_inv (h : Inv s) : Inv (flush t s) := by
  rw [flush]
  split
  · exact h.returns _
  · exact h

/-- A reconnect finds nothing begun, because nothing was ever established. -/
lemma onClosed_inv (h : Inv s) (hr : s.result = none) : Inv (onClosed t s) := by
  rw [onClosed]
  split
  · split
    · rename_i retry hcond _
      simp only [Bool.and_eq_true, Bool.not_eq_true'] at hcond
      obtain ⟨⟨hever, hretried⟩, -⟩ := hcond
      have hc : s.h3Conn = false := (h.live hr).1.symm.trans hever
      obtain ⟨hn, hdl, hf⟩ := h.idle hr hc
      have hsid := h.no_stream hr hc
      have honce := h.once
      rw [hretried] at honce
      have hgated := h.gated.observe
        (o := .reconnect s.ready.validateSuccesses s.ready.validateDeadline s.reqStream
          s.ready.readyFired) (by simp) (.inr (by simp))
      have hcount : (s.ready.observe (.reconnect s.ready.validateSuccesses s.ready.validateDeadline
          s.reqStream s.ready.readyFired)).log.countP Obs.reconnects ≤ 1 := by
        show (Obs.reconnect _ _ _ _ :: s.ready.log).countP Obs.reconnects ≤ 1
        rw [List.countP_cons_of_pos rfl]
        exact Nat.succ_le_succ honce
      have hclean : ∀ n dl sid fired, .reconnect n dl sid fired ∈
          (s.ready.observe (.reconnect s.ready.validateSuccesses s.ready.validateDeadline
            s.reqStream s.ready.readyFired)).log →
          n = 0 ∧ dl = none ∧ sid = none ∧ fired = false := by
        intro n dl sid fired hmem
        rcases List.mem_cons.mp hmem with heq | hmem
        · cases heq
          exact ⟨hn, hdl, hsid, hf⟩
        · exact h.clean n dl sid fired hmem
      dsimp only
      split
      · exact ⟨h.dataCheck, hgated, (by intro hr; cases hr), (by intro hr; cases hr),
          (by intro hr; cases hr), hcount, hclean⟩
      · exact ⟨h.dataCheck, hgated, fun _ => ⟨hever, rfl⟩, fun _ _ => ⟨hn, hdl, hf⟩, (by simp),
          hcount, hclean⟩
    · exact h.returns _
  · exact h

/-- An iteration keeps the invariant. -/
lemma step_inv (h : Inv s) (hs : step s t = some s') : Inv s' := by
  obtain ⟨_, rfl⟩ := step_spec hs
  have hdeadline : Inv (checkDeadline t s) := checkDeadline_inv h
  refine Loop.andThen_rule hdeadline fun _ => ?_
  have hsend : Inv (sendRequest t (checkDeadline t s)) := sendRequest_inv hdeadline
  refine Loop.andThen_rule hsend fun _ => ?_
  have hpoll := pollH3_inv (t := t) hsend
  refine Loop.andThen_rule hpoll fun hr => ?_
  have hflush := flush_inv (t := t) (drain_inv (t := t) hpoll hr)
  exact Loop.andThen_rule hflush fun hr => onClosed_inv hflush hr

theorem run_inv {readyTx : Bool} {timeout : ℕ} {ech : Option Bytes} {ts : List Turn}
    (h : Machine.run step (.start true readyTx timeout ech) ts = some s) : Inv s :=
  Machine.run_invariant (fun _ _ _ hi hs => step_inv hi hs) (start_inv readyTx timeout ech) h

/-- The packets that the drain of an iteration finds, behind a request it may send itself. -/
def delivered (s : Loop) (t : Turn) : List Bytes :=
  Masque.packetsOf (sendRequest t s).reqStream t.dgrams

/-- What an iteration adds to the log it owes to these packets. -/
lemma step_adds (h : s.ready.dataCheck = true) (hs : step s t = some s') :
    Adds (delivered s t) s.ready.log s'.ready.log := by
  obtain ⟨-, rfl⟩ := step_spec hs
  have hcheck : (checkDeadline t s).ready = s.ready := by
    rw [checkDeadline]
    split <;> rfl
  refine Loop.andThen_rule (P := fun u => Adds _ s.ready.log u.ready.log)
    (hcheck ▸ .refl ..) fun hr => ?_
  have hrunning : checkDeadline t s = s := by
    refine checkDeadline_eq (Bool.eq_false_iff.mpr ?_)
    intro hexp
    rw [checkDeadline, if_pos hexp] at hr
    cases hr
  rw [hrunning]
  have hsend : (sendRequest t s).ready.log = s.ready.log := by
    rw [sendRequest]
    split
    · split
      · rfl
      · exact Readiness.begin_log h ..
    · rfl
  refine Loop.andThen_rule (P := fun u => Adds _ s.ready.log u.ready.log)
    (hsend ▸ .refl ..) fun _ => ?_
  obtain ⟨os, hos, hlog, hstream⟩ : ∃ os : List Obs, (∀ o ∈ os, o ≠ .ready ∧ o ≠ .delivered)
      ∧ (pollH3 t (sendRequest t s)).ready.log = os ++ s.ready.log
      ∧ (pollH3 t (sendRequest t s)).reqStream = (sendRequest t s).reqStream :=
    pollH3_log hsend
  refine Loop.andThen_rule (P := fun u => Adds _ s.ready.log u.ready.log)
    (.after hos (hlog ▸ .refl ..)) fun _ => ?_
  have hdrain : Adds (delivered s t) s.ready.log
      (drain t (pollH3 t (sendRequest t s))).ready.log := by
    refine .after hos ?_
    rw [← hlog, drain, gotData_eq, hstream]
    exact .count (pollH3 t (sendRequest t s)).ready (delivered s t)
  have hflush : (flush t (drain t (pollH3 t (sendRequest t s)))).ready
      = (drain t (pollH3 t (sendRequest t s))).ready := by
    rw [flush]
    split <;> rfl
  refine Loop.andThen_rule (P := fun u => Adds _ s.ready.log u.ready.log)
    (hflush ▸ hdrain) fun _ => ?_
  rw [onClosed]
  split
  · split
    · dsimp only
      split <;> exact .observed (hflush ▸ hdrain) (by simp) (by simp)
    · exact hflush ▸ hdrain
  · exact hflush ▸ hdrain

/-- A passed deadline ends the loop at its head. -/
lemma step_expired {dl : ℕ} (hdc : s.ready.dataCheck = true) (hf : s.ready.readyFired = false)
    (hdl : s.ready.validateDeadline = some dl) (hnow : dl ≤ t.now) (hs : step s t = some s') :
    (∃ e, s'.result = some (.error e)) ∧ s'.ready = s.ready := by
  obtain ⟨_, rfl⟩ := step_spec hs
  have hexp : s.ready.expired t.now = true := by
    simp [Readiness.expired, hdc, hf, hdl, hnow]
  simp [iterate, checkDeadline, hexp, Loop.andThen, Loop.returns]

end Quic

/-! ### `masque_h2::run` -/

namespace H2

variable {s s' : Loop} {t : Turn} {e : Ev}

/-- What the loop keeps while it validates: from the success status on the deadline is
armed until the tunnel is ready. -/
structure Inv (s : Loop) : Prop where
  dataCheck : s.ready.dataCheck = true
  gated : Gated s.ready
  armed : s.result = none → s.connected = true → s.ready.readyFired = false →
    s.ready.validateDeadline.isSome

lemma start_inv (readyTx : Bool) (timeout keepalive : ℕ) :
    Inv (.start true readyTx timeout keepalive) :=
  ⟨rfl, start_gated true readyTx, by intro _ h; cases h⟩

lemma Inv.returns (h : Inv s) (o : Outcome) : Inv (s.returns o) :=
  ⟨h.dataCheck, h.gated, by intro hr; cases hr⟩

lemma Inv.observe (h : Inv s) {o : Obs} (ho : o.Plain) : Inv (s.observe o) :=
  ⟨h.dataCheck, h.gated.observe ho.ne.1 (.inr ho.ne.2), h.armed⟩

lemma onResponse_inv (h : Inv s) (status : Except String ℕ) (now : ℕ) :
    Inv (onResponse s status now) := by
  cases status with
  | error e => exact h.returns _
  | ok code =>
    have ho : Inv (s.observe (.status code)) := h.observe trivial
    simp only [onResponse]
    split
    · exact ho.returns _
    · have hb : (s.observe (.status code)).ready.begin now
            (s.observe (.status code)).validationTimeout
          = { (s.observe (.status code)).ready with
            validateDeadline := some (now + s.validationTimeout) } :=
        if_pos h.dataCheck
      refine ⟨?_, ho.gated.begin ho.dataCheck .., ?_⟩
      · show (Readiness.begin _ _ _).dataCheck = true
        rw [hb]
        exact h.dataCheck
      · intro _ _ _
        show (Readiness.begin _ _ _).validateDeadline.isSome
        rw [hb]
        rfl

/-- A chunk of the body: the addresses, then the counting. -/
lemma chunk_inv (h : Inv s) (p : Masque.CapsuleParser) (as : List Netstack.AssignedAddr)
    (gotData : Bool) :
    Inv { s with
      capsules := p, ready := (s.ready.observeAll (as.map .assigned)).count gotData } := by
  have hos : ∀ o ∈ as.map Obs.assigned, o ≠ .ready ∧ o ≠ .delivered := by
    intro o ho
    obtain ⟨a, _, rfl⟩ := List.mem_map.mp ho
    exact ⟨(by simp), (by simp)⟩
  obtain ⟨hdc, hfired⟩ := (s.ready.observeAll (as.map .assigned)).count_frame gotData
  refine ⟨?_, (h.gated.observeAll hos).count gotData, ?_⟩
  · show (Readiness.count _ gotData).dataCheck = true
    rw [hdc, Readiness.observeAll_frame]
    exact h.dataCheck
  · intro hr hc hf
    obtain ⟨hf', hdl⟩ := hfired hf
    show (Readiness.count _ gotData).validateDeadline.isSome
    rw [Readiness.observeAll_frame] at hf' hdl ⊢
    rw [hdl]
    exact h.armed hr hc hf'

lemma select_inv (h : Inv s) : Inv (select t s) := by
  rw [select]
  split
  · split
    · exact ⟨h.dataCheck, h.gated, h.armed⟩
    · exact h
  · exact ⟨h.dataCheck, h.gated, h.armed⟩
  · exact h.returns _
  · exact h
  · exact h
  · exact h.returns _
  · exact h.returns _
  · exact h
  · exact h.returns _
  · exact h.returns _
  · exact chunk_inv h ..
  · have ho : Inv (s.observe .reset) := h.observe trivial
    exact ho.returns _
  · have ho : Inv (s.observe .finished) := h.observe trivial
    exact ho.returns _

lemma step_inv (h : Inv s) (hs : step s e = some s') : Inv s' := by
  obtain ⟨-, ⟨err, rfl⟩ | ⟨status, now, -, rfl⟩ | ⟨t, -, -, -, rfl⟩⟩ := step_cases hs
  · exact h.returns _
  · exact onResponse_inv h ..
  · exact select_inv h

theorem run_inv {readyTx : Bool} {timeout keepalive : ℕ} {es : List Ev}
    (h : Machine.run step (.start true readyTx timeout keepalive) es = some s) : Inv s :=
  Machine.run_invariant (fun _ _ _ hi hs => step_inv hi hs) (start_inv readyTx timeout keepalive) h

/-- The packets that the drain of a chunk hands on. -/
def delivered (s : Loop) : Ev → List Bytes
  | .turn t =>
      match t.branch with
      | .data (some (.ok chunk)) takes => (drainCapsules takes (s.capsules.push chunk)).packets
      | _ => []
  | _ => []

/-- The addresses of a chunk, then the counting. -/
lemma chunk_adds (r : Readiness) (as : List Netstack.AssignedAddr) (packets : List Bytes) :
    Adds packets r.log ((r.observeAll (as.map .assigned)).count !packets.isEmpty).log := by
  have hos : ∀ o ∈ (as.map Obs.assigned).reverse, o ≠ .ready ∧ o ≠ .delivered := by
    intro o ho
    obtain ⟨a, -, rfl⟩ := List.mem_map.mp (List.mem_reverse.mp ho)
    exact ⟨(by simp), (by simp)⟩
  have hlog : (r.observeAll (as.map .assigned)).log = (as.map Obs.assigned).reverse ++ r.log := by
    rw [Readiness.observeAll_frame]
  refine .after hos ?_
  rw [← hlog]
  exact .count ..

/-- What an event adds to the log it owes to these packets. -/
lemma step_adds (h : s.ready.dataCheck = true) (hs : step s e = some s') :
    Adds (delivered s e) s.ready.log s'.ready.log := by
  obtain ⟨-, ⟨err, rfl⟩ | ⟨status, now, -, rfl⟩ | ⟨t, rfl, -, -, rfl⟩⟩ := step_cases hs
  · exact .refl ..
  · cases status with
    | error err => exact .refl ..
    | ok code =>
        have hstatus : Adds (delivered s e) s.ready.log (.status code :: s.ready.log) :=
          .observed (.refl ..) (by simp) (by simp)
        simp only [onResponse]
        split
        · exact hstatus
        · show Adds _ _ (Readiness.begin ..).log
          have hobs : (s.observe (.status code)).ready.dataCheck = true := h
          rw [Readiness.begin_log hobs]
          exact hstatus
  · rw [select]
    split
    case h_11 chunk takes hdata =>
      have hpackets : delivered s (.turn t)
          = (drainCapsules takes (s.capsules.push chunk)).packets := by
        simp only [delivered, hdata]
      rw [hpackets]
      exact chunk_adds ..
    case h_12 | h_13 => exact .observed (.refl ..) (by simp) (by simp)
    all_goals first | exact .refl .. | (split <;> exact .refl ..)

/-- A passed deadline ends the loop at its head. -/
lemma step_expired {dl : ℕ} (hdc : s.ready.dataCheck = true) (hf : s.ready.readyFired = false)
    (hdl : s.ready.validateDeadline = some dl) (hnow : dl ≤ t.now)
    (hs : step s (.turn t) = some s') :
    (∃ e, s'.result = some (.error e)) ∧ s'.ready = s.ready := by
  simp only [step, Option.ite_none_right_eq_some, Option.some.injEq] at hs
  obtain ⟨_, rfl⟩ := hs
  have hexp : s.ready.expired t.now = true := by
    simp [Readiness.expired, hdc, hf, hdl, hnow]
  simp [iterate, checkDeadline, hexp, Loop.andThen, Loop.returns]

end H2

/-! ### The gate of both transports -/

/-- **Readiness is gated by validation**, in every run of either loop with data checking on.
The signal is sent at most once, at the end of an iteration that delivers a packet and is not the
first to, by the log and by the packets that the drains find; at every loop head between the
start of the validation and readiness a deadline is armed, and an iteration that finds it passed
returns an error and signals nothing; and `quic::run` reconnects at most once, with no success
counted, no deadline, no request stream and no readiness. -/
theorem readiness_gated {readyTx readyTx' : Bool} {timeout timeout' keepalive : ℕ}
    {ech : Option Bytes} {ts : List Quic.Turn} {es : List H2.Ev} {s : Quic.Loop} {u : H2.Loop}
    (hs : Machine.run Quic.step (.start true readyTx timeout ech) ts = some s)
    (hu : Machine.run H2.step (.start true readyTx' timeout' keepalive) es = some u) :
    (∀ log ∈ [s.ready.log, u.ready.log], log.count .ready ≤ 1
      ∧ ∀ pre, .ready :: pre <:+ log →
        pre.head? = some .delivered ∧ dataProbeRequiredSuccesses ≤ pre.count .delivered)
    ∧ (∀ t s', Quic.step s t = some s' → .ready ∉ s.ready.log → .ready ∈ s'.ready.log →
      Quic.delivered s t ≠ [] ∧ ∃ ps ∈ outputs Quic.step (fun s t => [Quic.delivered s t])
        (.start true readyTx timeout ech) ts, ps ≠ [])
    ∧ (∀ e u', H2.step u e = some u' → .ready ∉ u.ready.log → .ready ∈ u'.ready.log →
      H2.delivered u e ≠ [] ∧ ∃ ps ∈ outputs H2.step (fun u e => [H2.delivered u e])
        (.start true readyTx' timeout' keepalive) es, ps ≠ [])
    ∧ (s.result = none → s.reqStream.isSome → s.ready.readyFired = false →
      ∃ dl, s.ready.validateDeadline = some dl ∧ ∀ t s', dl ≤ t.now → Quic.step s t = some s' →
        (∃ e, s'.result = some (.error e)) ∧ s'.ready.log = s.ready.log)
    ∧ (u.result = none → u.connected = true → u.ready.readyFired = false →
      ∃ dl, u.ready.validateDeadline = some dl ∧
        ∀ t u', dl ≤ t.now → H2.step u (.turn t) = some u' →
          (∃ e, u'.result = some (.error e)) ∧ u'.ready.log = u.ready.log)
    ∧ s.ready.log.countP Obs.reconnects ≤ 1
    ∧ ∀ n dl sid fired, .reconnect n dl sid fired ∈ s.ready.log →
      n = 0 ∧ dl = none ∧ sid = none ∧ fired = false := by
  have hq := Quic.run_inv hs
  have hh := H2.run_inv hu
  refine ⟨?_, ?_, ?_, ?_, ?_, ?_, hq.clean⟩
  · intro log hlog
    simp only [List.mem_cons, List.not_mem_nil, or_false] at hlog
    rcases hlog with rfl | rfl
    · exact ⟨hq.gated.once, hq.gated.enough⟩
    · exact ⟨hh.gated.once, hh.gated.enough⟩
  · intro t s' hstep hold hnew
    exact signals_delivering Quic.Loop.ready Quic.delivered
      (fun _ _ _ hi hs => Quic.step_inv hi hs) (fun _ _ _ hi hs => Quic.step_adds hi.dataCheck hs)
      (fun _ hi => hi.gated) (Quic.start_inv readyTx timeout ech) rfl hs hstep hold hnew
  · intro e u' hstep hold hnew
    exact signals_delivering H2.Loop.ready H2.delivered
      (fun _ _ _ hi hs => H2.step_inv hi hs) (fun _ _ _ hi hs => H2.step_adds hi.dataCheck hs)
      (fun _ hi => hi.gated) (H2.start_inv readyTx' timeout' keepalive) rfl hu hstep hold hnew
  · intro hr hsid hf
    have hc : s.h3Conn = true := (hq.live hr).2.symm.trans hsid
    obtain ⟨dl, hdl⟩ := Option.isSome_iff_exists.mp (hq.armed hr hc hf)
    refine ⟨dl, hdl, ?_⟩
    intro t s' hnow hst
    obtain ⟨he, hready⟩ := Quic.step_expired hq.dataCheck hf hdl hnow hst
    exact ⟨he, congrArg _ hready⟩
  · intro hr hc hf
    obtain ⟨dl, hdl⟩ := Option.isSome_iff_exists.mp (hh.armed hr hc hf)
    refine ⟨dl, hdl, ?_⟩
    intro t u' hnow hst
    obtain ⟨he, hready⟩ := H2.step_expired hh.dataCheck hf hdl hnow hst
    exact ⟨he, congrArg _ hready⟩
  · refine Nat.le_trans hq.once ?_
    split <;> decide

/-- The request and its status, and two iterations that deliver a packet. -/
def sampleTurns : List Quic.Turn :=
  [.plain [.headers 0 (some 200)] [], .plain [] [[0, 0, 69]], .plain [] [[0, 0, 69]]]

/-- The gate at a run that is validated and at one that has just begun to validate. -/
theorem readiness_gated_sample :
    ∃ s u, Machine.run Quic.step (.start true true 10 none) sampleTurns = some s
      ∧ Machine.run H2.step (.start true true 10 5) [.response (.ok 200) 0] = some u
      ∧ s.ready.log = [.ready, .delivered, .delivered, .status 200]
      ∧ s.ready.log.count .ready ≤ 1
      ∧ ∃ dl, u.ready.validateDeadline = some dl := by
  obtain ⟨s, hs, hlog⟩ : ∃ s, Machine.run Quic.step (.start true true 10 none) sampleTurns = some s
      ∧ s.ready.log = [.ready, .delivered, .delivered, .status 200] := ⟨_, rfl, rfl⟩
  obtain ⟨u, hu, hr, hc, hf⟩ : ∃ u, Machine.run H2.step (.start true true 10 5)
      [.response (.ok 200) 0] = some u ∧ u.result = none ∧ u.connected = true
      ∧ u.ready.readyFired = false := ⟨_, rfl, rfl, rfl, rfl⟩
  obtain ⟨hgate, -, -, -, harmed, -⟩ := readiness_gated hs hu
  obtain ⟨dl, hdl, -⟩ := harmed hr hc hf
  exact ⟨s, u, hs, hu, hlog, (hgate _ (List.mem_cons_self ..)).1, dl, hdl⟩

end Aether.Tunnel
