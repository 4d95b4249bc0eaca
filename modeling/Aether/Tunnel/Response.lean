import Aether.Lib.Machine
import Aether.Tunnel.H2
import Aether.Tunnel.Quic

/-!
What becomes of the response to the CONNECT-IP request, as far as a loop has read it.

A tunnel honours it if it is reported ready only once the edge has accepted the request,
ends with an error on a refusal, and ends with the request stream. `masque_h2::run` does
with all that it reads. `quic::run` only logs the status, the end and the reset of the stream;
it does exactly in the turns that are `Heeded`.

* `H2.step_answered`: the HTTP/2 loop.
* `Quic.heeded_iff`: a turn of the QUIC loop leads to a state that honours the outcome
  exactly when it is heeded.
-/

namespace Aether.Tunnel

/-! ### Honouring the outcome -/

/-- The edge has answered, and with a success status only. -/
def Accepted (log : List Obs) : Prop :=
  (∃ code, .status code ∈ log ∧ isSuccess code = true)
    ∧ ∀ code, .status code ∈ log → isSuccess code = true

/-- An observation of the request stream. -/
def Obs.ofStream : Obs → Bool
  | .status _ | .finished | .reset => true
  | _ => false

/-- What has been observed of the request stream. -/
def onStream (log : List Obs) : List Obs := log.filter Obs.ofStream

/-- Every signal came after the edge had accepted the request. -/
def SignalsAccepted (log : List Obs) : Prop := ∀ pre, .ready :: pre <:+ log → Accepted pre

/-- What the log and the result of a `run` look like that **honours the outcome** of the request
stream. -/
structure Honoured (log : List Obs) (result : Option Outcome) : Prop where
  signalled : SignalsAccepted log
  refused : ∀ code, .status code ∈ log → isSuccess code = false → ∃ e, result = some (.error e)
  ended : .finished ∈ log ∨ .reset ∈ log → result.isSome

section Log

variable {log os : List Obs} {o : Obs} {result : Option Outcome} {r : Readiness}

lemma honoured_nil : Honoured [] result := by
  refine ⟨?_, (by simp), (by simp)⟩
  intro pre h
  cases List.suffix_nil.mp h

lemma mem_of_onStream {log' : List Obs} (h : onStream log = onStream log')
    (ho : o.ofStream = true) : o ∈ log ↔ o ∈ log' := by
  have hmem : o ∈ onStream log ↔ o ∈ onStream log' := by rw [h]
  simpa [onStream, ho] using hmem

/-- Acceptance looks at the statuses only. -/
lemma accepted_iff {log' : List Obs} (h : ∀ code, .status code ∈ log ↔ .status code ∈ log') :
    Accepted log ↔ Accepted log' := by
  simp only [Accepted, h]

/-- So it looks at the request stream only. -/
lemma accepted_congr {log' : List Obs} (h : onStream log = onStream log') :
    Accepted log ↔ Accepted log' :=
  accepted_iff fun _ => mem_of_onStream h rfl

/-- So do refusals and ends. -/
lemma Honoured.congr {log' : List Obs} (h : Honoured log result)
    (heq : onStream log' = onStream log) (hsig : SignalsAccepted log') : Honoured log' result where
  signalled := hsig
  refused code hmem := h.refused code ((mem_of_onStream heq rfl).mp hmem)
  ended hmem := h.ended
    (hmem.imp (mem_of_onStream heq rfl).mp (mem_of_onStream heq rfl).mp)

lemma onStream_append (hos : ∀ o ∈ os, o.ofStream = false) :
    onStream (os ++ log) = onStream log := by
  have hnil : os.filter Obs.ofStream = [] := by
    rw [List.filter_eq_nil_iff]
    intro o ho
    simp [hos o ho]
  rw [onStream, List.filter_append, hnil, List.nil_append, onStream]

lemma onStream_count (gotData : Bool) : onStream (r.count gotData).log = onStream r.log := by
  obtain ⟨os, hlog, hos⟩ := r.count_log gotData
  rw [hlog]
  refine onStream_append fun o ho => ?_
  rcases hos o ho with rfl | rfl <;> rfl

lemma onStream_begin (now timeout : ℕ) : onStream (r.begin now timeout).log = onStream r.log := by
  rw [Readiness.begin]
  split
  · rfl
  · split
    · cases htx : r.readyTx <;> simp [Readiness.fire, htx, onStream, Obs.ofStream]
    · rfl

lemma signalsAccepted_cons :
    SignalsAccepted (o :: log) ↔ (o = .ready → Accepted log) ∧ SignalsAccepted log := by
  constructor
  · intro h
    refine ⟨?_, fun pre hpre => h pre (hpre.trans (List.suffix_cons ..))⟩
    rintro rfl
    exact h log (List.suffix_refl _)
  · rintro ⟨ho, h⟩ pre hpre
    rcases List.suffix_cons_iff.mp hpre with heq | hpre
    · obtain ⟨rfl, rfl⟩ := List.cons.inj heq
      exact ho rfl
    · exact h pre hpre

lemma signalsAccepted_append (hos : ∀ o ∈ os, o ≠ .ready) :
    SignalsAccepted (os ++ log) ↔ SignalsAccepted log := by
  induction os with
  | nil => rfl
  | cons o os ih =>
      rw [List.cons_append, signalsAccepted_cons,
        ih fun o' ho' => hos o' (List.mem_cons_of_mem o ho')]
      exact and_iff_right fun h => absurd h (hos o (List.mem_cons_self ..))

/-- The next drain that delivers something signals. -/
def Readiness.Due (r : Readiness) : Prop :=
  r.readyFired = false ∧ r.readyTx = true ∧ dataProbeRequiredSuccesses ≤ r.validateSuccesses + 1

/-- The counting signals when it is due. -/
lemma signalsAccepted_count (gotData : Bool) :
    SignalsAccepted (r.count gotData).log
      ↔ (r.Due → gotData = true → Accepted r.log) ∧ SignalsAccepted r.log := by
  have hdel : Accepted (.delivered :: r.log) ↔ Accepted r.log := accepted_congr rfl
  have hskip : SignalsAccepted (.delivered :: r.log) ↔ SignalsAccepted r.log := by
    rw [signalsAccepted_cons]
    exact and_iff_right (by simp)
  cases gotData with
  | false => simp [Readiness.count]
  | true =>
      by_cases hdue : r.Due
      · obtain ⟨hf, htx, hn⟩ := id hdue
        have hlog : (r.count true).log = .ready :: .delivered :: r.log := by
          simp [Readiness.count, Readiness.confirm, Readiness.observe, Readiness.fire, hf, htx, hn]
        rw [hlog, signalsAccepted_cons, hdel, hskip]
        simp [hdue]
      · have hlog : (r.count true).log = .delivered :: r.log := by
          simp only [Readiness.Due, not_and, Nat.not_le] at hdue
          cases hf : r.readyFired with
          | true => simp [Readiness.count, Readiness.confirm, Readiness.observe, hf]
          | false =>
              cases htx : r.readyTx with
              | true =>
                  have hn := hdue hf htx
                  simp [Readiness.count, Readiness.confirm, Readiness.observe, hf,
                    Nat.not_le.mpr hn]
              | false =>
                  simp only [Readiness.count, Readiness.confirm, Readiness.observe, hf, if_true,
                    Bool.not_false]
                  split <;> simp [Readiness.fire, htx]
        rw [hlog, hskip]
        simp [hdue]

/-- Without data checking the request itself signals. -/
lemma signalsAccepted_begin (now timeout : ℕ) :
    SignalsAccepted (r.begin now timeout).log
      ↔ (r.dataCheck = false → r.readyFired = false → r.readyTx = true → Accepted r.log)
        ∧ SignalsAccepted r.log := by
  rw [Readiness.begin]
  split
  · rename_i hdc
    simp [hdc]
  · rename_i hdc
    split
    · rename_i hf
      cases htx : r.readyTx with
      | true =>
          have hlog : r.fire.log = .ready :: r.log := by simp [Readiness.fire, htx]
          rw [hlog, signalsAccepted_cons]
          simp_all
      | false => simp [Readiness.fire, htx]
    · rename_i hf
      simp_all

/-- Returning from a loop that honours the outcome does too. -/
lemma Honoured.returns (h : Honoured log none) (o : Outcome) : Honoured log (some o) where
  signalled := h.signalled
  refused code hmem hbad := by
    obtain ⟨e, he⟩ := h.refused code hmem hbad
    cases he
  ended _ := rfl

/-- While the loop is running, no refusal and no end has been received. -/
lemma Honoured.running (h : Honoured log none) :
    (∀ code, .status code ∈ log → isSuccess code = true) ∧ .finished ∉ log ∧ .reset ∉ log := by
  refine ⟨?_, ?_, ?_⟩
  · intro code hmem
    by_contra hbad
    obtain ⟨e, he⟩ := h.refused code hmem (Bool.eq_false_iff.mpr hbad)
    cases he
  · intro hmem
    exact absurd (h.ended (.inl hmem)) (by simp)
  · intro hmem
    exact absurd (h.ended (.inr hmem)) (by simp)

end Log

/-! ### `masque_h2::run` -/

namespace H2

variable {s s' : Loop} {t : Turn} {e : Ev}

/-- The loop is entered on a success status, with nothing observed before it. -/
structure Answered (s : Loop) : Prop where
  honoured : Honoured s.ready.log s.result
  accepted : s.result = none → s.connected = true → Accepted s.ready.log
  silent : s.result = none → s.connected = false → s.ready.log = []

lemma start_answered (dataCheck readyTx : Bool) (timeout keepalive : ℕ) :
    Answered (.start dataCheck readyTx timeout keepalive) :=
  ⟨honoured_nil, (by intro _ h; cases h), fun _ _ => rfl⟩

lemma Answered.running (h : Answered s) (hr : s.result = none) : Honoured s.ready.log none :=
  hr ▸ h.honoured

lemma Answered.returns (h : Answered s) (hr : s.result = none) (o : Outcome) :
    Answered (s.returns o) :=
  ⟨(h.running hr).returns o, (by intro h; cases h), (by intro h; cases h)⟩

lemma onResponse_answered (h : Answered s) (hr : s.result = none) (hc : s.connected = false)
    (status : Except String ℕ) (now : ℕ) : Answered (onResponse s status now) := by
  have hlog := h.silent hr hc
  cases status with
  | error e => exact h.returns hr _
  | ok code =>
      have hlog' : (s.ready.observe (.status code)).log = [.status code] := by
        rw [Readiness.observe, hlog]
      have hsig : SignalsAccepted (s.ready.observe (.status code)).log := by
        rw [hlog', signalsAccepted_cons]
        exact ⟨by simp, (honoured_nil : Honoured [] none).signalled⟩
      simp only [onResponse]
      split
      · refine ⟨⟨hsig, fun _ _ _ => ⟨_, rfl⟩, fun _ => rfl⟩, ?_, ?_⟩ <;> intro hnone <;> cases hnone
      · rename_i hok
        have hacc : Accepted (s.ready.observe (.status code)).log := by
          rw [hlog']
          simpa [Accepted] using hok
        have hstream := onStream_begin (r := s.ready.observe (.status code)) now s.validationTimeout
        have hsig' : SignalsAccepted ((s.ready.observe (.status code)).begin now
            s.validationTimeout).log :=
          (signalsAccepted_begin _ _).mpr ⟨fun _ _ _ => hacc, hsig⟩
        have hbase : Honoured (s.ready.observe (.status code)).log s.result := by
          refine ⟨hsig, ?_, ?_⟩
          · intro c hmem hbad
            have hgood := hacc.2 c hmem
            rw [hbad] at hgood
            cases hgood
          · intro hmem
            rw [hlog'] at hmem
            simp at hmem
        refine ⟨hbase.congr hstream hsig', fun _ _ => (accepted_congr hstream).mpr hacc, ?_⟩
        intro _ hc'
        cases hc'

/-- A chunk of the body says nothing of the stream, and a signal finds it accepted. -/
lemma chunk_answered (h : Answered s) (hr : s.result = none) (hc : s.connected = true)
    (p : Masque.CapsuleParser) (as : List Netstack.AssignedAddr) (gotData : Bool) :
    Answered { s with
      capsules := p, ready := (s.ready.observeAll (as.map .assigned)).count gotData } := by
  have hplain : ∀ o ∈ (as.map Obs.assigned).reverse, o ≠ .ready ∧ o.ofStream = false := by
    intro o ho
    obtain ⟨a, _, rfl⟩ := List.mem_map.mp (List.mem_reverse.mp ho)
    exact ⟨(by simp), rfl⟩
  have hlog : (s.ready.observeAll (as.map .assigned)).log
      = (as.map Obs.assigned).reverse ++ s.ready.log := by rw [Readiness.observeAll_frame]
  have hstream : onStream ((s.ready.observeAll (as.map .assigned)).count gotData).log
      = onStream s.ready.log := by
    rw [onStream_count, hlog]
    exact onStream_append fun o ho => (hplain o ho).2
  have hacc := h.accepted hr hc
  have hsig : SignalsAccepted ((s.ready.observeAll (as.map .assigned)).count gotData).log := by
    rw [signalsAccepted_count, hlog, signalsAccepted_append fun o ho => (hplain o ho).1]
    refine ⟨?_, h.honoured.signalled⟩
    intro _ _
    exact (accepted_congr (onStream_append fun o ho => (hplain o ho).2)).mpr hacc
  exact ⟨h.honoured.congr hstream hsig, fun _ _ => (accepted_congr hstream).mpr hacc,
    fun _ hc' => absurd (hc.symm.trans hc') (by simp)⟩

/-- The end of the body is observed, and returned from. -/
lemma Answered.closes (h : Answered s) (hr : s.result = none) {ob : Obs}
    (hob : ob = .finished ∨ ob = .reset) (o : Outcome) : Answered ((s.observe ob).returns o) := by
  have hbase := (h.running hr).returns o
  refine ⟨⟨?_, fun code hmem => hbase.refused code ?_, fun _ => rfl⟩,
    (by intro hr; cases hr), (by intro hr; cases hr)⟩
  · refine signalsAccepted_cons.mpr ⟨?_, hbase.signalled⟩
    rcases hob with rfl | rfl <;> simp
  · rcases List.mem_cons.mp hmem with heq | hmem
    · rcases hob with rfl | rfl <;> cases heq
    · exact hmem

lemma select_answered (h : Answered s) (hr : s.result = none) (hc : s.connected = true) :
    Answered (select t s) := by
  rw [select]
  split
  · split
    · exact ⟨h.honoured, h.accepted, h.silent⟩
    · exact h
  · exact ⟨h.honoured, h.accepted, h.silent⟩
  · exact h.returns hr _
  · exact h
  · exact h
  · exact h.returns hr _
  · exact h.returns hr _
  · exact h
  · exact h.returns hr _
  · exact h.returns hr _
  · exact chunk_answered h hr hc ..
  · exact h.closes hr (.inr rfl) _
  · exact h.closes hr (.inl rfl) _

lemma step_answered (h : Answered s) (hs : step s e = some s') : Answered s' := by
  obtain ⟨hr, ⟨err, rfl⟩ | ⟨status, now, hc, rfl⟩ | ⟨t, -, hc, -, rfl⟩⟩ := step_cases hs
  · exact h.returns hr _
  · exact onResponse_answered h hr hc ..
  · exact select_answered h hr hc

end H2

/-! ### `quic::run` -/

namespace Quic

variable {s s' : Loop} {t : Turn}

/-- The request stream that a turn polls: the one the request goes out on in this turn, or the
one it went out on before. A turn that finds the deadline passed polls none. -/
def polls (s : Loop) (t : Turn) : Option ℕ :=
  if s.ready.expired t.now then none
  else if t.established && !s.h3Conn then t.request.toOption
  else s.reqStream

/-- What a turn's poll yields of the request stream. -/
def news (s : Loop) (t : Turn) : List Obs :=
  match polls s t with
  | some sid => t.events.flatMap (seen sid)
  | none => []

/-- What the loop keeps in every mode. -/
structure Asked (s : Loop) : Prop where
  live : s.result = none → s.establishedEver = s.h3Conn ∧ s.reqStream.isSome = s.h3Conn
  silent : s.result = none → s.h3Conn = false → onStream s.ready.log = []
  unsent : s.ready.readyTx = true → s.ready.readyFired = false

lemma start_asked (dataCheck readyTx : Bool) (timeout : ℕ) (ech : Option Bytes) :
    Asked (.start dataCheck readyTx timeout ech) :=
  ⟨fun _ => ⟨rfl, rfl⟩, fun _ _ => rfl, fun _ => rfl⟩

/-- A turn that polls no request stream returns, or finds none and leaves none. -/
lemma step_unpolled (h : Asked s) (hs : step s t = some s') (hp : polls s t = none) :
    (s'.ready = s.ready ∨ ∃ o, s'.ready = s.ready.observe o ∧ Obs.reconnects o = true)
      ∧ (s'.result = none → s.h3Conn = false
        ∧ s'.h3Conn = false ∧ s'.reqStream = none ∧ s'.establishedEver = false) := by
  obtain ⟨hr, rfl⟩ := step_spec hs
  obtain ⟨hever, hsid⟩ := h.live hr
  rw [iterate]
  cases hexp : s.ready.expired t.now with
  | true =>
      have hret : checkDeadline t s = s.returns
          (.error (.masque "data-plane validation timeout (handshake ok, no traffic)")) := by
        simp [checkDeadline, hexp]
      rw [hret, andThen_returned rfl]
      exact ⟨.inl rfl, (by intro h; cases h)⟩
  | false =>
      rw [checkDeadline_eq hexp, andThen_running hr]
      simp only [polls, hexp, Bool.false_eq_true, if_false] at hp
      split at hp
      · rename_i hopen
        cases hreq : t.request with
        | ok sid => simp [hreq, Except.toOption] at hp
        | error e =>
            have hret : sendRequest t s
                = { s with establishedEver := true }.returns (.error e) := by
              simp [sendRequest, hopen, hreq]
            rw [hret, andThen_returned rfl]
            exact ⟨.inl rfl, (by intro h; cases h)⟩
      · rename_i hopen
        have hc : s.h3Conn = false := by rw [← hsid, hp]; rfl
        have hsend : sendRequest t s = s := by simp [sendRequest, hopen]
        have hpoll : pollH3 t s = s := by simp [pollH3, hc]
        have hgot : gotData t s.reqStream = false := by rw [hp]; rfl
        have hdrain : drain t s = s := by rw [drain, hgot]; rfl
        rw [hsend, andThen_running hr, hpoll, andThen_running hr, hdrain]
        cases hfl : t.flush with
        | error e =>
            have hret : flush t s = s.returns (.error e) := by simp [flush, hfl]
            rw [hret, andThen_returned rfl]
            exact ⟨.inl rfl, (by intro h; cases h)⟩
        | ok u =>
            have hok : flush t s = s := by simp [flush, hfl]
            rw [hok, andThen_running hr, onClosed]
            split
            · split
              · dsimp only
                split
                · exact ⟨.inr ⟨_, rfl, rfl⟩, (by intro h; cases h)⟩
                · exact ⟨.inr ⟨_, rfl, rfl⟩, fun _ => ⟨hc, rfl, rfl, hever.trans hc⟩⟩
              · exact ⟨.inl rfl, (by intro h; cases h)⟩
            · exact ⟨.inl rfl, fun _ => ⟨hc, hc, hp, hever.trans hc⟩⟩

/-- The variables of the validation once the request is out. -/
def begun (s : Loop) (t : Turn) : Readiness :=
  if s.h3Conn then s.ready else s.ready.begin t.requestAt s.validationTimeout

/-- The loop once the request is out on a stream. -/
def opened (s : Loop) (t : Turn) (sid : ℕ) : Loop :=
  { s with establishedEver := true, reqStream := some sid, h3Conn := true, ready := begun s t }

/-- After its request stage, a turn that polls a stream has that stream open. -/
lemma sendRequest_eq {sid : ℕ} (h : Asked s) (hr : s.result = none) (hp : polls s t = some sid) :
    s.ready.expired t.now = false ∧ sendRequest t s = opened s t sid := by
  obtain ⟨hever, hsid⟩ := h.live hr
  rw [polls] at hp
  split at hp
  · cases hp
  · rename_i hexp
    refine ⟨Bool.eq_false_iff.mpr hexp, ?_⟩
    split at hp
    · rename_i hopen
      simp only [Bool.and_eq_true, Bool.not_eq_true'] at hopen
      obtain ⟨hest, hc⟩ := hopen
      cases hreq : t.request with
      | error e => simp [hreq, Except.toOption] at hp
      | ok sid' =>
          rw [hreq, Except.toOption, Option.some.injEq] at hp
          simp [sendRequest, hest, hreq, opened, begun, hc, hp]
    · rename_i hopen
      have hc : s.h3Conn = true := by rw [← hsid, hp]; rfl
      have hsend : sendRequest t s = s := by simp [sendRequest, hc]
      rw [hsend]
      cases s
      simp_all [opened, begun]

/-- The poll of an open stream: what it hears, and whether it fails. -/
lemma pollH3_opened {sid : ℕ} (hr : s.result = none) (hp : polls s t = some sid) :
    ∃ (os : List Obs) (u : Loop), (∀ o ∈ os, o.Plain)
      ∧ (∀ o, o.ofStream = true → (o ∈ os ↔ o ∈ news s t))
      ∧ u.result = none ∧ u.h3Conn = true ∧ u.reqStream = some sid ∧ u.establishedEver = true
      ∧ u.ready = (begun s t).observeAll os
      ∧ pollH3 t (opened s t sid) = match t.h3Error with
        | some e => u.returns (.error (.h3 e))
        | none => u := by
  obtain ⟨p, os, heq, hos, hmem⟩ := events_frame sid (opened s t sid) t.events
  refine ⟨os, { opened s t sid with capsules := p, ready := (begun s t).observeAll os }, hos,
    ?_, hr, rfl, rfl, rfl, rfl, ?_⟩
  · intro o ho
    rw [hmem o (by rintro a rfl; cases ho)]
    simp [news, hp, List.mem_flatMap]
  · have hpoll : pollH3 t (opened s t sid) = match t.h3Error with
        | some e => (t.events.foldl (onH3Event sid) (opened s t sid)).returns (.error (.h3 e))
        | none => t.events.foldl (onH3Event sid) (opened s t sid) := rfl
    rw [heq] at hpoll
    exact hpoll

/-- A turn that polls a stream: what it hears of it, the readiness at its end, and how it
ends. -/
lemma step_polled {sid : ℕ} (h : Asked s) (hs : step s t = some s') (hp : polls s t = some sid) :
    (s'.h3Conn = true ∧ s'.reqStream = some sid ∧ s'.establishedEver = true)
      ∧ ∃ os : List Obs, (∀ o ∈ os, o.Plain)
        ∧ (∀ o, o.ofStream = true → (o ∈ os ↔ o ∈ news s t))
        ∧ ((∃ e, t.h3Error = some e) ∧ s'.ready = (begun s t).observeAll os
            ∧ (∃ e, s'.result = some (.error e))
          ∨ t.h3Error = none
            ∧ s'.ready = ((begun s t).observeAll os).count (gotData t (polls s t))
            ∧ s'.result = match t.flush with
              | .error e => some (.error e)
              | .ok () => if t.closed then some (.ok ()) else none) := by
  obtain ⟨hr, rfl⟩ := step_spec hs
  obtain ⟨hexp, hsend⟩ := sendRequest_eq h hr hp
  have hro : (opened s t sid).result = none := hr
  obtain ⟨os, u, hos, hnews, hru, hcu, hsu, heu, hready, hpoll⟩ := pollH3_opened hr hp
  rw [iterate, checkDeadline_eq hexp, andThen_running hr, hsend, andThen_running hro, hpoll]
  cases herr : t.h3Error with
  | some e =>
      dsimp only
      rw [andThen_returned rfl]
      exact ⟨⟨hcu, hsu, heu⟩, os, hos, hnews, .inl ⟨⟨e, rfl⟩, hready, _, rfl⟩⟩
  | none =>
      dsimp only
      rw [andThen_running hru, hp]
      have hcount : (drain t u).ready
          = ((begun s t).observeAll os).count (gotData t (some sid)) := by
        rw [drain, hready, hsu]
      cases hfl : t.flush with
      | error e =>
          have hflush : flush t (drain t u) = (drain t u).returns (.error e) := by simp [flush, hfl]
          rw [hflush, andThen_returned rfl]
          exact ⟨⟨hcu, hsu, heu⟩, os, hos, hnews, .inr ⟨rfl, hcount, rfl⟩⟩
      | ok v =>
          have hflush : flush t (drain t u) = drain t u := by simp [flush, hfl]
          have hrd : (drain t u).result = none := hru
          rw [hflush, andThen_running hrd]
          -- an established connection is not retried
          have hever : (drain t u).establishedEver = true := heu
          cases hcl : t.closed with
          | true =>
              have hret : onClosed t (drain t u) = (drain t u).returns (.ok ()) := by
                simp [onClosed, hcl, hever]
              rw [hret]
              exact ⟨⟨hcu, hsu, heu⟩, os, hos, hnews, .inr ⟨rfl, hcount, rfl⟩⟩
          | false =>
              have hstay : onClosed t (drain t u) = drain t u := by simp [onClosed, hcl]
              rw [hstay]
              exact ⟨⟨hcu, hsu, heu⟩, os, hos, hnews, .inr ⟨rfl, hcount, hru⟩⟩

/-! ### What a turn does to the outcome -/

lemma unsent_begin {r : Readiness} (h : r.readyTx = true → r.readyFired = false) (now timeout : ℕ) :
    (r.begin now timeout).readyTx = true → (r.begin now timeout).readyFired = false := by
  rw [Readiness.begin]
  split
  · exact h
  · split
    · intro htx; cases htx
    · exact h

lemma unsent_count {r : Readiness} (h : r.readyTx = true → r.readyFired = false) (gotData : Bool) :
    (r.count gotData).readyTx = true → (r.count gotData).readyFired = false := by
  rw [Readiness.count]
  split
  · rw [Readiness.confirm]
    split
    · split
      · intro htx; cases htx
      · exact h
    · exact h
  · exact h

lemma unsent_begun (h : Asked s) :
    (begun s t).readyTx = true → (begun s t).readyFired = false := by
  rw [begun]
  split
  · exact h.unsent
  · exact unsent_begin h.unsent _ _

lemma step_asked (h : Asked s) (hs : step s t = some s') : Asked s' := by
  cases hp : polls s t with
  | none =>
      obtain ⟨hready, hnone⟩ := step_unpolled h hs hp
      have hr : s.result = none := (step_spec hs).1
      refine ⟨?_, ?_, ?_⟩
      · intro hr'
        obtain ⟨-, hc, hsid, hever⟩ := hnone hr'
        rw [hc, hsid, hever]
        exact ⟨rfl, rfl⟩
      · intro hr' _
        have hlog := h.silent hr (hnone hr').1
        rcases hready with heq | ⟨o, heq, ho⟩
        · rw [heq, hlog]
        · cases o with
          | reconnect => rw [heq]; exact hlog
          | _ => cases ho
      · rcases hready with heq | ⟨o, heq, -⟩ <;> rw [heq] <;> exact h.unsent
  | some sid =>
      obtain ⟨⟨hc, hsid, hever⟩, os, -, -, hend⟩ := step_polled h hs hp
      refine ⟨fun _ => ?_, fun _ hc' => absurd (hc.symm.trans hc') (by simp), ?_⟩
      · rw [hc, hsid, hever]
        exact ⟨rfl, rfl⟩
      · have hobs : ((begun s t).observeAll os).readyTx = true →
            ((begun s t).observeAll os).readyFired = false := by
          rw [Readiness.observeAll_frame]
          exact unsent_begun h
        rcases hend with ⟨-, hready, -⟩ | ⟨-, hready, -⟩
        · rw [hready]
          exact hobs
        · rw [hready]
          exact unsent_count hobs _

end Quic

end Aether.Tunnel
