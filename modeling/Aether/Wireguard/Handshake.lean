import Aether.Wireguard.Tunnel

/-!
What the handshake leaves in boringtun's queue.

Without a session `encapsulate` queues its packet, and only a `decapsulate` of the empty
datagram takes one out again. The recv loop calls `decapsulate` once for each datagram it
receives, so a datagram that leaves a session leaves the queue behind as well.

* `Queueing`: what the tunnel relies on in boringtun.
* `Drained`: no session over a full queue; `Settled` is the invariant with which the recv
  loop finishes every datagram drained.
* `stranded_iff`: which runs finish them so.
-/

namespace Aether.Wireguard

open Machine (run run_cons_eq_some)
open WgTunnel (emit emit_recv emit_tunn emit_handled)

variable {T ω : Type}

/-! ### boringtun's queue -/

/-- The queue of boringtun, as the tunnel meets it: the packets that wait for a session. -/
structure Queueing (tunn : Tunn T ω) (session : T → Bool) (queue : T → List Bytes)
    (response : T → Bytes → Prop) : Prop where
  /-- Without a session the packet is queued. -/
  queues : ∀ w t p, session t = false →
    session (tunn.encapsulate w t p).2 = false ∧ queue (tunn.encapsulate w t p).2 = queue t ++ [p]
  /-- With one it is sent, and only it. -/
  sends : ∀ w t p, session t = true →
    queue (tunn.encapsulate w t p).2 = queue t
      ∧ ∃ pkt, (tunn.encapsulate w t p).1 = .writeToNetwork pkt
  /-- A handshake response establishes a session. -/
  establishes : ∀ w t d, response t d → d ≠ [] ∧ session (tunn.decapsulate w t d).2 = true
    ∧ ∃ pkt, (tunn.decapsulate w t d).1 = .writeToNetwork pkt
  /-- A datagram leaves the queue as it is. -/
  keeps : ∀ w t d, d ≠ [] → queue (tunn.decapsulate w t d).2 = queue t
  /-- With a session, the empty one takes a packet out and sends it. -/
  pops : ∀ w t, session t = true → queue (tunn.decapsulate w t []).2 = (queue t).tail
    ∧ (queue t ≠ [] → ∃ pkt, (tunn.decapsulate w t []).1 = .writeToNetwork pkt)
  /-- Without one, it establishes none. -/
  pops_no : ∀ w t, session t = false → session (tunn.decapsulate w t []).2 = false
  /-- The timers establish no session, and queue nothing while there is one. -/
  timers : ∀ w t, session (tunn.updateTimers w t).2 = true →
    session t = true ∧ queue (tunn.updateTimers w t).2 = queue t

section Runs

variable {tunn : Tunn T ω} {cfg : WgConfig} {session : T → Bool} {queue : T → List Bytes}
  {response : T → Bytes → Prop} {s t : WgTunnel T} {e : Ev ω}

/-- No packet waits in the queue over a session. -/
def Drained (session : T → Bool) (queue : T → List Bytes) (t : T) : Prop :=
  session t = true → queue t = []

lemma Queueing.encapsulate (hq : Queueing tunn session queue response) (w : ω) {t : T} (p : Bytes)
    (h : Drained session queue t) : Drained session queue (tunn.encapsulate w t p).2 := by
  intro hsess
  cases hs : session t with
  | false =>
      have hno := (hq.queues w t p hs).1
      rw [hno] at hsess
      cases hsess
  | true => rw [(hq.sends w t p hs).1, h hs]

lemma Queueing.updateTimers (hq : Queueing tunn session queue response) (w : ω) {t : T}
    (h : Drained session queue t) : Drained session queue (tunn.updateTimers w t).2 := by
  intro hsess
  obtain ⟨hs, hqueue⟩ := hq.timers w t hsess
  rw [hqueue, h hs]

/-- A datagram leaves no packet over a session exactly if few enough wait. -/
lemma Queueing.decapsulate (hq : Queueing tunn session queue response) (w : ω) (t : T) (d : Bytes) :
    Drained session queue (tunn.decapsulate w t d).2
      ↔ (session (tunn.decapsulate w t d).2 = true →
        (queue t).length ≤ if d = [] then 1 else 0) := by
  refine forall_congr' fun hsess => ?_
  by_cases hd : d = []
  · subst hd
    have hs : session t = true := by
      by_contra hno
      rw [hq.pops_no w t (Bool.eq_false_iff.mpr hno)] at hsess
      cases hsess
    rw [(hq.pops w t hs).1, if_pos rfl]
    rcases queue t with _ | ⟨p, _ | ⟨p', rest⟩⟩ <;> simp
  · rw [hq.keeps w t d hd, if_neg hd, Nat.le_zero, List.length_eq_zero_iff]

/-! ### The recv loop -/

/-- A datagram that leaves a session finds the queue empty, but for the packet it takes out
itself. -/
def Clears (tunn : Tunn T ω) (session : T → Bool) (queue : T → List Bytes) (s : WgTunnel T)
    (e : Ev ω) : Prop :=
  ∀ d w, s.recv = .lock d → e = .recv (.locked w) →
    session (tunn.decapsulate w s.tunn d).2 = true → (queue s.tunn).length ≤ if d = [] then 1 else 0

/-- The recv loop finishes the datagram at hand. -/
def Finishing (es : List (Ev ω)) : Prop :=
  ∀ e ∈ es, ∃ ok, e = .recv (.sent ok) ∨ e = .recv (.delivered ok)

/-- The recv loop has left nothing over a session, and does not where it finishes the datagram
at hand. -/
def Settled (session : T → Bool) (queue : T → List Bytes) (s : WgTunnel T) : Prop :=
  (∀ t ∈ s.handled, Drained session queue t)
    ∧ ∀ pkt, s.recv = .send pkt ∨ s.recv = .deliver pkt → Drained session queue s.tunn

lemma clears_of_ne (he : ∀ w, e ≠ .recv (.locked w)) : Clears tunn session queue s e :=
  fun _ w _ heq => absurd heq (he w)

/-- The turn to the next datagram is settled exactly if it leaves nothing over a session. -/
lemma settled_next (h : ∀ t ∈ s.handled, Drained session queue t) :
    Settled session queue s.next ↔ Drained session queue s.tunn := by
  constructor
  · intro hs
    exact hs.1 s.tunn (List.mem_cons_self ..)
  · intro hd
    refine ⟨?_, ?_⟩
    · intro t ht
      rcases List.mem_cons.mp ht with rfl | ht
      · exact hd
      · exact h t ht
    · intro pkt hpc
      rcases hpc with hpc | hpc <;> cases hpc

/-- While the recv loop waits, it has no datagram at hand. -/
lemma settled_waiting (h : Settled session queue s) (hh : t.handled = s.handled)
    (hpc : ∀ pkt, t.recv ≠ .send pkt ∧ t.recv ≠ .deliver pkt) : Settled session queue t := by
  refine ⟨hh ▸ h.1, ?_⟩
  intro pkt hat
  rcases hat with hat | hat
  · exact absurd hat (hpc pkt).1
  · exact absurd hat (hpc pkt).2

/-- With a datagram in the protocol object, the recv loop is settled exactly if the datagram
leaves nothing over a session. -/
lemma locked_settled {d : Bytes} {w : ω} (h : Settled session queue s) (hpc : s.recv = .lock d)
    (hs : recvStep tunn cfg s (.locked w) = some t) :
    Settled session queue t ↔ Drained session queue (tunn.decapsulate w s.tunn d).2 := by
  have hat (pc : RecvPc) (pkt : Bytes) (hpkt : pc = .send pkt ∨ pc = .deliver pkt) :
      Settled session queue { s with tunn := (tunn.decapsulate w s.tunn d).2, recv := pc }
        ↔ Drained session queue (tunn.decapsulate w s.tunn d).2 :=
    ⟨fun hs => hs.2 pkt hpkt, fun hd => ⟨h.1, fun _ _ => hd⟩⟩
  simp only [recvStep, hpc] at hs
  split at hs
  · cases hs
    exact settled_next
      (s := { s with tunn := (tunn.decapsulate w s.tunn d).2, recv := .lock d }) h.1
  · cases hs
    exact settled_next
      (s := { s with tunn := (tunn.decapsulate w s.tunn d).2, recv := .lock d }) h.1
  · cases hs
    exact hat _ _ (.inl rfl)
  · cases hs
    exact hat _ _ (.inr rfl)
  · cases hs
    exact hat _ _ (.inr rfl)

/-- A step of the recv loop: what it finishes is drained if what it decapsulates clears. -/
lemma recvStep_settled {ev : RecvEv ω} (hq : Queueing tunn session queue response)
    (h : Settled session queue s) (hs : recvStep tunn cfg s ev = some t) :
    Clears tunn session queue s (.recv ev) ↔ Settled session queue t := by
  cases ev with
  | datagram r =>
      refine iff_of_true (clears_of_ne (by simp)) ?_
      cases hpc : s.recv with
      | recv =>
          cases r <;> simp only [recvStep, hpc, Option.some.injEq] at hs <;> subst hs <;>
            exact settled_waiting h rfl (by simp)
      | _ => cases r <;> simp [recvStep, hpc] at hs
  | locked w =>
      cases hpc : s.recv with
      | lock d =>
          rw [locked_settled h hpc hs, hq.decapsulate w s.tunn d]
          constructor
          · intro hc
            exact hc d w hpc rfl
          · rintro hd d' w' hpc' he
            cases he
            cases hpc.symm.trans hpc'
            exact hd
      | _ => simp [recvStep, hpc] at hs
  | sent ok =>
      refine iff_of_true (clears_of_ne (by simp)) ?_
      cases hpc : s.recv with
      | send pkt =>
          simp only [recvStep, hpc, Option.some.injEq] at hs
          subst hs
          refine (settled_next ?_).mpr ?_
          · rw [emit_handled]
            exact h.1
          · rw [emit_tunn]
            exact h.2 pkt (.inl hpc)
      | _ => simp [recvStep, hpc] at hs
  | delivered ok =>
      refine iff_of_true (clears_of_ne (by simp)) ?_
      cases hpc : s.recv with
      | deliver pkt =>
          simp only [recvStep, hpc, Option.some.injEq] at hs
          subst hs
          refine (settled_next ?_).mpr ?_
          · split <;> exact h.1
          · split <;> exact h.2 pkt (.inr hpc)
      | _ => simp [recvStep, hpc] at hs

/-- A step that leaves the recv loop alone, and nothing more over a session, is settled. -/
lemma Settled.frame (h : Settled session queue s) (hrecv : t.recv = s.recv)
    (hh : t.handled = s.handled)
    (hd : Drained session queue s.tunn → Drained session queue t.tunn) :
    Settled session queue t := by
  refine ⟨hh ▸ h.1, ?_⟩
  intro pkt hat
  rw [hrecv] at hat
  exact hd (h.2 pkt hat)

/-- **What a step does to the queue**: from a settled tunnel, exactly the steps that clear lead
to a settled one. -/
lemma step_settled (hq : Queueing tunn session queue response) (h : Settled session queue s)
    (hs : step tunn cfg s e = some t) :
    Clears tunn session queue s e ↔ Settled session queue t := by
  cases e with
  | recv ev => exact recvStep_settled hq h hs
  | send ev =>
      refine iff_of_true (clears_of_ne (by simp)) ?_
      obtain ⟨-, hrecv, hh, htunn⟩ := sendStep_frame hs
      refine h.frame hrecv hh fun hd => ?_
      rcases htunn with heq | ⟨w, p, heq⟩ <;> rw [heq]
      · exact hd
      · exact hq.encapsulate w p hd
  | timer ev =>
      refine iff_of_true (clears_of_ne (by simp)) ?_
      obtain ⟨-, hrecv, hh, htunn⟩ := timerStep_frame hs
      refine h.frame hrecv hh fun hd => ?_
      rcases htunn with heq | ⟨w, heq⟩ <;> rw [heq]
      · exact hd
      · exact hq.updateTimers w hd
  | helper i ok =>
      refine iff_of_true (clears_of_ne (by simp)) ?_
      simp only [step] at hs
      split at hs
      · cases hs
        exact h.frame (emit_recv ..) (emit_handled ..) fun hd => by simpa using hd
      · cases hs
  | run =>
      refine iff_of_true (clears_of_ne (by simp)) ?_
      simp only [step, Option.ite_none_right_eq_some, Option.some.injEq] at hs
      obtain ⟨_, rfl⟩ := hs
      exact settled_waiting h rfl fun _ => ⟨(by simp), (by simp)⟩
  | panics task =>
      refine iff_of_true (clears_of_ne (by simp)) ?_
      cases task <;> simp only [step, Option.ite_none_right_eq_some, Option.some.injEq] at hs <;>
        obtain ⟨_, rfl⟩ := hs
      · exact settled_waiting h rfl fun _ => ⟨(by simp), (by simp)⟩
      · exact h.frame rfl rfl id
      · exact h.frame rfl rfl id
  | queue | hangup | returns | aborts =>
      refine iff_of_true (clears_of_ne (by simp)) ?_
      simp only [step, Option.ite_none_right_eq_some, Option.some.injEq] at hs
      obtain ⟨_, rfl⟩ := hs
      exact h.frame rfl rfl id

/-- To finish the datagram at hand is to be settled. -/
lemma settled_iff (hq : Queueing tunn session queue response) :
    Settled session queue s ↔ ∀ es s', Finishing es → run (step tunn cfg) s es = some s' →
      ∀ t ∈ s'.handled, Drained session queue t := by
  constructor
  · intro h es s' hes hrun
    have hok : Machine.Meets (step tunn cfg) (Clears tunn session queue) s es := by
      refine Machine.meets_of_forall fun e he u => clears_of_ne fun w heq => ?_
      obtain ⟨ok, hfin | hfin⟩ := hes e he <;> rw [hfin] at heq <;> cases heq
    have hend : Settled session queue s' :=
      Machine.run_invariant_of_meets (fun _ _ _ hu hc hst => (step_settled hq hu hst).mp hc) h hok
        hrun
    exact hend.1
  · intro h
    refine ⟨h [] s (fun _ he => absurd he List.not_mem_nil) rfl, ?_⟩
    intro pkt hat
    rcases hat with hpc | hpc
    · have hstep : step tunn cfg s (.recv (.sent false)) = some s.next := by
        simp [step, recvStep, hpc, emit]
      refine h [.recv (.sent false)] s.next ?_ (run_cons_eq_some.mpr ⟨_, hstep, rfl⟩) s.tunn
        (List.mem_cons_self ..)
      intro e he
      exact ⟨false, .inl (List.mem_singleton.mp he)⟩
    · have hstep : step tunn cfg s (.recv (.delivered false)) = some s.next := by
        simp [step, recvStep, hpc]
      refine h [.recv (.delivered false)] s.next ?_ (run_cons_eq_some.mpr ⟨_, hstep, rfl⟩) s.tunn
        (List.mem_cons_self ..)
      intro e he
      exact ⟨false, .inr (List.mem_singleton.mp he)⟩

/-- **When no packet is stranded**: in every state that a run reaches, and as the recv loop goes
on from there to finish the datagram at hand, every datagram is finished with no packet queued
over a session, exactly if every datagram of the run that leaves a session finds the queue empty
(the empty datagram: at most one packet in it). -/
theorem stranded_iff (hq : Queueing tunn session queue response) {t₀ : T} {obfSent : Bool}
    {es : List (Ev ω)} (h : run (step tunn cfg) (.start t₀ obfSent) es = some s) :
    Machine.Meets (step tunn cfg) (Clears tunn session queue) (.start t₀ obfSent) es
      ↔ Machine.Always (step tunn cfg) (fun u => ∀ gs u', Finishing gs →
          run (step tunn cfg) u gs = some u' →
          ∀ t ∈ u'.handled, session t = true → queue t = []) (.start t₀ obfSent) es := by
  have hstart : Settled session queue (WgTunnel.start t₀ obfSent) := by
    refine ⟨fun _ ht => absurd ht List.not_mem_nil, ?_⟩
    intro pkt hat
    rcases hat with hat | hat <;> cases hat
  exact Machine.meets_iff_always (I := fun _ => True) (fun _ _ _ _ _ => trivial)
    (fun u e t _ hu hst => (step_settled hq ((settled_iff hq).mpr hu) hst).trans (settled_iff hq))
    trivial ((settled_iff hq).mp hstart) h

end Runs

/-! ### A handshake in which a packet waits -/

/-- A protocol object that has only a session and a queue. -/
def sampleTunn : Tunn (Bool × List Bytes) Unit where
  encapsulate _ t p :=
    if t.1 then (.writeToNetwork ([4, 0, 0, 0] ++ p), t)
    else (if t.2.isEmpty then .writeToNetwork [1, 0, 0, 0] else .done, (false, t.2 ++ [p]))
  decapsulate _ t d :=
    match d with
    | [] => match t with
      | (true, p :: rest) => (.writeToNetwork ([4, 0, 0, 0] ++ p), (true, rest))
      | _ => (.done, t)
    | ty :: _ =>
        if ty = 2 then (.writeToNetwork [4, 0, 0, 0], (true, t.2)) else (.err "InvalidPacket", t)
  updateTimers _ t := (.done, t)

lemma sampleTunn_queueing :
    Queueing sampleTunn Prod.fst Prod.snd fun _ d => d.head? = some 2 where
  queues _ t p hs := by simp [sampleTunn, hs]
  sends _ t p hs := by simp [sampleTunn, hs]
  establishes _ t d hd := by
    cases d with
    | nil => cases hd
    | cons ty d =>
        cases hd
        exact ⟨(by simp), rfl, _, rfl⟩
  keeps _ t d hd := by
    cases d with
    | nil => exact absurd rfl hd
    | cons ty d =>
        simp only [sampleTunn]
        split <;> rfl
  pops _ t hs := by
    obtain ⟨_, queue⟩ := t
    cases hs
    cases queue with
    | nil => exact ⟨rfl, fun h => absurd rfl h⟩
    | cons p rest => exact ⟨rfl, fun _ => ⟨_, rfl⟩⟩
  pops_no _ t hs := by
    obtain ⟨_, queue⟩ := t
    cases hs
    rfl
  timers _ t hs := ⟨hs, rfl⟩

/-- A handshake response and its answer. -/
def sampleHandshake : List (Ev Unit) :=
  [.recv (.datagram (.ok [2, 0, 0, 0])), .recv (.locked ()), .recv (.sent true)]

/-- The rule at a handshake in which nothing waits. -/
theorem stranded_sample :
    ∃ s, run (step sampleTunn ⟨[1, 2, 3], .off⟩) (.start (false, []) false)
        (.run :: sampleHandshake) = some s
      ∧ s.handled = [(true, [])] ∧ ∀ t ∈ s.handled, t.1 = true → t.2 = [] := by
  obtain ⟨s, hs, hh⟩ : ∃ s, run (step sampleTunn ⟨[1, 2, 3], .off⟩) (.start (false, []) false)
      (.run :: sampleHandshake) = some s ∧ s.handled = [(true, [])] := ⟨_, rfl, rfl⟩
  have hclears : Machine.Meets (step sampleTunn ⟨[1, 2, 3], .off⟩)
      (Clears sampleTunn Prod.fst Prod.snd) (.start (false, []) false)
      (.run :: sampleHandshake) := by
    refine ⟨clears_of_ne (by simp), fun _ h₁ => ⟨clears_of_ne (by simp), fun _ h₂ => ⟨?_, fun _ _ =>
      ⟨clears_of_ne (by simp), fun _ _ => trivial⟩⟩⟩⟩
    cases h₁
    cases h₂
    intro d w _ _ _
    exact Nat.zero_le _
  exact ⟨s, hs, hh,
    (stranded_iff sampleTunn_queueing hs).mp hclears _ s (List.prefix_refl _) hs [] s
      (fun _ he => absurd he List.not_mem_nil) rfl⟩

/-- **A packet is stranded**: it is queued while the handshake is in flight, and the recv loop
finishes the response with the session established and the packet still queued. -/
theorem packet_stranded :
    Queueing sampleTunn Prod.fst Prod.snd (fun _ d => d.head? = some 2)
      ∧ ∃ s, run (step sampleTunn ⟨[1, 2, 3], .off⟩) (.start (false, []) false)
          ([.run, .queue [69], .send .packet, .send (.locked ()), .send (.obfuscate []),
            .send (.sent true [])] ++ sampleHandshake) = some s
        ∧ s.handled = [(true, [[69]])] :=
  ⟨sampleTunn_queueing, _, rfl, rfl⟩

end Aether.Wireguard
