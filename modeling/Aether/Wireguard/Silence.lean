import Aether.Wireguard.Tunnel

/-!
Whether a tunnel that is over is silent.

Nothing in `run` stops its tasks: when its `select` finds one ended, or its future is
dropped, the others go on. So a tunnel is silent from then on exactly if no task is left
that could send.

* `Finished`: nobody is left; a tunnel that is over and finished sends nothing more
  (`run_finished`), whatever boringtun does.
* `speaks_of_not_finished`: if someone is left, there is a way to go on that sends
  something, as far as boringtun is free to answer.
* `silent_iff`: both, over the runs of a tunnel.
* `Tunnels.only_current_sends`: the same for the tunnels of the reconnect loop, one after
  another under one key.
-/

namespace Aether.Wireguard

open Machine (run run_cons_eq_some)

variable {T ω : Type} {tunn : Tunn T ω} {cfg : WgConfig} {s s' t : WgTunnel T} {e : Ev ω}

namespace WgTunnel

/-- `run` has returned or been aborted. -/
def Over (s : WgTunnel T) : Prop := s.phase = .returned ∨ s.phase = .aborted

/-- The datagrams sent on the socket, newest first, with the task that sent each or spawned the
helper that did. -/
def wire (s : WgTunnel T) : List (Task × Bytes) :=
  s.log.filterMap fun
    | .sent t pkt => some (t, pkt)
    | _ => none

/-- Nobody is left who could send: the tasks have ended, but for a send task that waits on a
closed and empty channel, and no helper has anything to send. -/
structure Finished (s : WgTunnel T) : Prop where
  recv : s.recv = .gone
  send : s.send = .gone ∨ s.send = .recv ∧ s.outbound = [] ∧ s.outboundOpen = false
  timer : s.timer = .gone
  helpers : ∀ h ∈ s.helpers, h.2 = []

end WgTunnel

open WgTunnel

/-! ### Nobody is left -/

/-- A finished tunnel that is over stays so and sends nothing. -/
lemma step_finished (hf : s.Finished) (ho : s.Over) (hs : step tunn cfg s e = some s') :
    s'.Finished ∧ s'.Over ∧ s'.wire = s.wire := by
  obtain ⟨hrecv, hsend, htimer, hhelpers⟩ := hf
  have hphase : s.phase ≠ .idle ∧ s.phase ≠ .running := by
    rcases ho with h | h <;> rw [h] <;> exact ⟨(by simp), (by simp)⟩
  cases e with
  | run => simp [step, hphase.1] at hs
  | queue p =>
      simp only [step, Option.ite_none_right_eq_some, Option.some.injEq] at hs
      obtain ⟨hopen, rfl⟩ := hs
      have hgone := hsend.resolve_right fun h => by simp [hopen] at h
      exact ⟨⟨hrecv, .inl hgone, htimer, hhelpers⟩, ho, rfl⟩
  | hangup =>
      simp only [step, Option.ite_none_right_eq_some, Option.some.injEq] at hs
      obtain ⟨hopen, rfl⟩ := hs
      have hgone := hsend.resolve_right fun h => by simp [hopen] at h
      exact ⟨⟨hrecv, .inl hgone, htimer, hhelpers⟩, ho, rfl⟩
  | recv e => cases e <;> simp [step, recvStep, hrecv] at hs
  | send e =>
      rcases hsend with hgone | ⟨hwait, hempty, hclosed⟩
      · cases e <;> simp [step, sendStep, hgone] at hs
      · cases e with
        | packet =>
            simp only [step, sendStep, hwait, hempty, hclosed, Bool.false_eq_true, if_false,
              Option.some.injEq] at hs
            subst hs
            exact ⟨⟨hrecv, .inl rfl, htimer, hhelpers⟩, ho, rfl⟩
        | _ => simp [step, sendStep, hwait] at hs
  | timer e => cases e <;> simp [step, timerStep, htimer] at hs
  | helper i ok =>
      simp only [step] at hs
      split at hs
      · rename_i task d junk hi
        have hnil := hhelpers _ (List.mem_of_getElem? hi)
        cases hnil
      · cases hs
  | panics task =>
      cases task with
      | recv => simp [step, hrecv] at hs
      | send =>
          simp only [step, Option.ite_none_right_eq_some, Option.some.injEq] at hs
          obtain ⟨_, rfl⟩ := hs
          exact ⟨⟨hrecv, .inl rfl, htimer, hhelpers⟩, ho, rfl⟩
      | timer => simp [step, htimer] at hs
  | returns => simp [step, hphase.2] at hs
  | aborts => simp [step, hphase.1, hphase.2] at hs

theorem run_finished {es : List (Ev ω)} (hf : s.Finished) (ho : s.Over)
    (h : run (step tunn cfg) s es = some s') : s'.wire = s.wire := by
  have hend : s'.Finished ∧ s'.Over ∧ s'.wire = s.wire :=
    Machine.run_invariant (I := fun u => u.Finished ∧ u.Over ∧ u.wire = s.wire)
      (fun _ _ _ hu hs => by
        obtain ⟨h₁, h₂, h₃⟩ := step_finished hu.1 hu.2.1 hs
        exact ⟨h₁, h₂, h₃.trans hu.2.2⟩)
      ⟨hf, ho, rfl⟩ h
  exact hend.2.2

/-! ### Someone is left -/

/-- boringtun with its answers left open. -/
def freeTunn : Tunn Unit TunnResult where
  encapsulate w t _ := (w, t)
  decapsulate w t _ := (w, t)
  updateTimers w t := (w, t)

/-- The tunnel can go on so that something is sent. -/
def Speaks (tunn : Tunn T ω) (cfg : WgConfig) (s : WgTunnel T) : Prop :=
  ∃ es s', run (step tunn cfg) s es = some s' ∧ s'.wire ≠ s.wire

/-- It can if it can after a step that sends nothing. -/
lemma Speaks.of_step (hs : step tunn cfg s e = some t) (hw : t.wire = s.wire)
    (ht : Speaks tunn cfg t) : Speaks tunn cfg s := by
  obtain ⟨es, s', hrun, hne⟩ := ht
  exact ⟨e :: es, s', run_cons_eq_some.mpr ⟨t, hs, hrun⟩, hw ▸ hne⟩

/-- It can if it can take a step that sends something. -/
lemma speaks_of_emit {task : Task} {pkt : Bytes} (hs : step tunn cfg s e = some t)
    (hw : t.wire = (task, pkt) :: s.wire) : Speaks tunn cfg s := by
  refine ⟨[e], t, run_cons_eq_some.mpr ⟨t, hs, rfl⟩, ?_⟩
  intro heq
  have hlen := congrArg List.length (hw.symm.trans heq)
  simp at hlen

section Free

variable {s : WgTunnel Unit}

/-- The recv task answers a datagram. -/
lemma recv_speaks (h : s.recv ≠ .gone) : Speaks freeTunn cfg s := by
  have hsend {u : WgTunnel Unit} {pkt} (hpc : u.recv = .send pkt) : Speaks freeTunn cfg u := by
    have hs : step freeTunn cfg u (.recv (.sent true)) = some (u.emit .recv pkt true).next := by
      simp only [step, recvStep, hpc]
    exact speaks_of_emit hs rfl
  have hlock {u : WgTunnel Unit} {d} (hpc : u.recv = .lock d) : Speaks freeTunn cfg u := by
    have hs : step freeTunn cfg u (.recv (.locked (.writeToNetwork [])))
        = some { u with recv := .send (injectClientId [] cfg.clientId) } := by
      simp only [step, recvStep, hpc, freeTunn]
    exact .of_step hs rfl (hsend rfl)
  have hrecv {u : WgTunnel Unit} (hpc : u.recv = .recv) : Speaks freeTunn cfg u := by
    have hs : step freeTunn cfg u (.recv (.datagram (.ok [])))
        = some { u with recv := .lock (stripClientId []) } := by
      simp only [step, recvStep, hpc]
    exact .of_step hs rfl (hlock rfl)
  cases hpc : s.recv with
  | recv => exact hrecv hpc
  | lock d => exact hlock hpc
  | send pkt => exact hsend hpc
  | deliver pkt =>
      have hs : step freeTunn cfg s (.recv (.delivered false)) = some s.next := by
        simp [step, recvStep, hpc]
      exact .of_step hs rfl (hrecv rfl)
  | gone => exact absurd hpc h

/-- A helper sends what it has left. -/
lemma helper_speaks {i : ℕ} {task : Task} {d : Bytes} {junk : List Bytes}
    (h : s.helpers[i]? = some (task, d :: junk)) : Speaks freeTunn cfg s := by
  have hs : step freeTunn cfg s (.helper i true)
      = some { s.emit task d true with helpers := s.helpers.set i (task, junk) } := by
    simp only [step, h]
  exact speaks_of_emit hs rfl

/-- The timer task sends a keepalive, itself or through a helper. -/
lemma timer_speaks (h : s.timer ≠ .gone) : Speaks freeTunn cfg s := by
  have hsend {u : WgTunnel Unit} {pkt} (hpc : u.timer = .send pkt) : Speaks freeTunn cfg u := by
    have hs : step freeTunn cfg u (.timer (.sent true))
        = some { u.emit .timer pkt true with timer := .tick } := by
      simp only [step, timerStep, hpc]
    exact speaks_of_emit hs rfl
  have hlock {u : WgTunnel Unit} (hpc : u.timer = .lock) : Speaks freeTunn cfg u := by
    cases hen : cfg.aethernoize.isEnabled with
    | true =>
        let junk : List Bytes := List.replicate (max cfg.aethernoize.jcBeforeHs 1) []
        have hcount : keepaliveJunk cfg.aethernoize junk.length := by
          simp only [keepaliveJunk, junk, List.length_replicate]
          omega
        have hs : step freeTunn cfg u (.timer (.locked (.writeToNetwork []) junk))
            = some { u with
              timer := .tick
              helpers := u.helpers ++ [(.timer, junk ++ [injectClientId [] cfg.clientId])] } := by
          simp only [step, timerStep, hpc, freeTunn, hen, hcount, if_true]
        refine .of_step hs rfl ?_
        -- the helper's list is not empty, whatever the junk
        cases hl : junk ++ [injectClientId [] cfg.clientId] with
        | nil => simp at hl
        | cons d rest =>
            have hi : (u.helpers ++ [(Task.timer, d :: rest)])[u.helpers.length]?
                = some (.timer, d :: rest) := by simp
            exact helper_speaks hi
    | false =>
        have hs : step freeTunn cfg u (.timer (.locked (.writeToNetwork []) []))
            = some { u with timer := .send (injectClientId [] cfg.clientId) } := by
          simp [step, timerStep, hpc, freeTunn, hen]
        exact .of_step hs rfl (hsend rfl)
  cases hpc : s.timer with
  | tick =>
      have hs : step freeTunn cfg s (.timer .tick) = some { s with timer := .lock } := by
        simp only [step, timerStep, hpc]
      exact .of_step hs rfl (hlock rfl)
  | lock => exact hlock hpc
  | send pkt => exact hsend hpc
  | gone => exact absurd hpc h

/-- The send task sends its packet, or one it can still get. -/
lemma send_speaks (h : s.send ≠ .gone)
    (hstarved : ¬ (s.send = .recv ∧ s.outbound = [] ∧ s.outboundOpen = false)) :
    Speaks freeTunn cfg s := by
  have hsend {u : WgTunnel Unit} {pkt} (hpc : u.send = .send pkt) : Speaks freeTunn cfg u := by
    by_cases hjc : cfg.aethernoize.jcAfterHs > 0
    · have hs : step freeTunn cfg u
          (.send (.sent true (List.replicate cfg.aethernoize.jcAfterHs [])))
          = some { u.emit .send pkt true with
            send := .recv
            helpers := u.helpers ++ [(.send, List.replicate cfg.aethernoize.jcAfterHs [])] } := by
        simp [step, sendStep, hpc, hjc, WgTunnel.emit]
      exact speaks_of_emit hs rfl
    · have hs : step freeTunn cfg u (.send (.sent true []))
          = some { u.emit .send pkt true with send := .recv } := by
        simp only [step, sendStep, hpc, hjc, if_false]
      exact speaks_of_emit hs rfl
  have hobf {u : WgTunnel Unit} {pkt} (hpc : u.send = .obfuscate pkt) : Speaks freeTunn cfg u := by
    cases hon : !u.obfSent && cfg.aethernoize.isEnabled with
    | true =>
        have hs : step freeTunn cfg u (.send (.obfuscate [[]]))
            = some { u with obfSent := true, send := .cover [[]] pkt } := by
          simp only [step, sendStep, hpc, hon, if_true]
        have hs' : step freeTunn cfg { u with obfSent := true, send := .cover [[]] pkt }
            (.send (.covered true))
            = some { { u with obfSent := true, send := .cover [[]] pkt }.emit .send [] true with
              send := .cover [] pkt } := rfl
        exact .of_step hs rfl (speaks_of_emit hs' rfl)
    | false =>
        have hs : step freeTunn cfg u (.send (.obfuscate []))
            = some { u with send := .send pkt } := by
          simp only [step, sendStep, hpc, hon, Bool.false_eq_true, if_false]
        exact .of_step hs rfl (hsend rfl)
  have hlock {u : WgTunnel Unit} {p} (hpc : u.send = .lock p) : Speaks freeTunn cfg u := by
    have hs : step freeTunn cfg u (.send (.locked (.writeToNetwork [])))
        = some { u with send := .obfuscate (injectClientId [] cfg.clientId) } := by
      simp only [step, sendStep, hpc, freeTunn]
    exact .of_step hs rfl (hobf rfl)
  have htake {u : WgTunnel Unit} {p rest} (hpc : u.send = .recv) (hout : u.outbound = p :: rest) :
      Speaks freeTunn cfg u := by
    have hs : step freeTunn cfg u (.send .packet)
        = some { u with outbound := rest, send := .lock p } := by
      simp only [step, sendStep, hpc, hout]
    exact .of_step hs rfl (hlock rfl)
  cases hpc : s.send with
  | recv =>
      cases hout : s.outbound with
      | cons p rest => exact htake hpc hout
      | nil =>
          have hopen : s.outboundOpen = true := by
            by_contra hclosed
            exact hstarved ⟨hpc, hout, Bool.eq_false_iff.mpr hclosed⟩
          have hs : step freeTunn cfg s (.queue []) = some { s with outbound := [[]] } := by
            simp [step, hopen, hout]
          exact .of_step hs rfl (htake hpc rfl)
  | lock p => exact hlock hpc
  | obfuscate pkt => exact hobf hpc
  | cover junk pkt =>
      cases junk with
      | nil =>
          have hs : step freeTunn cfg s (.send (.covered true))
              = some { s with send := .send pkt } := by
            simp only [step, sendStep, hpc]
          exact .of_step hs rfl (hsend rfl)
      | cons d junk =>
          have hs : step freeTunn cfg s (.send (.covered true))
              = some { s.emit .send d true with send := .cover junk pkt } := by
            simp only [step, sendStep, hpc]
          exact speaks_of_emit hs rfl
  | send pkt => exact hsend hpc
  | gone => exact absurd hpc h

/-- **Whoever is left can send.** -/
lemma speaks_of_not_finished (h : ¬ s.Finished) : Speaks freeTunn cfg s := by
  by_contra hno
  refine h ⟨?_, ?_, ?_, ?_⟩
  · by_contra hrecv
    exact hno (recv_speaks hrecv)
  · by_contra hsend
    obtain ⟨hgone, hstarved⟩ := not_or.mp hsend
    exact hno (send_speaks hgone hstarved)
  · by_contra htimer
    exact hno (timer_speaks htimer)
  · rintro ⟨task, junk⟩ hmem
    cases junk with
    | nil => rfl
    | cons d junk =>
        obtain ⟨i, hi⟩ := List.mem_iff_getElem?.mp hmem
        exact absurd (helper_speaks hi) hno

end Free

/-! ### Runs -/

/-- A step that ends `run` leaves nobody behind. -/
def LastOut (s : WgTunnel T) (e : Ev ω) : Prop :=
  match e with
  | .returns | .aborts => s.Finished
  | _ => True

/-- Once `run` is over, the tunnel is silent however it goes on. -/
def Silent (tunn : Tunn T ω) (cfg : WgConfig) (s : WgTunnel T) : Prop :=
  s.Over → ∀ es s', run (step tunn cfg) s es = some s' → s'.wire = s.wire

lemma silent_of_finished (hf : s.Finished) : Silent tunn cfg s :=
  fun ho _ _ h => run_finished hf ho h

/-- A tunnel that is silent now is silent after every step. -/
lemma Silent.step (h : Silent tunn cfg s) (ho : s.Over) (hs : step tunn cfg s e = some t) :
    Silent tunn cfg t := by
  intro _ es s' hrun
  have hnow : t.wire = s.wire := h ho [e] t (run_cons_eq_some.mpr ⟨t, hs, rfl⟩)
  have hend : s'.wire = s.wire := h ho (e :: es) s' (run_cons_eq_some.mpr ⟨t, hs, hrun⟩)
  exact hend.trans hnow.symm

lemma finished_phase (p : Phase) : ({ s with phase := p } : WgTunnel T).Finished ↔ s.Finished := by
  constructor <;> intro h <;> exact ⟨h.recv, h.send, h.timer, h.helpers⟩

/-- A step that ends `run` leaves the tasks as they are. -/
lemma ending_step (he : e = .returns ∨ e = .aborts) (hs : step tunn cfg s e = some t) :
    t.Over ∧ (t.Finished ↔ s.Finished) := by
  rcases he with rfl | rfl
  · simp only [step, Option.ite_none_right_eq_some, Option.some.injEq] at hs
    obtain ⟨_, rfl⟩ := hs
    exact ⟨.inl rfl, finished_phase _⟩
  · simp only [step, Option.ite_none_right_eq_some, Option.some.injEq] at hs
    obtain ⟨_, rfl⟩ := hs
    exact ⟨.inr rfl, finished_phase _⟩

/-- `run` is over only after such a step. -/
lemma ending_of_over (hs : step tunn cfg s e = some t) (ht : t.Over) (hno : ¬ s.Over) :
    e = .returns ∨ e = .aborts := by
  have hkeep (hphase : t.phase = s.phase) : False := hno (by rwa [WgTunnel.Over, ← hphase])
  cases e with
  | run =>
      simp only [step, Option.ite_none_right_eq_some, Option.some.injEq] at hs
      obtain ⟨_, rfl⟩ := hs
      rcases ht with h | h <;> cases h
  | queue p =>
      simp only [step, Option.ite_none_right_eq_some, Option.some.injEq] at hs
      obtain ⟨_, rfl⟩ := hs
      exact (hkeep rfl).elim
  | hangup =>
      simp only [step, Option.ite_none_right_eq_some, Option.some.injEq] at hs
      obtain ⟨_, rfl⟩ := hs
      exact (hkeep rfl).elim
  | recv e => exact (hkeep (recvStep_phase hs)).elim
  | send e => exact (hkeep (sendStep_frame hs).1).elim
  | timer e => exact (hkeep (timerStep_frame hs).1).elim
  | helper i ok =>
      simp only [step] at hs
      split at hs
      · cases hs
        exact (hkeep (emit_phase ..)).elim
      · cases hs
  | panics task =>
      cases task <;>
        (simp only [step, Option.ite_none_right_eq_some, Option.some.injEq] at hs
         obtain ⟨_, rfl⟩ := hs
         exact (hkeep rfl).elim)
  | returns => exact .inl rfl
  | aborts => exact .inr rfl

/-- A step that is last out leads to a silent tunnel. -/
lemma silent_step (h : Silent tunn cfg s) (hok : LastOut s e) (hs : step tunn cfg s e = some t) :
    Silent tunn cfg t := by
  intro ht
  by_cases ho : s.Over
  · exact h.step ho hs ht
  · have he := ending_of_over hs ht ho
    refine silent_of_finished ((ending_step he hs).2.mpr ?_) ht
    rcases he with rfl | rfl <;> exact hok

/-- With boringtun free to answer, only such a step does. -/
lemma lastOut_of_silent {s t : WgTunnel Unit} {e : Ev TunnResult}
    (hs : step freeTunn cfg s e = some t) (ht : Silent freeTunn cfg t) : LastOut s e := by
  have hleft (he : e = .returns ∨ e = .aborts) : s.Finished := by
    obtain ⟨hover, hiff⟩ := ending_step he hs
    by_contra hno
    have hspeaks : Speaks freeTunn cfg t := speaks_of_not_finished (hiff.not.mpr hno)
    obtain ⟨es, s', hrun, hne⟩ := hspeaks
    exact hne (ht hover es s' hrun)
  cases e with
  | returns => exact hleft (.inl rfl)
  | aborts => exact hleft (.inr rfl)
  | _ => trivial

lemma start_silent (t₀ : T) (obfSent : Bool) : Silent tunn cfg (.start t₀ obfSent) := by
  rintro (h | h) <;> cases h

/-- **When a tunnel that is over is silent.** If every step of a run that ends `run` leaves nobody
behind, then nothing is sent once `run` has returned or been aborted, however the tunnel goes
on and whatever boringtun answers. As far as boringtun is free to answer, only then. -/
theorem silent_iff {cfg : WgConfig} {obfSent : Bool} {es : List (Ev TunnResult)}
    {s : WgTunnel Unit} (h : run (step freeTunn cfg) (.start () obfSent) es = some s) :
    (∀ (T ω : Type) (tunn : Tunn T ω) (t₀ : T) fs,
        Machine.Meets (step tunn cfg) LastOut (.start t₀ obfSent) fs →
        Machine.Always (step tunn cfg) (Silent tunn cfg) (.start t₀ obfSent) fs)
      ∧ (Machine.Meets (step freeTunn cfg) LastOut (.start () obfSent) es
        ↔ Machine.Always (step freeTunn cfg) (Silent freeTunn cfg) (.start () obfSent) es) := by
  refine ⟨?_, ?_⟩
  · intro T ω tunn t₀ fs hok
    exact Machine.always_of_meets (fun _ _ _ hsil he hs => silent_step hsil he hs)
      (start_silent t₀ obfSent) hok
  · exact Machine.meets_iff_always (I := fun _ => True) (fun _ _ _ _ _ => trivial)
      (fun _ _ _ _ hsil hs => ⟨fun hok => silent_step hsil hok hs, lastOut_of_silent hs⟩)
      trivial (start_silent () obfSent) h

/-- A profile without obfuscation. -/
def samplePlain : WgConfig := ⟨[1, 2, 3], .off⟩

/-- Every task ends before `run` returns. -/
def sampleFinished : List (Ev TunnResult) :=
  [.run, .recv (.datagram (.error "refused")), .hangup, .send .packet, .panics .timer, .returns]

/-- The rule at a run that leaves nobody behind. -/
theorem silent_sample :
    ∃ s, run (step freeTunn samplePlain) (.start () false) sampleFinished = some s
      ∧ s.phase = .returned ∧ Silent freeTunn samplePlain s := by
  obtain ⟨s, hs, hphase⟩ : ∃ s, run (step freeTunn samplePlain) (.start () false) sampleFinished
      = some s ∧ s.phase = .returned := ⟨_, rfl, rfl⟩
  have hmeets :
      Machine.Meets (step freeTunn samplePlain) LastOut (.start () false) sampleFinished := by
    refine ⟨trivial, fun _ h₁ => ⟨trivial, fun _ h₂ => ⟨trivial, fun _ h₃ => ⟨trivial, fun _ h₄ =>
      ⟨trivial, fun _ h₅ => ⟨?_, fun _ _ => trivial⟩⟩⟩⟩⟩⟩
    cases h₁
    cases h₂
    cases h₃
    cases h₄
    cases h₅
    exact ⟨rfl, .inl rfl, rfl, by intro _ hu; cases hu⟩
  exact ⟨s, hs, hphase, (silent_iff hs).2.mp hmeets _ s (List.prefix_refl _) hs⟩

/-- **Survivors send**: after the send task has ended and `run` has returned, a keepalive of the
timer task; and after `run` has been aborted, the recv task's answer to a datagram. -/
theorem survivor_sends :
    (∃ s, run (step freeTunn samplePlain) (.start () false) [.run, .hangup, .send .packet, .returns]
        = some s ∧ s.phase = .returned ∧ s.wire = []
      ∧ ∃ s', run (step freeTunn samplePlain) s [.timer .tick,
          .timer (.locked (.writeToNetwork [4, 0, 0, 0]) []), .timer (.sent true)] = some s'
        ∧ s'.wire = [(.timer, [4, 1, 2, 3])])
    ∧ ∃ s, run (step freeTunn samplePlain) (.start () false) [.run, .aborts] = some s
      ∧ s.phase = .aborted ∧ s.wire = []
      ∧ ∃ s', run (step freeTunn samplePlain) s [.recv (.datagram (.ok [1, 0, 0, 0])),
          .recv (.locked (.writeToNetwork [2, 0, 0, 0])), .recv (.sent true)] = some s'
        ∧ s'.wire = [(.recv, [2, 1, 2, 3])] :=
  ⟨⟨_, rfl, rfl, rfl, _, rfl, rfl⟩, _, rfl, rfl, rfl, _, rfl, rfl⟩

/-! ### One tunnel after another -/

/-- The tunnels of the reconnect loop under one key, each with its configuration. -/
structure Tunnels (T : Type) where
  earlier : List (WgConfig × WgTunnel T)
  cfg : WgConfig
  current : WgTunnel T

inductive TunnelsEv (T ω : Type) where
  | current (e : Ev ω)
  | earlier (i : ℕ) (e : Ev ω)
  /-- The next tunnel, once the future of the current one is over. -/
  | reconnect (cfg : WgConfig) (t₀ : T) (obfSent : Bool)

namespace Tunnels

def step (tunn : Tunn T ω) (s : Tunnels T) : TunnelsEv T ω → Option (Tunnels T)
  | .current e => (Wireguard.step tunn s.cfg s.current e).map fun u => { s with current := u }
  | .earlier i e =>
      s.earlier[i]?.bind fun c =>
        (Wireguard.step tunn c.1 c.2 e).map fun u => { s with earlier := s.earlier.set i (c.1, u) }
  | .reconnect cfg t₀ obfSent =>
      if s.current.phase = .returned ∨ s.current.phase = .aborted then
        some ⟨(s.cfg, s.current) :: s.earlier, cfg, .start t₀ obfSent⟩
      else none

/-- A step of the current tunnel that ends it leaves nobody behind. -/
def LastOut (s : Tunnels T) : TunnelsEv T ω → Prop
  | .current e => Wireguard.LastOut s.current e
  | _ => True

/-- Whoever is over is finished, and every earlier tunnel is over. -/
structure Quiet (s : Tunnels T) : Prop where
  earlier : ∀ c ∈ s.earlier, c.2.Finished ∧ c.2.Over
  current : s.current.Over → s.current.Finished

lemma step_quiet {s t : Tunnels T} {e : TunnelsEv T ω} (h : s.Quiet) (hok : s.LastOut e)
    (hs : step tunn s e = some t) : t.Quiet := by
  cases e with
  | current e =>
      obtain ⟨u, hu, rfl⟩ := Option.map_eq_some_iff.mp hs
      refine ⟨h.earlier, ?_⟩
      intro hover
      by_cases ho : s.current.Over
      · exact (step_finished (h.current ho) ho hu).1
      · have he := ending_of_over hu hover ho
        refine (ending_step he hu).2.mpr ?_
        rcases he with rfl | rfl <;> exact hok
  | earlier i e =>
      obtain ⟨c, hc, hs⟩ := Option.bind_eq_some_iff.mp hs
      obtain ⟨u, hu, rfl⟩ := Option.map_eq_some_iff.mp hs
      refine ⟨?_, h.current⟩
      intro c' hc'
      rcases List.mem_or_eq_of_mem_set hc' with hmem | rfl
      · exact h.earlier c' hmem
      · obtain ⟨hf, ho⟩ := h.earlier c (List.mem_of_getElem? hc)
        obtain ⟨hf', ho', -⟩ := step_finished hf ho hu
        exact ⟨hf', ho'⟩
  | reconnect cfg t₀ obfSent =>
      simp only [step, Option.ite_none_right_eq_some, Option.some.injEq] at hs
      obtain ⟨hover, rfl⟩ := hs
      refine ⟨?_, ?_⟩
      · intro c hc
        rcases List.mem_cons.mp hc with rfl | hc
        · exact ⟨h.current hover, hover⟩
        · exact h.earlier c hc
      · rintro (hphase | hphase) <;> cases hphase

/-- **Only the current tunnel sends**, whatever the tasks of the earlier ones do, in every run in
which each tunnel leaves nobody behind. -/
theorem only_current_sends {cfg : WgConfig} {t₀ : T} {obfSent : Bool} {es : List (TunnelsEv T ω)}
    {s s' : Tunnels T} {i : ℕ} {e : Ev ω}
    (h : run (step tunn) ⟨[], cfg, .start t₀ obfSent⟩ es = some s)
    (hok : Machine.Meets (step tunn) LastOut ⟨[], cfg, .start t₀ obfSent⟩ es)
    (hs : step tunn s (.earlier i e) = some s') :
    s'.current = s.current
      ∧ s'.earlier.map (fun c => c.2.wire) = s.earlier.map fun c => c.2.wire := by
  have hstart : (⟨[], cfg, .start t₀ obfSent⟩ : Tunnels T).Quiet := by
    refine ⟨?_, ?_⟩
    · intro c hc
      exact absurd hc List.not_mem_nil
    · rintro (hphase | hphase) <;> cases hphase
  have hq : s.Quiet :=
    Machine.run_invariant_of_meets (fun _ _ _ hu he hst => step_quiet hu he hst) hstart hok h
  obtain ⟨c, hc, hs⟩ := Option.bind_eq_some_iff.mp hs
  obtain ⟨u, hu, rfl⟩ := Option.map_eq_some_iff.mp hs
  obtain ⟨hf, ho⟩ := hq.earlier c (List.mem_of_getElem? hc)
  have hwire : u.wire = c.2.wire := (step_finished hf ho hu).2.2
  obtain ⟨hi, rfl⟩ := List.getElem?_eq_some_iff.mp hc
  refine ⟨rfl, ?_⟩
  have hlen : i < (s.earlier.map fun c => c.2.wire).length := by rwa [List.length_map]
  have hmap : (s.earlier.map fun c => c.2.wire)[i] = s.earlier[i].2.wire := List.getElem_map ..
  rw [List.map_set, hwire, ← hmap, List.set_getElem_self]

end Tunnels

end Aether.Wireguard
