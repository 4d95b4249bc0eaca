import Aether.Lib.Machine
import Aether.Tunnel.H2

/-!
The deadlines of `masque_h2::run` and the ticks that watch them.

A deadline is compared with the clock at the head of the loop only, so it takes a branch of the
`select` to come back to it. The probe interval ticks while the tunnel is validated. The
keepalive interval does not tick while a pong is awaited, which is when the deadline of the
pong is armed.

* `Pinged`: an armed pong deadline belongs to a ping of a ready tunnel.
* `deadlines_watched_iff`: which waiting states have a tick.
-/

namespace Aether.Tunnel.H2

variable {s s' : Loop} {e : Ev}

/-- The loop passes its two checks at these readings of the clock, and waits in its `select`. -/
structure Waits (s : Loop) (now pongNow : ℕ) : Prop where
  running : s.result = none
  connected : s.connected = true
  validating : s.ready.expired now = false
  answered : s.pongDeadline.any (· ≤ pongNow) = false

/-- A deadline that the head of the loop compares with the clock. -/
def Armed (s : Loop) : Prop :=
  s.pongDeadline.isSome
    ∨ (s.ready.validateDeadline.isSome ∧ s.ready.dataCheck = true ∧ s.ready.readyFired = false)

/-- The branches that come back by themselves. -/
def Branch.tick : Branch → Bool
  | keepalive .. | probe => true
  | _ => false

/-- An armed deadline has an enabled tick. -/
def Watched (s : Loop) : Prop := Armed s → ∃ b : Branch, b.tick ∧ enabled s b

/-- The event sends a keepalive ping. -/
def Ev.Pings : Ev → Prop
  | .turn ⟨_, _, .keepalive sent _⟩ => sent = true
  | _ => False

/-- The deadline of a pong is armed by a ping, and pings are sent by a ready tunnel. -/
def Pinged (s : Loop) : Prop :=
  s.pongDeadline.isSome → s.awaitingPong = true ∧ s.ready.readyFired = true

lemma start_pinged (dataCheck readyTx : Bool) (timeout keepalive : ℕ) :
    Pinged (.start dataCheck readyTx timeout keepalive) := by
  intro hsome
  cases hsome

lemma Pinged.count (h : Pinged s) (p : Masque.CapsuleParser) (os : List Obs) (gotData : Bool) :
    Pinged { s with capsules := p, ready := (s.ready.observeAll os).count gotData } := by
  intro hsome
  obtain ⟨hawait, hfired⟩ := h hsome
  refine ⟨hawait, ?_⟩
  by_contra hf
  have hold := (((s.ready.observeAll os).count_frame gotData).2 (Bool.eq_false_iff.mpr hf)).1
  rw [Readiness.observeAll_frame] at hold
  exact absurd hfired (Bool.eq_false_iff.mp hold)

/-- The branches keep it; a ping is only sent by a ready tunnel. -/
lemma select_pinged {t : Turn} (h : Pinged s) (he : enabled s t.branch = true) :
    Pinged (select t s) := by
  rw [select]
  split
  · rename_i sent now heq
    rw [heq] at he
    simp only [enabled, Bool.and_eq_true] at he
    split
    · exact fun _ => ⟨rfl, he.1⟩
    · exact h
  · intro hsome
    cases hsome
  · exact h
  · exact h
  · exact h
  · exact h
  · exact h
  · exact h
  · exact h
  · exact h
  · exact h.count _ _ _
  · exact h
  · exact h

/-- The start of the validation, or the readiness that needs none. -/
lemma Pinged.begin (h : Pinged s) (now : ℕ) : Pinged
    { s with connected := true, ready := s.ready.begin now s.validationTimeout } := by
  intro hsome
  obtain ⟨hawait, hfired⟩ := h hsome
  refine ⟨hawait, ?_⟩
  show (s.ready.begin now s.validationTimeout).readyFired = true
  rw [Readiness.begin]
  split
  · exact hfired
  · split
    · rfl
    · exact hfired

/-- The response sends no ping, and what it makes ready stays so. -/
lemma onResponse_pinged (h : Pinged s) (status : Except String ℕ) (now : ℕ) :
    Pinged (onResponse s status now) := by
  cases status with
  | error err => exact h
  | ok code =>
      have hobs : Pinged (s.observe (.status code)) := h
      simp only [onResponse]
      split
      · exact hobs
      · exact hobs.begin now

lemma step_pinged (h : Pinged s) (hs : step s e = some s') : Pinged s' := by
  obtain ⟨-, ⟨err, rfl⟩ | ⟨status, now, -, rfl⟩ | ⟨t, -, -, he, rfl⟩⟩ := step_cases hs
  · exact h
  · exact onResponse_pinged h status now
  · exact select_pinged h he

/-- Without a ping no deadline is armed for its pong. -/
lemma step_unpinged (h : s.pongDeadline = none) (he : ¬ e.Pings) (hs : step s e = some s') :
    s'.pongDeadline = none := by
  obtain ⟨-, ⟨err, rfl⟩ | ⟨status, now, -, rfl⟩ | ⟨t, rfl, -, -, rfl⟩⟩ := step_cases hs
  · exact h
  · cases status with
    | error err => exact h
    | ok code =>
        simp only [onResponse]
        split <;> exact h
  · rw [select]
    split
    · rename_i sent now heq
      split
      · rename_i hsent
        obtain ⟨_, _, b⟩ := t
        subst heq
        exact absurd hsent he
      · exact h
    · rfl
    all_goals exact h

/-- As long as the tunnel is validated, its probes tick. -/
lemma watched_of_unpinged (h : s.pongDeadline = none) : Watched s := by
  rintro (hsome | ⟨-, hdc, hf⟩)
  · rw [h] at hsome
    cases hsome
  · exact ⟨.probe, rfl, by simp [enabled, hdc, hf]⟩

/-- **Which armed deadlines are watched.** In every state of every run in which the loop waits,
the deadlines have a tick exactly if no pong is awaited; in particular they always have one in a
run that sends no keepalive ping. -/
theorem deadlines_watched_iff {dataCheck readyTx : Bool} {timeout keepalive : ℕ} {es : List Ev}
    (h : Machine.run step (.start dataCheck readyTx timeout keepalive) es = some s) :
    (∀ now pongNow, Waits s now pongNow → (Watched s ↔ s.pongDeadline = none))
      ∧ (Machine.Meets step (fun _ e => ¬ e.Pings)
          (.start dataCheck readyTx timeout keepalive) es → Watched s) := by
  have hpinged : Pinged s :=
    Machine.run_invariant (fun _ _ _ hi hs => step_pinged hi hs)
      (start_pinged dataCheck readyTx timeout keepalive) h
  constructor
  · intro now pongNow _
    refine ⟨?_, watched_of_unpinged⟩
    intro hwatched
    by_contra hsome
    have harmed : s.pongDeadline.isSome := Option.isSome_iff_ne_none.mpr hsome
    obtain ⟨hawait, hfired⟩ := hpinged harmed
    obtain ⟨b, htick, hen⟩ := hwatched (.inl harmed)
    cases b with
    | keepalive sent at_ => simp [enabled, hawait] at hen
    | probe => simp [enabled, hfired] at hen
    | pong | ctrl | outbound | data => cases htick
  · intro hmeets
    exact watched_of_unpinged (Machine.run_invariant_of_meets (I := fun s => s.pongDeadline = none)
      (fun _ _ _ hi he hs => step_unpinged hi he hs) rfl hmeets h)

/-- A tunnel that is being validated is watched by its probes. -/
theorem deadlines_watched_sample : ∃ s, Machine.run step (.start true true 10 5)
      [.response (.ok 200) 0] = some s ∧ Waits s 0 0 ∧ Armed s ∧ Watched s := by
  obtain ⟨s, hs, hw, ha, hp⟩ : ∃ s, Machine.run step (.start true true 10 5)
      [.response (.ok 200) 0] = some s ∧ Waits s 0 0 ∧ Armed s ∧ s.pongDeadline = none :=
    ⟨_, rfl, ⟨rfl, rfl, rfl, rfl⟩, .inr ⟨rfl, rfl, rfl⟩, rfl⟩
  exact ⟨s, hs, hw, ha, ((deadlines_watched_iff hs).1 0 0 hw).mpr hp⟩

/-- A ready tunnel that has sent a ping waits with the deadline of the pong armed, and no tick
is enabled. -/
theorem pong_unwatched : ∃ s, Machine.run step (.start false true 10 5)
      [.response (.ok 200) 0, .turn ⟨0, 0, .keepalive true 0⟩] = some s
    ∧ Waits s 0 0 ∧ s.pongDeadline = some 5 ∧ ∀ b : Branch, b.tick → enabled s b = false := by
  refine ⟨_, rfl, ⟨rfl, rfl, rfl, rfl⟩, rfl, ?_⟩
  intro b htick
  cases b with
  | keepalive | probe => rfl
  | pong | ctrl | outbound | data => cases htick

end Aether.Tunnel.H2
