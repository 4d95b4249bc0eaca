import Aether.Lib.Machine
import Aether.Tunnel.Readiness

/-!
How `run_masque_tunnel` and `run_wireguard_tunnel` (`main.rs`) look after their two tasks,
the tunnel and `socks::serve`.

The functions differ in how they run the tunnel: the first spawns it, waits until it is
ready and joins it, the second runs it in place. Both spawn the SOCKS server, wait for the
tunnel alone, and then abort the server.

* `Session`: the function, its tunnel and its SOCKS server, after the netstack has been spawned.
* `Session.Unserved`: the tunnel is running and waited for, and the server is gone.
* `served_iff`: a run avoids these states exactly when bind and accept fail only
  after the tunnel has ended.
* `Unserved.step`: until the tunnel ends, nothing repairs such a state.
-/

namespace Aether.Tunnel

/-- The function that keeps the session. -/
inductive Runner where
  | masque
  | wireguard
  deriving DecidableEq

/-- The end of a tunnel: it returns, or panics with a message. -/
inductive Exit where
  | returned (o : Outcome)
  | panicked (e : String)
  deriving DecidableEq

/-- The task of `socks::serve`: at `bind`, at `accept` with the clients it has spawned, returned,
or aborted. -/
inductive Serve where
  | binding
  | accepting (clients : ℕ)
  | returned (o : Outcome)
  | aborted
  deriving DecidableEq

/-- Where the function stands: at `ready_rx.await`, at the join of a tunnel that was never
ready, at the tunnel of a session that has its server, or at its end. -/
inductive Pc where
  | ready
  | joining
  | tunnel
  | returned (o : Outcome)
  | panicked
  deriving DecidableEq

/-- A session. `ready` is the oneshot channel of `ready_tx`: unused, used, or without its
sender; `tunnel` is `none` while the tunnel runs, and `socks` is `none` before the server is
spawned. -/
structure Session where
  runner : Runner
  pc : Pc
  ready : Option Bool
  tunnel : Option Exit
  socks : Option Serve
  abort : Bool
  deriving DecidableEq

/-- How the awaits of `socks::serve` end. -/
inductive Served where
  | bind (r : Except String Unit)
  | accept (r : Except String Unit)
  deriving DecidableEq

namespace Served

def failed : Served → Bool
  | bind (.error _) | accept (.error _) => true
  | bind (.ok ()) | accept (.ok ()) => false

end Served

namespace Serve

/-- `socks::serve`: both awaits are followed by `?`. -/
def next : Serve → Served → Option Serve
  | binding, .bind (.ok ()) => some (accepting 0)
  | binding, .bind (.error e) => some (returned (.error (.io e)))
  | accepting n, .accept (.ok ()) => some (accepting (n + 1))
  | accepting _, .accept (.error e) => some (returned (.error (.io e)))
  | _, _ => none

/-- The abort of the task takes effect. -/
def cancel : Serve → Option Serve
  | binding | accepting _ => some aborted
  | returned _ | aborted => none

/-- The server has returned or been aborted. -/
def gone : Serve → Bool
  | returned _ | aborted => true
  | binding | accepting _ => false

/-- The server ends in its own steps where `bind` or `accept` fails, and only there. -/
lemma next_gone {v w : Serve} {e : Served} (h : v.next e = some w) : w.gone = e.failed := by
  rw [next.eq_def] at h
  split at h <;> cases h <;> rfl

/-- A server that has ended takes no step. -/
lemma next_running {v w : Serve} {e : Served} (h : v.next e = some w) : v.gone = false := by
  cases v with
  | binding | accepting n => rfl
  | returned o | aborted => cases h

lemma cancel_running {v w : Serve} (h : v.cancel = some w) : v.gone = false := by
  cases v with
  | binding | accepting n => rfl
  | returned o | aborted => cases h

end Serve

/-- The tunnel signals or ends, the function is polled, the server goes on, and its abort takes
effect. -/
inductive Session.Event where
  | signal
  | exit (x : Exit)
  | poll
  | serve (e : Served)
  | cancel
  deriving DecidableEq

namespace Exit

/-- What `run_masque_tunnel` returns for a tunnel that ended before it was ready. -/
def beforeValidation : Exit → AetherError
  | returned (.ok ()) => .other "tunnel exited before validation"
  | returned (.error e) => .other s!"tunnel failed before validation: {e.display}"
  | panicked e => .other s!"tunnel task join error: {e}"

/-- The end of `run_masque_tunnel`. -/
def joined : Exit → Outcome
  | returned (.ok ()) => .ok ()
  | returned (.error e) => .error (.other s!"tunnel exited: {e.display}")
  | panicked e => .error (.other s!"tunnel task join error: {e}")

/-- The end of `run_wireguard_tunnel`, which a panic of its tunnel takes down. -/
def inPlace : Exit → Pc
  | returned (.ok ()) => .returned (.ok ())
  | returned (.error e) => .returned (.error (.other s!"wireguard tunnel exited: {e.display}"))
  | panicked _ => .panicked

end Exit

namespace Session

/-- The tunnel of `run_masque_tunnel` has just been spawned; `run_wireguard_tunnel` has
spawned the server and comes to its tunnel. -/
def start : Runner → Session
  | .masque => ⟨.masque, .ready, none, none, none, false⟩
  | .wireguard => ⟨.wireguard, .tunnel, some true, none, some .binding, false⟩

/-- The tunnel ends, and drops its sender. A tunnel that runs in place is one with its
function: unless it panics, the server is aborted at once. -/
def exit (s : Session) (x : Exit) : Session :=
  match s.runner with
  | .masque => { s with tunnel := some x, ready := some (s.ready.getD false) }
  | .wireguard => { s with tunnel := some x, pc := x.inPlace, abort := x.inPlace != .panicked }

/-- `run_masque_tunnel` goes on from the await it stands at. -/
def poll (s : Session) : Option Session :=
  match s.pc, s.ready, s.tunnel with
  | .ready, some true, _ => some { s with pc := .tunnel, socks := some .binding }
  | .ready, some false, _ => some { s with pc := .joining }
  | .joining, _, some x => some { s with pc := .returned (.error x.beforeValidation) }
  | .tunnel, _, some x => some { s with pc := .returned x.joined, abort := true }
  | _, _, _ => none

def step (s : Session) : Event → Option Session
  | .signal =>
      if s.tunnel = none ∧ s.ready = none then some { s with ready := some true } else none
  | .exit x => if s.tunnel = none then some (s.exit x) else none
  | .poll => s.poll
  | .serve e => (s.socks.bind (·.next e)).map fun v => { s with socks := some v }
  | .cancel =>
      if s.abort then (s.socks.bind Serve.cancel).map fun v => { s with socks := some v } else none

/-- The tunnel is running and waited for, but its SOCKS server has ended. -/
def Unserved (s : Session) : Prop :=
  s.pc = .tunnel ∧ s.tunnel = none ∧ s.socks.any Serve.gone = true

instance (s : Session) : Decidable s.Unserved := inferInstanceAs (Decidable (_ ∧ _ ∧ _))

/-- **The condition of `served_iff`**: `bind` and `accept` do not fail while the tunnel runs. -/
def Keeps (s : Session) : Event → Prop
  | .serve e => e.failed = true → s.tunnel ≠ none
  | _ => True

instance (s : Session) : ∀ e : Event, Decidable (s.Keeps e)
  | .serve e => inferInstanceAs (Decidable (e.failed = true → _))
  | .signal | .exit _ | .poll | .cancel => .isTrue trivial

/-! ### The order of things -/

/-- The function comes to its tunnel with the server spawned, it does not pass it before it
has ended, and only then is the server aborted. -/
structure Ordered (s : Session) : Prop where
  spawned : s.socks ≠ none → s.tunnel = none → s.pc = .tunnel
  abort : s.abort = true → s.tunnel ≠ none

variable {s t : Session} {e : Event}

/-- A poll comes to the tunnel with a new server, or to the join, or ends the function
after the tunnel. -/
lemma poll_cases (h : s.poll = some t) :
    t = { s with pc := .tunnel, socks := some .binding }
    ∨ s.pc = .ready ∧ t = { s with pc := .joining }
    ∨ s.tunnel ≠ none ∧ t.tunnel = s.tunnel := by
  rw [poll] at h
  split at h
  case h_1 => exact .inl (Option.some.inj h).symm
  case h_2 hpc _ => exact .inr (.inl ⟨hpc, (Option.some.inj h).symm⟩)
  case h_3 htun => cases h; exact .inr (.inr ⟨by simp [htun], rfl⟩)
  case h_4 htun => cases h; exact .inr (.inr ⟨by simp [htun], rfl⟩)
  case h_5 => cases h

/-- What the server does is seen in the server only. -/
lemma serve_eq_some {e : Served} (h : s.step (.serve e) = some t) :
    ∃ v w, s.socks = some v ∧ v.next e = some w ∧ t = { s with socks := some w } := by
  obtain ⟨w, hw, rfl⟩ := Option.map_eq_some_iff.mp h
  obtain ⟨v, hv, hvw⟩ := Option.bind_eq_some_iff.mp hw
  exact ⟨v, w, hv, hvw, rfl⟩

lemma cancel_eq_some (h : s.step .cancel = some t) :
    s.abort = true ∧ ∃ v w, s.socks = some v ∧ v.cancel = some w
      ∧ t = { s with socks := some w } := by
  rw [step] at h
  split at h
  case isFalse => cases h
  case isTrue habort =>
    obtain ⟨w, hw, rfl⟩ := Option.map_eq_some_iff.mp h
    obtain ⟨v, hv, hvw⟩ := Option.bind_eq_some_iff.mp hw
    exact ⟨habort, v, w, hv, hvw, rfl⟩

lemma exit_tunnel (s : Session) (x : Exit) : (s.exit x).tunnel = some x := by
  rw [exit]
  split <;> rfl

lemma start_ordered : ∀ r : Runner, (start r).Ordered
  | .masque => ⟨fun h => absurd rfl h, fun h => absurd h Bool.false_ne_true⟩
  | .wireguard => ⟨fun _ _ => rfl, fun h => absurd h Bool.false_ne_true⟩

/-- Once the tunnel has ended, nothing is left to order. -/
lemma ordered_of_tunnel (h : s.tunnel ≠ none) : s.Ordered :=
  ⟨fun _ hnone => absurd hnone h, fun _ => h⟩

lemma Ordered.step (hs : s.Ordered) (h : s.step e = some t) : t.Ordered := by
  cases e with
  | signal =>
      obtain ⟨-, ht⟩ := Option.ite_none_right_eq_some.mp h
      cases ht
      exact ⟨hs.spawned, hs.abort⟩
  | exit x =>
      obtain ⟨-, ht⟩ := Option.ite_none_right_eq_some.mp h
      cases ht
      exact ordered_of_tunnel (by simp [exit_tunnel])
  | poll =>
      obtain rfl | ⟨hpc, rfl⟩ | ⟨htun, heq⟩ := poll_cases h
      · exact ⟨fun _ _ => rfl, hs.abort⟩
      · refine ⟨?_, hs.abort⟩
        intro hsocks hnone
        have htunnel := hs.spawned hsocks hnone
        rw [hpc] at htunnel
        cases htunnel
      · exact ordered_of_tunnel (heq ▸ htun)
  | serve e =>
      obtain ⟨v, w, hv, -, rfl⟩ := serve_eq_some h
      exact ⟨fun _ => hs.spawned (by simp [hv]), hs.abort⟩
  | cancel =>
      obtain ⟨habort, -, w, -, -, rfl⟩ := cancel_eq_some h
      exact ordered_of_tunnel (hs.abort habort)

lemma not_unserved_of_tunnel (h : s.tunnel ≠ none) : ¬ s.Unserved := fun hu => h hu.2.1

/-- The step lemma: from a state that has its server, a step leads to one that has not exactly
when it breaks the condition. -/
lemma keeps_iff (hs : s.Ordered) (hserved : ¬ s.Unserved) (h : s.step e = some t) :
    s.Keeps e ↔ ¬ t.Unserved := by
  cases e with
  | signal =>
      obtain ⟨-, ht⟩ := Option.ite_none_right_eq_some.mp h
      cases ht
      exact iff_of_true trivial hserved
  | exit x =>
      obtain ⟨-, ht⟩ := Option.ite_none_right_eq_some.mp h
      cases ht
      exact iff_of_true trivial (not_unserved_of_tunnel (by simp [exit_tunnel]))
  | poll =>
      refine iff_of_true trivial ?_
      obtain rfl | ⟨-, rfl⟩ | ⟨htun, heq⟩ := poll_cases h
      · exact fun hu => Bool.false_ne_true hu.2.2
      · intro hu
        cases hu.1
      · exact not_unserved_of_tunnel (heq ▸ htun)
  | serve e =>
      obtain ⟨v, w, hv, hw, rfl⟩ := serve_eq_some h
      have hgone : w.gone = e.failed := Serve.next_gone hw
      have hpc : s.tunnel = none → s.pc = .tunnel := hs.spawned (by simp [hv])
      constructor
      · rintro hkeeps ⟨-, hnone, hw⟩
        exact hkeeps (hgone ▸ hw) hnone
      · intro hserved hfailed hnone
        exact hserved ⟨hpc hnone, hnone, hgone.trans hfailed⟩
  | cancel =>
      obtain ⟨habort, -, w, -, -, rfl⟩ := cancel_eq_some h
      exact iff_of_true trivial (not_unserved_of_tunnel (hs.abort habort))

/-- **While a tunnel is kept, it has its SOCKS server, exactly when `bind` and `accept` fail
only after the tunnel has ended.** -/
theorem served_iff (r : Runner) {es : List Event} (h : Machine.run step (start r) es = some t) :
    Machine.Meets step Keeps (start r) es ↔ Machine.Always step (¬ ·.Unserved) (start r) es := by
  refine Machine.meets_iff_always (fun _ _ _ hs => hs.step) (fun _ _ _ => keeps_iff)
    (start_ordered r) ?_ h
  cases r with
  | masque => exact fun hu => Bool.false_ne_true hu.2.2
  | wireguard => exact fun hu => Bool.false_ne_true hu.2.2

/-- A MASQUE session with two clients, whose `accept` fails once the tunnel has ended. -/
theorem served_iff_two :
    Machine.Always step (¬ ·.Unserved) (start .masque)
      [.signal, .poll, .serve (.bind (.ok ())), .serve (.accept (.ok ())),
        .serve (.accept (.ok ())), .exit (.returned (.ok ())), .serve (.accept (.error "EMFILE")),
        .poll] := by
  obtain ⟨t, h⟩ := Option.isSome_iff_exists.mp
    (show (Machine.run step (start .masque)
      [.signal, .poll, .serve (.bind (.ok ())), .serve (.accept (.ok ())),
        .serve (.accept (.ok ())), .exit (.returned (.ok ())), .serve (.accept (.error "EMFILE")),
        .poll]).isSome by decide)
  exact (served_iff .masque h).mp (by decide)

/-- The port is taken: the server returns, and the tunnel is kept without it. -/
theorem bind_unserved :
    ¬ ∀ (r : Runner) (es : List Event) (t : Session), Machine.run step (start r) es = some t →
      ¬ t.Unserved := by
  intro hall
  obtain ⟨t, h⟩ := Option.isSome_iff_exists.mp
    (show (Machine.run step (start .wireguard) [.serve (.bind (.error "EADDRINUSE"))]).isSome by
      decide)
  refine hall .wireguard _ t h ?_
  cases h
  decide

/-- **Nothing repairs an unserved session** but the end of its tunnel. -/
theorem Unserved.step (hu : s.Unserved) (h : s.step e = some t) :
    t.Unserved ∨ ∃ x, e = .exit x := by
  obtain ⟨hpc, hnone, hgone⟩ := hu
  cases e with
  | signal =>
      obtain ⟨-, ht⟩ := Option.ite_none_right_eq_some.mp h
      cases ht
      exact .inl ⟨hpc, hnone, hgone⟩
  | exit x => exact .inr ⟨x, rfl⟩
  | poll =>
      rw [step, poll, hpc, hnone] at h
      cases h
  | serve e =>
      obtain ⟨v, w, hv, hw, -⟩ := serve_eq_some h
      rw [hv] at hgone
      exact absurd (hgone.symm.trans (Serve.next_running hw)) Bool.noConfusion
  | cancel =>
      obtain ⟨-, v, w, hv, hw, -⟩ := cancel_eq_some h
      rw [hv] at hgone
      exact absurd (hgone.symm.trans (Serve.cancel_running hw)) Bool.noConfusion

end Session
end Aether.Tunnel
