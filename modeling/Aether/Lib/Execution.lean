import Mathlib.Logic.Function.Iterate
import Mathlib.Order.Nat
import Mathlib.Tactic.Choose
import Aether.Lib.Machine

/-!
Infinite executions of a machine.

A machine that is given an event at every instant goes on for ever when none of them is
refused. A statement about termination says that there is no such execution.

* `Execution.invariant`: what every event preserves holds from some instant on.
* `exists_execution`: a property that some enabled event always preserves gives an infinite
  execution; `Execution.cons` puts a step in front of one.
-/

namespace Machine

variable {σ ε : Type*} {step : σ → ε → Option σ}

/-- An infinite execution from `s`: the events and the states between them. -/
structure Execution (step : σ → ε → Option σ) (s : σ) (es : ℕ → ε) (ss : ℕ → σ) : Prop where
  start : ss 0 = s
  next : ∀ n, step (ss n) (es n) = some (ss (n + 1))

variable {s t : σ} {e : ε} {es : ℕ → ε} {ss : ℕ → σ}

/-- What every event preserves holds from the instant on at which it holds. -/
theorem Execution.invariant (h : Execution step s es ss) {ok : ε → Prop} {I : σ → Prop}
    (hok : ∀ n, ok (es n)) (hstep : ∀ s e t, I s → ok e → step s e = some t → I t)
    {n m : ℕ} (hn : I (ss n)) (hnm : n ≤ m) : I (ss m) := by
  induction m, hnm using Nat.le_induction with
  | base => exact hn
  | succ m _ ih => exact hstep (ss m) (es m) (ss (m + 1)) ih (hok m) (h.next m)

/-- A sequence with one more element at the front. -/
def prepend {α : Type*} (a : α) (f : ℕ → α) : ℕ → α
  | 0 => a
  | n + 1 => f n

lemma Execution.cons (h : step s e = some t) (hx : Execution step t es ss) :
    Execution step s (prepend e es) (prepend s ss) where
  start := rfl
  next n := by
    cases n with
    | zero =>
        show step s e = some (ss 0)
        rw [hx.start, h]
    | succ n => exact hx.next n

/-- **A machine that can always go on goes on for ever**, with every step of the kind it can
always take. -/
theorem exists_execution {P : σ → Prop} {R : σ → ε → σ → Prop}
    (hstep : ∀ s, P s → ∃ e t, step s e = some t ∧ P t ∧ R s e t) (hs : P s) :
    ∃ es ss, Execution step s es ss ∧ ∀ n, R (ss n) (es n) (ss (n + 1)) := by
  obtain ⟨e₀, -⟩ := hstep s hs
  have : Nonempty ε := ⟨e₀⟩
  have : Nonempty σ := ⟨s⟩
  choose! e t hnext hP hR using hstep
  have hall : ∀ n, P (t^[n] s) := by
    intro n
    induction n with
    | zero => exact hs
    | succ n ih =>
        rw [Function.iterate_succ_apply']
        exact hP _ ih
  refine ⟨fun n => e (t^[n] s), fun n => t^[n] s, ⟨rfl, ?_⟩, ?_⟩
  · intro n
    rw [Function.iterate_succ_apply']
    exact hnext _ (hall n)
  · intro n
    beta_reduce
    rw [Function.iterate_succ_apply']
    exact hR _ (hall n)

end Machine
