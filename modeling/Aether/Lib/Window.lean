import Mathlib.Data.List.Perm.Basic
import Mathlib.Tactic.Common

/-!
Jobs that run at once, but only so many of them (`buffer_unordered` of a stream of futures).

The jobs are started in their order, as far as there is room; they end in any order, and each that
ends makes room for the next. A window that is dropped drops the jobs that run.

* `Window.Ran`: every job was started once, runs or has ended, or waits, and there is no more room
  than was given.
-/

/-- The jobs that wait, in order, and those that run. -/
structure Window (α : Type*) where
  waiting : List α
  running : List α
  deriving DecidableEq

namespace Window

variable {α : Type*} {cap : ℕ} {w w' : Window α} {a : α} {i : ℕ}

def start (jobs : List α) : Window α := ⟨jobs, []⟩

/-- Jobs are started while there is room. -/
def fill (cap : ℕ) (w : Window α) : Window α :=
  ⟨w.waiting.drop (cap - w.running.length),
    w.running ++ w.waiting.take (cap - w.running.length)⟩

/-- A job ends. -/
def finish (w : Window α) (i : ℕ) : Option (α × Window α) :=
  w.running[i]?.map fun a => (a, { w with running := w.running.eraseIdx i })

/-- The stream of results has ended. -/
def Done (w : Window α) : Prop := w.waiting = [] ∧ w.running = []

instance [DecidableEq α] (w : Window α) : Decidable w.Done := inferInstanceAs (Decidable (_ ∧ _))

/-- What has become of the jobs when `ended` have ended, in this order. -/
structure Ran (cap : ℕ) (jobs ended : List α) (w : Window α) : Prop where
  room : w.running.length ≤ cap
  started : ∃ begun, jobs = begun ++ w.waiting ∧ begun.Perm (ended ++ w.running)

variable {jobs ended : List α}

lemma start_ran (cap : ℕ) (jobs : List α) : Ran cap jobs [] (start jobs) :=
  ⟨Nat.zero_le cap, [], rfl, .refl _⟩

lemma Ran.fill (h : Ran cap jobs ended w) : Ran cap jobs ended (w.fill cap) := by
  obtain ⟨begun, hjobs, hperm⟩ := h.started
  refine ⟨?_, begun ++ w.waiting.take (cap - w.running.length), ?_, ?_⟩
  · have hroom := h.room
    have hlen := List.length_take_le (cap - w.running.length) w.waiting
    rw [Window.fill, List.length_append]
    omega
  · rw [hjobs, Window.fill, List.append_assoc, List.take_append_drop]
  · rw [Window.fill, ← List.append_assoc]
    exact hperm.append_right _

lemma finish_eq_some (h : w.finish i = some (a, w')) :
    w'.waiting = w.waiting ∧ w.running.Perm (a :: w'.running) := by
  obtain ⟨b, hb, heq⟩ := Option.map_eq_some_iff.mp h
  cases heq
  obtain ⟨hlt, rfl⟩ := List.getElem?_eq_some_iff.mp hb
  exact ⟨rfl, (List.getElem_cons_eraseIdx_perm hlt).symm⟩

lemma Ran.finish (h : Ran cap jobs ended w) (hf : w.finish i = some (a, w')) :
    Ran cap jobs (ended ++ [a]) w' := by
  obtain ⟨hwaiting, hperm⟩ := finish_eq_some hf
  obtain ⟨begun, hjobs, hbegun⟩ := h.started
  refine ⟨?_, begun, ?_, ?_⟩
  · have hroom := h.room
    rw [hperm.length_eq, List.length_cons] at hroom
    omega
  · rw [hwaiting]
    exact hjobs
  · rw [List.append_assoc]
    exact hbegun.trans (hperm.append_left ended)

/-- A window that is done has ended every job, each as often as it was given. -/
lemma Ran.done (h : Ran cap jobs ended w) (hd : w.Done) : ended.Perm jobs := by
  obtain ⟨begun, hjobs, hperm⟩ := h.started
  rw [hd.1, List.append_nil] at hjobs
  rw [hd.2, List.append_nil] at hperm
  exact hjobs ▸ hperm.symm

/-- Jobs that are all different have ended at most once, and none of them runs. -/
lemma Ran.nodup (h : Ran cap jobs ended w) (hjobs : jobs.Nodup) : (ended ++ w.running).Nodup := by
  obtain ⟨begun, rfl, hperm⟩ := h.started
  exact hperm.nodup_iff.mp (List.nodup_append.mp hjobs).1

end Window
