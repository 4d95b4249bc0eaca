import Aether.Options
import Mathlib.Data.List.MinMax

/-!
The hunt for a gateway: `hunt_best_gateway` (`prober.rs`) and `hunt_best_wg_endpoint`
(`wg_prober.rs`). Instants and durations are in nanoseconds.

The two functions are one loop with two tables of strategies. The loop takes the results of
probes that run at once, in the order in which they come in; here a turn of the loop carries
the clock and the arm of the `select!`, so a list of turns is any order of results.

* `hunt`: the loop, `huntBest` with what comes before it.
* `hunt_invariant`: what every turn preserves holds of the result.
* `huntBest_result`: what the hunt returns was among the successes it took, and it returns an
  error exactly when it took none.
* `hunt_taken`: without early exit it takes the successes of all turns up to the one it ends at.
* `huntBest_least`: **without early exit it returns the best of them**, the earliest where
  several are as good, and the end of the quiet window stays where it was set.
-/

namespace Aether.Prober

/-- `ProbeResult` and `WgProbeResult`. -/
structure ProbeResult where
  ip : IpAddr
  port : ℕ
  rtt : ℕ
  deriving DecidableEq

/-- The address that was probed. -/
def ProbeResult.peer (pr : ProbeResult) : SocketAddr := ⟨pr.ip, pr.port⟩

/-! ### Strategies -/

/-- `Strategy` and `WgStrategy`, without what the list of candidates and the probes are made
from. -/
structure Strategy where
  overallDeadline : ℕ
  quietAfterFirst : ℕ
  targetSuccesses : ℕ
  earlyExitFirst : Bool
  deriving DecidableEq

/-- `Duration::from_secs`. -/
def fromSecs (n : ℕ) : ℕ := n * 1000000000

/-- The strategies of `prober.rs`. -/
def ScanMode.strategy : ScanMode → Strategy
  | .turbo => ⟨fromSecs 45, fromSecs 0, 1, true⟩
  | .balanced => ⟨fromSecs 120, fromSecs 20, 6, false⟩
  | .thorough => ⟨fromSecs 300, fromSecs 30, 0, false⟩
  | .stealth => ⟨fromSecs 180, fromSecs 25, 4, false⟩
  | .ironclad => ⟨fromSecs 180, fromSecs 15, 3, false⟩

/-- The strategies of `wg_prober.rs`. -/
def ScanMode.wgStrategy : ScanMode → Strategy
  | .turbo => ⟨fromSecs 30, fromSecs 0, 1, true⟩
  | .balanced => ⟨fromSecs 80, fromSecs 12, 5, false⟩
  | .thorough => ⟨fromSecs 250, fromSecs 25, 0, false⟩
  | .stealth => ⟨fromSecs 150, fromSecs 20, 3, false⟩
  | .ironclad => ⟨fromSecs 180, fromSecs 15, 3, false⟩

/-! ### The loop -/

/-- The variables of the loop. `seen` is what it has taken so far, in order, and is not a
variable of the source. -/
structure Hunt where
  best : Option ProbeResult
  found : ℕ
  quietUntil : Option ℕ
  seen : List ProbeResult
  deriving DecidableEq

/-- The arm of a turn: the sleep, a probe that failed, or one that succeeded, with the clock
after it. -/
inductive Arm where
  | slept
  | failed
  | passed (pr : ProbeResult) (now : ℕ)

/-- One turn of the loop: the clock at its head, and its arm. -/
structure Turn where
  now : ℕ
  arm : Arm

/-- The result that a turn brings. -/
def Turn.passed? (t : Turn) : Option ProbeResult :=
  match t.arm with
  | .passed pr _ => some pr
  | _ => none

namespace Hunt

def start : Hunt := ⟨none, 0, none, []⟩

/-- The instant at which the loop ends. -/
def effective (h : Hunt) (deadline : ℕ) : ℕ :=
  match h.quietUntil with
  | some q => min q deadline
  | none => deadline

/-- The better of two results, the older one where they are as good. -/
def better (best : Option ProbeResult) (pr : ProbeResult) : ProbeResult :=
  match best with
  | some cur => if cur.rtt ≤ pr.rtt then cur else pr
  | none => pr

/-- The result becomes a candidate for the best. -/
def take (h : Hunt) (pr : ProbeResult) : Hunt :=
  { h with best := some (better h.best pr), found := h.found + 1, seen := h.seen ++ [pr] }

/-- The result is returned at once. -/
def exitWith (h : Hunt) (pr : ProbeResult) : Hunt :=
  { h with best := some pr, seen := h.seen ++ [pr] }

/-- The target is reached, and the loop has not begun to wait for better results. -/
def reached (h : Hunt) (st : Strategy) : Bool :=
  0 < st.targetSuccesses && st.targetSuccesses ≤ h.found && h.quietUntil.isNone

/-- A successful probe, and whether the loop goes on after it. -/
def pass (st : Strategy) (h : Hunt) (pr : ProbeResult) (now : ℕ) : Bool × Hunt :=
  if st.earlyExitFirst then (false, h.exitWith pr)
  else if (h.take pr).reached st then
    if st.quietAfterFirst ≠ 0 then
      (true, { h.take pr with quietUntil := some (now + st.quietAfterFirst) })
    else (false, h.take pr)
  else (true, h.take pr)

def turn (st : Strategy) (deadline : ℕ) (h : Hunt) (t : Turn) : Bool × Hunt :=
  if h.effective deadline ≤ t.now then (false, h)
  else
    match t.arm with
    | .slept => (false, h)
    | .failed => (true, h)
    | .passed pr now => h.pass st pr now

/-- What the function returns once the loop has ended. -/
def result (h : Hunt) : Except AetherError ProbeResult :=
  match h.best with
  | some pr => .ok pr
  | none => .error .noCleanEndpoint

end Hunt

/-- The loop. Where the turns end, the stream of results has. -/
def hunt (st : Strategy) (deadline : ℕ) : Hunt → List Turn → Hunt
  | h, [] => h
  | h, t :: turns =>
      match h.turn st deadline t with
      | (true, h') => hunt st deadline h' turns
      | (false, h') => h'

/-- What a scan meets: whether the host has a route for IPv6, the clock when the loop begins,
and its turns. -/
structure Scan where
  hostHasIpv6 : Bool
  now : ℕ
  turns : List Turn

/-- A hunt with a strategy, for the families that are asked for. -/
def huntBest (st : Strategy) (ip : IpScan) (scan : Scan) : Hunt :=
  if ip.wantV6 && !scan.hostHasIpv6 && !ip.wantV4 then .start
  else hunt st (scan.now + st.overallDeadline) .start scan.turns

def huntBestGateway (mode : ScanMode) : IpScan → Scan → Hunt := huntBest mode.strategy

def huntBestWgEndpoint (mode : ScanMode) : IpScan → Scan → Hunt := huntBest mode.wgStrategy

/-! ### What is returned was seen -/

section Invariant

variable {st : Strategy} {deadline : ℕ} {h : Hunt}

/-- What every turn preserves holds at the end of the loop. -/
theorem hunt_invariant {I : Hunt → Prop} (hturn : ∀ h t, I h → I (h.turn st deadline t).2)
    (hI : I h) (turns : List Turn) : I (hunt st deadline h turns) := by
  induction turns generalizing h with
  | nil => exact hI
  | cons t turns ih =>
      have ht : I (h.turn st deadline t).2 := hturn h t hI
      rw [hunt]
      split
      case h_1 heq =>
        rw [heq] at ht
        exact ih ht
      case h_2 heq =>
        rw [heq] at ht
        exact ht

/-- The best result is among those taken, and there is one as soon as one was taken. -/
structure Hunt.Chosen (h : Hunt) : Prop where
  mem : ∀ r, h.best = some r → r ∈ h.seen
  none : h.best = none → h.seen = []

lemma Hunt.start_chosen : start.Chosen :=
  ⟨fun _ hr => absurd hr.symm (Option.some_ne_none _), fun _ => rfl⟩

lemma Hunt.better_eq (best : Option ProbeResult) (pr : ProbeResult) :
    best = some (better best pr) ∨ better best pr = pr := by
  cases best with
  | none => exact .inr rfl
  | some cur =>
      rw [better]
      split
      · exact .inl rfl
      · exact .inr rfl

lemma Hunt.Chosen.exitWith (pr : ProbeResult) : (h.exitWith pr).Chosen where
  mem := by
    intro r hr
    cases hr
    exact List.mem_append_right _ (List.mem_singleton_self pr)
  none := fun hnone => absurd hnone (Option.some_ne_none _)

lemma Hunt.Chosen.take (hc : h.Chosen) (pr : ProbeResult) : (h.take pr).Chosen where
  mem := by
    intro r hr
    cases hr
    obtain hold | hnew := better_eq h.best pr
    · exact List.mem_append_left _ (hc.mem _ hold)
    · exact List.mem_append_right _ (List.mem_singleton.mpr hnew)
  none := fun hnone => absurd hnone (Option.some_ne_none _)

lemma Hunt.Chosen.turn (hc : h.Chosen) (t : Turn) : (h.turn st deadline t).2.Chosen := by
  rw [Hunt.turn]
  split
  · exact hc
  · split
    case h_1 | h_2 => exact hc
    case h_3 pr now _ =>
      rw [pass]
      split
      · exact .exitWith pr
      · split
        · split
          · exact ⟨(hc.take pr).mem, (hc.take pr).none⟩
          · exact hc.take pr
        · exact hc.take pr

lemma huntBest_chosen (st : Strategy) (ip : IpScan) (scan : Scan) :
    (huntBest st ip scan).Chosen := by
  rw [huntBest]
  split
  · exact Hunt.start_chosen
  · exact hunt_invariant (fun _ t hc => hc.turn t) Hunt.start_chosen scan.turns

/-- **A hunt returns a result that it has seen**, and none exactly when it has seen none. -/
theorem huntBest_result (st : Strategy) (ip : IpScan) (scan : Scan) :
    (∀ r, (huntBest st ip scan).result = .ok r → r ∈ (huntBest st ip scan).seen)
      ∧ ((huntBest st ip scan).result = .error .noCleanEndpoint
          ↔ (huntBest st ip scan).seen = []) := by
  have hc := huntBest_chosen st ip scan
  generalize huntBest st ip scan = h at hc
  cases hbest : h.best with
  | none =>
      refine ⟨?_, iff_of_true ?_ (hc.none hbest)⟩
      · intro r hr
        rw [Hunt.result, hbest] at hr
        cases hr
      · rw [Hunt.result, hbest]
  | some pr =>
      have hmem : pr ∈ h.seen := hc.mem pr hbest
      have hresult : h.result = .ok pr := by rw [Hunt.result, hbest]
      rw [hresult]
      refine ⟨?_, iff_of_false (by simp) (List.ne_nil_of_mem hmem)⟩
      intro r hr
      cases hr
      exact hmem

end Invariant

/-! ### The best of what was seen -/

section Least

variable {st : Strategy} {deadline : ℕ} {h : Hunt}

/-- Why a loop without early exit leaves these turns: the first of them finds the time up or is
the sleep, or there are enough successes and no better ones are waited for. -/
def Hunt.Over (st : Strategy) (deadline : ℕ) (h : Hunt) (rest : List Turn) : Prop :=
  (∃ t ∈ rest.head?, h.effective deadline ≤ t.now ∨ t.arm = .slept)
    ∨ st.targetSuccesses ≠ 0 ∧ st.targetSuccesses ≤ h.seen.length ∧ st.quietAfterFirst = 0

/-- A turn ends the loop without its result, or its result is taken and the loop goes on but for
a target that is reached. -/
lemma Hunt.turn_taken (hexit : st.earlyExitFirst = false) (hfound : h.found = h.seen.length)
    (t : Turn) (rest : List Turn) :
    (h.turn st deadline t = (false, h) ∧ h.Over st deadline (t :: rest))
      ∨ ((h.turn st deadline t).2.seen = h.seen ++ [t].filterMap Turn.passed?
        ∧ (h.turn st deadline t).2.found = (h.turn st deadline t).2.seen.length
        ∧ ((h.turn st deadline t).1 = false → (h.turn st deadline t).2.Over st deadline rest)) := by
  rw [Hunt.turn]
  split
  · exact .inl ⟨rfl, .inl ⟨t, rfl, .inl ‹_›⟩⟩
  · split
    case h_1 harm => exact .inl ⟨rfl, .inl ⟨t, rfl, .inr harm⟩⟩
    case h_2 harm => exact .inr ⟨by simp [Turn.passed?, harm], hfound, nofun⟩
    case h_3 pr now harm =>
      have hpassed : [t].filterMap Turn.passed? = [pr] := by simp [Turn.passed?, harm]
      have htaken : (h.take pr).found = (h.take pr).seen.length := by
        simp [Hunt.take, hfound]
      refine .inr ?_
      rw [hpassed, pass, hexit, if_neg Bool.false_ne_true]
      split
      · rename_i hreached
        split
        · exact ⟨rfl, htaken, nofun⟩
        · rename_i hquiet
          refine ⟨rfl, htaken, fun _ => .inr ?_⟩
          simp only [reached, Bool.and_eq_true, decide_eq_true_eq] at hreached
          exact ⟨Nat.pos_iff_ne_zero.mp hreached.1.1, htaken ▸ hreached.1.2, not_not.mp hquiet⟩
      · exact ⟨rfl, htaken, nofun⟩

/-- **The loop takes every success that comes before its end.** By induction on the turns. -/
lemma hunt_taken (hexit : st.earlyExitFirst = false) (hfound : h.found = h.seen.length)
    (turns : List Turn) :
    ∃ taken rest, turns = taken ++ rest
      ∧ (hunt st deadline h turns).seen = h.seen ++ taken.filterMap Turn.passed?
      ∧ (rest = [] ∨ (hunt st deadline h turns).Over st deadline rest) := by
  induction turns generalizing h with
  | nil => exact ⟨[], [], rfl, (List.append_nil _).symm, .inl rfl⟩
  | cons t turns ih =>
      rw [hunt]
      rcases Hunt.turn_taken hexit hfound t turns
        with ⟨hturn, hover⟩ | ⟨hseen, hfound', hover⟩
      · rw [hturn]
        exact ⟨[], t :: turns, rfl, (List.append_nil _).symm, .inr hover⟩
      · rcases hturn : h.turn st deadline t with ⟨go, h'⟩
        rw [hturn] at hseen hfound' hover
        cases go with
        | false => exact ⟨[t], turns, rfl, hseen, .inr (hover rfl)⟩
        | true =>
            obtain ⟨taken, rest, rfl, hrest, hend⟩ := ih hfound'
            refine ⟨t :: taken, rest, rfl, ?_, hend⟩
            calc (hunt st deadline h' (taken ++ rest)).seen
                = h'.seen ++ taken.filterMap Turn.passed? := hrest
              _ = h.seen ++ ([t].filterMap Turn.passed? ++ taken.filterMap Turn.passed?) := by
                  rw [hseen, List.append_assoc]
              _ = h.seen ++ (t :: taken).filterMap Turn.passed? := by
                  rw [← List.filterMap_append, List.singleton_append]

/-- The best result is the first of those seen whose time is least. -/
def Hunt.Least (h : Hunt) : Prop := h.best = h.seen.argmin ProbeResult.rtt

lemma Hunt.Least.take (hl : h.Least) (pr : ProbeResult) : (h.take pr).Least := by
  change some (better h.best pr) = (h.seen ++ [pr]).argmin ProbeResult.rtt
  rw [List.argmin_concat, ← hl]
  cases hbest : h.best with
  | none => rfl
  | some cur =>
      simp only [better]
      by_cases hle : cur.rtt ≤ pr.rtt
      · rw [if_pos hle, if_neg (Nat.not_lt.mpr hle)]
      · rw [if_neg hle, if_pos (Nat.lt_of_not_le hle)]

/-- What a turn does to the variables, where no result is returned at once: nothing, or a
result is taken, and the window is set if it was not. -/
lemma Hunt.turn_cases (hexit : st.earlyExitFirst = false) (h : Hunt) (t : Turn) :
    (h.turn st deadline t).2 = h
      ∨ ∃ pr, (h.turn st deadline t).2 = h.take pr
          ∨ h.quietUntil = none
            ∧ ∃ q, (h.turn st deadline t).2 = { h.take pr with quietUntil := some q } := by
  rw [Hunt.turn]
  split
  · exact .inl rfl
  · split
    case h_1 | h_2 => exact .inl rfl
    case h_3 pr now _ =>
      refine .inr ⟨pr, ?_⟩
      rw [pass, hexit, if_neg Bool.false_ne_true]
      split
      · rename_i hreached
        have hnone : h.quietUntil = none := by
          rw [reached, Bool.and_eq_true, Option.isNone_iff_eq_none] at hreached
          exact hreached.2
        split
        · exact .inr ⟨hnone, _, rfl⟩
        · exact .inl rfl
      · exact .inl rfl

lemma Hunt.Least.turn (hexit : st.earlyExitFirst = false) (hl : h.Least) (t : Turn) :
    (h.turn st deadline t).2.Least := by
  rcases turn_cases hexit h t with hsame | ⟨pr, htake | ⟨-, q, hset⟩⟩
  · rwa [hsame]
  · rw [htake]
    exact hl.take pr
  · rw [hset]
    exact hl.take pr

lemma Hunt.turn_quietUntil (hexit : st.earlyExitFirst = false) {q : ℕ}
    (hq : h.quietUntil = some q) (t : Turn) :
    (h.turn st deadline t).2.quietUntil = some q := by
  rcases turn_cases hexit h t with hsame | ⟨pr, htake | ⟨hnone, -⟩⟩
  · rwa [hsame]
  · rw [htake]
    exact hq
  · rw [hq] at hnone
    cases hnone

/-- Whatever turns come behind, the window stays. By induction on the turns. -/
lemma hunt_quietUntil (hexit : st.earlyExitFirst = false) {q : ℕ} {turns : List Turn}
    (hq : (hunt st deadline h turns).quietUntil = some q) (more : List Turn) :
    (hunt st deadline h (turns ++ more)).quietUntil = some q := by
  induction turns generalizing h with
  | nil =>
      exact hunt_invariant (I := fun h => h.quietUntil = some q)
        (fun _ t hq => Hunt.turn_quietUntil hexit hq t) hq more
  | cons t turns ih =>
      rw [hunt] at hq
      rw [List.cons_append, hunt]
      rcases hturn : h.turn st deadline t with ⟨go, h'⟩
      rw [hturn] at hq
      cases go with
      | true => exact ih hq
      | false => exact hq

lemma Hunt.start_least : start.Least := rfl

lemma huntBest_argmin (hexit : st.earlyExitFirst = false) (ip : IpScan) (scan : Scan) :
    (huntBest st ip scan).Least := by
  rw [huntBest]
  split
  · exact Hunt.start_least
  · exact hunt_invariant (I := Hunt.Least) (fun _ t hl => hl.turn hexit t) Hunt.start_least
      scan.turns

/-- **A hunt without early exit returns the best result it has seen**: one of those it took,
none of which is faster and none of the earlier ones as fast. It returns an error exactly when it
took none, and once the quiet window is set no further turn moves it. What it took are the
successes of all turns before the end of the loop. -/
theorem huntBest_least (st : Strategy) (hexit : st.earlyExitFirst = false) (ip : IpScan)
    (scan : Scan) :
    (∀ r, (huntBest st ip scan).result = .ok r →
        r ∈ (huntBest st ip scan).seen
          ∧ (∀ s ∈ (huntBest st ip scan).seen, r.rtt ≤ s.rtt)
          ∧ ∀ s ∈ (huntBest st ip scan).seen, s.rtt ≤ r.rtt →
              (huntBest st ip scan).seen.idxOf r ≤ (huntBest st ip scan).seen.idxOf s)
      ∧ ((huntBest st ip scan).result = .error .noCleanEndpoint
          ↔ (huntBest st ip scan).seen = [])
      ∧ (∀ more q, (huntBest st ip scan).quietUntil = some q →
          (huntBest st ip { scan with turns := scan.turns ++ more }).quietUntil = some q)
      ∧ ((ip.wantV6 && !scan.hostHasIpv6 && !ip.wantV4) = false →
          ∃ taken rest, scan.turns = taken ++ rest
            ∧ (huntBest st ip scan).seen = taken.filterMap Turn.passed?
            ∧ (rest = []
              ∨ (huntBest st ip scan).Over st (scan.now + st.overallDeadline) rest)) := by
  obtain ⟨-, herror⟩ := huntBest_result st ip scan
  refine ⟨?_, herror, ?_, ?_⟩
  · intro r hr
    have hleast := huntBest_argmin hexit ip scan
    have hbest : (huntBest st ip scan).best = some r := by
      rw [Hunt.result] at hr
      split at hr
      · rename_i pr hpr
        rw [hpr, Except.ok.inj hr]
      · cases hr
    exact List.argmin_eq_some_iff.mp (hleast.symm.trans hbest)
  · intro more q hq
    rw [huntBest] at hq ⊢
    split
    · rename_i hno
      rw [if_pos hno] at hq
      cases hq
    · rename_i hgo
      rw [if_neg hgo] at hq
      exact hunt_quietUntil hexit hq more
  · intro hgo
    rw [huntBest, hgo, if_neg Bool.false_ne_true]
    exact hunt_taken hexit rfl scan.turns

/-- Three gateways answer a balanced scan for WireGuard, the second and the third as fast as
each other. -/
def sampleScan : Scan where
  hostHasIpv6 := false
  now := 0
  turns :=
    [⟨1, .passed ⟨.v4 (.new 162 159 192 1), 500, 90⟩ 2⟩,
      ⟨3, .passed ⟨.v4 (.new 162 159 195 1), 500, 40⟩ 4⟩, ⟨5, .failed⟩,
      ⟨6, .passed ⟨.v4 (.new 188 114 96 1), 500, 40⟩ 7⟩]

theorem huntBest_least_sample :
    (huntBestWgEndpoint .balanced .v4 sampleScan).result
        = .ok ⟨.v4 (.new 162 159 195 1), 500, 40⟩
      ∧ ∀ s ∈ (huntBestWgEndpoint .balanced .v4 sampleScan).seen, 40 ≤ s.rtt := by
  have hresult : (huntBestWgEndpoint .balanced .v4 sampleScan).result
      = .ok ⟨.v4 (.new 162 159 195 1), 500, 40⟩ := rfl
  obtain ⟨hbest, -⟩ := huntBest_least ScanMode.balanced.wgStrategy rfl .v4 sampleScan
  exact ⟨hresult, (hbest _ hresult).2.1⟩

end Least

end Aether.Prober
