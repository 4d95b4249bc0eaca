import Aether.Options

/-!
The profiles that are tried one after the other for a WireGuard gateway
(`wg_profile_candidates` of `main.rs`).

The fallbacks that go by the name of the profile asked for are left out, and these names are
compared without regard to case, where `from_profile` tells `OFF` from `off` and makes the
balanced profile of it.

* `foldl_push_eq`: what a list with a test against duplicates becomes.
* `mem_candidates_iff`: a profile of another name than `balanced` is among the candidates exactly
  when its name is asked for as it is spelled, or not at all.
* `retry_covers_iff`: **all profiles are tried exactly when** the name asked for is no other
  spelling of `off`, `light` or `aggressive`.
-/

namespace Aether

/-- New elements are pushed behind a list, unless they go by the name of one in it. Where no two of
them do, these are the ones that go by no name of the list. -/
lemma foldl_push_eq {α : Type} (same : α → α → Bool) (l : List α) {more : List α}
    (hmore : more.Pairwise fun a b => same a b = false) :
    more.foldl (fun names b => if names.any (same · b) then names else names ++ [b]) l
      = l ++ more.filter fun b => !l.any (same · b) := by
  induction more generalizing l with
  | nil => rw [List.foldl_nil, List.filter_nil, List.append_nil]
  | cons b more ih =>
      obtain ⟨hb, hmore⟩ := List.pairwise_cons.mp hmore
      rw [List.foldl_cons]
      by_cases hold : l.any (same · b) = true
      · rw [if_pos hold, ih l hmore, List.filter_cons_of_neg (by rw [hold]; exact Bool.noConfusion)]
      · have hfilter : more.filter (fun c => !(l ++ [b]).any (same · c))
            = more.filter fun c => !l.any (same · c) := by
          refine List.filter_congr fun c hc => ?_
          simp [hb c hc]
        rw [if_neg hold, ih _ hmore, hfilter, List.append_assoc,
          List.filter_cons_of_pos (by rw [Bool.not_eq_true] at hold; rw [hold]; rfl)]
        rfl

/-- The names of the fallbacks. -/
def fallbacks : List String := ["balanced", "aggressive", "light", "off"]

/-- No two fallbacks go by the same name. -/
lemma fallbacks_pairwise : fallbacks.Pairwise fun a b => eqIgnoreAsciiCase a b = false := by
  decide +kernel

variable {env : Env} {v name : String}

/-- The names are that of the profile asked for and those of the other fallbacks. -/
lemma wgProfileNames_eq (hv : env "AETHER_NOIZE" = some v)
    (hretry : env "AETHER_WG_NO_PROFILE_RETRY" = none) :
    wgProfileNames env = v :: fallbacks.filter fun b => !eqIgnoreAsciiCase v b := by
  have hpush := foldl_push_eq eqIgnoreAsciiCase [v] fallbacks_pairwise
  simp only [List.any_cons, List.any_nil, Bool.or_false, List.singleton_append] at hpush
  rw [wgProfileNames, hretry, hv]
  exact hpush

/-- The configurations that are tried. -/
def triedConfigs (env : Env) : List AetherNoizeConfig := (wgProfileCandidates env).map Prod.snd

lemma mem_triedConfigs (hv : env "AETHER_NOIZE" = some v)
    (hretry : env "AETHER_WG_NO_PROFILE_RETRY" = none) (cfg : AetherNoizeConfig) :
    cfg ∈ triedConfigs env ↔ .fromProfile v = cfg
      ∨ ∃ b ∈ fallbacks, eqIgnoreAsciiCase v b = false ∧ .fromProfile b = cfg := by
  rw [triedConfigs, wgProfileCandidates, wgProfileNames_eq hv hretry, List.map_map, List.mem_map]
  simp only [List.mem_cons, List.mem_filter, Function.comp_apply, Bool.not_eq_true']
  constructor
  · rintro ⟨n, rfl | ⟨hn, hother⟩, hcfg⟩
    · exact .inl hcfg
    · exact .inr ⟨n, hn, hother, hcfg⟩
  · rintro (hcfg | ⟨b, hb, hother, hcfg⟩)
    · exact ⟨v, .inl rfl, hcfg⟩
    · exact ⟨b, .inr ⟨hb, hother⟩, hcfg⟩

/-- The names that are not for the balanced profile. -/
lemma fromProfile_cases (v : String) :
    v ∈ ["off", "none", "light", "aggressive", "heavy"]
      ∨ AetherNoizeConfig.fromProfile v = .balanced := by
  by_cases hmem : v ∈ ["off", "none", "light", "aggressive", "heavy"]
  · exact .inl hmem
  · refine .inr ?_
    simp only [List.mem_cons, List.not_mem_nil, or_false, not_or] at hmem
    obtain ⟨hoff, hnone, hlight, haggressive, hheavy⟩ := hmem
    rw [AetherNoizeConfig.fromProfile] <;> assumption

/-- A name that `from_profile` knows is spelled in one way only. -/
lemma spelling_unique : ∀ known ∈ ["off", "none", "light", "aggressive", "heavy"],
    ∀ b ∈ fallbacks, eqIgnoreAsciiCase known b = true → known = b := by
  decide +kernel

/-- The fallbacks have different configurations. -/
lemma fallbacks_distinct : ∀ a ∈ fallbacks, ∀ b ∈ fallbacks,
    AetherNoizeConfig.fromProfile a = .fromProfile b → a = b := by
  decide +kernel

/-- A name that goes by that of a fallback is the name itself, or one for the balanced profile. -/
lemma eq_or_balanced (hname : name ∈ fallbacks) (hsame : eqIgnoreAsciiCase v name = true) :
    v = name ∨ AetherNoizeConfig.fromProfile v = .balanced := by
  rcases fromProfile_cases v with hknown | hbalanced
  · exact .inl (spelling_unique v hknown name hname hsame)
  · exact .inr hbalanced

/-- The balanced profile is always tried. -/
lemma balanced_tried (hv : env "AETHER_NOIZE" = some v)
    (hretry : env "AETHER_WG_NO_PROFILE_RETRY" = none) :
    AetherNoizeConfig.balanced ∈ triedConfigs env := by
  rw [mem_triedConfigs hv hretry]
  cases hsame : eqIgnoreAsciiCase v "balanced" with
  | false => exact .inr ⟨"balanced", by decide, hsame, rfl⟩
  | true =>
      rcases eq_or_balanced (by decide) hsame with rfl | hbalanced
      · exact .inl rfl
      · exact .inl hbalanced

/-- A profile of another name is tried unless its name is asked for in another spelling. -/
lemma mem_candidates_iff (hv : env "AETHER_NOIZE" = some v)
    (hretry : env "AETHER_WG_NO_PROFILE_RETRY" = none) (hname : name ∈ fallbacks)
    (hother : name ≠ "balanced") :
    AetherNoizeConfig.fromProfile name ∈ triedConfigs env
      ↔ (eqIgnoreAsciiCase v name = true → v = name) := by
  rw [mem_triedConfigs hv hretry]
  constructor
  · rintro (hprimary | ⟨b, hb, hdiff, hcfg⟩) hsame
    · rcases eq_or_balanced hname hsame with heq | hbalanced
      · exact heq
      · have heq : name = "balanced" :=
          fallbacks_distinct name hname "balanced" (by decide) (hprimary.symm.trans hbalanced)
        exact absurd heq hother
    · obtain rfl : b = name := fallbacks_distinct b hb name hname hcfg
      rw [hsame] at hdiff
      cases hdiff
  · intro h
    cases hsame : eqIgnoreAsciiCase v name with
    | false => exact .inr ⟨name, hname, hsame, rfl⟩
    | true => exact .inl (by rw [h hsame])

/-- The configurations of all profiles are tried, first that of the name asked for. -/
def RetryCovers (env : Env) (v : String) : Prop :=
  (∀ cfg ∈ [AetherNoizeConfig.off, .light, .balanced, .aggressive], cfg ∈ triedConfigs env)
    ∧ (triedConfigs env).head? = some (.fromProfile v)

/-- **All profiles are tried exactly when** the name asked for is `off`, `light` or `aggressive`
as it is spelled here, or none of them in any other spelling. -/
theorem retry_covers_iff (env : Env) (v : String) (hv : env "AETHER_NOIZE" = some v)
    (hretry : env "AETHER_WG_NO_PROFILE_RETRY" = none) :
    RetryCovers env v
      ↔ ∀ name ∈ ["off", "light", "aggressive"], eqIgnoreAsciiCase v name = true → v = name := by
  have hhead : (triedConfigs env).head? = some (.fromProfile v) := by
    rw [triedConfigs, List.head?_map, wgProfileCandidates_head, aethernoizeConfig, hv]
    rfl
  have htried : ∀ name ∈ ["off", "light", "aggressive"],
      (AetherNoizeConfig.fromProfile name ∈ triedConfigs env
        ↔ (eqIgnoreAsciiCase v name = true → v = name)) := by
    intro name hmem
    have hname : name ∈ fallbacks ∧ name ≠ "balanced" := by
      revert name
      decide +kernel
    exact mem_candidates_iff hv hretry hname.1 hname.2
  constructor
  · rintro ⟨hall, -⟩ name hmem
    refine (htried name hmem).mp (hall _ ?_)
    revert name
    decide +kernel
  · intro h
    refine ⟨?_, hhead⟩
    simp only [List.forall_mem_cons, List.not_mem_nil, false_implies, implies_true, and_true]
    exact ⟨(htried "off" (by decide)).mpr (h _ (by decide)),
      (htried "light" (by decide)).mpr (h _ (by decide)), balanced_tried hv hretry,
      (htried "aggressive" (by decide)).mpr (h _ (by decide))⟩

/-- The environment of a core that is asked for a profile. -/
def envOf (v : String) : Env := Function.update (fun _ => none) "AETHER_NOIZE" (some v)

theorem retry_covers_iff_none : RetryCovers (envOf "none") "none" :=
  (retry_covers_iff (envOf "none") "none" (Function.update_self ..) rfl).mpr (by decide +kernel)

/-- `OFF` is a name for the balanced profile and keeps `off` from being tried. -/
theorem retry_misses_off : ¬ RetryCovers (envOf "OFF") "OFF" := by
  rintro ⟨hall, -⟩
  have hoff : AetherNoizeConfig.off ∉ triedConfigs (envOf "OFF") := by decide +kernel
  exact hoff (hall _ (List.mem_cons_self ..))

end Aether
