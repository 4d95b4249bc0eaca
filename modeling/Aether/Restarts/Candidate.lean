import Aether.Restarts

/-!
The last connections over the starts of the process.

* `step_noted`: what the files of the last connections hold.
* `candidate_is_last_saved`: the candidate of the quick reconnect.
-/

namespace Aether.Restarts

open Config Machine Reconnect

variable {toml : Toml} {paths : Paths} {w w' : World} {e : Event} {path : String}
  {before : Option Bytes} {g : Gateway} {π : Type}

/-- The newest entry for a file. -/
def newest (saves : List (String × Gateway × Bool)) (path : String) : Option (Gateway × Bool) :=
  (saves.find? (·.1 = path)).map Prod.snd

/-- What the saves say of a file: it holds the gateway of the newest one if that was written, and
what it held before if there is none. -/
def Noted (toml : Toml) (before : Option Bytes) (w : World) (path : String) : Prop :=
  match newest w.saves path with
  | none => w.disk.files path = before
  | some (g, true) => ∃ text, w.disk.files path = some (Utf8.encode text)
      ∧ toml.parse text = .ok [("peer", .string g.peer.display), ("profile", .string g.profile)]
  | some (_, false) => True

lemma Noted.of_same (h : Noted toml before w path) (hsaves : newest w'.saves path
    = newest w.saves path) (hfiles : w'.disk.files path = w.disk.files path) :
    Noted toml before w' path := by
  rw [Noted, hsaves, hfiles]
  exact h

/-- A save that succeeds leaves its table in the file. -/
lemma saveLast_ok (hround : toml.RoundTrips) {disk disk' : Disk} {peer profile : String}
    (h : saveLast toml disk path peer profile = (true, disk')) :
    ∃ text, disk'.files path = some (Utf8.encode text)
      ∧ toml.parse text = .ok [("peer", .string peer), ("profile", .string profile)] := by
  rw [saveLast] at h
  split at h
  · cases h
  · rename_i text htext
    have hwrite : ((disk.write path text).1.isOk, (disk.write path text).2) = (true, disk') := h
    rw [Disk.write] at hwrite
    split at hwrite
    · cases hwrite
    · cases hwrite
      refine ⟨text, Function.update_self ..,
        hround [("peer", peer), ("profile", profile)] _ ?_ htext⟩
      show ["peer", "profile"].Nodup
      decide

/-- What each step does to the file of a last connection. -/
lemma step_noted (hround : toml.RoundTrips) (hapart : Apart paths)
    (hpath : path ∈ [Paths.lastconn paths.warp, Paths.lastconn paths.masque])
    (hn : Noted toml before w path) (h : step toml paths w e = some w') :
    Noted toml before w' path := by
  rcases step_moved h with ⟨hfiles, hsaves⟩ | ⟨net, inner, protocol, hdisk, hsaves⟩
      | ⟨q, g, ok, -, hdisk, hsaves⟩
  · exact hn.of_same (by rw [hsaves]) (by rw [hfiles])
  · obtain ⟨hwarp, hsecondary, hmasque⟩ := hapart.last path hpath
    refine hn.of_same (by rw [hsaves]) ?_
    rw [hdisk]
    exact identities_frame protocol hwarp hsecondary hmasque
  · by_cases hq : q = path
    · subst hq
      have hnew : newest w'.saves q = some (g, ok) := by
        rw [hsaves, newest, List.find?_cons_of_pos (by simp)]
        rfl
      rw [Noted, hnew]
      cases ok with
      | false => trivial
      | true => exact saveLast_ok hround hdisk
    · refine hn.of_same ?_ ?_
      · rw [hsaves, newest, List.find?_cons_of_neg (by simpa using hq)]
        rfl
      · have hframe : (saveLast toml w.disk q g.peer.display g.profile).2.files path
            = w.disk.files path := saveLast_frame (Ne.symm hq)
        rw [hdisk] at hframe
        exact hframe

/-- The file of a save that was written is loaded. -/
lemma Noted.load (h : Noted toml before w path) (hnew : newest w.saves path = some (g, true))
    (hread : w.disk.unreadable path = none) :
    loadLast toml w.disk path = some ⟨g.peer.display, g.profile⟩ := by
  rw [Noted, hnew] at h
  obtain ⟨text, hfile, hparse⟩ := h
  rw [loadLast, Disk.Holds.readToString ⟨hfile, hread⟩]
  dsimp only
  rw [hparse]
  rfl

/-- The candidate of a loop that has loaded a gateway. -/
lemma load_quickPeer {d : Driver π} (hforced : d.forced = none) (hport : g.peer.port < 65536)
    (s : State π) (answer ok : Bool) (mode : Prober.ScanMode) (ip : Prober.IpScan) :
    (d.load s (some ⟨g.peer.display, g.profile⟩) answer ok mode ip).quickPeer
      = if ok && d.wantQuick.getD answer then some ⟨g.peer, d.cachedProfile g.profile⟩
        else none := by
  show (d.cached _ answer).filter (fun _ => ok) = _
  rw [Driver.cached, hforced, if_pos Option.isNone_none, Option.bind_some,
    SocketAddr.parse_display hport, Option.bind_some]
  cases ok <;> cases d.wantQuick.getD answer <;> rfl

/-- The loop that a turn leads to. -/
lemma turn_process {d : Driver π} {s : State π} {mk : State π → Process} {e : Reconnect.Event}
    (h : turn toml d path w s mk e = some w') :
    ∃ t, d.step s (fromFile (loadLast toml w.disk path) e) = some t ∧ w'.process = mk t := by
  obtain ⟨t, ht, heq⟩ := Option.map_eq_some_iff.mp h
  refine ⟨t, ht, ?_⟩
  cases hsaved : saved s t with
  | none =>
      rw [hsaved] at heq
      cases heq
      rfl
  | some g =>
      rw [hsaved] at heq
      cases heq
      rfl

lemma turn_load {d : Driver π} {mk : State π → Process} {last : Option LastConnection}
    {answer ok : Bool} {mode : Prober.ScanMode} {ip : Prober.IpScan}
    (hlast : loadLast toml w.disk path = some ⟨g.peer.display, g.profile⟩)
    (hforced : d.forced = none) (hport : g.peer.port < 65536)
    (h : turn toml d path w .start mk (.load last answer ok mode ip) = some w') :
    ∃ t, w'.process = mk t
      ∧ t.quickPeer = if ok && d.wantQuick.getD answer then
          some ⟨g.peer, d.cachedProfile g.profile⟩ else none := by
  obtain ⟨t, ht, hprocess⟩ := turn_process h
  refine ⟨t, hprocess, ?_⟩
  rw [fromFile, hlast] at ht
  have hload : some (d.load .start (some ⟨g.peer.display, g.profile⟩) answer ok mode ip)
      = some t := ht
  cases hload
  exact load_quickPeer hforced hport _ answer ok mode ip

/-- **The candidate of the quick reconnect is the last gateway that was saved**, by whatever start
of the protocol, where the five paths are different: a loop that begins when its file was last written with a gateway, and that has no
forced peer, checks this gateway if the user agrees and takes it if it passes, under its profile
for WireGuard and under the current one for MASQUE. A file that nobody has saved to is as it
was. -/
theorem candidate_is_last_saved (toml : Toml) (hround : toml.RoundTrips) (config : Env)
    (hpaths : (pathsOf config).all.Nodup) (w₀ w : World) (hfresh : w₀.saves = []) (es : List Event)
    (hrun : run (step toml (pathsOf config)) w₀ es = some w) :
    (∀ path ∈ [Paths.lastconn (pathsOf config).warp, Paths.lastconn (pathsOf config).masque],
      newest w.saves path = none → w.disk.files path = w₀.disk.files path)
    ∧ (∀ env g last answer ok mode ip w', w.process = .masque env .start →
        newest w.saves (Paths.lastconn (pathsOf config).masque) = some (g, true) →
        g.peer.port < 65536 →
        w.disk.unreadable (Paths.lastconn (pathsOf config).masque) = none →
        env "AETHER_PEER" = none →
        step toml (pathsOf config) w (.turn (.load last answer ok mode ip)) = some w' →
        ∃ t, w'.process = .masque env t
          ∧ t.quickPeer = if ok && (wantQuickReconnect env).getD answer then
              some ⟨g.peer, masqueProfile env⟩ else none)
    ∧ (∀ env g last answer ok mode ip w', w.process = .wireguard env .start →
        newest w.saves (Paths.lastconn (pathsOf config).warp) = some (g, true) →
        g.peer.port < 65536 →
        w.disk.unreadable (Paths.lastconn (pathsOf config).warp) = none →
        env "AETHER_WG_PEER" = none → env "AETHER_PEER" = none →
        step toml (pathsOf config) w (.turn (.load last answer ok mode ip)) = some w' →
        ∃ t, w'.process = .wireguard env t
          ∧ t.quickPeer = if ok && (wantQuickReconnect env).getD answer then some g
              else none) := by
  have hapart := apart_of_nodup hpaths
  have hnoted : ∀ path ∈ [Paths.lastconn (pathsOf config).warp,
      Paths.lastconn (pathsOf config).masque], Noted toml (w₀.disk.files path) w path := by
    intro path hpath
    refine run_invariant (I := fun w => Noted toml (w₀.disk.files path) w path)
      (fun _ _ _ hn hs => step_noted hround hapart hpath hn hs) ?_ hrun
    rw [Noted, hfresh]
    rfl
  refine ⟨?_, ?_, ?_⟩
  · intro path hpath hnone
    have hn := hnoted path hpath
    rw [Noted, hnone] at hn
    exact hn
  · intro env g last answer ok mode ip w' hprocess hnew hport hread hforced h
    rw [step, hprocess] at h
    exact turn_load ((hnoted _ (by simp)).load hnew hread) hforced hport h
  · intro env g last answer ok mode ip w' hprocess hnew hport hread hwgPeer hpeer h
    rw [step, hprocess] at h
    have hforced : (runWireguard env).forced = none := by
      show (env "AETHER_WG_PEER").orElse (fun _ => env "AETHER_PEER") = none
      rw [hwgPeer, hpeer]
      rfl
    exact turn_load ((hnoted _ (by simp)).load hnew hread) hforced hport h

/-- What `toml` does with these tables, where their strings are plain. -/
def tomlOf (known : List (List (String × String))) : Toml where
  parse text :=
    match known.find? (printed · = text) with
    | some fields => .ok (fields.map fun f => (f.1, .string f.2))
    | none => .error "invalid document"
  toStringPretty fields :=
    if known.contains fields then .ok (printed fields) else .error "unsupported"
  report _ _ := "invalid table"

/-- Tables that are printed as different texts come back. -/
lemma tomlOf_roundTrips {known : List (List (String × String))}
    (h : ∀ p ∈ known, ∀ q ∈ known, printed q = printed p → q = p) :
    (tomlOf known).RoundTrips := by
  intro fields text _ htext
  rw [tomlOf] at htext ⊢
  dsimp only at htext ⊢
  split at htext
  · rename_i hmem
    have hmem := List.contains_iff_mem.mp hmem
    obtain rfl : printed fields = text := Except.ok.inj htext
    cases hfind : known.find? (printed · = printed fields) with
    | none => exact absurd (decide_eq_true rfl) (List.find?_eq_none.mp hfind fields hmem)
    | some q =>
        have hsame := List.find?_some hfind
        rw [decide_eq_true_eq] at hsame
        rw [h fields hmem q (List.mem_of_find?_eq_some hfind) hsame]
  · cases htext

/-- The tables of the sample: an identity and a gateway. -/
def sampleTables : List (List (String × String)) :=
  [(PersistedIdentity.ofIdentity sampleIdentity).serialize,
    [("peer", "162.159.198.1:443"), ("profile", "firewall")]]

/-- A scan finds a gateway. -/
def saving : List Event :=
  [.turn (.load none true true .balanced .v4), .turn (.retry false),
    .turn (.scan [⟨false, 0, [⟨0, .passed ⟨gateway, 443, 20⟩ 1⟩]⟩])]

def Process.isMasque : Process → Bool
  | .masque _ _ => true
  | _ => false

lemma launched_isMasque {env : Env} {protocol : Protocol} {ids : Call (List Identity)}
    (h : (launched env protocol ids).isMasque = true) :
    launched env protocol ids = .masque env .start := by
  cases ids <;> cases protocol <;> first | rfl | cases h

/-- The loop after a start is at its beginning. -/
lemma start_isMasque {env : Env} {answer : Protocol} {net inner : Network}
    (h : step toml paths w (.start env answer net inner) = some w')
    (hmasque : w'.process.isMasque = true) : w'.process = .masque env .start := by
  rw [step, Option.ite_none_right_eq_some] at h
  obtain ⟨-, h⟩ := h
  cases h
  exact launched_isMasque hmasque

theorem candidate_is_last_saved_sample : ∃ w,
    run (step (tomlOf sampleTables) (pathsOf unset)) ⟨emptyDisk, .masque unset .start, []⟩
        (saving ++ [.start unset .masque sampleNetwork offline]) = some w
      ∧ ∀ w', step (tomlOf sampleTables) (pathsOf unset) w
            (.turn (.load none true true .balanced .v4)) = some w' →
          ∃ t, w'.process = .masque unset t
            ∧ t.quickPeer = some ⟨⟨gateway, 443⟩, "firewall"⟩ := by
  have hpath : Paths.lastconn (pathsOf unset).masque = "aether-masque-lastconn.toml" := by
    decide +kernel
  have hrun : (run (step (tomlOf sampleTables) (pathsOf unset))
      ⟨emptyDisk, .masque unset .start, []⟩
        (saving ++ [.start unset .masque sampleNetwork offline])).map (fun w =>
        (w.process.isMasque, newest w.saves "aether-masque-lastconn.toml",
          w.disk.unreadable "aether-masque-lastconn.toml"))
      = some (true, some (⟨⟨gateway, 443⟩, "firewall"⟩, true), none) := by
    decide +kernel
  obtain ⟨w, hw, heq⟩ := Option.map_eq_some_iff.mp hrun
  simp only [Prod.mk.injEq] at heq
  obtain ⟨hmasque, hnew, hread⟩ := heq
  obtain ⟨v, -, hstart⟩ := run_append_eq_some.mp hw
  obtain ⟨_, hstart, heq⟩ := run_cons_eq_some.mp hstart
  cases heq
  refine ⟨w, hw, fun w' h => ?_⟩
  have hround : (tomlOf sampleTables).RoundTrips := tomlOf_roundTrips (by decide +kernel)
  have hpaths : (pathsOf unset).all.Nodup := pathsOf_nodup rfl rfl
  exact (candidate_is_last_saved _ hround unset hpaths _ w rfl _ hw).2.1 unset
    ⟨⟨gateway, 443⟩, "firewall"⟩ none true true .balanced .v4 w' (start_isMasque hstart hmasque)
    (hpath ▸ hnew) (by decide) (hpath ▸ hread) rfl h

end Aether.Restarts
