import Aether.Gui.Tracking

/-!
The reload banner (`ControlPanel.swift`): the controls of the panel, which of them an
`onChange` hook watches, and whether the settings that a core runs with are the ones shown.

* `Control`: an edit in the panel; `Control.events` is what it does to the manager.
* `Panel`: the manager with its settings edited through the panel. The banner is closed by
  `reload` only; that the user may also dismiss it is not part of this machine.
* `fresh_iff`: the core held has the settings shown, or the banner is up, exactly as long as
  no edit that nothing watches changes its arguments.
* `banner_iff`: the same of any live core, while the GUI keeps track of it.
-/

namespace Aether.Gui

open Machine

/-! ### The panel -/

/-- A control of the panel, with the value it is set to. -/
inductive Control where
  | selectedProtocol (v : ProtocolMode)
  | scanMode (v : ScanMode)
  | transportMode (v : TransportMode)
  | ipMode (v : IPMode)
  | obfuscation (v : ObfuscationProfile)
  | bindAddress (v : Text)
  | quickReconnect (v : Bool)
  | echEnabled (v : Bool)
  | fragmentEnabled (v : Bool)
  | fragmentSize (v : Text)
  | fragmentDelay (v : Text)
  | keepalive (v : ℤ)
  deriving DecidableEq

namespace Control

def apply (s : Settings) : Control → Settings
  | selectedProtocol v => { s with selectedProtocol := v }
  | scanMode v => { s with scanMode := v }
  | transportMode v => { s with transportMode := v }
  | ipMode v => { s with ipMode := v }
  | obfuscation v => { s with obfuscation := v }
  | bindAddress v => { s with bindAddress := v }
  | quickReconnect v => { s with quickReconnect := v }
  | echEnabled v => { s with echEnabled := v }
  | fragmentEnabled v => { s with fragmentEnabled := v }
  | fragmentSize v => { s with fragmentSize := v }
  | fragmentDelay v => { s with fragmentDelay := v }
  | keepalive v => { s with keepalive := v }

/-- The panel shows the control, and the control can take the value. -/
def Offered (s : Settings) : Control → Prop
  | transportMode _ | echEnabled _ => s.selectedProtocol = .masque
  | fragmentEnabled _ => s.selectedProtocol = .masque ∧ s.transportMode = .h2
  | fragmentSize _ | fragmentDelay _ =>
      s.selectedProtocol = .masque ∧ s.transportMode = .h2 ∧ s.fragmentEnabled = true
  | keepalive v => s.selectedProtocol ≠ .masque ∧ 1 ≤ v ∧ v ≤ 60
  | _ => True

instance (s : Settings) : ∀ c : Control, Decidable (c.Offered s)
  | transportMode _ | echEnabled _ => inferInstanceAs (Decidable (_ = _))
  | fragmentEnabled _ => inferInstanceAs (Decidable (_ ∧ _))
  | fragmentSize _ | fragmentDelay _ => inferInstanceAs (Decidable (_ ∧ _ ∧ _))
  | keepalive _ => inferInstanceAs (Decidable (_ ∧ _ ∧ _))
  | selectedProtocol _ | scanMode _ | ipMode _ | obfuscation _ | bindAddress _
  | quickReconnect _ => .isTrue trivial

/-- The controls with an `onChange` hook. -/
def hooked : Control → Bool
  | bindAddress _ | fragmentSize _ | fragmentDelay _ => false
  | _ => true

/-- The setter, and the hook where the value is another one. -/
def events (s : Settings) (c : Control) : List Ev :=
  match c with
  | bindAddress v => [.setBindAddress v]
  | c => .edit (c.apply s) :: if c.hooked && c.apply s ≠ s then [.markSettingsChanged] else []

end Control

/-- The other events of the manager, and no edit that does not come from the panel. -/
def Ev.offPanel : Ev → Bool
  | edit _ | markSettingsChanged | setBindAddress _ | dismiss => false
  | _ => true

namespace Panel

open Manager

inductive Event where
  | set (c : Control)
  | other (e : Ev)
  deriving DecidableEq

def step (s : Manager) : Event → Option Manager
  | .set c => if c.Offered s.settings then run Manager.step s (c.events s.settings) else none
  | .other e => if e.offPanel then Manager.step s e else none

/-- If the banner is down, every live core was started with the arguments of the settings
shown. -/
def Shown (s : Manager) : Prop :=
  ∀ id, s.Alive id → s.needsReload = false →
    s.settings.buildArguments = (s.cores id).arguments

/-- The same of the process held. -/
def Fresh (s : Manager) : Prop :=
  ∀ id, s.process = some id → (s.cores id).isRunning = true → s.needsReload = false →
    s.settings.buildArguments = (s.cores id).arguments

/-- The control does not change the arguments while a core is held and the banner is down. -/
def Harmless (s : Manager) (c : Control) : Prop :=
  s.isRunning = true → s.needsReload = false →
    (c.apply s.settings).buildArguments = s.settings.buildArguments

instance (s : Manager) (c : Control) : Decidable (Harmless s c) :=
  inferInstanceAs (Decidable (_ = true → _ = false → _))

/-- **The condition of `banner_iff`**: the two controls that nothing watches are harmless. -/
def Hooked (s : Manager) : Event → Prop
  | .set (.fragmentSize v) => Harmless s (.fragmentSize v)
  | .set (.fragmentDelay v) => Harmless s (.fragmentDelay v)
  | _ => True

/-! ### The process held -/

/-- A change that leaves the settings, the banner and the processes alone. -/
structure Calm (s t : Manager) : Prop where
  settings : t.settings = s.settings
  needsReload : t.needsReload = s.needsReload
  process : t.process = s.process
  cores : t.cores = s.cores

variable {s t u : Manager}

lemma Calm.refl (s : Manager) : Calm s s := ⟨rfl, rfl, rfl, rfl⟩

lemma Calm.trans (h : Calm s t) (g : Calm t u) : Calm s u :=
  ⟨g.settings.trans h.settings, g.needsReload.trans h.needsReload, g.process.trans h.process,
    g.cores.trans h.cores⟩

lemma Calm.fresh (h : Calm s t) (hs : Fresh s) : Fresh t := by
  intro id hid hrun hbanner
  rw [h.process] at hid
  rw [h.cores] at hrun
  rw [h.needsReload] at hbanner
  rw [h.settings, h.cores]
  exact hs id hid hrun hbanner

/-- Without a core the banner has nothing to say. -/
lemma fresh_of_idle (h : s.isRunning = false) : Fresh s := by
  intro id hid hrun _
  rw [isRunning, hid] at h
  exact absurd (hrun.symm.trans h) Bool.noConfusion

lemma idle_of_process (h : s.process = none) : s.isRunning = false := by rw [isRunning, h]

lemma addLog_calm (message : Text) (s : Manager) : Calm s (s.addLog message) := by
  rw [addLog_eq]
  exact ⟨rfl, rfl, rfl, rfl⟩

lemma releaseProxy_calm (s : Manager) : Calm s s.releaseProxy := by
  rw [releaseProxy]
  split
  · exact ⟨rfl, rfl, rfl, rfl⟩
  · exact .refl s

lemma setSystemProxyEnabled_calm (enabled : Bool) (s : Manager) :
    Calm s (s.setSystemProxyEnabled enabled) := by
  rw [setSystemProxyEnabled]
  dsimp only
  split_ifs <;> exact ⟨rfl, rfl, rfl, rfl⟩

lemma advance_calm {j : Job} {o : Outcome} (h : s.advance j o = some t) : Calm s t := by
  rw [advance.eq_def] at h
  split at h <;> cases h <;> exact ⟨rfl, rfl, rfl, rfl⟩

/-- A core runs with the arguments of the settings shown. -/
lemma runProcess_fresh (s : Manager) : Fresh s.runProcess := by
  intro id hid _ _
  cases Option.some.inj hid
  show _ = (Function.update s.cores s.launched _ s.launched).arguments
  rw [Function.update_self]
  rfl

lemma start_fresh (l : Launch) (hs : Fresh s) : Fresh (s.start l) := by
  by_cases hrun : s.isRunning
  · rw [start, if_pos hrun]
    exact hs
  by_cases hl : l = .launched
  · rw [hl, start, if_neg hrun]
    exact runProcess_fresh _
  · exact fresh_of_idle ((start_same hl s).isRunning.trans (Bool.eq_false_iff.mpr hrun))

lemma restart_idle (s : Manager) : s.restart.isRunning = false := by
  by_cases hrun : s.isRunning
  · refine idle_of_process ?_
    rw [restart, if_pos hrun]
    show (releaseProxy _).process = none
    rw [(releaseProxy_calm _).process]
    rfl
  · rw [restart, if_neg hrun]
    exact Bool.eq_false_iff.mpr hrun

lemma reload_idle (s : Manager) : s.reload.isRunning = false := by
  rw [reload]
  split
  · exact restart_idle _
  case isFalse hrun => exact Bool.eq_false_iff.mpr hrun

/-- That a process exits changes no arguments. -/
lemma exit_fresh {id : ℕ} (hs : Fresh s) {bs : List Block} : Fresh { s with
    blocks := bs
    cores := Function.update s.cores id { s.cores id with isRunning := false } } := by
  intro i hi hrun hbanner
  dsimp only at hi hrun hbanner ⊢
  by_cases hid : i = id
  · rw [hid, Function.update_self] at hrun
    cases hrun
  · rw [Function.update_of_ne hid] at hrun ⊢
    exact hs i hi hrun hbanner

/-- An event outside the panel keeps the arguments of the core held those of the settings shown,
or the banner up. -/
lemma other_fresh {e : Ev} (hs : Fresh s) (he : e.offPanel = true)
    (h : Manager.step s e = some t) : Fresh t := by
  cases e with
  | edit settings => cases he
  | markSettingsChanged => cases he
  | setBindAddress address => cases he
  | dismiss => cases he
  | start l => exact Option.some.inj h ▸ start_fresh l hs
  | stop => exact Option.some.inj h ▸ fresh_of_idle (idle_of_process (stop_letGo s).process)
  | restart => exact Option.some.inj h ▸ fresh_of_idle (restart_idle s)
  | reload => exact Option.some.inj h ▸ fresh_of_idle (reload_idle s)
  | setSystemProxyEnabled enabled =>
      exact Option.some.inj h ▸ (setSystemProxyEnabled_calm enabled s).fresh hs
  | exit id status =>
      obtain ⟨-, rfl⟩ := step_exit h
      exact exit_fresh hs
  | read message =>
      rw [step_read h]
      exact Calm.fresh ⟨rfl, rfl, rfl, rfl⟩ hs
  | job j o =>
      have htake : Calm s { s with jobs := s.jobs.erase j } := ⟨rfl, rfl, rfl, rfl⟩
      exact (htake.trans (advance_calm (step_job h).2)).fresh hs
  | block b l =>
      obtain ⟨-, rfl⟩ := step_block h
      have htake : Calm s { s with blocks := s.blocks.erase b } := ⟨rfl, rfl, rfl, rfl⟩
      have hset : ∀ (m : Manager) (active : Bool), Calm m { m with systemProxyActive := active } :=
        fun _ _ => ⟨rfl, rfl, rfl, rfl⟩
      cases b with
      | log message => exact (htake.trans (addLog_calm message _)).fresh hs
      | terminated id status =>
          exact fresh_of_idle (idle_of_process (onTerminated_handled status _).process)
      | start => exact start_fresh l (htake.fresh hs)
      | proxyEnabled port => exact ((htake.trans (hset _ true)).trans (addLog_calm _ _)).fresh hs
      | proxyDisabled => exact ((htake.trans (hset _ false)).trans (addLog_calm _ _)).fresh hs
      | proxyError message => exact (htake.trans (addLog_calm message _)).fresh hs

/-! ### Edits -/

lemma step_edit_of_bind {settings : Settings}
    (h : settings.bindAddress = s.settings.bindAddress) :
    Manager.step s (.edit settings) = some { s with settings := settings } := if_pos h

lemma run_edit (settings : Settings) (h : settings.bindAddress = s.settings.bindAddress) :
    run Manager.step s [.edit settings] = some { s with settings := settings } := by
  rw [run_cons, step_edit_of_bind h]
  rfl

lemma events_fragmentSize (settings : Settings) (v : Text) :
    (Control.fragmentSize v).events settings = [.edit { settings with fragmentSize := v }] := by
  simp [Control.events, Control.hooked, Control.apply]

lemma events_fragmentDelay (settings : Settings) (v : Text) :
    (Control.fragmentDelay v).events settings = [.edit { settings with fragmentDelay := v }] := by
  simp [Control.events, Control.hooked, Control.apply]

/-- The banner is up, or there is no core. -/
lemma markSettingsChanged_fresh (s : Manager) : Fresh s.markSettingsChanged := by
  rw [markSettingsChanged]
  split
  · intro id _ _ hbanner
    cases hbanner
  case isFalse hrun => exact fresh_of_idle (Bool.eq_false_iff.mpr hrun)

/-- A control with a hook puts the banner up, or there is no core, or nothing changes. -/
lemma set_hooked {c : Control} (hc : c.hooked = true) (hs : Fresh s)
    (h : run Manager.step s (c.events s.settings) = some t) : Fresh t := by
  have hbind : (c.apply s.settings).bindAddress = s.settings.bindAddress := by
    cases c <;> first | rfl | cases hc
  have hevents : c.events s.settings = .edit (c.apply s.settings) ::
      if c.apply s.settings ≠ s.settings then [.markSettingsChanged] else [] := by
    cases c <;> first | exact absurd hc Bool.false_ne_true | simp [Control.events, Control.hooked]
  rw [hevents, run_cons, step_edit_of_bind hbind, Option.bind_some] at h
  split at h
  · cases h
    exact markSettingsChanged_fresh _
  case isFalse hsame =>
    cases h
    rw [not_not.mp hsame]
    exact hs

/-- A control without a hook leaves the banner right exactly when it is harmless. -/
lemma edit_fresh_iff {settings : Settings} (hs : Fresh s) :
    Fresh { s with settings := settings } ↔ (s.isRunning = true → s.needsReload = false →
      settings.buildArguments = s.settings.buildArguments) := by
  constructor
  · intro ht hrun hbanner
    obtain ⟨id, hid⟩ : ∃ id, s.process = some id := by
      cases hp : s.process with
      | none => rw [idle_of_process hp] at hrun; cases hrun
      | some id => exact ⟨id, rfl⟩
    have hcore : (s.cores id).isRunning = true := by
      rw [isRunning, hid] at hrun
      exact hrun
    exact (ht id hid hcore hbanner).trans (hs id hid hcore hbanner).symm
  · intro h id hid hcore hbanner
    have hrun : s.isRunning = true := by
      rw [isRunning, show s.process = some id from hid]
      exact hcore
    exact (h hrun hbanner).trans (hs id hid hcore hbanner)

/-- A control that is an edit and nothing else. -/
lemma set_silent {c : Control} {settings : Settings}
    (hevents : c.events s.settings = [.edit settings])
    (hbind : settings.bindAddress = s.settings.bindAddress) (hs : Fresh s)
    (h : run Manager.step s (c.events s.settings) = some t) :
    (s.isRunning = true → s.needsReload = false →
      settings.buildArguments = s.settings.buildArguments) ↔ Fresh t := by
  rw [hevents, run_edit _ hbind] at h
  cases h
  exact (edit_fresh_iff hs).symm

/-- Setting the bind address restarts the core, unless it is set to what it is. -/
lemma setBindAddress_fresh (address : Text) (hs : Fresh s) :
    Fresh (s.setBindAddress address) := by
  rw [setBindAddress]
  split
  · exact fresh_of_idle (restart_idle _)
  case isFalse h =>
    refine (edit_fresh_iff hs).mpr ?_
    intro hrun _
    have hsame : address = s.settings.bindAddress := by
      by_contra hne
      exact h (by rw [Bool.and_eq_true]; exact ⟨hrun, decide_eq_true hne⟩)
    rw [hsame]

/-- **The step lemma**: what the panel does leaves the banner right exactly when the control
that is set is watched or harmless. -/
lemma hooked_iff {e : Event} (hs : Fresh s) (h : step s e = some t) : Hooked s e ↔ Fresh t := by
  cases e with
  | other e =>
      obtain ⟨he, hstep⟩ := Option.ite_none_right_eq_some.mp h
      exact iff_of_true trivial (other_fresh hs he hstep)
  | set c =>
      obtain ⟨-, hrun⟩ := Option.ite_none_right_eq_some.mp h
      cases c with
      | bindAddress v =>
          cases hrun
          exact iff_of_true trivial (setBindAddress_fresh v hs)
      | fragmentSize v => exact set_silent (events_fragmentSize _ v) rfl hs hrun
      | fragmentDelay v => exact set_silent (events_fragmentDelay _ v) rfl hs hrun
      | _ => exact iff_of_true trivial (set_hooked rfl hs hrun)

/-! ### Runs -/

lemma init_idle (settings : Settings) (enabled : Bool) (service : Text) :
    (init settings enabled service).isRunning = false := rfl

variable {settings : Settings} {enabled : Bool} {service : Text} {es : List Event}

/-- **The banner is right about the core held**, in every state of a run, exactly when the
controls that nothing watches are harmless whenever they are set. -/
theorem fresh_iff (h : run step (init settings enabled service) es = some u) :
    Meets step Hooked (init settings enabled service) es
      ↔ Always step Fresh (init settings enabled service) es :=
  meets_iff_always (I := fun _ => True) (fun _ _ _ _ _ => trivial)
    (fun _ _ _ _ hs ht => hooked_iff hs ht) trivial (fresh_of_idle (init_idle _ _ _)) h

/-- The GUI keeps track of its core, as in `tracked_iff`. -/
def Keeps (s : Manager) : Event → Prop
  | .set _ => True
  | .other e => Own s e

instance (s : Manager) : ∀ e : Event, Decidable (Keeps s e)
  | .set _ => .isTrue trivial
  | .other e => inferInstanceAs (Decidable (Own s e))

instance (s : Manager) : ∀ e : Event, Decidable (Hooked s e)
  | .set (.fragmentSize v) => inferInstanceAs (Decidable (Harmless s (.fragmentSize v)))
  | .set (.fragmentDelay v) => inferInstanceAs (Decidable (Harmless s (.fragmentDelay v)))
  | .other _ => .isTrue trivial
  | .set (.selectedProtocol _) | .set (.scanMode _) | .set (.transportMode _) | .set (.ipMode _)
  | .set (.obfuscation _) | .set (.bindAddress _) | .set (.quickReconnect _) | .set (.echEnabled _)
  | .set (.fragmentEnabled _) | .set (.keepalive _) => .isTrue trivial

/-- The events of a control run no termination handler. -/
lemma events_handler {settings : Settings} {c : Control} {e : Ev} (h : e ∈ c.events settings) :
    e.handler = none := by
  have hedit : ∀ {new : Settings} {p : Prop} [Decidable p],
      e ∈ Ev.edit new :: (if p then [.markSettingsChanged] else []) → e.handler = none := by
    intro new p _ hmem
    rcases List.mem_cons.mp hmem with rfl | hmem
    · rfl
    · split at hmem
      · rw [List.mem_singleton.mp hmem]
        rfl
      · cases hmem
  cases c with
  | bindAddress v =>
      rw [List.mem_singleton.mp h]
      rfl
  | _ => exact hedit h

/-- One step keeps the books, and keeps track where the handlers are in time. -/
lemma step_keeps {e : Event} (hs : Books s ∧ Tracked s) (hk : Keeps s e)
    (h : step s e = some t) : Books t ∧ Tracked t := by
  cases e with
  | set c =>
      obtain ⟨-, hrun⟩ := Option.ite_none_right_eq_some.mp h
      have hfree : Meets Manager.step (fun _ e => e.handler = none) s (c.events s.settings) :=
        meets_of_forall fun _ he _ => events_handler he
      refine run_invariant_of_meets (I := fun s => Books s ∧ Tracked s) ?_ hs hfree hrun
      intro m e m' hm he hstep
      exact ⟨step_books hm.1 hstep, (step_moved hstep he).tracked hm.2⟩
  | other e =>
      obtain ⟨-, hstep⟩ := Option.ite_none_right_eq_some.mp h
      exact ⟨step_books hs.1 hstep, ((step_own_iff hs.1 hs.2 hstep).mp hk).1⟩

/-- While the GUI keeps track, the live core is the one held. -/
lemma shown_iff_fresh (hb : Books s) (ht : Tracked s) : Shown s ↔ Fresh s := by
  constructor
  · intro h id hid hrun hbanner
    obtain ⟨hlt, hterm⟩ := hb.held id hid
    exact h id ⟨hlt, hrun, hterm⟩ hbanner
  · intro h id hid hbanner
    exact h id (ht.held id hid) hid.2.1 hbanner

/-- **The banner is right about every live core**, in every state of a run in which the GUI
keeps track of its core, exactly when the controls that nothing watches are harmless whenever
they are set. -/
theorem banner_iff (h : run step (init settings enabled service) es = some u)
    (hk : Meets step Keeps (init settings enabled service) es) :
    Meets step Hooked (init settings enabled service) es
      ↔ Always step Shown (init settings enabled service) es := by
  rw [fresh_iff h]
  have htrack : Always step (fun s => Books s ∧ Tracked s) (init settings enabled service) es :=
    always_of_meets (fun _ _ _ hs hk ht => step_keeps hs hk ht)
      ⟨init_books _ _ _, init_tracked _ _ _⟩ hk
  constructor
  · intro hall fs v hfs hv
    obtain ⟨hb, ht⟩ := htrack fs v hfs hv
    exact (shown_iff_fresh hb ht).mpr (hall fs v hfs hv)
  · intro hall fs v hfs hv
    obtain ⟨hb, ht⟩ := htrack fs v hfs hv
    exact (shown_iff_fresh hb ht).mp (hall fs v hfs hv)

/-- HTTP/2 with fragmentation, as the panel offers its two text fields. -/
def fragmenting : Settings :=
  { Settings.initial with transportMode := .h2, fragmentEnabled := true }

/-- The scan mode is edited, the banner is followed, and the size is edited while no core is
held. -/
theorem banner_iff_reload :
    Always step Shown (init fragmenting false []) [.other (.start .launched),
      .set (.scanMode .stealth), .other .reload, .set (.fragmentSize (text "1-2")),
      .other (.block .start .launched), .other (.exit 0 15)] := by
  obtain ⟨u, hu⟩ := Option.isSome_iff_exists.mp
    (show (run step (init fragmenting false []) [.other (.start .launched),
      .set (.scanMode .stealth), .other .reload, .set (.fragmentSize (text "1-2")),
      .other (.block .start .launched), .other (.exit 0 15)]).isSome by decide +kernel)
  exact (banner_iff hu (by decide +kernel)).mp (by decide +kernel)

/-- The fragment size is edited while the core runs: the core goes on with the old one, and
there is no banner. -/
theorem fragment_size_silent :
    ¬ ∀ (settings : Settings) (enabled : Bool) (service : Text) (es : List Event) (u : Manager),
      run step (init settings enabled service) es = some u → Shown u := by
  intro hall
  have hrun : (run step (init fragmenting false []) [.other (.start .launched),
      .set (.fragmentSize (text "1-2"))]).map (fun u => (u.launched, u.cores 0, u.needsReload,
        u.settings))
      = some (1, ⟨fragmenting.buildArguments, true, false⟩, false,
          { fragmenting with fragmentSize := text "1-2" }) := by
    decide +kernel
  obtain ⟨u, hu, heq⟩ := Option.map_eq_some_iff.mp hrun
  simp only [Prod.mk.injEq] at heq
  obtain ⟨hlaunched, hcore, hbanner, hsettings⟩ := heq
  have halive : u.Alive 0 := by
    rw [Alive, hlaunched, hcore]
    exact ⟨Nat.one_pos, rfl, rfl⟩
  have hsame := hall _ _ _ _ u hu 0 halive hbanner
  rw [hsettings, hcore] at hsame
  revert hsame
  decide +kernel

end Panel
end Aether.Gui
