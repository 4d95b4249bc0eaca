import Aether.Gui.Manager
import Aether.Lib.Machine

/-!
Which core process the GUI holds.

* `Same`: a change that leaves the processes alone; `step_moved` says what every other step
  does to them.
* `Books`: the process held has not been sent `terminate()`, and a handler that is to run
  belongs to a process that has exited.
* `tracked_iff`: every live process is the one held, and no exit of another one is shown,
  exactly as long as each handler runs before another process is held.
-/

namespace Aether.Gui

open Machine

namespace Manager

/-! ### What a step does to the processes -/

/-- The processes are as before, `disconnected` is not newly shown, and no handler is
added. -/
structure Same (s t : Manager) : Prop where
  process : t.process = s.process
  cores : t.cores = s.cores
  launched : t.launched = s.launched
  shown : t.connectionState = .disconnected → s.connectionState = .disconnected
  handlers : ∀ id status, .terminated id status ∈ t.blocks → .terminated id status ∈ s.blocks

lemma Same.refl (s : Manager) : Same s s := ⟨rfl, rfl, rfl, id, fun _ _ h => h⟩

lemma Same.trans {s t u : Manager} (h : Same s t) (g : Same t u) : Same s u where
  process := g.process.trans h.process
  cores := g.cores.trans h.cores
  launched := g.launched.trans h.launched
  shown hu := h.shown (g.shown hu)
  handlers id status hu := h.handlers id status (g.handlers id status hu)

/-- The handle that is held tells the same. -/
lemma Same.isRunning {s t : Manager} (h : Same s t) : t.isRunning = s.isRunning := by
  rw [Manager.isRunning, Manager.isRunning, h.process, h.cores]

/-- A change that leaves the processes, what is shown and the blocks alone. -/
lemma same_of_eq {s t : Manager} (hprocess : t.process = s.process) (hcores : t.cores = s.cores)
    (hlaunched : t.launched = s.launched) (hshown : t.connectionState = s.connectionState)
    (hblocks : t.blocks = s.blocks) : Same s t where
  process := hprocess
  cores := hcores
  launched := hlaunched
  shown h := hshown ▸ h
  handlers _ _ h := hblocks ▸ h

lemma addLog_same (message : Text) (s : Manager) : Same s (s.addLog message) := by
  rw [addLog_eq]
  refine ⟨rfl, rfl, rfl, ?_, fun _ _ h => h⟩
  intro h
  cases hr : rule message with
  | none => rw [hr] at h; exact h
  | some c => rw [hr] at h; exact absurd (hr.trans (congrArg some h)) (rule_ne_disconnected message)

lemma connectionState_same {c : ConnectionState} (hc : c ≠ .disconnected) (s : Manager) :
    Same s { s with connectionState := c } :=
  ⟨rfl, rfl, rfl, fun h => absurd h hc, fun _ _ h => h⟩

lemma async_same (j : Job) (s : Manager) : Same s (s.async j) :=
  same_of_eq rfl rfl rfl rfl rfl

lemma asyncMain_same {b : Block} (hb : ∀ id status, b ≠ .terminated id status) (s : Manager) :
    Same s (s.asyncMain b) where
  process := rfl
  cores := rfl
  launched := rfl
  shown h := h
  handlers id status h := by
    rcases List.mem_append.mp h with h | h
    · exact h
    · exact absurd (List.mem_singleton.mp h).symm (hb id status)

lemma releaseProxy_same (s : Manager) : Same s s.releaseProxy := by
  rw [releaseProxy]
  split
  · exact async_same _ _
  · exact .refl s

/-- The process held is sent `terminate()` and let go. -/
structure LetGo (s t : Manager) : Prop where
  process : t.process = none
  cores : t.cores = s.terminatedCores
  launched : t.launched = s.launched
  handlers : ∀ id status, .terminated id status ∈ t.blocks → .terminated id status ∈ s.blocks

lemma LetGo.trans {s t u : Manager} (h : LetGo s t) (g : Same t u) : LetGo s u where
  process := g.process.trans h.process
  cores := g.cores.trans h.cores
  launched := g.launched.trans h.launched
  handlers id status hu := h.handlers id status (g.handlers id status hu)

/-- A process ends, and its handler is to run. -/
structure Exited (s t : Manager) (id : ℕ) : Prop where
  lt : id < s.launched
  process : t.process = s.process
  cores : t.cores = Function.update s.cores id { s.cores id with isRunning := false }
  launched : t.launched = s.launched
  shown : t.connectionState = .disconnected → s.connectionState = .disconnected
  handlers : ∀ i status, .terminated i status ∈ t.blocks →
    .terminated i status ∈ s.blocks ∨ i = id

/-- What a step does to the processes, other than the block of a termination handler. -/
inductive Moved (s : Manager) : Manager → Prop where
  | same {t : Manager} : Same s t → Moved s t
  /-- A process is run, with none running before. -/
  | ran {m : Manager} : s.isRunning = false → Same s m → m.connectionState ≠ .disconnected →
      Moved s m.runProcess
  | letGo {t : Manager} : LetGo s t → Moved s t
  | exited {id : ℕ} {t : Manager} : Exited s t id → Moved s t

lemma Same.moved {s m t : Manager} (h : Same s m) (g : Moved m t) : Moved s t := by
  cases g with
  | same g => exact .same (h.trans g)
  | ran hrun hsame hshown => exact .ran (h.isRunning ▸ hrun) (h.trans hsame) hshown
  | letGo g =>
      refine .letGo ⟨g.process, g.cores.trans ?_, g.launched.trans h.launched,
        fun id status hu => h.handlers id status (g.handlers id status hu)⟩
      rw [terminatedCores, terminatedCores, h.process, h.cores]
  | @exited id _ g =>
      have hexit : Exited s t id := by
        refine ⟨h.launched ▸ g.lt, g.process.trans h.process, ?_,
          g.launched.trans h.launched, fun hu => h.shown (g.shown hu),
          fun i status hu => (g.handlers i status hu).imp_left (h.handlers i status)⟩
        rw [g.cores, h.cores]
      exact .exited hexit

/-- The block of a termination handler lets whatever is held go. -/
structure Handled (s t : Manager) : Prop where
  process : t.process = none
  cores : t.cores = s.cores
  launched : t.launched = s.launched
  connectionState : t.connectionState = .disconnected
  handlers : ∀ id status, .terminated id status ∈ t.blocks → .terminated id status ∈ s.blocks

/-- A `start` that runs no process leaves them alone. -/
lemma start_same {l : Launch} (hl : l ≠ .launched) (s : Manager) : Same s (s.start l) := by
  rw [start]
  split
  · exact .refl s
  · have hclear : Same s { s with userStopped := false, needsReload := false } :=
      same_of_eq rfl rfl rfl rfl rfl
    cases l with
    | missing =>
        exact (hclear.trans (addLog_same missingMessage _)).trans
          (connectionState_same (by simp) _)
    | failed error =>
        have hscan := hclear.trans (connectionState_same (c := .scanning) (by simp) _)
        exact ((hscan.trans (addLog_same (startingMessage s.settings.buildArguments) _)).trans
          (addLog_same (failedMessage error) _)).trans (connectionState_same (by simp) _)
    | launched => exact absurd rfl hl

/-- A start runs a process if it gets that far, and if it finds none running. -/
lemma start_moved (l : Launch) (s : Manager) : Moved s (s.start l) := by
  by_cases hl : l = .launched
  · rw [hl, start]
    split
    · exact .same (.refl s)
    · rename_i hrun
      rw [Bool.not_eq_true] at hrun
      have hlog := addLog_same (startingMessage s.settings.buildArguments)
        { s with userStopped := false, needsReload := false, connectionState := .scanning }
      refine .ran hrun (Same.trans ?_ hlog) fun h => absurd (hlog.shown h) (by simp)
      exact ⟨rfl, rfl, rfl, fun h => absurd h (by simp), fun _ _ h => h⟩
  · exact .same (start_same hl s)

/-- A stop lets go of the process. -/
lemma stop_letGo (s : Manager) : LetGo s s.stop := by
  have hletGo : LetGo s { ({ s with userStopped := true }).terminate with
      connectionState := .disconnected } := ⟨rfl, rfl, rfl, fun _ _ h => h⟩
  exact (hletGo.trans (releaseProxy_same _)).trans (addLog_same _ _)

lemma restart_moved (s : Manager) : Moved s s.restart := by
  rw [restart]
  split
  · have hletGo : LetGo s { s with userStopped := true }.terminate :=
      ⟨rfl, rfl, rfl, fun _ _ h => h⟩
    have hrelease := hletGo.trans (releaseProxy_same _)
    refine .letGo (LetGo.trans ?_ (asyncMain_same (by simp) _))
    exact ⟨hrelease.process, hrelease.cores, hrelease.launched, hrelease.handlers⟩
  · exact .same (same_of_eq rfl rfl rfl rfl rfl)

lemma reload_moved (s : Manager) : Moved s s.reload := by
  have hclear : Same s { s with needsReload := false } := same_of_eq rfl rfl rfl rfl rfl
  unfold reload
  dsimp only
  split
  · exact hclear.moved (restart_moved _)
  · exact .same hclear

lemma setBindAddress_moved (address : Text) (s : Manager) : Moved s (s.setBindAddress address) := by
  have hset : Same s { s with settings := { s.settings with bindAddress := address } } :=
    same_of_eq rfl rfl rfl rfl rfl
  rw [setBindAddress]
  dsimp only
  split
  · exact hset.moved (restart_moved _)
  · exact .same hset

lemma setSystemProxyEnabled_same (enabled : Bool) (s : Manager) :
    Same s (s.setSystemProxyEnabled enabled) := by
  have hset : Same s { s with systemProxyEnabled := enabled } :=
    same_of_eq rfl rfl rfl rfl rfl
  rw [setSystemProxyEnabled]
  dsimp only
  split_ifs
  · exact hset.trans (async_same _ _)
  · exact hset.trans (async_same _ _)
  · exact hset

lemma markSettingsChanged_same (s : Manager) : Same s s.markSettingsChanged := by
  rw [markSettingsChanged]
  split
  · exact same_of_eq rfl rfl rfl rfl rfl
  · exact .refl s

lemma advance_same {s t : Manager} {j : Job} {o : Outcome} (h : s.advance j o = some t) :
    Same s t := by
  have hset : ∀ (port : Option ℤ) (on : Bool), Same s { s with proxyPort := port, proxyOn := on } :=
    fun _ _ => same_of_eq rfl rfl rfl rfl rfl
  unfold advance at h
  split at h <;> cases h
  · exact async_same _ _
  · exact asyncMain_same (by simp) _
  · exact (hset _ s.proxyOn).trans (async_same _ _)
  · exact (hset s.proxyPort true).trans (asyncMain_same (by simp) _)
  · exact (hset s.proxyPort false).trans (async_same _ _)
  all_goals exact asyncMain_same (by simp) _

lemma onTerminated_handled (status : ℤ) (s : Manager) : Handled s (s.onTerminated status) := by
  have hrelease := releaseProxy_same { s with connectionState := .disconnected }
  have hshown : ({ s with connectionState := .disconnected }.releaseProxy).connectionState
      = .disconnected := by
    rw [releaseProxy]
    split <;> rfl
  unfold onTerminated
  dsimp only
  split
  · exact ⟨rfl, hrelease.cores, hrelease.launched, hshown, hrelease.handlers⟩
  · have hlog := hrelease.trans (addLog_same (exitedMessage status) _)
    refine ⟨rfl, hlog.cores, hlog.launched, ?_, hlog.handlers⟩
    rw [addLog_eq, rule_exitedMessage]
    exact hshown

lemma runBlock_moved (l : Launch) (s : Manager) {b : Block}
    (hb : ∀ id status, b ≠ .terminated id status) : Moved s (s.runBlock l b) := by
  have hset : ∀ active : Bool, Same s { s with systemProxyActive := active } :=
    fun _ => same_of_eq rfl rfl rfl rfl rfl
  cases b with
  | log message => exact .same (addLog_same _ _)
  | terminated id status => exact absurd rfl (hb id status)
  | start => exact start_moved l s
  | proxyEnabled port => exact .same ((hset true).trans (addLog_same _ _))
  | proxyDisabled => exact .same ((hset false).trans (addLog_same _ _))
  | proxyError message => exact .same (addLog_same _ _)

/-- Taking a block or a job leaves the processes alone. -/
lemma erase_same (s : Manager) (b : Block) : Same s { s with blocks := s.blocks.erase b } :=
  ⟨rfl, rfl, rfl, id, fun _ _ h => List.mem_of_mem_erase h⟩

/-- **What a step does to the processes**, other than the block of a handler. -/
lemma step_moved {s t : Manager} {e : Ev} (h : step s e = some t) (he : e.handler = none) :
    Moved s t := by
  cases e with
  | start l => exact Option.some.inj h ▸ start_moved l s
  | stop => exact Option.some.inj h ▸ .letGo (stop_letGo s)
  | restart => exact Option.some.inj h ▸ restart_moved s
  | reload => exact Option.some.inj h ▸ reload_moved s
  | setBindAddress address => exact Option.some.inj h ▸ setBindAddress_moved address s
  | setSystemProxyEnabled enabled =>
      exact Option.some.inj h ▸ .same (setSystemProxyEnabled_same enabled s)
  | edit settings => exact step_edit h ▸ .same (same_of_eq rfl rfl rfl rfl rfl)
  | markSettingsChanged => exact Option.some.inj h ▸ .same (markSettingsChanged_same s)
  | dismiss => exact Option.some.inj h ▸ .same (same_of_eq rfl rfl rfl rfl rfl)
  | exit id status =>
      obtain ⟨hlt, rfl⟩ := step_exit h
      refine @Moved.exited _ id _ ⟨hlt, rfl, rfl, rfl, fun h => h, ?_⟩
      intro i st hmem
      rcases List.mem_append.mp hmem with hmem | hmem
      · exact .inl hmem
      · cases List.mem_singleton.mp hmem
        exact .inr rfl
  | read message => exact step_read h ▸ .same (asyncMain_same (by simp) s)
  | job j o =>
      have htake : Same s { s with jobs := s.jobs.erase j } := same_of_eq rfl rfl rfl rfl rfl
      exact .same (htake.trans (advance_same (step_job h).2))
  | block b l =>
      obtain ⟨-, rfl⟩ := step_block h
      refine (erase_same s b).moved (runBlock_moved l _ ?_)
      rintro id status rfl
      cases he

/-- A termination handler runs once it is queued. -/
lemma step_handled {s t : Manager} {id : ℕ} {status : ℤ} {l : Launch}
    (h : step s (.block (.terminated id status) l) = some t) :
    .terminated id status ∈ s.blocks ∧ Handled s t := by
  obtain ⟨hmem, rfl⟩ := step_block h
  have htake := erase_same s (.terminated id status)
  have hhandled := onTerminated_handled status
    { s with blocks := s.blocks.erase (.terminated id status) }
  exact ⟨hmem, hhandled.process, hhandled.cores, hhandled.launched, hhandled.connectionState,
    fun i st hi => htake.handlers i st (hhandled.handlers i st hi)⟩

/-! ### What holds of the processes -/

/-- A core process that was launched and has neither exited nor been sent `terminate()`. -/
def Alive (s : Manager) (id : ℕ) : Prop :=
  id < s.launched ∧ (s.cores id).isRunning = true ∧ (s.cores id).terminated = false

/-- The live process is the one held, so that it is shown as running and can be stopped, and
there is at most one. -/
structure Tracked (s : Manager) : Prop where
  held : ∀ id, s.Alive id → s.process = some id
  isRunning : ∀ id, s.Alive id → s.isRunning = true
  one : ∀ i j, s.Alive i → s.Alive j → i = j

lemma tracked_of_held {s : Manager} (h : ∀ id, s.Alive id → s.process = some id) : Tracked s where
  held := h
  isRunning id hid := by rw [Manager.isRunning, h id hid]; exact hid.2.1
  one i j hi hj := Option.some.inj ((h i hi).symm.trans (h j hj))

/-- What every event keeps: the process held has been launched and not terminated, and is shown as
connected or on the way; and a handler that is queued is of a process that has exited. -/
structure Books (s : Manager) : Prop where
  held : ∀ id, s.process = some id → id < s.launched ∧ (s.cores id).terminated = false
  shown : s.process ≠ none → s.connectionState ≠ .disconnected
  handlers : ∀ id status, .terminated id status ∈ s.blocks →
    id < s.launched ∧ (s.cores id).isRunning = false

/-- The process held is sent `terminate()`, and no other. -/
lemma terminatedCores_terminated {s : Manager} {id : ℕ}
    (h : (s.terminatedCores id).terminated = false) :
    s.process ≠ some id ∧ (s.cores id).terminated = false := by
  cases hheld : s.process with
  | none =>
      simp only [terminatedCores, hheld] at h
      exact ⟨(Option.some_ne_none id).symm, h⟩
  | some held =>
      simp only [terminatedCores, hheld, Function.update_apply] at h
      split at h
      · cases h
      · rename_i hid
        exact ⟨fun heq => hid (Option.some.inj heq).symm, h⟩

/-- A step keeps the books. -/
lemma Moved.books {s t : Manager} (hs : Books s) (h : Moved s t) : Books t := by
  obtain ⟨hheld, hshown, hhandlers⟩ := hs
  cases h with
  | same h =>
      refine ⟨?_, fun hp hc => hshown (h.process ▸ hp) (h.shown hc), ?_⟩
      · rw [h.process, h.cores, h.launched]
        exact hheld
      · rw [h.cores, h.launched]
        exact fun id status hmem => hhandlers id status (h.handlers id status hmem)
  | @ran m hrun hm hconn =>
      refine ⟨?_, fun _ => hconn, ?_⟩
      · intro id hid
        cases Option.some.inj hid
        exact ⟨Nat.lt_succ_self _, by simp [runProcess]⟩
      · intro id status hmem
        obtain ⟨hlt, hexit⟩ := hhandlers id status (hm.handlers id status hmem)
        have hne : id ≠ m.launched := by rw [hm.launched]; omega
        refine ⟨?_, ?_⟩
        · show id < m.launched + 1
          rw [hm.launched]; omega
        · show (Function.update m.cores m.launched _ id).isRunning = false
          rw [Function.update_of_ne hne, hm.cores]
          exact hexit
  | letGo h =>
      refine ⟨?_, fun hp => absurd h.process hp, ?_⟩
      · rw [h.process]
        exact fun id hid => absurd hid.symm (Option.some_ne_none id)
      · intro id status hmem
        rw [h.launched, h.cores, terminatedCores_isRunning]
        exact hhandlers id status (h.handlers id status hmem)
  | @exited id _ h =>
      refine ⟨?_, fun hp hc => hshown (h.process ▸ hp) (h.shown hc), ?_⟩
      · intro i hi
        rw [h.process] at hi
        rw [h.launched, h.cores, Function.update_apply]
        split
        · rename_i hid; rw [← hid]; exact hheld i hi
        · exact hheld i hi
      · intro i status hmem
        rw [h.launched, h.cores, Function.update_apply]
        split
        · rename_i hid; rw [hid]; exact ⟨h.lt, rfl⟩
        · rename_i hid
          exact hhandlers i status ((h.handlers i status hmem).resolve_right hid)

/-- A step other than a handler keeps track of the live process. -/
lemma Moved.tracked {s t : Manager} (hs : Tracked s) (h : Moved s t) : Tracked t := by
  apply tracked_of_held
  intro i hi
  cases h with
  | same h =>
      rw [h.process]
      rw [Alive, h.launched, h.cores] at hi
      exact hs.held i hi
  | @ran m hrun hm _ =>
      obtain ⟨hlt, hrunning, hterm⟩ := hi
      by_cases hid : i = m.launched
      · rw [hid]; rfl
      · have hcore : m.runProcess.cores i = s.cores i := by
          show Function.update m.cores m.launched _ i = s.cores i
          rw [Function.update_of_ne hid, hm.cores]
        rw [hcore] at hrunning hterm
        have halive : s.Alive i := by
          refine ⟨?_, hrunning, hterm⟩
          have hlt' : i < m.launched + 1 := hlt
          rw [← hm.launched]; omega
        rw [hs.isRunning i halive] at hrun
        cases hrun
  | letGo h =>
      obtain ⟨hlt, hrunning, hterm⟩ := hi
      rw [h.launched] at hlt
      rw [h.cores] at hrunning hterm
      rw [terminatedCores_isRunning] at hrunning
      obtain ⟨hne, hterm⟩ := terminatedCores_terminated hterm
      exact absurd (hs.held i ⟨hlt, hrunning, hterm⟩) hne
  | @exited id _ h =>
      obtain ⟨hlt, hrunning, hterm⟩ := hi
      rw [h.launched] at hlt
      rw [h.cores, Function.update_apply] at hrunning hterm
      split at hrunning
      · cases hrunning
      · rename_i hid
        rw [if_neg hid] at hterm
        rw [h.process]
        exact hs.held i ⟨hlt, hrunning, hterm⟩

/-! ### Handlers -/

/-- A termination handler keeps the books. -/
lemma Handled.books {s t : Manager} (hs : Books s) (h : Handled s t) : Books t where
  held id hid := absurd (hid.symm.trans h.process) (Option.some_ne_none id)
  shown hp := absurd h.process hp
  handlers id status hmem := by
    rw [h.launched, h.cores]
    exact hs.handlers id status (h.handlers id status hmem)

/-- Every event does. -/
lemma step_books {s t : Manager} {e : Ev} (hs : Books s) (h : step s e = some t) : Books t := by
  cases he : e.handler with
  | none => exact (step_moved h he).books hs
  | some handler =>
      obtain ⟨l, rfl⟩ := Ev.handler_eq_some he
      exact (step_handled h).2.books hs

/-- The handler of a process runs while no process is held or while its own one is. -/
def Own (s : Manager) (e : Ev) : Prop :=
  ∀ h ∈ e.handler, s.process = none ∨ s.process = some h.1

/-- While a process is held, the exit of another one is not newly shown as `disconnected`. -/
def Undisturbed (s : Manager) (e : Ev) : Prop :=
  ∀ h ∈ e.handler, ∀ held t, s.process = some held → held ≠ h.1 → step s e = some t →
    t.connectionState = .disconnected → s.connectionState = .disconnected

/-- One step keeps track exactly when it is not the handler of a process let go. -/
lemma step_own_iff {s t : Manager} {e : Ev} (hs : Books s) (ht : Tracked s)
    (h : step s e = some t) : Own s e ↔ Tracked t ∧ Undisturbed s e := by
  cases he : e.handler with
  | none =>
      have hfree : ∀ p : ℕ × ℤ → Prop, ∀ h ∈ e.handler, p h := by
        intro p handler hmem
        rw [he] at hmem
        cases hmem
      exact iff_of_true (hfree _) ⟨(step_moved h he).tracked ht, hfree _⟩
  | some handler =>
      obtain ⟨id, status⟩ := handler
      obtain ⟨l, rfl⟩ := Ev.handler_eq_some he
      obtain ⟨hmem, hhandled⟩ := step_handled h
      constructor
      · intro hown
        have hown := hown _ he
        constructor
        · apply tracked_of_held
          intro i hi
          rw [Alive, hhandled.launched, hhandled.cores] at hi
          have hheld := ht.held i hi
          rcases hown with hown | hown
          · exact absurd (hheld.symm.trans hown) (Option.some_ne_none i)
          · cases Option.some.inj (hheld.symm.trans hown)
            exact absurd hi.2.1 (by rw [(hs.handlers _ status hmem).2]; simp)
        · intro handler heq held u hheld hne
          cases heq
          rcases hown with hown | hown
          · exact absurd (hheld.symm.trans hown) (Option.some_ne_none held)
          · exact absurd (Option.some.inj (hheld.symm.trans hown)) hne
      · rintro ⟨-, hquiet⟩ handler heq
        cases heq
        by_contra hown
        obtain ⟨hnone, hother⟩ := not_or.mp hown
        obtain ⟨held, hheld⟩ := Option.ne_none_iff_exists'.mp hnone
        have hne : held ≠ id := fun heq => hother (heq ▸ hheld)
        exact hs.shown hnone (hquiet _ he held t hheld hne h hhandled.connectionState)

instance (s : Manager) (e : Ev) : Decidable (Own s e) :=
  inferInstanceAs (Decidable (∀ h ∈ e.handler, s.process = none ∨ s.process = some h.1))

lemma init_books (settings : Settings) (enabled : Bool) (service : Text) :
    Books (init settings enabled service) where
  held id h := absurd h.symm (Option.some_ne_none id)
  shown h := absurd rfl h
  handlers _ _ h := absurd h List.not_mem_nil

lemma init_tracked (settings : Settings) (enabled : Bool) (service : Text) :
    Tracked (init settings enabled service) :=
  tracked_of_held fun id h => absurd h.1 (Nat.not_lt_zero id)

/-- **The GUI keeps track of its core.** In a run of the application, every live core process
is the one held, in every state reached, and no exit of another process is newly shown as
`disconnected`, exactly when each termination handler runs before another process is
held. -/
theorem tracked_iff {settings : Settings} {enabled : Bool} {service : Text} {es : List Ev}
    {u : Manager} (h : run step (init settings enabled service) es = some u) :
    Meets step Own (init settings enabled service) es
      ↔ Always step Tracked (init settings enabled service) es
        ∧ Meets step Undisturbed (init settings enabled service) es :=
  meets_iff_always_and (fun _ _ _ hs ht => step_books hs ht)
    (fun _ _ _ hs ht h => step_own_iff hs ht h)
    (init_books settings enabled service) (init_tracked settings enabled service) h

/-- A process is started, exits, and its handler runs before the next one is started. -/
theorem tracked_sample :
    ∃ u, run step (init .initial false []) [.start .launched, .exit 0 0,
        .block (.terminated 0 0) .missing, .start .launched] = some u
      ∧ Always step Tracked (init .initial false []) [.start .launched, .exit 0 0,
        .block (.terminated 0 0) .missing, .start .launched] := by
  obtain ⟨u, hu⟩ : ∃ u, run step (init .initial false []) [.start .launched, .exit 0 0,
        .block (.terminated 0 0) .missing, .start .launched] = some u :=
    Option.isSome_iff_exists.mp (by decide +kernel)
  exact ⟨u, hu, ((tracked_iff hu).mp (by decide +kernel)).1⟩

/-- A process is stopped and the next one started before the handler of the first runs: the
second is running, not held, and shown as disconnected. -/
theorem stopped_handler_late :
    ∃ u, run step (init .initial false []) [.start .launched, .stop, .exit 0 0, .start .launched,
        .block (.terminated 0 0) .missing] = some u
      ∧ u.Alive 1 ∧ u.process = none ∧ u.isRunning = false
      ∧ u.connectionState = .disconnected ∧ ¬ Tracked u := by
  have hrun : (run step (init .initial false []) [.start .launched, .stop, .exit 0 0,
      .start .launched, .block (.terminated 0 0) .missing]).map (fun u => (u.launched, u.cores 1,
        u.process, u.connectionState))
      = some (2, ⟨Settings.initial.buildArguments, true, false⟩, none, .disconnected) := by
    decide +kernel
  obtain ⟨u, hu, heq⟩ := Option.map_eq_some_iff.mp hrun
  simp only [Prod.mk.injEq] at heq
  obtain ⟨hlaunched, hcore, hprocess, hshown⟩ := heq
  have halive : u.Alive 1 := by
    rw [Alive, hlaunched, hcore]
    exact ⟨by omega, rfl, rfl⟩
  refine ⟨u, hu, halive, hprocess, ?_, hshown, ?_⟩
  · rw [Manager.isRunning, hprocess]
  · intro h
    exact absurd ((h.held 1 halive).symm.trans hprocess) (Option.some_ne_none 1)

end Manager

end Aether.Gui
