import Aether.Gui.Manager
import Aether.Lib.Machine

/-!
The system proxy once the core is gone.

* `Requests`: the step queues `enableSystemProxy`; `Kept` says what a step leaves as it was
  otherwise, and `start_kept` to `runBlock_kept` say so of what runs on the main thread.
* `Settled`: a request comes only while a termination handler is still to run, and the last
  handler finds no call that has still to turn the proxy on, and the flag true if the proxy
  stays on.
* `released_of_settled`: in a run of such steps the proxy is off whenever nothing is pending
  and no core is running.
-/

namespace Aether.Gui

open Machine

namespace Manager

/-- A termination handler is still to run. -/
def Awaits (s : Manager) : Prop :=
  (∃ id, id < s.launched ∧ (s.cores id).isRunning = true)
    ∨ ∃ b ∈ s.blocks, b.isHandler = true

/-- A call of `enableSystemProxy` has still to turn the proxy on. -/
def Enabling (s : Manager) : Prop := ∃ j ∈ s.jobs, j.enables = true

/-- A call of `disableSystemProxy` has still to turn the proxy off. -/
def Disabling (s : Manager) : Prop := .disableSystemProxy ∈ s.jobs

instance (s : Manager) : Decidable s.Awaits := inferInstanceAs (Decidable (_ ∨ _))

instance (s : Manager) : Decidable s.Enabling :=
  inferInstanceAs (Decidable (∃ j ∈ s.jobs, j.enables = true))

instance (s : Manager) : Decidable s.Disabling :=
  inferInstanceAs (Decidable (.disableSystemProxy ∈ s.jobs))

/-! ### Requests -/

/-- The messages that a `start` logs. -/
def startMessages (l : Launch) (s : Manager) : List Text :=
  if s.isRunning then []
  else
    match l with
    | .missing => [missingMessage]
    | .failed error => [startingMessage s.settings.buildArguments, failedMessage error]
    | .launched => [startingMessage s.settings.buildArguments]

/-- The messages that a block logs. -/
def blockMessages (l : Launch) (s : Manager) : Block → List Text
  | .log message => [message]
  | .terminated _ status => if s.userStopped then [] else [exitedMessage status]
  | .start => s.startMessages l
  | .proxyEnabled port => [enabledMessage s.service port]
  | .proxyDisabled => [disabledMessage s.service]
  | .proxyError message => [message]

/-- The messages that a step logs. -/
def logged (s : Manager) : Ev → List Text
  | .start l => s.startMessages l
  | .stop => [stoppedMessage]
  | .block b l => s.blockMessages l b
  | _ => []

/-- The step queues `enableSystemProxy`: it logs that the core is listening while the system
proxy is wanted, or the proxy is switched on while the core is connected. -/
def Requests (s : Manager) (e : Ev) : Prop :=
  (s.systemProxyEnabled = true ∧ ∃ m ∈ s.logged e, listening m = true)
    ∨ e = .setSystemProxyEnabled true ∧ s.connectionState = .connected

/-- The step runs a core process. -/
def Launches (s : Manager) (e : Ev) : Prop :=
  s.isRunning = false ∧ (e = .start .launched ∨ e = .block .start .launched)

instance (s : Manager) (e : Ev) : Decidable (s.Requests e) :=
  inferInstanceAs (Decidable (_ ∨ _))

instance (s : Manager) (e : Ev) : Decidable (s.Launches e) :=
  inferInstanceAs (Decidable (_ ∧ _))

/-! ### What a step keeps -/

/-- The processes, handlers and jobs that are pending stay so, the proxy is as it was, and a
call that turns it on is new only if it is requested. -/
structure Kept (request : Prop) (s t : Manager) : Prop where
  running : ∀ id, id < s.launched → (s.cores id).isRunning = true →
    id < t.launched ∧ (t.cores id).isRunning = true
  handlers : ∀ b ∈ s.blocks, b.isHandler = true → b ∈ t.blocks
  jobs : ∀ j ∈ s.jobs, j ∈ t.jobs
  enabling : t.Enabling → s.Enabling ∨ request
  proxyOn : t.proxyOn = s.proxyOn

lemma Kept.refl (request : Prop) (s : Manager) : Kept request s s :=
  ⟨fun _ h g => ⟨h, g⟩, fun _ h _ => h, fun _ h => h, .inl, rfl⟩

lemma Kept.trans {p : Prop} {s t u : Manager} (h : Kept p s t) (g : Kept p t u) :
    Kept p s u where
  running id hlt hrun := by
    obtain ⟨hlt', hrun'⟩ := h.running id hlt hrun
    exact g.running id hlt' hrun'
  handlers b hb hh := g.handlers b (h.handlers b hb hh) hh
  jobs j hj := g.jobs j (h.jobs j hj)
  enabling hu := (g.enabling hu).elim h.enabling .inr
  proxyOn := g.proxyOn.trans h.proxyOn

lemma Kept.awaits {p : Prop} {s t : Manager} (h : Kept p s t) (hs : s.Awaits) : t.Awaits := by
  rcases hs with ⟨id, hlt, hrun⟩ | ⟨b, hb, hh⟩
  · exact .inl ⟨id, h.running id hlt hrun⟩
  · exact .inr ⟨b, h.handlers b hb hh, hh⟩

/-- A change that leaves the processes, the queues and the proxy alone. -/
lemma kept_of_eq (p : Prop) {s t : Manager} (hcores : t.cores = s.cores)
    (hlaunched : t.launched = s.launched) (hblocks : t.blocks = s.blocks)
    (hjobs : t.jobs = s.jobs) (hproxy : t.proxyOn = s.proxyOn) : Kept p s t where
  running id hlt hrun := by rw [hcores, hlaunched]; exact ⟨hlt, hrun⟩
  handlers b hb _ := by rw [hblocks]; exact hb
  jobs j hj := by rw [hjobs]; exact hj
  enabling h := by rw [Enabling, hjobs] at h; exact .inl h
  proxyOn := hproxy

lemma async_kept (p : Prop) (s : Manager) {j : Job} (hj : j.enables = true → p) :
    Kept p s (s.async j) where
  running _ hlt hrun := ⟨hlt, hrun⟩
  handlers _ hb _ := hb
  jobs _ hk := List.mem_append_left _ hk
  enabling h := by
    obtain ⟨k, hk, hen⟩ := h
    rcases List.mem_append.mp hk with hk | hk
    · exact .inl ⟨k, hk, hen⟩
    · cases List.mem_singleton.mp hk
      exact .inr (hj hen)
  proxyOn := rfl

lemma asyncMain_kept (p : Prop) (s : Manager) (b : Block) : Kept p s (s.asyncMain b) where
  running _ hlt hrun := ⟨hlt, hrun⟩
  handlers _ hb _ := List.mem_append_left _ hb
  jobs _ hj := hj
  enabling h := .inl h
  proxyOn := rfl

lemma addLog_kept {p : Prop} {message : Text} {s : Manager}
    (hp : s.systemProxyEnabled = true → listening message = true → p) :
    Kept p s (s.addLog message) := by
  rw [addLog_eq]
  split
  · rename_i hreq
    obtain ⟨hlistening, henabled⟩ := Bool.and_eq_true_iff.mp hreq
    exact (async_kept p s (j := .enableSystemProxy) fun _ => hp henabled hlistening).trans
      (kept_of_eq p rfl rfl rfl rfl rfl)
  · exact kept_of_eq p rfl rfl rfl (List.append_nil _) rfl

lemma releaseProxy_kept (p : Prop) (s : Manager) : Kept p s s.releaseProxy := by
  rw [releaseProxy]
  split
  · exact async_kept p s fun h => absurd h (by simp [Job.enables])
  · exact .refl p s

lemma terminate_kept (p : Prop) (s : Manager) : Kept p s s.terminate where
  running id hlt hrun := ⟨hlt, (s.terminatedCores_isRunning id).trans hrun⟩
  handlers _ hb _ := hb
  jobs _ hj := hj
  enabling h := .inl h
  proxyOn := rfl

lemma runProcess_kept (p : Prop) (s : Manager) : Kept p s s.runProcess where
  running id hlt hrun := by
    refine ⟨Nat.lt_succ_of_lt hlt, ?_⟩
    show (Function.update s.cores s.launched _ id).isRunning = true
    rw [Function.update_of_ne (Nat.ne_of_lt hlt)]
    exact hrun
  handlers _ hb _ := hb
  jobs _ hj := hj
  enabling h := .inl h
  proxyOn := rfl

/-! ### The handlers of the main thread -/

lemma start_kept {p : Prop} (l : Launch) (s : Manager)
    (hp : s.systemProxyEnabled = true → (∃ m ∈ s.startMessages l, listening m = true) → p) :
    Kept p s (s.start l) := by
  unfold startMessages at hp
  rw [start]
  split
  · exact .refl p s
  · rename_i hrun
    rw [if_neg hrun] at hp
    have hset : ∀ t : Manager, Kept p s t → ∀ c, Kept p s { t with connectionState := c } :=
      fun t h _ => h.trans (kept_of_eq p rfl rfl rfl rfl rfl)
    have hclear : Kept p s { s with userStopped := false, needsReload := false } :=
      kept_of_eq p rfl rfl rfl rfl rfl
    have hscan := hset _ hclear .scanning
    cases l with
    | missing =>
        have hlog := hclear.trans (addLog_kept fun hen hm => hp hen ⟨_, .head _, hm⟩)
        exact hset _ hlog _
    | failed error =>
        have hstarting := hscan.trans (addLog_kept fun hen hm => hp hen ⟨_, .head _, hm⟩)
        have hfailed := hstarting.trans (addLog_kept fun hen hm => hp ?_ ⟨_, .tail _ (.head _), hm⟩)
        · exact hset _ hfailed _
        · rw [addLog_eq] at hen
          exact hen
    | launched =>
        have hstarting := hscan.trans (addLog_kept fun hen hm => hp hen ⟨_, .head _, hm⟩)
        exact hstarting.trans (runProcess_kept p _)

lemma stop_kept (p : Prop) (s : Manager) : Kept p s s.stop := by
  have hset : Kept p s { s with userStopped := true } := kept_of_eq p rfl rfl rfl rfl rfl
  have hshown : ∀ t : Manager, Kept p t { t with connectionState := .disconnected } :=
    fun t => kept_of_eq p rfl rfl rfl rfl rfl
  refine (((hset.trans (terminate_kept p _)).trans (hshown _)).trans
    (releaseProxy_kept p _)).trans (addLog_kept fun _ hm => ?_)
  rw [listening_of_rule rule_stoppedMessage] at hm
  cases hm

lemma restart_kept (p : Prop) (s : Manager) : Kept p s s.restart := by
  rw [restart]
  split
  · have hset : Kept p s { s with userStopped := true } := kept_of_eq p rfl rfl rfl rfl rfl
    have hclear : ∀ t : Manager, Kept p t { t with needsReload := false } :=
      fun t => kept_of_eq p rfl rfl rfl rfl rfl
    exact (((hset.trans (terminate_kept p _)).trans (releaseProxy_kept p _)).trans
      (hclear _)).trans (asyncMain_kept p _ _)
  · exact kept_of_eq p rfl rfl rfl rfl rfl

lemma reload_kept (p : Prop) (s : Manager) : Kept p s s.reload := by
  have hclear : Kept p s { s with needsReload := false } := kept_of_eq p rfl rfl rfl rfl rfl
  unfold reload
  dsimp only
  split
  · exact hclear.trans (restart_kept p _)
  · exact hclear

lemma setBindAddress_kept (p : Prop) (address : Text) (s : Manager) :
    Kept p s (s.setBindAddress address) := by
  have hset : Kept p s { s with settings := { s.settings with bindAddress := address } } :=
    kept_of_eq p rfl rfl rfl rfl rfl
  rw [setBindAddress]
  dsimp only
  split
  · exact hset.trans (restart_kept p _)
  · exact hset

lemma setSystemProxyEnabled_kept {p : Prop} (enabled : Bool) (s : Manager)
    (hp : enabled = true → s.connectionState = .connected → p) :
    Kept p s (s.setSystemProxyEnabled enabled) := by
  have hset : Kept p s { s with systemProxyEnabled := enabled } :=
    kept_of_eq p rfl rfl rfl rfl rfl
  rw [setSystemProxyEnabled]
  dsimp only
  split
  · rename_i hreq
    obtain ⟨hen, hconn⟩ := Bool.and_eq_true_iff.mp hreq
    exact hset.trans (async_kept p _ fun _ => hp hen (of_decide_eq_true hconn))
  · split
    · exact hset.trans (async_kept p _ fun h => absurd h (by simp [Job.enables]))
    · exact hset

lemma markSettingsChanged_kept (p : Prop) (s : Manager) : Kept p s s.markSettingsChanged := by
  rw [markSettingsChanged]
  split
  · exact kept_of_eq p rfl rfl rfl rfl rfl
  · exact .refl p s

lemma onTerminated_kept (p : Prop) (status : ℤ) (s : Manager) :
    Kept p s (s.onTerminated status) := by
  have hset : Kept p s { s with connectionState := .disconnected } :=
    kept_of_eq p rfl rfl rfl rfl rfl
  have hrelease := hset.trans (releaseProxy_kept p _)
  have hfree : ∀ t : Manager, Kept p t { t with process := none } :=
    fun t => kept_of_eq p rfl rfl rfl rfl rfl
  unfold onTerminated
  dsimp only
  split
  · exact hrelease.trans (hfree _)
  · refine (hrelease.trans (addLog_kept fun _ hm => ?_)).trans (hfree _)
    rw [listening_of_rule (rule_exitedMessage status)] at hm
    cases hm

/-- What a handler finds active, it asks to be disabled. -/
lemma onTerminated_disabling (status : ℤ) {s : Manager} (h : s.systemProxyActive = true) :
    (s.onTerminated status).Disabling := by
  have hrelease : .disableSystemProxy
      ∈ ({ s with connectionState := .disconnected }.releaseProxy).jobs := by
    rw [releaseProxy]
    rw [if_pos h]
    exact List.mem_append_right _ (List.mem_singleton_self _)
  unfold Disabling onTerminated
  dsimp only
  split
  · exact hrelease
  · rw [addLog_eq]
    exact List.mem_append_left _ hrelease

lemma runBlock_kept {p : Prop} (l : Launch) (s : Manager) (b : Block)
    (hp : s.systemProxyEnabled = true → (∃ m ∈ s.blockMessages l b, listening m = true) → p) :
    Kept p s (s.runBlock l b) := by
  have hset : ∀ active : Bool, Kept p s { s with systemProxyActive := active } :=
    fun _ => kept_of_eq p rfl rfl rfl rfl rfl
  cases b with
  | log message => exact addLog_kept fun hen hm => hp hen ⟨_, .head _, hm⟩
  | terminated id status => exact onTerminated_kept p status s
  | start => exact start_kept l s hp
  | proxyEnabled port =>
      exact (hset true).trans (addLog_kept fun hen hm => hp hen ⟨_, .head _, hm⟩)
  | proxyDisabled =>
      exact (hset false).trans (addLog_kept fun hen hm => hp hen ⟨_, .head _, hm⟩)
  | proxyError message => exact addLog_kept fun hen hm => hp hen ⟨_, .head _, hm⟩

/-- A process that is run has its handler to come. -/
lemma start_awaits {s : Manager} (h : s.isRunning = false) : (s.start .launched).Awaits := by
  rw [start]
  rw [h, if_neg (by simp)]
  refine .inl ⟨_, Nat.lt_succ_self _, ?_⟩
  simp [runProcess]

/-! ### The condition -/

/-- All calls of `networksetup` succeed, on one service. -/
def Succeeds (e : Ev) : Prop := ∀ o ∈ e.outcome, o = .done

/-- The block has been taken from the main queue. -/
def take (s : Manager) (b : Block) : Manager := { s with blocks := s.blocks.erase b }

instance (e : Ev) : Decidable (Succeeds e) :=
  inferInstanceAs (Decidable (∀ o ∈ e.outcome, o = .done))

/-- The system proxy is requested only while a termination handler is still to run, and the
last handler finds no call that has still to turn the proxy on, and `systemProxyActive` if
the proxy is on and no call is to turn it off. -/
def Settled (s : Manager) (e : Ev) : Prop :=
  (s.Requests e → s.Awaits ∨ s.Launches e)
    ∧ ∀ h ∈ e.handler, ¬ (s.take (.terminated h.1 h.2)).Awaits →
      ¬ s.Enabling ∧ (s.proxyOn = true → s.Disabling ∨ s.systemProxyActive = true)

instance (s : Manager) (e : Ev) : Decidable (s.Settled e) :=
  inferInstanceAs (Decidable (_ ∧ _))

/-- Nothing is pending and no core is running only with the system proxy off. -/
def Released (s : Manager) : Prop :=
  s.jobs = [] → s.blocks = [] → (∀ id, id < s.launched → (s.cores id).isRunning = false) →
    s.proxyOn = false

/-- Without a handler to come, nothing will turn the proxy on, and it is off or going off. -/
def Watched (s : Manager) : Prop :=
  s.Awaits ∨ ¬ s.Enabling ∧ (s.proxyOn = true → s.Disabling)

lemma Watched.released {s : Manager} (h : Watched s) : Released s := by
  intro hjobs hblocks hcores
  rcases h with (⟨id, hlt, hrun⟩ | ⟨b, hmem, -⟩) | ⟨-, hoff⟩
  · rw [hcores id hlt] at hrun
    cases hrun
  · rw [hblocks] at hmem
    exact absurd hmem List.not_mem_nil
  · rw [← Bool.not_eq_true]
    intro hon
    have hmem := hoff hon
    rw [Disabling, hjobs] at hmem
    exact absurd hmem List.not_mem_nil

lemma Kept.watched {p : Prop} {s t : Manager} (h : Kept p s t) (hp : p → t.Awaits)
    (hs : Watched s) : Watched t := by
  by_cases hw : t.Awaits
  · exact .inl hw
  · rcases hs with hs | ⟨hen, hoff⟩
    · exact absurd (h.awaits hs) hw
    · refine .inr ⟨fun ht => (h.enabling ht).elim hen fun hreq => hw (hp hreq), ?_⟩
      intro hon
      exact h.jobs _ (hoff (h.proxyOn ▸ hon))

/-- A job that advances keeps a proxy that is watched so: one that turns the proxy on is
watched by a handler, and the others do not. -/
lemma job_watched {s t : Manager} {j : Job} (hs : Watched s) (hj : j ∈ s.jobs)
    (h : { s with jobs := s.jobs.erase j }.advance j .done = some t) : Watched t := by
  have hawaits : j.enables = true → s.Awaits := fun hen =>
    hs.resolve_right fun hquiet => hquiet.1 ⟨j, hj, hen⟩
  have hrest : ∀ k ∈ s.jobs.erase j, k.enables = true → s.Enabling :=
    fun k hk hen => ⟨k, List.mem_of_mem_erase hk, hen⟩
  cases j with
  | enableSystemProxy =>
      cases h
      exact .inl (hawaits rfl)
  | setAddress port =>
      cases h
      exact .inl (hawaits rfl)
  | setState port =>
      cases h
      exact .inl ((asyncMain_kept True _ _).awaits (hawaits rfl))
  | disableSystemProxy =>
      cases h
      rcases hs with hs | ⟨hen, -⟩
      · exact .inl hs
      · refine .inr ⟨?_, fun hon => by cases hon⟩
        rintro ⟨k, hk, hkon⟩
        rcases List.mem_append.mp hk with hk | hk
        · exact hen (hrest k hk hkon)
        · cases List.mem_singleton.mp hk
          cases hkon
  | setWebStates =>
      cases h
      rcases hs with hs | ⟨hen, hoff⟩
      · exact .inl ((asyncMain_kept True _ _).awaits hs)
      · refine .inr ⟨?_, fun hon => ?_⟩
        · rintro ⟨k, hk, hkon⟩
          exact hen (hrest k hk hkon)
        · exact (List.mem_erase_of_ne (by simp)).mpr (hoff hon)

/-- The block of a handler, when it is settled. -/
lemma handler_watched {s : Manager} {id : ℕ} {status : ℤ}
    (hok : ¬ (s.take (.terminated id status)).Awaits →
      ¬ s.Enabling ∧ (s.proxyOn = true → s.Disabling ∨ s.systemProxyActive = true)) :
    Watched ((s.take (.terminated id status)).onTerminated status) := by
  have hkept := onTerminated_kept False status (s.take (.terminated id status))
  by_cases hw : (s.take (.terminated id status)).Awaits
  · exact .inl (hkept.awaits hw)
  · obtain ⟨hen, hoff⟩ := hok hw
    refine .inr ⟨fun ht => (hkept.enabling ht).elim hen False.elim, ?_⟩
    intro hon
    rcases hoff (hkept.proxyOn ▸ hon) with hdis | hactive
    · exact hkept.jobs _ hdis
    · exact onTerminated_disabling status hactive

/-- Another block than that of a handler takes none away. -/
lemma take_kept (p : Prop) (s : Manager) {b : Block} (hb : b.isHandler = false) :
    Kept p s (s.take b) where
  running _ hlt hrun := ⟨hlt, hrun⟩
  handlers c hc hh := by
    refine (List.mem_erase_of_ne ?_).mpr hc
    rintro rfl
    rw [hb] at hh
    cases hh
  jobs _ hj := hj
  enabling h := .inl h
  proxyOn := rfl

/-- **Every settled step keeps the proxy watched.** -/
lemma step_watched {s t : Manager} {e : Ev} (hs : Watched s) (hnet : Succeeds e)
    (hok : Settled s e) (h : step s e = some t) : Watched t := by
  have hreq : ∀ t : Manager, ¬ s.Launches e → Kept (s.Requests e) s t → Watched t :=
    fun t hl hkept => hkept.watched (fun hr => hkept.awaits ((hok.1 hr).resolve_right hl)) hs
  cases e with
  | start l =>
      cases h
      by_cases hl : s.Launches (.start l)
      · obtain ⟨hrun, hl⟩ := hl
        have hlaunched : l = .launched := by simpa using hl
        exact .inl (hlaunched ▸ start_awaits hrun)
      · exact hreq _ hl (start_kept l s fun hen hm => .inl ⟨hen, hm⟩)
  | stop => exact Option.some.inj h ▸ (stop_kept False s).watched False.elim hs
  | restart => exact Option.some.inj h ▸ (restart_kept False s).watched False.elim hs
  | reload => exact Option.some.inj h ▸ (reload_kept False s).watched False.elim hs
  | setBindAddress address =>
      exact Option.some.inj h ▸ (setBindAddress_kept False address s).watched False.elim hs
  | setSystemProxyEnabled enabled =>
      cases h
      refine hreq _ (by simp [Launches]) (setSystemProxyEnabled_kept enabled s ?_)
      rintro rfl hconn
      exact .inr ⟨rfl, hconn⟩
  | edit settings =>
      obtain rfl := step_edit h
      exact hs
  | markSettingsChanged =>
      exact Option.some.inj h ▸ (markSettingsChanged_kept False s).watched False.elim hs
  | dismiss => exact Option.some.inj h ▸ hs
  | exit id status =>
      obtain ⟨-, rfl⟩ := step_exit h
      exact .inl (.inr ⟨_, List.mem_append_right _ (List.mem_singleton_self _), rfl⟩)
  | read message =>
      obtain rfl := step_read h
      exact (asyncMain_kept False s _).watched False.elim hs
  | job j o =>
      obtain ⟨hj, hadv⟩ := step_job h
      cases hnet o rfl
      exact job_watched hs hj hadv
  | block b l =>
      obtain ⟨-, rfl⟩ := step_block h
      cases hb : b.isHandler with
      | true =>
        cases b with
        | terminated id status => exact handler_watched (hok.2 (id, status) rfl)
        | _ => cases hb
      | false =>
        by_cases hl : s.Launches (.block b l)
        · obtain ⟨hrun, hl⟩ := hl
          obtain ⟨rfl, rfl⟩ : b = .start ∧ l = .launched := by simpa using hl
          exact .inl (start_awaits (s := s.take .start) hrun)
        · refine hreq _ hl ((take_kept _ s hb).trans (runBlock_kept l (s.take b) b ?_))
          intro hen hm
          refine .inl ⟨hen, ?_⟩
          cases b <;> exact hm

lemma init_watched (settings : Settings) (enabled : Bool) (service : Text) :
    Watched (init settings enabled service) := by
  refine .inr ⟨?_, fun hon => by cases hon⟩
  rintro ⟨j, hj, -⟩
  exact absurd hj List.not_mem_nil

/-- **The system proxy is not left pointing at a dead core.** In a run of settled steps in
which `networksetup` succeeds, the proxy is off in every state with nothing pending and no
core running. -/
theorem released_of_settled {settings : Settings} {enabled : Bool} {service : Text}
    {es : List Ev} (hnet : ∀ e ∈ es, Succeeds e)
    (hok : Meets step Settled (init settings enabled service) es) :
    Always step Released (init settings enabled service) es := by
  have hboth : Meets step (fun s e => Settled s e ∧ Succeeds e) (init settings enabled service)
      es := hok.and (meets_of_forall fun e he _ => hnet e he)
  have hwatched : Always step Watched (init settings enabled service) es :=
    always_of_meets (fun s e t hs he h => step_watched hs he.2 he.1 h)
      (init_watched settings enabled service) hboth
  exact fun fs u hfs hu => (hwatched fs u hfs hu).released

/-- What the core prints when its listener is up. -/
def listeningLine : Text := text "socks5 listening on 127.0.0.1:1819"

/-- The core is connected, the proxy is turned on, and the core exits after that. -/
def connectedRun : List Ev :=
  [.start .launched, .read listeningLine, .block (.log listeningLine) .missing,
    .job .enableSystemProxy .done, .job (.setAddress 1819) .done, .job (.setState 1819) .done]

/-- The flag is set before the core exits, and its handler turns the proxy off. -/
theorem released_sample :
    ∃ u, run step (init .initial true (text "Wi-Fi")) (connectedRun
        ++ [.block (.proxyEnabled 1819) .missing, .exit 0 0, .block (.terminated 0 0) .missing,
          .job .disableSystemProxy .done, .job .setWebStates .done,
          .block .proxyDisabled .missing]) = some u
      ∧ u.jobs = [] ∧ u.blocks = [] ∧ u.launched = 1 ∧ (u.cores 0).isRunning = false
      ∧ Always step Released (init .initial true (text "Wi-Fi")) (connectedRun
        ++ [.block (.proxyEnabled 1819) .missing, .exit 0 0, .block (.terminated 0 0) .missing,
          .job .disableSystemProxy .done, .job .setWebStates .done,
          .block .proxyDisabled .missing]) := by
  have hrun : (run step (init .initial true (text "Wi-Fi")) (connectedRun
      ++ [.block (.proxyEnabled 1819) .missing, .exit 0 0, .block (.terminated 0 0) .missing,
        .job .disableSystemProxy .done, .job .setWebStates .done,
        .block .proxyDisabled .missing])).map
        (fun u => (u.jobs, u.blocks, u.launched, (u.cores 0).isRunning))
      = some ([], [], 1, false) := by decide +kernel
  obtain ⟨u, hu, heq⟩ := Option.map_eq_some_iff.mp hrun
  simp only [Prod.mk.injEq] at heq
  obtain ⟨hjobs, hblocks, hlaunched, hcore⟩ := heq
  refine ⟨u, hu, hjobs, hblocks, hlaunched, hcore, ?_⟩
  exact released_of_settled (by decide) (by decide +kernel)

/-- The core exits before the flag is set: its handler finds it false, and the proxy stays on
with nothing pending and no core running. -/
theorem flag_late :
    ∃ u, run step (init .initial true (text "Wi-Fi")) (connectedRun
        ++ [.exit 0 0, .block (.terminated 0 0) .missing,
          .block (.proxyEnabled 1819) .missing]) = some u
      ∧ u.jobs = [] ∧ u.blocks = [] ∧ u.launched = 1 ∧ (u.cores 0).isRunning = false
      ∧ u.proxyOn = true ∧ ¬ Released u := by
  have hrun : (run step (init .initial true (text "Wi-Fi")) (connectedRun
      ++ [.exit 0 0, .block (.terminated 0 0) .missing,
        .block (.proxyEnabled 1819) .missing])).map
        (fun u => (u.jobs, u.blocks, u.launched, (u.cores 0).isRunning, u.proxyOn))
      = some ([], [], 1, false, true) := by decide +kernel
  obtain ⟨u, hu, heq⟩ := Option.map_eq_some_iff.mp hrun
  simp only [Prod.mk.injEq] at heq
  obtain ⟨hjobs, hblocks, hlaunched, hcore, hon⟩ := heq
  refine ⟨u, hu, hjobs, hblocks, hlaunched, hcore, hon, ?_⟩
  intro h
  have hcores : ∀ id, id < u.launched → (u.cores id).isRunning = false := by
    intro id hid
    obtain rfl : id = 0 := by omega
    exact hcore
  exact absurd (h hjobs hblocks hcores) (by rw [hon]; simp)

end Manager

end Aether.Gui
