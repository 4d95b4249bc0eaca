import Aether.Gui.SystemProxy
import Aether.Gui.Tracking

/-!
What comes of a step that is not settled.

* `Doomed`: no handler is to come, nothing is to turn the proxy off, and it is on or will be.
  `Doomed.leaks` lets the pending work finish: the proxy stays on with no core running.
* `leaks_of_unsettled`: after every step that is not settled, some way to go on ends so.
-/

namespace Aether.Gui

open Machine

/-- How many stages a job has before it, with the blocks they queue and what those may log. -/
def Job.stages : Job → ℕ
  | enableSystemProxy => 4
  | setAddress _ => 3
  | setState _ => 2
  | disableSystemProxy => 7
  | setWebStates => 6

/-- How many stages a block has before it; a message may ask for the proxy. -/
def Block.stages : Block → ℕ
  | proxyEnabled _ => 1
  | _ => 5

/-- The stages of a list of jobs or blocks. -/
def total {β : Type} (stages : β → ℕ) : List β → ℕ
  | [] => 0
  | b :: bs => stages b + total stages bs

@[simp] lemma total_append {β : Type} (stages : β → ℕ) (bs cs : List β) :
    total stages (bs ++ cs) = total stages bs + total stages cs := by
  induction bs with
  | nil => simp [total]
  | cons b bs ih => simp [total, ih, Nat.add_assoc]

namespace Manager

variable {s t : Manager}

/-- The stages of all pending work. -/
def stages (s : Manager) : ℕ := total Job.stages s.jobs + total Block.stages s.blocks

/-- No handler is to come, nothing is to turn the proxy off, and it is on or will be. -/
structure Doomed (s : Manager) : Prop where
  awaits : ¬ s.Awaits
  disabling : ¬ s.Disabling
  on : s.Enabling ∨ s.proxyOn = true
  /-- The message of the proxy does not look like the core's. -/
  service : ∀ port, listening (enabledMessage s.service port) = false

/-- No new process and no new handler: nothing new to wait for. -/
lemma awaits_of_le (hcores : t.cores = s.cores) (hlaunched : t.launched = s.launched)
    (hhandlers : ∀ id status, .terminated id status ∈ t.blocks →
      .terminated id status ∈ s.blocks) (ht : t.Awaits) : s.Awaits := by
  rcases ht with ⟨id, hlt, hrun⟩ | ⟨b, hb, hh⟩
  · exact .inl ⟨id, hlaunched ▸ hlt, hcores ▸ hrun⟩
  · cases b with
    | terminated id status => exact .inr ⟨_, hhandlers id status hb, rfl⟩
    | _ => cases hh

lemma Same.awaits (h : Same s t) : t.Awaits → s.Awaits :=
  awaits_of_le h.cores h.launched h.handlers

lemma Handled.awaits (h : Handled s t) : t.Awaits → s.Awaits :=
  awaits_of_le h.cores h.launched h.handlers

/-- A message may ask for the proxy, and no more. -/
lemma Doomed.addLog (h : Doomed s) (message : Text) : Doomed (s.addLog message) := by
  rw [addLog_eq]
  refine ⟨h.awaits, ?_, ?_, h.service⟩
  · intro hmem
    rcases List.mem_append.mp hmem with hmem | hmem
    · exact h.disabling hmem
    · split at hmem
      · cases List.mem_singleton.mp hmem
      · cases hmem
  · refine h.on.imp_left ?_
    rintro ⟨j, hj, hen⟩
    exact ⟨j, List.mem_append_left _ hj, hen⟩

lemma addLog_stages_lt (message : Text) {n : ℕ} (hs : s.stages = n) :
    (s.addLog message).stages < 5 + n := by
  rw [addLog_eq, ← hs]
  cases listening message && s.systemProxyEnabled with
  | true =>
      simp [stages, total, Job.stages]
      omega
  | false =>
      simp [stages]

lemma addLog_stages {message : Text} (hm : listening message = false) :
    (s.addLog message).stages = s.stages := by
  simp [addLog_eq, stages, hm]

/-- The first job goes on. -/
lemma Doomed.job (h : Doomed s) {j : Job} {js : List Job} (hjobs : s.jobs = j :: js) :
    ∃ t, step s (.job j .done) = some t ∧ Doomed t ∧ t.stages < s.stages := by
  have hmem : j ∈ s.jobs := hjobs ▸ List.mem_cons_self ..
  have herase : s.jobs.erase j = js := by rw [hjobs, List.erase_cons_head]
  have hrest : .disableSystemProxy ∉ js := by
    intro hk
    apply h.disabling
    rw [Disabling, hjobs]
    exact List.mem_cons_of_mem _ hk
  have hstages : s.stages = j.stages + { s with jobs := js }.stages := by
    simp [stages, total, hjobs, Nat.add_assoc]
  -- a call that has still to turn the proxy on goes on
  have hgo : ∀ (port : Option ℤ) (k : Job), k.enables = true →
      Doomed ({ s with jobs := js, proxyPort := port }.async k) := by
    intro port k hk
    refine ⟨h.awaits, ?_, .inl ⟨k, List.mem_append_right _ (.head _), hk⟩, h.service⟩
    intro hmem
    rcases List.mem_append.mp hmem with hmem | hmem
    · exact hrest hmem
    · cases List.mem_singleton.mp hmem
      cases hk
  rw [step, if_pos hmem, herase, hstages]
  cases j with
  | enableSystemProxy =>
      refine ⟨_, rfl, hgo s.proxyPort _ rfl, ?_⟩
      simp [stages, total, async, Job.stages]
      omega
  | setAddress port =>
      refine ⟨_, rfl, hgo (some port) _ rfl, ?_⟩
      simp [stages, total, async, Job.stages]
      omega
  | setState port =>
      refine ⟨_, rfl, ⟨?_, hrest, .inr rfl, h.service⟩, ?_⟩
      · exact h.awaits ∘ (asyncMain_same (by simp) _).awaits
      · simp [stages, total, asyncMain, Job.stages, Block.stages]
        omega
  | disableSystemProxy => exact absurd hmem h.disabling
  | setWebStates =>
      refine ⟨_, rfl, ⟨?_, hrest, h.on.imp_left ?_, h.service⟩, ?_⟩
      · exact h.awaits ∘ (asyncMain_same (by simp) _).awaits
      · rintro ⟨k, hk, hen⟩
        rw [hjobs] at hk
        rcases List.mem_cons.mp hk with rfl | hk
        · cases hen
        · exact ⟨k, hk, hen⟩
      · simp [stages, total, asyncMain, Job.stages, Block.stages]
        omega

/-- The first block runs; if it is a `start`, it finds no binary. -/
lemma Doomed.block (h : Doomed s) {b : Block} {bs : List Block} (hblocks : s.blocks = b :: bs) :
    ∃ t, step s (.block b .missing) = some t ∧ Doomed t ∧ t.stages < s.stages := by
  have hmem : b ∈ s.blocks := hblocks ▸ List.mem_cons_self ..
  have herase : s.blocks.erase b = bs := by rw [hblocks, List.erase_cons_head]
  have hstages : s.stages = b.stages + { s with blocks := bs }.stages := by
    simp [stages, total, hblocks]
    omega
  have htake : Doomed { s with blocks := bs } := by
    refine ⟨?_, h.disabling, h.on, h.service⟩
    rintro (hcore | ⟨c, hc, hh⟩)
    · exact h.awaits (.inl hcore)
    · exact h.awaits (.inr ⟨c, hblocks ▸ List.mem_cons_of_mem _ hc, hh⟩)
  have hactive : ∀ active : Bool, Doomed { s with blocks := bs, systemProxyActive := active } :=
    fun _ => ⟨htake.awaits, htake.disabling, htake.on, htake.service⟩
  rw [step, if_pos hmem, herase, hstages]
  refine ⟨_, rfl, ?_⟩
  cases b with
  | log message => exact ⟨htake.addLog message, addLog_stages_lt message rfl⟩
  | terminated id status => exact absurd (.inr ⟨_, hmem, rfl⟩) h.awaits
  | start =>
      simp only [runBlock]
      rw [start]
      split
      · exact ⟨htake, Nat.lt_add_of_pos_left (by decide)⟩
      · have hclear : Doomed { s with blocks := bs, userStopped := false, needsReload := false } :=
          ⟨htake.awaits, htake.disabling, htake.on, htake.service⟩
        -- whatever the message
        generalize missingMessage = message
        have hlog := hclear.addLog message
        exact ⟨⟨hlog.awaits, hlog.disabling, hlog.on, hlog.service⟩,
          addLog_stages_lt message rfl⟩
  | proxyEnabled port =>
      refine ⟨(hactive true).addLog _, ?_⟩
      exact Nat.lt_of_le_of_lt (Nat.le_of_eq (addLog_stages (h.service port)))
        (Nat.lt_add_of_pos_left Nat.one_pos)
  | proxyDisabled => exact ⟨(hactive false).addLog _, addLog_stages_lt _ rfl⟩
  | proxyError message => exact ⟨htake.addLog message, addLog_stages_lt message rfl⟩

/-- While work is pending, some of it goes on. -/
lemma Doomed.goes_on (h : Doomed s) (hpending : ¬ (s.jobs = [] ∧ s.blocks = [])) :
    ∃ e t, Succeeds e ∧ step s e = some t ∧ Doomed t ∧ t.stages < s.stages := by
  cases hjobs : s.jobs with
  | cons j js =>
      obtain ⟨t, ht⟩ := h.job hjobs
      exact ⟨_, t, by simp [Succeeds, Ev.outcome], ht⟩
  | nil =>
      cases hblocks : s.blocks with
      | cons b bs =>
          obtain ⟨t, ht⟩ := h.block hblocks
          exact ⟨_, t, by simp [Succeeds, Ev.outcome], ht⟩
      | nil => exact absurd ⟨hjobs, hblocks⟩ hpending

/-- **The pending work can finish**, and the proxy stays on with no core running. -/
theorem Doomed.leaks (h : Doomed s) :
    ∃ es u, (∀ e ∈ es, Succeeds e) ∧ run step s es = some u ∧ ¬ Released u := by
  obtain ⟨es, u, hes, hu, hdoom, hjobs, hblocks⟩ :=
    exists_run_of_variant (fun _ hd hpending => Doomed.goes_on hd hpending) h
  refine ⟨es, u, hes, hu, ?_⟩
  intro hreleased
  have hcores : ∀ id, id < u.launched → (u.cores id).isRunning = false := by
    intro id hid
    rw [← Bool.not_eq_true]
    exact fun hrun => hdoom.awaits (.inl ⟨id, hid, hrun⟩)
  have hoff := hreleased hjobs hblocks hcores
  rcases hdoom.on with ⟨j, hj, -⟩ | hon
  · rw [hjobs] at hj
    cases hj
  · rw [hoff] at hon
    cases hon

/-! ### Steps that are not settled -/

/-- A call that has still to turn the proxy on, with no handler to come. -/
structure Unwatched (s : Manager) : Prop where
  awaits : ¬ s.Awaits
  enabling : s.Enabling
  service : ∀ port, listening (enabledMessage s.service port) = false

/-- A call that is to turn the proxy off can do so first. -/
lemma Unwatched.disable (h : Unwatched s) (hdis : s.Disabling) :
    ∃ t, step s (.job .disableSystemProxy .done) = some t ∧ Unwatched t
      ∧ t.jobs.count .disableSystemProxy < s.jobs.count .disableSystemProxy := by
  have hmem : .disableSystemProxy ∈ s.jobs := hdis
  rw [step, if_pos hmem]
  refine ⟨_, rfl, ⟨h.awaits, ?_, h.service⟩, ?_⟩
  · obtain ⟨k, hk, hen⟩ := h.enabling
    have hne : k ≠ .disableSystemProxy := by
      rintro rfl
      cases hen
    exact ⟨k, List.mem_append_left _ ((List.mem_erase_of_ne hne).mpr hk), hen⟩
  · have hpos : 0 < s.jobs.count .disableSystemProxy := List.count_pos_iff.mpr hmem
    show (s.jobs.erase .disableSystemProxy ++ [Job.setWebStates]).count Job.disableSystemProxy < _
    rw [List.count_append, List.count_erase_self, List.count_singleton, if_neg (by simp)]
    omega

/-- **A call that nobody watches leaks**: what turns the proxy off can be finished before it. -/
theorem Unwatched.leaks (h : Unwatched s) :
    ∃ es u, (∀ e ∈ es, Succeeds e) ∧ run step s es = some u ∧ ¬ Released u := by
  have hstep : ∀ s, Unwatched s → ¬ ¬ s.Disabling → ∃ e t, Succeeds e ∧ step s e = some t
      ∧ Unwatched t ∧ t.jobs.count .disableSystemProxy < s.jobs.count .disableSystemProxy := by
    intro s hs hdis
    obtain ⟨t, ht⟩ := hs.disable (not_not.mp hdis)
    exact ⟨_, t, by simp [Succeeds, Ev.outcome], ht⟩
  obtain ⟨es, t, hes, ht, hun, hdis⟩ := exists_run_of_variant hstep h
  have hdoom : Doomed t := ⟨hun.awaits, hdis, .inl hun.enabling, hun.service⟩
  obtain ⟨fs, u, hfs, hu, hleak⟩ := hdoom.leaks
  refine ⟨es ++ fs, u, ?_, run_append_eq_some.mpr ⟨t, ht, hu⟩, hleak⟩
  intro e he
  exact (List.mem_append.mp he).elim (hes e) (hfs e)

/-! ### What a request queues -/

lemma addLog_enabling (h : s.Enabling) (message : Text) : (s.addLog message).Enabling := by
  obtain ⟨j, hj, hen⟩ := h
  rw [addLog_eq]
  exact ⟨j, List.mem_append_left _ hj, hen⟩

lemma addLog_requested {message : Text} (henabled : s.systemProxyEnabled = true)
    (hm : listening message = true) : (s.addLog message).Enabling := by
  rw [addLog_eq, hm, henabled]
  exact ⟨.enableSystemProxy, List.mem_append_right _ (.head _), rfl⟩

lemma addLog_service (message : Text) (s : Manager) : (s.addLog message).service = s.service := by
  rw [addLog_eq]

/-- A `start` that runs no process and logs that the core is listening. -/
lemma start_requested {l : Launch} (hl : l ≠ .launched) (henabled : s.systemProxyEnabled = true)
    (hm : ∃ m ∈ s.startMessages l, listening m = true) :
    (s.start l).Enabling ∧ (s.start l).service = s.service := by
  obtain ⟨m, hm, hlisten⟩ := hm
  unfold startMessages at hm
  rw [start]
  split at hm
  · cases hm
  · rename_i hrun
    rw [if_neg hrun]
    cases l with
    | missing =>
        dsimp only
        rw [← List.mem_singleton.mp hm]
        exact ⟨addLog_requested henabled hlisten, addLog_service ..⟩
    | failed error =>
        dsimp only at hm ⊢
        generalize startingMessage s.settings.buildArguments = starting at hm ⊢
        generalize failedMessage error = failed at hm ⊢
        refine ⟨?_, (addLog_service ..).trans (addLog_service ..)⟩
        rcases List.mem_cons.mp hm with rfl | hm
        · have hscan : ({ s with
              userStopped := false
              needsReload := false
              connectionState := .scanning }.addLog m).Enabling :=
            addLog_requested henabled hlisten
          exact addLog_enabling hscan failed
        · obtain rfl := List.mem_singleton.mp hm
          refine addLog_requested ?_ hlisten
          rw [addLog_eq]
          exact henabled
    | launched => exact absurd rfl hl

/-- The block of a log line that says so. -/
lemma runBlock_requested {l : Launch} {b : Block} (hl : b = .start → l ≠ .launched)
    (henabled : s.systemProxyEnabled = true)
    (hm : ∃ m ∈ s.blockMessages l b, listening m = true) :
    Same s (s.runBlock l b) ∧ (s.runBlock l b).Enabling
      ∧ (s.runBlock l b).service = s.service := by
  have hset : ∀ active : Bool, Same s { s with systemProxyActive := active } :=
    fun _ => same_of_eq rfl rfl rfl rfl rfl
  cases b with
  | start =>
      obtain ⟨hen, hservice⟩ := start_requested (hl rfl) henabled hm
      exact ⟨start_same (hl rfl) s, hen, hservice⟩
  | terminated id status =>
      obtain ⟨m, hm, hlisten⟩ := hm
      rw [blockMessages] at hm
      split at hm
      · cases hm
      · obtain rfl := List.mem_singleton.mp hm
        rw [listening_of_rule (rule_exitedMessage status)] at hlisten
        cases hlisten
  | log message =>
      obtain ⟨m, hm, hlisten⟩ := hm
      obtain rfl := List.mem_singleton.mp hm
      exact ⟨addLog_same _ s, addLog_requested henabled hlisten, addLog_service ..⟩
  | proxyEnabled port =>
      obtain ⟨m, hm, hlisten⟩ := hm
      obtain rfl := List.mem_singleton.mp hm
      exact ⟨(hset true).trans (addLog_same _ _), addLog_requested henabled hlisten,
        addLog_service ..⟩
  | proxyDisabled =>
      obtain ⟨m, hm, hlisten⟩ := hm
      obtain rfl := List.mem_singleton.mp hm
      exact ⟨(hset false).trans (addLog_same _ _), addLog_requested henabled hlisten,
        addLog_service ..⟩
  | proxyError message =>
      obtain ⟨m, hm, hlisten⟩ := hm
      obtain rfl := List.mem_singleton.mp hm
      exact ⟨addLog_same _ s, addLog_requested henabled hlisten, addLog_service ..⟩

/-- A request that runs no core leaves the processes alone and queues a call. -/
lemma step_requested {e : Ev} (hreq : s.Requests e) (hl : ¬ s.Launches e)
    (h : step s e = some t) : Same s t ∧ t.Enabling ∧ t.service = s.service := by
  rcases hreq with ⟨henabled, hm⟩ | ⟨rfl, hconn⟩
  · cases e with
    | start l =>
        cases h
        have hl' : l ≠ .launched := by
          rintro rfl
          obtain ⟨m, hm, -⟩ := hm
          simp only [logged, startMessages] at hm
          split at hm
          · cases hm
          · rename_i hrun
            exact hl ⟨Bool.eq_false_iff.mpr hrun, .inl rfl⟩
        obtain ⟨hen, hservice⟩ := start_requested hl' henabled hm
        exact ⟨start_same hl' s, hen, hservice⟩
    | stop =>
        obtain ⟨m, hm, hlisten⟩ := hm
        obtain rfl := List.mem_singleton.mp hm
        rw [listening_of_rule rule_stoppedMessage] at hlisten
        cases hlisten
    | block b l =>
        obtain ⟨-, rfl⟩ := step_block h
        have hl' : b = .start → l ≠ .launched := by
          rintro rfl rfl
          obtain ⟨m, hm, -⟩ := hm
          simp only [logged, blockMessages, startMessages] at hm
          split at hm
          · cases hm
          · rename_i hrun
            exact hl ⟨Bool.eq_false_iff.mpr hrun, .inr rfl⟩
        have hrun := runBlock_requested (s := { s with blocks := s.blocks.erase b }) hl' henabled hm
        exact ⟨(erase_same s b).trans hrun.1, hrun.2⟩
    | _ =>
        obtain ⟨m, hm, -⟩ := hm
        cases hm
  · cases h
    refine ⟨setSystemProxyEnabled_same true s, ?_, ?_⟩
    · simp only [setSystemProxyEnabled, hconn, Bool.true_and, decide_true, if_true]
      exact ⟨.enableSystemProxy, List.mem_append_right _ (.head _), rfl⟩
    · simp only [setSystemProxyEnabled, hconn, Bool.true_and, decide_true, if_true]
      rfl

/-! ### The last handler -/

/-- A handler that finds the flag false queues nothing. -/
lemma onTerminated_jobs (status : ℤ) (h : s.systemProxyActive = false) :
    (s.onTerminated status).jobs = s.jobs := by
  unfold onTerminated
  dsimp only
  split
  · rw [releaseProxy, h]
    rfl
  · rw [addLog_eq, listening_of_rule (rule_exitedMessage status), releaseProxy, h]
    exact List.append_nil _

lemma onTerminated_service (status : ℤ) (s : Manager) :
    (s.onTerminated status).service = s.service := by
  have hrelease : ({ s with connectionState := .disconnected }.releaseProxy).service
      = s.service := by
    rw [releaseProxy]
    split <;> rfl
  unfold onTerminated
  dsimp only
  split
  · exact hrelease
  · exact (addLog_service ..).trans hrelease

/-- After the last handler, a call that is pending is unwatched, and a proxy that is on and not
known to be on stays on. -/
lemma handler_leaks {id : ℕ} {status : ℤ} {l : Launch}
    (hservice : ∀ port, listening (enabledMessage s.service port) = false)
    (ha : ¬ (s.take (.terminated id status)).Awaits)
    (hno : ¬ (¬ s.Enabling ∧ (s.proxyOn = true → s.Disabling ∨ s.systemProxyActive = true)))
    (h : step s (.block (.terminated id status) l) = some t) : Unwatched t ∨ Doomed t := by
  obtain ⟨-, rfl⟩ := step_block h
  have hkept := onTerminated_kept False status (s.take (.terminated id status))
  have hawaits := ha ∘ (onTerminated_handled status (s.take (.terminated id status))).awaits
  have hservice' : ∀ port, listening (enabledMessage
      ((s.take (.terminated id status)).onTerminated status).service port) = false := by
    rw [onTerminated_service]
    exact hservice
  by_cases hen : s.Enabling
  · obtain ⟨j, hj, hon⟩ := hen
    exact .inl ⟨hawaits, ⟨j, hkept.jobs j hj, hon⟩, hservice'⟩
  · obtain ⟨hon, hneither⟩ := Classical.not_imp.mp fun hoff => hno ⟨hen, hoff⟩
    obtain ⟨hdis, hactive⟩ := not_or.mp hneither
    have hjobs : ((s.take (.terminated id status)).onTerminated status).jobs = s.jobs :=
      onTerminated_jobs status (Bool.eq_false_iff.mpr hactive)
    have hquiet : ¬ ((s.take (.terminated id status)).onTerminated status).Disabling := by
      rw [Disabling, hjobs]
      exact hdis
    exact .inr ⟨hawaits, hquiet, .inr (hkept.proxyOn.trans hon), hservice'⟩

/-- **Only settled steps are safe**: after any other step the run can go on, with `networksetup`
succeeding, to a state with nothing pending, no core running and the proxy on. -/
theorem leaks_of_unsettled {e : Ev}
    (hservice : ∀ port, listening (enabledMessage s.service port) = false)
    (hno : ¬ Settled s e) (h : step s e = some t) :
    ∃ es u, (∀ e ∈ es, Succeeds e) ∧ run step t es = some u ∧ ¬ Released u := by
  rcases not_and_or.mp hno with hreq | hlast
  · obtain ⟨hreq, hfree⟩ := Classical.not_imp.mp hreq
    obtain ⟨ha, hl⟩ := not_or.mp hfree
    obtain ⟨hsame, hen, hserv⟩ := step_requested hreq hl h
    have hun : Unwatched t := ⟨fun ht => ha (hsame.awaits ht), hen, hserv ▸ hservice⟩
    exact hun.leaks
  · simp only [not_forall] at hlast
    obtain ⟨⟨id, status⟩, hhandler, ha, hkeeps⟩ := hlast
    obtain ⟨l, rfl⟩ := Ev.handler_eq_some hhandler
    rcases handler_leaks hservice ha hkeeps h with hun | hdoom
    · exact hun.leaks
    · exact hdoom.leaks

end Manager

end Aether.Gui
