import Aether.Gui.Settings
import Mathlib.Logic.Function.Basic

/-!
`AetherManager` as a machine: what the user does, what the core processes do, and the work
that is pending on the two dispatch queues.

The main queue runs one block at a time; what queues a block may be late by any time, so
the pending blocks run in any order. A job of the global queue is a call of
`enableSystemProxy` or `disableSystemProxy`; the jobs advance in any order.
-/

namespace Aether.Gui

inductive ConnectionState where
  | disconnected
  | scanning
  | connecting
  | connected
  | error (e : Text)
  deriving DecidableEq

/-- A `Process` that `start` has run. -/
structure Core where
  arguments : List Text
  isRunning : Bool
  /-- `terminate()` has been called. -/
  terminated : Bool
  deriving DecidableEq

/-- A call of `enableSystemProxy` or `disableSystemProxy`, at the point it has reached. -/
inductive Job where
  /-- `enableSystemProxy`, queued. -/
  | enableSystemProxy
  /-- The port has been read. -/
  | setAddress (port : ℤ)
  /-- The address has been set. -/
  | setState (port : ℤ)
  /-- `disableSystemProxy`, queued. -/
  | disableSystemProxy
  /-- The SOCKS proxy has been turned off. -/
  | setWebStates
  deriving DecidableEq

/-- The calls that have still to turn the proxy on. -/
def Job.enables : Job → Bool
  | disableSystemProxy => false
  | setWebStates => false
  | _ => true

/-- A block for the main queue. -/
inductive Block where
  /-- A chunk that a pipe reader has read. -/
  | log (message : Text)
  /-- The handler of a process that has exited. -/
  | terminated (id : ℕ) (status : ℤ)
  /-- The delayed `start` of a `restart`. -/
  | start
  | proxyEnabled (port : ℤ)
  | proxyDisabled
  | proxyError (message : Text)
  deriving DecidableEq

/-- The block of a termination handler. -/
def Block.isHandler : Block → Bool
  | terminated _ _ => true
  | _ => false

structure Manager where
  connectionState : ConnectionState
  settings : Settings
  needsReload : Bool
  systemProxyEnabled : Bool
  systemProxyActive : Bool
  /-- The process held, by its number. -/
  process : Option ℕ
  userStopped : Bool
  /-- The processes run so far. -/
  launched : ℕ
  cores : ℕ → Core
  blocks : List Block
  jobs : List Job
  /-- The network service that `activeNetworkService` finds. -/
  service : Text
  /-- The SOCKS port of the system proxy, and whether the proxy is on. -/
  proxyPort : Option ℤ
  proxyOn : Bool

namespace Manager

/-- The application has come up, with its stored settings. -/
def init (settings : Settings) (systemProxyEnabled : Bool) (service : Text) : Manager where
  connectionState := .disconnected
  settings := settings
  needsReload := false
  systemProxyEnabled := systemProxyEnabled
  systemProxyActive := false
  process := none
  userStopped := false
  launched := 0
  cores := fun _ => ⟨[], false, false⟩
  blocks := []
  jobs := []
  service := service
  proxyPort := none
  proxyOn := false

/-- The process held is running. -/
def isRunning (s : Manager) : Bool :=
  match s.process with
  | some id => (s.cores id).isRunning
  | none => false

/-- A job for the global queue. -/
def async (s : Manager) (j : Job) : Manager := { s with jobs := s.jobs ++ [j] }

/-- A block for the main queue. -/
def asyncMain (s : Manager) (b : Block) : Manager := { s with blocks := s.blocks ++ [b] }

end Manager

/-! ### The log -/

/-- The messages at which the core is taken to be connected. -/
def listening (message : Text) : Bool :=
  message.contains "socks5 server listening" || message.contains "socks5 listening"

/-- The messages that name a gateway or an endpoint as selected. -/
def selected (message : Text) : Bool :=
  message.contains "selected" && (message.contains "gateway" || message.contains "endpoint")

namespace Manager

def addLog (message : Text) (s : Manager) : Manager :=
  if listening message then
    let s := { s with connectionState := .connected }
    if s.systemProxyEnabled then s.async .enableSystemProxy else s
  else if message.contains "hunting for" then { s with connectionState := .scanning }
  else if selected message then { s with connectionState := .connecting }
  else if message.contains "handshake successful" then { s with connectionState := .connecting }
  else s

end Manager

/-- The state that a message calls for, in the order of the rules. -/
def rule (message : Text) : Option ConnectionState :=
  if listening message then some .connected
  else if message.contains "hunting for" then some .scanning
  else if selected message then some .connecting
  else if message.contains "handshake successful" then some .connecting
  else none

lemma rule_ne_disconnected (message : Text) : rule message ≠ some .disconnected := by
  rw [rule]
  split_ifs <;> simp

/-- A message that calls for no state does not say that the core is listening. -/
lemma listening_of_rule {message : Text} (h : rule message = none) :
    listening message = false := by
  rw [← Bool.not_eq_true]
  intro hl
  rw [rule, if_pos hl] at h
  cases h

namespace Manager

/-- `addLog` as one update. -/
lemma addLog_eq (message : Text) (s : Manager) :
    s.addLog message = { s with
      connectionState := (rule message).getD s.connectionState
      jobs := s.jobs ++
        if listening message && s.systemProxyEnabled then [.enableSystemProxy] else [] } := by
  unfold addLog rule
  by_cases hl : listening message
  · by_cases hp : s.systemProxyEnabled <;> simp [hl, hp, async]
  · simp only [hl, Bool.false_and, Bool.false_eq_true, if_false, List.append_nil]
    split_ifs <;> rfl

/-- Disable the system proxy if it is known to be on. -/
def releaseProxy (s : Manager) : Manager :=
  if s.systemProxyActive then s.async .disableSystemProxy else s

/-! ### Start, stop, restart -/

end Manager

/-- What `start` finds: no binary, a binary that does not run, or a running process. -/
inductive Launch where
  | missing
  | failed (error : Text)
  | launched
  deriving DecidableEq

def missingMessage : Text :=
  text "Could not find aether binary in app bundle. Place it in the app's Resources folder."

def startingMessage (arguments : List Text) : Text :=
  text "Starting aether with args: " ++ (text " ").intercalate arguments

def failedMessage (error : Text) : Text := text "Failed to start aether: " ++ error

def stoppedMessage : Text := text "Stopped aether"

def exitedMessage (status : ℤ) : Text :=
  text "Aether process exited (status " ++ decimal status ++ text ")"

/-- The message of an exit calls for no state. -/
lemma rule_exitedMessage (status : ℤ) : rule (exitedMessage status) = none := by
  have habsent : ∀ a : Char, a ∉ "Aether process exited (status ".toList → a ≠ ')' → a ≠ '-' →
      a.isDigit = false → Character.single a ∉ exitedMessage status := by
    intro a hhead htail hsign hdigit hmem
    rcases List.mem_append.mp hmem with hmem | hmem
    · rcases List.mem_append.mp hmem with hmem | hmem
      · obtain ⟨c, hc, hac⟩ := mem_text.mp hmem
        exact hhead (Character.single_inj.mp hac ▸ hc)
      · rcases mem_decimal hmem with hac | ⟨c, hc, hac⟩
        · exact hsign (Character.single_inj.mp hac)
        · rw [← Character.single_inj.mp hac, hdigit] at hc
          cases hc
    · obtain ⟨c, hc, hac⟩ := mem_text.mp hmem
      rw [Character.single_inj.mp hac] at htail
      exact htail (List.mem_singleton.mp hc)
  have hk := habsent 'k' (by decide) (by decide) (by decide) (by decide)
  have hn := habsent 'n' (by decide) (by decide) (by decide) (by decide)
  have hl := habsent 'l' (by decide) (by decide) (by decide) (by decide)
  have hlistening : listening (exitedMessage status) = false := by
    rw [listening, contains_eq_false 'k' (by decide) hk, contains_eq_false 'k' (by decide) hk]
    rfl
  have hselected : selected (exitedMessage status) = false := by
    rw [selected, contains_eq_false 'l' (by decide) hl, Bool.false_and]
  rw [rule, hlistening, contains_eq_false 'n' (by decide) hn, hselected,
    contains_eq_false 'n' (by decide) hn]
  rfl

lemma rule_stoppedMessage : rule stoppedMessage = none := by decide

namespace Manager

/-- The processes after `process?.terminate()`. -/
def terminatedCores (s : Manager) : ℕ → Core :=
  match s.process with
  | some id => Function.update s.cores id { s.cores id with terminated := true }
  | none => s.cores

/-- `process?.terminate()` and `process = nil`. -/
def terminate (s : Manager) : Manager := { s with cores := s.terminatedCores, process := none }

lemma terminatedCores_isRunning (s : Manager) (id : ℕ) :
    (s.terminatedCores id).isRunning = (s.cores id).isRunning := by
  cases hheld : s.process with
  | none => simp only [terminatedCores, hheld]
  | some held =>
      simp only [terminatedCores, hheld, Function.update_apply]
      split
      · rename_i hid; rw [hid]
      · rfl

/-- `proc.run()` and `process = proc`. -/
def runProcess (s : Manager) : Manager :=
  { s with
    cores := Function.update s.cores s.launched ⟨s.settings.buildArguments, true, false⟩
    launched := s.launched + 1
    process := some s.launched }

def start (l : Launch) (s : Manager) : Manager :=
  if s.isRunning then s
  else
    let s := { s with userStopped := false, needsReload := false }
    let starting := fun s : Manager =>
      { s with connectionState := .scanning }.addLog (startingMessage s.settings.buildArguments)
    match l with
    | .missing =>
        { s.addLog missingMessage with connectionState := .error (text "Binary not found") }
    | .failed error =>
        { (starting s).addLog (failedMessage error) with connectionState := .error error }
    | .launched => (starting s).runProcess

def stop (s : Manager) : Manager :=
  { ({ s with userStopped := true }).terminate with connectionState := .disconnected }
    |>.releaseProxy |>.addLog stoppedMessage

def restart (s : Manager) : Manager :=
  if s.isRunning then
    { ({ s with userStopped := true }).terminate.releaseProxy with needsReload := false }
      |>.asyncMain .start
  else { s with needsReload := false }

def reload (s : Manager) : Manager :=
  let s := { s with needsReload := false }
  if s.isRunning then s.restart else s

def markSettingsChanged (s : Manager) : Manager :=
  if s.isRunning then { s with needsReload := true } else s

/-- `bindAddress` is set. -/
def setBindAddress (address : Text) (s : Manager) : Manager :=
  let t := { s with settings := { s.settings with bindAddress := address } }
  if t.isRunning && address ≠ s.settings.bindAddress then t.restart else t

/-- `systemProxyEnabled` is set. -/
def setSystemProxyEnabled (enabled : Bool) (s : Manager) : Manager :=
  let s := { s with systemProxyEnabled := enabled }
  if enabled && s.connectionState = .connected then s.async .enableSystemProxy
  else if !enabled && s.systemProxyActive then s.async .disableSystemProxy
  else s

/-- The block of the `terminationHandler`. -/
def onTerminated (status : ℤ) (s : Manager) : Manager :=
  let s := { s with connectionState := .disconnected }.releaseProxy
  let s := if s.userStopped then s else s.addLog (exitedMessage status)
  { s with process := none }

end Manager

/-! ### The global queue -/

/-- What a job finds: no network service, or a `networksetup` call that fails. -/
inductive Outcome where
  | done
  | noService
  | failed (error : Text)
  deriving DecidableEq

namespace Manager

/-- The next stage of `enableSystemProxy` or `disableSystemProxy`. -/
def advance (s : Manager) : Job → Outcome → Option Manager
  | .enableSystemProxy, .done => some (s.async (.setAddress s.settings.parseSocksPort))
  | .enableSystemProxy, .noService =>
      some (s.asyncMain (.proxyError (text "Could not find active network service for proxy")))
  | .setAddress port, .done => some ({ s with proxyPort := some port }.async (.setState port))
  | .setState port, .done => some ({ s with proxyOn := true }.asyncMain (.proxyEnabled port))
  | .disableSystemProxy, .done => some ({ s with proxyOn := false }.async .setWebStates)
  | .disableSystemProxy, .noService =>
      some (s.asyncMain (.proxyError (text "No active network service found for proxy disable")))
  | .setWebStates, .done => some (s.asyncMain .proxyDisabled)
  | .setAddress _, .failed error | .setState _, .failed error =>
      some (s.asyncMain (.proxyError (text "Failed to enable system proxy: " ++ error)))
  | .disableSystemProxy, .failed error | .setWebStates, .failed error =>
      some (s.asyncMain (.proxyError (text "Failed to disable system proxy: " ++ error)))
  | _, _ => none

end Manager

def enabledMessage (service : Text) (port : ℤ) : Text :=
  text "System SOCKS proxy enabled on " ++ service ++ text " → 127.0.0.1:" ++ decimal port

def disabledMessage (service : Text) : Text := text "System proxy disabled on " ++ service

/-! ### The machine -/

inductive Ev where
  | start (l : Launch)
  | stop
  | restart
  | reload
  | setBindAddress (address : Text)
  | setSystemProxyEnabled (enabled : Bool)
  /-- Another setting is edited. -/
  | edit (settings : Settings)
  /-- A view has seen the edit. -/
  | markSettingsChanged
  /-- The reload banner is closed. -/
  | dismiss
  /-- A core process exits, for whatever reason. -/
  | exit (id : ℕ) (status : ℤ)
  /-- A pipe reader reads a chunk, also of a process that has exited. -/
  | read (message : Text)
  /-- A job of the global queue advances. -/
  | job (j : Job) (o : Outcome)
  /-- A block of the main queue runs; `l` is what it finds if it is a `start`. -/
  | block (b : Block) (l : Launch)
  deriving DecidableEq

/-- What the job finds that advances. -/
def Ev.outcome : Ev → Option Outcome
  | job _ o => some o
  | _ => none

/-- The process whose termination handler runs, with its status. -/
def Ev.handler : Ev → Option (ℕ × ℤ)
  | block (.terminated id status) _ => some (id, status)
  | _ => none

lemma Ev.handler_eq_some {e : Ev} {id : ℕ} {status : ℤ} (h : e.handler = some (id, status)) :
    ∃ l, e = .block (.terminated id status) l := by
  unfold handler at h
  split at h
  · rename_i l
    cases h
    exact ⟨l, rfl⟩
  · cases h

namespace Manager

/-- A block that has been taken from the main queue. -/
def runBlock (l : Launch) (s : Manager) : Block → Manager
  | .log message => s.addLog message
  | .terminated _ status => s.onTerminated status
  | .start => s.start l
  | .proxyEnabled port =>
      { s with systemProxyActive := true }.addLog (enabledMessage s.service port)
  | .proxyDisabled => { s with systemProxyActive := false }.addLog (disabledMessage s.service)
  | .proxyError message => s.addLog message

def step (s : Manager) : Ev → Option Manager
  | .start l => some (s.start l)
  | .stop => some s.stop
  | .restart => some s.restart
  | .reload => some s.reload
  | .setBindAddress address => some (s.setBindAddress address)
  | .setSystemProxyEnabled enabled => some (s.setSystemProxyEnabled enabled)
  | .edit settings =>
      if settings.bindAddress = s.settings.bindAddress then some { s with settings := settings }
      else none
  | .markSettingsChanged => some s.markSettingsChanged
  | .dismiss => some { s with needsReload := false }
  | .exit id status =>
      if id < s.launched ∧ (s.cores id).isRunning then
        some ({ s with
          cores := Function.update s.cores id { s.cores id with isRunning := false } }.asyncMain
            (.terminated id status))
      else none
  | .read message => if 0 < s.launched then some (s.asyncMain (.log message)) else none
  | .job j o => if j ∈ s.jobs then { s with jobs := s.jobs.erase j }.advance j o else none
  | .block b l =>
      if b ∈ s.blocks then some ({ s with blocks := s.blocks.erase b }.runBlock l b) else none

/-! ### The steps that are not always enabled -/

variable {s t : Manager}

lemma step_edit {settings : Settings} (h : step s (.edit settings) = some t) :
    t = { s with settings := settings } := by
  obtain ⟨-, h⟩ := Option.ite_none_right_eq_some.mp h
  exact (Option.some.inj h).symm

lemma step_exit {id : ℕ} {status : ℤ} (h : step s (.exit id status) = some t) :
    id < s.launched ∧ t = { s with
      cores := Function.update s.cores id { s.cores id with isRunning := false } }.asyncMain
        (.terminated id status) := by
  obtain ⟨⟨hlt, -⟩, h⟩ := Option.ite_none_right_eq_some.mp h
  exact ⟨hlt, (Option.some.inj h).symm⟩

lemma step_read {message : Text} (h : step s (.read message) = some t) :
    t = s.asyncMain (.log message) := by
  obtain ⟨-, h⟩ := Option.ite_none_right_eq_some.mp h
  exact (Option.some.inj h).symm

lemma step_job {j : Job} {o : Outcome} (h : step s (.job j o) = some t) :
    j ∈ s.jobs ∧ { s with jobs := s.jobs.erase j }.advance j o = some t :=
  Option.ite_none_right_eq_some.mp h

lemma step_block {b : Block} {l : Launch} (h : step s (.block b l) = some t) :
    b ∈ s.blocks ∧ t = { s with blocks := s.blocks.erase b }.runBlock l b := by
  obtain ⟨hmem, h⟩ := Option.ite_none_right_eq_some.mp h
  exact ⟨hmem, (Option.some.inj h).symm⟩

end Manager

end Aether.Gui
