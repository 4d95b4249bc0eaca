import Aether.Error
import Aether.Masque.Capsule
import Aether.Netstack.Addrs

/-!
What `quic::run` and `masque_h2::run` have in common: when a tunnel is reported ready,
and the capsules of the request stream.

Both loops keep the same variables (`ready_tx`, `ready_fired`, `validate_deadline`,
`validate_successes`) and treat them with the same statements, which are the operations
of `Readiness`. What an observer sees is a log, newest observation first.

* `Gated`: with data checking on, at most one signal, and two iterations that delivered
  a packet before it; every operation keeps it.
* `Counted`: how many iterations have delivered a packet; `Counted.ready_iff` says when the signal
  has been given.
* `Adds`: what the packets of one iteration have to do with what it adds to the log.
-/

namespace Aether.Tunnel

open Masque (CapsuleParser AssignedAddress)
open Netstack (AssignedAddr)

def dataProbeRequiredSuccesses : ℕ := 2

/-- What an observer of a tunnel loop sees. `status`, `finished` and `reset` are about the
request stream; `delivered` is an iteration that delivered an IP packet; `reconnect`
carries the variables it is made from. -/
inductive Obs where
  | status (code : ℕ)
  | finished
  | reset
  | delivered
  | ready
  | assigned (a : AssignedAddr)
  | reconnect (successes : ℕ) (deadline : Option ℕ) (reqStream : Option ℕ) (readyFired : Bool)
  deriving DecidableEq

namespace Obs

/-- An observation that neither signals, nor counts, nor reconnects. -/
def Plain : Obs → Prop
  | ready | delivered | reconnect .. => False
  | _ => True

lemma Plain.ne {o : Obs} (h : o.Plain) : o ≠ ready ∧ o ≠ delivered := by
  constructor <;> rintro rfl <;> exact h

def reconnects : Obs → Bool
  | reconnect .. => true
  | _ => false

end Obs

/-- How `run` returns. -/
abbrev Outcome := Except AetherError Unit

/-! ### The readiness of a tunnel -/

/-- The variables of the validation, with the log. `readyTx` says that `ready_tx` still
holds its sender. -/
structure Readiness where
  dataCheck : Bool
  readyTx : Bool
  readyFired : Bool
  validateDeadline : Option ℕ
  validateSuccesses : ℕ
  log : List Obs
  deriving DecidableEq

namespace Readiness

def start (dataCheck readyTx : Bool) : Readiness := ⟨dataCheck, readyTx, false, none, 0, []⟩

def observe (r : Readiness) (o : Obs) : Readiness := { r with log := o :: r.log }

def observeAll (r : Readiness) (os : List Obs) : Readiness := os.foldl observe r

/-- The check at the head of the loop. -/
def expired (r : Readiness) (now : ℕ) : Bool :=
  r.dataCheck && !r.readyFired && r.validateDeadline.any (· ≤ now)

/-- `ready_fired` is set, and the sender, if there still is one, used. -/
def fire (r : Readiness) : Readiness :=
  { r with
    readyFired := true, readyTx := false, log := if r.readyTx then .ready :: r.log else r.log }

/-- The request is through: the deadline is armed, or without data checking the tunnel is
ready. -/
def begin (r : Readiness) (now timeout : ℕ) : Readiness :=
  if r.dataCheck then { r with validateDeadline := some (now + timeout) }
  else if !r.readyFired then r.fire
  else r

/-- The end of a drain that delivered something: one success, until there are enough. -/
def confirm (r : Readiness) : Readiness :=
  if !r.readyFired then
    if r.validateSuccesses + 1 ≥ dataProbeRequiredSuccesses then
      { r with validateSuccesses := r.validateSuccesses + 1, validateDeadline := none }.fire
    else { r with validateSuccesses := r.validateSuccesses + 1 }
  else r

/-- The counting after a drain. -/
def count (r : Readiness) (gotData : Bool) : Readiness :=
  if gotData then (r.observe .delivered).confirm else r

end Readiness

/-! ### What the operations leave alone -/

namespace Readiness

variable {r : Readiness} {o : Obs} {os : List Obs}

lemma observeAll_frame (r : Readiness) (os : List Obs) :
    r.observeAll os = { r with log := os.reverse ++ r.log } := by
  induction os generalizing r with
  | nil => rfl
  | cons o os ih => rw [observeAll, List.foldl_cons, ← observeAll, ih]; simp [observe]

/-- With data checking on, the request only arms the deadline. -/
lemma begin_log (h : r.dataCheck = true) (now timeout : ℕ) : (r.begin now timeout).log = r.log := by
  rw [begin, if_pos h]

/-- The counting logs deliveries and the signal only. -/
lemma count_log (r : Readiness) (gotData : Bool) :
    ∃ os, (r.count gotData).log = os ++ r.log ∧ ∀ o ∈ os, o = .delivered ∨ o = .ready := by
  rw [count]
  split
  · rw [confirm]
    split
    · split
      · by_cases htx : r.readyTx
        · exact ⟨[.ready, .delivered], by simp [fire, observe, htx], by simp⟩
        · exact ⟨[.delivered], by simp [fire, observe, htx], by simp⟩
      · exact ⟨[.delivered], rfl, by simp⟩
    · exact ⟨[.delivered], rfl, by simp⟩
  · exact ⟨[], rfl, (by simp)⟩

/-- As long as the tunnel is not ready, the counting leaves the deadline alone. -/
lemma count_frame (r : Readiness) (gotData : Bool) :
    (r.count gotData).dataCheck = r.dataCheck
      ∧ ((r.count gotData).readyFired = false → r.readyFired = false
        ∧ (r.count gotData).validateDeadline = r.validateDeadline) := by
  rw [count]
  split
  · rw [confirm]
    split
    · split
      · exact ⟨rfl, (by intro h; cases h)⟩
      · exact ⟨rfl, fun h => ⟨h, rfl⟩⟩
    · exact ⟨rfl, fun h => ⟨h, rfl⟩⟩
  · exact ⟨rfl, fun h => ⟨h, rfl⟩⟩

/-- Before the deadline, and behind the signal, the check at the head of the loop passes. -/
lemma expired_eq_false {deadline now : ℕ}
    (harmed : r.readyFired = false → r.validateDeadline = some deadline) (htime : now < deadline) :
    r.expired now = false := by
  rw [expired]
  cases hfired : r.readyFired with
  | true => simp
  | false => simp [harmed hfired, htime]

end Readiness

/-! ### The gate -/

/-- The log of a tunnel whose readiness is gated: no signal before the tunnel is ready, at
most one signal, and that at the end of a delivering iteration which is not the first. -/
structure Gated (r : Readiness) : Prop where
  counted : r.readyFired = false →
    r.validateSuccesses = r.log.count .delivered ∧ .ready ∉ r.log
  once : r.log.count .ready ≤ 1
  enough : ∀ pre, .ready :: pre <:+ r.log →
    pre.head? = some .delivered ∧ dataProbeRequiredSuccesses ≤ pre.count .delivered

lemma start_gated (dataCheck readyTx : Bool) : Gated (.start dataCheck readyTx) where
  counted _ := ⟨rfl, (by intro h; cases h)⟩
  once := Nat.zero_le _
  enough pre h := by
    have hnil := List.suffix_nil.mp h
    cases hnil

variable {r : Readiness} {o : Obs}

/-- An observation other than a signal, and that no success counts. -/
lemma Gated.observe (h : Gated r) (hr : o ≠ .ready) (hd : r.readyFired = true ∨ o ≠ .delivered) :
    Gated (r.observe o) where
  counted hf := by
    obtain ⟨hc, hn⟩ := h.counted hf
    have hne : o ≠ .delivered := hd.resolve_left (Bool.eq_false_iff.mp hf)
    refine ⟨?_, ?_⟩
    · show r.validateSuccesses = (o :: r.log).count .delivered
      rw [List.count_cons_of_ne hne, hc]
    · rintro hmem
      rcases List.mem_cons.mp hmem with heq | hmem
      · exact hr heq.symm
      · exact hn hmem
  once := by
    show (o :: r.log).count .ready ≤ 1
    rw [List.count_cons_of_ne hr]
    exact h.once
  enough pre hpre := by
    rcases List.suffix_cons_iff.mp hpre with heq | hsuf
    · exact absurd (List.cons.inj heq).1.symm hr
    · exact h.enough pre hsuf

/-- Observations that the gate does not count. -/
lemma Gated.observeAll {os : List Obs} (h : Gated r) (hos : ∀ o ∈ os, o ≠ .ready ∧ o ≠ .delivered) :
    Gated (r.observeAll os) := by
  induction os generalizing r with
  | nil => exact h
  | cons o os ih =>
      obtain ⟨hr, hd⟩ := hos o (List.mem_cons_self ..)
      exact ih (h.observe hr (.inr hd)) fun o' ho' => hos o' (List.mem_cons_of_mem o ho')

lemma Gated.begin (h : Gated r) (hdc : r.dataCheck = true) (now timeout : ℕ) :
    Gated (r.begin now timeout) := by
  rw [Readiness.begin, if_pos hdc]
  exact ⟨h.counted, h.once, h.enough⟩

/-- The signal, once enough iterations have delivered. -/
lemma Gated.fire (hquiet : .ready ∉ r.log) (hlast : r.log.head? = some .delivered)
    (hd : dataProbeRequiredSuccesses ≤ r.log.count .delivered) : Gated r.fire := by
  refine ⟨(by intro h; cases h), ?_, ?_⟩
  · show (if r.readyTx then .ready :: r.log else r.log : List Obs).count .ready ≤ 1
    have hzero : r.log.count .ready = 0 := List.count_eq_zero_of_not_mem hquiet
    split
    · rw [List.count_cons_self]
      omega
    · omega
  · intro pre hpre
    change .ready :: pre <:+ (if r.readyTx then .ready :: r.log else r.log : List Obs) at hpre
    have hold : ¬ (.ready :: pre <:+ r.log) := fun hs => hquiet (hs.subset (List.mem_cons_self ..))
    split at hpre
    · rcases List.suffix_cons_iff.mp hpre with heq | hsuf
      · rw [(List.cons.inj heq).2]
        exact ⟨hlast, hd⟩
      · exact absurd hsuf hold
    · exact absurd hpre hold

lemma Gated.count (h : Gated r) (gotData : Bool) : Gated (r.count gotData) := by
  rw [Readiness.count]
  split
  · rw [Readiness.confirm]
    split
    · rename_i hf
      have hf' : r.readyFired = false := by simpa [Readiness.observe] using hf
      obtain ⟨hc, hn⟩ := h.counted hf'
      have hlog : (r.observe .delivered).log.count .delivered = r.validateSuccesses + 1 := by
        rw [hc]
        exact List.count_cons_self
      have hquiet : .ready ∉ (r.observe .delivered).log := by
        intro hmem
        rcases List.mem_cons.mp hmem with heq | hmem
        · cases heq
        · exact hn hmem
      split
      · rename_i hge
        exact .fire hquiet rfl (by rw [hlog]; exact hge)
      · refine ⟨fun _ => ⟨hlog.symm, hquiet⟩, ?_, fun pre hpre => ?_⟩
        · show (r.observe .delivered).log.count .ready ≤ 1
          rw [List.count_eq_zero_of_not_mem hquiet]
          exact Nat.zero_le _
        · exact absurd (hpre.subset (List.mem_cons_self ..)) hquiet
    · rename_i hf
      exact h.observe (by simp) (.inl (by simpa [Readiness.observe] using hf))
  · exact h

/-! ### The count -/

/-- The readiness after so many drains that delivered something, where the signal is awaited. -/
structure Counted (full : ℕ) (r : Readiness) : Prop where
  waiting : full < dataProbeRequiredSuccesses →
    r.readyFired = false ∧ r.validateSuccesses = full ∧ r.readyTx = true ∧ .ready ∉ r.log
  fired : dataProbeRequiredSuccesses ≤ full → r.readyFired = true ∧ .ready ∈ r.log

namespace Counted

variable {full : ℕ}

lemma start (dataCheck : Bool) : Counted 0 (.start dataCheck true) :=
  ⟨fun _ => ⟨rfl, rfl, rfl, List.not_mem_nil⟩, fun h => absurd h (by decide)⟩

lemma begin (h : Counted full r) (hdc : r.dataCheck = true) (now timeout : ℕ) :
    Counted full (r.begin now timeout) := by
  rw [Readiness.begin, if_pos hdc]
  exact ⟨h.waiting, h.fired⟩

lemma observe (h : Counted full r) (ho : o ≠ .ready) : Counted full (r.observe o) := by
  refine ⟨?_, ?_⟩
  · intro hlt
    obtain ⟨hfired, hcount, htx, hquiet⟩ := h.waiting hlt
    refine ⟨hfired, hcount, htx, ?_⟩
    intro hmem
    rcases List.mem_cons.mp hmem with heq | hmem
    · exact ho heq.symm
    · exact hquiet hmem
  · intro hle
    exact ⟨(h.fired hle).1, List.mem_cons_of_mem o (h.fired hle).2⟩

lemma observeAll {os : List Obs} (h : Counted full r) (hos : ∀ o ∈ os, o ≠ .ready) :
    Counted full (r.observeAll os) := by
  induction os generalizing r with
  | nil => exact h
  | cons o os ih =>
      exact ih (h.observe (hos o (List.mem_cons_self ..)))
        fun o' ho' => hos o' (List.mem_cons_of_mem o ho')

/-- A drain that delivers something counts once. -/
lemma count (h : Counted full r) (gotData : Bool) :
    Counted (full + if gotData then 1 else 0) (r.count gotData) := by
  cases gotData with
  | false => exact h
  | true =>
      have hobs : Counted full (r.observe .delivered) := h.observe (by simp)
      show Counted (full + 1) (r.observe .delivered).confirm
      rw [Readiness.confirm]
      by_cases hlt : full < dataProbeRequiredSuccesses
      · obtain ⟨hfired, hcount, htx, hquiet⟩ := hobs.waiting hlt
        rw [hfired, hcount]
        by_cases hlast : dataProbeRequiredSuccesses ≤ full + 1
        · refine ⟨fun hlt' => absurd hlast (Nat.not_le_of_lt hlt'), fun _ => ?_⟩
          simp [Readiness.fire, htx, hlast]
        · refine ⟨fun _ => ?_, fun hle => absurd hle hlast⟩
          simpa [hlast, hfired, htx] using hquiet
      · obtain ⟨hfired, hready⟩ := hobs.fired (Nat.le_of_not_lt hlt)
        rw [hfired]
        exact ⟨fun hlt' => absurd (Nat.lt_of_succ_lt hlt') hlt, fun _ => ⟨hfired, hready⟩⟩

/-- **The signal has been given** exactly when enough drains delivered something. -/
lemma ready_iff (h : Counted full r) : .ready ∈ r.log ↔ dataProbeRequiredSuccesses ≤ full := by
  by_cases hlt : full < dataProbeRequiredSuccesses
  · exact iff_of_false (h.waiting hlt).2.2.2 (Nat.not_le_of_lt hlt)
  · have hle := Nat.le_of_not_lt hlt
    exact iff_of_true (h.fired hle).2 hle

end Counted

/-! ### What an iteration adds to the log -/

/-- What an iteration that delivers these packets adds to the log: at most one delivery, and
neither a delivery nor the signal if there is no packet. -/
def Adds (packets : List Bytes) (log log' : List Obs) : Prop :=
  ∃ os, log' = os ++ log ∧ os.count .delivered ≤ 1
    ∧ (packets = [] → ∀ o ∈ os, o ≠ .ready ∧ o ≠ .delivered)

namespace Adds

variable {packets : List Bytes} {log log' log'' : List Obs}

lemma refl (packets : List Bytes) (log : List Obs) : Adds packets log log :=
  ⟨[], rfl, Nat.zero_le _, fun _ _ ho => absurd ho List.not_mem_nil⟩

/-- Observations that are neither a delivery nor the signal come before any others. -/
lemma after {os : List Obs} (hos : ∀ o ∈ os, o ≠ .ready ∧ o ≠ .delivered)
    (h : Adds packets (os ++ log) log') : Adds packets log log' := by
  obtain ⟨more, rfl, hone, hquiet⟩ := h
  refine ⟨more ++ os, (List.append_assoc ..).symm, ?_, ?_⟩
  · have hzero : os.count .delivered = 0 :=
      List.count_eq_zero_of_not_mem fun hmem => (hos _ hmem).2 rfl
    rw [List.count_append, hzero]
    exact hone
  · intro hnone o ho
    rcases List.mem_append.mp ho with ho | ho
    · exact hquiet hnone o ho
    · exact hos o ho

/-- So does one that comes behind them. -/
lemma observed {o : Obs} (h : Adds packets log log') (hr : o ≠ .ready) (hd : o ≠ .delivered) :
    Adds packets log (o :: log') := by
  obtain ⟨os, rfl, hone, hquiet⟩ := h
  refine ⟨o :: os, rfl, ?_, ?_⟩
  · rw [List.count_cons_of_ne hd]
    exact hone
  · intro hnone o' ho'
    rcases List.mem_cons.mp ho' with rfl | ho'
    · exact ⟨hr, hd⟩
    · exact hquiet hnone o' ho'

/-- The counting after a drain. -/
lemma count (r : Readiness) (packets : List Bytes) :
    Adds packets r.log (r.count !packets.isEmpty).log := by
  cases packets with
  | nil => exact refl [] r.log
  | cons packet packets =>
      have hcount : (r.count !(packet :: packets).isEmpty) = (r.observe .delivered).confirm := rfl
      have hfire (u : Readiness) (h : u.log = .delivered :: r.log) :
          Adds (packet :: packets) r.log u.fire.log := by
        rw [Readiness.fire, h]
        cases u.readyTx with
        | true => exact ⟨[.ready, .delivered], rfl, by decide, by simp⟩
        | false => exact ⟨[.delivered], rfl, by decide, by simp⟩
      rw [hcount, Readiness.confirm]
      split
      · split
        · exact hfire _ rfl
        · exact ⟨[.delivered], rfl, by decide, by simp⟩
      · exact ⟨[.delivered], rfl, by decide, by simp⟩

/-- A delivery in the log is one more only if there is a packet. -/
lemma delivered_le (h : Adds packets log log') :
    log'.count .delivered ≤ log.count .delivered + if packets.isEmpty then 0 else 1 := by
  obtain ⟨os, rfl, hone, hquiet⟩ := h
  rw [List.count_append]
  split
  · rename_i hnone
    have hzero : os.count .delivered = 0 :=
      List.count_eq_zero_of_not_mem fun hmem =>
        (hquiet (List.isEmpty_iff.mp hnone) _ hmem).2 rfl
    omega
  · omega

/-- An iteration that signals delivers a packet. -/
lemma ne_nil (h : Adds packets log log') (hold : .ready ∉ log) (hnew : .ready ∈ log') :
    packets ≠ [] := by
  rintro rfl
  obtain ⟨os, rfl, -, hquiet⟩ := h
  rcases List.mem_append.mp hnew with hmem | hmem
  · exact (hquiet rfl _ hmem).1 rfl
  · exact hold hmem

end Adds

/-! ### Assigned addresses -/

/-- `bytes_to_ip`. -/
def bytesToIp (version : UInt8) (bytes : Bytes) : Option IpAddr :=
  if version = 4 then
    if h : bytes.length = 4 then some (.v4 ⟨bytes, h⟩) else none
  else if version = 6 then
    if h : bytes.length = 16 then some (.v6 ⟨bytes, h⟩) else none
  else none

/-- The address an `ADDRESS_ASSIGN` record hands to the bridge. -/
def assignedAddr (a : AssignedAddress) : Option AssignedAddr :=
  (bytesToIp a.ipVersion a.address).map fun ip => ⟨ip, a.prefixLen⟩

end Aether.Tunnel
