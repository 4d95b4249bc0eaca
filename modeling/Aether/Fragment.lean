import Aether.Lib.Machine
import Aether.Lib.Octets

/-!
`FragmentingStream` (`fragment.rs`), which cuts the ClientHello of a TLS connection into small
writes with delays between them.

The caller polls in any order. An event carries what is not in the hand of the wrapper: the
clock, whether the timer has fired, the random numbers, and how the inner stream answers. The
log has one entry for each `poll_write`.

* `Write.Faithful`: what one `poll_write` does to the bytes of its buffer.
* `writes_transparent`: **the wrapper is transparent**, over every sequence of polls.
-/

namespace Aether.Fragment

/-- `FragmentConfig`. -/
structure FragmentConfig where
  enabled : Bool
  sizeMin : ℕ
  sizeMax : ℕ
  delayMinMs : ℕ
  delayMaxMs : ℕ

/-- `gen_range(lo..=hi)` for a random number. -/
def genRange (lo hi r : ℕ) : ℕ := lo + r % (hi - lo + 1)

lemma genRange_le {lo hi : ℕ} (h : lo ≤ hi) (r : ℕ) : genRange lo hi r ≤ hi := by
  have hlt : r % (hi - lo + 1) < hi - lo + 1 := Nat.mod_lt r (by omega)
  rw [genRange]
  omega

/-- Every number of the range is picked for some random number. -/
lemma exists_genRange {lo hi n : ℕ} (hlo : lo ≤ n) (hhi : n ≤ hi) : ∃ r, genRange lo hi r = n := by
  refine ⟨n - lo, ?_⟩
  rw [genRange, Nat.mod_eq_of_lt (by omega)]
  omega

namespace FragmentConfig

def pickChunkLen (cfg : FragmentConfig) (remaining r : ℕ) : ℕ :=
  let hi := min (max cfg.sizeMax 1) remaining
  let lo := min (max cfg.sizeMin 1) hi
  if hi ≤ lo then hi else genRange lo hi r

/-- `pick_delay`, in milliseconds. -/
def pickDelay (cfg : FragmentConfig) (r : ℕ) : ℕ :=
  if cfg.delayMaxMs = 0 then 0
  else if cfg.delayMaxMs ≤ cfg.delayMinMs then cfg.delayMinMs
  else genRange cfg.delayMinMs cfg.delayMaxMs r

/-- The length picked is that of a slice of the buffer, and not too long. -/
lemma pickChunkLen_le (cfg : FragmentConfig) (remaining r : ℕ) :
    cfg.pickChunkLen remaining r ≤ remaining ∧ cfg.pickChunkLen remaining r ≤ max 1 cfg.sizeMax := by
  rw [pickChunkLen]
  split
  · omega
  · rename_i h
    have hle := genRange_le (Nat.le_of_not_le h) r
    omega

lemma pickChunkLen_pos (cfg : FragmentConfig) {remaining : ℕ} (h : 0 < remaining) (r : ℕ) :
    0 < cfg.pickChunkLen remaining r := by
  rw [pickChunkLen]
  split
  · omega
  · rw [genRange]
    omega

/-- Every length of the range is picked for some random number. -/
lemma exists_pickChunkLen (cfg : FragmentConfig) {remaining n : ℕ}
    (hlo : min (max cfg.sizeMin 1) (min (max cfg.sizeMax 1) remaining) ≤ n)
    (hhi : n ≤ min (max cfg.sizeMax 1) remaining) : ∃ r, cfg.pickChunkLen remaining r = n := by
  simp only [pickChunkLen]
  split
  · rename_i h
    exact ⟨0, Nat.le_antisymm (Nat.le_trans h hlo) hhi⟩
  · exact exists_genRange hlo hhi

end FragmentConfig

/-! ### Polls -/

/-- `std::task::Poll`. -/
inductive Poll (α : Type) where
  | pending
  | ready (a : α)
  deriving DecidableEq

/-- The outcome of a write: pending, an error, or the number of bytes accepted. -/
abbrev WriteResult := Poll (Except String ℕ)

/-- How the inner stream answers a write, whatever it is given: it accepts no more than that. -/
structure Inner where
  pollWrite : Bytes → WriteResult
  le : ∀ {slice n}, pollWrite slice = .ready (.ok n) → n ≤ slice.length

structure FragmentingStream where
  cfg : FragmentConfig
  fragmenting : Bool
  /-- The instant at which the delay is over. -/
  pendingDelay : Option ℕ

/-- What a `poll_write` meets: the clock, whether a timer that is due has fired, two random
numbers and the inner stream. -/
structure Moment where
  now : ℕ
  fired : Bool
  chunkDice : ℕ
  delayDice : ℕ
  inner : Inner

/-- `Sleep::poll`: a timer may fire late, and never early. -/
def Moment.over (m : Moment) (deadline : ℕ) : Bool := m.fired && deadline ≤ m.now

namespace FragmentingStream

def new (cfg : FragmentConfig) : FragmentingStream := ⟨cfg, cfg.enabled, none⟩

/-- `poll_write` behind the delay: the slice passed on with the answer, and the stream after
it. -/
def writeChunk (s : FragmentingStream) (buf : Bytes) (m : Moment) :
    (Bytes × WriteResult) × FragmentingStream :=
  let slice := buf.take (s.cfg.pickChunkLen buf.length m.chunkDice)
  let answer := m.inner.pollWrite slice
  match answer with
  | .ready (.ok n) =>
      let delay := s.cfg.pickDelay m.delayDice
      if 0 < n ∧ delay ≠ 0 then
        ((slice, answer), { s with pendingDelay := some (m.now + delay) })
      else ((slice, answer), s)
  | _ => ((slice, answer), s)

/-- `poll_write`: what is passed on and the answer to it, if anything is, the result, and the
stream after it. -/
def pollWrite (s : FragmentingStream) (buf : Bytes) (m : Moment) :
    Option (Bytes × WriteResult) × WriteResult × FragmentingStream :=
  if buf.isEmpty || !s.fragmenting then
    (some (buf, m.inner.pollWrite buf), m.inner.pollWrite buf, s)
  else if s.pendingDelay.all m.over then
    let (passed, t) := { s with pendingDelay := none }.writeChunk buf m
    (some passed, passed.2, t)
  else (none, .pending, s)

/-- `poll_read`, but for what the inner stream reads. -/
def pollRead (s : FragmentingStream) : FragmentingStream := { s with fragmenting := false }

end FragmentingStream

/-! ### Runs -/

/-- One `poll_write`: the buffer, the stream as it was found and the clock, then what was passed
on with its answer, and the result. -/
structure Write where
  buf : Bytes
  stream : FragmentingStream
  now : ℕ
  passed : Option (Bytes × WriteResult)
  result : WriteResult

/-- The bytes at the front that a result says are accepted. -/
def acceptedOf (slice : Bytes) : WriteResult → Bytes
  | .ready (.ok n) => slice.take n
  | _ => []

namespace Write

/-- The bytes that the inner stream accepted. -/
def accepted (w : Write) : Bytes :=
  match w.passed with
  | some (slice, answer) => acceptedOf slice answer
  | none => []

/-- The bytes that were reported as accepted. -/
def reported (w : Write) : Bytes := acceptedOf w.buf w.result

end Write

/-- The polls of the caller. -/
inductive Ev where
  | write (buf : Bytes) (m : Moment)
  | read
  | flush
  | shutdown

/-- The buffer of a write. -/
def Ev.buf : Ev → Option Bytes
  | write buf _ => some buf
  | _ => none

structure State where
  stream : FragmentingStream
  log : List Write

def start (cfg : FragmentConfig) : State := ⟨.new cfg, []⟩

/-- A poll is always possible. `poll_flush` and `poll_shutdown` are the inner stream's. -/
def step (s : State) : Ev → Option State
  | .write buf m =>
      let (passed, result, stream) := s.stream.pollWrite buf m
      some ⟨stream, s.log ++ [⟨buf, s.stream, m.now, passed, result⟩]⟩
  | .read => some { s with stream := s.stream.pollRead }
  | .flush => some s
  | .shutdown => some s

/-- Each write is given the front of the data that is left, and the data go on behind what was
reported as accepted. -/
def Retries : Bytes → List Write → Prop
  | _, [] => True
  | data, w :: ws => w.buf <+: data ∧ Retries (data.drop w.reported.length) ws

instance decidableRetries : ∀ data ws, Decidable (Retries data ws)
  | _, [] => inferInstanceAs (Decidable True)
  | data, w :: ws =>
      have := decidableRetries (data.drop w.reported.length) ws
      inferInstanceAs (Decidable (_ ∧ _))

/-- No delay is pending for a write that is passed on, and what is passed on is a non-empty
prefix of the buffer, no longer than the configuration says. -/
structure Write.Fragments (w : Write) (cfg : FragmentConfig) (slice : Bytes) : Prop where
  delay : ∀ deadline, w.stream.pendingDelay = some deadline → deadline ≤ w.now
  ne_nil : slice ≠ []
  isPrefix : slice <+: w.buf
  length : slice.length ≤ max 1 cfg.sizeMax

/-- What one `poll_write` does to the bytes of its buffer. -/
structure Write.Faithful (w : Write) (cfg : FragmentConfig) : Prop where
  conserved : w.accepted = w.reported
  fragments : w.stream.fragmenting = true → w.buf ≠ [] →
    ∀ slice answer, w.passed = some (slice, answer) → w.Fragments cfg slice
  unchanged : w.stream.fragmenting = false → w.passed = some (w.buf, w.result)

/-! ### One write -/

variable {cfg : FragmentConfig} {s t : State} {es : List Ev}

/-- What is passed on behind the delay: a prefix of the buffer of the length picked. -/
lemma writeChunk_fst (s : FragmentingStream) (buf : Bytes) (m : Moment) :
    (s.writeChunk buf m).1
      = (buf.take (s.cfg.pickChunkLen buf.length m.chunkDice),
          m.inner.pollWrite (buf.take (s.cfg.pickChunkLen buf.length m.chunkDice))) := by
  rw [FragmentingStream.writeChunk]
  dsimp only
  split
  · split <;> rfl
  · rfl

lemma writeChunk_frame (s : FragmentingStream) (buf : Bytes) (m : Moment) :
    (s.writeChunk buf m).2.cfg = s.cfg ∧ (s.writeChunk buf m).2.fragmenting = s.fragmenting := by
  rw [FragmentingStream.writeChunk]
  dsimp only
  split
  · split <;> exact ⟨rfl, rfl⟩
  · exact ⟨rfl, rfl⟩

/-- A write changes neither the configuration nor whether the stream fragments. -/
lemma pollWrite_frame (s : FragmentingStream) (buf : Bytes) (m : Moment) :
    (s.pollWrite buf m).2.2.cfg = s.cfg
      ∧ (s.pollWrite buf m).2.2.fragmenting = s.fragmenting := by
  rw [FragmentingStream.pollWrite]
  split
  · exact ⟨rfl, rfl⟩
  · split
    · exact writeChunk_frame { s with pendingDelay := none } buf m
    · exact ⟨rfl, rfl⟩

lemma acceptedOf_isPrefix (slice : Bytes) (r : WriteResult) : acceptedOf slice r <+: slice := by
  rcases r with _ | e | n
  · exact List.nil_prefix
  · exact List.nil_prefix
  · exact List.take_prefix _ _

/-- The inner stream accepts no more than the slice, so what it accepts of the slice is what it
would be of the buffer. -/
lemma acceptedOf_take (inner : Inner) (buf : Bytes) (k : ℕ) :
    acceptedOf (buf.take k) (inner.pollWrite (buf.take k))
      = acceptedOf buf (inner.pollWrite (buf.take k)) := by
  rcases h : inner.pollWrite (buf.take k) with _ | e | n
  · rfl
  · rfl
  · have hle := inner.le h
    rw [List.length_take] at hle
    rw [acceptedOf, acceptedOf, List.take_take]
    congr 1
    omega

/-- The slice picked from a buffer that is not empty. -/
lemma fragments_slice {w : Write} {cfg : FragmentConfig} {r : ℕ} (hne : w.buf ≠ [])
    (hdelay : ∀ deadline, w.stream.pendingDelay = some deadline → deadline ≤ w.now) :
    w.Fragments cfg (w.buf.take (cfg.pickChunkLen w.buf.length r)) where
  delay := hdelay
  ne_nil := by
    have hlen : 0 < w.buf.length := List.length_pos_iff.mpr hne
    have hpos := cfg.pickChunkLen_pos hlen r
    rw [← List.length_pos_iff, List.length_take]
    omega
  isPrefix := List.take_prefix _ _
  length := by
    have hle := (cfg.pickChunkLen_le w.buf.length r).2
    rw [List.length_take]
    omega

lemma pollWrite_faithful (s : FragmentingStream) (buf : Bytes) (m : Moment) :
    Write.Faithful ⟨buf, s, m.now, (s.pollWrite buf m).1, (s.pollWrite buf m).2.1⟩ s.cfg := by
  rw [FragmentingStream.pollWrite]
  split
  · -- passed through
    rename_i hthrough
    refine ⟨rfl, fun hfrag hne => ?_, fun _ => rfl⟩
    have hboth : buf ≠ [] ∧ s.fragmenting = true := ⟨hne, hfrag⟩
    simp [hboth] at hthrough
  · rename_i hthrough
    simp only [Bool.or_eq_true, List.isEmpty_iff, Bool.not_eq_true', not_or,
      Bool.not_eq_false] at hthrough
    split
    · -- no delay is pending
      rename_i hover
      have hdelay : ∀ deadline, s.pendingDelay = some deadline → deadline ≤ m.now := by
        intro deadline hsome
        rw [hsome, Option.all_some, Moment.over, Bool.and_eq_true, decide_eq_true_eq] at hover
        exact hover.2
      dsimp only
      rw [writeChunk_fst]
      refine ⟨acceptedOf_take m.inner buf _, fun _ hne slice answer hpassed => ?_, fun h => ?_⟩
      · cases hpassed
        exact fragments_slice hne hdelay
      · exact absurd (hthrough.2.symm.trans h) Bool.noConfusion
    · refine ⟨rfl, fun _ _ slice answer hpassed => ?_, fun h => ?_⟩
      · cases hpassed
      · exact absurd (hthrough.2.symm.trans h) Bool.noConfusion

/-! ### Every sequence of polls -/

/-- What every poll preserves. -/
structure Inv (cfg : FragmentConfig) (s : State) : Prop where
  cfg_eq : s.stream.cfg = cfg
  faithful : ∀ w ∈ s.log, w.Faithful cfg

lemma step_inv (s : State) (e : Ev) (t : State) (hi : Inv cfg s) (h : step s e = some t) :
    Inv cfg t := by
  cases e with
  | write buf m =>
      cases h
      refine ⟨(pollWrite_frame s.stream buf m).1.trans hi.cfg_eq, ?_⟩
      intro w hw
      rcases List.mem_append.mp hw with hold | hnew
      · exact hi.faithful w hold
      · rw [List.mem_singleton.mp hnew, ← hi.cfg_eq]
        exact pollWrite_faithful s.stream buf m
  | read => cases h; exact ⟨hi.cfg_eq, hi.faithful⟩
  | flush | shutdown => cases h; exact hi

lemma run_inv (h : Machine.run step (start cfg) es = some s) : Inv cfg s :=
  Machine.run_invariant step_inv ⟨rfl, by simp [start]⟩ h

/-- Once the stream does not fragment any more, each write is passed through. By induction on
the polls. -/
lemma run_unchanged (hno : s.stream.fragmenting = false) (h : Machine.run step s es = some t) :
    ∃ later : List Write, t.log = s.log ++ later ∧ later.map Write.buf = es.filterMap Ev.buf
      ∧ ∀ w ∈ later, w.passed = some (w.buf, w.result) := by
  induction es generalizing s with
  | nil =>
      cases h
      exact ⟨[], (List.append_nil _).symm, rfl, by simp⟩
  | cons e es ih =>
      obtain ⟨u, hu, h⟩ := Machine.run_cons_eq_some.mp h
      cases e with
      | write buf m =>
          cases hu
          have hfirst := (pollWrite_faithful s.stream buf m).unchanged hno
          obtain ⟨later, hlog, hbufs, hall⟩ := ih
            ((pollWrite_frame s.stream buf m).2.trans hno) h
          refine ⟨_ :: later, hlog.trans (List.append_assoc _ _ _), ?_, ?_⟩
          · rw [List.map_cons, hbufs]
            rfl
          · exact List.forall_mem_cons.mpr ⟨hfirst, hall⟩
      | read =>
          cases hu
          exact ih (s := { s with stream := s.stream.pollRead }) rfl h
      | flush | shutdown =>
          cases hu
          exact ih hno h

/-- A caller that retries has the front of its data reported as accepted. -/
lemma reported_isPrefix {data : Bytes} {ws : List Write} (h : Retries data ws) :
    ws.flatMap Write.reported <+: data := by
  induction ws generalizing data with
  | nil => exact List.nil_prefix
  | cons w ws ih =>
      obtain ⟨hbuf, hrest⟩ := h
      have hfront : w.reported <+: data := (acceptedOf_isPrefix w.buf w.result).trans hbuf
      obtain ⟨more, rfl⟩ := hfront
      rw [List.drop_left] at hrest
      rw [List.flatMap_cons]
      exact (List.prefix_append_right_inj _).mpr (ih hrest)

/-- **The wrapper is transparent.** Over every sequence of polls, whatever the inner stream
answers and whatever is picked: the bytes that the inner stream accepts are those reported to
the caller, so a caller that retries has the front of its data accepted; while the stream
fragments, what is passed on of a buffer that is not empty is a short non-empty prefix, and no
delay is pending then; and behind a read each write is passed through, with its result. -/
theorem writes_transparent (cfg : FragmentConfig) (es : List Ev) (s : State)
    (h : Machine.run step (start cfg) es = some s) :
    s.log.flatMap Write.accepted = s.log.flatMap Write.reported
      ∧ (∀ data, Retries data s.log → s.log.flatMap Write.accepted <+: data)
      ∧ (∀ w ∈ s.log, w.stream.fragmenting = true → w.buf ≠ [] →
          ∀ slice answer, w.passed = some (slice, answer) → w.Fragments cfg slice)
      ∧ ∀ before after, es = before ++ .read :: after →
          ∃ t later, Machine.run step (start cfg) (before ++ [.read]) = some t
            ∧ s.log = t.log ++ later ∧ later.map Write.buf = after.filterMap Ev.buf
            ∧ ∀ w ∈ later, w.passed = some (w.buf, w.result) := by
  have hi := run_inv h
  have hsame : s.log.flatMap Write.accepted = s.log.flatMap Write.reported :=
    List.flatMap_congr fun w hw => (hi.faithful w hw).conserved
  refine ⟨hsame, ?_, fun w hw => (hi.faithful w hw).fragments, ?_⟩
  · intro data hdata
    rw [hsame]
    exact reported_isPrefix hdata
  · rintro before after rfl
    obtain ⟨u, hu, h⟩ := Machine.run_append_eq_some.mp h
    obtain ⟨t, ht, h⟩ := Machine.run_cons_eq_some.mp h
    have hread : Machine.run step (start cfg) (before ++ [.read]) = some t :=
      Machine.run_append_eq_some.mpr ⟨u, hu, Machine.run_cons_eq_some.mpr ⟨t, ht, rfl⟩⟩
    obtain ⟨later, hlog, hbufs, hall⟩ := run_unchanged (s := t) (by cases ht; rfl) h
    exact ⟨t, later, hread, hlog, hbufs, hall⟩

/-- An inner stream that accepts all it is given. -/
def willing : Inner where
  pollWrite slice := .ready (.ok slice.length)
  le := by
    intro slice n h
    cases h
    exact Nat.le_refl _

/-- Three bytes: the first is written, the retry meets the delay, and behind a read the rest is
passed through. -/
def sampleRun : List Ev :=
  [.write [1, 2, 3] ⟨0, false, 0, 0, willing⟩, .write [2, 3] ⟨0, false, 0, 0, willing⟩, .read,
    .write [2, 3] ⟨0, false, 0, 0, willing⟩]

theorem writes_transparent_sample :
    ∃ s, Machine.run step (start ⟨true, 1, 2, 5, 5⟩) sampleRun = some s
      ∧ s.log.flatMap Write.accepted <+: [1, 2, 3]
      ∧ s.log.flatMap Write.accepted = s.log.flatMap Write.reported
      ∧ s.log.map Write.accepted = [[1], [], [2, 3]] := by
  obtain ⟨s, hs, hretries, haccepted⟩ :
      ∃ s, Machine.run step (start ⟨true, 1, 2, 5, 5⟩) sampleRun = some s
        ∧ Retries [1, 2, 3] s.log ∧ s.log.map Write.accepted = [[1], [], [2, 3]] :=
    ⟨_, rfl, by decide, rfl⟩
  obtain ⟨hsame, hprefix, -⟩ := writes_transparent _ _ s hs
  exact ⟨s, hs, hprefix _ hretries, hsame, haccepted⟩

end Aether.Fragment
