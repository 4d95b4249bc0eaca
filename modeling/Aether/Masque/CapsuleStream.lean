import Aether.Lib.Framing
import Aether.Masque.Capsule
import Mathlib.Logic.Function.Iterate

/-!
The capsule stream does not depend on how it is cut into pieces.

`CapsuleParser::next` is a stable frame decoder (`capsuleDecoder`), so the general
theory of such decoders applies.

* `exec`, `finish`: a caller that pushes pieces and calls `next` in any order, and
  then until `Ok(None)`; `exec_eq` and `finish_eq` identify both with the
  decoder's.
* `finish_frames`: what a parser gives until `Ok(None)` are the capsules at the front of its
  buffer, and what it leaves is behind them.
* `capsule_stream_split`: two ways of feeding one stream give the same results and
  leave the same buffer.
-/

namespace Aether.Masque

open Framing

namespace CapsuleParser

/-- One attempt as a decoder of frames: the result, an error in the body included,
with the number of bytes it took from the front. -/
def nextFrame (buf : Bytes) : Option (Except AetherError Capsule × ℕ) :=
  match next ⟨buf⟩ with
  | (.ok none, _) => none
  | (.ok (some c), p) => some (.ok c, buf.length - p.buf.length)
  | (.error e, p) => some (.error e, buf.length - p.buf.length)

lemma nextFrame_append (f : CapsuleFrame) (more : Bytes) :
    nextFrame (f.bytes ++ more) = some (capsuleOf f.kind f.value, f.bytes.length) := by
  rw [nextFrame, next_append]
  cases capsuleOf f.kind f.value <;> simp [Except.map]

lemma nextFrame_cases (buf : Bytes) :
    (next ⟨buf⟩ = (.ok none, ⟨buf⟩) ∧ nextFrame buf = none)
      ∨ ∃ (f : CapsuleFrame) (more : Bytes), buf = f.bytes ++ more := by
  rcases next_cases ⟨buf⟩ with h | h
  · exact Or.inl ⟨h, by rw [nextFrame, h]⟩
  · exact Or.inr h

/-- A decoded frame is at the front of the buffer. -/
lemma nextFrame_eq_some {buf : Bytes} {r : Except AetherError Capsule} {n : ℕ}
    (h : nextFrame buf = some (r, n)) :
    ∃ (f : CapsuleFrame) (more : Bytes), buf = f.bytes ++ more ∧ r = capsuleOf f.kind f.value
      ∧ n = f.bytes.length := by
  rcases nextFrame_cases buf with ⟨_, hnone⟩ | ⟨f, more, rfl⟩
  · rw [hnone] at h; cases h
  · rw [nextFrame_append] at h
    cases h
    exact ⟨f, more, rfl, rfl, rfl⟩

end CapsuleParser

open CapsuleParser

/-- `CapsuleParser::next` as a stable frame decoder. -/
def capsuleDecoder : Decoder UInt8 (Except AetherError Capsule) where
  next := nextFrame
  pos h := by
    obtain ⟨f, _, _, _, rfl⟩ := nextFrame_eq_some h
    exact f.length_pos
  le_length h := by
    obtain ⟨f, more, rfl, _, rfl⟩ := nextFrame_eq_some h
    simp
  stable h more := by
    obtain ⟨f, rest, rfl, rfl, rfl⟩ := nextFrame_eq_some h
    rw [List.append_assoc, nextFrame_append]

namespace CapsuleParser

/-- What `next` does is what the decoder says. -/
lemma next_eq (p : CapsuleParser) :
    p.next = (match capsuleDecoder.next p.buf with
      | none => (.ok none, p)
      | some (r, n) => (r.map some, ⟨p.buf.drop n⟩) :
        Except AetherError (Option Capsule) × CapsuleParser) := by
  obtain ⟨buf⟩ := p
  show next ⟨buf⟩ = (match nextFrame buf with
      | none => (.ok none, ⟨buf⟩)
      | some (r, n) => (r.map some, ⟨buf.drop n⟩) :
        Except AetherError (Option Capsule) × CapsuleParser)
  rcases nextFrame_cases buf with ⟨h, hnone⟩ | ⟨f, more, rfl⟩
  · rw [h, hnone]
  · rw [next_append, nextFrame_append]
    simp

/-- The results of a caller that pushes pieces and calls `next` in any order, the
`Ok(None)` left out, and the parser it ends with. -/
def exec : List (Decoder.Op UInt8) → CapsuleParser →
    List (Except AetherError Capsule) × CapsuleParser
  | [], p => ([], p)
  | .push data :: ops, p => exec ops (p.push data)
  | .attempt :: ops, p =>
      match p.next with
      | (.ok none, q) => exec ops q
      | (.ok (some c), q) => (.ok c :: (exec ops q).1, (exec ops q).2)
      | (.error e, q) => (.error e :: (exec ops q).1, (exec ops q).2)

lemma next_length_lt {p q : CapsuleParser} {r : Except AetherError (Option Capsule)}
    (h : p.next = (r, q)) (hr : r ≠ .ok none) : q.buf.length < p.buf.length := by
  rw [next_eq] at h
  cases hd : capsuleDecoder.next p.buf with
  | none => rw [hd] at h; exact absurd (Prod.mk.inj h).1.symm hr
  | some rn =>
      rw [hd] at h
      rw [← (Prod.mk.inj h).2]
      exact capsuleDecoder.drop_length_lt hd

/-- `next` until it returns `Ok(None)`: the results and the parser left. -/
def finish (p : CapsuleParser) : List (Except AetherError Capsule) × CapsuleParser :=
  match h : p.next with
  | (.ok none, q) => ([], q)
  | (.ok (some c), q) =>
      have := next_length_lt h (by simp)
      (.ok c :: (finish q).1, (finish q).2)
  | (.error e, q) =>
      have := next_length_lt h (by simp)
      (.error e :: (finish q).1, (finish q).2)
termination_by p.buf.length

lemma exec_eq (ops : List (Decoder.Op UInt8)) (p : CapsuleParser) :
    exec ops p = ((capsuleDecoder.exec ops p.buf).1, ⟨(capsuleDecoder.exec ops p.buf).2⟩) := by
  induction ops generalizing p with
  | nil => rfl
  | cons op ops ih =>
      cases op with
      | push data => rw [exec, ih]; rfl
      | attempt =>
          rw [exec, next_eq, Decoder.exec]
          cases capsuleDecoder.next p.buf with
          | none => exact ih p
          | some rn =>
              obtain ⟨r, n⟩ := rn
              cases r with
              | error e => simp only [Except.map, ih]
              | ok c => simp only [Except.map, ih]

lemma finish_eq (p : CapsuleParser) :
    finish p = ((capsuleDecoder.decode p.buf).1, ⟨(capsuleDecoder.decode p.buf).2⟩) := by
  induction hk : p.buf.length using Nat.strong_induction_on generalizing p with
  | _ k ih =>
    have hnext := next_eq p
    cases hd : capsuleDecoder.next p.buf with
    | none =>
        rw [hd] at hnext
        rw [finish, capsuleDecoder.decode_of_none hd]
        split <;> rename_i h <;> rw [hnext] at h <;> cases h
        rfl
    | some rn =>
        obtain ⟨r, n⟩ := rn
        rw [hd] at hnext
        have hih := ih _ (hk ▸ capsuleDecoder.drop_length_lt hd) ⟨p.buf.drop n⟩ rfl
        rw [finish, capsuleDecoder.decode_of_some hd]
        cases r with
        | error e =>
            split <;> rename_i h <;> rw [hnext] at h <;> cases h
            rw [hih]
        | ok c =>
            split <;> rename_i h <;> rw [hnext] at h <;> cases h
            rw [hih]

lemma finish_of_none {p : CapsuleParser} (h : p.next = (.ok none, p)) : finish p = ([], p) := by
  rw [finish]
  split <;> rename_i h' <;> rw [h] at h' <;> cases h'
  rfl

/-- A capsule at the front comes first, and then what is behind it. -/
lemma finish_append (f : CapsuleFrame) (more : Bytes) :
    finish ⟨f.bytes ++ more⟩
      = (capsuleOf f.kind f.value :: (finish ⟨more⟩).1, (finish ⟨more⟩).2) := by
  have hnext := next_append f more
  rw [finish]
  cases hc : capsuleOf f.kind f.value with
  | error e =>
      rw [hc] at hnext
      split <;> rename_i h <;> rw [hnext] at h <;> cases h
      rfl
  | ok c =>
      rw [hc] at hnext
      split <;> rename_i h <;> rw [hnext] at h <;> cases h
      rfl

/-- Where the capsules end, no more is found. -/
lemma finish_frames (p : CapsuleParser) : ∃ fs : List CapsuleFrame,
    p.buf = (fs.map CapsuleFrame.bytes).flatten ++ (finish p).2.buf
      ∧ (finish p).1 = (fs.map fun f => capsuleOf f.kind f.value)
      ∧ (finish p).2.next.1 = .ok none := by
  induction hk : p.buf.length using Nat.strong_induction_on generalizing p with
  | _ k ih =>
    rcases next_cases p with hnone | ⟨f, more, hbuf⟩
    · rw [finish_of_none hnone]
      exact ⟨[], rfl, rfl, congrArg Prod.fst hnone⟩
    · obtain ⟨buf⟩ := p
      obtain rfl : buf = f.bytes ++ more := hbuf
      have hlt : more.length < k := by
        have hpos := f.length_pos
        simp only [List.length_append] at hk
        omega
      obtain ⟨fs, hmore, hresults, hleft⟩ := ih _ hlt ⟨more⟩ rfl
      rw [finish_append]
      refine ⟨f :: fs, ?_, ?_, hleft⟩
      · calc f.bytes ++ more
            = f.bytes ++ ((fs.map CapsuleFrame.bytes).flatten ++ (finish ⟨more⟩).2.buf) :=
              congrArg (f.bytes ++ ·) hmore
          _ = ((f :: fs).map CapsuleFrame.bytes).flatten ++ (finish ⟨more⟩).2.buf := by
              rw [List.map_cons, List.flatten_cons, List.append_assoc]
      · rw [hresults, List.map_cons]

/-- The results and the parser at the end of the stream: what the calls between the
pushes returned, then what `next` returns until `Ok(None)`. -/
def results (ops : List (Decoder.Op UInt8)) :
    List (Except AetherError Capsule) × CapsuleParser :=
  ((exec ops new).1 ++ (finish (exec ops new).2).1, (finish (exec ops new).2).2)

/-- The results are those of decoding the whole stream at once. -/
lemma results_eq (ops : List (Decoder.Op UInt8)) :
    results ops = ((capsuleDecoder.decode (Decoder.pushed ops)).1,
      ⟨(capsuleDecoder.decode (Decoder.pushed ops)).2⟩) := by
  have h := capsuleDecoder.exec_decode ops []
  rw [List.nil_append] at h
  rw [results, finish_eq, exec_eq, ← h]
  rfl

/-- So they are the capsules of the bytes pushed, as far as these are complete. -/
lemma results_frames (ops : List (Decoder.Op UInt8)) : ∃ fs : List CapsuleFrame,
    Decoder.pushed ops = (fs.map CapsuleFrame.bytes).flatten ++ (results ops).2.buf
      ∧ (results ops).1 = (fs.map fun f => capsuleOf f.kind f.value)
      ∧ (results ops).2.next.1 = .ok none := by
  have hwhole : results ops = finish ⟨Decoder.pushed ops⟩ := by
    rw [results_eq, finish_eq]
  rw [hwhole]
  exact finish_frames _

/-- Calling `next` over and over reaches `Ok(None)`. -/
lemma exists_next_eq_none (p : CapsuleParser) :
    ∃ n, ((fun q : CapsuleParser => q.next.2)^[n] p).next.1 = .ok none := by
  induction hk : p.buf.length using Nat.strong_induction_on generalizing p with
  | _ k ih =>
    by_cases hr : p.next.1 = .ok none
    · exact ⟨0, hr⟩
    · obtain ⟨n, hn⟩ := ih _ (hk ▸ next_length_lt (Prod.eta p.next).symm hr) p.next.2 rfl
      exact ⟨n + 1, hn⟩

end CapsuleParser

/-- **The capsule stream is independent of its cuts.** Two ways of feeding one byte
string to a fresh parser, with `next` called anywhere between the pushes, give the
same results and leave the same buffer: the capsules of the string, and what comes behind
the last of them. `Ok(None)` leaves the buffer as it is; any other result, an error in the
body included, removes exactly one capsule from the front; and repeated calls reach
`Ok(None)`. -/
theorem capsule_stream_split :
    (∀ ops ops' : List (Decoder.Op UInt8), Decoder.pushed ops = Decoder.pushed ops' →
        results ops = results ops')
      ∧ (∀ ops : List (Decoder.Op UInt8), ∃ fs : List CapsuleFrame,
          Decoder.pushed ops = (fs.map CapsuleFrame.bytes).flatten ++ (results ops).2.buf
            ∧ (results ops).1 = (fs.map fun f => capsuleOf f.kind f.value)
            ∧ (results ops).2.next.1 = .ok none)
      ∧ (∀ p : CapsuleParser, p.next.1 = .ok none → p.next.2 = p)
      ∧ (∀ p : CapsuleParser, p.next.1 ≠ .ok none →
          ∃ f : CapsuleFrame, p.buf = f.bytes ++ p.next.2.buf
            ∧ p.next.1 = (capsuleOf f.kind f.value).map some)
      ∧ ∀ p : CapsuleParser,
          ∃ n, ((fun q : CapsuleParser => q.next.2)^[n] p).next.1 = .ok none := by
  refine ⟨?_, results_frames, ?_, ?_, exists_next_eq_none⟩
  · intro ops ops' h
    rw [results_eq, results_eq, h]
  · intro p h
    rcases next_cases p with hp | ⟨f, more, hbuf⟩
    · rw [hp]
    · obtain ⟨buf⟩ := p
      subst hbuf
      rw [next_append] at h
      cases hc : capsuleOf f.kind f.value <;> simp [hc, Except.map] at h
  · intro p h
    rcases next_cases p with hp | ⟨f, more, hbuf⟩
    · rw [hp] at h; exact absurd rfl h
    · obtain ⟨buf⟩ := p
      subst hbuf
      exact ⟨f, by rw [next_append], by rw [next_append]⟩

end Aether.Masque
