import Mathlib.Data.List.Basic
import Mathlib.Data.Nat.Init
import Mathlib.Tactic.Common

/-!
Frame decoders over a growing buffer.

A decoder looks at the front of a buffer and either finds one complete frame or
asks for more. It is *stable*: what it finds does not change when symbols are
appended behind. Stability is all that independence of chunking needs.

* `Decoder.decode`: the frames of a buffer, in order, and what is left of it;
  `decode_append` decodes a buffer in two parts, `decode_flatten` what an encoder wrote.
* `Decoder.exec`: an arbitrary interleaving of pushes and single decoding
  attempts; `exec_decode` says that it finds the frames of the concatenation.
* `Decoder.takeUntil`: a consumer that gives up at certain frames;
  `next_takeUntil_eq_none_iff` says when it leaves no complete frame behind.
-/

namespace Framing

/-- A decoder of frames `β` over symbols `α`: a result comes with the number of
symbols of its frame. -/
structure Decoder (α β : Type*) where
  next : List α → Option (β × ℕ)
  pos : ∀ {buf r n}, next buf = some (r, n) → 0 < n
  le_length : ∀ {buf r n}, next buf = some (r, n) → n ≤ buf.length
  stable : ∀ {buf r n}, next buf = some (r, n) → ∀ more, next (buf ++ more) = some (r, n)

namespace Decoder

variable {α β : Type*} (d : Decoder α β)

lemma drop_length_lt {buf : List α} {r : β} {n : ℕ} (h : d.next buf = some (r, n)) :
    (buf.drop n).length < buf.length := by
  have hpos := d.pos h
  have hle := d.le_length h
  rw [List.length_drop]
  omega

/-- The frames of the buffer, in order, and the rest that holds no complete
frame. -/
def decode (buf : List α) : List β × List α :=
  match h : d.next buf with
  | none => ([], buf)
  | some (r, n) =>
      have : (buf.drop n).length < buf.length := d.drop_length_lt h
      (r :: (decode (buf.drop n)).1, (decode (buf.drop n)).2)
termination_by buf.length
decreasing_by all_goals exact this

lemma decode_of_none {buf : List α} (h : d.next buf = none) : d.decode buf = ([], buf) := by
  rw [decode]; split
  · rfl
  · rename_i h'; rw [h] at h'; cases h'

lemma decode_of_some {buf : List α} {r : β} {n : ℕ} (h : d.next buf = some (r, n)) :
    d.decode buf = (r :: (d.decode (buf.drop n)).1, (d.decode (buf.drop n)).2) := by
  conv_lhs => rw [decode]
  split
  · rename_i h'; rw [h] at h'; cases h'
  · rename_i h'
    rw [h] at h'
    obtain ⟨rfl, rfl⟩ := Prod.mk.inj (Option.some.inj h')
    rfl

/-- Decoding in two parts: the rest of the first part is decoded again with the
second part behind it. -/
theorem decode_append (buf more : List α) :
    d.decode (buf ++ more)
      = ((d.decode buf).1 ++ (d.decode ((d.decode buf).2 ++ more)).1,
          (d.decode ((d.decode buf).2 ++ more)).2) := by
  induction hk : buf.length using Nat.strong_induction_on generalizing buf with
  | _ k ih =>
    cases h : d.next buf with
    | none => rw [d.decode_of_none h]; simp
    | some rn =>
        obtain ⟨r, n⟩ := rn
        have hdrop : (buf ++ more).drop n = buf.drop n ++ more :=
          List.drop_append_of_le_length (d.le_length h)
        rw [d.decode_of_some (d.stable h more), hdrop,
          ih _ (hk ▸ d.drop_length_lt h) (buf.drop n) rfl, d.decode_of_some h]
        rfl

/-- What a part of a stream decodes to is an initial part of what the whole does. -/
lemma decode_prefix {buf whole : List α} (h : buf <+: whole) :
    (d.decode buf).1 <+: (d.decode whole).1 := by
  obtain ⟨more, rfl⟩ := h
  rw [d.decode_append]
  exact List.prefix_append _ _

/-- Encodings that the decoder finds, one after the other, are decoded in order. -/
lemma decode_flatten {γ : Type*} {encode : γ → List α} {meaning : γ → β} {cs : List γ}
    (h : ∀ c ∈ cs, ∀ more, d.next (encode c ++ more) = some (meaning c, (encode c).length))
    (rest : List α) :
    d.decode ((cs.map encode).flatten ++ rest)
      = (cs.map meaning ++ (d.decode rest).1, (d.decode rest).2) := by
  induction cs with
  | nil => rfl
  | cons c cs ih =>
      have hnext := h c List.mem_cons_self ((cs.map encode).flatten ++ rest)
      have hrest := ih fun c' hc' => h c' (List.mem_cons_of_mem c hc')
      rw [List.map_cons, List.flatten_cons, List.append_assoc, d.decode_of_some hnext,
        List.drop_left, hrest]
      rfl

/-! ### Pushes and attempts in any order -/

/-- What the user of a decoder does: append symbols, or try to decode once. -/
inductive Op (α : Type*) where
  | push (data : List α)
  | attempt

/-- The symbols the operations append, in order. -/
def pushed : List (Op α) → List α
  | [] => []
  | .push data :: ops => data ++ pushed ops
  | .attempt :: ops => pushed ops

/-- The frames found by the operations, and the buffer they leave. -/
def exec : List (Op α) → List α → List β × List α
  | [], buf => ([], buf)
  | .push data :: ops, buf => exec ops (buf ++ data)
  | .attempt :: ops, buf =>
      match d.next buf with
      | none => exec ops buf
      | some (r, n) => (r :: (exec ops (buf.drop n)).1, (exec ops (buf.drop n)).2)

/-- **Attempts and pushes in any order find the frames of the whole stream**, once
the buffer they leave is decoded to its end. -/
theorem exec_decode (ops : List (Op α)) (buf : List α) :
    ((d.exec ops buf).1 ++ (d.decode (d.exec ops buf).2).1, (d.decode (d.exec ops buf).2).2)
      = d.decode (buf ++ pushed ops) := by
  induction ops generalizing buf with
  | nil => simp [exec, pushed]
  | cons op ops ih =>
      cases op with
      | push data => rw [exec, pushed, ih, List.append_assoc]
      | attempt =>
          cases h : d.next buf with
          | none => simp only [exec, pushed, h]; exact ih buf
          | some rn =>
              obtain ⟨r, n⟩ := rn
              have hdrop : (buf ++ pushed ops).drop n = buf.drop n ++ pushed ops :=
                List.drop_append_of_le_length (d.le_length h)
              have hih := ih (buf.drop n)
              simp only [exec, pushed, h]
              rw [d.decode_of_some (d.stable h _), hdrop, ← hih]
              rfl

/-! ### Consumers that give up at a frame -/

lemma decode_fst_eq_nil_iff {buf : List α} : (d.decode buf).1 = [] ↔ d.next buf = none := by
  cases h : d.next buf with
  | none => simp [d.decode_of_none h]
  | some rn => simp [d.decode_of_some h]

variable (stop : β → Bool)

/-- The frames of the buffer up to the first at which `stop` holds, that one included, and
what is left behind it. -/
def takeUntil (buf : List α) : List β × List α :=
  match h : d.next buf with
  | none => ([], buf)
  | some (r, n) =>
      have : (buf.drop n).length < buf.length := d.drop_length_lt h
      if stop r then ([r], buf.drop n)
      else (r :: (takeUntil (buf.drop n)).1, (takeUntil (buf.drop n)).2)
termination_by buf.length
decreasing_by all_goals exact this

lemma takeUntil_of_none {buf : List α} (h : d.next buf = none) :
    d.takeUntil stop buf = ([], buf) := by
  rw [takeUntil]; split
  · rfl
  · rename_i h'; rw [h] at h'; cases h'

lemma takeUntil_of_some {buf : List α} {r : β} {n : ℕ} (h : d.next buf = some (r, n)) :
    d.takeUntil stop buf = if stop r then ([r], buf.drop n)
      else (r :: (d.takeUntil stop (buf.drop n)).1, (d.takeUntil stop (buf.drop n)).2) := by
  conv_lhs => rw [takeUntil]
  split
  · rename_i h'; rw [h] at h'; cases h'
  · rename_i h'
    rw [h] at h'
    obtain ⟨rfl, rfl⟩ := Prod.mk.inj (Option.some.inj h')
    rfl

/-- Nothing is lost by giving up: the frames that are still there follow those taken. -/
theorem takeUntil_append_decode (buf : List α) :
    ((d.takeUntil stop buf).1 ++ (d.decode (d.takeUntil stop buf).2).1,
        (d.decode (d.takeUntil stop buf).2).2) = d.decode buf := by
  induction hk : buf.length using Nat.strong_induction_on generalizing buf with
  | _ k ih =>
    cases h : d.next buf with
    | none => rw [d.takeUntil_of_none stop h]; rfl
    | some rn =>
        obtain ⟨r, n⟩ := rn
        rw [d.takeUntil_of_some stop h, d.decode_of_some h]
        split
        · rfl
        · rw [← ih _ (hk ▸ d.drop_length_lt h) (buf.drop n) rfl]
          rfl

/-- **When giving up leaves nothing behind**: exactly when no frame but the last makes the
consumer give up. -/
theorem next_takeUntil_eq_none_iff (buf : List α) :
    d.next (d.takeUntil stop buf).2 = none
      ↔ ∀ r ∈ (d.decode buf).1.dropLast, stop r = false := by
  induction hk : buf.length using Nat.strong_induction_on generalizing buf with
  | _ k ih =>
    cases h : d.next buf with
    | none => simp [d.takeUntil_of_none stop h, d.decode_of_none h, h]
    | some rn =>
        obtain ⟨r, n⟩ := rn
        have hih := ih _ (hk ▸ d.drop_length_lt h) (buf.drop n) rfl
        rw [d.takeUntil_of_some stop h, d.decode_of_some h]
        rcases hnil : (d.decode (buf.drop n)).1 with _ | ⟨r', rs⟩
        · have hnone : d.next (buf.drop n) = none := d.decode_fst_eq_nil_iff.mp hnil
          rw [d.takeUntil_of_none stop hnone]
          split <;> simpa using hnone
        · rw [hnil] at hih
          have hsome : d.next (buf.drop n) ≠ none := by
            intro hnone
            rw [d.decode_fst_eq_nil_iff.mpr hnone] at hnil
            cases hnil
          by_cases hr : stop r = true
          · simp [hr, hsome]
          · simp [hr, hih]

end Decoder

end Framing
