import Aether.Lib.Octets

/-!
Loops that read one record after the other until the cursor is at the end.

A grammar is a relation between byte strings and what they stand for. A reader reads a grammar
when it takes from the front exactly the encodings that the grammar allows.

* `Series`: a concatenation of encodings, with what it stands for.
* `IsLoop.eq_ok_iff`: a loop over a reader of a grammar accepts exactly the series of its
  encodings.
* `IsLoop.turns_eq`: and it ends, after at most one turn for each byte.
-/

namespace Octets

variable {ε α : Type}

/-- The reader takes the encodings of the grammar from the front, and nothing else. -/
structure Reads (G : Bytes → α → Prop) (p : Octets → Except ε (α × Octets)) : Prop where
  ne_nil : ∀ {bs a}, G bs a → bs ≠ []
  sound : ∀ {b c a}, p b = .ok (a, c) → ∃ bs, G bs a ∧ b.rest = bs ++ c.rest
  complete : ∀ {bs a}, G bs a → ∀ more o, p ⟨bs ++ more, o⟩ = .ok (a, ⟨more, o + bs.length⟩)

/-- One encoding for each element, in order. -/
inductive Series (G : Bytes → α → Prop) : Bytes → List α → Prop where
  | nil : Series G [] []
  | cons {bs more : Bytes} {a : α} {l : List α} (head : G bs a) (tail : Series G more l) :
      Series G (bs ++ more) (a :: l)

/-- The loop reads with `p` until nothing is left, and ends with the first error. -/
def IsLoop (p : Octets → Except ε (α × Octets)) (loop : Octets → Except ε (List α)) : Prop :=
  ∀ b, loop b = if 0 < b.cap then (p b).bind fun r => (loop r.2).map (r.1 :: ·) else .ok []

/-- A number of turns of such a loop; `none` when it has not ended by then. -/
def turns (p : Octets → Except ε (α × Octets)) : ℕ → Octets → Option (Except ε (List α))
  | 0, _ => none
  | n + 1, b =>
      if 0 < b.cap then
        match p b with
        | .error e => some (.error e)
        | .ok (a, c) => (turns p n c).map fun r => r.map (a :: ·)
      else some (.ok [])

variable {G : Bytes → α → Prop} {p : Octets → Except ε (α × Octets)}
  {loop : Octets → Except ε (List α)}

/-- A reader of a grammar comes nearer to the end. -/
lemma Reads.cap_lt (hp : Reads G p) {b c : Octets} {a : α} (h : p b = .ok (a, c)) :
    c.cap < b.cap := by
  obtain ⟨bs, hbs, hrest⟩ := hp.sound h
  have hpos := List.length_pos_iff.mpr (hp.ne_nil hbs)
  rw [cap, cap, hrest, List.length_append]
  omega

/-- By induction on the series. -/
lemma IsLoop.complete (hl : IsLoop p loop) (hp : Reads G p) {bs : Bytes} {l : List α}
    (h : Series G bs l) (o : ℕ) : loop ⟨bs, o⟩ = .ok l := by
  induction h generalizing o with
  | nil => exact hl ⟨[], o⟩
  | @cons bs more a l head tail ih =>
      have hpos : 0 < (bs ++ more).length :=
        List.length_pos_iff.mpr (List.append_ne_nil_of_left_ne_nil (hp.ne_nil head) more)
      rw [hl, cap_mk, if_pos hpos, hp.complete head more o]
      simp only [Except.bind, ih]
      rfl

/-- By induction on the bytes left. -/
lemma IsLoop.sound (hl : IsLoop p loop) (hp : Reads G p) {b : Octets} {l : List α}
    (h : loop b = .ok l) : Series G b.rest l := by
  induction hn : b.cap using Nat.strong_induction_on generalizing b l with
  | _ n ih =>
    rw [hl] at h
    split at h
    · rcases hread : p b with e | ⟨a, c⟩
      · rw [hread] at h
        cases h
      · rcases hc : loop c with e | l'
        · simp only [hread, Except.bind, hc] at h
          cases h
        · simp only [hread, Except.bind, hc] at h
          cases h
          obtain ⟨bs, hbs, hrest⟩ := hp.sound hread
          rw [hrest]
          exact .cons hbs (ih c.cap (hn ▸ hp.cap_lt hread) hc rfl)
    · rename_i hpos
      cases h
      rw [List.eq_nil_of_length_eq_zero (Nat.eq_zero_of_not_pos hpos)]
      exact .nil

/-- **A loop over a reader accepts exactly the series** of the encodings that its grammar
allows. -/
theorem IsLoop.eq_ok_iff (hl : IsLoop p loop) (hp : Reads G p) {b : Octets} {l : List α} :
    loop b = .ok l ↔ Series G b.rest l :=
  ⟨hl.sound hp, fun h => hl.complete hp h b.off⟩

/-- **The loop ends**: one turn for each byte, and one to see the end, are enough. -/
theorem IsLoop.turns_eq (hl : IsLoop p loop) (hp : Reads G p) {b : Octets} {n : ℕ}
    (h : b.cap < n) : turns p n b = some (loop b) := by
  induction n generalizing b with
  | zero => omega
  | succ n ih =>
      rw [turns, hl]
      split
      · rcases hread : p b with e | ⟨a, c⟩
        · rfl
        · have hlt := hp.cap_lt hread
          simp only [ih (show c.cap < n by omega), Option.map_some]
          rfl
      · rfl

end Octets
