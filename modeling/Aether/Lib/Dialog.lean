import Aether.Lib.Octets

/-!
Conversations with a client over a byte stream. A conversation reads exact amounts of what the
client sends, keeps a log of what it does, oldest entry first, and may end with an error, which
leaves the log as it is.

* `Dialog.bind_eq_ok`: a conversation that succeeds is a success of its parts.
* `Dialog.Quiet`: conversations that log nothing.
-/

/-- What the client has sent and nobody has read, and the log. -/
structure Dialog.State (ω : Type) where
  unread : Bytes
  log : List ω

/-- A conversation with log entries `ω` and errors `ε`. -/
def Dialog (ε ω α : Type) : Type := Dialog.State ω → Except ε α × Dialog.State ω

namespace Dialog

variable {ε ω α β : Type}

instance : Monad (Dialog ε ω) where
  pure a s := (.ok a, s)
  bind x f s :=
    match x s with
    | (.ok a, t) => f a t
    | (.error e, t) => (.error e, t)

/-- The end of the dialog with an error. -/
def fail (e : ε) : Dialog ε ω α := fun s => (.error e, s)

/-- Something said, at the end of the log. -/
def note (o : ω) : Dialog ε ω Unit := fun s => (.ok (), { s with log := s.log ++ [o] })

/-- The outcome of something that happens elsewhere. -/
def lift (r : Except ε α) : Dialog ε ω α := fun s => (r, s)

/-- The next `n` bytes; a client that has sent fewer makes it end with `eof`. -/
def readExact (eof : ε) (n : ℕ) : Dialog ε ω { bs : Bytes // bs.length = n } := fun s =>
  if h : (s.unread.take n).length = n then
    (.ok ⟨s.unread.take n, h⟩, { s with unread := s.unread.drop n })
  else (.error eof, { s with unread := [] })

/-- A byte of an array that has been read. -/
def byte {n : ℕ} (bs : { bs : Bytes // bs.length = n }) (i : Fin n) : UInt8 :=
  bs.1.get (i.cast bs.2.symm)

/-! ### What conversations do -/

variable {x : Dialog ε ω α} {f : α → Dialog ε ω β} {s t u : State ω} {a : α} {b : β} {e : ε}

/-- A step that succeeds goes on from the state it leaves. -/
lemma bind_ok (h : x s = (.ok a, t)) : (x >>= f) s = f a t := by
  show (match x s with | (.ok a, t) => f a t | (.error e, t) => (.error e, t)) = _
  rw [h]

/-- A step that fails ends the dialog. -/
lemma bind_error (h : x s = (.error e, t)) : (x >>= f) s = (.error e, t) := by
  show (match x s with | (.ok a, t) => f a t | (.error e, t) => (.error e, t)) = _
  rw [h]

lemma note_bind (o : ω) (f : Unit → Dialog ε ω β) (s : State ω) :
    (note o >>= f) s = f () { s with log := s.log ++ [o] } := rfl

/-- A conversation that succeeds is a success of its parts. -/
lemma bind_eq_ok : (x >>= f) s = (.ok b, u) ↔ ∃ a t, x s = (.ok a, t) ∧ f a t = (.ok b, u) := by
  constructor
  · intro h
    rcases hx : x s with ⟨e | a, t⟩
    · rw [bind_error hx] at h
      cases h
    · rw [bind_ok hx] at h
      exact ⟨a, t, rfl, h⟩
  · rintro ⟨a, t, hx, hf⟩
    rw [bind_ok hx, hf]

/-- What is unread is read from its front. -/
lemma readExact_append {eof : ε} {n : ℕ} {bs rest : Bytes} (h : bs.length = n) (log : List ω) :
    readExact eof n ⟨bs ++ rest, log⟩ = (.ok ⟨bs, h⟩, ⟨rest, log⟩) := by
  have htake : (bs ++ rest).take n = bs := by rw [← h, List.take_left]
  have hdrop : (bs ++ rest).drop n = rest := by rw [← h, List.drop_left]
  simp only [readExact, htake, hdrop, h, dite_true]

lemma readExact_eq_ok {eof : ε} {n : ℕ} {bs : { bs : Bytes // bs.length = n }}
    (h : readExact eof n s = (.ok bs, t)) : s.unread = bs.1 ++ t.unread ∧ t.log = s.log := by
  rw [readExact] at h
  split at h
  · cases h
    exact ⟨(List.take_append_drop n s.unread).symm, rfl⟩
  · cases h

/-- The conversation logs nothing. -/
def Quiet (x : Dialog ε ω α) : Prop := ∀ s, (x s).2.log = s.log

lemma quiet_pure (a : α) : Quiet (pure a : Dialog ε ω α) := fun _ => rfl

lemma quiet_fail (e : ε) : Quiet (fail e : Dialog ε ω α) := fun _ => rfl

lemma quiet_readExact (eof : ε) (n : ℕ) : Quiet (readExact eof n : Dialog ε ω _) := by
  intro s
  rw [readExact]
  split <;> rfl

/-- Nothing is said where none of the steps says anything. -/
lemma Quiet.bind (hx : Quiet x) (hf : ∀ a, Quiet (f a)) : Quiet (x >>= f) := by
  intro s
  have hlog := hx s
  rcases h : x s with ⟨e | a, t⟩
  · rw [bind_error h]
    rwa [h] at hlog
  · rw [bind_ok h, hf a t]
    rwa [h] at hlog

/-- A conversation that begins quietly fails quietly or goes on from the same log. -/
lemma Quiet.bind_cases (hx : Quiet x) (f : α → Dialog ε ω β) (s : State ω) :
    ((x >>= f) s).2.log = s.log
    ∨ ∃ a t, x s = (.ok a, t) ∧ t.log = s.log ∧ (x >>= f) s = f a t := by
  have hlog := hx s
  rcases h : x s with ⟨e | a, t⟩
  · rw [bind_error h]
    rw [h] at hlog
    exact .inl hlog
  · rw [h] at hlog
    exact .inr ⟨a, t, rfl, hlog, bind_ok h⟩

end Dialog
