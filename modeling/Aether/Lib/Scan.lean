import Aether.Lib.Octets

/-!
Functions that read a byte slice by its indices, as Rust code does on a 64-bit machine.

An index out of range and an overflow of `usize` are panics, which `Scan` tells apart from the
`None` that a function returns.

* `Scan.Safe`: the function does not panic; `Safe.bind` puts such functions together.
* `At`: a byte string stands at a position of another one. The reading lemmas say what is found
  there.
-/

/-- The ways in which reading a slice panics. -/
inductive Fault where
  | outOfRange
  | overflow
  deriving DecidableEq, Repr

/-- What becomes of a function that reads a slice: a value, `None`, or a panic. -/
inductive Scan (α : Type) where
  | found (a : α)
  | nothing
  | fault (f : Fault)
  deriving DecidableEq, Repr

/-- A byte slice; no object is larger than `isize::MAX`. -/
structure Slice where
  bytes : Bytes
  fits : bytes.length < 2 ^ 63

namespace Scan

variable {α β : Type}

instance : Monad Scan where
  pure := found
  bind x f :=
    match x with
    | found a => f a
    | nothing => nothing
    | fault f => fault f

@[simp] lemma found_bind (a : α) (f : α → Scan β) : (found a >>= f) = f a := rfl

@[simp] lemma nothing_bind (f : α → Scan β) : (nothing >>= f) = nothing := rfl

@[simp] lemma pure_eq_found (a : α) : (pure a : Scan α) = found a := rfl

/-- A scan finds what its second part finds behind its first. -/
lemma bind_eq_found {x : Scan α} {f : α → Scan β} {b : β} :
    (x >>= f) = found b ↔ ∃ a, x = found a ∧ f a = found b := by
  constructor
  · intro h
    cases x with
    | found a => exact ⟨a, rfl, h⟩
    | nothing => cases h
    | fault f => cases h
  · rintro ⟨a, rfl, h⟩
    exact h

/-- The function does not panic. -/
def Safe (x : Scan α) : Prop := ∀ f, x ≠ fault f

lemma safe_found (a : α) : (found a).Safe := fun _ h => by cases h

lemma safe_nothing : (nothing : Scan α).Safe := fun _ h => by cases h

/-- A scan is safe if its first part is and its second wherever the first leads. -/
lemma Safe.bind {x : Scan α} {f : α → Scan β} (hx : x.Safe) (hf : ∀ a, x = found a → (f a).Safe) :
    (x >>= f).Safe := by
  cases x with
  | found a => exact hf a rfl
  | nothing => exact safe_nothing
  | fault e => exact absurd rfl (hx e)

/-- `Some` or `None`, for a function that does not panic. -/
def toOption : (x : Scan α) → x.Safe → Option α
  | found a, _ => some a
  | nothing, _ => none
  | fault f, h => absurd rfl (h f)

/-- A scan that finds an optional result. -/
def ofOption : Option α → Scan α
  | some a => found a
  | none => nothing

lemma toOption_eq {x : Scan α} (hx : x.Safe) {o : Option α} (h : x = ofOption o) :
    x.toOption hx = o := by
  subst h
  cases o <;> rfl

/-! ### Arithmetic -/

/-- `a + b` in `usize`. -/
def add (a b : ℕ) : Scan { c : ℕ // c = a + b } :=
  if a + b < 2 ^ 64 then found ⟨a + b, rfl⟩ else fault .overflow

/-- `a.checked_add(b)?`. -/
def checkedAdd (a b : ℕ) : Scan ℕ := if a + b < 2 ^ 64 then found (a + b) else nothing

/-- A sum that fits. -/
lemma add_eq {a b : ℕ} (h : a + b < 2 ^ 64) : add a b = found ⟨a + b, rfl⟩ := if_pos h

lemma add_bind {a b : ℕ} (h : a + b < 2 ^ 64) (f : { c : ℕ // c = a + b } → Scan β) :
    (add a b >>= f) = f ⟨a + b, rfl⟩ := by
  rw [add_eq h, found_bind]

/-- A checked sum that fits. -/
lemma checkedAdd_eq {a b : ℕ} (h : a + b < 2 ^ 64) : checkedAdd a b = found (a + b) := if_pos h

lemma safe_checkedAdd (a b : ℕ) : (checkedAdd a b).Safe := by
  rw [checkedAdd]
  split
  · exact safe_found _
  · exact safe_nothing

/-- A checked sum is found only as the sum. -/
lemma checkedAdd_eq_found {a b c : ℕ} (h : checkedAdd a b = found c) : c = a + b := by
  rw [checkedAdd] at h
  split at h
  · cases h
    rfl
  · cases h

/-! ### Reads -/

/-- `*buf.get(i)?`. -/
def get (buf : Slice) (i : ℕ) : Scan UInt8 :=
  match buf.bytes[i]? with
  | some b => found b
  | none => nothing

/-- `buf[i]`. -/
def index (buf : Slice) (i : ℕ) : Scan UInt8 :=
  match buf.bytes[i]? with
  | some b => found b
  | none => fault .outOfRange

/-- `&buf[i..j]`. -/
def range (buf : Slice) (i j : ℕ) : Scan { bs : Bytes // bs.length = j - i } :=
  if h : i ≤ j ∧ j ≤ buf.bytes.length then
    found ⟨(buf.bytes.drop i).take (j - i), by
      rw [List.length_take, List.length_drop]
      omega⟩
  else fault .outOfRange

/-- `u16::from_be_bytes([buf[i], buf[i + 1]])`. -/
def u16 (buf : Slice) (i : ℕ) : Scan ℕ := do
  let high ← index buf i
  let low ← index buf (i + 1)
  found (Octets.beNat [high, low])

variable {buf : Slice} {i : ℕ}

/-- An index in the buffer finds its byte. -/
lemma index_eq (h : i < buf.bytes.length) : index buf i = found buf.bytes[i] := by
  rw [index, List.getElem?_eq_getElem h]

lemma u16_eq (h : i + 1 < buf.bytes.length) :
    u16 buf i = found (Octets.beNat [buf.bytes[i], buf.bytes[i + 1]]) := by
  rw [u16, index_eq (by omega), found_bind, index_eq h, found_bind]

end Scan

/-! ### Positions -/

/-- The byte string stands at this position. -/
def At (buf : Bytes) (pos : ℕ) (bs : Bytes) : Prop := bs <+: buf.drop pos

namespace At

variable {buf bs cs : Bytes} {pos i : ℕ} {b : UInt8}

lemma self (buf : Bytes) : At buf 0 buf := List.prefix_rfl

/-- Two strings stand one behind the other. -/
lemma append_iff : At buf pos (bs ++ cs) ↔ At buf pos bs ∧ At buf (pos + bs.length) cs := by
  rw [At, At, At, ← List.drop_drop]
  constructor
  · rintro ⟨more, h⟩
    rw [List.append_assoc] at h
    rw [← h, List.drop_left]
    exact ⟨⟨cs ++ more, rfl⟩, ⟨more, rfl⟩⟩
  · rintro ⟨⟨more, h⟩, hcs⟩
    rw [← h, List.drop_left] at hcs
    rw [← h]
    exact (List.prefix_append_right_inj bs).mpr hcs

/-- What stands at a position is in the buffer as a whole. -/
lemma length_le (h : At buf pos bs) (hne : bs ≠ []) : pos + bs.length ≤ buf.length := by
  have hle := List.IsPrefix.length_le h
  have hpos := List.length_pos_iff.mpr hne
  rw [List.length_drop] at hle
  omega

lemma getElem? (h : At buf pos bs) (hi : i < bs.length) : buf[pos + i]? = bs[i]? := by
  obtain ⟨more, h⟩ := h
  rw [← List.getElem?_drop, ← h, List.getElem?_append_left hi]

lemma head (h : At buf pos (b :: bs)) : buf[pos]? = some b :=
  h.getElem? (i := 0) (Nat.succ_pos _)

/-- Byte by byte. -/
lemma cons_iff : At buf pos (b :: bs) ↔ buf[pos]? = some b ∧ At buf (pos + 1) bs := by
  rw [show b :: bs = [b] ++ bs from rfl, append_iff]
  refine and_congr_left' ⟨fun h => h.head, fun h => ?_⟩
  obtain ⟨hlt, rfl⟩ := List.getElem?_eq_some_iff.mp h
  rw [At, List.drop_eq_getElem_cons hlt]
  exact ⟨buf.drop (pos + 1), rfl⟩

lemma take_drop (buf : Bytes) (pos n : ℕ) : At buf pos ((buf.drop pos).take n) :=
  List.take_prefix n _

/-- The string of a given length at a position. -/
lemma take_eq (h : At buf pos bs) : (buf.drop pos).take bs.length = bs :=
  (List.prefix_iff_eq_take.mp h).symm

/-- A string that stands between the ends of another one is a part of it. -/
lemma isInfix {q : ℕ} (h : At buf pos bs) (hc : At buf q cs) (hle : pos ≤ q)
    (hend : q + cs.length ≤ pos + bs.length) : cs <:+: bs := by
  have hcs : cs = (bs.drop (q - pos)).take cs.length := by
    rw [← h.take_eq, List.drop_take, List.drop_drop, List.take_take,
      Nat.min_eq_left (by omega), Nat.add_sub_cancel' hle, hc.take_eq]
  rw [hcs]
  exact (List.take_prefix _ _).isInfix.trans (List.drop_suffix _ _).isInfix

end At

namespace Scan

variable {buf : Slice} {pos : ℕ}

/-- A range finds what stands there. -/
lemma range_at {bs : Bytes} {j : ℕ} (h : At buf.bytes pos bs) (hj : j = pos + bs.length)
    (hle : j ≤ buf.bytes.length) :
    range buf pos j = found ⟨bs, by rw [hj, Nat.add_sub_cancel_left]⟩ := by
  subst hj
  rw [range, dif_pos ⟨Nat.le_add_right _ _, hle⟩]
  refine congrArg found (Subtype.ext ?_)
  show (buf.bytes.drop pos).take (pos + bs.length - pos) = bs
  rw [Nat.add_sub_cancel_left, h.take_eq]

lemma index_at {b : UInt8} {bs : Bytes} (h : At buf.bytes pos (b :: bs)) :
    index buf pos = found b := by
  rw [index, h.head]

/-- Two bytes are read as a number in network order. -/
lemma u16_at {high low : UInt8} {bs : Bytes} (h : At buf.bytes pos (high :: low :: bs)) :
    u16 buf pos = found (Octets.beNat [high, low]) := by
  rw [u16, index_at h, found_bind, index_at (At.cons_iff.mp h).2, found_bind]

end Scan
