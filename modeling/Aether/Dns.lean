import Aether.Lib.DnsWire

/-!
Reading DNS answers (`dns.rs`, and `skip_name` and the loops of `parse_dns_a` in `socks.rs`).

`parse_https_ech` and `parse_dns_a` are one function but for what they look for in a record, and
`skip_name` is the same in both files.

* `skipName_spec`: a name is skipped without a panic, and what has been skipped is a name.
* `firstAnswer_safe`, `firstAnswer_found`, `firstAnswer_message`: no panic on any bytes, what is
  found is found in an answer record, and on a well-formed message it is found in the first
  record that has it.
-/

namespace Aether.Dns

open DnsWire (Name Label Question Record Message numberAt)
open Scan (add checkedAdd index u16)

/-! ### The code -/

/-- `skip_name`. -/
def skipName (buf : Slice) (pos : ℕ) : Scan ℕ :=
  -- `*buf.get(pos)?`
  match h : buf.bytes[pos]? with
  | none => .nothing
  | some len =>
      if len &&& 0xc0 = 0xc0 then do
        let stop ← add pos 2
        return stop.1
      else if len = 0 then do
        let stop ← add pos 1
        return stop.1
      else do
        let next ← add pos (1 + len.toNat)
        skipName buf next.1
termination_by buf.bytes.length - pos
decreasing_by
  have hlt := (List.getElem?_eq_some_iff.mp h).1
  have _hnext := next.2
  omega

/-- The first loop: so many questions. -/
def skipQuestions (msg : Slice) : ℕ → ℕ → Scan ℕ
  | 0, pos => .found pos
  | n + 1, pos => do
      let pos ← skipName msg pos
      let pos ← checkedAdd pos 4
      skipQuestions msg n pos

variable {α : Type}

/-- The second loop: so many answers. What is looked for is given the type of a record, the
position of its data and their length. -/
def scanAnswers (msg : Slice) (look : ℕ → ℕ → ℕ → Scan α) : ℕ → ℕ → Scan α
  | 0, _ => .nothing
  | n + 1, pos => do
      let pos ← skipName msg pos
      let data ← add pos 10
      if msg.bytes.length < data then .nothing
      else
        let rtype ← u16 msg pos
        let rdlen ← u16 msg (pos + 8)
        let stop ← add data rdlen
        if msg.bytes.length < stop then .nothing
        else match look rtype data rdlen with
          | .nothing => scanAnswers msg look n stop
          | result => result

/-- What `parse_https_ech` and `parse_dns_a` have in common. -/
def firstAnswer (look : ℕ → ℕ → ℕ → Scan α) (msg : Slice) : Scan α :=
  if msg.bytes.length < 12 then .nothing
  else do
    let qd ← u16 msg 4
    let an ← u16 msg 6
    let pos ← skipQuestions msg qd 12
    scanAnswers msg look an pos

/-! ### Names -/

variable {top : ℕ} {buf : Slice} {pos q : ℕ}

/-- The two top bits of a byte are set from 192 on. -/
lemma and_c0_iff (b : UInt8) : b &&& 0xc0 = 0xc0 ↔ 192 ≤ b.toNat := by
  have key : ∀ n : Fin 256, UInt8.ofNat n &&& 0xc0 = 0xc0 ↔ 192 ≤ n.val := by
    decide +kernel
  have h := key ⟨b.toNat, b.toNat_lt⟩
  rwa [UInt8.ofNat_toNat] at h

/-- One turn of `skip_name`, on a byte that is there. -/
lemma skipName_some {len : UInt8} (h : buf.bytes[pos]? = some len) : skipName buf pos =
    if len &&& 0xc0 = 0xc0 then add pos 2 >>= fun stop => .found stop.1
    else if len = 0 then add pos 1 >>= fun stop => .found stop.1
    else add pos (1 + len.toNat) >>= fun next => skipName buf next.1 := by
  conv_lhs => rw [skipName]
  split
  · rename_i hnone
    rw [h] at hnone
    cases hnone
  · rename_i hsome
    rw [h] at hsome
    cases hsome
    rfl

lemma skipName_none (h : buf.bytes[pos]? = none) : skipName buf pos = .nothing := by
  rw [skipName]
  split
  · rfl
  · rename_i hsome
    rw [h] at hsome
    cases hsome

/-- The name ends here. -/
lemma skipName_ending {e : DnsWire.Ending} (h : At buf.bytes pos e.bytes) :
    skipName buf pos = .found (pos + e.bytes.length) := by
  have hle := h.length_le e.bytes_ne_nil
  have hfits := buf.fits
  cases e with
  | root =>
      rw [skipName_some h.head, if_neg (by decide), if_pos rfl, Scan.add_eq (by omega)]
      rfl
  | pointer high low hptr =>
      rw [skipName_some h.head, if_pos hptr, Scan.add_eq (by omega)]
      rfl

/-- A label is skipped. -/
lemma skipName_label {l : Label top} (htop : top ≤ 191) (h : At buf.bytes pos l.bytes) :
    skipName buf pos = skipName buf (pos + l.bytes.length) := by
  have hle := h.length_le (List.cons_ne_nil _ _)
  have hfits := buf.fits
  have htext := l.le
  have hlen := l.toNat_length (by omega)
  have hbytes : l.bytes.length = 1 + l.text.length := Nat.add_comm _ 1
  rw [skipName_some h.head, if_neg (by rw [and_c0_iff, hlen]; omega),
    if_neg (l.length_ne_zero (by omega)), hlen, Scan.add_bind (by omega), hbytes]

/-- **A name is skipped**: by induction on its labels. -/
lemma skipName_name {n : Name top} (htop : top ≤ 191) (h : At buf.bytes pos n.bytes) :
    skipName buf pos = .found (pos + n.bytes.length) := by
  obtain ⟨labels, e⟩ := n
  induction labels generalizing pos with
  | nil => exact skipName_ending h
  | cons l labels ih =>
      rw [Name.bytes_cons] at h ⊢
      obtain ⟨hl, hrest⟩ := At.append_iff.mp h
      rw [skipName_label htop hl, ih hrest, List.length_append, Nat.add_assoc]

/-- A length byte with its text is a label, unless it is taken for the end of the name. -/
lemma exists_label {len : UInt8} {text : Bytes} (hlen : text.length = len.toNat) (hzero : len ≠ 0)
    (hptr : ¬ len &&& 0xc0 = 0xc0) : ∃ l : Label 191, l.bytes = len :: text := by
  rw [and_c0_iff] at hptr
  have hpos : len.toNat ≠ 0 := fun h0 => hzero (UInt8.toNat_inj.mp h0)
  refine ⟨⟨text, List.length_pos_iff.mp (by omega), by omega⟩, ?_⟩
  show UInt8.ofNat text.length :: text = len :: text
  rw [hlen, UInt8.ofNat_toNat]

/-- What skipping a name comes to on any bytes. -/
structure Skips (buf : Slice) (pos : ℕ) (x : Scan ℕ) : Prop where
  safe : x.Safe
  lt : ∀ q, x = .found q → pos < q ∧ q ≤ buf.bytes.length + 1
  name : ∀ q, x = .found q → q ≤ buf.bytes.length →
    ∃ n : Name 191, At buf.bytes pos n.bytes ∧ q = pos + n.bytes.length

lemma skips_nothing : Skips buf pos .nothing where
  safe := Scan.safe_nothing
  lt := by
    rintro q ⟨⟩
  name := by
    rintro q ⟨⟩

lemma skips_found {stop : ℕ} (hlt : pos < stop) (hle : stop ≤ buf.bytes.length + 1)
    (hname : stop ≤ buf.bytes.length →
      ∃ n : Name 191, At buf.bytes pos n.bytes ∧ stop = pos + n.bytes.length) :
    Skips buf pos (.found stop) where
  safe := Scan.safe_found stop
  lt := by
    rintro q ⟨rfl⟩
    exact ⟨hlt, hle⟩
  name := by
    rintro q ⟨rfl⟩
    exact hname

/-- A label in front of what is skipped. -/
lemma Skips.label {x : Scan ℕ} {l : Label 191} (hl : At buf.bytes pos l.bytes)
    (h : Skips buf (pos + l.bytes.length) x) : Skips buf pos x where
  safe := h.safe
  lt := by
    intro q hq
    have := h.lt q hq
    omega
  name := by
    intro q hq hle
    obtain ⟨n, hn, rfl⟩ := h.name q hq hle
    refine ⟨⟨l :: n.labels, n.ending⟩, ?_, ?_⟩
    · rw [Name.bytes_cons]
      exact At.append_iff.mpr ⟨hl, hn⟩
    · rw [Name.bytes_cons, List.length_append, ← Nat.add_assoc]

/-- **No bytes make `skip_name` panic**, and what it has skipped is a name. By induction on the
bytes behind the position. -/
lemma skipName_spec (buf : Slice) (pos : ℕ) : Skips buf pos (skipName buf pos) := by
  induction hn : buf.bytes.length - pos using Nat.strong_induction_on generalizing pos with
  | _ n ih =>
    have hfits := buf.fits
    rcases hsome : buf.bytes[pos]? with _ | len
    · rw [skipName_none hsome]
      exact skips_nothing
    have hlt := (List.getElem?_eq_some_iff.mp hsome).1
    have hlen := len.toNat_lt
    rw [skipName_some hsome]
    split
    · -- a pointer; its second byte may be missing
      rename_i hptr
      rw [Scan.add_eq (by omega)]
      show Skips buf pos (.found (pos + 2))
      refine skips_found (by omega) (by omega) fun hle => ?_
      refine ⟨⟨[], .pointer len buf.bytes[pos + 1] hptr⟩, ?_, rfl⟩
      exact At.cons_iff.mpr ⟨hsome, At.cons_iff.mpr
        ⟨List.getElem?_eq_getElem (by omega), List.nil_prefix⟩⟩
    rename_i hptr
    split
    · rename_i hzero
      rw [Scan.add_eq (by omega)]
      show Skips buf pos (.found (pos + 1))
      refine skips_found (by omega) (by omega) fun hle => ⟨⟨[], .root⟩, ?_, rfl⟩
      exact At.cons_iff.mpr ⟨hzero ▸ hsome, List.nil_prefix⟩
    rename_i hzero
    rw [Scan.add_eq (by omega)]
    show Skips buf pos (skipName buf (pos + (1 + len.toNat)))
    by_cases hfit : pos + (1 + len.toNat) ≤ buf.bytes.length
    · have htext : ((buf.bytes.drop (pos + 1)).take len.toNat).length = len.toNat := by
        rw [List.length_take, List.length_drop]
        omega
      obtain ⟨l, hl⟩ := exists_label htext hzero hptr
      have hlength : l.bytes.length = 1 + len.toNat := by
        rw [hl, List.length_cons, htext, Nat.add_comm]
      refine Skips.label (l := l) ?_ (hlength ▸ ih _ (by omega) (pos + (1 + len.toNat)) rfl)
      rw [hl]
      exact At.cons_iff.mpr ⟨hsome, At.take_drop _ _ _⟩
    · -- the label is cut off, and nothing can be behind it
      rw [skipName_none (List.getElem?_eq_none (by omega))]
      exact skips_nothing

/-! ### Questions -/

variable {n : ℕ}

lemma skipQuestions_safe (buf : Slice) (n pos : ℕ) : (skipQuestions buf n pos).Safe := by
  induction n generalizing pos with
  | zero => exact Scan.safe_found pos
  | succ n ih =>
      rw [skipQuestions]
      exact (skipName_spec buf pos).safe.bind fun p _ =>
        (Scan.safe_checkedAdd p 4).bind fun q _ => ih q

/-- What the first loop has gone over, when it has stayed within the message: so many
questions. -/
lemma skipQuestions_found (h : skipQuestions buf n pos = .found q) : pos ≤ q
    ∧ (q ≤ buf.bytes.length → ∃ qs : List (Question 191), qs.length = n
        ∧ At buf.bytes pos (qs.flatMap Question.bytes)
        ∧ q = pos + (qs.flatMap Question.bytes).length) := by
  induction n generalizing pos with
  | zero =>
      cases h
      exact ⟨Nat.le_refl _, fun _ => ⟨[], rfl, List.nil_prefix, rfl⟩⟩
  | succ n ih =>
      rw [skipQuestions] at h
      obtain ⟨p, hp, h⟩ := Scan.bind_eq_found.mp h
      obtain ⟨p', hp', h⟩ := Scan.bind_eq_found.mp h
      cases Scan.checkedAdd_eq_found hp'
      have hlt := (skipName_spec buf pos).lt p hp
      obtain ⟨hle, hrest⟩ := ih h
      refine ⟨by omega, fun hq => ?_⟩
      obtain ⟨name, hname, rfl⟩ := (skipName_spec buf pos).name p hp (by omega)
      obtain ⟨qs, hqs, hat, rfl⟩ := hrest hq
      obtain ⟨qtype, htype⟩ := DnsWire.exists_be16
        ((buf.bytes.drop (pos + name.bytes.length)).take 2) (by simp; omega)
      obtain ⟨qclass, hclass⟩ := DnsWire.exists_be16
        ((buf.bytes.drop (pos + name.bytes.length + 2)).take 2) (by simp; omega)
      have hfirst : At buf.bytes pos (Question.mk name qtype qclass).bytes :=
        Question.at_iff.mpr ⟨hname, htype ▸ At.take_drop _ _ _, hclass ▸ At.take_drop _ _ _⟩
      have hlen : (Question.mk name qtype qclass).bytes.length = name.bytes.length + 4 :=
        Question.length_bytes _
      refine ⟨⟨name, qtype, qclass⟩ :: qs, by rw [List.length_cons, hqs], ?_, ?_⟩
      · rw [List.flatMap_cons, At.append_iff, hlen]
        exact ⟨hfirst, hat⟩
      · rw [List.flatMap_cons, List.length_append, hlen]
        omega

/-- The first loop goes over the questions. -/
lemma skipQuestions_questions {qs : List (Question top)} (htop : top ≤ 191)
    (h : At buf.bytes pos (qs.flatMap Question.bytes)) :
    skipQuestions buf qs.length pos = .found (pos + (qs.flatMap Question.bytes).length) := by
  induction qs generalizing pos with
  | nil => rfl
  | cons q qs ih =>
      rw [List.flatMap_cons] at h
      obtain ⟨hq, hqs⟩ := At.append_iff.mp h
      obtain ⟨hname, -, hclass⟩ := Question.at_iff.mp hq
      have hle := hclass.length_le (List.ne_nil_of_length_pos (by simp))
      have hfits := buf.fits
      rw [DnsWire.length_be16] at hle
      rw [q.length_bytes, ← Nat.add_assoc] at hqs
      rw [List.length_cons, skipQuestions, skipName_name htop hname, Scan.found_bind,
        Scan.checkedAdd_eq (by omega), Scan.found_bind, ih hqs, List.flatMap_cons,
        List.length_append, q.length_bytes]
      congr 1
      omega

/-! ### Answers -/

variable {look : ℕ → ℕ → ℕ → Scan α}

/-- One turn of the second loop, over a record. -/
lemma scanAnswers_record {r : Record top} (htop : top ≤ 191) (h : At buf.bytes pos r.bytes)
    (hle : pos + r.bytes.length ≤ buf.bytes.length) :
    scanAnswers buf look (n + 1) pos
      = match look r.rtype.toNat (pos + r.name.bytes.length + 10) r.rdata.length with
        | .nothing => scanAnswers buf look n (pos + r.bytes.length)
        | result => result := by
  obtain ⟨hname, hfixed, -⟩ := Record.at_iff.mp h
  obtain ⟨htype, hrdlen⟩ := Record.fixed_at hfixed
  have hfits := buf.fits
  rw [r.length_bytes] at hle ⊢
  rw [scanAnswers, skipName_name htop hname, Scan.found_bind, Scan.add_bind (by omega)]
  dsimp only
  rw [if_neg (by omega), DnsWire.u16_be16 htype, Scan.found_bind, DnsWire.u16_be16 hrdlen,
    Scan.found_bind, r.toNat_rdlen, Scan.add_bind (by omega)]
  dsimp only
  rw [if_neg (by omega), Nat.add_assoc pos, Nat.add_assoc pos, ← Nat.add_assoc pos]

/-- A turn of the second loop ends the scan, or goes over a record. -/
lemma scanAnswers_cases (buf : Slice) (look : ℕ → ℕ → ℕ → Scan α) (n pos : ℕ) :
    scanAnswers buf look (n + 1) pos = .nothing
      ∨ ∃ r : Record 191, At buf.bytes pos r.bytes
          ∧ pos + r.bytes.length ≤ buf.bytes.length := by
  have hspec := skipName_spec buf pos
  have hfits := buf.fits
  rw [scanAnswers]
  rcases hp : skipName buf pos with p | _ | f
  · have hlt := hspec.lt p hp
    rw [Scan.found_bind, Scan.add_bind (by omega)]
    dsimp only
    split
    · exact .inl rfl
    · rename_i hdata
      obtain ⟨name, hname, rfl⟩ := hspec.name p hp (by omega)
      have hsmall := DnsWire.numberAt_lt buf.bytes (pos + name.bytes.length + 8)
      rw [DnsWire.u16_numberAt (by omega), Scan.found_bind, DnsWire.u16_numberAt (by omega),
        Scan.found_bind, Scan.add_bind (by omega)]
      dsimp only
      split
      · exact .inl rfl
      · rename_i hstop
        obtain ⟨r, hr, hlen⟩ := DnsWire.exists_record_at hname (by omega)
        exact .inr ⟨r, hr, by omega⟩
  · exact .inl rfl
  · exact absurd hp (hspec.safe f)

/-- The second loop does not panic when what it looks with does not. -/
lemma scanAnswers_safe (hlook : ∀ rtype data rdlen, data + rdlen ≤ buf.bytes.length →
    (look rtype data rdlen).Safe) (n pos : ℕ) : (scanAnswers buf look n pos).Safe := by
  induction n generalizing pos with
  | zero => exact Scan.safe_nothing
  | succ n ih =>
      obtain hnothing | ⟨r, hr, hle⟩ := scanAnswers_cases buf look n pos
      · rw [hnothing]
        exact Scan.safe_nothing
      · rw [scanAnswers_record (Nat.le_refl _) hr hle]
        rw [r.length_bytes] at hle
        have hsafe := hlook r.rtype.toNat (pos + r.name.bytes.length + 10) r.rdata.length (by omega)
        split
        · exact ih _
        · exact hsafe

/-- What the second loop finds is found in a record, behind fewer records than there are to
scan. -/
lemma scanAnswers_found {a : α} (h : scanAnswers buf look n pos = .found a) :
    ∃ (rs : List (Record 191)) (r : Record 191), rs.length < n
      ∧ At buf.bytes pos (rs.flatMap Record.bytes ++ r.bytes)
      ∧ pos + (rs.flatMap Record.bytes ++ r.bytes).length ≤ buf.bytes.length
      ∧ look r.rtype.toNat
          (pos + (rs.flatMap Record.bytes).length + r.name.bytes.length + 10) r.rdata.length
        = .found a := by
  induction n generalizing pos with
  | zero => cases h
  | succ n ih =>
      obtain hnothing | ⟨r, hr, hle⟩ := scanAnswers_cases buf look n pos
      · rw [hnothing] at h
        cases h
      · rw [scanAnswers_record (Nat.le_refl _) hr hle] at h
        split at h
        · obtain ⟨rs, r', hlt, hat, hend, hfound⟩ := ih h
          refine ⟨r :: rs, r', Nat.succ_lt_succ hlt, ?_, ?_, ?_⟩
          · rw [List.flatMap_cons, List.append_assoc]
            exact At.append_iff.mpr ⟨hr, hat⟩
          · rw [List.flatMap_cons, List.append_assoc, List.length_append, ← Nat.add_assoc]
            exact hend
          · rw [List.flatMap_cons, List.length_append, ← Nat.add_assoc pos]
            exact hfound
        · exact ⟨[], r, Nat.succ_pos n, hr, hle, h⟩

/-- On records, the second loop finds what the first of them has. -/
lemma scanAnswers_records {rs : List (Record top)} (htop : top ≤ 191) {has : Record top → Option α}
    (h : At buf.bytes pos (rs.flatMap Record.bytes))
    (hlook : ∀ r ∈ rs, ∀ data, At buf.bytes data r.rdata →
      data + r.rdata.length ≤ buf.bytes.length →
      look r.rtype.toNat data r.rdata.length = .ofOption (has r)) :
    scanAnswers buf look rs.length pos = .ofOption (rs.findSome? has) := by
  induction rs generalizing pos with
  | nil => rfl
  | cons r rs ih =>
      rw [List.flatMap_cons] at h
      obtain ⟨hr, hrs⟩ := At.append_iff.mp h
      have hle := hr.length_le (List.append_ne_nil_of_left_ne_nil r.name.bytes_ne_nil _)
      have hdata := (Record.at_iff.mp hr).2.2
      have hend : pos + r.name.bytes.length + 10 + r.rdata.length ≤ buf.bytes.length := by
        rw [r.length_bytes] at hle
        omega
      rw [List.length_cons, scanAnswers_record htop hr hle,
        hlook r List.mem_cons_self _ hdata hend, List.findSome?_cons]
      cases has r with
      | some a => rfl
      | none => exact ih hrs fun r' hr' => hlook r' (List.mem_cons_of_mem r hr')

/-! ### The whole message -/

/-- The record is one of the answers that the header of the message announces, and its data
begin at this position. -/
def IsAnswer (msg : Bytes) (r : Record top) (data : ℕ) : Prop :=
  ∃ (qs : List (Question top)) (rs : List (Record top)),
    qs.length = numberAt msg 4 ∧ rs.length < numberAt msg 6
      ∧ At msg 12 (qs.flatMap Question.bytes ++ (rs.flatMap Record.bytes ++ r.bytes))
      ∧ data = 12 + (qs.flatMap Question.bytes).length + (rs.flatMap Record.bytes).length
          + r.name.bytes.length + 10

/-- The data of an answer stand at their position in the message. -/
lemma IsAnswer.at_rdata {msg : Bytes} {top data : ℕ} {r : Record top} (h : IsAnswer msg r data) :
    At msg data r.rdata ∧ data + r.rdata.length ≤ msg.length := by
  obtain ⟨qs, rs, -, -, hat, rfl⟩ := h
  have hr := (At.append_iff.mp (At.append_iff.mp hat).2).2
  have hle := hr.length_le (List.append_ne_nil_of_left_ne_nil r.name.bytes_ne_nil _)
  rw [r.length_bytes, ← Nat.add_assoc, ← Nat.add_assoc] at hle
  exact ⟨(Record.at_iff.mp hr).2.2, hle⟩

lemma u16_eq_numberAt (h : pos + 1 < buf.bytes.length) :
    Scan.u16 buf pos = .found (numberAt buf.bytes pos) := by
  rw [Scan.u16_eq h, numberAt, List.drop_eq_getElem_cons (by omega), List.take_succ_cons,
    List.drop_eq_getElem_cons h, List.take_succ_cons, List.take_zero]

/-- **No bytes make the scan panic** when what it looks with does not. -/
theorem firstAnswer_safe (hlook : ∀ rtype data rdlen, data + rdlen ≤ buf.bytes.length →
    (look rtype data rdlen).Safe) : (firstAnswer look buf).Safe := by
  rw [firstAnswer]
  split
  · exact Scan.safe_nothing
  · rw [u16_eq_numberAt (by omega), Scan.found_bind, u16_eq_numberAt (by omega), Scan.found_bind]
    exact (skipQuestions_safe buf _ 12).bind fun p _ => scanAnswers_safe hlook _ p

/-- **What is found is found in an answer record.** -/
theorem firstAnswer_found {a : α} (h : firstAnswer look buf = .found a) :
    ∃ (r : Record 191) (data : ℕ), IsAnswer buf.bytes r data
      ∧ look r.rtype.toNat data r.rdata.length = .found a := by
  rw [firstAnswer] at h
  split at h
  · cases h
  · rw [u16_eq_numberAt (by omega), Scan.found_bind, u16_eq_numberAt (by omega), Scan.found_bind] at h
    obtain ⟨p, hp, h⟩ := Scan.bind_eq_found.mp h
    obtain ⟨rs, r, hlt, hat, hle, hfound⟩ := scanAnswers_found h
    obtain ⟨qs, hqs, hquestions, rfl⟩ := (skipQuestions_found hp).2 (by omega)
    exact ⟨r, _, ⟨qs, rs, hqs, hlt, At.append_iff.mpr ⟨hquestions, hat⟩, rfl⟩, hfound⟩

/-- The two numbers in the header of a message. -/
lemma header_at {m : Message top} (h : buf.bytes = m.bytes) :
    12 ≤ buf.bytes.length ∧ Scan.u16 buf 4 = .found m.questions.length
      ∧ Scan.u16 buf 6 = .found m.answers.length
      ∧ At buf.bytes 12 (m.questions.flatMap Question.bytes)
      ∧ At buf.bytes (12 + (m.questions.flatMap Question.bytes).length)
          (m.answers.flatMap Record.bytes) := by
  have hself : At buf.bytes 0 m.bytes := h ▸ At.self _
  rw [Message.bytes, At.append_iff, At.append_iff, At.append_iff, m.length_header] at hself
  obtain ⟨hheader, hqs, hrs, -⟩ := hself
  have hlen : 12 ≤ buf.bytes.length := by
    have := hheader.length_le (List.ne_nil_of_length_pos (by rw [m.length_header]; decide))
    rwa [m.length_header] at this
  rw [Message.header, At.append_iff, At.append_iff, At.append_iff, At.append_iff,
    DnsWire.length_be16, DnsWire.length_be16, DnsWire.length_be16] at hheader
  obtain ⟨-, -, hqd, han, -⟩ := hheader
  refine ⟨hlen, ?_, ?_, by simpa using hqs, by simpa using hrs⟩
  · rw [DnsWire.u16_be16 hqd, UInt16.toNat_ofNat', Nat.mod_eq_of_lt m.questions_lt]
  · rw [DnsWire.u16_be16 han, UInt16.toNat_ofNat', Nat.mod_eq_of_lt m.answers_lt]

/-- **On a well-formed message the scan finds what the first answer has that has it.** -/
theorem firstAnswer_message {m : Message top} (htop : top ≤ 191) (h : buf.bytes = m.bytes)
    {has : Record top → Option α}
    (hlook : ∀ r ∈ m.answers, ∀ data, At buf.bytes data r.rdata →
      data + r.rdata.length ≤ buf.bytes.length →
      look r.rtype.toNat data r.rdata.length = .ofOption (has r)) :
    firstAnswer look buf = .ofOption (m.answers.findSome? has) := by
  obtain ⟨hlen, hqd, han, hqs, hrs⟩ := header_at h
  rw [firstAnswer, if_neg (by omega), hqd, Scan.found_bind, han, Scan.found_bind,
    skipQuestions_questions htop hqs, Scan.found_bind]
  exact scanAnswers_records htop hrs hlook

end Aether.Dns
