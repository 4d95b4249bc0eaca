import Aether.Lib.OctetsMut
import Aether.Lib.Scan

/-!
DNS messages (RFC 1035).

Once as what is sent: names, questions, records and messages are structures that carry the
bounds on their lengths, and `bytes` is their encoding. The bound on a label is a parameter: 63
for a message that is well formed, 191 for all that a reader can take for a label that looks at
the two top bits for a pointer only.

Once as what is meant: `decode` reads a header and the questions it announces, and follows the
pointers in names.

* `Question.at_iff`, `Record.at_iff`: an encoding stands at a position, part by part.
* `labelsAt_labels`: a name without pointers means its labels.
-/

namespace DnsWire

/-! ### Numbers -/

/-- `to_be_bytes`. -/
def be16 (v : UInt16) : Bytes := Octets.beBytes 2 v.toNat

@[simp] lemma length_be16 (v : UInt16) : (be16 v).length = 2 := Octets.length_beBytes 2 _

lemma beNat_be16 (v : UInt16) : Octets.beNat (be16 v) = v.toNat := by
  rw [be16, Octets.beNat_beBytes]
  exact Nat.mod_eq_of_lt v.toNat_lt

/-- A number of two bytes is read back. -/
lemma u16_be16 {buf : Slice} {pos : ℕ} {v : UInt16} (h : At buf.bytes pos (be16 v)) :
    Scan.u16 buf pos = .found v.toNat := by
  rw [← beNat_be16]
  exact @Scan.u16_at _ _ _ _ [] h

/-- Two bytes are a number. -/
lemma exists_be16 (bs : Bytes) (h : bs.length = 2) : ∃ v, be16 v = bs := by
  have hlt := Octets.beNat_lt bs
  refine ⟨UInt16.ofNat (Octets.beNat bs), ?_⟩
  rw [be16, UInt16.toNat_ofNat', Nat.mod_eq_of_lt (by rw [h] at hlt; exact hlt)]
  exact h ▸ Octets.beBytes_beNat bs

/-! ### Dotted names -/

/-- What stands between the dots of a name, as UTF-8. -/
def pieces (name : String) : List Bytes :=
  (name.toList.splitOn '.').map fun label => label.flatMap String.utf8EncodeChar

/-! ### What is sent -/

/-- A label of at most `top` bytes. -/
structure Label (top : ℕ) where
  text : Bytes
  ne_nil : text ≠ []
  le : text.length ≤ top

/-- The length in one byte, and the text. -/
def Label.bytes {top : ℕ} (l : Label top) : Bytes := UInt8.ofNat l.text.length :: l.text

/-- The length fits into its byte. -/
lemma Label.toNat_length {top : ℕ} (l : Label top) (htop : top ≤ 255) :
    (UInt8.ofNat l.text.length).toNat = l.text.length := by
  have hle := l.le
  rw [UInt8.toNat_ofNat']
  exact Nat.mod_eq_of_lt (by omega)

lemma Label.length_ne_zero {top : ℕ} (l : Label top) (htop : top ≤ 255) :
    UInt8.ofNat l.text.length ≠ 0 := by
  intro h0
  have hlen := l.toNat_length htop
  rw [h0] at hlen
  exact l.ne_nil (List.length_eq_zero_iff.mp hlen.symm)

/-- The end of a name: a zero byte, or a pointer of two bytes. -/
inductive Ending where
  | root
  | pointer (high low : UInt8) (h : high &&& 0xc0 = 0xc0)

def Ending.bytes : Ending → Bytes
  | root => [0]
  | pointer high low _ => [high, low]

/-- The pointer to an offset of one byte. -/
def Ending.near (low : UInt8) : Ending := .pointer 0xc0 low rfl

structure Name (top : ℕ) where
  labels : List (Label top)
  ending : Ending

def Name.bytes {top : ℕ} (n : Name top) : Bytes := n.labels.flatMap Label.bytes ++ n.ending.bytes

/-- The first label stands in front of the others. -/
lemma Name.bytes_cons {top : ℕ} (l : Label top) (labels : List (Label top)) (e : Ending) :
    (Name.mk (l :: labels) e).bytes = l.bytes ++ (Name.mk labels e).bytes := by
  rw [Name.bytes, List.flatMap_cons, List.append_assoc]
  rfl

structure Question (top : ℕ) where
  name : Name top
  qtype : UInt16
  qclass : UInt16

def Question.bytes {top : ℕ} (q : Question top) : Bytes :=
  q.name.bytes ++ (be16 q.qtype ++ be16 q.qclass)

/-- A resource record. -/
structure Record (top : ℕ) where
  name : Name top
  rtype : UInt16
  rclass : UInt16
  ttl : Bytes
  ttl_length : ttl.length = 4
  rdata : Bytes
  rdata_lt : rdata.length < 2 ^ 16

namespace Record

variable {top : ℕ}

/-- The length of the data. -/
def rdlen (r : Record top) : UInt16 := UInt16.ofNat r.rdata.length

lemma toNat_rdlen (r : Record top) : r.rdlen.toNat = r.rdata.length := by
  rw [rdlen, UInt16.toNat_ofNat']
  exact Nat.mod_eq_of_lt r.rdata_lt

/-- What stands between the name and the data. -/
def fixed (r : Record top) : Bytes := be16 r.rtype ++ (be16 r.rclass ++ (r.ttl ++ be16 r.rdlen))

lemma length_fixed (r : Record top) : r.fixed.length = 10 := by
  simp [fixed, r.ttl_length]

def bytes (r : Record top) : Bytes := r.name.bytes ++ (r.fixed ++ r.rdata)

end Record

/-- A message with the two sections that matter here; whatever follows them is in `trailing`. -/
structure Message (top : ℕ) where
  id : UInt16
  flags : UInt16
  nscount : UInt16
  arcount : UInt16
  questions : List (Question top)
  answers : List (Record top)
  trailing : Bytes
  questions_lt : questions.length < 2 ^ 16
  answers_lt : answers.length < 2 ^ 16

namespace Message

variable {top : ℕ}

def header (m : Message top) : Bytes :=
  be16 m.id ++ (be16 m.flags ++ (be16 (.ofNat m.questions.length)
    ++ (be16 (.ofNat m.answers.length) ++ (be16 m.nscount ++ be16 m.arcount))))

lemma length_header (m : Message top) : m.header.length = 12 := by simp [header]

def bytes (m : Message top) : Bytes :=
  m.header ++ (m.questions.flatMap Question.bytes ++ (m.answers.flatMap Record.bytes ++ m.trailing))

end Message

/-! ### What stands at a position -/

section Positions

variable {top : ℕ} {buf : Bytes} {pos : ℕ}

lemma Ending.bytes_ne_nil (e : Ending) : e.bytes ≠ [] := by
  cases e <;> simp [Ending.bytes]

lemma Name.bytes_ne_nil (n : Name top) : n.bytes ≠ [] :=
  List.append_ne_nil_of_right_ne_nil _ n.ending.bytes_ne_nil

/-- A question stands at a position when its name does, and behind it the two numbers. -/
lemma Question.at_iff {q : Question top} : At buf pos q.bytes ↔ At buf pos q.name.bytes
    ∧ At buf (pos + q.name.bytes.length) (be16 q.qtype)
    ∧ At buf (pos + q.name.bytes.length + 2) (be16 q.qclass) := by
  rw [Question.bytes, At.append_iff, At.append_iff, length_be16]

lemma Question.length_bytes (q : Question top) : q.bytes.length = q.name.bytes.length + 4 := by
  simp [Question.bytes]

/-- A record stands at a position when its name does, behind it what is fixed, and behind that
the data. -/
lemma Record.at_iff {r : Record top} : At buf pos r.bytes ↔ At buf pos r.name.bytes
    ∧ At buf (pos + r.name.bytes.length) r.fixed
    ∧ At buf (pos + r.name.bytes.length + 10) r.rdata := by
  rw [Record.bytes, At.append_iff, At.append_iff, r.length_fixed]

lemma Record.length_bytes (r : Record top) :
    r.bytes.length = r.name.bytes.length + 10 + r.rdata.length := by
  rw [Record.bytes, List.length_append, List.length_append, r.length_fixed, Nat.add_assoc]

/-- The type and the length in what is fixed. -/
lemma Record.fixed_at {r : Record top} (h : At buf pos r.fixed) :
    At buf pos (be16 r.rtype) ∧ At buf (pos + 8) (be16 r.rdlen) := by
  rw [Record.fixed, At.append_iff, At.append_iff, At.append_iff, length_be16, length_be16,
    r.ttl_length] at h
  exact ⟨h.1, h.2.2.2⟩

/-- Ten bytes that announce the length of the data are what is fixed of a record. -/
lemma exists_record (name : Name top) {fixed rdata : Bytes} (hfixed : fixed.length = 10)
    (hlen : Octets.beNat (fixed.drop 8) = rdata.length) :
    ∃ r : Record top, r.name = name ∧ r.fixed = fixed ∧ r.rdata = rdata := by
  obtain ⟨rtype, hrtype⟩ := exists_be16 (fixed.take 2) (by simp [hfixed])
  obtain ⟨rclass, hrclass⟩ := exists_be16 ((fixed.drop 2).take 2) (by simp [hfixed])
  obtain ⟨rdlen, hrdlen⟩ := exists_be16 (fixed.drop 8) (by simp [hfixed])
  have hnat : rdlen.toNat = rdata.length := by rw [← beNat_be16, hrdlen, hlen]
  have hlt : rdata.length < 2 ^ 16 := hnat ▸ rdlen.toNat_lt
  refine ⟨⟨name, rtype, rclass, (fixed.drop 4).take 4, by simp [hfixed], rdata, hlt⟩, rfl, ?_, rfl⟩
  have hrd : UInt16.ofNat rdata.length = rdlen := by rw [← hnat, UInt16.ofNat_toNat]
  rw [Record.fixed, Record.rdlen, hrd, hrtype, hrclass, hrdlen]
  have h₄ : (fixed.drop 4).take 4 ++ fixed.drop 8 = fixed.drop 4 := by
    rw [show fixed.drop 8 = (fixed.drop 4).drop 4 by rw [List.drop_drop], List.take_append_drop]
  have h₂ : (fixed.drop 2).take 2 ++ fixed.drop 4 = fixed.drop 2 := by
    rw [show fixed.drop 4 = (fixed.drop 2).drop 2 by rw [List.drop_drop], List.take_append_drop]
  rw [h₄, h₂, List.take_append_drop]

end Positions

/-! ### What is meant -/

/-- The number that two bytes are. -/
def numberAt (msg : Bytes) (pos : ℕ) : ℕ := Octets.beNat ((msg.drop pos).take 2)

/-- The labels of a name, and the position behind it. A pointer leads in front of where the
labels so far began. -/
def labelsAt (msg : Bytes) (start pos : ℕ) : Option (List Bytes × ℕ) :=
  match msg[pos]? with
  | none => none
  | some len =>
      if len = 0 then some ([], pos + 1)
      else if len.toNat < 64 then
        if pos + 1 + len.toNat ≤ msg.length then
          (labelsAt msg start (pos + 1 + len.toNat)).map fun (labels, stop) =>
            ((msg.drop (pos + 1)).take len.toNat :: labels, stop)
        else none
      else if 192 ≤ len.toNat then
        match msg[pos + 1]? with
        | none => none
        | some low =>
            if (len.toNat - 192) * 256 + low.toNat < start then
              (labelsAt msg ((len.toNat - 192) * 256 + low.toNat)
                ((len.toNat - 192) * 256 + low.toNat)).map fun (labels, _) => (labels, pos + 2)
            else none
      else none
termination_by (start, msg.length - pos)
decreasing_by
  · exact Prod.Lex.right _ (by omega)
  · exact Prod.Lex.left _ _ (by assumption)

/-- The octets of a name. -/
def octets (labels : List Bytes) : ℕ := (labels.map fun l => l.length + 1).sum + 1

/-- A question that has been read. -/
structure Asked where
  labels : List Bytes
  qtype : ℕ
  qclass : ℕ
  deriving DecidableEq

/-- A message that has been read up to the end of its questions. -/
structure Decoded where
  id : ℕ
  flags : ℕ
  qdcount : ℕ
  ancount : ℕ
  nscount : ℕ
  arcount : ℕ
  questions : List Asked
  rest : Bytes
  deriving DecidableEq

/-- A question, with a name of at most so many octets. -/
def askedAt (longest : ℕ) (msg : Bytes) (pos : ℕ) : Option (Asked × ℕ) :=
  match labelsAt msg pos pos with
  | none => none
  | some (labels, p) =>
      if octets labels ≤ longest ∧ p + 4 ≤ msg.length then
        some (⟨labels, numberAt msg p, numberAt msg (p + 2)⟩, p + 4)
      else none

/-- So many questions. -/
def questionsAt (longest : ℕ) (msg : Bytes) : ℕ → ℕ → Option (List Asked × ℕ)
  | 0, pos => some ([], pos)
  | n + 1, pos => do
      let (q, p) ← askedAt longest msg pos
      let (qs, p') ← questionsAt longest msg n p
      return (q :: qs, p')

/-- RFC 1035, where `longest` is 255. -/
def decode (longest : ℕ) (msg : Bytes) : Option Decoded :=
  if msg.length < 12 then none
  else (questionsAt longest msg (numberAt msg 4) 12).map fun (questions, p) =>
    { id := numberAt msg 0, flags := numberAt msg 2, qdcount := numberAt msg 4
      ancount := numberAt msg 6, nscount := numberAt msg 8, arcount := numberAt msg 10
      questions, rest := msg.drop p }

section Decoding

variable {msg : Bytes} {pos start longest : ℕ}

lemma numberAt_be16 {v : UInt16} (h : At msg pos (be16 v)) : numberAt msg pos = v.toNat := by
  have htake := h.take_eq
  rw [length_be16] at htake
  rw [numberAt, htake, beNat_be16]

lemma numberAt_lt (msg : Bytes) (pos : ℕ) : numberAt msg pos < 2 ^ 16 := by
  have hlt := Octets.beNat_lt ((msg.drop pos).take 2)
  have hpow := Nat.pow_le_pow_right (n := 256) (by decide) (List.length_take_le 2 (msg.drop pos))
  exact Nat.lt_of_lt_of_le hlt hpow

/-- Two bytes are read as their number. -/
lemma u16_numberAt {buf : Slice} (h : pos + 1 < buf.bytes.length) :
    Scan.u16 buf pos = .found (numberAt buf.bytes pos) := by
  rw [Scan.u16_eq h, numberAt, List.drop_eq_getElem_cons (by omega), List.drop_eq_getElem_cons h]
  rfl

/-- Ten bytes behind a name, and as many as they announce, are the rest of a record. -/
lemma exists_record_at {top : ℕ} {name : Name top} (hname : At msg pos name.bytes)
    (hle : pos + name.bytes.length + 10 + numberAt msg (pos + name.bytes.length + 8)
      ≤ msg.length) : ∃ r : Record top, At msg pos r.bytes
    ∧ r.bytes.length = name.bytes.length + 10 + numberAt msg (pos + name.bytes.length + 8) := by
  set fixed := (msg.drop (pos + name.bytes.length)).take 10 with hfixed
  have hlen : fixed.length = 10 := by
    rw [hfixed, List.length_take, List.length_drop]
    omega
  have hrdlen : Octets.beNat (fixed.drop 8) = numberAt msg (pos + name.bytes.length + 8) := by
    rw [hfixed, List.drop_take, List.drop_drop, numberAt]
  have hrdata : ((msg.drop (pos + name.bytes.length + 10)).take
      (numberAt msg (pos + name.bytes.length + 8))).length
        = numberAt msg (pos + name.bytes.length + 8) := by
    rw [List.length_take, List.length_drop]
    omega
  obtain ⟨r, hrname, hrfixed, hrrdata⟩ := exists_record name hlen (hrdlen.trans hrdata.symm)
  refine ⟨r, Record.at_iff.mpr ⟨hrname ▸ hname, ?_, ?_⟩, ?_⟩
  · rw [hrname, hrfixed]
    exact At.take_drop _ _ _
  · rw [hrname, hrrdata]
    exact At.take_drop _ _ _
  · rw [r.length_bytes, hrname, hrrdata, hrdata]

/-- A zero byte is the end of a name. -/
lemma labelsAt_root (h : msg[pos]? = some 0) : labelsAt msg start pos = some ([], pos + 1) := by
  rw [labelsAt]
  split
  · rename_i hnone
    rw [h] at hnone
    cases hnone
  · rename_i hsome
    rw [h] at hsome
    cases hsome
    exact if_pos rfl

/-- A label is in front of the labels behind it. -/
lemma labelsAt_label {l : Label 63} (h : At msg pos l.bytes) : labelsAt msg start pos
    = (labelsAt msg start (pos + l.bytes.length)).map fun (labels, stop) =>
        (l.text :: labels, stop) := by
  obtain ⟨hfirst, htext⟩ := At.cons_iff.mp h
  have hle := h.length_le (List.cons_ne_nil _ _)
  have htop := l.le
  have hl : l.bytes.length = 1 + l.text.length := Nat.add_comm _ 1
  rw [hl, ← Nat.add_assoc] at hle ⊢
  conv_lhs => rw [labelsAt]
  split
  · rename_i hnone
    rw [hfirst] at hnone
    cases hnone
  · rename_i hsome
    rw [hfirst] at hsome
    cases hsome
    rw [if_neg (l.length_ne_zero (by decide)), l.toNat_length (by decide), if_pos (by omega),
      if_pos hle, htext.take_eq]

/-- **A name without pointers means its labels**: by induction on them. -/
theorem labelsAt_labels {labels : List (Label 63)}
    (h : At msg pos (Name.mk labels .root).bytes) : labelsAt msg start pos
      = some (labels.map Label.text, pos + (Name.mk labels .root).bytes.length) := by
  induction labels generalizing pos with
  | nil => exact labelsAt_root (At.head h)
  | cons l labels ih =>
      rw [Name.bytes_cons] at h ⊢
      obtain ⟨hl, hrest⟩ := At.append_iff.mp h
      rw [labelsAt_label hl, ih hrest, List.length_append, Nat.add_assoc]
      rfl

/-- A question whose name has no pointers. -/
lemma askedAt_question {labels : List (Label 63)} {qtype qclass : UInt16}
    (h : At msg pos (Question.mk ⟨labels, .root⟩ qtype qclass).bytes) :
    askedAt longest msg pos = if octets (labels.map Label.text) ≤ longest then
      some (⟨labels.map Label.text, qtype.toNat, qclass.toNat⟩,
        pos + (Question.mk ⟨labels, .root⟩ qtype qclass).bytes.length) else none := by
  have hle := h.length_le (List.append_ne_nil_of_left_ne_nil (Name.bytes_ne_nil _) _)
  obtain ⟨hname, htype, hclass⟩ := Question.at_iff.mp h
  rw [Question.length_bytes, ← Nat.add_assoc] at hle ⊢
  rw [askedAt, labelsAt_labels hname]
  dsimp only
  rw [numberAt_be16 htype, numberAt_be16 hclass]
  by_cases hlong : octets (labels.map Label.text) ≤ longest
  · rw [if_pos ⟨hlong, hle⟩, if_pos hlong]
  · rw [if_neg fun hc => hlong hc.1, if_neg hlong]

/-- **A message with one question is decoded**, unless its name is too long. -/
theorem decode_message {m : Message 63} {labels : List (Label 63)} {qtype qclass : UInt16}
    (hq : m.questions = [⟨⟨labels, .root⟩, qtype, qclass⟩]) :
    decode longest m.bytes = if octets (labels.map Label.text) ≤ longest then some {
      id := m.id.toNat, flags := m.flags.toNat, qdcount := 1, ancount := m.answers.length
      nscount := m.nscount.toNat, arcount := m.arcount.toNat
      questions := [⟨labels.map Label.text, qtype.toNat, qclass.toNat⟩]
      rest := m.answers.flatMap Record.bytes ++ m.trailing } else none := by
  have hsections : At m.bytes 0 (m.header ++ (m.questions.flatMap Question.bytes
      ++ (m.answers.flatMap Record.bytes ++ m.trailing))) := At.self _
  rw [At.append_iff, At.append_iff, m.length_header, hq, List.flatMap_singleton] at hsections
  obtain ⟨hheader, hquestion, -⟩ := hsections
  rw [Message.header, At.append_iff, At.append_iff, At.append_iff, At.append_iff, At.append_iff,
    length_be16, length_be16, length_be16, length_be16, length_be16] at hheader
  obtain ⟨hid, hflags, hqd, han, hns, har⟩ := hheader
  have hid : numberAt m.bytes 0 = m.id.toNat := numberAt_be16 hid
  have hflags : numberAt m.bytes 2 = m.flags.toNat := numberAt_be16 hflags
  have hqd : numberAt m.bytes 4 = 1 := by
    rw [numberAt_be16 hqd, hq]
    rfl
  have han : numberAt m.bytes 6 = m.answers.length := by
    rw [numberAt_be16 han, UInt16.toNat_ofNat', Nat.mod_eq_of_lt m.answers_lt]
  have hns : numberAt m.bytes 8 = m.nscount.toNat := numberAt_be16 hns
  have har : numberAt m.bytes 10 = m.arcount.toNat := numberAt_be16 har
  have hlength : ¬ m.bytes.length < 12 := by
    rw [Message.bytes, List.length_append, m.length_header]
    omega
  have hrest : m.bytes.drop (0 + 12 + (Question.mk ⟨labels, .root⟩ qtype qclass).bytes.length)
      = m.answers.flatMap Record.bytes ++ m.trailing := by
    rw [Nat.zero_add, ← List.drop_drop, Message.bytes, List.drop_left' m.length_header, hq,
      List.flatMap_singleton, List.drop_left]
  rw [decode, if_neg hlength, hqd, questionsAt, askedAt_question hquestion]
  by_cases hlong : octets (labels.map Label.text) ≤ longest
  · rw [if_pos hlong, if_pos hlong, ← hid, ← hflags, ← han, ← hns, ← har, ← hrest]
    rfl
  · rw [if_neg hlong, if_neg hlong]
    rfl

end Decoding

end DnsWire
