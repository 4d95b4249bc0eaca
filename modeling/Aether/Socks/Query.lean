import Aether.Ech
import Aether.Socks.Client
import Aether.Socks.Resolve

/-!
The queries that `dns_resolve` sends (`build_dns_query` in `socks.rs`, and `build_query` in
`dns.rs`), read as RFC 1035 has it.

The name comes from a client. `build_dns_query` writes all that stands between its dots, and cuts
the length of it down to a byte; `build_query` leaves out what is empty.

* `buildDnsQuery_eq`: the bytes are a message with one question, as long as the pieces are labels.
  An empty last piece moves what follows by one byte.
* `wellEncoded_iff`: this is the only way in which a query asks for its name.
-/

namespace Aether.Socks

open DnsWire (be16 pieces octets Label Message decode)

/-! ### What a query asks for -/

def IsLabel (label : Bytes) : Prop := label ≠ [] ∧ label.length ≤ 63

instance (label : Bytes) : Decidable (IsLabel label) := inferInstanceAs (Decidable (_ ∧ _))

/-- The labels of a name, which may end with a dot for the root. -/
def IsLabelsOf (labels : List Bytes) (name : String) : Prop :=
  (∀ label ∈ labels, IsLabel label) ∧ (pieces name = labels ∨ pieces name = labels ++ [[]])

/-- The bytes are one question, for this name and type in the class IN, and nothing else. -/
def Asks (longest : ℕ) (query : Bytes) (name : String) (qtype : UInt16) : Prop :=
  ∃ d labels, decode longest query = some d ∧ IsLabelsOf labels name ∧ d.qdcount = 1
    ∧ d.questions = [⟨labels, qtype.toNat, 1⟩] ∧ d.rest = []

/-- What `wellEncoded_iff` is about: a query that is sent asks for the name, and on names made
of labels the two encoders agree behind the id. -/
structure WellEncoded (longest : ℕ) (name : String) : Prop where
  asks : ∀ l server query, (dnsResolve l name).sent = some (server, query) →
    Asks longest query name 1
  agrees : (∃ labels, IsLabelsOf labels name) → ∀ id id' qtype,
    (buildDnsQuery id name qtype).drop 2 = (Dns.buildQuery id' name qtype).drop 2

/-! ### Queries as messages -/

/-- A message with one question. -/
def query (id : UInt16) (labels : List (Label 63)) (qtype qclass : UInt16) (trailing : Bytes) :
    Message 63 where
  id := id
  flags := 0x0100
  nscount := 0
  arcount := 0
  questions := [⟨⟨labels, .root⟩, qtype, qclass⟩]
  answers := []
  trailing := trailing
  questions_lt := Nat.one_lt_two_pow (by decide)
  answers_lt := by decide

variable {longest : ℕ} {name : String} {labels : List (Label 63)} {id qtype : UInt16}

lemma exists_labels {xs : List Bytes} (h : ∀ label ∈ xs, IsLabel label) :
    ∃ labels : List (Label 63), labels.map Label.text = xs := by
  induction xs with
  | nil => exact ⟨[], rfl⟩
  | cons x xs ih =>
      obtain ⟨hx, hxs⟩ := List.forall_mem_cons.mp h
      obtain ⟨labels, rfl⟩ := ih hxs
      exact ⟨⟨x, hx.1, hx.2⟩ :: labels, rfl⟩

lemma header_query (id : UInt16) (labels : List (Label 63)) (qtype qclass : UInt16)
    (trailing : Bytes) : (query id labels qtype qclass trailing).header
      = be16 id ++ ([0x01, 0x00] ++ ([0x00, 0x01] ++ [0x00, 0x00, 0x00, 0x00, 0x00, 0x00])) := by
  simp [Message.header, query, be16, Octets.beBytes]

lemma one_bytes : be16 1 = [0x00, 0x01] := by decide

/-- The part of the bytes that depends on the name. -/
lemma flatMap_text (labels : List (Label 63)) :
    (labels.map Label.text).flatMap (fun label => UInt8.ofNat label.length :: label)
      = labels.flatMap Label.bytes := List.flatMap_map ..

/-- **On labels, the bytes are a message with one question.** -/
lemma buildDnsQuery_eq (h : pieces name = labels.map Label.text) :
    buildDnsQuery id name qtype = (query id labels qtype 1 []).bytes := by
  rw [buildDnsQuery, h, flatMap_text, Message.bytes, header_query]
  simp [query, DnsWire.Question.bytes, DnsWire.Name.bytes, DnsWire.Ending.bytes, one_bytes]

/-- **With an empty piece behind the labels**, the question ends one byte early. -/
lemma buildDnsQuery_dot (id qtype : UInt16) (h : pieces name = labels.map Label.text ++ [[]]) :
    ∃ qtype' qclass', buildDnsQuery id name qtype = (query id labels qtype' qclass' [1]).bytes := by
  obtain ⟨high, low, hpair⟩ := List.length_eq_two.mp (DnsWire.length_be16 qtype)
  obtain ⟨qtype', htype⟩ := DnsWire.exists_be16 [0, high] rfl
  obtain ⟨qclass', hclass⟩ := DnsWire.exists_be16 [low, 0] rfl
  refine ⟨qtype', qclass', ?_⟩
  rw [buildDnsQuery, h, List.flatMap_append, flatMap_text, hpair, Message.bytes, header_query]
  simp [query, DnsWire.Question.bytes, DnsWire.Name.bytes, DnsWire.Ending.bytes, htype, hclass]

/-- What such a message decodes to. -/
lemma decode_query (longest : ℕ) (id : UInt16) (labels : List (Label 63)) (qtype qclass : UInt16)
    (trailing : Bytes) : decode longest (query id labels qtype qclass trailing).bytes
      = if octets (labels.map Label.text) ≤ longest then some {
          id := id.toNat, flags := 0x0100, qdcount := 1, ancount := 0, nscount := 0, arcount := 0
          questions := [⟨labels.map Label.text, qtype.toNat, qclass.toNat⟩]
          rest := trailing } else none :=
  DnsWire.decode_message rfl

/-- **A query asks for its name exactly when** the pieces of the name are labels, and are not
too many. -/
theorem asks_iff : Asks longest (buildDnsQuery id name qtype) name qtype
    ↔ (∀ label ∈ pieces name, IsLabel label) ∧ octets (pieces name) ≤ longest := by
  constructor
  · rintro ⟨d, names, hdecode, ⟨hlabels, hpieces⟩, -, -, hrest⟩
    obtain ⟨labels, rfl⟩ := exists_labels hlabels
    rcases hpieces with hpieces | hpieces
    · rw [buildDnsQuery_eq hpieces, decode_query] at hdecode
      rw [hpieces]
      split at hdecode
      · rename_i hlong
        exact ⟨hlabels, hlong⟩
      · cases hdecode
    · obtain ⟨qtype', qclass', hbytes⟩ := buildDnsQuery_dot id qtype hpieces
      rw [hbytes, decode_query] at hdecode
      split at hdecode
      · cases hdecode
        cases hrest
      · cases hdecode
  · rintro ⟨hlabels, hlong⟩
    obtain ⟨labels, hpieces⟩ := exists_labels hlabels
    rw [← hpieces] at hlong hlabels
    have hdecode := decode_query longest id labels qtype 1 []
    rw [if_pos hlong, ← buildDnsQuery_eq hpieces.symm] at hdecode
    exact ⟨_, _, hdecode, ⟨hlabels, .inl hpieces.symm⟩, rfl, rfl, rfl⟩

/-- On labels, the encoder of `dns.rs` leaves nothing out. -/
lemma buildQuery_drop (h : ∀ label ∈ pieces name, IsLabel label) (id id' : UInt16) :
    (buildDnsQuery id name qtype).drop 2 = (Dns.buildQuery id' name qtype).drop 2 := by
  have hflat : (pieces name).flatMap (fun label => UInt8.ofNat label.length :: label)
      = (pieces name).flatMap fun label =>
        if label.isEmpty then [] else UInt8.ofNat label.length :: label := by
    refine List.flatMap_congr fun label hlabel => ?_
    rw [if_neg (by simpa using (h label hlabel).1)]
  simp only [buildDnsQuery, Dns.buildQuery, hflat, List.append_assoc]
  rw [List.drop_left' (DnsWire.length_be16 id), List.drop_left' (DnsWire.length_be16 id')]

/-- **What is sent asks for the name exactly when** each piece of the name between its dots is a
label, for every bound that a decoder may have on the length of a name. -/
theorem wellEncoded_iff (longest : ℕ) (name : String) : WellEncoded longest name
    ↔ (∀ label ∈ pieces name, IsLabel label) ∧ octets (pieces name) ≤ longest := by
  constructor
  · intro h
    have hsends : answered.Sends := ⟨rfl, rfl⟩
    exact asks_iff.mp (h.asks answered _ _ (congrArg Resolution.sent (dnsResolve_sends hsends name)))
  · intro h
    refine ⟨fun l server query hsent => ?_, fun _ id id' qtype => buildQuery_drop h.1 id id'⟩
    obtain ⟨-, -, rfl⟩ := eq_query_of_sent hsent
    exact asks_iff.mpr h

/-- A client can name the root, and the query for `a.` does not ask for `a`. -/
theorem dotted_malformed :
    (Client.readTarget Client.ATYP_DOMAIN ⟨[2, 97, 46, 0, 53], []⟩).1 = .ok (.domain "a.", 53)
      ∧ IsLabelsOf [[97]] "a." ∧ ∀ longest, ¬ WellEncoded longest "a." := by
  refine ⟨by rfl, ⟨by decide, .inr (by decide)⟩, fun longest h => ?_⟩
  have hsends : answered.Sends := ⟨rfl, rfl⟩
  have hasks := h.asks answered _ _ (congrArg Resolution.sent (dnsResolve_sends hsends "a."))
  exact absurd (asks_iff.mp hasks).1 (by decide)

end Aether.Socks
