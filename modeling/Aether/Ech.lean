import Aether.Dns

/-!
The ECH parameter of an HTTPS record (`parse_https_ech` in `dns.rs`), and the query for it.

The scan of the parameters ends with the record, but it begins behind a name that is skipped in
the whole message.

* `svcParams_turn`, `svcParams_cases`: a turn of the loop ends the scan or goes over a parameter.
* `parseHttpsEch_right`: no bytes make the functions panic, what is returned lies in the data of
  one answer of type 65, and for well-formed HTTPS records it is the right parameter.
-/

namespace Aether.Dns

open DnsWire (Name Label Record Message be16)
open Scan (add u16 range)

def RR_HTTPS : ℕ := 65
def SVCPARAM_ECH : ℕ := 5

/-! ### The code -/

/-- The loop of `parse_svcparams_ech`. -/
def svcParams (msg : Slice) (stop p : ℕ) : Scan Bytes := do
  let q ← add p 4
  if h : q.1 ≤ stop then
    let key ← u16 msg p
    let len ← u16 msg (p + 2)
    let next ← add q.1 len
    if stop < next.1 then .nothing
    else if key = SVCPARAM_ECH then
      let value ← range msg q.1 next.1
      return value.1
    else svcParams msg stop next.1
  else .nothing
termination_by stop - p
decreasing_by
  have _hq := q.2
  have _hnext := next.2
  omega

def parseSvcparamsEch (msg : Slice) (rdataStart rdlen : ℕ) : Scan Bytes := do
  let stop ← add rdataStart rdlen
  let target ← add rdataStart 2
  if stop.1 < target.1 then .nothing
  else
    let p ← skipName msg target.1
    svcParams msg stop.1 p

def parseHttpsEch (msg : Slice) : Scan Bytes :=
  firstAnswer (fun rtype pos rdlen =>
    if rtype = RR_HTTPS then parseSvcparamsEch msg pos rdlen else .nothing) msg

/-- `build_query`, with the random id. -/
def buildQuery (id : UInt16) (name : String) (qtype : UInt16) : Bytes :=
  be16 id ++ [0x01, 0x00] ++ [0x00, 0x01] ++ [0x00, 0x00, 0x00, 0x00, 0x00, 0x00]
    ++ (DnsWire.pieces name).flatMap (fun label =>
      if label.isEmpty then [] else UInt8.ofNat label.length :: label)
    ++ [0x00] ++ be16 qtype ++ [0x00, 0x01]

/-! ### HTTPS records -/

/-- A parameter of a service. -/
structure Param where
  key : UInt16
  value : Bytes
  value_lt : value.length < 2 ^ 16

namespace Param

def len (x : Param) : UInt16 := .ofNat x.value.length

lemma toNat_len (x : Param) : x.len.toNat = x.value.length := by
  rw [len, UInt16.toNat_ofNat']
  exact Nat.mod_eq_of_lt x.value_lt

def bytes (x : Param) : Bytes := be16 x.key ++ (be16 x.len ++ x.value)

lemma length_bytes (x : Param) : x.bytes.length = 4 + x.value.length := by
  simp [bytes]
  omega

/-- A parameter stands at a position when its key, its length and its value do. -/
lemma at_iff {x : Param} {buf : Bytes} {pos : ℕ} : At buf pos x.bytes ↔
    At buf pos (be16 x.key) ∧ At buf (pos + 2) (be16 x.len) ∧ At buf (pos + 4) x.value := by
  rw [bytes, At.append_iff, At.append_iff, DnsWire.length_be16, DnsWire.length_be16]

/-- The value, when the key is that of ECH. -/
def ech (x : Param) : Option Bytes := if x.key.toNat = SVCPARAM_ECH then some x.value else none

end Param

/-- The data of an HTTPS record: a priority, an uncompressed name, and parameters. -/
structure Service where
  priority : UInt16
  target : List (Label 63)
  params : List Param

namespace Service

def name (s : Service) : Name 63 := ⟨s.target, .root⟩

def bytes (s : Service) : Bytes :=
  be16 s.priority ++ (s.name.bytes ++ s.params.flatMap Param.bytes)

/-- The value of the first parameter whose key is that of ECH. -/
def ech (s : Service) : Option Bytes := s.params.findSome? Param.ech

end Service

/-! ### Parameters -/

variable {buf : Slice} {pos stop p : ℕ}

/-- No parameter has room. -/
lemma svcParams_short (hp : p ≤ buf.bytes.length + 1) (h : stop < p + 4) :
    svcParams buf stop p = .nothing := by
  have hfits := buf.fits
  rw [svcParams, Scan.add_bind (by omega)]
  exact dif_neg (Nat.not_le_of_lt h)

/-- One turn of the loop, over a parameter. -/
lemma svcParams_turn {x : Param} (h : At buf.bytes p x.bytes) (hle : p + x.bytes.length ≤ stop)
    (hstop : stop ≤ buf.bytes.length) :
    svcParams buf stop p = match x.ech with
      | some value => .found value
      | none => svcParams buf stop (p + x.bytes.length) := by
  have hfits := buf.fits
  obtain ⟨hkey, hlen, hvalue⟩ := Param.at_iff.mp h
  rw [x.length_bytes] at hle ⊢
  rw [svcParams, Scan.add_bind (by omega)]
  dsimp only
  rw [dif_pos (by omega), DnsWire.u16_be16 hkey, Scan.found_bind, DnsWire.u16_be16 hlen,
    Scan.found_bind, x.toNat_len, Scan.add_bind (by omega)]
  dsimp only
  rw [if_neg (by omega), Param.ech]
  split
  · rw [Scan.range_at hvalue rfl (by omega)]
    rfl
  · rw [Nat.add_assoc]

/-- A turn of the loop ends the scan, or goes over a parameter. -/
lemma svcParams_cases (hp : p ≤ buf.bytes.length + 1) (hstop : stop ≤ buf.bytes.length) :
    svcParams buf stop p = .nothing
      ∨ ∃ x : Param, At buf.bytes p x.bytes ∧ p + x.bytes.length ≤ stop := by
  have hfits := buf.fits
  by_cases hroom : p + 4 ≤ stop
  · obtain ⟨key, hkey⟩ := DnsWire.exists_be16 ((buf.bytes.drop p).take 2) (by simp; omega)
    obtain ⟨len, hlen⟩ := DnsWire.exists_be16
      ((buf.bytes.drop (p + 2)).take 2) (by simp; omega)
    have hkeyAt : At buf.bytes p (be16 key) := hkey ▸ At.take_drop _ _ _
    have hlenAt : At buf.bytes (p + 2) (be16 len) := hlen ▸ At.take_drop _ _ _
    by_cases hfit : p + 4 + len.toNat ≤ stop
    · have hvalue : ((buf.bytes.drop (p + 4)).take len.toNat).length = len.toNat := by
        rw [List.length_take, List.length_drop]
        omega
      have hlt := len.toNat_lt
      let x : Param := ⟨key, (buf.bytes.drop (p + 4)).take len.toNat, by omega⟩
      have hx : x.len = len := by rw [Param.len, hvalue, UInt16.ofNat_toNat]
      refine .inr ⟨x, Param.at_iff.mpr ⟨hkeyAt, hx ▸ hlenAt, At.take_drop _ _ _⟩, ?_⟩
      rw [x.length_bytes, hvalue]
      omega
    · left
      have hlt := len.toNat_lt
      rw [svcParams, Scan.add_bind (by omega)]
      dsimp only
      rw [dif_pos hroom, DnsWire.u16_be16 hkeyAt, Scan.found_bind, DnsWire.u16_be16 hlenAt,
        Scan.found_bind, Scan.add_bind (by omega)]
      exact if_pos (Nat.lt_of_not_le hfit)
  · exact .inl (svcParams_short hp (by omega))

/-- What the scan of parameters comes to: no panic, and a value that stands between the
position and the end. By induction on the room that is left. -/
lemma svcParams_spec (hp : p ≤ buf.bytes.length + 1) (hstop : stop ≤ buf.bytes.length) :
    (svcParams buf stop p).Safe ∧ ∀ value, svcParams buf stop p = .found value →
      ∃ q, p ≤ q ∧ q + value.length ≤ stop ∧ At buf.bytes q value := by
  induction hn : stop - p using Nat.strong_induction_on generalizing p with
  | _ n ih =>
    obtain hnothing | ⟨x, hx, hle⟩ := svcParams_cases hp hstop
    · rw [hnothing]
      refine ⟨Scan.safe_nothing, ?_⟩
      rintro value ⟨⟩
    · rw [svcParams_turn hx hle hstop]
      rw [x.length_bytes] at hle ⊢
      cases hech : x.ech with
      | some v =>
          refine ⟨Scan.safe_found v, ?_⟩
          rintro value ⟨⟩
          have hv : x.value = v := by
            rw [Param.ech] at hech
            split at hech
            · exact Option.some.inj hech
            · cases hech
          refine ⟨p + 4, by omega, hv ▸ by omega, hv ▸ (Param.at_iff.mp hx).2.2⟩
      | none =>
          obtain ⟨hsafe, hfound⟩ := ih (stop - (p + (4 + x.value.length))) (by omega)
            (by omega) rfl
          refine ⟨hsafe, fun value h => ?_⟩
          obtain ⟨q, hq, hend, hat⟩ := hfound value h
          exact ⟨q, by omega, hend, hat⟩

/-- On parameters, the scan finds the first that has the key. -/
lemma svcParams_params {xs : List Param} (h : At buf.bytes p (xs.flatMap Param.bytes))
    (hstop : stop = p + (xs.flatMap Param.bytes).length) (hle : stop ≤ buf.bytes.length) :
    svcParams buf stop p = .ofOption (xs.findSome? Param.ech) := by
  induction xs generalizing p with
  | nil => exact svcParams_short (by omega) (by rw [hstop]; simp)
  | cons x xs ih =>
      rw [List.flatMap_cons, List.length_append] at hstop
      rw [List.flatMap_cons] at h
      obtain ⟨hx, hxs⟩ := At.append_iff.mp h
      rw [svcParams_turn hx (by omega) hle, List.findSome?_cons]
      cases x.ech with
      | some value => rfl
      | none => exact ih hxs (by omega)

/-! ### Records -/

/-- What is looked for in a record comes to: no panic, and a value that stands in the data. -/
lemma parseSvcparamsEch_spec {rdlen : ℕ} (h : pos + rdlen ≤ buf.bytes.length) :
    (parseSvcparamsEch buf pos rdlen).Safe
      ∧ ∀ value, parseSvcparamsEch buf pos rdlen = .found value →
        ∃ q, pos ≤ q ∧ q + value.length ≤ pos + rdlen ∧ At buf.bytes q value := by
  have hfits := buf.fits
  rw [parseSvcparamsEch, Scan.add_bind (by omega), Scan.add_bind (by omega)]
  dsimp only
  split
  · refine ⟨Scan.safe_nothing, ?_⟩
    rintro value ⟨⟩
  · have hskip := skipName_spec buf (pos + 2)
    refine ⟨hskip.safe.bind fun p hp => (svcParams_spec (hskip.lt p hp).2 h).1, fun value hv => ?_⟩
    obtain ⟨p, hp, hv⟩ := Scan.bind_eq_found.mp hv
    have hlt := hskip.lt p hp
    obtain ⟨q, hq, hend, hat⟩ := (svcParams_spec hlt.2 h).2 value hv
    exact ⟨q, by omega, hend, hat⟩

/-- In the data of a service, the parameter is found that it has. -/
lemma parseSvcparamsEch_service {s : Service} (h : At buf.bytes pos s.bytes)
    (hle : pos + s.bytes.length ≤ buf.bytes.length) :
    parseSvcparamsEch buf pos s.bytes.length = .ofOption s.ech := by
  have hfits := buf.fits
  have hlength : s.bytes.length = 2 + s.name.bytes.length
      + (s.params.flatMap Param.bytes).length := by
    rw [Service.bytes, List.length_append, List.length_append, DnsWire.length_be16, Nat.add_assoc]
  rw [Service.bytes, At.append_iff, At.append_iff, DnsWire.length_be16] at h
  obtain ⟨-, hname, hparams⟩ := h
  rw [parseSvcparamsEch, Scan.add_bind (by omega), Scan.add_bind (by omega)]
  dsimp only
  rw [if_neg (by omega), skipName_name (by decide) hname, Scan.found_bind]
  exact svcParams_params hparams (by omega) hle

/-- Nothing is looked for in the records of another type. -/
lemma look_safe (rtype data rdlen : ℕ) (h : data + rdlen ≤ buf.bytes.length) :
    (if rtype = RR_HTTPS then parseSvcparamsEch buf data rdlen else .nothing).Safe := by
  split
  · exact (parseSvcparamsEch_spec h).1
  · exact Scan.safe_nothing

/-- **`parse_https_ech` extracts the ECH parameter and nothing else.** -/
theorem parseHttpsEch_right :
    (∀ msg, (parseHttpsEch msg).Safe)
      ∧ (∀ msg value, parseHttpsEch msg = .found value →
          ∃ (r : Record 191) (data : ℕ), IsAnswer msg.bytes r data ∧ r.rtype.toNat = RR_HTTPS
            ∧ value <:+: r.rdata)
      ∧ ∀ (m : Message 63) (service : Record 63 → Service) (msg : Slice), msg.bytes = m.bytes →
          (∀ r ∈ m.answers, r.rtype.toNat = RR_HTTPS → r.rdata = (service r).bytes) →
          parseHttpsEch msg = .ofOption (m.answers.findSome? fun r =>
              if r.rtype.toNat = RR_HTTPS then (service r).ech else none) := by
  refine ⟨fun msg => firstAnswer_safe look_safe, fun msg value h => ?_,
    fun m service msg h hservice => ?_⟩
  · obtain ⟨r, data, hanswer, hlook⟩ := firstAnswer_found h
    obtain ⟨hdata, hle⟩ := hanswer.at_rdata
    split at hlook
    · rename_i htype
      refine ⟨r, data, hanswer, htype, ?_⟩
      obtain ⟨q, hq, hend, hat⟩ := (parseSvcparamsEch_spec hle).2 value hlook
      exact hdata.isInfix hat hq hend
    · cases hlook
  · refine firstAnswer_message (by decide) h fun r hr data hdata hle => ?_
    split
    · rename_i htype
      rw [hservice r hr htype] at hdata hle ⊢
      exact parseSvcparamsEch_service hdata hle
    · rfl

/-- A service with a list of protocols and an ECH configuration. -/
def service : Service where
  priority := 1
  target := []
  params := [⟨1, [2, 104, 50], by decide⟩, ⟨5, [0, 4, 254, 13], by decide⟩]

/-- A response with an alias and a service. -/
def response : Message 63 where
  id := 7
  flags := 0x8180
  nscount := 0
  arcount := 0
  questions := [⟨⟨[⟨[97], by decide, by decide⟩], .root⟩, 65, 1⟩]
  answers := [⟨⟨[], .near 12⟩, 5, 1, [0, 0, 0, 9], rfl, [1, 98, 0], by decide⟩,
    ⟨⟨[], .near 31⟩, 65, 1, [0, 0, 0, 9], rfl, service.bytes, by decide⟩]
  trailing := []
  questions_lt := by decide
  answers_lt := by decide

theorem parseHttpsEch_response :
    parseHttpsEch ⟨response.bytes, by decide⟩ = .found [0, 4, 254, 13] :=
  parseHttpsEch_right.2.2 response (fun _ => service) ⟨response.bytes, by decide⟩ rfl
    (by simp [response, RR_HTTPS])

end Aether.Dns
