import Aether.Cps
import Aether.Wireguard.Tunnel

/-!
The decoy datagrams of `aethernoize.rs`, sent before and after a WireGuard handshake and with its
keepalives.

The functions return what they send, in order; the pauses in between are left out. All random
numbers and clocks are an input.

* `Decoy`: a datagram that does not begin as a WireGuard message.
* `decoy_bytesOf_iff`, `decoy_framed_iff`: the specifications all of whose packets are decoys, as
  they are and framed as IKE.
* `decoys_iff`: **all datagrams are decoys exactly for the configurations** without random junk
  whose specifications are of that kind. Keepalive junk is always a decoy.
-/

namespace Aether.Decoys

open Cps (Draw Tag bytesOf captures fillBytes worst)
open Fragment (genRange)
open Octets (beBytes)
open Wireguard (wgMsgTypeMin wgMsgTypeMax)

/-! ### Framing and junk -/

/-- `wrap_ikev2`. The lengths wrap around, as they do without overflow checks. -/
def wrapIkev2 (payload : Bytes) (initiator responder : ℕ → ℕ) : Bytes :=
  if payload = [] then payload
  else
    let initiatorSpi := if 8 ≤ payload.length then payload.take 8 else fillBytes 8 initiator
    let responderSpi := fillBytes 8 responder
    let totalLength := (28 + 24 + payload.length) % 2 ^ 32
    let saPayloadLength := (24 + payload.length) % 2 ^ 16
    initiatorSpi ++ responderSpi ++ [0x21, 0x20, 0x22, 0x08] ++ [0x00, 0x00, 0x00, 0x00]
      ++ beBytes 4 totalLength ++ [0x00, 0x00] ++ beBytes 2 saPayloadLength
      ++ [0x00, 0x00, 0x00, 0x14, 0x01, 0x01, 0x00, 0x04, 0x03, 0x00, 0x00, 0x08, 0x01, 0x00,
        0x00, 0x0c, 0x00, 0x00, 0x00, 0x00]
      ++ payload

/-- The random numbers of a junk datagram. -/
structure Dice where
  size : ℕ
  byte : ℕ → ℕ

/-- The sizes between which junk is drawn, `none` where there is no size to draw. -/
def sizes (cfg : AetherNoizeConfig) : Option (ℕ × ℕ) :=
  match cfg.jmin, cfg.jmax with
  | 0, 0 => none
  | jmin, 0 =>
      if !cfg.allowZeroSize then some (max jmin 1, max jmin 1) else some (jmin, max 0 jmin)
  | jmin, jmax =>
      if !cfg.allowZeroSize then some (max jmin 1, max jmax jmin) else some (jmin, max jmax jmin)

def generateJunk (cfg : AetherNoizeConfig) (d : Dice) : Bytes :=
  let zeroSize : Bytes := if cfg.allowZeroSize then [] else [0x00]
  match sizes cfg with
  | none => zeroSize
  | some (minSize, maxSize) =>
      let size := if maxSize = minSize then minSize else genRange minSize maxSize d.size
      if size = 0 then zeroSize else fillBytes size d.byte

/-- A loop that sends junk. -/
def junks (cfg : AetherNoizeConfig) (n : ℕ) (d : ℕ → Dice) : List Bytes :=
  (List.range n).map fun i => generateJunk cfg (d i)

/-! ### The senders -/

/-- The random numbers and clocks of `apply_obfuscation`, for the signature packets by their
index. -/
structure Draws where
  i1 : ℕ → Draw
  initiator : ℕ → ℕ
  responder : ℕ → ℕ
  afterI1 : ℕ → Dice
  beforeHs : ℕ → Dice
  sigs : ℕ → ℕ → Draw

/-- A packet that is sent unless it is empty. -/
def unlessEmpty (pkt : Bytes) : List Bytes := if pkt = [] then [] else [pkt]

def framedI1 (cfg : AetherNoizeConfig) (d : Draws) : List Bytes :=
  match cfg.i1 with
  | some i1 =>
      let payload := Cps.parseCps i1 d.i1
      if payload = [] then [] else [wrapIkev2 payload d.initiator d.responder]
  | none => []

/-- The specifications that are sent as they are. -/
def sigs (cfg : AetherNoizeConfig) : List (Option String) := [cfg.i2, cfg.i3, cfg.i4, cfg.i5]

def signatures : List (Option String) → (ℕ → ℕ → Draw) → List Bytes
  | [], _ => []
  | some s :: more, d => unlessEmpty (Cps.parseCps s (d 0)) ++ signatures more fun i => d (i + 1)
  | none :: more, d => signatures more fun i => d (i + 1)

def applyObfuscation (cfg : AetherNoizeConfig) (d : Draws) : List Bytes :=
  if !cfg.isEnabled then []
  else
    framedI1 cfg d ++ junks cfg cfg.jcAfterI1 d.afterI1 ++ junks cfg cfg.jcBeforeHs d.beforeHs
      ++ signatures (sigs cfg) d.sigs

def sendPostHandshakeJunk (cfg : AetherNoizeConfig) (d : ℕ → Dice) : List Bytes :=
  junks cfg cfg.jcAfterHs d

/-- The first byte of keepalive junk is moved out of the way. -/
def mask : Bytes → Bytes
  | [] => []
  | first :: rest =>
      if wgMsgTypeMin ≤ first ∧ first ≤ wgMsgTypeMax then (first + 0x40) :: rest else first :: rest

def sendKeepaliveJunk (cfg : AetherNoizeConfig) (extra : ℕ) (d : ℕ → Dice) : List Bytes :=
  if !cfg.isEnabled then []
  else
    let base := max cfg.jcBeforeHs 1
    (junks cfg (base + genRange 0 base extra) d).map mask

/-! ### Decoys -/

/-- A datagram whose first byte, if it has one, is no message type of WireGuard. -/
def Decoy (pkt : Bytes) : Prop :=
  ∀ first ∈ pkt.head?, ¬ (wgMsgTypeMin ≤ first ∧ first ≤ wgMsgTypeMax)

instance (pkt : Bytes) : Decidable (Decoy pkt) :=
  match pkt with
  | [] => isTrue (by simp [Decoy])
  | b :: rest =>
      if h : wgMsgTypeMin ≤ b ∧ b ≤ wgMsgTypeMax then isFalse fun hd => hd b rfl h
      else isTrue fun _ hfirst => Option.some.inj hfirst ▸ h

lemma decoy_nil : Decoy [] := by
  rintro first ⟨⟩

lemma decoy_cons {b : UInt8} {rest : Bytes} :
    Decoy (b :: rest) ↔ ¬ (wgMsgTypeMin ≤ b ∧ b ≤ wgMsgTypeMax) :=
  ⟨fun h => h b rfl, fun h _ hfirst => Option.some.inj hfirst ▸ h⟩

lemma decoy_append {a : Bytes} (ha : a ≠ []) (b : Bytes) : Decoy (a ++ b) ↔ Decoy a := by
  cases a with
  | nil => exact absurd rfl ha
  | cons x a => rw [List.cons_append, decoy_cons, decoy_cons]

lemma decoy_of_mem {chars pkt : Bytes}
    (hchars : ∀ b ∈ chars, ¬ (wgMsgTypeMin ≤ b ∧ b ≤ wgMsgTypeMax)) (h : ∀ b ∈ pkt, b ∈ chars) :
    Decoy pkt := by
  cases pkt with
  | nil => exact decoy_nil
  | cons b rest => exact decoy_cons.mpr (hchars b (h b (List.mem_cons_self ..)))

lemma type_iff (b : UInt8) :
    (wgMsgTypeMin ≤ b ∧ b ≤ wgMsgTypeMax) ↔ 1 ≤ b.toNat ∧ b.toNat ≤ 4 := by
  rw [UInt8.le_iff_toNat_le, UInt8.le_iff_toNat_le]
  rfl

lemma mask_decoy (pkt : Bytes) : Decoy (mask pkt) := by
  cases pkt with
  | nil => exact decoy_nil
  | cons b rest =>
      rw [mask]
      split
      · rename_i h
        rw [decoy_cons, type_iff, UInt8.toNat_add]
        rw [type_iff] at h
        show ¬ (1 ≤ (b.toNat + 64) % 256 ∧ (b.toNat + 64) % 256 ≤ 4)
        omega
      · rename_i h
        exact decoy_cons.mpr h

/-! ### Specifications -/

/-- The bytes that a tag yields begin as a decoy, whatever is drawn. -/
def SafeTag (t : Tag) : Prop :=
  t.name = "rc" ∨ t.name = "rd" ∨ (t.name = "b" ∧ Decoy (Cps.hexBytes t.data))

/-- The first of the tags that yields anything begins as a decoy, if there is one. -/
def SafeLead (ts : List Tag) : Prop := ∀ t ∈ ts.find? (0 < ·.least), SafeTag t

lemma safeLead_cons (t : Tag) (ts : List Tag) :
    SafeLead (t :: ts) ↔ if t.least = 0 then SafeLead ts else SafeTag t := by
  rw [SafeLead]
  split
  · rename_i h
    rw [List.find?_cons_of_neg (by simp [h])]
    rfl
  · rename_i h
    rw [List.find?_cons_of_pos (by simp; omega)]
    simp

lemma SafeTag.decoy {t : Tag} (h : SafeTag t) (d : Draw) : Decoy (t.bytes d) := by
  rcases h with hname | hname | ⟨hname, hdata⟩ <;> rw [Tag.bytes, hname]
  · have hletters : ∀ b ∈ Cps.letters, ¬ (wgMsgTypeMin ≤ b ∧ b ≤ wgMsgTypeMax) := by
      decide +kernel
    exact decoy_of_mem hletters fun b => Cps.mem_of_mem_pick (by decide)
  · have hdigits : ∀ b ∈ Cps.digits, ¬ (wgMsgTypeMin ≤ b ∧ b ≤ wgMsgTypeMax) := by
      decide +kernel
    exact decoy_of_mem hdigits fun b => Cps.mem_of_mem_pick (by decide)
  · exact hdata

lemma fillBytes_not_decoy {n : ℕ} (hn : n ≠ 0) {byte : ℕ → ℕ} (hbyte : byte 0 = 1) :
    ¬ Decoy (fillBytes n byte) := by
  obtain ⟨n, rfl⟩ := Nat.exists_eq_succ_of_ne_zero hn
  rw [fillBytes, List.range_succ_eq_map, List.map_cons, decoy_cons, hbyte]
  decide

/-- Other tags may yield what begins as a WireGuard message. -/
lemma not_decoy_worst {t : Tag} (hpos : t.least ≠ 0) (h : ¬ SafeTag t) :
    ¬ Decoy (t.bytes worst) := by
  rw [SafeTag, not_or, not_or, not_and] at h
  obtain ⟨hrc, hrd, hb⟩ := h
  rw [Tag.least] at hpos
  rw [Tag.bytes]
  split
  case h_1 hname => exact hb hname
  case h_2 | h_3 => decide
  case h_4 hname =>
    rw [hname] at hpos
    exact fillBytes_not_decoy hpos rfl
  case h_5 hname => exact absurd hname hrc
  case h_6 hname => exact absurd hname hrd
  case h_7 hb ht hc hr hrc hrd =>
    refine absurd ?_ hpos
    split
    case h_1 hname => exact absurd hname hb
    case h_2 hname => exact absurd hname ht
    case h_3 hname => exact absurd hname hc
    case h_4 hname => exact absurd hname hr
    case h_5 hname => exact absurd hname hrc
    case h_6 hname => exact absurd hname hrd
    case h_7 => rfl

/-- What yields nothing is skipped. -/
lemma decoy_bytesOf_cons (t : Tag) (ts : List Tag) (d : ℕ → Draw) : Decoy (bytesOf (t :: ts) d)
    ↔ if t.least = 0 then Decoy (bytesOf ts fun i => d (i + 1)) else Decoy (t.bytes (d 0)) := by
  rw [bytesOf]
  split
  · rename_i h
    rw [(t.bytes_eq_nil_iff (d 0)).mpr h, List.nil_append]
  · rename_i h
    exact decoy_append (fun hnil => h ((t.bytes_eq_nil_iff (d 0)).mp hnil)) _

lemma SafeLead.decoy {ts : List Tag} (h : SafeLead ts) (d : ℕ → Draw) : Decoy (bytesOf ts d) := by
  induction ts generalizing d with
  | nil => exact decoy_nil
  | cons t ts ih =>
      rw [safeLead_cons] at h
      rw [decoy_bytesOf_cons]
      split at h
      · rename_i hzero
        rw [if_pos hzero]
        exact ih h _
      · rename_i hpos
        rw [if_neg hpos]
        exact h.decoy _

lemma not_decoy_bytesOf {ts : List Tag} (h : ¬ SafeLead ts) :
    ¬ Decoy (bytesOf ts fun _ => worst) := by
  induction ts with
  | nil => exact absurd (by rintro t ⟨⟩) h
  | cons t ts ih =>
      rw [safeLead_cons] at h
      rw [decoy_bytesOf_cons]
      split at h
      · rename_i hzero
        rw [if_pos hzero]
        exact ih h
      · rename_i hpos
        rw [if_neg hpos]
        exact not_decoy_worst hpos h

/-- **The packets of a specification are decoys** exactly if its first bytes are fixed and no
message type, or letters or digits. -/
lemma decoy_bytesOf_iff (ts : List Tag) : (∀ d, Decoy (bytesOf ts d)) ↔ SafeLead ts := by
  refine ⟨fun h => ?_, SafeLead.decoy⟩
  by_contra hno
  exact not_decoy_bytesOf hno (h _)

/-- What is framed begins as a decoy: its first eight bytes are the payload's, and not random. -/
def SafeFramed (ts : List Tag) : Prop := Cps.least ts = 0 ∨ (8 ≤ Cps.least ts ∧ SafeLead ts)

lemma decoy_wrapIkev2_long {payload : Bytes} (h : 8 ≤ payload.length)
    (initiator responder : ℕ → ℕ) :
    Decoy (wrapIkev2 payload initiator responder) ↔ Decoy payload := by
  cases payload with
  | nil => exact absurd h (by decide)
  | cons b rest =>
      rw [wrapIkev2, if_neg (List.cons_ne_nil b rest), if_pos h, List.take_succ_cons]
      simp only [List.cons_append, decoy_cons]

lemma decoy_wrapIkev2_short {payload : Bytes} (hne : payload ≠ []) (h : payload.length < 8)
    (initiator responder : ℕ → ℕ) :
    Decoy (wrapIkev2 payload initiator responder) ↔ Decoy (fillBytes 8 initiator) := by
  rw [wrapIkev2, if_neg hne, if_neg (Nat.not_le.mpr h)]
  simp only [List.append_assoc]
  refine decoy_append ?_ _
  rw [← List.length_pos_iff, Cps.length_fillBytes]
  decide

/-- **The framed packets of a specification are decoys** exactly if there are none, or its packets
are and have at least eight bytes. -/
lemma decoy_framed_iff (ts : List Tag) :
    (∀ d initiator responder, Decoy (wrapIkev2 (bytesOf ts d) initiator responder))
      ↔ SafeFramed ts := by
  constructor
  · intro h
    by_contra hno
    rw [SafeFramed, not_or, not_and] at hno
    obtain ⟨hpos, hlead⟩ := hno
    have hlen := Cps.length_bytesOf_worst ts
    have hworst := h (fun _ => worst) (fun _ => 1) (fun _ => 0)
    by_cases hlong : 8 ≤ Cps.least ts
    · rw [decoy_wrapIkev2_long (by omega)] at hworst
      exact not_decoy_bytesOf (hlead hlong) hworst
    · have hne : bytesOf ts (fun _ => worst) ≠ [] := fun hnil =>
        hpos ((Cps.bytesOf_eq_nil_iff ts _).mp hnil)
      rw [decoy_wrapIkev2_short hne (by omega)] at hworst
      exact fillBytes_not_decoy (by decide) rfl hworst
  · rintro (hzero | ⟨hlong, hlead⟩) d initiator responder
    · rw [(Cps.bytesOf_eq_nil_iff ts d).mpr hzero]
      exact decoy_nil
    · have hle := Cps.least_le ts d
      rw [decoy_wrapIkev2_long (by omega)]
      exact hlead.decoy d

/-! ### Junk -/

/-- The configuration has no sizes for its junk. -/
def NoSizes (cfg : AetherNoizeConfig) : Prop := cfg.jmin = 0 ∧ cfg.jmax = 0

lemma sizes_eq_none_iff (cfg : AetherNoizeConfig) : sizes cfg = none ↔ NoSizes cfg := by
  rw [sizes, NoSizes]
  split
  case h_1 hmin hmax => exact iff_of_true rfl ⟨hmin, hmax⟩
  case h_2 jmin hmin _ hne =>
    refine iff_of_false ?_ fun h => hne h.1
    split <;> exact Option.some_ne_none _
  case h_3 jmin jmax hmax _ =>
    refine iff_of_false ?_ fun h => hmax h.2
    split <;> exact Option.some_ne_none _

/-- A size that is drawn may be positive. -/
lemma sizes_pos {cfg : AetherNoizeConfig} {minSize maxSize : ℕ}
    (h : sizes cfg = some (minSize, maxSize)) : 0 < maxSize ∧ minSize ≤ maxSize := by
  have hsome : ¬ NoSizes cfg := by
    rw [← sizes_eq_none_iff, h]
    exact Option.some_ne_none _
  rw [NoSizes] at hsome
  rw [sizes] at h
  split at h
  case h_1 => cases h
  case h_2 | h_3 =>
    split at h <;> cases h <;> omega

/-- Without sizes, a zero byte or nothing is sent. -/
lemma NoSizes.decoy {cfg : AetherNoizeConfig} (h : NoSizes cfg) (d : Dice) :
    Decoy (generateJunk cfg d) := by
  rw [generateJunk, (sizes_eq_none_iff cfg).mpr h]
  dsimp only
  split
  · exact decoy_nil
  · exact decoy_cons.mpr (by decide)

/-- The longest junk, with ones for its bytes. -/
def longest (cfg : AetherNoizeConfig) : Dice :=
  ⟨((sizes cfg).map fun s => s.2 - s.1).getD 0, fun _ => 1⟩

/-- Random junk may begin as a WireGuard message. -/
lemma not_decoy_longest {cfg : AetherNoizeConfig} (h : ¬ NoSizes cfg) :
    ¬ Decoy (generateJunk cfg (longest cfg)) := by
  rw [← sizes_eq_none_iff] at h
  obtain ⟨⟨minSize, maxSize⟩, hsizes⟩ := Option.ne_none_iff_exists'.mp h
  obtain ⟨hpos, hle⟩ := sizes_pos hsizes
  have hsize : (if maxSize = minSize then minSize
      else genRange minSize maxSize (longest cfg).size) = maxSize := by
    split
    · rename_i heq
      exact heq.symm
    · rw [longest, hsizes]
      show minSize + (maxSize - minSize) % (maxSize - minSize + 1) = maxSize
      rw [Nat.mod_eq_of_lt (by omega)]
      omega
  rw [generateJunk, hsizes]
  simp only [hsize]
  rw [if_neg (by omega)]
  exact fillBytes_not_decoy (by omega) rfl

lemma mem_junks {cfg : AetherNoizeConfig} {n : ℕ} {d : ℕ → Dice} {pkt : Bytes} :
    pkt ∈ junks cfg n d ↔ ∃ i < n, generateJunk cfg (d i) = pkt := by
  simp only [junks, List.mem_map, List.mem_range]

/-- A loop of junk sends only decoys exactly if it sends nothing, or no junk has a size. -/
lemma decoy_junks_iff (cfg : AetherNoizeConfig) (n : ℕ) :
    (∀ d, ∀ pkt ∈ junks cfg n d, Decoy pkt) ↔ n = 0 ∨ NoSizes cfg := by
  constructor
  · intro h
    by_contra hno
    rw [not_or] at hno
    have hmem : generateJunk cfg (longest cfg) ∈ junks cfg n fun _ => longest cfg :=
      mem_junks.mpr ⟨0, by omega, rfl⟩
    exact not_decoy_longest hno.2 (h _ _ hmem)
  · rintro (rfl | hsizes) d pkt hpkt
    · cases hpkt
    · obtain ⟨i, -, rfl⟩ := mem_junks.mp hpkt
      exact hsizes.decoy (d i)

/-! ### All datagrams -/

/-- The configurations all of whose datagrams are decoys: no junk with a size is sent, and the
specifications yield decoys, the first one framed. -/
structure Disguised (cfg : AetherNoizeConfig) : Prop where
  junk : cfg.isEnabled = true → (cfg.jcAfterI1 = 0 ∧ cfg.jcBeforeHs = 0) ∨ NoSizes cfg
  afterHs : cfg.jcAfterHs = 0 ∨ NoSizes cfg
  i1 : ∀ spec, cfg.i1 = some spec → SafeFramed (captures spec)
  sigs : cfg.isEnabled = true → ∀ spec, some spec ∈ sigs cfg → SafeLead (captures spec)

lemma decoy_unlessEmpty (pkt : Bytes) :
    (∀ p ∈ unlessEmpty pkt, Decoy p) ↔ Decoy pkt := by
  rw [unlessEmpty]
  split
  · rename_i h
    rw [h]
    exact iff_of_true (by simp) decoy_nil
  · exact List.forall_mem_singleton

lemma decoy_signatures_iff (specs : List (Option String)) :
    (∀ d, ∀ pkt ∈ signatures specs d, Decoy pkt)
      ↔ ∀ spec, some spec ∈ specs → SafeLead (captures spec) := by
  induction specs with
  | nil => simp [signatures]
  | cons o specs ih =>
      cases o with
      | none =>
          simp only [signatures, List.mem_cons, reduceCtorEq, false_or, ← ih]
          exact ⟨fun h d => h fun i => d (i - 1), fun h d => h _⟩
      | some s =>
          have hcons : (∀ spec, some spec ∈ some s :: specs → SafeLead (captures spec))
              ↔ SafeLead (captures s) ∧ ∀ spec, some spec ∈ specs → SafeLead (captures spec) := by
            simp [or_imp, forall_and]
          rw [hcons, ← ih, ← decoy_bytesOf_iff]
          constructor
          · intro h
            refine ⟨fun d => ?_, fun d pkt hpkt => ?_⟩
            · refine (decoy_unlessEmpty _).mp fun pkt hpkt => ?_
              exact h (fun _ => d) pkt (List.mem_append_left _ hpkt)
            · exact h (fun i => d (i - 1)) pkt (List.mem_append_right _ hpkt)
          · rintro ⟨hs, hmore⟩ d pkt hpkt
            rcases List.mem_append.mp hpkt with hpkt | hpkt
            · exact (decoy_unlessEmpty _).mpr (hs _) pkt hpkt
            · exact hmore _ pkt hpkt

lemma decoy_framedI1_iff (cfg : AetherNoizeConfig) :
    (∀ d, ∀ pkt ∈ framedI1 cfg d, Decoy pkt)
      ↔ ∀ spec, cfg.i1 = some spec → SafeFramed (captures spec) := by
  cases hspec : cfg.i1 with
  | none => simp [framedI1, hspec]
  | some spec =>
      simp only [Option.some.injEq, forall_eq', ← decoy_framed_iff]
      constructor
      · intro h d initiator responder
        have hall := h ⟨d, initiator, responder, fun _ => ⟨0, fun _ => 0⟩, fun _ => ⟨0, fun _ => 0⟩,
          fun _ => d⟩
        rw [framedI1, hspec] at hall
        dsimp only at hall
        split at hall
        · rename_i hnil
          rw [← Cps.parseCps, hnil]
          exact decoy_nil
        · exact hall _ (List.mem_singleton_self _)
      · intro h d pkt hpkt
        rw [framedI1, hspec] at hpkt
        dsimp only at hpkt
        split at hpkt
        · cases hpkt
        · rw [List.mem_singleton.mp hpkt]
          exact h _ _ _

/-- What `apply_obfuscation` sends, in four parts. -/
lemma forall_mem_applyObfuscation (cfg : AetherNoizeConfig) (d : Draws) :
    (∀ pkt ∈ applyObfuscation cfg d, Decoy pkt) ↔ (cfg.isEnabled = true →
      (∀ pkt ∈ framedI1 cfg d, Decoy pkt) ∧ (∀ pkt ∈ junks cfg cfg.jcAfterI1 d.afterI1, Decoy pkt)
        ∧ (∀ pkt ∈ junks cfg cfg.jcBeforeHs d.beforeHs, Decoy pkt)
        ∧ ∀ pkt ∈ signatures (sigs cfg) d.sigs, Decoy pkt) := by
  rw [applyObfuscation]
  cases cfg.isEnabled with
  | false => simp
  | true => simp only [Bool.not_true, Bool.false_eq_true, if_false, List.forall_mem_append,
      true_implies, and_assoc]

/-- All datagrams of a configuration are decoys, whatever is drawn. -/
structure AllDecoys (cfg : AetherNoizeConfig) : Prop where
  apply : ∀ d, ∀ pkt ∈ applyObfuscation cfg d, Decoy pkt
  postHandshake : ∀ d, ∀ pkt ∈ sendPostHandshakeJunk cfg d, Decoy pkt
  keepalive : ∀ extra d, ∀ pkt ∈ sendKeepaliveJunk cfg extra d, Decoy pkt

lemma keepalive_decoy (cfg : AetherNoizeConfig) (extra : ℕ) (d : ℕ → Dice) :
    ∀ pkt ∈ sendKeepaliveJunk cfg extra d, Decoy pkt := by
  intro pkt hpkt
  rw [sendKeepaliveJunk] at hpkt
  split at hpkt
  · cases hpkt
  · obtain ⟨junk, -, rfl⟩ := List.mem_map.mp hpkt
    exact mask_decoy junk

lemma isEnabled_of_i1 {cfg : AetherNoizeConfig} {spec : String} (h : cfg.i1 = some spec) :
    cfg.isEnabled = true := by
  rw [AetherNoizeConfig.isEnabled, h]
  exact Bool.or_true _

/-- Draws that are the same for all loops. -/
def Draws.of (i1 : ℕ → Draw) (initiator responder : ℕ → ℕ) (junk : ℕ → Dice)
    (sigs : ℕ → ℕ → Draw) : Draws := ⟨i1, initiator, responder, junk, junk, sigs⟩

/-- **All datagrams are decoys exactly for the disguised configurations**, over all that can be
drawn. -/
theorem decoys_iff (cfg : AetherNoizeConfig) : AllDecoys cfg ↔ Disguised cfg := by
  constructor
  · rintro ⟨happly, hpost, -⟩
    have hparts := fun d => (forall_mem_applyObfuscation cfg d).mp (happly d)
    refine ⟨fun henabled => ?_, (decoy_junks_iff cfg _).mp hpost, fun spec hspec => ?_, ?_⟩
    · have hafter := (decoy_junks_iff cfg cfg.jcAfterI1).mp fun d =>
        (hparts (.of (fun _ => worst) (fun _ => 0) (fun _ => 0) d fun _ _ => worst) henabled).2.1
      have hbefore := (decoy_junks_iff cfg cfg.jcBeforeHs).mp fun d =>
        (hparts (.of (fun _ => worst) (fun _ => 0) (fun _ => 0) d fun _ _ => worst) henabled).2.2.1
      rcases hafter with hzero | hsizes
      · exact hbefore.imp_left fun hzero' => ⟨hzero, hzero'⟩
      · exact .inr hsizes
    · refine (decoy_framedI1_iff cfg).mp (fun d => ?_) spec hspec
      exact (hparts d (isEnabled_of_i1 hspec)).1
    · intro henabled
      refine (decoy_signatures_iff _).mp fun d => ?_
      exact (hparts (.of (fun _ => worst) (fun _ => 0) (fun _ => 0) (fun _ => longest cfg) d)
        henabled).2.2.2
  · intro h
    refine ⟨fun d => ?_, (decoy_junks_iff cfg _).mpr h.afterHs, keepalive_decoy cfg⟩
    refine (forall_mem_applyObfuscation cfg d).mpr fun henabled => ⟨?_, ?_, ?_, ?_⟩
    · exact (decoy_framedI1_iff cfg).mpr h.i1 d
    · exact (decoy_junks_iff cfg _).mpr ((h.junk henabled).imp_left And.left) _
    · exact (decoy_junks_iff cfg _).mpr ((h.junk henabled).imp_left And.right) _
    · exact (decoy_signatures_iff _).mpr (h.sigs henabled) _

/-- The light profile sends junk that begins as a handshake initiation. -/
theorem light_not_decoys : ¬ AllDecoys .light := by
  intro h
  have hmem : generateJunk .light (longest .light) ∈ sendPostHandshakeJunk .light
      fun _ => longest .light := mem_junks.mpr ⟨0, by decide, rfl⟩
  refine not_decoy_longest ?_ (h.postHandshake _ _ hmem)
  rintro ⟨hmin, -⟩
  cases hmin

end Aether.Decoys
