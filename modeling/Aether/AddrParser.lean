import Aether.Net
import Mathlib.Algebra.Group.Nat.Defs
import Mathlib.Data.List.TakeWhile
import Mathlib.Tactic.Common

/-!
`SocketAddr::from_str` of the standard library.

The parser reads bytes. A byte of a scalar that is not ASCII is nothing it takes, so it is
given the scalars of the string here.

* `Reads`: what a parser takes from the front is made of plain characters, ASCII and no
  carriage return; `readNumber_reads` up to `readSocketAddr_reads` say so of each of them.
* `parse_eq_some`: an address that parses ends with a colon and the digits of its port.
-/

namespace Aether

namespace AddrParser

/-- `char::to_digit`. -/
def toDigit (radix : ℕ) (c : Char) : Option ℕ :=
  let digit :=
    if '0' ≤ c ∧ c ≤ '9' then some (c.toNat - 48)
    else if 'a' ≤ c ∧ c ≤ 'f' then some (c.toNat - 87)
    else if 'A' ≤ c ∧ c ≤ 'F' then some (c.toNat - 55)
    else none
  digit.filter (· < radix)

/-- The digits at the front. -/
def digitsOf (radix : ℕ) (l : List Char) : List Char :=
  l.takeWhile fun c => (toDigit radix c).isSome

/-- The number that digits write. -/
def valueOf (radix : ℕ) (ds : List Char) : ℕ :=
  ds.foldl (fun n c => n * radix + (toDigit radix c).getD 0) 0

def readGivenChar (target : Char) : List Char → Option (List Char)
  | [] => none
  | c :: l => if c = target then some l else none

/-- `read_number` for a type of so many values. The checks of the arithmetic fail where the
value gets too large, and it only grows. -/
def readNumber (radix : ℕ) (maxDigits : Option ℕ) (allowZeroPrefix : Bool) (values : ℕ)
    (l : List Char) : Option (ℕ × List Char) :=
  let ds := digitsOf radix l
  if maxDigits.any (· < ds.length) || ds.isEmpty
      || (!allowZeroPrefix && l.head? = some '0' && 1 < ds.length) || values ≤ valueOf radix ds then
    none
  else some (valueOf radix ds, l.drop ds.length)

/-- `read_separator`: a separator in front of all but the first. -/
def readSeparator {β : Type} (sep : Char) (index : ℕ) (inner : List Char → Option (β × List Char))
    (l : List Char) : Option (β × List Char) :=
  if 0 < index then (readGivenChar sep l).bind inner else inner l

def readOctet (index : ℕ) (l : List Char) : Option (ℕ × List Char) :=
  readSeparator '.' index (readNumber 10 (some 3) false 256) l

/-- `read_ipv4_addr`: four octets with dots between them. -/
def readIpv4Addr (l : List Char) : Option (Ipv4Addr × List Char) := do
  let (one, l) ← readOctet 0 l
  let (two, l) ← readOctet 1 l
  let (three, l) ← readOctet 2 l
  let (four, l) ← readOctet 3 l
  return (⟨[one.toUInt8, two.toUInt8, three.toUInt8, four.toUInt8], rfl⟩, l)

/-- Two octets as a group. -/
def beGroup (high low : UInt8) : ℕ := high.toNat * 256 + low.toNat

/-- `read_groups` from the group with this index on, with so many left; the flag says that
an IPv4 address ended them. -/
def readGroups : ℕ → ℕ → List Char → List ℕ × Bool × List Char
  | 0, _, l => ([], false, l)
  | left + 1, index, l =>
      -- an IPv4 address takes two groups
      match if 0 < left then readSeparator ':' index readIpv4Addr l else none with
      | some (ip, l) =>
          ([beGroup (ip.octets.getD 0 0) (ip.octets.getD 1 0),
            beGroup (ip.octets.getD 2 0) (ip.octets.getD 3 0)], true, l)
      | none =>
          match readSeparator ':' index (readNumber 16 (some 4) true 65536) l with
          | some (group, l) =>
              let (groups, ipv4, l) := readGroups left (index + 1) l
              (group :: groups, ipv4, l)
          | none => ([], false, l)

/-- The address of eight groups. -/
def ofGroups (groups : List ℕ) : Ipv6Addr where
  octets := (List.range 8).flatMap fun i =>
    [(groups.getD i 0 / 256).toUInt8, (groups.getD i 0 % 256).toUInt8]
  len := rfl

def readIpv6Addr (l : List Char) : Option (Ipv6Addr × List Char) :=
  let (head, headIpv4, l) := readGroups 8 0 l
  if head.length = 8 then some (ofGroups head, l)
  else if headIpv4 then none
  else do
    let l ← readGivenChar ':' l
    let l ← readGivenChar ':' l
    let (tail, _, l) := readGroups (8 - (head.length + 1)) 0 l
    return (ofGroups (head ++ List.replicate (8 - head.length - tail.length) 0 ++ tail), l)

/-- `read_ip_addr`. -/
def readIpAddr (l : List Char) : Option (IpAddr × List Char) :=
  match readIpv4Addr l with
  | some (ip, rest) => some (.v4 ip, rest)
  | none => (readIpv6Addr l).map fun (ip, rest) => (.v6 ip, rest)

/-- `read_port`: a colon and a number of sixteen bits. -/
def readPort (l : List Char) : Option (ℕ × List Char) :=
  (readGivenChar ':' l).bind (readNumber 10 none true 65536)

/-- `read_scope_id`: a percent sign and a number of 32 bits. -/
def readScopeId (l : List Char) : Option (ℕ × List Char) :=
  (readGivenChar '%' l).bind (readNumber 10 none true (2 ^ 32))

def readSocketAddrV4 (l : List Char) : Option (SocketAddr × List Char) := do
  let (ip, l) ← readIpv4Addr l
  let (port, l) ← readPort l
  return (⟨.v4 ip, port⟩, l)

/-- `read_socket_addr_v6`; the scope is read and not kept. -/
def readSocketAddrV6 (l : List Char) : Option (SocketAddr × List Char) := do
  let l ← readGivenChar '[' l
  let (ip, l) ← readIpv6Addr l
  let l := ((readScopeId l).map Prod.snd).getD l
  let l ← readGivenChar ']' l
  let (port, l) ← readPort l
  return (⟨.v6 ip, port⟩, l)

/-- `read_socket_addr`. -/
def readSocketAddr (l : List Char) : Option (SocketAddr × List Char) :=
  (readSocketAddrV4 l).orElse fun _ => readSocketAddrV6 l

/-! ### What is taken from the front -/

/-- An ASCII character other than a carriage return. -/
def Plain (c : Char) : Prop := c.toNat < 128 ∧ c ≠ '\r'

instance (c : Char) : Decidable (Plain c) := inferInstanceAs (Decidable (_ ∧ _))

/-- The rest is left when plain characters are taken from the front. -/
def Takes (l rest : List Char) : Prop := ∃ used, l = used ++ rest ∧ ∀ c ∈ used, Plain c

lemma Takes.refl (l : List Char) : Takes l l := ⟨[], rfl, fun _ h => absurd h List.not_mem_nil⟩

lemma Takes.trans {l m r : List Char} (h : Takes l m) (g : Takes m r) : Takes l r := by
  obtain ⟨a, rfl, ha⟩ := h
  obtain ⟨b, rfl, hb⟩ := g
  refine ⟨a ++ b, (List.append_assoc a b r).symm, ?_⟩
  intro c hc
  exact (List.mem_append.mp hc).elim (ha c) (hb c)

/-- The parser takes plain characters only. -/
def Reads {β : Type} (p : List Char → Option (β × List Char)) : Prop :=
  ∀ l r rest, p l = some (r, rest) → Takes l rest

lemma plain_of_toNat {c : Char} (hlow : 32 ≤ c.toNat) (hhigh : c.toNat < 128) : Plain c := by
  refine ⟨hhigh, ?_⟩
  rintro rfl
  exact absurd hlow (by decide)

lemma char_le_iff {a b : Char} : a ≤ b ↔ a.toNat ≤ b.toNat := Iff.rfl

/-- A digit is a plain character. -/
lemma plain_of_toDigit {radix : ℕ} {c : Char} (h : (toDigit radix c).isSome = true) : Plain c := by
  rw [toDigit] at h
  simp only [char_le_iff] at h
  split_ifs at h with h₀ h₁ h₂
  · exact plain_of_toNat (Nat.le_trans (by decide) h₀.1) (Nat.lt_of_le_of_lt h₀.2 (by decide))
  · exact plain_of_toNat (Nat.le_trans (by decide) h₁.1) (Nat.lt_of_le_of_lt h₁.2 (by decide))
  · exact plain_of_toNat (Nat.le_trans (by decide) h₂.1) (Nat.lt_of_le_of_lt h₂.2 (by decide))
  · cases h

/-- A decimal digit and its value. -/
lemma toDigit_ten {c : Char} (h : (toDigit 10 c).isSome = true) :
    c.isDigit = true ∧ toDigit 10 c = some (c.toNat - 48) := by
  rw [toDigit] at h ⊢
  simp only [char_le_iff] at h ⊢
  split_ifs at h ⊢ with h₀ h₁ h₂
  · have hlow : 48 ≤ c.toNat := h₀.1
    have hhigh : c.toNat ≤ 57 := h₀.2
    refine ⟨?_, ?_⟩
    · rw [Char.isDigit, Bool.and_eq_true, decide_eq_true_eq, decide_eq_true_eq]
      exact ⟨hlow, hhigh⟩
    · exact Option.filter_eq_some_iff.mpr ⟨rfl, decide_eq_true (by omega)⟩
  · have hlow : 97 ≤ c.toNat := h₁.1
    simp [Option.filter] at h
    omega
  · have hlow : 65 ≤ c.toNat := h₂.1
    simp [Option.filter] at h
    omega
  · cases h

/-- The digits read are digits. -/
lemma isSome_of_mem_digitsOf {radix : ℕ} {l : List Char} {c : Char} (h : c ∈ digitsOf radix l) :
    (toDigit radix c).isSome = true :=
  List.mem_takeWhile_imp (p := fun c => (toDigit radix c).isSome) h

/-- The digits, and what is behind them. -/
lemma digitsOf_append (radix : ℕ) (l : List Char) :
    digitsOf radix l ++ l.drop (digitsOf radix l).length = l :=
  List.prefix_iff_eq_append.mp (List.takeWhile_prefix _)

/-- Only the character that is asked for is taken. -/
lemma readGivenChar_eq_some {target : Char} {l rest : List Char}
    (h : readGivenChar target l = some rest) : l = target :: rest := by
  cases l with
  | nil => cases h
  | cons c l =>
      simp only [readGivenChar, Option.ite_none_right_eq_some, Option.some.injEq] at h
      rw [h.1, h.2]

lemma readGivenChar_takes {target : Char} (ht : Plain target) {l rest : List Char}
    (h : readGivenChar target l = some rest) : Takes l rest := by
  refine ⟨[target], readGivenChar_eq_some h, ?_⟩
  intro c hc
  exact List.mem_singleton.mp hc ▸ ht

/-- What a number says about the text it was read from. -/
lemma readNumber_eq_some {radix values n : ℕ} {maxDigits : Option ℕ} {zero : Bool}
    {l rest : List Char} (h : readNumber radix maxDigits zero values l = some (n, rest)) :
    l = digitsOf radix l ++ rest ∧ digitsOf radix l ≠ [] ∧ n = valueOf radix (digitsOf radix l)
      ∧ n < values := by
  unfold readNumber at h
  dsimp only at h
  split at h
  · cases h
  · rename_i hcheck
    cases h
    simp only [Bool.or_eq_true, not_or, decide_eq_true_eq, Nat.not_le, List.isEmpty_iff] at hcheck
    obtain ⟨⟨⟨-, hne⟩, -⟩, hlt⟩ := hcheck
    exact ⟨(digitsOf_append radix l).symm, hne, rfl, hlt⟩

/-- A number takes its digits from the front. -/
lemma readNumber_reads (radix values : ℕ) (maxDigits : Option ℕ) (zero : Bool) :
    Reads (readNumber radix maxDigits zero values) := by
  intro l n rest h
  refine ⟨_, (readNumber_eq_some h).1, ?_⟩
  intro c hc
  exact plain_of_toDigit (isSome_of_mem_digitsOf hc)

/-- So does what comes behind a separator. -/
lemma readSeparator_reads {β : Type} {sep : Char} (hsep : Plain sep) (index : ℕ)
    {inner : List Char → Option (β × List Char)} (hinner : Reads inner) :
    Reads (readSeparator sep index inner) := by
  intro l r rest h
  rw [readSeparator] at h
  split at h
  · obtain ⟨m, hm, hr⟩ := Option.bind_eq_some_iff.mp h
    exact (readGivenChar_takes hsep hm).trans (hinner m r rest hr)
  · exact hinner l r rest h

lemma readOctet_reads (index : ℕ) : Reads (readOctet index) :=
  readSeparator_reads (by decide) index (readNumber_reads 10 256 (some 3) false)

/-- So does an address, part by part. -/
lemma readIpv4Addr_reads : Reads readIpv4Addr := by
  intro l ip rest h
  simp only [readIpv4Addr, Option.bind_eq_bind, Option.bind_eq_some_iff, Prod.exists] at h
  obtain ⟨one, l₁, h₁, two, l₂, h₂, three, l₃, h₃, four, l₄, h₄, heq⟩ := h
  cases heq
  exact (((readOctet_reads 0 _ _ _ h₁).trans (readOctet_reads 1 _ _ _ h₂)).trans
    (readOctet_reads 2 _ _ _ h₃)).trans (readOctet_reads 3 _ _ _ h₄)

/-- By induction on the groups left. -/
lemma readGroups_takes (left index : ℕ) (l : List Char) :
    Takes l (readGroups left index l).2.2 := by
  induction left generalizing index l with
  | zero => exact .refl l
  | succ left ih =>
      rw [readGroups]
      split
      · rename_i ip rest h
        split at h
        · exact readSeparator_reads (by decide) index readIpv4Addr_reads _ _ _ h
        · cases h
      · split
        · rename_i group rest h
          exact (readSeparator_reads (by decide) index
            (readNumber_reads 16 65536 (some 4) true) _ _ _ h).trans (ih (index + 1) rest)
        · exact .refl l

lemma readIpv6Addr_reads : Reads readIpv6Addr := by
  intro l ip rest h
  have hhead := readGroups_takes 8 0 l
  rw [readIpv6Addr] at h
  dsimp only at h
  split at h
  · cases h
    exact hhead
  · split at h
    · cases h
    · simp only [Option.bind_eq_bind, Option.bind_eq_some_iff] at h
      obtain ⟨l₁, h₁, l₂, h₂, heq⟩ := h
      cases heq
      exact ((hhead.trans (readGivenChar_takes (by decide) h₁)).trans
        (readGivenChar_takes (by decide) h₂)).trans (readGroups_takes _ 0 l₂)

lemma readScopeId_reads : Reads readScopeId := by
  intro l n rest h
  obtain ⟨m, hm, hn⟩ := Option.bind_eq_some_iff.mp h
  exact (readGivenChar_takes (by decide) hm).trans (readNumber_reads _ _ _ _ _ _ _ hn)

/-- An address that is read is plain characters, and its port is behind them. -/
lemma readSocketAddr_eq_some {l : List Char} {a : SocketAddr} {rest : List Char}
    (h : readSocketAddr l = some (a, rest)) :
    ∃ m, Takes l m ∧ readPort m = some (a.port, rest) := by
  rw [readSocketAddr] at h
  cases hv4 : readSocketAddrV4 l with
  | some ar =>
      rw [hv4] at h
      cases h
      simp only [readSocketAddrV4, Option.bind_eq_bind, Option.bind_eq_some_iff, Prod.exists]
        at hv4
      obtain ⟨ip, m, hip, port, r, hport, heq⟩ := hv4
      cases heq
      exact ⟨m, readIpv4Addr_reads _ _ _ hip, hport⟩
  | none =>
      rw [hv4] at h
      have hv6 : readSocketAddrV6 l = some (a, rest) := h
      simp only [readSocketAddrV6, Option.bind_eq_bind, Option.bind_eq_some_iff, Prod.exists]
        at hv6
      obtain ⟨l₁, h₁, ip, l₂, hip, l₃, h₃, port, r, hport, heq⟩ := hv6
      cases heq
      have hscope : Takes l₂ (((readScopeId l₂).map Prod.snd).getD l₂) := by
        cases hs : readScopeId l₂ with
        | none => exact .refl l₂
        | some nr => exact readScopeId_reads _ _ _ hs
      exact ⟨l₃, (((readGivenChar_takes (by decide) h₁).trans
        (readIpv6Addr_reads _ _ _ hip)).trans hscope).trans
        (readGivenChar_takes (by decide) h₃), hport⟩

end AddrParser

open AddrParser

/-- `str::parse` for an IP address: nothing may be left. -/
def IpAddr.parse (s : String) : Option IpAddr :=
  match readIpAddr s.toList with
  | some (ip, []) => some ip
  | _ => none

/-- `str::parse` for an address: nothing may be left. -/
def SocketAddr.parse (s : String) : Option SocketAddr :=
  match readSocketAddr s.toList with
  | some (a, []) => some a
  | _ => none

/-- **An address that parses ends with the digits of its port**, behind a colon, and all of
it is plain characters. -/
theorem SocketAddr.parse_eq_some {s : String} {a : SocketAddr} (h : SocketAddr.parse s = some a) :
    ∃ front ds, s.toList = front ++ ':' :: ds ∧ (∀ c ∈ s.toList, Plain c) ∧ ds ≠ []
      ∧ (∀ c ∈ ds, (toDigit 10 c).isSome = true) ∧ a.port = valueOf 10 ds ∧ a.port < 65536 := by
  delta SocketAddr.parse at h
  split at h
  · rename_i a' hread
    cases h
    obtain ⟨m, ⟨front, hfront, hplain⟩, hport⟩ := readSocketAddr_eq_some hread
    obtain ⟨l, hcolon, hnumber⟩ := Option.bind_eq_some_iff.mp hport
    obtain ⟨hl, hne, hvalue, hlt⟩ := readNumber_eq_some hnumber
    rw [List.append_nil] at hl
    have hm : m = ':' :: l := readGivenChar_eq_some hcolon
    have hdigits : ∀ c ∈ l, (toDigit 10 c).isSome = true := by
      intro c hc
      rw [hl] at hc
      exact isSome_of_mem_digitsOf hc
    refine ⟨front, l, hm ▸ hfront, ?_, hl ▸ hne, hdigits, hl ▸ hvalue, hlt⟩
    intro c hc
    rw [hfront, hm] at hc
    rcases List.mem_append.mp hc with hc | hc
    · exact hplain c hc
    · rcases List.mem_cons.mp hc with rfl | hc
      · decide
      · exact plain_of_toDigit (hdigits c hc)
  · cases h

end Aether
