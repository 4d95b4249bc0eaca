import Aether.Cps

/-!
The specifications of signature packets as they are meant: what each tag declares, and what
`parse_cps` makes of it.

* `Spec`: declarations with text between them; `captures_text`: the scan finds all of them.
* `Decl.Yields`: the bytes a declaration stands for.
* `declares_iff`: **a specification yields what it declares**, whatever is drawn, exactly if no
  range in it has equal ends.
-/

namespace Aether.Cps

open AddrParser (toDigit valueOf)
open Fragment (genRange genRange_le splitOnce_trim)

/-! ### Declarations -/

/-- White space. -/
structure Blank where
  chars : List Char
  blank : ∀ c ∈ chars, isWhitespace c = true

/-- The two hexadecimal digits of a byte. -/
structure HexPair where
  hi : Char
  lo : Char
  hi_digit : (toDigit 16 hi).isSome = true
  lo_digit : (toDigit 16 lo).isSome = true

def HexPair.chars (p : HexPair) : List Char := [p.hi, p.lo]

def HexPair.byte (p : HexPair) : UInt8 :=
  .ofNat ((toDigit 16 p.hi).getD 0 * 16 + (toDigit 16 p.lo).getD 0)

/-- The first character, if there is one, does not go on with the name of a tag. -/
def Apart (cs : List Char) : Prop := ∀ c ∈ cs.head?, c.isLower = false

/-- Pairs of hexadecimal digits, maybe behind `0x`, with white space anywhere. -/
structure HexText where
  chars : List Char
  start : List Char
  pairs : List HexPair
  start_mem : start ∈ [[], ['0', 'x'], ['0', 'X']]
  filter_chars : chars.filter (!isWhitespace ·) = start ++ pairs.flatMap HexPair.chars
  apart : Apart chars

/-- A decimal number between 1 and 2048. -/
structure Numeral where
  digits : List Char
  isDigit : ∀ c ∈ digits, c.isDigit = true
  pos : 1 ≤ valueOf 10 digits
  le : valueOf 10 digits ≤ 2048

def Numeral.value (n : Numeral) : ℕ := valueOf 10 n.digits

/-- How many bytes are declared: so many, or between so many. -/
inductive Span where
  | exactly (n : Numeral)
  | between (lo : Numeral) (left right : Blank) (hi : Numeral) (le : lo.value ≤ hi.value)

def Span.chars : Span → List Char
  | exactly n => n.digits
  | between lo left right hi _ => lo.digits ++ left.chars ++ '-' :: (right.chars ++ hi.digits)

/-- What random bytes are declared to be. -/
inductive Kind where
  | r
  | rc
  | rd

/-- A tag that is well formed. -/
inductive Decl where
  | b (hex : HexText)
  | t (pad : Blank)
  | c (pad : Blank)
  | random (kind : Kind) (gap : Blank) (span : Span) (pad : Blank)

namespace Decl

def name : Decl → String
  | b _ => "b"
  | t _ => "t"
  | c _ => "c"
  | random .r _ _ _ => "r"
  | random .rc _ _ _ => "rc"
  | random .rd _ _ _ => "rd"

def data : Decl → List Char
  | b hex => hex.chars
  | t pad => pad.chars
  | c pad => pad.chars
  | random _ gap span pad => gap.chars ++ span.chars ++ pad.chars

def chars (g : Decl) : List Char := '<' :: (g.name.toList ++ g.data ++ ['>'])

/-- The tag as the scan finds it. -/
def tag (g : Decl) : Tag := ⟨g.name, trim (.ofList g.data)⟩

end Decl

/-- Text without angle brackets. -/
structure PlainText where
  chars : List Char
  no_open : '<' ∉ chars
  no_close : '>' ∉ chars

/-- A sequence of tags with text before, between and behind them. -/
structure Spec where
  parts : List (PlainText × Decl)
  last : PlainText

namespace Spec

def decls (s : Spec) : List Decl := s.parts.map Prod.snd

def chars (s : Spec) : List Char :=
  (s.parts.flatMap fun p => p.1.chars ++ p.2.chars) ++ s.last.chars

def text (s : Spec) : String := .ofList s.chars

end Spec

/-! ### What is declared -/

/-- The bytes of a kind: any, the letters and the digits of ASCII. -/
def Kind.Allows : Kind → UInt8 → Prop
  | r, _ => True
  | rc, x => (0x41 ≤ x ∧ x ≤ 0x5A) ∨ (0x61 ≤ x ∧ x ≤ 0x7A)
  | rd, x => 0x30 ≤ x ∧ x ≤ 0x39

def Span.Covers : Span → ℕ → Prop
  | exactly n, len => len = n.value
  | between lo _ _ hi _, len => lo.value ≤ len ∧ len ≤ hi.value

/-- The bytes that a tag declares. -/
def Decl.Yields : Decl → Bytes → Prop
  | b hex, bs => bs = hex.pairs.map HexPair.byte
  | t _, bs => bs.length = 4
  | c _, bs => bs.length = 4
  | random kind _ span _, bs => span.Covers bs.length ∧ ∀ x ∈ bs, kind.Allows x

/-- One segment for each tag, in order. -/
def Spec.Declares (s : Spec) (out : Bytes) : Prop :=
  ∃ segments : List Bytes, out = segments.flatten ∧ List.Forall₂ Decl.Yields s.decls segments

/-- A range with equal ends. -/
def Decl.Single : Decl → Prop
  | random _ _ (.between lo _ _ hi _) _ => lo.value = hi.value
  | _ => False

/-! ### The scan -/

/-- Nothing outside of `a` to `z` can be in a name. -/
lemma isLower_of_toNat {c : Char} (h : c.toNat < 97 ∨ 122 < c.toNat) : c.isLower = false := by
  refine Bool.eq_false_iff.mpr fun hlower => ?_
  have hand : (decide ('a' ≤ c) && decide (c ≤ 'z')) = true := hlower
  rw [Bool.and_eq_true, decide_eq_true_eq, decide_eq_true_eq] at hand
  have hlow : 97 ≤ c.toNat := hand.1
  have hhigh : c.toNat ≤ 122 := hand.2
  omega

lemma isLower_of_isWhitespace {c : Char} (h : isWhitespace c = true) : c.isLower = false := by
  simp only [isWhitespace, Bool.or_eq_true, Bool.and_eq_true, decide_eq_true_eq] at h
  exact isLower_of_toNat (by omega)

lemma isLower_of_isDigit {c : Char} (h : c.isDigit = true) : c.isLower = false := by
  have hhigh : c.toNat ≤ 57 := (Char.isDigit_iff_toNat.mp h).2
  exact isLower_of_toNat (by omega)

lemma isWhitespace_of_isDigit {c : Char} (h : c.isDigit = true) : isWhitespace c = false := by
  have hlow : 48 ≤ c.toNat := (Char.isDigit_iff_toNat.mp h).1
  have hhigh : c.toNat ≤ 57 := (Char.isDigit_iff_toNat.mp h).2
  simp only [isWhitespace, Bool.or_eq_false_iff, Bool.and_eq_false_iff, decide_eq_false_iff_not]
  omega

lemma HexPair.mem_chars {p : HexPair} {c : Char} (h : c ∈ p.chars) :
    (toDigit 16 c).isSome = true := by
  rcases List.mem_cons.mp h with rfl | h
  · exact p.hi_digit
  · rw [List.mem_singleton.mp h]
    exact p.lo_digit

/-- What is not white space is in the prefix or a digit. -/
lemma HexText.mem_chars {hex : HexText} {c : Char} (h : c ∈ hex.chars) :
    isWhitespace c = true ∨ c ∈ hex.start ∨ (toDigit 16 c).isSome = true := by
  by_cases hblank : isWhitespace c = true
  · exact .inl hblank
  · have hmem : c ∈ hex.chars.filter (!isWhitespace ·) :=
      List.mem_filter.mpr ⟨h, by simpa using hblank⟩
    rw [hex.filter_chars] at hmem
    rcases List.mem_append.mp hmem with hstart | hpair
    · exact .inr (.inl hstart)
    · obtain ⟨p, -, hp⟩ := List.mem_flatMap.mp hpair
      exact .inr (.inr (HexPair.mem_chars hp))

lemma HexText.no_close (hex : HexText) : '>' ∉ hex.chars := by
  intro hmem
  rcases HexText.mem_chars hmem with hblank | hstart | hdigit
  · exact absurd hblank (by decide)
  · have hno : ∀ l ∈ [[], ['0', 'x'], ['0', 'X']], '>' ∉ l := by decide
    exact hno _ hex.start_mem hstart
  · exact absurd hdigit (by decide)

lemma Blank.no_close (b : Blank) : '>' ∉ b.chars := fun h => absurd (b.blank _ h) (by decide)

lemma Numeral.no_close (n : Numeral) : '>' ∉ n.digits := fun h => absurd (n.isDigit _ h) (by decide)

lemma Numeral.ne_nil (n : Numeral) : n.digits ≠ [] := by
  intro h
  exact absurd n.pos (by rw [h]; decide)

lemma Blank.apart (b : Blank) {rest : List Char} (h : Apart rest) : Apart (b.chars ++ rest) := by
  intro c hc
  cases hb : b.chars with
  | nil =>
      rw [hb, List.nil_append] at hc
      exact h c hc
  | cons x xs =>
      rw [hb] at hc
      obtain rfl := Option.some.inj hc
      exact isLower_of_isWhitespace (b.blank x (by rw [hb]; exact List.mem_cons_self ..))

lemma Numeral.apart (n : Numeral) (rest : List Char) : Apart (n.digits ++ rest) := by
  intro c hc
  rw [List.head?_append_of_ne_nil _ n.ne_nil] at hc
  exact isLower_of_isDigit (n.isDigit c (List.mem_of_mem_head? hc))

namespace Decl

lemma name_mem (g : Decl) : g.name ∈ ["b", "t", "c", "r", "rc", "rd"] := by
  cases g with
  | b hex => simp [name]
  | t pad => simp [name]
  | c pad => simp [name]
  | random kind gap span pad => cases kind <;> simp [name]

/-- A name is what the scan takes for one. -/
lemma name_lower (g : Decl) :
    g.name.toList ≠ [] ∧ ∀ c ∈ g.name.toList, c.isLower = true := by
  have hall : ∀ n ∈ ["b", "t", "c", "r", "rc", "rd"],
      n.toList ≠ [] ∧ n.toList.all Char.isLower = true := by decide
  obtain ⟨hne, hlower⟩ := hall _ g.name_mem
  exact ⟨hne, List.all_eq_true.mp hlower⟩

lemma no_close (g : Decl) : '>' ∉ g.data := by
  cases g with
  | b hex => exact hex.no_close
  | t pad => exact pad.no_close
  | c pad => exact pad.no_close
  | random kind gap span pad =>
      cases span with
      | exactly n => simp [data, Span.chars, gap.no_close, pad.no_close, n.no_close]
      | between lo left right hi le =>
          simp [data, Span.chars, gap.no_close, pad.no_close, lo.no_close, left.no_close,
            right.no_close, hi.no_close]

/-- What follows a name does not belong to it. -/
lemma apart (g : Decl) : Apart g.data := by
  cases g with
  | b hex => exact hex.apart
  | t pad | c pad =>
      have h := pad.apart (show Apart [] from nofun)
      rw [List.append_nil] at h
      exact h
  | random kind gap span pad =>
      rw [data, List.append_assoc]
      refine gap.apart ?_
      cases span with
      | exactly n => exact n.apart pad.chars
      | between lo left right hi le =>
          rw [Span.chars, List.append_assoc, List.append_assoc]
          exact lo.apart _

end Decl

/-- **A declaration is matched** up to the bracket that closes it. -/
lemma matchTag_decl (g : Decl) (rest : List Char) :
    matchTag (g.name.toList ++ g.data ++ ['>'] ++ rest)
      = some (g.tag, (g.name.toList ++ g.data ++ ['>']).length) := by
  obtain ⟨hne, hlower⟩ := g.name_lower
  have hapart : Apart (g.data ++ '>' :: rest) := by
    intro c hc
    cases hdata : g.data with
    | nil =>
        rw [hdata] at hc
        obtain rfl := Option.some.inj hc
        decide
    | cons x xs =>
        rw [hdata] at hc
        exact g.apart c (by rw [hdata]; exact hc)
  have hclose : ∀ c ∈ g.data, decide (c ≠ '>') = true := by
    intro c hc
    rw [decide_eq_true_eq]
    rintro rfl
    exact g.no_close hc
  obtain ⟨htake, hdrop⟩ := takeWhile_append_stop hlower hapart
  have hdata : (g.data ++ '>' :: rest).takeWhile (· ≠ '>') = g.data :=
    (takeWhile_append_stop hclose (by simp)).1
  rw [List.append_assoc, List.append_assoc, List.singleton_append, matchTag]
  simp only [htake, hdrop, hdata]
  rw [if_neg]
  · simp [Decl.tag, String.ofList_toList]
    omega
  · rintro (h | h)
    · exact hne h
    · simp at h

/-- What a match has taken is not scanned again. -/
lemma capturesFrom_length (l rest : List Char) :
    capturesFrom l.length (l ++ rest) = capturesFrom 0 rest := by
  induction l with
  | nil => rfl
  | cons c l ih => rw [List.length_cons, List.cons_append, capturesFrom, ih]

lemma capturesFrom_plain {l : List Char} (h : '<' ∉ l) (rest : List Char) :
    capturesFrom 0 (l ++ rest) = capturesFrom 0 rest := by
  induction l with
  | nil => rfl
  | cons c l ih =>
      rw [List.mem_cons, not_or] at h
      rw [List.cons_append, capturesFrom, if_neg (Ne.symm h.1), ih h.2]

lemma capturesFrom_decl (g : Decl) (rest : List Char) :
    capturesFrom 0 (g.chars ++ rest) = g.tag :: capturesFrom 0 rest := by
  have hmatch := matchTag_decl g rest
  rw [Decl.chars, List.cons_append, capturesFrom, if_pos rfl, hmatch]
  dsimp only
  rw [capturesFrom_length]

/-- **The scan finds the declarations**, all of them and nothing else. -/
lemma captures_text (s : Spec) : captures s.text = s.decls.map Decl.tag := by
  have hparts : ∀ (parts : List (PlainText × Decl)) (last : PlainText),
      capturesFrom 0 ((parts.flatMap fun p => p.1.chars ++ p.2.chars) ++ last.chars)
        = (parts.map Prod.snd).map Decl.tag := by
    intro parts last
    induction parts with
    | nil =>
        have h := capturesFrom_plain last.no_open []
        rw [List.append_nil] at h
        exact h
    | cons p parts ih =>
        rw [List.flatMap_cons, List.append_assoc, List.append_assoc, capturesFrom_plain p.1.no_open,
          capturesFrom_decl, ih]
        rfl
  rw [captures, Spec.text, String.toList_ofList]
  exact hparts s.parts s.last

/-! ### Numbers -/

lemma trim_padded (p q : Blank) {core : List Char} (hne : core ≠ [])
    (hcore : ∀ c ∈ core, isWhitespace c = false) :
    trim (.ofList (p.chars ++ core ++ q.chars)) = .ofList core := by
  have hleft : (p.chars ++ (core ++ q.chars)).dropWhile isWhitespace = core ++ q.chars := by
    refine (takeWhile_append_stop p.blank fun c hc => ?_).2
    rw [List.head?_append_of_ne_nil _ hne] at hc
    exact hcore c (List.mem_of_mem_head? hc)
  have hright : (q.chars.reverse ++ core.reverse).dropWhile isWhitespace = core.reverse := by
    refine (takeWhile_append_stop (fun c hc => q.blank c (List.mem_reverse.mp hc))
      fun c hc => ?_).2
    exact hcore c (List.mem_reverse.mp (List.mem_of_mem_head? hc))
  rw [trim, String.toList_ofList, List.append_assoc, hleft, List.rdropWhile, List.reverse_append,
    hright, List.reverse_reverse]

/-- A number is read with white space around it. -/
lemma Numeral.parse (n : Numeral) (p q : Blank) :
    parseUsize (trim (.ofList (p.chars ++ n.digits ++ q.chars))) = some n.value := by
  have hhead : n.digits.head? ≠ some '+' := fun h =>
    absurd (n.isDigit '+' (List.mem_of_mem_head? h)) (by decide)
  have hall : n.digits.all Char.isDigit = true := List.all_eq_true.mpr n.isDigit
  have hlt : valueOf 10 n.digits < 2 ^ 64 := Nat.lt_of_le_of_lt n.le (by decide)
  rw [trim_padded p q n.ne_nil fun c hc => isWhitespace_of_isDigit (n.isDigit c hc), parseUsize,
    parseUnsigned]
  simp only [String.toList_ofList, if_neg hhead]
  rw [if_pos ⟨n.ne_nil, hall, hlt⟩, value]

lemma parseRange_single {a : String} {m : ℕ} (ha : parseUsize (trim a) = some m) (r : ℕ) :
    parseRange (trim a) r = min m 2048 := by
  have hno : '-' ∉ (trim a).toList :=
    @not_mem_of_parseUnsigned (2 ^ 64) m _ (by rw [trim_trim]; exact ha)
  rw [parseRange, splitOnce_of_not_mem hno, trim_trim, ha, Option.getD_some]

/-- Two numbers with a dash between them, which are a range only if they are in order. -/
lemma parseRange_pair {a b : String} {m n : ℕ} (ha : parseUsize (trim a) = some m)
    (hb : parseUsize (trim b) = some n) (r : ℕ) : parseRange (trim (a ++ "-" ++ b)) r
      = if m < n ∧ 0 < m then min (genRange m n r) 2048 else 0 := by
  have hno : '-' ∉ (String.ofList (b.toList.rdropWhile isWhitespace)).toList := by
    rw [String.toList_ofList]
    exact fun hmem => not_mem_of_parseUnsigned hb
      ((List.rdropWhile_prefix _ _).subset hmem)
  have hnone : parseUsize (trim (trim (a ++ "-" ++ b))) = none := by
    by_contra hsome
    obtain ⟨k, hk⟩ := Option.ne_none_iff_exists'.mp hsome
    rw [trim_trim] at hk
    exact not_mem_of_parseUnsigned hk (by simp)
  simp only [parseRange, splitOnce_trim ha, splitOnce_of_not_mem hno, Option.map_none,
    Option.getD_none, trim_dropWhile, trim_rdropWhile, ha, hb, hnone, Option.getD_some]
  rfl

/-! ### Lengths -/

/-- The length that the data of a tag asks for. -/
def Span.length (span : Span) (r : ℕ) : ℕ :=
  match span with
  | exactly n => n.value
  | between lo _ _ hi _ => if lo.value < hi.value then genRange lo.value hi.value r else 0

lemma parseRange_span (gap pad : Blank) (span : Span) (r : ℕ) :
    parseRange (trim (.ofList (gap.chars ++ span.chars ++ pad.chars))) r = span.length r := by
  cases span with
  | exactly n =>
      have hle : n.value ≤ 2048 := n.le
      rw [Span.chars, parseRange_single (n.parse gap pad), Span.length]
      exact Nat.min_eq_left hle
  | between lo left right hi le =>
      have hpos : 1 ≤ lo.value := lo.pos
      have hle : hi.value ≤ 2048 := hi.le
      have hgen := genRange_le le r
      have hsplit : String.ofList (gap.chars ++ (Span.between lo left right hi le).chars
          ++ pad.chars) = .ofList (gap.chars ++ lo.digits ++ left.chars) ++ "-"
            ++ .ofList (right.chars ++ hi.digits ++ pad.chars) := by
        apply String.toList_injective
        simp [Span.chars]
      rw [hsplit, parseRange_pair (lo.parse gap left) (hi.parse right pad), Span.length]
      split
      · rw [if_pos (by omega)]
        omega
      · rw [if_neg (by omega)]

/-! ### Hexadecimal digits -/

/-- What trimming takes away is white space. -/
lemma filter_trim (l : List Char) :
    (trim (.ofList l)).toList.filter (!isWhitespace ·) = l.filter (!isWhitespace ·) := by
  have hdrop : ∀ l : List Char,
      (l.dropWhile isWhitespace).filter (!isWhitespace ·) = l.filter (!isWhitespace ·) := by
    intro l
    induction l with
    | nil => rfl
    | cons c l ih =>
        cases hc : isWhitespace c with
        | true => simp [hc, ih]
        | false => simp [hc]
  rw [toList_trim, String.toList_ofList, List.rdropWhile, List.filter_reverse, hdrop,
    ← List.filter_reverse, List.reverse_reverse, hdrop]

lemma decodeHex_pairs (pairs : List HexPair) :
    decodeHex (pairs.flatMap HexPair.chars) = some (pairs.map HexPair.byte) := by
  induction pairs with
  | nil => rfl
  | cons p pairs ih =>
      obtain ⟨hi, hhi⟩ := Option.isSome_iff_exists.mp p.hi_digit
      obtain ⟨lo, hlo⟩ := Option.isSome_iff_exists.mp p.lo_digit
      rw [List.flatMap_cons, HexPair.chars, List.cons_append, List.cons_append, List.nil_append,
        decodeHex, hhi, hlo, ih, List.map_cons, HexPair.byte, hhi, hlo]
      rfl

/-- **The digits are decoded**, with their prefix or without it. -/
lemma hexBytes_text (hex : HexText) :
    hexBytes (trim (.ofList hex.chars)) = hex.pairs.map HexPair.byte := by
  have hstart := hex.start_mem
  have hchars := hex.filter_chars
  simp only [hexBytes, filter_trim, hchars]
  generalize hex.start = start at hstart
  simp only [List.mem_cons, List.not_mem_nil, or_false] at hstart
  rcases hstart with rfl | rfl | rfl
  · -- the second digit of a pair is no `x`
    have hno : ∀ p : HexPair, p.lo ≠ 'x' ∧ p.lo ≠ 'X' := fun p =>
      ⟨fun h => absurd p.lo_digit (by rw [h]; decide),
        fun h => absurd p.lo_digit (by rw [h]; decide)⟩
    rw [List.nil_append, ← Option.getD_some (a := hex.pairs.map HexPair.byte),
      ← decodeHex_pairs]
    cases hpairs : hex.pairs with
    | nil => rfl
    | cons p pairs =>
        rw [List.flatMap_cons, HexPair.chars, List.cons_append, List.cons_append]
        split
        · rename_i heq
          exact absurd (List.cons.inj (List.cons.inj heq).2).1 (hno p).1
        · rename_i heq
          exact absurd (List.cons.inj (List.cons.inj heq).2).1 (hno p).2
        · rfl
  · exact congrArg (·.getD []) (decodeHex_pairs hex.pairs)
  · exact congrArg (·.getD []) (decodeHex_pairs hex.pairs)

/-! ### What a tag yields -/

/-- Letters and digits are drawn from their alphabets. -/
lemma allows_of_mem : (∀ x ∈ letters, Kind.rc.Allows x) ∧ ∀ x ∈ digits, Kind.rd.Allows x := by
  have hletters : ∀ x ∈ letters, (0x41 ≤ x ∧ x ≤ 0x5A) ∨ (0x61 ≤ x ∧ x ≤ 0x7A) := by
    decide +kernel
  have hdigits : ∀ x ∈ digits, 0x30 ≤ x ∧ x ≤ 0x39 := by decide +kernel
  exact ⟨hletters, hdigits⟩

/-- The bytes of random data are of their kind, and as many as its span asks for. -/
lemma Decl.bytes_random (kind : Kind) (gap : Blank) (span : Span) (pad : Blank) (d : Draw) :
    ((random kind gap span pad).tag.bytes d).length = span.length d.len
      ∧ ∀ x ∈ (random kind gap span pad).tag.bytes d, kind.Allows x := by
  obtain ⟨hletters, hdigits⟩ := allows_of_mem
  have hspan := parseRange_span gap pad span d.len
  cases kind with
  | r =>
      refine ⟨?_, fun _ _ => trivial⟩
      rw [← hspan]
      exact length_fillBytes _ _
  | rc =>
      refine ⟨?_, fun x hx => hletters x (mem_of_mem_pick (by decide +kernel) hx)⟩
      rw [← hspan]
      exact length_pick letters _ _
  | rd =>
      refine ⟨?_, fun x hx => hdigits x (mem_of_mem_pick (by decide +kernel) hx)⟩
      rw [← hspan]
      exact length_pick digits _ _

/-- **A tag yields what it declares** unless it is a range with equal ends. -/
lemma Decl.yields_bytes {g : Decl} (h : ¬ g.Single) (d : Draw) : g.Yields (g.tag.bytes d) := by
  cases g with
  | b hex => exact hexBytes_text hex
  | t pad => exact Octets.length_beBytes 4 _
  | c pad => exact Octets.length_beBytes 4 _
  | random kind gap span pad =>
      obtain ⟨hlen, hall⟩ := bytes_random kind gap span pad d
      refine ⟨?_, hall⟩
      rw [hlen]
      cases span with
      | exactly n => rfl
      | between lo left right hi le =>
          have hne : lo.value ≠ hi.value := h
          rw [Span.length, if_pos (by omega)]
          exact ⟨le_genRange _ _ _, genRange_le le d.len⟩

/-- The least number of bytes that a tag declares. -/
def Decl.lower : Decl → ℕ
  | b hex => hex.pairs.length
  | t _ => 4
  | c _ => 4
  | random _ _ (.exactly n) _ => n.value
  | random _ _ (.between lo _ _ _ _) _ => lo.value

lemma Decl.Yields.lower_le {g : Decl} {bs : Bytes} (h : g.Yields bs) : g.lower ≤ bs.length := by
  cases g with
  | b hex => rw [show bs = _ from h, List.length_map, lower]
  | t pad => exact Nat.le_of_eq (Eq.symm h)
  | c pad => exact Nat.le_of_eq (Eq.symm h)
  | random kind gap span pad =>
      cases span with
      | exactly n => exact Nat.le_of_eq h.1.symm
      | between lo left right hi le => exact h.1.1

/-- A tag can yield as little as it declares, and a range with equal ends yields less. -/
lemma Decl.least_le (g : Decl) : g.tag.least ≤ g.lower ∧ (g.Single → g.tag.least < g.lower) := by
  rw [← g.tag.length_bytes_worst]
  cases g with
  | b hex =>
      have h : (b hex).tag.bytes worst = hex.pairs.map HexPair.byte := hexBytes_text hex
      rw [h, List.length_map]
      exact ⟨Nat.le_refl _, False.elim⟩
  | t pad => exact ⟨Nat.le_of_eq (Octets.length_beBytes 4 _), False.elim⟩
  | c pad => exact ⟨Nat.le_of_eq (Octets.length_beBytes 4 _), False.elim⟩
  | random kind gap span pad =>
      rw [(bytes_random kind gap span pad worst).1]
      cases span with
      | exactly n => exact ⟨Nat.le_refl _, False.elim⟩
      | between lo left right hi le =>
          have hpos : 1 ≤ lo.value := lo.pos
          have hzero : genRange lo.value hi.value worst.len = lo.value := genRange_zero _ _
          rw [Span.length, hzero, lower]
          refine ⟨?_, fun hsingle => ?_⟩
          · split
            · exact Nat.le_refl _
            · exact Nat.zero_le _
          · have heq : lo.value = hi.value := hsingle
            rw [if_neg (by omega)]
            exact hpos

/-! ### Specifications -/

/-- Segments that are declared are as long as is declared. -/
lemma sum_lower_le {gs : List Decl} {segments : List Bytes}
    (h : List.Forall₂ Decl.Yields gs segments) :
    (gs.map Decl.lower).sum ≤ segments.flatten.length := by
  induction h with
  | nil => exact Nat.le_refl 0
  | cons hhead _ ih =>
      have hlower := hhead.lower_le
      rw [List.map_cons, List.sum_cons, List.flatten_cons, List.length_append]
      omega

lemma exists_segments {gs : List Decl} (h : ∀ g ∈ gs, ¬ g.Single) (d : ℕ → Draw) :
    ∃ segments : List Bytes, bytesOf (gs.map Decl.tag) d = segments.flatten
      ∧ List.Forall₂ Decl.Yields gs segments := by
  induction gs generalizing d with
  | nil => exact ⟨[], rfl, .nil⟩
  | cons g gs ih =>
      obtain ⟨segments, heq, hall⟩ := ih (fun g' hg' => h g' (List.mem_cons_of_mem _ hg'))
        fun i => d (i + 1)
      refine ⟨g.tag.bytes (d 0) :: segments, ?_, .cons ?_ hall⟩
      · rw [List.map_cons, bytesOf, heq, List.flatten_cons]
      · exact Decl.yields_bytes (h g (List.mem_cons_self ..)) (d 0)

/-- **A specification yields what it declares**, whatever the clock says and whatever is drawn,
exactly if no range in it has equal ends. -/
theorem declares_iff (s : Spec) :
    (∀ d, s.Declares (parseCps s.text d)) ↔ ∀ g ∈ s.decls, ¬ g.Single := by
  refine ⟨fun h g hg hsingle => ?_, fun h d => ?_⟩
  · -- drawn as short as can be, the output is shorter than its segments
    obtain ⟨segments, heq, hall⟩ := h fun _ => worst
    have hlower := sum_lower_le hall
    have hlt : (s.decls.map fun g => g.tag.least).sum < (s.decls.map Decl.lower).sum :=
      List.sum_lt_sum _ _ (fun g' _ => g'.least_le.1) ⟨g, hg, g.least_le.2 hsingle⟩
    have hleast : least (s.decls.map Decl.tag) = (s.decls.map fun g => g.tag.least).sum := by
      rw [least, List.map_map]
      rfl
    have hlen := congrArg List.length heq
    rw [parseCps, captures_text, length_bytesOf_worst, hleast] at hlen
    omega
  · rw [Spec.Declares, parseCps, captures_text]
    exact exists_segments h d

def five : Numeral where
  digits := ['5']
  isDigit := List.all_eq_true.mp (by decide)
  pos := by decide
  le := by decide

def Blank.none : Blank := ⟨[], nofun⟩

def Blank.space : Blank := ⟨[' '], List.all_eq_true.mp (by decide)⟩

def PlainText.none : PlainText := ⟨[], nofun, nofun⟩

/-- `<r 5-5>` -/
def equalEnds : Spec where
  parts :=
    [(.none, .random .r .space (.between five .none .none five (Nat.le_refl _)) .none)]
  last := .none

/-- **A range with equal ends yields nothing.** -/
theorem equal_ends_yield_nothing : equalEnds.text = "<r 5-5>"
    ∧ ∀ d, parseCps equalEnds.text d = [] ∧ ¬ equalEnds.Declares (parseCps equalEnds.text d) := by
  have hleast : least (equalEnds.decls.map Decl.tag) = 0 := by decide +kernel
  have hnil : ∀ d, parseCps equalEnds.text d = [] := by
    intro d
    rw [parseCps, captures_text]
    exact (bytesOf_eq_nil_iff _ d).mpr hleast
  refine ⟨by decide +kernel, fun d => ⟨hnil d, ?_⟩⟩
  rintro ⟨segments, heq, hall⟩
  rw [hnil d] at heq
  have hlower := sum_lower_le hall
  rw [← heq] at hlower
  exact absurd hlower (by decide +kernel)

end Aether.Cps
