import Aether.AddrParser

/-!
`Display` of the addresses of the standard library, and that its text is parsed again.

The texts of the parser are lists of characters, and so are those that are written here.

* `readNumber_toDigits`: a number is read up to where its digits end.
* `readGroups_groups`: groups with colons between them are read up to where they end, and no IPv4
  address is seen in one of them.
* `SocketAddr.parse_display`: an address that is written is parsed again.
-/

namespace Aether

open AddrParser

/-! ### The texts -/

def Ipv4Addr.display (ip : Ipv4Addr) : List Char :=
  ['.'].intercalate (ip.octets.map fun o => Nat.toDigits 10 o.toNat)

/-- `Ipv6Addr::segments`. -/
def Ipv6Addr.segments (ip : Ipv6Addr) : List ℕ :=
  (List.range 8).map fun i => beGroup (ip.octets.getD (2 * i) 0) (ip.octets.getD (2 * i + 1) 0)

/-- `Ipv6Addr::to_ipv4_mapped`. -/
def Ipv6Addr.toIpv4Mapped (ip : Ipv6Addr) : Option Ipv4Addr :=
  if ip.octets.take 12 = List.replicate 10 0 ++ [255, 255] then
    some ⟨ip.octets.drop 12, by rw [List.length_drop, ip.len]⟩
  else none

namespace AddrDisplay

/-- A run of segments. -/
structure Span where
  start : ℕ
  len : ℕ

/-- The loop over the segments: the longest run of zeros, the first of those that are equally
long. -/
def zeroes : List ℕ → ℕ → Span → Span → Span
  | [], _, longest, _ => longest
  | segment :: segments, i, longest, current =>
      if segment = 0 then
        let current := ⟨if current.len = 0 then i else current.start, current.len + 1⟩
        zeroes segments (i + 1) (if longest.len < current.len then current else longest) current
      else zeroes segments (i + 1) longest ⟨0, 0⟩

def fmtSubslice (chunk : List ℕ) : List Char := [':'].intercalate (chunk.map (Nat.toDigits 16))

end AddrDisplay

open AddrDisplay

def Ipv6Addr.display (ip : Ipv6Addr) : List Char :=
  match ip.toIpv4Mapped with
  | some ipv4 => "::ffff:".toList ++ ipv4.display
  | none =>
      let z := zeroes ip.segments 0 ⟨0, 0⟩ ⟨0, 0⟩
      if 1 < z.len then
        fmtSubslice (ip.segments.take z.start) ++ "::".toList
          ++ fmtSubslice (ip.segments.drop (z.start + z.len))
      else fmtSubslice ip.segments

/-- `to_string` of an address, whose scope is zero. -/
def SocketAddr.display (a : SocketAddr) : String :=
  match a.ip with
  | .v4 ip => .ofList (ip.display ++ ':' :: Nat.toDigits 10 a.port)
  | .v6 ip => .ofList ('[' :: (ip.display ++ ']' :: ':' :: Nat.toDigits 10 a.port))

example : (Ipv6Addr.mk [32, 1, 13, 184, 0, 0, 0, 0, 0, 1, 0, 0, 0, 0, 0, 10] rfl).display
    = "2001:db8::1:0:0:a".toList := by decide +kernel

namespace AddrDisplay

/-! ### Numbers -/

/-- The digits of a radix are read as what they stand for. -/
def Digital (radix : ℕ) : Prop :=
  1 < radix ∧ ∀ d < radix, toDigit radix d.digitChar = some d

lemma digital_ten : Digital 10 := ⟨by decide, by decide⟩

lemma digital_sixteen : Digital 16 := ⟨by decide, by decide⟩

/-- The text does not go on with a digit. -/
def Stops (radix : ℕ) (l : List Char) : Prop := ∀ c ∈ l.head?, toDigit radix c = none

variable {radix n : ℕ} {l rest : List Char}

lemma valueOf_append (radix : ℕ) (ds : List Char) (c : Char) :
    valueOf radix (ds ++ [c]) = valueOf radix ds * radix + (toDigit radix c).getD 0 := by
  rw [valueOf, List.foldl_append]
  rfl

/-- By induction on the number, digit by digit from the end. -/
lemma toDigits_spec (hr : Digital radix) (n : ℕ) :
    (∀ c ∈ Nat.toDigits radix n, (toDigit radix c).isSome = true)
      ∧ valueOf radix (Nat.toDigits radix n) = n
      ∧ ((Nat.toDigits radix n).head? = some '0' → n = 0) := by
  induction n using Nat.strong_induction_on with
  | _ n ih =>
    rw [Nat.toDigits_eq_if hr.1]
    split
    · rename_i hlt
      refine ⟨?_, ?_, ?_⟩
      · intro c hc
        rw [List.mem_singleton.mp hc, hr.2 n hlt]
        rfl
      · show 0 * radix + (toDigit radix n.digitChar).getD 0 = n
        rw [hr.2 n hlt, Nat.zero_mul, Nat.zero_add, Option.getD_some]
      · intro hzero
        exact Nat.digitChar_eq_zero.mp (Option.some.inj hzero)
    · rename_i hle
      have hpos : 0 < n / radix := Nat.div_pos (by omega) (by have := hr.1; omega)
      have hlt : n / radix < n := Nat.div_lt_self (by have := hr.1; omega) hr.1
      have hmod : n % radix < radix := Nat.mod_lt _ (by have := hr.1; omega)
      obtain ⟨hsome, hvalue, hzero⟩ := ih _ hlt
      refine ⟨?_, ?_, ?_⟩
      · intro c hc
        rcases List.mem_append.mp hc with hc | hc
        · exact hsome c hc
        · rw [List.mem_singleton.mp hc, hr.2 _ hmod]
          rfl
      · rw [valueOf_append, hvalue, hr.2 _ hmod, Option.getD_some]
        exact Nat.div_add_mod' n radix
      · rw [List.head?_append_of_ne_nil _ Nat.toDigits_ne_nil]
        intro h
        exact absurd (hzero h) (by omega)

/-- Digits are taken up to where they stop. -/
lemma digitsOf_append_of_stops {ds : List Char} (hds : ∀ c ∈ ds, (toDigit radix c).isSome = true)
    (hrest : Stops radix rest) : digitsOf radix (ds ++ rest) = ds := by
  rw [digitsOf, List.takeWhile_append_of_pos hds]
  cases rest with
  | nil => exact List.append_nil ds
  | cons c rest =>
      rw [List.takeWhile_cons_of_neg (by rw [hrest c rfl]; exact Bool.false_ne_true)]
      exact List.append_nil ds

/-- **A number is read up to where its digits end.** -/
lemma readNumber_toDigits (hr : Digital radix) {maxDigits : Option ℕ} {zero : Bool} {values : ℕ}
    (hvalues : n < values) (hdigits : ∀ m ∈ maxDigits, n < radix ^ m ∧ 0 < m)
    (hrest : Stops radix rest) :
    readNumber radix maxDigits zero values (Nat.toDigits radix n ++ rest) = some (n, rest) := by
  obtain ⟨hsome, hvalue, hzero⟩ := toDigits_spec hr n
  have hmax : maxDigits.any (· < (Nat.toDigits radix n).length) = false := by
    cases maxDigits with
    | none => rfl
    | some m =>
        obtain ⟨hlt, hpos⟩ := hdigits m rfl
        have hlen := (Nat.length_toDigits_le_iff hr.1 hpos).mpr hlt
        exact decide_eq_false (by omega)
  have hlead : ¬ ((Nat.toDigits radix n ++ rest).head? = some '0'
      ∧ 1 < (Nat.toDigits radix n).length) := by
    rintro ⟨hhead, hlen⟩
    rw [List.head?_append_of_ne_nil _ Nat.toDigits_ne_nil] at hhead
    rw [hzero hhead, Nat.toDigits_zero] at hlen
    exact absurd hlen (by decide)
  unfold readNumber
  rw [digitsOf_append_of_stops hsome hrest]
  dsimp only
  rw [hvalue, List.drop_left, if_neg]
  have hne : (Nat.toDigits radix n).isEmpty = false :=
    List.isEmpty_eq_false_iff.mpr Nat.toDigits_ne_nil
  simp only [hmax, hne, Bool.or_eq_true, Bool.and_eq_true, decide_eq_true_eq, not_or, not_le]
  exact ⟨⟨⟨Bool.false_ne_true, Bool.false_ne_true⟩, fun h => hlead ⟨h.1.2, h.2⟩⟩, hvalues⟩

/-- No number is read where there is no digit. -/
lemma readNumber_of_stops {maxDigits : Option ℕ} {zero : Bool} {values : ℕ}
    (h : Stops radix l) : readNumber radix maxDigits zero values l = none := by
  have hnil : digitsOf radix l = [] := by
    cases l with
    | nil => rfl
    | cons c l => exact List.takeWhile_cons_of_neg (by rw [h c rfl]; exact Bool.false_ne_true)
  unfold readNumber
  rw [hnil]
  exact if_pos (by simp)

/-! ### IPv4 addresses -/

lemma stops_cons {c : Char} (h : toDigit radix c = none) : Stops radix (c :: l) := by
  intro c' hc
  rw [← Option.some.inj hc]
  exact h

/-- An octet is read, behind its dot unless it is the first. -/
lemma readOctet_toDigits (o : UInt8) (hrest : Stops 10 rest) :
    readOctet 0 (Nat.toDigits 10 o.toNat ++ rest) = some (o.toNat, rest)
      ∧ ∀ i, readOctet (i + 1) ('.' :: (Nat.toDigits 10 o.toNat ++ rest))
          = some (o.toNat, rest) := by
  have hread : readNumber 10 (some 3) false 256 (Nat.toDigits 10 o.toNat ++ rest)
      = some (o.toNat, rest) := by
    refine readNumber_toDigits digital_ten o.toNat_lt ?_ hrest
    intro m hm
    obtain rfl := Option.some.inj hm
    exact ⟨Nat.lt_trans o.toNat_lt (by decide), by decide⟩
  exact ⟨hread, fun _ => hread⟩

lemma readIpv4Addr_display (ip : Ipv4Addr) (hrest : Stops 10 rest) :
    readIpv4Addr (ip.display ++ rest) = some (ip, rest) := by
  obtain ⟨octets, hlen⟩ := ip
  match octets, hlen with
  | [a, b, c, d], _ =>
    have hdot : ∀ l, Stops 10 ('.' :: l) := fun _ => stops_cons (by decide)
    have htext : (Ipv4Addr.mk [a, b, c, d] rfl).display ++ rest
        = Nat.toDigits 10 a.toNat ++ '.' :: (Nat.toDigits 10 b.toNat
          ++ '.' :: (Nat.toDigits 10 c.toNat ++ '.' :: (Nat.toDigits 10 d.toNat ++ rest))) := by
      simp [Ipv4Addr.display, List.intercalate]
    rw [htext, readIpv4Addr, (readOctet_toDigits a (hdot _)).1]
    show (readOctet 1 _).bind _ = _
    rw [(readOctet_toDigits b (hdot _)).2]
    show (readOctet 2 _).bind _ = _
    rw [(readOctet_toDigits c (hdot _)).2]
    show (readOctet 3 _).bind _ = _
    rw [(readOctet_toDigits d hrest).2]
    show some ((⟨[a.toNat.toUInt8, _, _, _], _⟩ : Ipv4Addr), rest) = _
    congr 3
    simp

/-! ### Groups -/

/-- A text that goes on neither with a digit nor with a dot. -/
def Bounded (l : List Char) : Prop := Stops 16 l ∧ l.head? ≠ some '.'

lemma toDigit_ten_sixteen {c : Char} (h : (toDigit 10 c).isSome = true) :
    (toDigit 16 c).isSome = true := by
  rw [toDigit] at h ⊢
  split_ifs at h ⊢ <;> simp_all [Option.filter] <;> omega

lemma bounded_cons {c : Char} (h : toDigit 16 c = none) (hdot : c ≠ '.') : Bounded (c :: l) :=
  ⟨stops_cons h, fun heq => hdot (Option.some.inj heq)⟩

/-- Digits without a dot behind them begin no IPv4 address. -/
lemma readIpv4Addr_of_bounded (ds : List Char)
    (hds : ∀ c ∈ ds, (toDigit 16 c).isSome = true) (hrest : Bounded rest) :
    readIpv4Addr (ds ++ rest) = none := by
  rcases h₀ : readOctet 0 (ds ++ rest) with _ | ⟨one, l₁⟩
  · rw [readIpv4Addr, h₀]
    rfl
  rcases h₁ : readOctet 1 l₁ with _ | ⟨two, l₂⟩
  · rw [readIpv4Addr, h₀]
    show (readOctet 1 l₁).bind _ = none
    rw [h₁]
    rfl
  -- the digits of the first octet, and the dot of the second
  have hone : readNumber 10 (some 3) false 256 (ds ++ rest) = some (one, l₁) := h₀
  obtain ⟨hl, -, -, -⟩ := readNumber_eq_some hone
  obtain ⟨m, hdot, -⟩ := Option.bind_eq_some_iff.mp (h₁ : (readGivenChar '.' l₁).bind _ = _)
  rw [readGivenChar_eq_some hdot] at hl
  have hten : ∀ c ∈ digitsOf 10 (ds ++ rest), (toDigit 16 c).isSome = true :=
    fun c hc => toDigit_ten_sixteen (isSome_of_mem_digitsOf hc)
  have hsame : ds = digitsOf 10 (ds ++ rest) := calc
    ds = digitsOf 16 (ds ++ rest) := (digitsOf_append_of_stops hds hrest.1).symm
    _ = digitsOf 16 (digitsOf 10 (ds ++ rest) ++ '.' :: m) := congrArg (digitsOf 16) hl
    _ = digitsOf 10 (ds ++ rest) := digitsOf_append_of_stops hten (stops_cons (by decide))
  rw [← hsame, List.append_cancel_left_eq] at hl
  rw [hl] at hrest
  exact absurd rfl hrest.2

/-- Groups behind their colons, of which the first has none at index zero. -/
def groupsFrom : ℕ → List ℕ → List Char
  | _, [] => []
  | index, g :: gs =>
      (if 0 < index then [':'] else []) ++ Nat.toDigits 16 g ++ groupsFrom (index + 1) gs

lemma groupsFrom_succ (index : ℕ) (gs : List ℕ) :
    groupsFrom (index + 1) gs = gs.flatMap fun g => ':' :: Nat.toDigits 16 g := by
  induction gs generalizing index with
  | nil => rfl
  | cons g gs ih =>
      rw [groupsFrom, ih, if_pos (by omega)]
      rfl

lemma fmtSubslice_eq (gs : List ℕ) : fmtSubslice gs = groupsFrom 0 gs := by
  rw [fmtSubslice]
  cases gs with
  | nil => rfl
  | cons g gs =>
      rw [groupsFrom, groupsFrom_succ, if_neg (by omega), List.nil_append]
      induction gs generalizing g with
      | nil => simp [List.intercalate]
      | cons g' gs ih =>
          have := ih g'
          simp only [List.map_cons, List.intercalate_cons_cons, List.flatMap_cons] at this ⊢
          rw [this]
          simp

lemma groupsFrom_bounded {rest : List Char} (h : Bounded rest) (index : ℕ) (gs : List ℕ) :
    Bounded (groupsFrom (index + 1) gs ++ rest) := by
  cases gs with
  | nil => exact h
  | cons g gs => exact bounded_cons (by decide) (by decide)

/-- No group follows, neither with a colon in front nor without. -/
def Ended (l : List Char) : Prop := Bounded l ∧ ∀ m, l = ':' :: m → Bounded m

lemma readGroups_ended (h : Ended l) (left index : ℕ) :
    readGroups left index l = ([], false, l) := by
  have hnone : ∀ {β : Type} (inner : List Char → Option (β × List Char)),
      (∀ m, Bounded m → inner m = none) → readSeparator ':' index inner l = none := by
    intro β inner hinner
    rw [readSeparator]
    split
    · cases hm : readGivenChar ':' l with
      | none => rfl
      | some m => exact hinner m (h.2 m (readGivenChar_eq_some hm))
    · exact hinner l h.1
  cases left with
  | zero => rfl
  | succ left =>
      have hipv4 : readSeparator ':' index readIpv4Addr l = none :=
        hnone _ fun m hm => readIpv4Addr_of_bounded [] (by simp) hm
      rw [readGroups, hipv4, ite_self, hnone _ fun m hm => readNumber_of_stops hm.1]

/-- **Groups are read up to their end**, and what follows them as it is. By induction on the
groups. -/
lemma readGroups_groups (gs : List ℕ) (hgs : ∀ g ∈ gs, g < 65536) (left index : ℕ)
    (hrest : Bounded rest) :
    readGroups (gs.length + left) index (groupsFrom index gs ++ rest)
      = (gs ++ (readGroups left (index + gs.length) rest).1,
          (readGroups left (index + gs.length) rest).2) := by
  induction gs generalizing index with
  | nil => simp [groupsFrom]
  | cons g gs ih =>
      have hnext : Bounded (groupsFrom (index + 1) gs ++ rest) := groupsFrom_bounded hrest index gs
      have hsep : ∀ {β : Type} (inner : List Char → Option (β × List Char)),
          readSeparator ':' index inner (groupsFrom index (g :: gs) ++ rest)
            = inner (Nat.toDigits 16 g ++ (groupsFrom (index + 1) gs ++ rest)) := by
        intro β inner
        rw [readSeparator, groupsFrom]
        split <;> simp [readGivenChar]
      have hipv4 : readIpv4Addr (Nat.toDigits 16 g ++ (groupsFrom (index + 1) gs ++ rest))
          = none := readIpv4Addr_of_bounded _ (toDigits_spec digital_sixteen g).1 hnext
      have hnumber : readNumber 16 (some 4) true 65536
          (Nat.toDigits 16 g ++ (groupsFrom (index + 1) gs ++ rest))
            = some (g, groupsFrom (index + 1) gs ++ rest) := by
        have hg : g < 65536 := hgs g List.mem_cons_self
        refine readNumber_toDigits digital_sixteen hg ?_ hnext.1
        intro m hm
        obtain rfl := Option.some.inj hm
        exact ⟨hg, by decide⟩
      have hlen : (g :: gs).length + left = (gs.length + left) + 1 := by
        rw [List.length_cons]
        omega
      have hindex : index + (g :: gs).length = index + 1 + gs.length := by
        rw [List.length_cons]
        omega
      rw [hlen, readGroups, hsep, hipv4, ite_self, hsep, hnumber]
      dsimp only
      rw [ih (fun g' hg' => hgs g' (List.mem_cons_of_mem g hg')) (index + 1), hindex]
      rfl

/-- The groups of a slice, with no more behind them. -/
lemma readGroups_fmtSubslice (gs : List ℕ) (hgs : ∀ g ∈ gs, g < 65536) {left : ℕ}
    (hleft : gs.length ≤ left) (hrest : Ended rest) :
    readGroups left 0 (fmtSubslice gs ++ rest) = (gs, false, rest) := by
  obtain ⟨more, rfl⟩ := Nat.exists_eq_add_of_le hleft
  rw [fmtSubslice_eq, readGroups_groups gs hgs more 0 hrest.1, readGroups_ended hrest,
    List.append_nil]

/-! ### The run of zeros -/

/-- The run is one of zeros in these segments. -/
def Span.In (z : Span) (segments : List ℕ) : Prop :=
  ∃ head tail, segments = head ++ List.replicate z.len 0 ++ tail ∧ head.length = z.start

lemma Span.In.append {z : Span} {segments : List ℕ} (h : z.In segments) (more : List ℕ) :
    z.In (segments ++ more) := by
  obtain ⟨head, tail, heq, hlen⟩ := h
  exact ⟨head, tail ++ more, by rw [heq, List.append_assoc], hlen⟩

/-- The run that ends here. -/
def Span.Ending (z : Span) (segments : List ℕ) : Prop :=
  0 < z.len → ∃ head, segments = head ++ List.replicate z.len 0 ∧ head.length = z.start

/-- By induction on the segments that are left. -/
lemma zeroes_in (segments done : List ℕ) (longest current : Span) (hlongest : longest.In done)
    (hcurrent : current.Ending done) :
    (zeroes segments done.length longest current).In (done ++ segments) := by
  induction segments generalizing done longest current with
  | nil =>
      rw [List.append_nil]
      exact hlongest
  | cons segment segments ih =>
      have hlen : done.length + 1 = (done ++ [segment]).length := by simp
      have happ : done ++ segment :: segments = (done ++ [segment]) ++ segments := by simp
      rw [zeroes, hlen, happ]
      split
      · rename_i hzero
        subst hzero
        have hend : Span.Ending ⟨if current.len = 0 then done.length else current.start,
            current.len + 1⟩ (done ++ [0]) := by
          intro _
          by_cases h0 : current.len = 0
          · exact ⟨done, by simp [h0], by simp [h0]⟩
          · obtain ⟨head, heq, hstart⟩ := hcurrent (Nat.pos_of_ne_zero h0)
            refine ⟨head, ?_, by simp [h0, hstart]⟩
            rw [List.replicate_succ', ← List.append_assoc, ← heq]
        have hpos : 0 < (Span.mk (if current.len = 0 then done.length else current.start)
            (current.len + 1)).len := Nat.succ_pos _
        generalize Span.mk (if current.len = 0 then done.length else current.start)
          (current.len + 1) = next at hend hpos ⊢
        refine ih _ _ _ ?_ hend
        split
        · obtain ⟨head, heq, hstart⟩ := hend hpos
          exact ⟨head, [], by rw [List.append_nil]; exact heq, hstart⟩
        · exact hlongest.append [0]
      · refine ih _ _ _ (hlongest.append [segment]) ?_
        intro h
        exact absurd h (Nat.lt_irrefl 0)

/-! ### IPv6 addresses -/

lemma segments_lt (ip : Ipv6Addr) : ∀ g ∈ ip.segments, g < 65536 := by
  intro g hg
  obtain ⟨i, -, rfl⟩ := List.mem_map.mp hg
  have hhigh := UInt8.toNat_lt (ip.octets.getD (2 * i) 0)
  have hlow := UInt8.toNat_lt (ip.octets.getD (2 * i + 1) 0)
  rw [beGroup]
  omega

lemma segments_length (ip : Ipv6Addr) : ip.segments.length = 8 := rfl

/-- The octets of a group. -/
lemma beGroup_octets (high low : UInt8) :
    (beGroup high low / 256).toUInt8 = high ∧ (beGroup high low % 256).toUInt8 = low := by
  have hlow := low.toNat_lt
  have hdiv : beGroup high low / 256 = high.toNat := by
    rw [beGroup]
    omega
  have hmod : beGroup high low % 256 = low.toNat := by
    rw [beGroup]
    omega
  rw [hdiv, hmod]
  exact ⟨UInt8.ofNat_toNat, UInt8.ofNat_toNat⟩

/-- **The segments of an address give the address.** -/
lemma ofGroups_segments (ip : Ipv6Addr) : ofGroups ip.segments = ip := by
  obtain ⟨octets, hlen⟩ := ip
  match octets, hlen with
  | [a, b, c, d, e, f, g, h, i, j, k, l, m, n, o, p], _ =>
    have hab := beGroup_octets a b
    have hcd := beGroup_octets c d
    have hef := beGroup_octets e f
    have hgh := beGroup_octets g h
    have hij := beGroup_octets i j
    have hkl := beGroup_octets k l
    have hmn := beGroup_octets m n
    have hop := beGroup_octets o p
    simp [ofGroups, Ipv6Addr.segments, List.range_succ, hab, hcd, hef, hgh, hij, hkl, hmn, hop]

lemma Bounded.stops (h : Bounded l) : Stops 10 l := by
  intro c hc
  by_contra hne
  have hten : (toDigit 10 c).isSome = true := Option.isSome_iff_ne_none.mpr hne
  have hsixteen := toDigit_ten_sixteen hten
  rw [h.1 c hc] at hsixteen
  cases hsixteen

lemma ended_colons (m : List Char) : Ended (':' :: ':' :: m) := by
  refine ⟨bounded_cons (by decide) (by decide), ?_⟩
  intro m' hm
  rw [← (List.cons.inj hm).2]
  exact bounded_cons (by decide) (by decide)

/-- The segments of a mapped address. -/
lemma segments_of_mapped {ip : Ipv6Addr} {ipv4 : Ipv4Addr} (h : ip.toIpv4Mapped = some ipv4) :
    ip.segments = List.replicate 5 0 ++ [65535,
      beGroup (ipv4.octets.getD 0 0) (ipv4.octets.getD 1 0),
      beGroup (ipv4.octets.getD 2 0) (ipv4.octets.getD 3 0)] := by
  rw [Ipv6Addr.toIpv4Mapped, Option.ite_none_right_eq_some] at h
  obtain ⟨hfront, heq⟩ := h
  have hoctets : ip.octets = List.replicate 10 0 ++ [255, 255] ++ ipv4.octets := by
    rw [← hfront, ← Option.some.inj heq, List.take_append_drop]
  rw [Ipv6Addr.segments, hoctets]
  simp [List.range_succ, beGroup]

/-- Two colons stand for the groups that are missing. -/
lemma readIpv6Addr_of_groups {head tail : List ℕ} {ipv4 : Bool} {m : List Char}
    (hhead : readGroups 8 0 l = (head, false, ':' :: ':' :: m)) (hlt : head.length < 8)
    (htail : readGroups (8 - (head.length + 1)) 0 m = (tail, ipv4, rest)) :
    readIpv6Addr l = some
      (ofGroups (head ++ List.replicate (8 - head.length - tail.length) 0 ++ tail), rest) := by
  rw [readIpv6Addr, hhead]
  dsimp only
  rw [if_neg (by omega), if_neg Bool.false_ne_true]
  show some (ofGroups (head ++ List.replicate (8 - head.length
      - (readGroups (8 - (head.length + 1)) 0 m).1.length) 0 ++ (readGroups _ 0 m).1),
    (readGroups _ 0 m).2.2) = _
  rw [htail]

/-- A mapped address is read with its last two groups as an IPv4 address. -/
lemma readIpv6Addr_mapped {ip : Ipv6Addr} {ipv4 : Ipv4Addr} (h : ip.toIpv4Mapped = some ipv4)
    (hrest : Ended rest) : readIpv6Addr ("::ffff:".toList ++ ipv4.display ++ rest)
      = some (ip, rest) := by
  have htext : "::ffff:".toList ++ ipv4.display ++ rest
      = ':' :: ':' :: (groupsFrom 0 [65535] ++ ':' :: (ipv4.display ++ rest)) := by
    rw [List.append_assoc]
    rfl
  have htail : readGroups 6 (0 + [65535].length) (':' :: (ipv4.display ++ rest))
      = ([beGroup (ipv4.octets.getD 0 0) (ipv4.octets.getD 1 0),
          beGroup (ipv4.octets.getD 2 0) (ipv4.octets.getD 3 0)], true, rest) := by
    have hread : readSeparator ':' (0 + [65535].length) readIpv4Addr (':' :: (ipv4.display ++ rest))
        = some (ipv4, rest) := readIpv4Addr_display ipv4 hrest.1.stops
    rw [readGroups, if_pos (by decide), hread]
  have hgroups := readGroups_groups [65535] (by simp) 6 0
    (bounded_cons (c := ':') (l := ipv4.display ++ rest) (by decide) (by decide))
  rw [htail] at hgroups
  rw [htext, readIpv6Addr_of_groups (readGroups_ended (ended_colons _) 8 0) (by decide) hgroups]
  conv_rhs => rw [← ofGroups_segments ip, segments_of_mapped h]
  rfl

/-- An address is read with its run of zeros. -/
lemma readIpv6Addr_compressed {ip : Ipv6Addr} {z : Span} (hz : z.In ip.segments) (hlen : 1 < z.len)
    (hrest : Ended rest) :
    readIpv6Addr (fmtSubslice (ip.segments.take z.start) ++ "::".toList
      ++ fmtSubslice (ip.segments.drop (z.start + z.len)) ++ rest) = some (ip, rest) := by
  obtain ⟨head, tail, heq, hstart⟩ := hz
  have htake : ip.segments.take z.start = head := by
    rw [heq, List.append_assoc, ← hstart, List.take_left]
  have hdrop : ip.segments.drop (z.start + z.len) = tail := by
    rw [heq, ← hstart, List.drop_left' (by rw [List.length_append, List.length_replicate])]
  have hsum : head.length + z.len + tail.length = 8 := by
    rw [← segments_length ip, heq, List.length_append, List.length_append, List.length_replicate]
  have hlt := segments_lt ip
  rw [heq] at hlt
  have htext : fmtSubslice head ++ "::".toList ++ fmtSubslice tail ++ rest
      = fmtSubslice head ++ ':' :: ':' :: (fmtSubslice tail ++ rest) := by
    rw [List.append_assoc, List.append_assoc]
    rfl
  have hhead := readGroups_fmtSubslice head (fun g hg => hlt g (by simp [hg]))
    (show head.length ≤ 8 by omega) (ended_colons (fmtSubslice tail ++ rest))
  have htail := readGroups_fmtSubslice tail (fun g hg => hlt g (by simp [hg]))
    (show tail.length ≤ 8 - (head.length + 1) by omega) hrest
  rw [htake, hdrop, htext, readIpv6Addr_of_groups hhead (by omega) htail,
    show 8 - head.length - tail.length = z.len by omega, ← heq, ofGroups_segments]

lemma readIpv6Addr_display (ip : Ipv6Addr) (hrest : Ended rest) :
    readIpv6Addr (ip.display ++ rest) = some (ip, rest) := by
  rw [Ipv6Addr.display]
  split
  · rename_i ipv4 hmapped
    exact readIpv6Addr_mapped hmapped hrest
  · dsimp only
    split
    · rename_i hlen
      refine readIpv6Addr_compressed (zeroes_in ip.segments [] ⟨0, 0⟩ ⟨0, 0⟩ ?_ ?_) hlen hrest
      · exact ⟨[], [], rfl, rfl⟩
      · intro h
        exact absurd h (Nat.lt_irrefl 0)
    · rw [readIpv6Addr, readGroups_fmtSubslice _ (segments_lt ip) (segments_length ip).le hrest]
      dsimp only
      rw [if_pos (segments_length ip), ofGroups_segments]

/-! ### Addresses -/

lemma readPort_toDigits {port : ℕ} (h : port < 65536) :
    readPort (':' :: Nat.toDigits 10 port) = some (port, []) := by
  have hread : readNumber 10 none true 65536 (Nat.toDigits 10 port ++ []) = some (port, []) :=
    readNumber_toDigits digital_ten h (by simp) (by simp [Stops])
  rw [List.append_nil] at hread
  exact hread

lemma readSocketAddrV4_display (ip : Ipv4Addr) {port : ℕ} (h : port < 65536) :
    readSocketAddrV4 (ip.display ++ ':' :: Nat.toDigits 10 port)
      = some (⟨.v4 ip, port⟩, []) := by
  rw [readSocketAddrV4, readIpv4Addr_display ip (stops_cons (by decide))]
  show (readPort _).bind _ = _
  rw [readPort_toDigits h]
  rfl

lemma readSocketAddrV6_display (ip : Ipv6Addr) {port : ℕ} (h : port < 65536) :
    readSocketAddrV6 ('[' :: (ip.display ++ ']' :: ':' :: Nat.toDigits 10 port))
      = some (⟨.v6 ip, port⟩, []) := by
  have hended : Ended (']' :: ':' :: Nat.toDigits 10 port) :=
    ⟨bounded_cons (by decide) (by decide), fun m hm => by cases hm⟩
  rw [readSocketAddrV6]
  show (readIpv6Addr _).bind _ = _
  rw [readIpv6Addr_display ip hended]
  show (readPort _).bind _ = _
  rw [readPort_toDigits h]
  rfl

end AddrDisplay

/-- **An address that is written is parsed again.** -/
theorem SocketAddr.parse_display {a : SocketAddr} (h : a.port < 65536) :
    SocketAddr.parse a.display = some a := by
  obtain ⟨ip | ip, port⟩ := a
  · rw [SocketAddr.parse, SocketAddr.display, String.toList_ofList, readSocketAddr,
      readSocketAddrV4_display ip h]
    rfl
  · have hnone : readSocketAddrV4 ('[' :: (ip.display ++ ']' :: ':' :: Nat.toDigits 10 port))
        = none := by
      rw [readSocketAddrV4]
      show (readIpv4Addr ([] ++ '[' :: _)).bind _ = none
      rw [readIpv4Addr_of_bounded [] (by simp) (bounded_cons (by decide) (by decide))]
      rfl
    rw [SocketAddr.parse, SocketAddr.display, String.toList_ofList, readSocketAddr, hnone]
    rw [readSocketAddrV6_display ip h]
    rfl

end Aether
