import Mathlib.Algebra.Group.Nat.Defs
import Mathlib.Data.List.Infix
import Mathlib.Data.Nat.Init
import Mathlib.Tactic.Common

/-!
Strings of the GUI, as Swift sees them: lists of characters, each of them a cluster of
Unicode scalars.

* `Character`: a cluster, with the fact of Unicode that the parsers rest on: two ASCII
  scalars do not share a cluster, CR LF apart.
* `contains`: the substring test on characters; what is found in a message has its
  characters there (`mem_of_contains`).
* `decimal`: the text of an integer, of digits and a sign (`mem_decimal`).
-/

namespace Aether.Gui

/-- A `Character`. -/
structure Character where
  scalars : List Char
  ne_nil : scalars ≠ []
  ascii : (∀ c ∈ scalars, c.toNat < 128) → scalars.length = 1 ∨ scalars = ['\r', '\n']
  deriving DecidableEq

/-- The character of one scalar. -/
def Character.single (c : Char) : Character := ⟨[c], by simp, fun _ => .inl rfl⟩

lemma Character.single_inj {c d : Char} : single c = single d ↔ c = d := by
  simp [single]

/-- A `String`. -/
abbrev Text := List Character

/-- A string literal. -/
def text (s : String) : Text := s.toList.map Character.single

namespace Text

def scalars (t : Text) : List Char := t.flatMap Character.scalars

/-- `contains` with the phrase of a literal. -/
def contains (message : Text) (phrase : String) : Bool := decide (text phrase <:+: message)

end Text

lemma mem_text {s : String} {c : Character} : c ∈ text s ↔ ∃ a ∈ s.toList, c = .single a := by
  simp [text, eq_comm]

/-- The characters of a phrase that is found are characters of the message. -/
lemma mem_of_contains {message : Text} {phrase : String} (h : message.contains phrase = true)
    {a : Char} (ha : a ∈ phrase.toList) : Character.single a ∈ message := by
  have hinfix : text phrase <:+: message := of_decide_eq_true h
  exact hinfix.mem (mem_text.mpr ⟨a, ha, rfl⟩)

/-- A phrase with a character that the message does not have is not found. -/
lemma contains_eq_false {message : Text} {phrase : String} (a : Char) (ha : a ∈ phrase.toList)
    (h : Character.single a ∉ message) : message.contains phrase = false := by
  rw [← Bool.not_eq_true]
  intro hfound
  exact h (mem_of_contains hfound ha)

/-! ### Numbers -/

/-- The text of an integer. -/
def decimal (n : ℤ) : Text :=
  (if n < 0 then [.single '-'] else []) ++ (Nat.toDigits 10 n.natAbs).map .single

lemma mem_decimal {n : ℤ} {c : Character} (h : c ∈ decimal n) :
    c = .single '-' ∨ ∃ a, a.isDigit = true ∧ c = .single a := by
  rcases List.mem_append.mp h with hsign | hdigit
  · left
    split at hsign
    · exact List.mem_singleton.mp hsign
    · exact absurd hsign List.not_mem_nil
  · obtain ⟨a, ha, rfl⟩ := List.mem_map.mp hdigit
    exact .inr ⟨a, Nat.isDigit_of_mem_toDigits (by omega) (by omega) ha, rfl⟩

/-- The value of a run of ASCII digits, `none` for anything else. -/
def digits (ds : List Char) : Option ℕ :=
  if ds ≠ [] ∧ ds.all Char.isDigit then some (ds.foldl (fun n d => 10 * n + (d.toNat - 48)) 0)
  else none

/-- `Int(_:)`, which refuses what a 64-bit integer does not hold. -/
def Text.toInt (t : Text) : Option ℤ :=
  match t.scalars with
  | '-' :: ds => (digits ds).bind fun n => if n ≤ 2 ^ 63 then some (-n) else none
  | '+' :: ds => (digits ds).bind fun n => if n < 2 ^ 63 then some n else none
  | ds => (digits ds).bind fun n => if n < 2 ^ 63 then some n else none

/-- `split(separator:)` at a character: the pieces that are not empty. -/
def Text.split (t : Text) (separator : Character) : List Text :=
  (t.splitOn separator).filter (· ≠ [])

end Aether.Gui
