import Mathlib.Tactic.Common

/-!
The obfuscation profile of a WireGuard tunnel (`aethernoize.rs`). Durations are
in nanoseconds.
-/

namespace Aether

/-- A profile: the signature packets `i1` to `i5`, the numbers of junk packets and their sizes, and
the delays. `none` sends no packet. -/
structure AetherNoizeConfig where
  i1 : Option String
  i2 : Option String
  i3 : Option String
  i4 : Option String
  i5 : Option String
  jc : ℕ
  jcBeforeHs : ℕ
  jcAfterI1 : ℕ
  jcAfterHs : ℕ
  jmin : ℕ
  jmax : ℕ
  junkInterval : ℕ
  handshakeDelay : ℕ
  allowZeroSize : Bool
  deriving DecidableEq, Repr

namespace AetherNoizeConfig

/-- Neither signatures nor junk. -/
def off : AetherNoizeConfig where
  i1 := none
  i2 := none
  i3 := none
  i4 := none
  i5 := none
  jc := 0
  jcBeforeHs := 0
  jcAfterI1 := 0
  jcAfterHs := 0
  jmin := 0
  jmax := 0
  junkInterval := 0
  handshakeDelay := 0
  allowZeroSize := false

/-- Two signatures and a little junk, most of it before the handshake. -/
def light : AetherNoizeConfig where
  i1 := some "<b 0d0a0d0a><t><r 20-32>"
  i2 := some "<rc 24-48>"
  i3 := none
  i4 := none
  i5 := none
  jc := 4
  jcBeforeHs := 2
  jcAfterI1 := 1
  jcAfterHs := 1
  jmin := 48
  jmax := 190
  junkInterval := 3000000
  handshakeDelay := 5000000
  allowZeroSize := false

def balanced : AetherNoizeConfig where
  i1 := some "<b 0d0a0d0a><t><rc 20-40>"
  i2 := some "<b 504f5354><rd 10-20><rc 20-30>"
  i3 := some "<r 30-50>"
  i4 := none
  i5 := none
  jc := 6
  jcBeforeHs := 3
  jcAfterI1 := 2
  jcAfterHs := 1
  jmin := 64
  jmax := 256
  junkInterval := 2000000
  handshakeDelay := 8000000
  allowZeroSize := false

/-- All five signatures and the most junk. -/
def aggressive : AetherNoizeConfig where
  i1 := some "<b 0d0a0d0a><t><rc 40-64>"
  i2 := some "<b 504f5354><t><rd 15-30><rc 30-50>"
  i3 := some "<b 474554><rc 40-60>"
  i4 := some "<r 60-100>"
  i5 := some "<c><rd 20-40>"
  jc := 10
  jcBeforeHs := 4
  jcAfterI1 := 3
  jcAfterHs := 3
  jmin := 80
  jmax := 384
  junkInterval := 1000000
  handshakeDelay := 12000000
  allowZeroSize := false

/-- `is_enabled`: junk or a first signature is sent. -/
def isEnabled (cfg : AetherNoizeConfig) : Bool := 0 < cfg.jc || cfg.i1.isSome

/-- `aethernoize::from_profile`. -/
def fromProfile : String → AetherNoizeConfig
  | "off" | "none" => off
  | "light" => light
  | "aggressive" | "heavy" => aggressive
  | _ => balanced

end AetherNoizeConfig

end Aether
