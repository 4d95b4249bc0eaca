import Mathlib.Tactic.Common

/-!
The obfuscation profile of a MASQUE tunnel (`noize.rs`). Durations are in
nanoseconds.
-/

namespace Aether

/-- A profile: the junk packets before the handshake and behind the first signature, their sizes,
the two signatures, and the pause between packets. -/
structure NoizeConfig where
  jcBeforeHs : ℕ
  jcAfterI1 : ℕ
  jmin : ℕ
  jmax : ℕ
  i1 : Option String
  i2 : Option String
  junkInterval : ℕ
  deriving DecidableEq, Repr

namespace NoizeConfig

def off : NoizeConfig where
  jcBeforeHs := 0
  jcAfterI1 := 0
  jmin := 0
  jmax := 0
  i1 := none
  i2 := none
  junkInterval := 0

/-- The profile of every name that is not another's. -/
def firewall : NoizeConfig where
  jcBeforeHs := 2
  jcAfterI1 := 2
  jmin := 48
  jmax := 190
  i1 := some "<b 0d0a0d0a><t><r 24>"
  i2 := some "<r 48>"
  junkInterval := 4000000

/-- One junk packet less behind the signature, and larger ones. -/
def gfw : NoizeConfig where
  jcBeforeHs := 2
  jcAfterI1 := 1
  jmin := 64
  jmax := 256
  i1 := some "<b 0d0a0d0a><t><r 24>"
  i2 := some "<r 32>"
  junkInterval := 5000000

/-- `noize::from_profile`. -/
def fromProfile : String → NoizeConfig
  | "off" | "none" => off
  | "gfw" => gfw
  | _ => firewall

end NoizeConfig

end Aether
