import Aether.Aethernoize
import Aether.Cli
import Aether.Noize
import Mathlib.Data.List.DropRight

/-!
What the core makes of its environment: the readers of the variables that `parse_and_apply`
sets, from `main.rs`, `prober.rs`, `wg_prober.rs`, `masque_h2.rs` and `fragment.rs`.
-/

namespace Aether

/-! ### Strings -/

/-- `char::is_whitespace`. -/
def isWhitespace (c : Char) : Bool :=
  (0x09 ≤ c.toNat && c.toNat ≤ 0x0D) || c.toNat = 0x20 || c.toNat = 0x85 || c.toNat = 0xA0
    || c.toNat = 0x1680 || (0x2000 ≤ c.toNat && c.toNat ≤ 0x200A) || c.toNat = 0x2028
    || c.toNat = 0x2029 || c.toNat = 0x202F || c.toNat = 0x205F || c.toNat = 0x3000

/-- `char::to_lowercase` where the result is ASCII: the letters of ASCII and the Kelvin sign.
No other character becomes part of a word that the readers know. -/
def toLowercase (c : Char) : Char := if c = '\u212A' then 'k' else c.toLower

/-- `trim`. -/
def trim (s : String) : String :=
  .ofList ((s.toList.dropWhile isWhitespace).rdropWhile isWhitespace)

/-- `trim().to_lowercase()`. -/
def normalize (s : String) : String :=
  .ofList (((s.toList.dropWhile isWhitespace).rdropWhile isWhitespace).map toLowercase)

/-- `eq_ignore_ascii_case`. -/
def eqIgnoreAsciiCase (a b : String) : Bool := a.toList.map Char.toLower = b.toList.map Char.toLower

/-- `parse` for an unsigned type of so many values. -/
def parseUnsigned (values : ℕ) (s : String) : Option ℕ :=
  let digits := if s.toList.head? = some '+' then s.toList.tail else s.toList
  if digits ≠ [] ∧ digits.all Char.isDigit ∧ AddrParser.valueOf 10 digits < values then
    some (AddrParser.valueOf 10 digits)
  else none

/-! ### Readers -/

inductive Protocol where
  | masque
  | wireGuard
  | warpInWarp
  deriving DecidableEq

def Protocol.parse (s : String) : Protocol :=
  match normalize s with
  | "wg" | "wireguard" => .wireGuard
  | "gool" | "wiw" | "warp-in-warp" | "warpinwarp" => .warpInWarp
  | _ => .masque

/-- The protocol of `main`, `none` where the user is asked. -/
def selectProtocol (env : Env) : Option Protocol :=
  match env "AETHER_PROTOCOL" with
  | some v => some (.parse v)
  | none =>
      if (env "AETHER_PEER").isSome || (env "AETHER_WG_PEER").isSome then some .masque else none

namespace Prober

/-- `ScanMode` and `WgScanMode`, which are read alike. -/
inductive ScanMode where
  | turbo
  | balanced
  | thorough
  | stealth
  | ironclad
  deriving DecidableEq

def ScanMode.parse (s : String) : ScanMode :=
  match normalize s with
  | "turbo" | "fast" => .turbo
  | "thorough" | "deep" | "pro" => .thorough
  | "stealth" | "quiet" => .stealth
  | "ironclad" | "real" | "verify" | "guaranteed" => .ironclad
  | _ => .balanced

inductive IpScan where
  | v4
  | v6
  | both
  deriving DecidableEq

def IpScan.parse (s : String) : IpScan :=
  match normalize s with
  | "6" | "v6" | "ipv6" => .v6
  | "both" | "all" | "dual" => .both
  | _ => .v4

def IpScan.wantV4 : IpScan → Bool
  | .v4 | .both => true
  | .v6 => false

def IpScan.wantV6 : IpScan → Bool
  | .v6 | .both => true
  | .v4 => false

end Prober

/-- `select_scan_mode_str` and `select_ip_version`, `none` where the user is asked. -/
def selectScanMode (env : Env) : Option Prober.ScanMode := (env "AETHER_SCAN").map .parse

def selectIpVersion (env : Env) : Option Prober.IpScan := (env "AETHER_IP").map .parse

/-- `masque_h2::enabled`. -/
def h2Enabled (env : Env) : Bool :=
  match env "AETHER_MASQUE_HTTP2" with
  | some v => ["1", "true", "h2", "yes", "on"].contains (normalize v)
  | none => false

/-- `masque_h2::h2_peer`. -/
def h2Peer (env : Env) (quicPeer : SocketAddr) : SocketAddr :=
  ((env "AETHER_MASQUE_H2_PEER").bind fun v => SocketAddr.parse (trim v)).getD quicPeer

/-- `want_quick_reconnect`, `none` where the user is asked. -/
def wantQuickReconnect (env : Env) : Option Bool :=
  match env "AETHER_QUICK_RECONNECT" with
  | some "1" | some "true" | some "yes" | some "on" => some true
  | some "0" | some "false" | some "no" | some "off" => some false
  | _ => none

/-- Whether `FragmentConfig::from_env` turns fragmentation on. -/
def fragmentFromEnv (env : Env) : Bool :=
  (env "AETHER_MASQUE_H2_FRAGMENT").any fun v =>
    ["1", "true", "yes", "on"].contains (normalize v)

def aethernoizeConfig (env : Env) : AetherNoizeConfig :=
  .fromProfile ((env "AETHER_NOIZE").getD "balanced")

/-- The fallbacks that are not there yet are tried after the profile that is asked for. -/
def wgProfileNames (env : Env) : List String :=
  let primary := (env "AETHER_NOIZE").getD "balanced"
  if (env "AETHER_WG_NO_PROFILE_RETRY").isNone then
    ["balanced", "aggressive", "light", "off"].foldl
      (fun names fallback =>
        if names.any (eqIgnoreAsciiCase · fallback) then names else names ++ [fallback]) [primary]
  else [primary]

def wgProfileCandidates (env : Env) : List (String × AetherNoizeConfig) :=
  (wgProfileNames env).map fun n => (n, .fromProfile n)

/-- What is pushed behind a list leaves its head alone. -/
lemma head?_foldl_push {α : Type} (p : List α → α → Bool) (a : α) (l more : List α) :
    (more.foldl (fun names b => if p names b then names else names ++ [b]) (a :: l)).head?
      = some a := by
  induction more generalizing l with
  | nil => rfl
  | cons b more ih =>
      rw [List.foldl_cons]
      split
      · exact ih l
      · exact ih (l ++ [b])

/-- The profile that is asked for is the first candidate. -/
lemma wgProfileCandidates_head (env : Env) :
    (wgProfileCandidates env).head?.map Prod.snd = some (aethernoizeConfig env) := by
  have hhead : (wgProfileNames env).head? = some ((env "AETHER_NOIZE").getD "balanced") := by
    rw [wgProfileNames]
    split
    · exact head?_foldl_push _ _ _ _
    · rfl
  rw [wgProfileCandidates, List.head?_map, hhead]
  rfl

end Aether
