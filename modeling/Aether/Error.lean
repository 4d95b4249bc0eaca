import Mathlib.Tactic.Common

/-!
The error type of the core (`error.rs`). The variants that wrap an error of a
library carry its text. With it, the statuses that are no error.
-/

namespace Aether

/-- `AetherError`. -/
inductive AetherError where
  | io (e : String)
  | quic (e : String)
  | h3 (e : String)
  | tls (e : String)
  | ech (e : String)
  | masque (e : String)
  | noCleanEndpoint
  | capsule (e : String)
  | api (e : String)
  | other (e : String)
  deriving DecidableEq, Repr

/-- The text of an error, as its `#[error]` attribute has it. -/
def AetherError.display : AetherError → String
  | io e => s!"io: {e}"
  | quic e => s!"quic: {e}"
  | h3 e => s!"h3: {e}"
  | tls e => s!"tls: {e}"
  | ech e => s!"ech: {e}"
  | masque e => s!"masque: {e}"
  | noCleanEndpoint => "prober: no clean endpoint found"
  | capsule e => s!"capsule: {e}"
  | api e => s!"api: {e}"
  | other e => s!"other: {e}"

/-- `http::StatusCode::is_success`. -/
def isSuccess (status : ℕ) : Bool := 200 ≤ status && status < 300

end Aether
