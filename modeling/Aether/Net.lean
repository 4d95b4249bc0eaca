import Aether.Lib.Octets

/-!
Addresses of the standard library, as their bytes. An address carries the proof
of its length.
-/

namespace Aether

/-- `std::net::Ipv4Addr`, as its four octets. -/
structure Ipv4Addr where
  octets : Bytes
  len : octets.length = 4
  deriving DecidableEq

/-- `Ipv4Addr::new`. -/
def Ipv4Addr.new (a b c d : UInt8) : Ipv4Addr := ⟨[a, b, c, d], rfl⟩

/-- `std::net::Ipv6Addr`, as its sixteen octets. -/
structure Ipv6Addr where
  octets : Bytes
  len : octets.length = 16
  deriving DecidableEq

/-- `IpAddr`. -/
inductive IpAddr where
  | v4 (ip : Ipv4Addr)
  | v6 (ip : Ipv6Addr)
  deriving DecidableEq

/-- The two address families. -/
inductive Family where
  | v4
  | v6
  deriving DecidableEq, Repr

namespace Family

/-- The other family. -/
def other : Family → Family
  | v4 => v6
  | v6 => v4

lemma eq_or_eq_other (f g : Family) : g = f ∨ g = f.other := by
  cases f <;> cases g <;> simp [other]

lemma other_ne (f : Family) : f.other ≠ f := by
  cases f <;> simp [other]

end Family

def IpAddr.family : IpAddr → Family
  | v4 _ => .v4
  | v6 _ => .v6

/-- `SocketAddr`, without the flow and the scope of IPv6. -/
structure SocketAddr where
  ip : IpAddr
  port : ℕ
  deriving DecidableEq

end Aether
