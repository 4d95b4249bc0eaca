import Aether.Lib.DnsWire
import Aether.Net

/-!
The probe of the data plane (`masque.rs`): a DNS query to 8.8.8.8 in a UDP datagram, and what
comes back to it.

* `isReply_answer`: what the resolver sends back to the probe is a reply to it.
-/

namespace Aether.Masque

open DnsWire (be16)

/-- What the random generator gives for a probe. -/
structure ProbeDraw where
  id : UInt16
  queryId : UInt16
  sport : UInt16
  low : 20000 ≤ sport.toNat
  high : sport.toNat < 60000

/-- The words of a header, added up as `u32`. An odd byte at the end is the high one of a word. -/
def sumWords (sum : ℕ) : Bytes → ℕ
  | a :: b :: rest => sumWords ((sum + (a.toNat * 256 + b.toNat)) % 2 ^ 32) rest
  | [a] => (sum + a.toNat * 256) % 2 ^ 32
  | [] => sum

/-- The carries are added until none is left. -/
def foldCarries (sum : ℕ) : ℕ :=
  if h : sum / 65536 ≠ 0 then foldCarries (sum % 65536 + sum / 65536) else sum
termination_by sum
decreasing_by omega

def ipv4HeaderChecksum (header : Bytes) : UInt16 :=
  ~~~(foldCarries (sumWords 0 header)).toUInt16

def probeDnsQuery (draw : ProbeDraw) : Bytes :=
  be16 draw.queryId ++ [0x01, 0x00] ++ [0x00, 0x01] ++ [0x00, 0x00, 0x00, 0x00, 0x00, 0x00]
    ++ (["cloudflare", "com"].flatMap fun label =>
      let bytes := label.toList.flatMap String.utf8EncodeChar
      bytes.length.toUInt8 :: bytes)
    ++ [0x00] ++ [0x00, 0x01] ++ [0x00, 0x01]

def buildDnsProbePacket (src : Ipv4Addr) (draw : ProbeDraw) : Bytes :=
  let dns := probeDnsQuery draw
  let udpLen := 8 + dns.length
  let totalLen := 20 + udpLen
  let pkt := [0x45, 0x00] ++ be16 totalLen.toUInt16 ++ be16 draw.id ++ [0x00, 0x00] ++ [64, 17]
    ++ [0x00, 0x00] ++ src.octets ++ (Ipv4Addr.new 8 8 8 8).octets
  let csum := ipv4HeaderChecksum (pkt.take 20)
  let pkt := pkt.take 10 ++ be16 csum ++ pkt.drop 12
  pkt ++ be16 draw.sport ++ be16 53 ++ be16 udpLen.toUInt16 ++ [0x00, 0x00] ++ dns

/-- The packet is a UDP datagram over IPv4, from port 53 of 8.8.8.8 to this address and port. -/
def isReply (src : Ipv4Addr) (sport : UInt16) (pkt : Bytes) : Bool :=
  let headerLen := 4 * (pkt.getD 0 0 % 16).toNat
  pkt.getD 0 0 / 16 = 4 && 20 ≤ headerLen && headerLen + 8 ≤ pkt.length && pkt.getD 9 0 = 17
    && (pkt.drop 12).take 4 = (Ipv4Addr.new 8 8 8 8).octets && (pkt.drop 16).take 4 = src.octets
    && (pkt.drop headerLen).take 2 = be16 53 && (pkt.drop (headerLen + 2)).take 2 = be16 sport

/-- **What the resolver sends back is a reply**: the addresses and the ports of the probe, the
other way round. -/
lemma isReply_answer (src : Ipv4Addr) (sport : UInt16) {tos ttl : UInt8} {lens csum udp : Bytes}
    (hlens : lens.length = 6) (hcsum : csum.length = 2) (hudp : udp.length = 4) (body : Bytes) :
    isReply src sport ([0x45, tos] ++ lens ++ [ttl, 17] ++ csum ++ (Ipv4Addr.new 8 8 8 8).octets
      ++ src.octets ++ be16 53 ++ be16 sport ++ udp ++ body) = true := by
  obtain ⟨octets, hoctets⟩ := src
  obtain ⟨a, b, c, d, rfl⟩ : ∃ a b c d, octets = [a, b, c, d] := by
    match octets, hoctets with
    | [a, b, c, d], _ => exact ⟨a, b, c, d, rfl⟩
  match lens, csum, udp, hlens, hcsum, hudp with
  | [_, _, _, _, _, _], [_, _], [_, _, _, _], _, _, _ =>
      obtain ⟨p, q, hport⟩ : ∃ p q, be16 sport = [p, q] := ⟨_, _, rfl⟩
      have hdns : be16 53 = [0, 53] := rfl
      rw [hport, hdns]
      simp [isReply, Ipv4Addr.new, hport, hdns]

end Aether.Masque
