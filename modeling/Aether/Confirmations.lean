import Aether.Masque.Probe
import Aether.Tunnel.VerifyMasque
import Aether.Wireguard.Verify

/-!
What confirms a gateway: `verify_h2`, `verify_masque` and `verify_dataplane` count the packets
that come, and do not look into them.

* `Confirms`: a verification counts replies only, and succeeds with two of them.
* `confirmed_by_replies_iff`: over each transport, it does exactly when the first packets that it
  comes to count are replies.
-/

namespace Aether

open Masque (isReply)
open Tunnel
open Wireguard (Tunn)

/-- **Confirmed by a kind of packets**: where a verification succeeds, two packets of the kind have
been delivered, and it has counted no others, whether it succeeds or not. -/
structure Confirms (kind : Bytes → Bool) (succeeds : Prop) (delivered counted : List Bytes) :
    Prop where
  enough : succeeds → 2 ≤ delivered.countP kind
  only : ∀ packet ∈ counted, kind packet = true

/-- A verification that counts the first of what is delivered, and succeeds with two packets. -/
lemma confirms_iff {kind : Bytes → Bool} {succeeds : Prop} {delivered counted : List Bytes}
    (hpre : counted <+: delivered) (hlen : succeeds → 2 ≤ counted.length) :
    Confirms kind succeeds delivered counted ↔ ∀ packet ∈ counted, kind packet = true := by
  refine ⟨fun h => h.only, fun hall => ⟨fun hs => ?_, hall⟩⟩
  calc 2 ≤ counted.length := hlen hs
    _ = counted.countP kind := (List.countP_eq_length.mpr hall).symm
    _ ≤ delivered.countP kind := hpre.sublist.countP_le

/-- The first two of enough packets. -/
lemma two_le_take {packets : List Bytes} (h : 2 ≤ packets.length) :
    2 ≤ (packets.take 2).length := by
  rw [List.length_take]
  omega

/-- **Replies confirm a gateway** exactly when the packets that come to be counted are replies,
over each of the transports: the first two and, over HTTP/2, those of an accepted request whose
probes can be sent. -/
theorem confirmed_by_replies_iff {T ω : Type} (src : Ipv4Addr) (sport : UInt16) (a : H2.Attempt)
    (ts : List VerifyMasque.Turn) (boring : Tunn T ω) (p : Wireguard.Verify.Params)
    (s : Wireguard.Verify.Scan T ω) (ts' : List (Wireguard.Verify.Turn ω)) :
    (Confirms (isReply src sport) ((H2.verifyH2 true a).1 = .ok ())
          (H2.batches .new (H2.chunks a.body)).flatten (H2.verifyH2 true a).2
        ↔ (H2.Requested a → ∀ packet ∈ H2.countable a, isReply src sport packet = true))
      ∧ (Confirms (isReply src sport) (VerifyMasque.verifyMasque true ts = some (.ok ()))
          (VerifyMasque.arrivals (.start true) ts) (VerifyMasque.confirmed true ts)
        ↔ ∀ packet ∈ (VerifyMasque.arrivals (.start true) ts).take 2,
          isReply src sport packet = true)
      ∧ (Confirms (isReply p.localIpv4 p.draw.sport)
          ((Wireguard.Verify.verifyDataplane boring p [] s ts').1 = some (.ok ()))
          (Wireguard.Verify.arrivals boring p s ts')
          (Wireguard.Verify.verifyDataplane boring p [] s ts').2.1
        ↔ ∀ packet ∈ (Wireguard.Verify.arrivals boring p s ts').take 2,
          isReply p.localIpv4 p.draw.sport packet = true) := by
  refine ⟨?_, ?_, ?_⟩
  · obtain ⟨hyes, hno⟩ := H2.verifyH2_counted a
    by_cases hreq : H2.Requested a
    · have hpre : H2.countable a <+: (H2.batches .new (H2.chunks a.body)).flatten :=
        List.take_prefix _ _
      rw [hyes hreq, confirms_iff hpre fun hok => ?_]
      · exact ⟨fun h _ => h, fun h => h hreq⟩
      · obtain ⟨-, hlen, hprobe⟩ := (H2.verifyH2_ok_iff a).mp hok
        rw [H2.countable, hprobe]
        exact two_le_take hlen
    · rw [hno hreq, confirms_iff List.nil_prefix fun hok => ?_]
      · exact iff_of_true (fun _ h => absurd h List.not_mem_nil) fun h => absurd h hreq
      · exact absurd ((H2.verifyH2_ok_iff a).mp hok).1 hreq
  · rw [VerifyMasque.confirmed_eq]
    refine confirms_iff (List.take_prefix _ _) fun hok => ?_
    exact two_le_take ((VerifyMasque.verifyMasque_ok_iff ts).mp hok)
  · have hnone : ([] : List Bytes).length < Wireguard.Verify.dataplaneRequiredSuccesses := by
      decide
    obtain ⟨hok_iff, hcounted⟩ := Wireguard.Verify.verifyDataplane_spec boring p hnone s ts'
    rw [hcounted]
    refine confirms_iff (List.take_prefix _ _) fun hok => ?_
    exact two_le_take (hok_iff.mp hok)

/-- **Two empty packets** confirm a gateway, and a single one is counted. -/
theorem empty_packets_confirm :
    (VerifyMasque.verifyMasque true [.received 0 [.headers 0 (some 200)] [],
          .received 0 [] [[0, 0], [0, 0]]] = some (.ok ())
        ∧ VerifyMasque.arrivals (.start true) [.received 0 [.headers 0 (some 200)] [],
          .received 0 [] [[0, 0], [0, 0]]] = [[], []])
      ∧ VerifyMasque.confirmed true [.received 0 [.headers 0 (some 200)] [],
        .received 0 [] [[0, 0]]] = [[]]
      ∧ ∀ src sport, isReply src sport [] = false :=
  ⟨by decide +kernel, by decide +kernel, fun _ _ => rfl⟩

end Aether
