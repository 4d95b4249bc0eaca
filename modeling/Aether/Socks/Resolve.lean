import Aether.Netstack.Datagrams
import Aether.Socks.Answer
import Aether.Socks.Server

/-!
One run of `dns_resolve` (`socks.rs`).

Everything that can go one way or another is in `Lookup`. The datagrams are those that come for
the socket of the connection, each with its source.

* `recv_eq_head`: what the connection receives first, in a run of the stack, is the first of
  them.
* `Genuine`: a datagram of the resolver that repeats the id and the question of a query.
* `determined_iff`: once a query is sent, no run is determined by the genuine datagrams. Two runs
  agree when a genuine one comes first in both.
-/

namespace Aether.Socks

open DnsWire (be16 pieces)

/-! ### The code -/

/-- `build_dns_query`, with the random id. -/
def buildDnsQuery (id : UInt16) (name : String) (qtype : UInt16) : Bytes :=
  be16 id ++ [0x01, 0x00] ++ [0x00, 0x01] ++ [0x00, 0x00, 0x00, 0x00, 0x00, 0x00]
    ++ (pieces name).flatMap (fun label => UInt8.ofNat label.length :: label)
    ++ [0x00] ++ be16 qtype ++ [0x00, 0x01]

/-- How the wait for a datagram ends when there is none. -/
inductive NoAnswer where
  | timeout
  | closed

/-- What `dns_resolve` meets: the outcomes of `open_udp` and `send_to`, its random id, and the
datagrams that its connection delivers before the five seconds are up. -/
structure Lookup where
  openUdp : Except AetherError Unit
  id : UInt16
  sendTo : Except AetherError Unit
  deliveries : List (SocketAddr × Slice)
  ending : NoAnswer

/-- What `dns_resolve` has sent, and what it returns. -/
structure Resolution where
  sent : Option (SocketAddr × Bytes)
  result : Except AetherError IpAddr

/-- The first datagram, as far as there is one. -/
def awaitAnswer (l : Lookup) (name : String) : Except AetherError IpAddr :=
  match l.deliveries with
  | [] =>
      match l.ending with
      | .timeout => .error (.other "dns timeout")
      | .closed => .error (.other "dns channel closed")
  | resp :: _ =>
      match dnsA resp.2 with
      | some ip => .ok ip
      | none => .error (.other s!"no A record for {name}")

def dnsResolve (l : Lookup) (name : String) : Resolution :=
  match l.openUdp with
  | .error e => ⟨none, .error e⟩
  | .ok () =>
      let query := buildDnsQuery l.id name 1
      match l.sendTo with
      | .error e => ⟨none, .error e⟩
      | .ok () => ⟨some (dnsServer, query), awaitAnswer l name⟩

/-- The datagrams are those that come for the connection in a run of the stack. -/
def Lookup.CameBy (l : Lookup) (w : Netstack.NetStack × Netstack.Ledger) : Prop :=
  l.deliveries.map (fun d => (d.1, d.2.bytes)) = w.2.came

/-- **The first datagram that `recv` returns is the first to come**, whoever sent it, in every
run of the stack. -/
theorem recv_eq_head {sm : Netstack.Smoltcp} {iface : Netstack.Interface} {es : List Netstack.Ev}
    {w : Netstack.NetStack × Netstack.Ledger} {id : ℕ} {st : Netstack.UdpState} {l : Lookup}
    (h : Machine.run (Netstack.record sm id) (Netstack.Ledger.spawned iface) es = some w)
    (hid : w.1.udpConns id = some st) (hlive : st.rxDropped = false) (hl : l.CameBy w)
    (hne : w.2.taken ≠ []) :
    l.deliveries.head?.map (fun d => (d.1, d.2.bytes)) = w.2.taken.head? := by
  have horder := Netstack.datagrams_in_order h hid hlive
  obtain ⟨d, taken, htaken⟩ := List.exists_cons_of_ne_nil hne
  rw [← List.head?_map, hl, ← horder, htaken]
  rfl

/-! ### What is sent -/

/-- Nothing keeps the query from being sent. -/
def Lookup.Sends (l : Lookup) : Prop := l.openUdp = .ok () ∧ l.sendTo = .ok ()

variable {l l' : Lookup} {name : String}

lemma dnsResolve_sends (h : l.Sends) (name : String) : dnsResolve l name
    = ⟨some (dnsServer, buildDnsQuery l.id name 1), awaitAnswer l name⟩ := by
  rw [dnsResolve, h.1, h.2]

/-- Nothing is sent, and the error is that of the netstack. -/
lemma dnsResolve_not_sends (h : ¬ l.Sends) (name : String) : (dnsResolve l name).sent = none
    ∧ ∀ l', l'.openUdp = l.openUdp → l'.sendTo = l.sendTo →
      (dnsResolve l' name).result = (dnsResolve l name).result := by
  rcases hopen : l.openUdp with e | _
  · refine ⟨by rw [dnsResolve, hopen], fun l' hopen' _ => ?_⟩
    rw [dnsResolve, dnsResolve, hopen, hopen']
  · rcases hsend : l.sendTo with e | _
    · refine ⟨by rw [dnsResolve, hopen, hsend], fun l' hopen' hsend' => ?_⟩
      rw [dnsResolve, dnsResolve, hopen, hsend, hopen', hsend']
    · exact absurd ⟨hopen, hsend⟩ h

/-- What a query asks for is its type, and it goes to the resolver. -/
lemma eq_query_of_sent {server : SocketAddr} {query : Bytes}
    (h : (dnsResolve l name).sent = some (server, query)) :
    l.Sends ∧ server = dnsServer ∧ query = buildDnsQuery l.id name 1 := by
  by_cases hsends : l.Sends
  · rw [dnsResolve_sends hsends] at h
    cases h
    exact ⟨hsends, rfl, rfl⟩
  · rw [(dnsResolve_not_sends hsends name).1] at h
    cases h

/-- The query is sent, and the first datagram has this address. -/
def Lookup.Answers (l : Lookup) (ip : IpAddr) : Prop :=
  l.Sends ∧ ∃ d ∈ l.deliveries.head?, dnsA d.2 = some ip

lemma awaitAnswer_eq_ok {ip : IpAddr} :
    awaitAnswer l name = .ok ip ↔ ∃ d ∈ l.deliveries.head?, dnsA d.2 = some ip := by
  rw [awaitAnswer]
  cases l.deliveries with
  | nil => cases l.ending <;> simp
  | cons d ds => cases hd : dnsA d.2 <;> simp [hd]

/-- **When a name is resolved**, and to what. -/
lemma dnsResolve_eq_ok {ip : IpAddr} :
    (dnsResolve l name).result = .ok ip ↔ l.Answers ip := by
  by_cases hsends : l.Sends
  · rw [dnsResolve_sends hsends, awaitAnswer_eq_ok]
    exact (and_iff_right hsends).symm
  · refine iff_of_false (fun h => ?_) fun h => hsends h.1
    rw [dnsResolve] at h
    split at h
    · cases h
    · rename_i hopen
      split at h
      · cases h
      · rename_i hsend
        exact hsends ⟨hopen, hsend⟩

/-! ### Genuine answers -/

/-- The datagram comes from the resolver, and has the id and the question of the query. -/
def Genuine (query : Bytes) (d : SocketAddr × Slice) : Prop :=
  d.1 = dnsServer ∧ At d.2.bytes 0 (query.take 2) ∧ At d.2.bytes 12 (query.drop 12)

instance (query : Bytes) (d : SocketAddr × Slice) : Decidable (Genuine query d) :=
  inferInstanceAs (Decidable (_ ∧ _ <+: _ ∧ _ <+: _))

/-- The genuine datagrams of a run. -/
def Lookup.genuine (l : Lookup) (name : String) : List (SocketAddr × Slice) :=
  l.deliveries.filter fun d => Genuine (buildDnsQuery l.id name 1) d

/-- Two runs that differ only in datagrams that are not genuine. -/
structure Alike (name : String) (l l' : Lookup) : Prop where
  openUdp : l'.openUdp = l.openUdp
  id : l'.id = l.id
  sendTo : l'.sendTo = l.sendTo
  ending : l'.ending = l.ending
  genuine : l'.genuine name = l.genuine name

/-- No other datagram is delivered in front of the genuine ones. -/
def Lookup.Undisturbed (l : Lookup) (name : String) : Prop :=
  ∀ d ∈ l.deliveries.head?, Genuine (buildDnsQuery l.id name 1) d

/-- The run with one more datagram, which comes first. -/
def Lookup.inject (l : Lookup) (d : SocketAddr × Slice) : Lookup :=
  { l with deliveries := d :: l.deliveries }

lemma alike_inject {d : SocketAddr × Slice} (h : ¬ Genuine (buildDnsQuery l.id name 1) d) :
    Alike name l (l.inject d) where
  openUdp := rfl
  id := rfl
  sendTo := rfl
  ending := rfl
  genuine := List.filter_cons_of_neg fun hd => h (of_decide_eq_true hd)

/-- The first datagram of an undisturbed run is the first genuine one. -/
lemma Lookup.Undisturbed.head_eq (h : l.Undisturbed name) :
    (l.genuine name).head? = l.deliveries.head? := by
  rw [Lookup.Undisturbed] at h
  rw [Lookup.genuine]
  cases hl : l.deliveries with
  | nil => rfl
  | cons d ds =>
      rw [hl] at h
      rw [List.filter_cons, if_pos (decide_eq_true (h d rfl))]
      rfl

/-- The result depends on the first datagram only. -/
lemma awaitAnswer_congr (hhead : l'.deliveries.head? = l.deliveries.head?)
    (hending : l'.ending = l.ending) : awaitAnswer l' name = awaitAnswer l name := by
  rw [awaitAnswer, awaitAnswer, hending]
  cases hl : l.deliveries with
  | nil =>
      rw [hl, List.head?_nil, List.head?_eq_none_iff] at hhead
      rw [hhead]
  | cons d ds =>
      rw [hl, List.head?_cons] at hhead
      obtain ⟨ds', hl'⟩ := List.head?_eq_some_iff.mp hhead
      rw [hl']

/-- **Undisturbed runs agree.** -/
lemma Alike.result_eq (h : Alike name l l') (hl : l.Undisturbed name) (hl' : l'.Undisturbed name) :
    (dnsResolve l' name).result = (dnsResolve l name).result := by
  by_cases hsends : l.Sends
  · have hsends' : l'.Sends := ⟨h.openUdp.trans hsends.1, h.sendTo.trans hsends.2⟩
    rw [dnsResolve_sends hsends, dnsResolve_sends hsends']
    refine awaitAnswer_congr ?_ h.ending
    rw [← hl.head_eq, ← hl'.head_eq, h.genuine]
  · exact (dnsResolve_not_sends hsends name).2 l' h.openUdp h.sendTo

/-- The address that a forged response has. -/
def forgedIp : IpAddr := .v4 (.new 6 6 6 6)

/-- A response of one answer. -/
def forgedMessage : DnsWire.Message 63 where
  id := 0
  flags := 0x8180
  nscount := 0
  arcount := 0
  questions := []
  answers := [⟨⟨[], .root⟩, 1, 1, [0, 0, 0, 30], rfl, [6, 6, 6, 6], by decide⟩]
  trailing := []
  questions_lt := by decide
  answers_lt := by decide

/-- Two datagrams of another sender, one with an address and one without. -/
def forged : SocketAddr × Slice :=
  (⟨.v4 (.new 10 0 0 9), 53⟩, ⟨forgedMessage.bytes, by decide⟩)

def spoiled : SocketAddr × Slice := (⟨.v4 (.new 10 0 0 9), 53⟩, ⟨[], by decide⟩)

lemma forged_not_genuine (query : Bytes) : ¬ Genuine query forged :=
  fun h => absurd h.1 (by decide)

lemma spoiled_not_genuine (query : Bytes) : ¬ Genuine query spoiled :=
  fun h => absurd h.1 (by decide)

lemma dnsA_forged : dnsA forged.2 = some forgedIp :=
  dnsA_message (m := forgedMessage) (by decide) rfl

lemma dnsA_spoiled : dnsA spoiled.2 = none := Scan.toOption_eq _ rfl

lemma inject_forged (h : l.Sends) (name : String) :
    (dnsResolve (l.inject forged) name).result = .ok forgedIp := by
  have hsends : (l.inject forged).Sends := h
  rw [dnsResolve_sends hsends, awaitAnswer, Lookup.inject]
  dsimp only
  rw [dnsA_forged]

lemma inject_spoiled (h : l.Sends) (name : String) :
    (dnsResolve (l.inject spoiled) name).result = .error (.other s!"no A record for {name}") := by
  have hsends : (l.inject spoiled).Sends := h
  rw [dnsResolve_sends hsends, awaitAnswer, Lookup.inject]
  dsimp only
  rw [dnsA_spoiled]

/-- **Only a run that sends no query is determined by its genuine datagrams.** Two runs agree,
however, when nothing comes before the genuine datagrams in either. -/
theorem determined_iff (name : String) (l : Lookup) :
    ((∀ l', Alike name l l' → (dnsResolve l' name).result = (dnsResolve l name).result)
      ↔ ¬ l.Sends)
    ∧ ∀ l', Alike name l l' → l.Undisturbed name → l'.Undisturbed name →
        (dnsResolve l' name).result = (dnsResolve l name).result := by
  refine ⟨⟨fun h hsends => ?_, fun h l' hl' => ?_⟩, fun l' h hl hl' => h.result_eq hl hl'⟩
  · have hforged := h _ (alike_inject (forged_not_genuine _))
    have hspoiled := h _ (alike_inject (spoiled_not_genuine _))
    rw [← hspoiled, inject_forged hsends, inject_spoiled hsends] at hforged
    cases hforged
  · exact (dnsResolve_not_sends h name).2 l' hl'.openUdp hl'.sendTo

/-- A run whose query for `a` is answered. -/
def answered : Lookup where
  openUdp := .ok ()
  id := 7
  sendTo := .ok ()
  deliveries := [(dnsServer, ⟨aliased.bytes, by decide⟩)]
  ending := .timeout

/-- The forged datagram comes before the answer, and it is believed. -/
theorem forged_believed :
    Genuine (buildDnsQuery answered.id "w" 1) (dnsServer, ⟨aliased.bytes, by decide⟩)
      ∧ Alike "w" answered (answered.inject forged)
      ∧ (dnsResolve answered "w").result = .ok (.v4 (.new 93 184 216 34))
      ∧ (dnsResolve (answered.inject forged) "w").result = .ok (.v4 (.new 6 6 6 6)) := by
  have hsends : answered.Sends := ⟨rfl, rfl⟩
  have hanswer : dnsA ⟨aliased.bytes, by decide⟩ = some (.v4 (.new 93 184 216 34)) :=
    dnsA_message (m := aliased) (by decide) rfl
  refine ⟨by decide, alike_inject (forged_not_genuine _), ?_, inject_forged hsends "w"⟩
  rw [dnsResolve_sends hsends, awaitAnswer, answered]
  dsimp only
  rw [hanswer]

end Aether.Socks
