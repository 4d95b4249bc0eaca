import Aether.Lib.Machine
import Aether.Socks.Resolve
import Aether.Socks.Udp

/-!
The loop of `handle_udp_associate` (`socks.rs`).

Each event is one branch of its `select!`; a datagram carries what `dns_resolve` meets if it is
called for it. Nothing else happens while it runs.

* `forward_eq_iff`: when a payload goes where `resolve` would have it.
* `Book`: who has sent the latest request that `parse_udp_request` accepts, and what he is owed.
* `replies_to_user_iff`: replies go to him exactly in the runs in which every other datagram
  comes from where replies go already.
-/

namespace Aether.Socks.Associate

open Udp (request buildUdpReply)

/-! ### The code -/

/-- What the loop keeps, what it has sent to the netstack, and what to the relay's clients. -/
structure Association where
  client : Option SocketAddr
  sent : List (SocketAddr × Bytes)
  replies : List (SocketAddr × Bytes)
  running : Bool

def start : Association := ⟨none, [], [], true⟩

inductive Ev where
  /-- `relay.recv_from`. -/
  | received (buf : Slice) (source : SocketAddr) (lookup : Lookup)
  | receiveFailed
  /-- `from_stack.recv`. -/
  | packet (src : SocketAddr) (data : Bytes)
  | drained
  /-- `sock.read`. -/
  | control
  | hangUp

/-- Where a payload goes, and nothing when its name has no address. -/
def forward (lookup : Lookup) (target : Client.Target) (port : ℕ) (payload : Bytes) :
    Option (SocketAddr × Bytes) :=
  match target with
  | .ip ip => some (⟨ip, port⟩, payload)
  | .domain name =>
      match (dnsResolve lookup name).result with
      | .ok ip => some (⟨ip, port⟩, payload)
      | .error _ => none

def step (s : Association) (e : Ev) : Option Association :=
  if s.running then
    match e with
    | .received buf source lookup =>
        let s := { s with client := some source }
        match request buf with
        | some (target, (port, payload)) =>
            some { s with sent := s.sent ++ (forward lookup target port payload).toList }
        | none => some s
    | .packet src data =>
        match s.client with
        | some c => some { s with replies := s.replies ++ [(c, buildUdpReply src data)] }
        | none => some s
    | .control => some s
    | .receiveFailed | .drained | .hangUp => some { s with running := false }
  else none

/-! ### Where payloads go -/

variable {lookup : Lookup} {target : Client.Target} {port : ℕ} {payload : Bytes} {ip : IpAddr}

/-- The outcomes that `handle_connect` meets when its `dns_resolve` meets the same. -/
def connectEnv (env : Client.Env) (lookup : Lookup) : Client.Env :=
  { env with dnsResolve := fun name => (dnsResolve lookup name).result }

/-- A payload goes to the address that `resolve` has for its target, if any. -/
def SameAddress (env : Client.Env) (lookup : Lookup) (target : Client.Target) (port : ℕ)
    (payload : Bytes) : Prop :=
  forward lookup target port payload = (Client.resolve (connectEnv env lookup) target).toOption.map
    fun ip => (⟨ip, port⟩, payload)

lemma sameAddress_ip (env : Client.Env) : SameAddress env lookup (.ip ip) port payload := rfl

/-- A name that is no literal is resolved in one way. -/
lemma sameAddress_name (env : Client.Env) {name : String} (h : IpAddr.parse name = none) :
    SameAddress env lookup (.domain name) port payload := by
  rw [SameAddress, forward, Client.resolve_name _ h]
  show _ = (dnsResolve lookup name).result.toOption.map _
  cases (dnsResolve lookup name).result <;> rfl

/-- A literal is looked up, and only the right answer to that will do. -/
lemma sameAddress_literal (env : Client.Env) {name : String} (h : IpAddr.parse name = some ip) :
    SameAddress env lookup (.domain name) port payload ↔ lookup.Answers ip := by
  have hok : (dnsResolve lookup name).result = .ok ip ↔ lookup.Answers ip := dnsResolve_eq_ok
  rw [SameAddress, forward, Client.resolve_literal _ h, ← hok]
  cases (dnsResolve lookup name).result with
  | error e => simp [Except.toOption]
  | ok ip' => simp [Except.toOption]

/-- A resolver that does not answer. -/
def unanswered : Lookup where
  openUdp := .ok ()
  id := 7
  sendTo := .ok ()
  deliveries := []
  ending := .timeout

lemma unanswered_not_answers (ip : IpAddr) : ¬ unanswered.Answers ip := by
  rintro ⟨-, d, hd, -⟩
  cases hd

/-- **Both commands use the same address exactly when** the target is no literal sent as a name,
or the resolver answers the query for the literal with the literal. Whatever the resolver does,
they use the same one exactly for targets that are no such literal. -/
theorem sameAddress_iff (env : Client.Env) (target : Client.Target) (port : ℕ) (payload : Bytes) :
    (∀ lookup, SameAddress env lookup target port payload
      ↔ ∀ name ip, target = .domain name → IpAddr.parse name = some ip → lookup.Answers ip)
    ∧ ((∀ lookup, SameAddress env lookup target port payload)
      ↔ ∀ name, target = .domain name → IpAddr.parse name = none) := by
  cases target with
  | ip ip =>
      refine ⟨fun lookup => iff_of_true (sameAddress_ip env) ?_,
        iff_of_true (fun lookup => sameAddress_ip env) ?_⟩
      · rintro name ip' ⟨⟩
      · rintro name ⟨⟩
  | domain name =>
      cases hparse : IpAddr.parse name with
      | none =>
          refine ⟨fun lookup => iff_of_true (sameAddress_name env hparse) ?_,
            iff_of_true (fun lookup => sameAddress_name env hparse) ?_⟩
          · rintro name' ip ⟨⟩ hip
            rw [hparse] at hip
            cases hip
          · rintro name' ⟨⟩
            exact hparse
      | some ip =>
          refine ⟨fun lookup => (sameAddress_literal env hparse).trans ⟨?_, ?_⟩,
            iff_of_false (fun h => ?_) fun h => ?_⟩
          · rintro h name' ip' ⟨⟩ hip
            rw [hparse] at hip
            cases hip
            exact h
          · intro h
            exact h name ip rfl hparse
          · exact unanswered_not_answers ip ((sameAddress_literal env hparse).mp (h unanswered))
          · rw [h name rfl] at hparse
            cases hparse

/-- A literal sent as a name: `resolve` has it, and the association asks the resolver. -/
theorem literal_dropped :
    request ⟨[0, 0, 0, 3, 7, 49, 46, 50, 46, 51, 46, 52, 0, 53, 9], by decide⟩
        = some (.domain "1.2.3.4", (53, [9]))
      ∧ Client.resolve (connectEnv Client.dropped unanswered) (.domain "1.2.3.4")
        = .ok (.v4 (.new 1 2 3 4))
      ∧ forward unanswered (.domain "1.2.3.4") 53 [9] = none
      ∧ ¬ SameAddress Client.dropped unanswered (.domain "1.2.3.4") 53 [9] := by
  have hparse : IpAddr.parse "1.2.3.4" = some (.v4 (.new 1 2 3 4)) := by decide
  exact ⟨rfl, Client.resolve_literal _ hparse, rfl,
    fun h => unanswered_not_answers _ ((sameAddress_literal _ hparse).mp h)⟩

/-! ### Where replies go -/

namespace Ev

/-- Where replies go behind an event: each datagram decides that. -/
def client (before : Option SocketAddr) : Ev → Option SocketAddr
  | received _ source _ => some source
  | _ => before

/-- The sender of the latest request that `parse_udp_request` accepts. -/
def user (before : Option SocketAddr) : Ev → Option SocketAddr
  | received buf source _ => if (request buf).isSome then some source else before
  | _ => before

/-- The reply that an event makes for a recipient, if there is one. -/
def reply (recipient : Option SocketAddr) : Ev → List (SocketAddr × Bytes)
  | packet src data => (recipient.map fun c => (c, buildUdpReply src data)).toList
  | _ => []

end Ev

/-- The user of the association, and the replies that he and those before him should have. -/
structure Book where
  user : Option SocketAddr
  owed : List (SocketAddr × Bytes)

def Book.observe (b : Book) (e : Ev) : Book := ⟨e.user b.user, b.owed ++ e.reply b.user⟩

/-- The loop beside the book. -/
def watch (w : Association × Book) (e : Ev) : Option (Association × Book) :=
  (step w.1 e).map fun s => (s, w.2.observe e)

def begin : Association × Book := (start, ⟨none, []⟩)

/-- Replies go to the user of the association, and have gone to those they were owed to. -/
def ToUser (w : Association × Book) : Prop :=
  w.1.client = w.2.user ∧ w.1.replies = w.2.owed

/-- A datagram is a request, or it comes from where replies go already. -/
def Vouched (w : Association × Book) (e : Ev) : Prop :=
  ∀ buf source lookup, e = .received buf source lookup →
    (request buf).isSome ∨ w.1.client = some source

variable {s t : Association} {w w' : Association × Book} {e : Ev}

/-- What a step makes of where replies go, and of the replies. -/
lemma step_replies (h : step s e = some t) :
    t.client = e.client s.client ∧ t.replies = s.replies ++ e.reply s.client := by
  have hnil := List.append_nil s.replies
  cases e with
  | received buf source lookup =>
      simp only [step] at h
      split at h
      · split at h <;> cases h <;> exact ⟨rfl, hnil.symm⟩
      · cases h
  | packet src data =>
      simp only [step] at h
      split at h
      · split at h
        · rename_i c hc
          cases h
          rw [hc]
          exact ⟨rfl, rfl⟩
        · rename_i hc
          cases h
          rw [hc]
          exact ⟨rfl, hnil.symm⟩
      · cases h
  | receiveFailed | drained | control | hangUp =>
      simp only [step] at h
      split at h
      · cases h
        exact ⟨rfl, hnil.symm⟩
      · cases h

/-- **One step is right exactly when** its datagram is a request or comes from where replies go
already. -/
lemma vouched_iff (hw : ToUser w) (h : watch w e = some w') : Vouched w e ↔ ToUser w' := by
  obtain ⟨t, ht, rfl⟩ := Option.map_eq_some_iff.mp h
  obtain ⟨huser, howed⟩ := hw
  obtain ⟨hclient, hreplies⟩ := step_replies ht
  have howed' : t.replies = (w.2.observe e).owed := by rw [hreplies, howed, huser]; rfl
  have hiff : ToUser (t, w.2.observe e) ↔ e.client w.2.user = e.user w.2.user := by
    rw [ToUser, and_iff_left howed', hclient, huser]
    exact Iff.rfl
  rw [hiff, Vouched, huser]
  cases e with
  | received buf source lookup =>
      rw [Ev.client, Ev.user]
      split
      · rename_i hsome
        refine iff_of_true ?_ rfl
        rintro _ _ _ ⟨⟩
        exact .inl hsome
      · rename_i hnone
        constructor
        · intro hvouched
          exact ((hvouched buf source lookup rfl).resolve_left hnone).symm
        · rintro hsource _ _ _ ⟨⟩
          exact .inr hsource.symm
  | packet | receiveFailed | drained | control | hangUp =>
      refine iff_of_true ?_ rfl
      rintro _ _ _ ⟨⟩

/-- **Replies go to the sender of the latest request exactly in the runs** in which every
datagram that is no request comes from where replies go already. -/
theorem replies_to_user_iff {es : List Ev} (h : Machine.run watch begin es = some w) :
    Machine.Meets watch Vouched begin es ↔ Machine.Always watch ToUser begin es :=
  Machine.meets_iff_always (I := fun _ => True) (fun _ _ _ _ _ => trivial)
    (fun _ _ _ _ hw hstep => vouched_iff hw hstep) trivial ⟨rfl, rfl⟩ h

/-- Two local ports. -/
def alice : SocketAddr := ⟨.v4 (.new 127 0 0 1), 40000⟩
def bob : SocketAddr := ⟨.v4 (.new 127 0 0 1), 40001⟩

def asked (source : SocketAddr) : Ev :=
  .received ⟨[0, 0, 0, 1, 10, 0, 0, 1, 0, 53, 9], by decide⟩ source unanswered

/-- A datagram of a single byte. -/
def stray (source : SocketAddr) : Ev := .received ⟨[0], by decide⟩ source unanswered

def incoming : Ev := .packet ⟨.v4 (.new 10 0 0 1), 53⟩ [7]

/-- A stray datagram of the user himself does no harm. -/
theorem replies_to_user_sample :
    Machine.Always watch ToUser begin [asked alice, stray alice, incoming] := by
  have hrun : (Machine.run watch begin [asked alice, stray alice, incoming]).isSome := by decide
  obtain ⟨w, hw⟩ := Option.isSome_iff_exists.mp hrun
  refine (replies_to_user_iff hw).mp ⟨?_, fun t ht => ⟨?_, fun u hu => ⟨?_, fun v _ => trivial⟩⟩⟩
  · rintro _ _ _ ⟨⟩
    exact .inl rfl
  · rintro _ _ _ ⟨⟩
    cases ht
    exact .inr rfl
  · rintro _ _ _ ⟨⟩

/-- A stray datagram of another one redirects the reply. -/
theorem stray_redirects : ∃ w, Machine.run watch begin [asked alice, stray bob, incoming] = some w
    ∧ w.2.user = some alice ∧ w.1.replies.map Prod.fst = [bob] ∧ ¬ ToUser w := by
  refine ⟨_, rfl, rfl, rfl, fun h => ?_⟩
  exact absurd h.1 (by decide)

end Aether.Socks.Associate
