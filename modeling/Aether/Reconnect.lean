import Aether.Lib.Machine
import Aether.Prober

/-!
The reconnect loops of `main.rs`, `run_masque` and `run_wireguard`, and which addresses they
connect to.

The two functions are one loop: a gateway comes from the file of the last connection, from
the previous turn, from the user or from a scan; it is written to the file, and a tunnel is
started. They differ in the profiles they try and in the addresses that a gateway stands for:
over HTTP/2 the tunnel of `run_masque` goes to the address of `AETHER_MASQUE_H2_PEER`.

* `Driver`: what the loops differ in, `runMasque` and `runWireguard` its two instances.
* `Driver.step`: the loop, whose events carry the outcomes of the checks and the scans. It
  keeps a log of the addresses verified, saved and connected to.
* `Driver.Honest`: what was saved and connected to had been verified since the tunnel before.
* `Driver.direct_iff`: one step keeps the log honest exactly when it meets `Driver.Direct`.
* `dialed_iff`: a MASQUE run is honest exactly when all its steps do, a WireGuard run always.
-/

namespace Aether.Reconnect

open Prober

/-- `LastConnection`. -/
structure LastConnection where
  peer : String
  profile : String

/-- The gateway of a turn: its address, and the name of the obfuscation profile. -/
structure Gateway where
  peer : SocketAddr
  profile : String
  deriving DecidableEq

/-- An entry of the log: an address passed a check, a gateway was written to the file, a tunnel
was started, the tunnel ended. The addresses of the first and the third are those that the
sockets connect to. -/
inductive Record (π : Type) where
  | verified (v : SocketAddr × π)
  | saved (g : Gateway)
  | started (v : SocketAddr × π)
  | ended
  deriving DecidableEq

/-- What the two loops differ in, for profiles of type `π`. -/
structure Driver (π : Type) where
  /-- Whether the keys and the address of the identity are read before the loop. -/
  checksIdentity : Bool
  forced : Option String
  /-- Whether a forced peer is tried with every profile, or just used. -/
  testsForced : Bool
  wantQuick : Option Bool
  scanMode : Option ScanMode
  ipVersion : Option IpScan
  /-- The profile under a name. -/
  config : String → π
  /-- The names of the profiles that are tried, in order. -/
  profiles : List String
  /-- The profile that a cached connection is checked with, from the one in the file. -/
  cachedProfile : String → String
  huntBest : ScanMode → IpScan → Scan → Hunt
  /-- The addresses that a gateway stands for: in a quick check, in the check of an ironclad
  scan, and for the tunnel. -/
  quickVerify : SocketAddr → SocketAddr
  httpPing : SocketAddr → SocketAddr
  tunnel : SocketAddr → SocketAddr

/-! ### The two loops -/

/-- The address that a MASQUE connection goes to. -/
def masquePeer (env : Env) (peer : SocketAddr) : SocketAddr :=
  if h2Enabled env then h2Peer env peer else peer

def quickVerifyMasquePeer (env : Env) : SocketAddr → SocketAddr := masquePeer env

def masqueHttpPing (env : Env) : SocketAddr → SocketAddr := masquePeer env

def runMasqueTunnel (env : Env) : SocketAddr → SocketAddr := masquePeer env

/-- The profile that `run_masque` writes to the file, which is the one of `noize_config`. -/
def masqueProfile (env : Env) : String := (env "AETHER_NOIZE").getD "firewall"

/-- `run_masque`. HTTP/2 has no use for a profile. -/
def runMasque (env : Env) : Driver (Option NoizeConfig) where
  checksIdentity := false
  forced := env "AETHER_PEER"
  testsForced := false
  wantQuick := wantQuickReconnect env
  scanMode := selectScanMode env
  ipVersion := selectIpVersion env
  config name := if h2Enabled env then none else some (.fromProfile name)
  profiles := [masqueProfile env]
  cachedProfile _ := masqueProfile env
  huntBest := huntBestGateway
  quickVerify := quickVerifyMasquePeer env
  httpPing := masqueHttpPing env
  tunnel := runMasqueTunnel env

/-- `run_wireguard`. -/
def runWireguard (env : Env) : Driver AetherNoizeConfig where
  checksIdentity := true
  forced := (env "AETHER_WG_PEER").orElse fun _ => env "AETHER_PEER"
  testsForced := true
  wantQuick := wantQuickReconnect env
  scanMode := selectScanMode env
  ipVersion := selectIpVersion env
  config := .fromProfile
  profiles := wgProfileNames env
  cachedProfile := id
  huntBest := huntBestWgEndpoint
  quickVerify := id
  httpPing := id
  tunnel := id

/-! ### The loop -/

/-- Where the loop stands: before it, at its head, before a scan or a forced peer, at its
tunnel, or returned. -/
inductive Pc where
  | start
  | head
  | choosing
  | tunnel
  | returned
  deriving DecidableEq

/-- The variables of the loop, and the log, newest entry first. -/
structure State (π : Type) where
  pc : Pc
  mode : ScanMode
  ip : IpScan
  quickPeer : Option Gateway
  lastGood : Option Gateway
  log : List (Record π)
  deriving DecidableEq

/-- What the loop waits for: the identity is refused; the file, the answer and the outcome of
the check before the first turn, with the answers about the scan; the check of the last
gateway; one scan for each profile, of which those behind the first that finds something do
not take place; one check for each profile; the end of the tunnel. -/
inductive Event where
  | refuse
  | load (last : Option LastConnection) (answer ok : Bool) (mode : ScanMode) (ip : IpScan)
  | retry (ok : Bool)
  | scan (scans : List Scan)
  | force (oks : List Bool)
  | ended

variable {π : Type}

def State.start : State π := ⟨.start, .balanced, .v4, none, none, []⟩

/-- Addresses pass a check, the newest first. -/
def State.verify (s : State π) (vs : List (SocketAddr × π)) : State π :=
  { s with log := vs.map .verified ++ s.log }

namespace Driver

variable (d : Driver π)

/-- What a quick check of a gateway verifies. -/
def quickVerified (g : Gateway) : SocketAddr × π := (d.quickVerify g.peer, d.config g.profile)

/-- The cached gateway, if it is to be used again. -/
def cached (last : Option LastConnection) (answer : Bool) : Option Gateway :=
  if d.forced.isNone then
    last.bind fun c => (SocketAddr.parse c.peer).bind fun peer =>
      if d.wantQuick.getD answer then some ⟨peer, d.cachedProfile c.profile⟩ else none
  else none

/-- Everything before the loop. -/
def load (s : State π) (last : Option LastConnection) (answer ok : Bool) (mode : ScanMode)
    (ip : IpScan) : State π :=
  let quick := (d.cached last answer).filter fun _ => ok
  let asked := d.forced.isNone && quick.isNone
  { s.verify (quick.toList.map d.quickVerified) with
    pc := .head
    mode := if asked then d.scanMode.getD mode else .parse ""
    ip := if asked then d.ipVersion.getD ip else .v4
    quickPeer := quick }

/-- The loop has its gateway: it saves it and starts the tunnel. -/
def connect (s : State π) (g : Gateway) : State π :=
  { s with
    pc := .tunnel
    lastGood := some g
    log := .started (d.tunnel g.peer, d.config g.profile)
      :: ((if d.forced.isNone then [.saved g] else []) ++ s.log) }

/-- The head of the loop: the cached gateway, or a check of the last one. -/
def retry (s : State π) (ok : Bool) : State π :=
  match s.quickPeer, s.lastGood with
  | some g, _ => d.connect { s with quickPeer := none } g
  | none, some g =>
      if ok then d.connect (s.verify [d.quickVerified g]) g else { s with pc := .choosing }
  | none, none => { s with pc := .choosing }

/-- The address that `verify_one` and `verify_one_wg` connect to. -/
def verifyOne (mode : ScanMode) (peer : SocketAddr) : SocketAddr :=
  if mode = .ironclad then d.httpPing peer else peer

/-- The hunts of `hunt_wg_peer`, one profile after the other until one finds something.
`hunt_masque_peer` has one profile. -/
def hunts (mode : ScanMode) (ip : IpScan) : List String → List Scan → List (String × Hunt)
  | name :: names, scan :: scans =>
      let h := d.huntBest mode ip scan
      (name, h) :: match h.result with
        | .ok _ => []
        | .error _ => hunts mode ip names scans
  | _, _ => []

/-- What the hunts find. -/
def huntPeer (hs : List (String × Hunt)) : Option Gateway :=
  hs.findSome? fun x => x.2.best.map fun pr => ⟨pr.peer, x.1⟩

/-- What the probes of a hunt verify. -/
def probed (mode : ScanMode) (x : String × Hunt) : List (SocketAddr × π) :=
  x.2.seen.map fun pr => (d.verifyOne mode pr.peer, d.config x.1)

def scan (s : State π) (scans : List Scan) : State π :=
  let hs := d.hunts s.mode s.ip d.profiles scans
  let s := s.verify (hs.flatMap (d.probed s.mode)).reverse
  match huntPeer hs with
  | some g => d.connect s g
  | none => { s with pc := .head }

/-- A forced peer, with the first profile that passes. -/
def force (s : State π) (p : String) (oks : List Bool) : State π :=
  match SocketAddr.parse p with
  | none => { s with pc := .returned }
  | some peer =>
      if d.testsForced then
        match (d.profiles.zip oks).find? Prod.snd with
        | some x => d.connect (s.verify [d.quickVerified ⟨peer, x.1⟩]) ⟨peer, x.1⟩
        | none => { s with pc := .returned }
      else d.connect s ⟨peer, d.cachedProfile ""⟩

def step (s : State π) : Event → Option (State π)
  | .refuse =>
      if s.pc = .start ∧ d.checksIdentity then some { s with pc := .returned } else none
  | .load last answer ok mode ip =>
      if s.pc = .start then some (d.load s last answer ok mode ip) else none
  | .retry ok => if s.pc = .head then some (d.retry s ok) else none
  | .scan scans =>
      if s.pc = .choosing ∧ d.forced = none ∧ scans.length = d.profiles.length then
        some (d.scan s scans)
      else none
  | .force oks =>
      if s.pc = .choosing ∧ oks.length = d.profiles.length then
        d.forced.map fun p => d.force s p oks
      else none
  | .ended =>
      if s.pc = .tunnel then some { s with pc := .head, log := .ended :: s.log } else none

end Driver

/-! ### Honesty -/

/-- What was verified since the last tunnel ended. -/
def verified : List (Record π) → List (SocketAddr × π)
  | [] | .ended :: _ => []
  | .verified v :: log => v :: verified log
  | .saved _ :: log | .started _ :: log => verified log

namespace Driver

variable (d : Driver π)

/-- The entries before it justify an entry. -/
def Covers (log : List (Record π)) : Record π → Prop
  | .started v => v ∈ verified log
  | .saved g => (g.peer, d.config g.profile) ∈ verified log
  | .verified _ | .ended => True

/-- **Every gateway that is saved and every address that a tunnel connects to was verified**
after the previous tunnel ended, under the profile that it is used with. -/
def Honest : List (Record π) → Prop
  | [] => True
  | r :: log => d.Covers log r ∧ Honest log

instance [DecidableEq π] (log : List (Record π)) : ∀ r, Decidable (d.Covers log r)
  | .started _ => inferInstanceAs (Decidable (_ ∈ _))
  | .saved _ => inferInstanceAs (Decidable (_ ∈ _))
  | .verified _ | .ended => .isTrue trivial

instance decidableHonest [DecidableEq π] : ∀ log, Decidable (d.Honest log)
  | [] => .isTrue trivial
  | r :: log =>
      have : Decidable (d.Honest log) := decidableHonest log
      inferInstanceAs (Decidable (d.Covers log r ∧ _))

/-- The gateway that the head of the loop uses again. -/
def reused (s : State π) (ok : Bool) : Option Gateway :=
  s.quickPeer.orElse fun _ => s.lastGood.filter fun _ => ok

/-- A scan stands for the address that the tunnel will connect to: in ironclad mode the address
of its result is that address, in the other modes it has seen that address pass. -/
def Stands (mode : ScanMode) (h : Hunt) (pr : ProbeResult) : Prop :=
  if mode = .ironclad then d.tunnel pr.peer = pr.peer
  else d.tunnel pr.peer ∈ h.seen.map ProbeResult.peer

instance (mode : ScanMode) (h : Hunt) (pr : ProbeResult) : Decidable (d.Stands mode h pr) :=
  inferInstanceAs (Decidable (if mode = .ironclad then _ = _ else _ ∈ _))

/-- **The condition of `dialed_iff`**: a gateway that is used again is itself the address that
its tunnel connects to, and a scan stands for that address. -/
def Direct (s : State π) : Event → Prop
  | .retry ok => ∀ g ∈ reused s ok, d.tunnel g.peer = g.peer
  | .scan scans =>
      ∀ x ∈ d.hunts s.mode s.ip d.profiles scans, ∀ pr ∈ x.2.best, d.Stands s.mode x.2 pr
  | .refuse | .load .. | .force _ | .ended => True

instance (s : State π) : ∀ e, Decidable (d.Direct s e)
  | .retry ok => inferInstanceAs (Decidable (∀ g ∈ reused s ok, _))
  | .scan scans =>
      inferInstanceAs (Decidable (∀ x ∈ d.hunts s.mode s.ip d.profiles scans, ∀ pr ∈ x.2.best, _))
  | .refuse | .load .. | .force _ | .ended => .isTrue trivial

/-! ### The log -/

lemma verified_append (vs : List (SocketAddr × π)) (log : List (Record π)) :
    verified (vs.map .verified ++ log) = vs ++ verified log := by
  induction vs with
  | nil => rfl
  | cons v vs ih => rw [List.map_cons, List.cons_append, verified, ih, List.cons_append]

/-- A check that passes needs no justification. -/
lemma honest_append (vs : List (SocketAddr × π)) (log : List (Record π)) :
    d.Honest (vs.map .verified ++ log) ↔ d.Honest log := by
  induction vs with
  | nil => exact Iff.rfl
  | cons v vs ih => exact (and_iff_right trivial).trans ih

variable {d} {s t : State π} {g : Gateway}

/-- A gateway is used honestly where both its own address and that of its tunnel have been
verified. -/
lemma honest_connect (hforced : d.forced = none) :
    d.Honest (d.connect s g).log ↔ (d.tunnel g.peer, d.config g.profile) ∈ verified s.log
      ∧ (g.peer, d.config g.profile) ∈ verified s.log ∧ d.Honest s.log := by
  rw [connect, hforced]
  exact Iff.rfl

/-- The facts about the addresses of a driver that the loop rests on: all checks of a gateway
go where its tunnel will, and no further, and a hunt returns what it has seen. -/
structure Coherent (d : Driver π) : Prop where
  quick : d.quickVerify = d.tunnel
  ping : d.httpPing = d.tunnel
  idem : ∀ p, d.tunnel (d.tunnel p) = d.tunnel p
  chosen : ∀ mode ip scan, (d.huntBest mode ip scan).Chosen

/-- A gateway that a quick check has just verified is used honestly if it is itself the address
of its tunnel, and only then. -/
lemma Coherent.honest_quick (hd : d.Coherent) (hforced : d.forced = none)
    (hv : verified s.log = [d.quickVerified g]) (hs : d.Honest s.log) :
    d.Honest (d.connect s g).log ↔ d.tunnel g.peer = g.peer := by
  rw [honest_connect hforced, hv, quickVerified, hd.quick, List.mem_singleton, List.mem_singleton]
  constructor
  · rintro ⟨-, hsaved, -⟩
    exact (congrArg Prod.fst hsaved).symm
  · intro hself
    exact ⟨rfl, by rw [hself], hs⟩

/-! ### Scans -/

/-- Of the hunts of a scan, one has found something: what it saw is what was verified, and its
result is what the scan returns. -/
structure Found (d : Driver π) (mode : ScanMode) (hs : List (String × Hunt)) (x : String × Hunt)
    (pr : ProbeResult) : Prop where
  mem : x ∈ hs
  best : x.2.best = some pr
  seen : pr ∈ x.2.seen
  only : ∀ y ∈ hs, ∀ q ∈ y.2.best, y = x ∧ q = pr
  peer : huntPeer hs = some ⟨pr.peer, x.1⟩
  probed : hs.flatMap (d.probed mode) = d.probed mode x

/-- No hunt has found anything, and nothing was verified. -/
structure Failed (d : Driver π) (mode : ScanMode) (hs : List (String × Hunt)) : Prop where
  best : ∀ y ∈ hs, y.2.best = none
  peer : huntPeer hs = none
  probed : hs.flatMap (d.probed mode) = []

variable {mode : ScanMode} {ip : IpScan} {hs : List (String × Hunt)} {x : String × Hunt}
  {pr : ProbeResult}

lemma Found.single (hx : x.2.Chosen) (hbest : x.2.best = some pr) : d.Found mode [x] x pr where
  mem := List.mem_singleton_self x
  best := hbest
  seen := hx.mem pr hbest
  only := by
    intro y hy q hq
    cases List.mem_singleton.mp hy
    rw [hbest] at hq
    exact ⟨rfl, (Option.some.inj hq).symm⟩
  peer := by rw [huntPeer, List.findSome?_cons, hbest]; rfl
  probed := List.flatMap_singleton ..

/-- A hunt that finds nothing has verified nothing. -/
lemma probed_eq_nil (hx : x.2.Chosen) (hbest : x.2.best = none) : d.probed mode x = [] := by
  rw [probed, hx.none hbest, List.map_nil]

lemma Found.cons {y : String × Hunt} (hf : d.Found mode hs x pr) (hy : y.2.Chosen)
    (hbest : y.2.best = none) : d.Found mode (y :: hs) x pr where
  mem := List.mem_cons_of_mem y hf.mem
  best := hf.best
  seen := hf.seen
  only := by
    intro z hz q hq
    rcases List.mem_cons.mp hz with rfl | hz
    · rw [hbest] at hq
      cases hq
    · exact hf.only z hz q hq
  peer := by rw [huntPeer, List.findSome?_cons, hbest]; exact hf.peer
  probed := by rw [List.flatMap_cons, probed_eq_nil hy hbest, List.nil_append, hf.probed]

lemma Failed.cons {y : String × Hunt} (hf : d.Failed mode hs) (hy : y.2.Chosen)
    (hbest : y.2.best = none) : d.Failed mode (y :: hs) where
  best := List.forall_mem_cons.mpr ⟨hbest, hf.best⟩
  peer := by rw [huntPeer, List.findSome?_cons, hbest]; exact hf.peer
  probed := by rw [List.flatMap_cons, probed_eq_nil hy hbest, List.nil_append, hf.probed]

lemma failed_nil : d.Failed mode [] := ⟨fun _ hy => absurd hy List.not_mem_nil, rfl, rfl⟩

/-- A scan ends with the first hunt that finds something, and those before it have verified
nothing. -/
lemma hunts_cases (hd : d.Coherent) (mode : ScanMode) (ip : IpScan) (names : List String)
    (scans : List Scan) :
    (∃ x pr, d.Found mode (d.hunts mode ip names scans) x pr)
      ∨ d.Failed mode (d.hunts mode ip names scans) := by
  induction names, scans using hunts.induct d mode ip with
  | case1 name names scan scans ih =>
      rw [hunts]
      have hchosen : (d.huntBest mode ip scan).Chosen := hd.chosen mode ip scan
      cases hbest : (d.huntBest mode ip scan).best with
      | some pr =>
          have hresult : (d.huntBest mode ip scan).result = .ok pr := by rw [Hunt.result, hbest]
          simp only [hresult]
          exact .inl ⟨_, pr, .single hchosen hbest⟩
      | none =>
          have hresult : (d.huntBest mode ip scan).result = .error .noCleanEndpoint := by
            rw [Hunt.result, hbest]
          simp only [hresult]
          obtain ⟨x, pr, hf⟩ | hf := ih
          · exact .inl ⟨x, pr, hf.cons hchosen hbest⟩
          · exact .inr (hf.cons hchosen hbest)
  | case2 names scans hno =>
      rw [hunts]
      · exact .inr failed_nil
      · exact hno

lemma mem_probed {a : SocketAddr} :
    (a, d.config x.1) ∈ d.probed mode x ↔ ∃ q ∈ x.2.seen, d.verifyOne mode q.peer = a := by
  rw [probed, List.mem_map]
  simp only [Prod.mk.injEq, and_true]

/-- What a scan finds is used honestly exactly when the scan stands for the address of the
tunnel. -/
lemma Found.honest (hf : d.Found mode hs x pr) (hd : d.Coherent) (hforced : d.forced = none)
    (hv : verified s.log = []) (hs' : d.Honest s.log) :
    d.Honest (d.connect (s.verify (hs.flatMap (d.probed mode)).reverse) ⟨pr.peer, x.1⟩).log
      ↔ d.Stands mode x.2 pr := by
  rw [honest_connect hforced, State.verify, verified_append, honest_append, hv, List.append_nil,
    hf.probed, List.mem_reverse, List.mem_reverse, mem_probed, mem_probed, and_iff_left hs',
    Stands]
  by_cases hmode : mode = .ironclad
  · -- Every probe goes to the address of the tunnel.
    have hone : ∀ p, d.verifyOne mode p = d.tunnel p := by
      intro p
      rw [verifyOne, if_pos hmode, hd.ping]
    simp only [hone, if_pos hmode]
    constructor
    · rintro ⟨-, q, -, hq⟩
      rw [← hq, hd.idem]
    · intro hself
      exact ⟨⟨pr, hf.seen, rfl⟩, pr, hf.seen, hself⟩
  · -- Every probe goes to the address it has.
    have hone : ∀ p, d.verifyOne mode p = p := by
      intro p
      rw [verifyOne, if_neg hmode]
    simp only [hone, if_neg hmode, List.mem_map]
    exact and_iff_left ⟨pr, hf.seen, rfl⟩

/-! ### The step lemma -/

/-- Between two tunnels, what has been verified is the cached gateway that waits to be used,
and it waits at the head of the loop only. -/
structure Books (d : Driver π) (s : State π) : Prop where
  pending : s.pc ≠ .tunnel → verified s.log = s.quickPeer.toList.map d.quickVerified
  taken : s.pc ≠ .head → s.quickPeer = none

lemma start_books : d.Books .start := ⟨fun _ => rfl, fun _ => rfl⟩

/-- Where no cached gateway waits, nothing has been verified. -/
lemma Books.nothing (hb : d.Books s) (hpc : s.pc ≠ .tunnel) (hq : s.quickPeer = none) :
    verified s.log = [] := by
  rw [hb.pending hpc, hq]
  rfl

/-- Before the loop and before a scan nothing waits, and nothing has been verified. -/
lemma Books.idle (hb : d.Books s) (h : s.pc = .start ∨ s.pc = .choosing) :
    verified s.log = [] ∧ s.quickPeer = none := by
  have hq : s.quickPeer = none := hb.taken (by rcases h with h | h <;> simp [h])
  exact ⟨hb.nothing (by rcases h with h | h <;> simp [h]) hq, hq⟩

lemma connect_books (hq : s.quickPeer = none) : d.Books (d.connect s g) :=
  ⟨fun hpc => absurd rfl hpc, fun _ => hq⟩

/-- The loop goes on without a gateway. -/
lemma books_of_pc {pc : Pc} (hv : verified s.log = []) (hq : s.quickPeer = none) :
    d.Books { s with pc := pc } := by
  refine ⟨?_, fun _ => hq⟩
  intro _
  rw [hv, hq]
  rfl

lemma load_books {last : Option LastConnection} {answer ok : Bool} (hv : verified s.log = []) :
    d.Books (d.load s last answer ok mode ip) := by
  refine ⟨?_, fun hpc => absurd rfl hpc⟩
  intro _
  rw [load]
  simp only [State.verify, verified_append, hv, List.append_nil]

lemma retry_books {ok : Bool} (hb : d.Books s) (hpc : s.pc = .head) :
    d.Books (d.retry s ok) := by
  rw [retry]
  split
  case h_1 => exact connect_books rfl
  case h_2 hquick _ =>
    split
    · exact connect_books hquick
    · exact books_of_pc (hb.nothing (by simp [hpc]) hquick) hquick
  case h_3 hquick _ => exact books_of_pc (hb.nothing (by simp [hpc]) hquick) hquick

lemma scan_books {scans : List Scan} (hd : d.Coherent) (hv : verified s.log = [])
    (hq : s.quickPeer = none) : d.Books (d.scan s scans) := by
  rw [scan]
  obtain ⟨x, pr, hf⟩ | hf := hunts_cases hd s.mode s.ip d.profiles scans
  · simp only [hf.peer]
    exact connect_books hq
  · simp only [hf.peer, hf.probed]
    exact books_of_pc hv hq

variable {e : Event}

lemma Books.step (hb : d.Books s) (hd : d.Coherent) (hforced : d.forced = none)
    (h : d.step s e = some t) : d.Books t := by
  cases e with
  | refuse =>
      obtain ⟨⟨hpc, -⟩, ht⟩ := Option.ite_none_right_eq_some.mp h
      cases ht
      obtain ⟨hv, hquick⟩ := hb.idle (.inl hpc)
      exact books_of_pc hv hquick
  | load last answer ok mode ip =>
      obtain ⟨hpc, ht⟩ := Option.ite_none_right_eq_some.mp h
      cases ht
      exact load_books (hb.idle (.inl hpc)).1
  | retry ok =>
      obtain ⟨hpc, ht⟩ := Option.ite_none_right_eq_some.mp h
      cases ht
      exact retry_books hb hpc
  | scan scans =>
      obtain ⟨⟨hpc, -, -⟩, ht⟩ := Option.ite_none_right_eq_some.mp h
      cases ht
      obtain ⟨hv, hquick⟩ := hb.idle (.inr hpc)
      exact scan_books hd hv hquick
  | force oks =>
      obtain ⟨-, ht⟩ := Option.ite_none_right_eq_some.mp h
      rw [hforced] at ht
      cases ht
  | ended =>
      obtain ⟨hpc, ht⟩ := Option.ite_none_right_eq_some.mp h
      cases ht
      have hquick : s.quickPeer = none := hb.taken (by simp [hpc])
      exact books_of_pc (s := { s with log := .ended :: s.log }) rfl hquick

/-- What the head of the loop does: it uses a gateway again that has just been checked, or
goes on without one. -/
lemma retry_iff {ok : Bool} (hb : d.Books s) (hd : d.Coherent) (hforced : d.forced = none)
    (hpc : s.pc = .head) (hs : d.Honest s.log) :
    (∀ g ∈ reused s ok, d.tunnel g.peer = g.peer) ↔ d.Honest (d.retry s ok).log := by
  rw [retry, reused]
  split
  case h_1 g hquick =>
    have hv : verified s.log = [d.quickVerified g] := by
      rw [hb.pending (by simp [hpc]), hquick]
      rfl
    have huse := hd.honest_quick (s := { s with quickPeer := none }) hforced hv hs
    rw [huse, hquick]
    simp
  case h_2 g hquick hlast =>
    have hv : verified s.log = [] := hb.nothing (by simp [hpc]) hquick
    rw [hquick, hlast]
    cases ok with
    | false => exact iff_of_true (by simp) hs
    | true =>
        have hone : verified (s.verify [d.quickVerified g]).log = [d.quickVerified g] := by
          rw [State.verify, verified_append, hv, List.append_nil]
        rw [if_pos rfl, hd.honest_quick hforced hone ((d.honest_append _ _).mpr hs)]
        simp
  case h_3 hquick hlast =>
    rw [hquick, hlast]
    exact iff_of_true (by simp) hs

lemma scan_iff {scans : List Scan} (hd : d.Coherent) (hforced : d.forced = none)
    (hv : verified s.log = []) (hs : d.Honest s.log) :
    d.Direct s (.scan scans) ↔ d.Honest (d.scan s scans).log := by
  rw [Direct, scan]
  obtain ⟨x, pr, hf⟩ | hf := hunts_cases hd s.mode s.ip d.profiles scans
  · simp only [hf.peer]
    rw [hf.honest hd hforced hv hs]
    constructor
    · intro hall
      exact hall x hf.mem pr hf.best
    · intro hstands y hy q hq
      obtain ⟨rfl, rfl⟩ := hf.only y hy q hq
      exact hstands
  · simp only [hf.peer]
    refine iff_of_true ?_ ((d.honest_append _ _).mpr hs)
    intro y hy q hq
    rw [hf.best y hy] at hq
    cases hq

/-- **The step lemma**: without a forced peer, a step from an honest log leads to one exactly
when it meets the condition. -/
lemma direct_iff (hb : d.Books s) (hd : d.Coherent) (hforced : d.forced = none)
    (hs : d.Honest s.log) (h : d.step s e = some t) : d.Direct s e ↔ d.Honest t.log := by
  cases e with
  | refuse =>
      obtain ⟨-, ht⟩ := Option.ite_none_right_eq_some.mp h
      cases ht
      exact iff_of_true trivial hs
  | load last answer ok mode ip =>
      obtain ⟨-, ht⟩ := Option.ite_none_right_eq_some.mp h
      cases ht
      exact iff_of_true trivial ((d.honest_append _ _).mpr hs)
  | retry ok =>
      obtain ⟨hpc, ht⟩ := Option.ite_none_right_eq_some.mp h
      cases ht
      exact retry_iff hb hd hforced hpc hs
  | scan scans =>
      obtain ⟨⟨hpc, -, -⟩, ht⟩ := Option.ite_none_right_eq_some.mp h
      cases ht
      exact scan_iff hd hforced (hb.idle (.inr hpc)).1 hs
  | force oks =>
      obtain ⟨-, ht⟩ := Option.ite_none_right_eq_some.mp h
      rw [hforced] at ht
      cases ht
  | ended =>
      obtain ⟨-, ht⟩ := Option.ite_none_right_eq_some.mp h
      cases ht
      exact iff_of_true trivial ⟨trivial, hs⟩

/-- A run is honest exactly when its steps all meet the condition. -/
theorem honest_iff (hd : d.Coherent) (hforced : d.forced = none) {es : List Event}
    (h : Machine.run d.step .start es = some t) :
    Machine.Meets d.step d.Direct .start es
      ↔ Machine.Always d.step (fun s => d.Honest s.log) .start es :=
  Machine.meets_iff_always (fun _ _ _ hb ht => hb.step hd hforced ht)
    (fun _ _ _ hb hs ht => direct_iff hb hd hforced hs ht) start_books trivial h

end Driver

/-! ### The two programs -/

/-- The override of the address applies once. -/
lemma masquePeer_masquePeer (env : Env) (p : SocketAddr) :
    masquePeer env (masquePeer env p) = masquePeer env p := by
  rw [masquePeer, masquePeer, h2Peer, h2Peer]
  split
  · cases (env "AETHER_MASQUE_H2_PEER").bind fun v => SocketAddr.parse (trim v) with
    | none => rfl
    | some a => rfl
  · rfl

lemma runMasque_coherent (env : Env) : (runMasque env).Coherent where
  quick := rfl
  ping := rfl
  idem := masquePeer_masquePeer env
  chosen mode := huntBest_chosen mode.strategy

lemma runWireguard_coherent (env : Env) : (runWireguard env).Coherent where
  quick := rfl
  ping := rfl
  idem _ := rfl
  chosen mode := huntBest_chosen mode.wgStrategy

/-- A WireGuard gateway is the address of its tunnel. -/
lemma runWireguard_direct (env : Env) (s : State AetherNoizeConfig) :
    ∀ e, (runWireguard env).Direct s e
  | .retry _ => fun _ _ => rfl
  | .scan scans => by
      intro x hx pr hpr
      rw [Driver.Stands]
      split
      · rfl
      · have hd := runWireguard_coherent env
        obtain ⟨y, q, hf⟩ | hf :=
          Driver.hunts_cases hd s.mode s.ip (runWireguard env).profiles scans
        · obtain ⟨rfl, rfl⟩ := hf.only x hx pr hpr
          exact List.mem_map_of_mem hf.seen
        · rw [hf.best x hx] at hpr
          cases hpr
  | .refuse | .load .. | .force _ | .ended => trivial

/-- **What was verified is what is dialed and saved**: without a forced peer, in every state
of a MASQUE run exactly when no gateway that is used is overridden by another address that
its scan has not seen pass, and in every state of every WireGuard run. -/
theorem dialed_iff (env : Env) (hmasque : env "AETHER_PEER" = none) :
    (∀ es s, Machine.run (runMasque env).step .start es = some s →
      (Machine.Meets (runMasque env).step (runMasque env).Direct .start es
        ↔ Machine.Always (runMasque env).step (fun s => (runMasque env).Honest s.log) .start es))
      ∧ (env "AETHER_WG_PEER" = none → ∀ es,
        Machine.Always (runWireguard env).step (fun s => (runWireguard env).Honest s.log)
          .start es) := by
  refine ⟨fun es s h => Driver.honest_iff (runMasque_coherent env) hmasque h, ?_⟩
  intro hwg es fs u hfs hu
  have hforced : (runWireguard env).forced = none := by
    show (env "AETHER_WG_PEER").orElse (fun _ => env "AETHER_PEER") = none
    rw [hwg, hmasque]
    rfl
  have hall := (Driver.honest_iff (runWireguard_coherent env) hforced hu).mp
    (Machine.meets_of_forall fun e _ s => runWireguard_direct env s e)
  exact hall fs u List.prefix_rfl hu

/-- HTTP/2, to an address of its own. -/
def overridden : Env
  | "AETHER_MASQUE_HTTP2" => some "1"
  | "AETHER_MASQUE_H2_PEER" => some " 1.2.3.4:443"
  | _ => none

/-- A gateway of Cloudflare. -/
def gateway : IpAddr := .v4 (.new 162 159 198 1)

/-- The scan selects a gateway and has also seen the override pass, which is slower; the tunnel
ends, and the gateway is not used again. -/
def standing : List Event :=
  [.load none true true .balanced .v4, .retry true,
    .scan [⟨false, 0, [⟨0, .passed ⟨gateway, 443, 20⟩ 1⟩, ⟨2, .failed⟩,
      ⟨3, .passed ⟨.v4 (.new 1 2 3 4), 443, 30⟩ 4⟩]⟩],
    .ended, .retry false]

/-- The override stands behind the gateway of a MASQUE run, and a WireGuard run uses its cached
gateway twice. -/
theorem dialed_iff_stands :
    Machine.Always (runMasque overridden).step (fun s => (runMasque overridden).Honest s.log) .start
        standing
      ∧ Machine.Always (runWireguard overridden).step
        (fun s => (runWireguard overridden).Honest s.log) .start
        [.load (some ⟨"162.159.198.1:443", "light"⟩) true true .balanced .v4, .retry true, .ended,
          .retry true] := by
  have hall := dialed_iff overridden rfl
  obtain ⟨s, hs⟩ := Option.isSome_iff_exists.mp
    (show (Machine.run (runMasque overridden).step .start standing).isSome by decide +kernel)
  exact ⟨(hall.1 _ s hs).mp (by decide +kernel), hall.2 rfl _⟩

/-- The scan verifies the gateway that it selects, and the tunnel connects to an address that
nothing has verified. -/
theorem override_unverified :
    ¬ ∀ env : Env, env "AETHER_PEER" = none → env "AETHER_WG_PEER" = none →
      (∀ es s, Machine.run (runMasque env).step .start es = some s → (runMasque env).Honest s.log)
        ∧ ∀ es s, Machine.run (runWireguard env).step .start es = some s →
          (runWireguard env).Honest s.log := by
  intro hall
  have hrun : (Machine.run (runMasque overridden).step .start
      [.load none true true .balanced .v4, .retry true,
        .scan [⟨false, 0, [⟨0, .passed ⟨gateway, 443, 20⟩ 1⟩]⟩]]).map
        (fun s => (decide ((runMasque overridden).Honest s.log), s.log.length))
      = some (false, 3) := by
    decide +kernel
  obtain ⟨s, hs, heq⟩ := Option.map_eq_some_iff.mp hrun
  have hhonest := (hall overridden rfl rfl).1 _ s hs
  exact of_decide_eq_false (congrArg Prod.fst heq) hhonest

end Aether.Reconnect
