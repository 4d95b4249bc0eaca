import Aether.Account
import Aether.Restarts.Candidate

/-!
The starts of `Restarts`, with what they send to the account service.

The network of a start is a session with the service, and what is sent in it is recorded.

* `identities_fst`: a start that is recorded is one of `Restarts`.
* `start_disk`, `turn_disk`: what a start and a turn of a loop leave of the files.
* `pem_credentials`: the credentials that an enrolment gives.
-/

namespace Aether.Provenance

open Config Account Machine
open Restarts (Paths Textual Process)

/-! ### Starts, with what they send -/

/-- What a session is for the loaders. -/
def network (crates : Crates) (s : Session) : Network where
  provisionWg := (provisionWg crates s DEFAULT_MODEL DEFAULT_LOCALE none).1
  ensureMasqueEnrolled id := (ensureMasqueEnrolled crates s id).1

section Loaders

variable (toml : Toml) (crates : Crates) (s : Session) (disk : Disk) (configPath : String)

def loadOrProvisionWarp : (Call Identity × Disk) × List Act :=
  match load toml disk configPath with
  | .err e => ((.err e, disk), [])
  | .panicked message => ((.panicked message, disk), [])
  | .ok (some identity) => ((.ok identity, disk), [])
  | .ok none =>
      match provisionWg crates s DEFAULT_MODEL DEFAULT_LOCALE none with
      | (.ok identity, acts) => (Config.saved toml disk configPath identity, acts)
      | (.error e, acts) => ((.err e, disk), acts)

/-- The identity is enrolled for MASQUE and saved. -/
def enrolled (identity : Identity) : (Call Identity × Disk) × List Act :=
  match ensureMasqueEnrolled crates s identity with
  | (.ok (certPem, keyPem), acts) =>
      (Config.saved toml disk configPath { identity with certPem, keyPem }, acts)
  | (.error e, acts) => ((.err e, disk), acts)

def loadOrProvisionMasque : (Call Identity × Disk) × List Act :=
  match load toml disk configPath with
  | .err e => ((.err e, disk), [])
  | .panicked message => ((.panicked message, disk), [])
  | .ok (some identity) =>
      if identity.hasMasqueCredentials then ((.ok identity, disk), [])
      else enrolled toml crates s disk configPath identity
  | .ok none =>
      match provisionWg crates s DEFAULT_MODEL DEFAULT_LOCALE none with
      | (.ok identity, acts) =>
          let (x, more) := enrolled toml crates s disk configPath identity
          (x, acts ++ more)
      | (.error e, acts) => ((.err e, disk), acts)

end Loaders

/-- What a start needs of the files. -/
def identities (toml : Toml) (crates : Crates) (outer inner : Session) (paths : Paths)
    (disk : Disk) : Protocol → (Call (List Identity) × Disk) × List Act
  | .masque =>
      let (x, acts) := loadOrProvisionMasque toml crates outer disk paths.masque
      (Restarts.followed x fun identity disk => (.ok [identity], disk), acts)
  | .wireGuard =>
      let (x, acts) := loadOrProvisionWarp toml crates outer disk paths.warp
      (Restarts.followed x fun identity disk => (.ok [identity], disk), acts)
  | .warpInWarp =>
      match loadOrProvisionWarp toml crates outer disk paths.warp with
      | ((.ok primary, disk), acts) =>
          let (y, more) := loadOrProvisionWarp toml crates inner disk paths.secondary
          (Restarts.followed y fun secondary disk => (.ok [primary, secondary], disk),
            acts ++ more)
      | ((.err e, disk), acts) => ((.err e, disk), acts)
      | ((.panicked message, disk), acts) => ((.panicked message, disk), acts)

/-- What happens: an event of `Restarts`, whose networks are sessions. -/
inductive Event where
  | errors (unreadable : String → Option String)
      (unwritable : String → Option (String × Option Bytes))
  | start (env : Env) (answer : Protocol) (outer inner : Session)
  | turn (e : Reconnect.Event)

def Event.plain (crates : Crates) : Event → Restarts.Event
  | .errors unreadable unwritable => .errors unreadable unwritable
  | .start env answer outer inner =>
      .start env answer (network crates outer) (network crates inner)
  | .turn e => .turn e

/-- The process, what was sent so far, the identities that starts have returned, and how many starts
have failed to. -/
structure World where
  base : Restarts.World
  acts : List Act
  used : List Identity
  failed : ℕ

/-- A start is recorded. -/
def World.record (w : World) (base : Restarts.World) (acts : List Act) :
    Call (List Identity) → World
  | .ok ids => { w with base, acts := w.acts ++ acts, used := w.used ++ ids }
  | .err _ | .panicked _ => { w with base, acts := w.acts ++ acts, failed := w.failed + 1 }

def step (toml : Toml) (crates : Crates) (paths : Paths) (w : World) (e : Event) : Option World :=
  (Restarts.step toml paths w.base (e.plain crates)).map fun base =>
    match e with
    | .start env answer outer inner =>
        let (x, acts) := identities toml crates outer inner paths w.base.disk
          ((selectProtocol env).getD answer)
        w.record base acts x.1
    | .errors _ _ | .turn _ => { w with base }

/-- The keys that were registered, in their order. -/
def keys (acts : List Act) : List (Fixed 32) := acts.filterMap Act.key

/-- The keys that a start draws for its sessions. -/
def Event.keys : Event → List (Fixed 32)
  | .start _ _ outer inner => [clamp outer.private32, clamp inner.private32]
  | .errors _ _ | .turn _ => []

def registrations (acts : List Act) : ℕ :=
  acts.countP fun
    | .register _ _ _ => true
    | .enroll _ _ _ => false

def enrolments (acts : List Act) : ℕ :=
  acts.countP fun
    | .register _ _ _ => false
    | .enroll _ _ _ => true

/-! ### The starts of `Restarts` -/

section Plain

variable {toml : Toml} {crates : Crates} {s outer inner : Session} {disk : Disk} {path : String}
  {paths : Paths}

lemma loadOrProvisionWarp_fst : (loadOrProvisionWarp toml crates s disk path).1
    = Config.loadOrProvisionWarp toml (network crates s) disk path := by
  rw [loadOrProvisionWarp, Config.loadOrProvisionWarp, network]
  dsimp only
  rcases load toml disk path with (_ | identity) | e | message
  · rcases provisionWg crates s DEFAULT_MODEL DEFAULT_LOCALE none with ⟨e | identity, acts⟩ <;> rfl
  · rfl
  · rfl
  · rfl

lemma enrolled_fst (identity : Identity) : (enrolled toml crates s disk path identity).1
    = Config.enrolled toml (network crates s) disk path identity := by
  rw [enrolled, Config.enrolled, network]
  dsimp only
  rcases ensureMasqueEnrolled crates s identity with ⟨e | ⟨certPem, keyPem⟩, acts⟩ <;> rfl

lemma loadOrProvisionMasque_fst : (loadOrProvisionMasque toml crates s disk path).1
    = Config.loadOrProvisionMasque toml (network crates s) disk path := by
  rw [loadOrProvisionMasque, Config.loadOrProvisionMasque]
  rcases load toml disk path with (_ | identity) | e | message
  · rw [network]
    dsimp only
    rcases provisionWg crates s DEFAULT_MODEL DEFAULT_LOCALE none with ⟨e | identity, acts⟩
    · rfl
    · exact enrolled_fst identity
  · dsimp only
    split
    · rfl
    · exact enrolled_fst identity
  · rfl
  · rfl

/-- **A start that is recorded is one of `Restarts`.** -/
lemma identities_fst (protocol : Protocol) :
    (identities toml crates outer inner paths disk protocol).1
      = Restarts.identities toml (network crates outer) (network crates inner) paths disk
          protocol := by
  cases protocol with
  | masque =>
      rw [identities, Restarts.identities, ← loadOrProvisionMasque_fst]
  | wireGuard =>
      rw [identities, Restarts.identities, ← loadOrProvisionWarp_fst]
  | warpInWarp =>
      rw [identities, Restarts.identities, ← loadOrProvisionWarp_fst]
      rcases loadOrProvisionWarp toml crates outer disk paths.warp with
        ⟨⟨primary | e | message, disk'⟩, acts⟩
      · show Restarts.followed (loadOrProvisionWarp toml crates inner disk' paths.secondary).1 _ = _
        rw [loadOrProvisionWarp_fst]
        rfl
      · rfl
      · rfl

/-- The disk after a start. -/
lemma start_disk {w base : Restarts.World} {env : Env} {answer : Protocol}
    (h : Restarts.step toml paths w (.start env answer (network crates outer)
      (network crates inner)) = some base) :
    base.disk = (identities toml crates outer inner paths w.disk
      ((selectProtocol env).getD answer)).1.2 := by
  rw [Restarts.step, Option.ite_none_right_eq_some] at h
  obtain ⟨-, h⟩ := h
  cases h
  rw [identities_fst]
  rfl

/-- What a turn of a loop does to the files. -/
lemma turn_disk {π : Type} {d : Reconnect.Driver π} {w w' : Restarts.World}
    {t : Reconnect.State π} {mk : Reconnect.State π → Process} {e : Reconnect.Event}
    (h : Restarts.turn toml d path w t mk e = some w') : w'.disk = w.disk
      ∨ ∃ peer profile, w'.disk = (Restarts.saveLast toml w.disk path peer profile).2 := by
  obtain ⟨t', -, heq⟩ := Option.map_eq_some_iff.mp h
  cases hsaved : Restarts.saved t t' with
  | none =>
      rw [hsaved] at heq
      cases heq
      exact .inl rfl
  | some g =>
      rw [hsaved] at heq
      cases heq
      exact .inr ⟨_, _, rfl⟩

end Plain

/-! ### PEM -/

section Pem

variable {crates : Crates} {s : Session} {id : Identity}

/-- PEM is text, and some. -/
def PemSession (s : Session) : Prop :=
  ∀ keypair, s.keypair = .ok keypair →
    (∃ cert key, keypair.certPem = Utf8.encode cert ∧ keypair.keyPem = Utf8.encode key)
      ∧ keypair.certPem ≠ [] ∧ keypair.keyPem ≠ []

/-- What an enrolment gives is PEM. -/
lemma pem_credentials (hpem : PemSession s) (hcreds : id.hasMasqueCredentials = false)
    {certPem keyPem : Bytes} (h : (ensureMasqueEnrolled crates s id).1 = .ok (certPem, keyPem)) :
    Textual { id with certPem, keyPem }
      ∧ Identity.hasMasqueCredentials { id with certPem, keyPem } = true := by
  obtain ⟨keypair, hpair, rfl, rfl⟩ := ensureMasqueEnrolled_pair hcreds h
  obtain ⟨⟨cert, key, hcert, hkey⟩, hcertNe, hkeyNe⟩ := hpem keypair hpair
  refine ⟨⟨cert, key, hcert, hkey⟩, ?_⟩
  rw [Identity.hasMasqueCredentials, List.isEmpty_eq_false_iff.mpr hcertNe,
    List.isEmpty_eq_false_iff.mpr hkeyNe]
  rfl

lemma bare_credentials (hcert : id.certPem = []) : id.hasMasqueCredentials = false := by
  rw [Identity.hasMasqueCredentials, hcert]
  rfl

end Pem

/-! ### A full disk, and a start after it -/

/-- A world of which nothing is recorded. -/
def World.start (base : Restarts.World) : World := ⟨base, [], [], 0⟩

end Aether.Provenance
