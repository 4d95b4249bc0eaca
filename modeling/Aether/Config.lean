import Aether.Error
import Aether.Lib.Base64
import Aether.Lib.Utf8
import Mathlib.Logic.Function.Basic

/-!
The identity file (`config.rs`), with the functions of `main.rs` that load it or provision an
account.

A text passes through the parser of `toml`, the deserialiser that is derived for
`PersistedIdentity`, and a conversion that decodes the keys and has no way to fail but a panic.
The parser is a parameter; what is read from its table is not.

* `into_of_valid`, `into_of_not_valid`: the conversion panics exactly on keys that do not decode
  to 32 bytes.
* `loads_cleanly_iff`: **loading ends in `Ok` or `Err`, and does not touch the file, exactly when**
  the text is refused before the conversion or its keys decode to 32 bytes.
* `load_save`: **a saved identity comes back unchanged**, and so it does when its certificate is
  replaced, but for that.
-/

namespace Aether.Config

/-! ### Calls that may panic -/

/-- How a call ends: with a value, with an error, or in a panic. -/
inductive Call (α : Type) where
  | ok (a : α)
  | err (e : AetherError)
  | panicked (message : String)
  deriving DecidableEq

namespace Call

variable {α β : Type}

protected def bind (x : Call α) (f : α → Call β) : Call β :=
  match x with
  | ok a => f a
  | err e => err e
  | panicked message => panicked message

instance : Monad Call where
  pure := ok
  bind := Call.bind

/-- `?`. -/
def ofExcept : Except AetherError α → Call α
  | .ok a => ok a
  | .error e => err e

/-- `expect`. -/
def expect (message : String) : Option α → Call α
  | some a => ok a
  | none => panicked message

/-- The call does not panic. -/
def Returns (x : Call α) : Prop := ∀ message, x ≠ panicked message

lemma ok_returns (a : α) : (ok a).Returns := by
  rintro message ⟨⟩

lemma err_returns (e : AetherError) : (err e : Call α).Returns := by
  rintro message ⟨⟩

lemma ok_bind (a : α) (f : α → Call β) : (ok a >>= f) = f a := rfl

lemma panicked_bind (message : String) (f : α → Call β) :
    (panicked message >>= f) = panicked message := rfl

end Call

/-- `[u8; n]`. -/
abbrev Fixed (n : ℕ) := { bs : Bytes // bs.length = n }

/-- `copy_from_slice` into an array of `n` bytes. -/
def copyFromSlice (n : ℕ) (src : Bytes) : Call (Fixed n) :=
  if h : src.length = n then .ok ⟨src, h⟩
  else .panicked s!"copy_from_slice: source slice length ({src.length}) does not match destination slice length ({n})"

/-! ### Identities -/

/-- `account::Identity`. -/
structure Identity where
  deviceId : String
  accessToken : String
  certPem : Bytes
  keyPem : Bytes
  ipv4 : String
  ipv6 : String
  wgPrivateKey : Fixed 32
  wgPeerPublicKey : Fixed 32
  clientId : Fixed 3
  deriving DecidableEq

def Identity.hasMasqueCredentials (id : Identity) : Bool :=
  !id.certPem.isEmpty && !id.keyPem.isEmpty

structure PersistedIdentity where
  deviceId : String
  accessToken : String
  certPem : String
  keyPem : String
  ipv4 : String
  ipv6 : String
  wgPrivateKey : String
  wgPeerPublicKey : String
  clientId : String
  deriving DecidableEq

/-- `From<&Identity> for PersistedIdentity`. -/
def PersistedIdentity.ofIdentity (id : Identity) : PersistedIdentity where
  deviceId := id.deviceId
  accessToken := id.accessToken
  certPem := Utf8.lossy id.certPem
  keyPem := Utf8.lossy id.keyPem
  ipv4 := id.ipv4
  ipv6 := id.ipv6
  wgPrivateKey := Base64.encode id.wgPrivateKey.val
  wgPeerPublicKey := Base64.encode id.wgPeerPublicKey.val
  clientId := Base64.encode id.clientId.val

/-- The client id of a text, zeros where it is not one. -/
def clientIdOf (text : String) : Fixed 3 :=
  if text.isEmpty then ⟨[0, 0, 0], rfl⟩
  else
    match Base64.decode text with
    | some decoded => if h : decoded.length = 3 then ⟨decoded, h⟩ else ⟨[0, 0, 0], rfl⟩
    | none => ⟨[0, 0, 0], rfl⟩

/-- `From<PersistedIdentity> for Identity`. -/
def PersistedIdentity.into (p : PersistedIdentity) : Call Identity := do
  let wgPriv ← Call.expect "decode wg private key" (Base64.decode p.wgPrivateKey)
  let wgPeer ← Call.expect "decode wg peer public key" (Base64.decode p.wgPeerPublicKey)
  let wgPrivateKey ← copyFromSlice 32 wgPriv
  let wgPeerPublicKey ← copyFromSlice 32 wgPeer
  .ok
    { deviceId := p.deviceId
      accessToken := p.accessToken
      certPem := Utf8.encode p.certPem
      keyPem := Utf8.encode p.keyPem
      ipv4 := p.ipv4
      ipv6 := p.ipv6
      wgPrivateKey := wgPrivateKey
      wgPeerPublicKey := wgPeerPublicKey
      clientId := clientIdOf p.clientId }

/-- The text is the base64 of 32 bytes. -/
def IsKey (text : String) : Prop := ∃ key : Fixed 32, Base64.decode text = some key.val

/-- Both key fields hold keys. -/
structure PersistedIdentity.Valid (p : PersistedIdentity) : Prop where
  privateKey : IsKey p.wgPrivateKey
  peerPublicKey : IsKey p.wgPeerPublicKey

lemma copyFromSlice_val {n : ℕ} (key : Fixed n) : copyFromSlice n key.val = .ok key :=
  dif_pos key.property

lemma copyFromSlice_of_ne {n : ℕ} {src : Bytes} (h : ∀ key : Fixed n, src ≠ key.val) :
    ∃ message, copyFromSlice n src = .panicked message :=
  ⟨_, dif_neg fun hlen => h ⟨src, hlen⟩ rfl⟩

/-- **Keys of 32 bytes are converted.** -/
lemma into_of_valid {p : PersistedIdentity} (h : p.Valid) : ∃ id, p.into = .ok id := by
  obtain ⟨⟨priv, hpriv⟩, peer, hpeer⟩ := h
  rw [PersistedIdentity.into, hpriv, hpeer]
  simp only [Call.expect, Call.ok_bind, copyFromSlice_val]
  exact ⟨_, rfl⟩

/-- **Other keys are a panic.** -/
lemma into_of_not_valid {p : PersistedIdentity} (h : ¬ p.Valid) :
    ∃ message, p.into = .panicked message := by
  rw [PersistedIdentity.into]
  cases hpriv : Base64.decode p.wgPrivateKey with
  | none => exact ⟨_, rfl⟩
  | some priv =>
      cases hpeer : Base64.decode p.wgPeerPublicKey with
      | none => exact ⟨_, rfl⟩
      | some peer =>
          simp only [Call.expect, Call.ok_bind]
          by_cases hlen : priv.length = 32
          · have hother : ∀ key : Fixed 32, peer ≠ key.val := by
              rintro key rfl
              exact h ⟨⟨⟨priv, hlen⟩, hpriv⟩, key, hpeer⟩
            obtain ⟨message, hcopy⟩ := copyFromSlice_of_ne hother
            rw [copyFromSlice_val ⟨priv, hlen⟩, Call.ok_bind, hcopy]
            exact ⟨message, rfl⟩
          · have hother : ∀ key : Fixed 32, priv ≠ key.val := by
              rintro key rfl
              exact hlen key.property
            obtain ⟨message, hcopy⟩ := copyFromSlice_of_ne hother
            rw [hcopy]
            exact ⟨message, rfl⟩

/-! ### TOML -/

/-- A value of a table. -/
inductive Value where
  | string (text : String)
  | other
  deriving DecidableEq

def Value.text? : Value → Option String
  | string text => some text
  | other => none

/-- What the derived deserialiser complains about. -/
inductive DeError where
  | invalidType (field : String)
  | missingField (field : String)
  deriving DecidableEq

/-- The `toml` crate: its parser, its pretty printer for a table of strings, and how it reports an
error of the deserialiser. -/
structure Toml where
  parse : String → Except String (List (String × Value))
  toStringPretty : List (String × String) → Except String String
  report : String → DeError → String

/-- A table of strings that is printed is parsed again. -/
def Toml.RoundTrips (toml : Toml) : Prop :=
  ∀ fields text, (fields.map Prod.fst).Nodup → toml.toStringPretty fields = .ok text →
    toml.parse text = .ok (fields.map fun f => (f.1, .string f.2))

/-- The derived `Serialize`. -/
def PersistedIdentity.serialize (p : PersistedIdentity) : List (String × String) :=
  [("device_id", p.deviceId), ("access_token", p.accessToken), ("cert_pem", p.certPem),
    ("key_pem", p.keyPem), ("ipv4", p.ipv4), ("ipv6", p.ipv6),
    ("wg_private_key", p.wgPrivateKey), ("wg_peer_public_key", p.wgPeerPublicKey),
    ("client_id", p.clientId)]

def fieldNames : List String :=
  ["device_id", "access_token", "cert_pem", "key_pem", "ipv4", "ipv6", "wg_private_key",
    "wg_peer_public_key", "client_id"]

def textOf (table : List (String × Value)) (field : String) : Option String :=
  (table.lookup field).bind Value.text?

def required (table : List (String × Value)) (field : String) : Except DeError String :=
  match textOf table field with
  | some text => .ok text
  | none => .error (.missingField field)

/-- `#[serde(default)]`. -/
def defaulted (table : List (String × Value)) (field : String) : String :=
  (textOf table field).getD ""

/-- The derived `Deserialize`: a field that is no string is an error where it stands, a missing one
at the end. -/
def deserialize (table : List (String × Value)) : Except DeError PersistedIdentity :=
  match table.find? fun entry => fieldNames.contains entry.1 && entry.2.text?.isNone with
  | some entry => .error (.invalidType entry.1)
  | none => do
      let deviceId ← required table "device_id"
      let accessToken ← required table "access_token"
      let ipv4 ← required table "ipv4"
      let ipv6 ← required table "ipv6"
      let wgPrivateKey ← required table "wg_private_key"
      let wgPeerPublicKey ← required table "wg_peer_public_key"
      .ok
        { deviceId, accessToken, ipv4, ipv6, wgPrivateKey, wgPeerPublicKey
          certPem := defaulted table "cert_pem"
          keyPem := defaulted table "key_pem"
          clientId := defaulted table "client_id" }

/-- `toml::from_str`. -/
def Toml.fromStr (toml : Toml) (text : String) : Except String PersistedIdentity := do
  let table ← toml.parse text
  (deserialize table).mapError (toml.report text)

lemma deserialize_serialize (p : PersistedIdentity) :
    deserialize (p.serialize.map fun f => (f.1, .string f.2)) = .ok p := by
  rfl

/-- What is saved is read. -/
lemma Toml.RoundTrips.fromStr {toml : Toml} (h : toml.RoundTrips) {p : PersistedIdentity}
    {text : String} (htext : toml.toStringPretty p.serialize = .ok text) :
    toml.fromStr text = .ok p := by
  have hnodup : (p.serialize.map Prod.fst).Nodup := by
    show fieldNames.Nodup
    decide
  rw [Toml.fromStr, h _ _ hnodup htext, Except.ok_bind, deserialize_serialize]
  rfl

/-! ### Files -/

/-- The files, with the errors that their reads and writes meet. A write that fails may leave the
file in any state. -/
structure Disk where
  files : String → Option Bytes
  unreadable : String → Option String
  unwritable : String → Option (String × Option Bytes)

namespace Disk

/-- `std::fs::read_to_string`. -/
def readToString (disk : Disk) (path : String) : Except AetherError String :=
  match disk.unreadable path, disk.files path with
  | some e, _ => .error (.io e)
  | none, none => .error (.io "No such file or directory (os error 2)")
  | none, some bytes =>
      match Utf8.decode bytes with
      | some text => .ok text
      | none => .error (.io "stream did not contain valid UTF-8")

/-- `std::fs::write`. -/
def write (disk : Disk) (path text : String) : Except AetherError Unit × Disk :=
  match disk.unwritable path with
  | some (e, left) =>
      (.error (.io e), { disk with files := Function.update disk.files path left })
  | none =>
      (.ok (), { disk with files := Function.update disk.files path (some (Utf8.encode text)) })

/-- The file holds a text and can be read. -/
structure Holds (disk : Disk) (path text : String) : Prop where
  file : disk.files path = some (Utf8.encode text)
  readable : disk.unreadable path = none

variable {disk disk' : Disk} {path text : String}

lemma Holds.readToString (h : disk.Holds path text) : disk.readToString path = .ok text := by
  rw [Disk.readToString, h.readable, h.file]
  dsimp only
  rw [Utf8.decode_encode]

/-- A write succeeds exactly where the file can be written. -/
lemma write_ok_iff : (disk.write path text).1 = .ok () ↔ disk.unwritable path = none := by
  rw [write]
  split
  · rename_i hw
    simp [hw]
  · rename_i hw
    simp [hw]

/-- What can be read and written stays as it is. -/
lemma write_frame : (disk.write path text).2.unreadable = disk.unreadable
    ∧ (disk.write path text).2.unwritable = disk.unwritable := by
  rw [write]
  split <;> exact ⟨rfl, rfl⟩

/-- A write that succeeds leaves its text in the file. -/
lemma write_ok (h : (disk.write path text).1 = .ok ()) (hread : disk.unreadable path = none) :
    (disk.write path text).2.Holds path text := by
  rw [write, write_ok_iff.mp h]
  exact ⟨Function.update_self .., hread⟩

end Disk

/-! ### Loading and saving -/

/-- The text of the file, parsed. -/
def readPersisted (toml : Toml) (disk : Disk) (path : String) :
    Except AetherError PersistedIdentity := do
  let text ← disk.readToString path
  (toml.fromStr text).mapError fun e => .other s!"config parse: {e}"

def load (toml : Toml) (disk : Disk) (path : String) : Call (Option Identity) :=
  if (disk.files path).isNone then .ok none
  else do
    let persisted ← Call.ofExcept (readPersisted toml disk path)
    let identity ← persisted.into
    .ok (some identity)

/-- The printed text is written. -/
def writePersisted (toml : Toml) (disk : Disk) (path : String) (persisted : PersistedIdentity) :
    Except AetherError Unit × Disk :=
  match toml.toStringPretty persisted.serialize with
  | .error e => (.error (.other s!"config encode: {e}"), disk)
  | .ok text => disk.write path text

def save (toml : Toml) (disk : Disk) (path : String) (identity : Identity) :
    Except AetherError Unit × Disk :=
  writePersisted toml disk path (.ofIdentity identity)

def saveMasqueCreds (toml : Toml) (disk : Disk) (path : String) (certPem keyPem : Bytes) :
    Except AetherError Unit × Disk :=
  if (disk.files path).isNone then (.ok (), disk)
  else
    match readPersisted toml disk path with
    | .error e => (.error e, disk)
    | .ok persisted =>
        writePersisted toml disk path
          { persisted with certPem := Utf8.lossy certPem, keyPem := Utf8.lossy keyPem }

/-- What `account` gets from the network. -/
structure Network where
  provisionWg : Except AetherError Identity
  ensureMasqueEnrolled : Identity → Except AetherError (Bytes × Bytes)

/-- The end of provisioning: the identity is saved. -/
def saved (toml : Toml) (disk : Disk) (path : String) (identity : Identity) :
    Call Identity × Disk :=
  match save toml disk path identity with
  | (.ok (), disk') => (.ok identity, disk')
  | (.error e, disk') => (.err e, disk')

/-- The identity is enrolled for MASQUE and saved. -/
def enrolled (toml : Toml) (net : Network) (disk : Disk) (path : String) (identity : Identity) :
    Call Identity × Disk :=
  match net.ensureMasqueEnrolled identity with
  | .ok (certPem, keyPem) => saved toml disk path { identity with certPem, keyPem }
  | .error e => (.err e, disk)

def loadOrProvisionWarp (toml : Toml) (net : Network) (disk : Disk) (configPath : String) :
    Call Identity × Disk :=
  match load toml disk configPath with
  | .err e => (.err e, disk)
  | .panicked message => (.panicked message, disk)
  | .ok (some identity) => (.ok identity, disk)
  | .ok none =>
      match net.provisionWg with
      | .ok identity => saved toml disk configPath identity
      | .error e => (.err e, disk)

def loadOrProvisionMasque (toml : Toml) (net : Network) (disk : Disk) (configPath : String) :
    Call Identity × Disk :=
  match load toml disk configPath with
  | .err e => (.err e, disk)
  | .panicked message => (.panicked message, disk)
  | .ok (some identity) =>
      if identity.hasMasqueCredentials then (.ok identity, disk)
      else enrolled toml net disk configPath identity
  | .ok none =>
      match net.provisionWg with
      | .ok identity => enrolled toml net disk configPath identity
      | .error e => (.err e, disk)

/-! ### Every text of the file -/

section Load

variable {toml : Toml} {disk disk' : Disk} {path text : String}

lemma readPersisted_eq (h : disk.Holds path text) : readPersisted toml disk path
    = (toml.fromStr text).mapError fun e => .other s!"config parse: {e}" := by
  rw [readPersisted, h.readToString, Except.ok_bind]

/-- A text that is parsed is converted. -/
lemma load_of_ok (h : disk.Holds path text) {p : PersistedIdentity}
    (hp : toml.fromStr text = .ok p) :
    load toml disk path = p.into >>= fun identity => .ok (some identity) := by
  rw [load, h.file, if_neg (by simp), readPersisted_eq h, hp]
  rfl

/-- A text that is not parsed is an error. -/
lemma load_of_error (h : disk.Holds path text) {e : String} (he : toml.fromStr text = .error e) :
    load toml disk path = .err (.other s!"config parse: {e}") := by
  rw [load, h.file, if_neg (by simp), readPersisted_eq h, he]
  rfl

/-- The text is a valid identity. -/
def ValidText (toml : Toml) (text : String) : Prop :=
  ∃ p, toml.fromStr text = .ok p ∧ p.Valid

/-- The loaders end in `Ok` or `Err`, whatever the network does. A text that is no valid identity
gives `Err` before the network is asked, and leaves the files alone. -/
structure LoadsCleanly (toml : Toml) (disk : Disk) (path text : String) : Prop where
  returns : (load toml disk path).Returns
  returnsWarp : ∀ net, (loadOrProvisionWarp toml net disk path).1.Returns
  returnsMasque : ∀ net, (loadOrProvisionMasque toml net disk path).1.Returns
  refused : ¬ ValidText toml text → ∃ e, load toml disk path = .err e
    ∧ ∀ net, loadOrProvisionWarp toml net disk path = (.err e, disk)
      ∧ loadOrProvisionMasque toml net disk path = (.err e, disk)

lemma saved_returns (toml : Toml) (disk : Disk) (path : String) (identity : Identity) :
    (saved toml disk path identity).1.Returns := by
  rw [saved]
  split
  · exact Call.ok_returns _
  · exact Call.err_returns _

lemma enrolled_returns (toml : Toml) (net : Network) (disk : Disk) (path : String)
    (identity : Identity) : (enrolled toml net disk path identity).1.Returns := by
  rw [enrolled]
  split
  · exact saved_returns _ _ _ _
  · exact Call.err_returns _

/-- A file that loads as an identity. -/
lemma loadsCleanly_of_ok (hvalid : ValidText toml text) {identity : Identity}
    (hload : load toml disk path = .ok (some identity)) : LoadsCleanly toml disk path text where
  returns := by
    rw [hload]
    exact Call.ok_returns _
  returnsWarp net := by
    rw [loadOrProvisionWarp, hload]
    exact Call.ok_returns _
  returnsMasque net := by
    rw [loadOrProvisionMasque, hload]
    dsimp only
    split
    · exact Call.ok_returns _
    · exact enrolled_returns _ _ _ _ _
  refused hno := absurd hvalid hno

/-- A file that loads as an error. -/
lemma loadsCleanly_of_err {e : AetherError} (hload : load toml disk path = .err e) :
    LoadsCleanly toml disk path text where
  returns := by
    rw [hload]
    exact Call.err_returns e
  returnsWarp net := by
    rw [loadOrProvisionWarp, hload]
    exact Call.err_returns e
  returnsMasque net := by
    rw [loadOrProvisionMasque, hload]
    exact Call.err_returns e
  refused _ := by
    refine ⟨e, hload, fun net => ⟨?_, ?_⟩⟩
    · rw [loadOrProvisionWarp, hload]
    · rw [loadOrProvisionMasque, hload]

/-- **Loading is clean exactly when** the text is refused by the parser or the deserialiser, or both
its keys decode to 32 bytes. Every other text is a panic. -/
theorem loads_cleanly_iff (toml : Toml) (disk : Disk) (path text : String)
    (h : disk.Holds path text) :
    LoadsCleanly toml disk path text ↔ ∀ p, toml.fromStr text = .ok p → p.Valid := by
  constructor
  · intro hclean p hp
    by_contra hno
    obtain ⟨message, hinto⟩ := into_of_not_valid hno
    refine hclean.returns message ?_
    rw [load_of_ok h hp, hinto, Call.panicked_bind]
  · intro hall
    cases hparsed : toml.fromStr text with
    | error e => exact loadsCleanly_of_err (load_of_error h hparsed)
    | ok p =>
        have hvalid := hall p hparsed
        obtain ⟨identity, hinto⟩ := into_of_valid hvalid
        have hload : load toml disk path = .ok (some identity) := by
          rw [load_of_ok h hparsed, hinto, Call.ok_bind]
        exact loadsCleanly_of_ok ⟨p, hparsed, hvalid⟩ hload

/-- Plain strings as `toml` prints them. -/
def printed (fields : List (String × String)) : String :=
  String.join (fields.map fun f => f.1 ++ " = \"" ++ f.2 ++ "\"\n")

/-- What `toml` does with these identities, where their strings are plain. -/
def tomlFor (known : List PersistedIdentity) : Toml where
  parse text :=
    match known.find? (printed ·.serialize = text) with
    | some p => .ok (p.serialize.map fun f => (f.1, .string f.2))
    | none => .error "invalid document"
  toStringPretty fields :=
    if known.any (·.serialize = fields) then .ok (printed fields) else .error "unsupported"
  report _ e :=
    match e with
    | .invalidType field => s!"invalid type for `{field}`"
    | .missingField field => s!"missing field `{field}`"

/-- A disk whose files all hold a text. -/
def diskWith (text : String) : Disk :=
  ⟨fun _ => some (Utf8.encode text), fun _ => none, fun _ => none⟩

/-- An identity as it is saved, but for its keys. -/
def persistedWith (key : String) : PersistedIdentity where
  deviceId := "d"
  accessToken := "t"
  certPem := ""
  keyPem := ""
  ipv4 := "172.16.0.2"
  ipv6 := "fd00::2"
  wgPrivateKey := key
  wgPeerPublicKey := key
  clientId := ""

theorem loads_cleanly_iff_sample : LoadsCleanly
    (tomlFor [persistedWith "BwcHBwcHBwcHBwcHBwcHBwcHBwcHBwcHBwcHBwcHBwc="])
    (diskWith (printed (persistedWith "BwcHBwcHBwcHBwcHBwcHBwcHBwcHBwcHBwcHBwcHBwc=").serialize))
    "aether.toml"
    (printed (persistedWith "BwcHBwcHBwcHBwcHBwcHBwcHBwcHBwcHBwcHBwcHBwc=").serialize) := by
  refine (loads_cleanly_iff _ _ _ _ ⟨rfl, rfl⟩).mpr fun p hp => ?_
  have hkey : IsKey "BwcHBwcHBwcHBwcHBwcHBwcHBwcHBwcHBwcHBwcHBwc=" :=
    ⟨⟨List.replicate 32 7, List.length_replicate⟩, by decide +kernel⟩
  have hparsed : (tomlFor [persistedWith "BwcHBwcHBwcHBwcHBwcHBwcHBwcHBwcHBwcHBwcHBwc="]).fromStr
      (printed (persistedWith "BwcHBwcHBwcHBwcHBwcHBwcHBwcHBwcHBwcHBwcHBwc=").serialize)
      = .ok (persistedWith "BwcHBwcHBwcHBwcHBwcHBwcHBwcHBwcHBwcHBwcHBwc=") := by
    decide +kernel
  obtain rfl := Except.ok.inj (hp.symm.trans hparsed)
  exact ⟨hkey, hkey⟩

/-- A key of three bytes stops the program. -/
theorem short_key_panics : ¬ LoadsCleanly (tomlFor [persistedWith "AAAA"])
    (diskWith (printed (persistedWith "AAAA").serialize)) "aether.toml"
    (printed (persistedWith "AAAA").serialize) := by
  intro hclean
  have hparsed : (tomlFor [persistedWith "AAAA"]).fromStr (printed (persistedWith "AAAA").serialize)
      = .ok (persistedWith "AAAA") := by
    decide +kernel
  have hno : ¬ (persistedWith "AAAA").Valid := by
    rintro ⟨⟨key, hkey⟩, -⟩
    have hdecoded : Base64.decode "AAAA" = some [0, 0, 0] := by decide +kernel
    have hlen := key.property
    rw [← Option.some.inj (hdecoded.symm.trans hkey)] at hlen
    cases hlen
  obtain ⟨message, hinto⟩ := into_of_not_valid hno
  refine hclean.returns message ?_
  rw [load_of_ok ⟨rfl, rfl⟩ hparsed, hinto, Call.panicked_bind]

end Load

/-! ### Saved identities -/

section Save

variable {toml : Toml} {disk disk' : Disk} {path text : String}

/-- The keys and the client id come back, byte for byte, and the certificate is read as text. -/
lemma into_ofIdentity (id : Identity) : (PersistedIdentity.ofIdentity id).into
    = .ok { id with
        certPem := Utf8.encode (Utf8.lossy id.certPem)
        keyPem := Utf8.encode (Utf8.lossy id.keyPem) } := by
  have hne : id.clientId.val ≠ [] := by
    intro hnil
    have hlen := id.clientId.property
    rw [hnil] at hlen
    cases hlen
  have hclient : clientIdOf (Base64.encode id.clientId.val) = id.clientId := by
    rw [clientIdOf, Base64.encode_isEmpty hne, if_neg Bool.false_ne_true, Base64.decode_encode]
    exact dif_pos id.clientId.property
  simp only [PersistedIdentity.into, PersistedIdentity.ofIdentity, Base64.decode_encode,
    Call.expect, Call.ok_bind, copyFromSlice_val, hclient]

/-- The identity can be printed. -/
def Printable (toml : Toml) (p : PersistedIdentity) : Prop :=
  ∃ text, toml.toStringPretty p.serialize = .ok text

/-- An identity is written exactly if it can be printed, to a file that can be written. -/
lemma writePersisted_ok_iff {p : PersistedIdentity} :
    (writePersisted toml disk path p).1 = .ok ()
      ↔ Printable toml p ∧ disk.unwritable path = none := by
  rw [writePersisted, Printable]
  split
  · rename_i e he
    simp [he]
  · rename_i text htext
    rw [Disk.write_ok_iff, htext]
    exact (and_iff_right ⟨text, rfl⟩).symm

/-- What can be read and written stays as it is. -/
lemma writePersisted_frame {p : PersistedIdentity} :
    (writePersisted toml disk path p).2.unreadable = disk.unreadable
      ∧ (writePersisted toml disk path p).2.unwritable = disk.unwritable := by
  rw [writePersisted]
  split
  · exact ⟨rfl, rfl⟩
  · exact Disk.write_frame

/-- What is written is parsed. -/
lemma writePersisted_ok (hround : toml.RoundTrips) {p : PersistedIdentity}
    (h : (writePersisted toml disk path p).1 = .ok ()) (hread : disk.unreadable path = none) :
    ∃ text, (writePersisted toml disk path p).2.Holds path text ∧ toml.fromStr text = .ok p := by
  rw [writePersisted] at h ⊢
  split at h
  · cases h
  · rename_i text htext
    exact ⟨text, Disk.write_ok h hread, hround.fromStr htext⟩

/-- A written identity is loaded. -/
lemma load_writePersisted (hround : toml.RoundTrips) (id : Identity)
    (h : (writePersisted toml disk path (.ofIdentity id)).1 = .ok ())
    (hread : disk.unreadable path = none) :
    load toml (writePersisted toml disk path (.ofIdentity id)).2 path = .ok (some
      { id with
        certPem := Utf8.encode (Utf8.lossy id.certPem)
        keyPem := Utf8.encode (Utf8.lossy id.keyPem) }) := by
  obtain ⟨text, hholds, hparsed⟩ := writePersisted_ok hround h hread
  rw [load_of_ok hholds hparsed, into_ofIdentity, Call.ok_bind]

/-- The identity with another certificate and key. -/
def Identity.withCreds (id : Identity) (cert key : String) : Identity :=
  { id with certPem := Utf8.encode cert, keyPem := Utf8.encode key }

/-- Behind a saved identity, new credentials are written as the identity that has them. -/
lemma saveMasqueCreds_save (hround : toml.RoundTrips) (id : Identity)
    (hsave : (save toml disk path id).1 = .ok ()) (hread : disk.unreadable path = none)
    (cert key : String) :
    saveMasqueCreds toml (save toml disk path id).2 path (Utf8.encode cert) (Utf8.encode key)
      = writePersisted toml (save toml disk path id).2 path
        (.ofIdentity (id.withCreds cert key)) := by
  obtain ⟨text, hholds, hparsed⟩ := writePersisted_ok hround hsave hread
  have hpersisted : readPersisted toml (save toml disk path id).2 path = .ok (.ofIdentity id) := by
    rw [save, readPersisted_eq hholds, hparsed]
    rfl
  have hfile : ((save toml disk path id).2.files path).isNone = false := by
    rw [save, hholds.file]
    rfl
  rw [saveMasqueCreds, hfile, if_neg Bool.false_ne_true, hpersisted]
  rfl

/-- **A saved identity comes back unchanged** if its certificate and its key are text, and once
they are replaced by other text it comes back with exactly these two replaced. Saving and replacing
succeed where the identity can be printed and the file written. -/
theorem load_save (toml : Toml) (hround : toml.RoundTrips) (disk : Disk) (path : String)
    (id : Identity) (cert key : String) (hcert : id.certPem = Utf8.encode cert)
    (hkey : id.keyPem = Utf8.encode key) (hread : disk.unreadable path = none) :
    ((save toml disk path id).1 = .ok ()
        ↔ Printable toml (.ofIdentity id) ∧ disk.unwritable path = none)
      ∧ ((save toml disk path id).1 = .ok () →
        load toml (save toml disk path id).2 path = .ok (some id)
          ∧ ∀ newCert newKey,
            ((saveMasqueCreds toml (save toml disk path id).2 path (Utf8.encode newCert)
                  (Utf8.encode newKey)).1 = .ok ()
                ↔ Printable toml (.ofIdentity (id.withCreds newCert newKey)))
              ∧ ((saveMasqueCreds toml (save toml disk path id).2 path (Utf8.encode newCert)
                  (Utf8.encode newKey)).1 = .ok () →
                load toml (saveMasqueCreds toml (save toml disk path id).2 path
                  (Utf8.encode newCert) (Utf8.encode newKey)).2 path
                  = .ok (some (id.withCreds newCert newKey)))) := by
  refine ⟨writePersisted_ok_iff, fun hsave => ⟨?_, fun newCert newKey => ?_⟩⟩
  · rw [save, load_writePersisted hround id hsave hread, hcert, hkey, Utf8.lossy_encode,
      Utf8.lossy_encode, ← hcert, ← hkey]
  · have hwritable := (writePersisted_ok_iff.mp hsave).2
    obtain ⟨hunread, hunwrite⟩ : (writePersisted toml disk path (.ofIdentity id)).2.unreadable
          = disk.unreadable
        ∧ (writePersisted toml disk path (.ofIdentity id)).2.unwritable = disk.unwritable :=
      writePersisted_frame
    rw [saveMasqueCreds_save hround id hsave hread]
    constructor
    · rw [writePersisted_ok_iff, save, hunwrite]
      exact and_iff_left hwritable
    · intro hcreds
      rw [load_writePersisted hround _ hcreds (by rw [save, hunread]; exact hread)]
      simp only [Identity.withCreds, Utf8.lossy_encode]

/-- An account with bytes of all kinds. -/
def sampleIdentity : Identity where
  deviceId := "d"
  accessToken := "t"
  certPem := Utf8.encode "CERT"
  keyPem := Utf8.encode "KEY"
  ipv4 := "172.16.0.2"
  ipv6 := "fd00::2"
  wgPrivateKey := ⟨List.replicate 32 255, List.length_replicate⟩
  wgPeerPublicKey := ⟨List.replicate 32 128, List.length_replicate⟩
  clientId := ⟨[0, 200, 127], rfl⟩

/-- The account with another certificate. -/
def renewedIdentity : Identity := sampleIdentity.withCreds "CERT2" "KEY2"

def sampleToml : Toml :=
  tomlFor [.ofIdentity sampleIdentity, .ofIdentity renewedIdentity]

/-- Identities that are printed as different texts come back. -/
lemma tomlFor_roundTrips {known : List PersistedIdentity}
    (h : ∀ p ∈ known, ∀ q ∈ known, printed q.serialize = printed p.serialize → q = p) :
    (tomlFor known).RoundTrips := by
  intro fields text _ htext
  rw [tomlFor] at htext ⊢
  dsimp only at htext ⊢
  split at htext
  · rename_i hany
    obtain ⟨p, hp, hfields⟩ := List.any_eq_true.mp hany
    obtain rfl : p.serialize = fields := of_decide_eq_true hfields
    obtain rfl : printed p.serialize = text := Except.ok.inj htext
    cases hfind : known.find? (printed ·.serialize = printed p.serialize) with
    | none => exact absurd (decide_eq_true rfl) (List.find?_eq_none.mp hfind p hp)
    | some q =>
        have hsame := List.find?_some hfind
        rw [decide_eq_true_eq] at hsame
        rw [h p hp q (List.mem_of_find?_eq_some hfind) hsame]
  · cases htext

lemma sampleToml_roundTrips : sampleToml.RoundTrips := by
  refine tomlFor_roundTrips ?_
  decide +kernel

/-- The rule at an account that is saved and gets another certificate. -/
theorem load_save_sample :
    load sampleToml (save sampleToml (diskWith "") "aether.toml" sampleIdentity).2 "aether.toml"
        = .ok (some sampleIdentity)
      ∧ load sampleToml (saveMasqueCreds sampleToml
          (save sampleToml (diskWith "") "aether.toml" sampleIdentity).2 "aether.toml"
          (Utf8.encode "CERT2") (Utf8.encode "KEY2")).2 "aether.toml"
        = .ok (some renewedIdentity) := by
  obtain ⟨hsave, hloads⟩ := load_save sampleToml sampleToml_roundTrips (diskWith "") "aether.toml"
    sampleIdentity "CERT" "KEY" rfl rfl rfl
  have hprint : Printable sampleToml (.ofIdentity sampleIdentity) := ⟨_, rfl⟩
  obtain ⟨hload, hcreds⟩ := hloads (hsave.mpr ⟨hprint, rfl⟩)
  obtain ⟨hok, hreload⟩ := hcreds "CERT2" "KEY2"
  exact ⟨hload, hreload (hok.mpr ⟨_, rfl⟩)⟩

end Save

end Aether.Config
