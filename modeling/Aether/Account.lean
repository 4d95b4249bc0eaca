import Aether.Config

/-!
The account service (`account.rs`): a device is registered with a fresh key, a key for MASQUE is
enrolled for it, and the answers are read.

The HTTP client, the JSON parser, the curve and the certificates are those of the crates and come
as parameters. The requests, and what is read of the answers, do not.

* `clamp_clamped`: whatever is drawn becomes a key of the curve.
* `provisionWg_ok`: **an identity is what one registration was answered**, for the key that it
  sent; `provisionWg_acts`: nothing else is sent.
* `ensureMasqueEnrolled_cases`: the credentials of an identity are its own, or those of the key
  that one request has enrolled for its device under its token.
-/

namespace Aether.Account

open Config

/-! ### `consts.rs` -/

def API_URL : String := "https://api.cloudflareclient.com"

def API_VERSION : String := "v0a4471"

def DEFAULT_MODEL : String := "PC"

def DEFAULT_LOCALE : String := "en_US"

def KEY_TYPE_MASQUE : String := "secp256r1"

def TUN_TYPE_MASQUE : String := "masque"

def UA_REGISTER : String := "WARP for Android"

def CF_CLIENT_VERSION : String := "a-6.35-4471"

/-! ### What is sent and what is answered -/

/-- The body of the registration. -/
structure Registration where
  key : String
  installId : String
  fcmToken : String
  tos : String
  model : String
  serialNumber : String
  osVersion : String
  keyType : String
  tunnelType : String
  locale : String
  deriving DecidableEq

/-- The body of the enrolment. -/
structure DeviceUpdate where
  key : String
  keyType : String
  tunnelType : String
  name : Option String
  deriving DecidableEq

/-- The derived `Serialize`. -/
def Registration.serialize (r : Registration) : List (String × String) :=
  [("key", r.key), ("install_id", r.installId), ("fcm_token", r.fcmToken), ("tos", r.tos),
    ("model", r.model), ("serial_number", r.serialNumber), ("os_version", r.osVersion),
    ("key_type", r.keyType), ("tunnel_type", r.tunnelType), ("locale", r.locale)]

/-- The derived `Serialize`, which skips a name that is not there. -/
def DeviceUpdate.serialize (u : DeviceUpdate) : List (String × String) :=
  [("key", u.key), ("key_type", u.keyType), ("tunnel_type", u.tunnelType)]
    ++ u.name.toList.map (("name", ·))

structure Addresses where
  v4 : String
  v6 : String
  deriving DecidableEq

structure Interface where
  addresses : Addresses
  deriving DecidableEq

structure Peer where
  publicKey : String
  deriving DecidableEq

/-- `account::Config`. -/
structure AccountConfig where
  interface : Interface
  peers : List Peer
  clientId : String
  deriving DecidableEq

/-- What is read of an answer. -/
structure AccountData where
  id : String
  token : String
  config : AccountConfig
  deriving DecidableEq

/-- A private key with its certificate, and the public key that is enrolled. -/
structure MasqueKeyPair where
  keyPem : Bytes
  certPem : Bytes
  spkiDer : Bytes
  deriving DecidableEq

/-! ### JSON -/

/-- `serde_json::Value`. -/
inductive Json where
  | null
  | bool (b : Bool)
  | number (text : String)
  | string (text : String)
  | array (items : List Json)
  | object (entries : List (String × Json))

/-- What the derived deserialisers complain about. -/
inductive JsonError where
  | invalidType
  | missingField (field : String)
  | duplicateField (field : String)
  | trailing
  deriving DecidableEq

section Deserialize

variable {α : Type}

/-- `String::deserialize`. -/
def deString : Json → Except JsonError String
  | .string text => .ok text
  | _ => .error .invalidType

def deVec (de : Json → Except JsonError α) : Json → Except JsonError (List α)
  | .array items => items.mapM de
  | _ => .error .invalidType

/-- The entries of a struct: those of an object, or the fields in their order. -/
def entriesOf (names : List String) : Json → Except JsonError (List (String × Json))
  | .object entries => .ok entries
  | .array items =>
      if items.length ≤ names.length then .ok (names.zip items) else .error .trailing
  | _ => .error .invalidType

def field (de : Json → Except JsonError α) (entries : List (String × Json)) (name : String) :
    Except JsonError (Option α) :=
  match entries.filter (·.1 = name) with
  | [] => .ok none
  | [entry] => (de entry.2).map some
  | entry :: _ => do
      let _ ← de entry.2
      .error (.duplicateField name)

def required (de : Json → Except JsonError α) (entries : List (String × Json)) (name : String) :
    Except JsonError α := do
  match ← field de entries name with
  | some a => .ok a
  | none => .error (.missingField name)

/-- `#[serde(default)]`. -/
def defaulted (de : Json → Except JsonError α) (default : α) (entries : List (String × Json))
    (name : String) : Except JsonError α := do
  let value ← field de entries name
  .ok (value.getD default)

end Deserialize

def Addresses.default : Addresses := ⟨"", ""⟩

def Addresses.deserialize (v : Json) : Except JsonError Addresses := do
  let entries ← entriesOf ["v4", "v6"] v
  let v4 ← defaulted deString "" entries "v4"
  let v6 ← defaulted deString "" entries "v6"
  .ok { v4, v6 }

def Interface.default : Interface := ⟨.default⟩

def Interface.deserialize (v : Json) : Except JsonError Interface := do
  let entries ← entriesOf ["addresses"] v
  let addresses ← defaulted Addresses.deserialize .default entries "addresses"
  .ok { addresses }

def Peer.deserialize (v : Json) : Except JsonError Peer := do
  let entries ← entriesOf ["public_key"] v
  let publicKey ← required deString entries "public_key"
  .ok { publicKey }

def AccountConfig.default : AccountConfig := ⟨.default, [], ""⟩

def AccountConfig.deserialize (v : Json) : Except JsonError AccountConfig := do
  let entries ← entriesOf ["interface", "peers", "client_id"] v
  let interface ← defaulted Interface.deserialize .default entries "interface"
  let peers ← defaulted (deVec Peer.deserialize) [] entries "peers"
  let clientId ← defaulted deString "" entries "client_id"
  .ok { interface, peers, clientId }

def AccountData.deserialize (v : Json) : Except JsonError AccountData := do
  let entries ← entriesOf ["id", "token", "config"] v
  let id ← required deString entries "id"
  let token ← defaulted deString "" entries "token"
  let config ← defaulted AccountConfig.deserialize .default entries "config"
  .ok { id, token, config }

/-! ### The crates -/

/-- What the crates do: `serde_json` parses and reports the errors of a deserialiser, `http` shows
a status, `base64` the error of a text, and the public key of a private one is that of the
curve. -/
structure Crates where
  parse : String → Except String Json
  report : String → JsonError → String
  showStatus : ℕ → String
  showDecodeError : String → String
  publicKey : Fixed 32 → Fixed 32

/-- `serde_json::from_str`. -/
def Crates.fromStr (crates : Crates) (text : String) : Except String AccountData := do
  let v ← crates.parse text
  (AccountData.deserialize v).mapError (crates.report text)

inductive Method where
  | post
  | patch
  deriving DecidableEq

/-- A request, with the headers that the client is told. -/
structure Request where
  method : Method
  url : String
  headers : List (String × String)
  json : List (String × String)
  deriving DecidableEq

/-- A response, whose body is read later. -/
structure Response where
  status : ℕ
  text : Except String String

/-- What a start meets: what it draws, the time of the terms of service, the new key pair for
MASQUE, whether the client can be built, and the answers. -/
structure Session where
  private32 : Fixed 32
  serial : Fixed 8
  tos : String
  keypair : Except String MasqueKeyPair
  build : Method → Except String Unit
  send : Request → Except String Response

/-- What was sent and what came back, with the secret it was for. -/
inductive Act where
  | register (wgPrivate : Fixed 32) (request : Request) (answer : Except String Response)
  | enroll (keypair : MasqueKeyPair) (request : Request) (answer : Except String Response)

/-- The key that is registered. -/
def Act.key : Act → Option (Fixed 32)
  | .register wgPrivate _ _ => some wgPrivate
  | .enroll _ _ _ => none

/-! ### `account.rs` -/

def generateMasqueKeypair (s : Session) : Except AetherError MasqueKeyPair :=
  s.keypair.mapError .tls

/-- `http_client`: the headers of the client. -/
def httpClient (s : Session) (method : Method) : Except AetherError (List (String × String)) :=
  ((s.build method).map fun _ => [("user-agent", UA_REGISTER)]).mapError .api

def baseHeaders : List (String × String) :=
  [("content-type", "application/json; charset=UTF-8"), ("connection", "Keep-Alive"),
    ("cf-client-version", CF_CLIENT_VERSION)]

/-- The bits of a key of the curve that are fixed. -/
def clamp (key : Fixed 32) : Fixed 32 :=
  ⟨((key.val.modify 0 (· &&& 248)).modify 31 (· &&& 127)).modify 31 (· ||| 64), by
    rw [List.length_modify, List.length_modify, List.length_modify, key.property]⟩

/-- `generate_x25519_keypair`, of what was drawn. -/
def generateX25519Keypair (crates : Crates) (private32 : Fixed 32) : Fixed 32 × String :=
  (clamp private32, Base64.encode (crates.publicKey (clamp private32)).val)

def hexDigit (n : ℕ) : Char := Char.ofNat (if n < 10 then n + 48 else n + 87)

/-- `hex::encode`. -/
def hexEncode (bs : Bytes) : String :=
  .ofList (bs.flatMap fun b => [hexDigit (b.toNat / 16), hexDigit (b.toNat % 16)])

def randomAndroidSerial (s : Session) : String := hexEncode s.serial.val

/-- `parse_account`. -/
def parseAccount (crates : Crates) (resp : Response) : Except AetherError AccountData := do
  let text ← resp.text.mapError .api
  if isSuccess resp.status then
    (crates.fromStr text).mapError fun e => .api s!"decode: {e}; body={text}"
  else .error (.api s!"status {crates.showStatus resp.status}: {text}")

/-- `send`, and the answer. -/
def answered (crates : Crates) (answer : Except String Response) :
    Except AetherError AccountData := do
  let resp ← answer.mapError .api
  parseAccount crates resp

/-- The body of `register`. -/
def registration (s : Session) (wgPublic model locale : String) : Registration where
  key := wgPublic
  installId := ""
  fcmToken := ""
  tos := s.tos
  model := model
  serialNumber := randomAndroidSerial s
  osVersion := ""
  keyType := "curve25519"
  tunnelType := "wireguard"
  locale := locale

/-- The request of `register`. -/
def registerRequest (client : List (String × String)) (body : Registration)
    (jwt : Option String) : Request where
  method := .post
  url := s!"{API_URL}/{API_VERSION}/reg"
  headers := client ++ baseHeaders ++ jwt.toList.map (("cf-access-jwt-assertion", ·))
  json := body.serialize

/-- `register`: its result, and what it does. -/
def register (crates : Crates) (s : Session) (model locale : String) (jwt : Option String) :
    Except AetherError (AccountData × Fixed 32) × List Act :=
  let (wgPrivate, wgPublic) := generateX25519Keypair crates s.private32
  match httpClient s .post with
  | .error e => (.error e, [])
  | .ok client =>
      let request := registerRequest client (registration s wgPublic model locale) jwt
      let answer := s.send request
      ((answered crates answer).map fun account => (account, wgPrivate),
        [.register wgPrivate request answer])

/-- The request of `enroll_key`. -/
def enrollRequest (client : List (String × String)) (deviceId token : String) (spkiDer : Bytes)
    (name : Option String) : Request where
  method := .patch
  url := s!"{API_URL}/{API_VERSION}/reg/{deviceId}"
  headers := client ++ baseHeaders ++ [("authorization", s!"Bearer {token}")]
  json := DeviceUpdate.serialize
    { key := Base64.encode spkiDer
      keyType := KEY_TYPE_MASQUE
      tunnelType := TUN_TYPE_MASQUE
      name := name }

/-- `enroll_key`, of the key of a pair. -/
def enrollKey (crates : Crates) (s : Session) (deviceId token : String) (keypair : MasqueKeyPair)
    (name : Option String) : Except AetherError AccountData × List Act :=
  match httpClient s .patch with
  | .error e => (.error e, [])
  | .ok client =>
      let request := enrollRequest client deviceId token keypair.spkiDer name
      let answer := s.send request
      (answered crates answer, [.enroll keypair request answer])

def extractWgPeer (crates : Crates) (reg : AccountData) : Except AetherError (Fixed 32) :=
  match reg.config.peers with
  | [] => .error (.api "no peers in registration response")
  | peer :: _ =>
      match Base64.decode peer.publicKey with
      | none => .error (.api s!"decode peer pubkey: {crates.showDecodeError peer.publicKey}")
      | some decoded =>
          if h : decoded.length = 32 then .ok ⟨decoded, h⟩
          else .error (.api "invalid peer pubkey length")

/-- The end of `provision_wg`, of the account and the key that it was registered for. -/
def identityOf (crates : Crates) (reg : AccountData) (wgPrivate : Fixed 32) :
    Except AetherError Identity := do
  if reg.token.isEmpty then .error (.api "registration returned empty token")
  let wgPeerPublic ← extractWgPeer crates reg
  .ok
    { deviceId := reg.id
      accessToken := reg.token
      certPem := []
      keyPem := []
      ipv4 := reg.config.interface.addresses.v4
      ipv6 := reg.config.interface.addresses.v6
      wgPrivateKey := wgPrivate
      wgPeerPublicKey := wgPeerPublic
      clientId := clientIdOf reg.config.clientId }

/-- `provision_wg`, likewise. -/
def provisionWg (crates : Crates) (s : Session) (model locale : String) (jwt : Option String) :
    Except AetherError Identity × List Act :=
  let (result, acts) := register crates s model locale jwt
  (result >>= fun account => identityOf crates account.1 account.2, acts)

/-- `ensure_masque_enrolled`, likewise. -/
def ensureMasqueEnrolled (crates : Crates) (s : Session) (identity : Identity) :
    Except AetherError (Bytes × Bytes) × List Act :=
  if identity.hasMasqueCredentials then (.ok (identity.certPem, identity.keyPem), [])
  else
    match generateMasqueKeypair s with
    | .error e => (.error e, [])
    | .ok keypair =>
        let (result, acts) :=
          enrollKey crates s identity.deviceId identity.accessToken keypair none
        (result.map fun _ => (keypair.certPem, keypair.keyPem), acts)

/-! ### Keys -/

/-- The low three bits are zero, the highest one too, and the one below it is set. -/
def Clamped (key : Fixed 32) : Prop :=
  ∃ first last, key.val.head? = some first ∧ key.val.getLast? = some last
    ∧ first.toNat % 8 = 0 ∧ 64 ≤ last.toNat ∧ last.toNat < 128

lemma clamp_first (b : UInt8) : (b &&& 248).toNat % 8 = 0 := by
  have hall : ∀ n < 256, (UInt8.ofNat n &&& 248).toNat % 8 = 0 := by decide +kernel
  have h := hall b.toNat b.toNat_lt
  rwa [UInt8.ofNat_toNat] at h

lemma clamp_last (b : UInt8) :
    64 ≤ (b &&& 127 ||| 64).toNat ∧ (b &&& 127 ||| 64).toNat < 128 := by
  have hall : ∀ n < 256, 64 ≤ (UInt8.ofNat n &&& 127 ||| 64).toNat
      ∧ (UInt8.ofNat n &&& 127 ||| 64).toNat < 128 := by
    decide +kernel
  have h := hall b.toNat b.toNat_lt
  rwa [UInt8.ofNat_toNat] at h

/-- A key that has been clamped is one. -/
lemma clamp_clamped (key : Fixed 32) : Clamped (clamp key) := by
  obtain ⟨bs, hlen⟩ := key
  have hfirst : 0 < bs.length := by omega
  have hlast : 31 < bs.length := by omega
  refine ⟨bs[0] &&& 248, bs[31] &&& 127 ||| 64, ?_, ?_, clamp_first _, clamp_last _⟩
  · simp [clamp, List.head?_eq_getElem?, hfirst]
  · simp [clamp, List.getLast?_eq_getElem?, hlen]

/-! ### What is sent -/

/-- A request that registers the public key of a secret. -/
def IsRegistration (crates : Crates) (wgPrivate : Fixed 32) (request : Request) : Prop :=
  Clamped wgPrivate ∧ ∃ client body jwt, request = registerRequest client body jwt
    ∧ body.key = Base64.encode (crates.publicKey wgPrivate).val

/-- A request that enrolls a key for the device of an identity, under its token. -/
def IsEnrolment (id : Identity) (keypair : MasqueKeyPair) (request : Request) : Prop :=
  ∃ client, request = enrollRequest client id.deviceId id.accessToken keypair.spkiDer none

/-- The identity is what a registration of its key was answered. -/
structure Registers (crates : Crates) (id : Identity) (act : Act) : Prop where
  token : id.accessToken ≠ ""
  bare : id.certPem = [] ∧ id.keyPem = []
  answered : ∃ request resp reg, act = .register id.wgPrivateKey request (.ok resp)
    ∧ IsRegistration crates id.wgPrivateKey request ∧ parseAccount crates resp = .ok reg
    ∧ identityOf crates reg id.wgPrivateKey = .ok id

/-- The credentials of the identity are those of a key that was enrolled for it. -/
def Enrolls (crates : Crates) (id : Identity) (act : Act) : Prop :=
  ∃ keypair request resp data, act = .enroll keypair request (.ok resp)
    ∧ IsEnrolment id keypair request ∧ parseAccount crates resp = .ok data
    ∧ id.certPem = keypair.certPem ∧ id.keyPem = keypair.keyPem

section Acts

variable {crates : Crates} {s : Session} {model locale : String} {jwt : Option String}
  {id : Identity} {acts : List Act} {reg : AccountData} {wgPrivate : Fixed 32}

/-- A new identity keeps the private key, and has a token but no certificate yet. -/
lemma identityOf_ok (h : identityOf crates reg wgPrivate = .ok id) :
    id.wgPrivateKey = wgPrivate ∧ id.accessToken ≠ "" ∧ id.certPem = [] ∧ id.keyPem = [] := by
  rw [identityOf] at h
  split at h
  · cases h
  · rename_i htoken
    cases hpeer : extractWgPeer crates reg with
    | error e =>
        rw [hpeer] at h
        cases h
    | ok peer =>
        rw [hpeer] at h
        cases h
        refine ⟨rfl, ?_, rfl, rfl⟩
        intro hempty
        have htext : reg.token = "" := hempty
        exact htoken (by rw [htext]; rfl)

/-- An answer is read once it is there. -/
lemma answered_ok {answer : Except String Response} (h : answered crates answer = .ok reg) :
    ∃ resp, answer = .ok resp ∧ parseAccount crates resp = .ok reg := by
  cases answer with
  | error e => cases h
  | ok resp => exact ⟨resp, rfl, h⟩

/-- What `register` sends: at most one request, for the key that it returns. -/
lemma register_cases (crates : Crates) (s : Session) (model locale : String)
    (jwt : Option String) :
    (∃ e, register crates s model locale jwt = (.error e, []))
      ∨ ∃ request, IsRegistration crates (clamp s.private32) request
          ∧ register crates s model locale jwt
            = ((answered crates (s.send request)).map fun account => (account, clamp s.private32),
              [.register (clamp s.private32) request (s.send request)]) := by
  rw [register]
  cases hclient : httpClient s .post with
  | error e => exact .inl ⟨e, rfl⟩
  | ok client => exact .inr ⟨_, ⟨clamp_clamped _, client, _, jwt, rfl, rfl⟩, rfl⟩

/-- **An identity is what one registration was answered**, for the key that it sent. -/
lemma provisionWg_ok (h : provisionWg crates s model locale jwt = (.ok id, acts)) :
    ∃ act, acts = [act] ∧ Registers crates id act := by
  rcases register_cases crates s model locale jwt with ⟨e, heq⟩ | ⟨request, hreq, heq⟩
  · rw [provisionWg, heq] at h
    cases h
  · rw [provisionWg, heq] at h
    obtain ⟨hid, rfl⟩ := Prod.mk.inj h
    cases hanswer : answered crates (s.send request) with
    | error e =>
        rw [hanswer] at hid
        cases hid
    | ok reg =>
        rw [hanswer] at hid
        have hidentity : identityOf crates reg (clamp s.private32) = .ok id := hid
        obtain ⟨hkept, htoken, hcert, hkey⟩ := identityOf_ok hidentity
        rw [← hkept] at hreq hidentity ⊢
        obtain ⟨resp, hresp, hparse⟩ := answered_ok hanswer
        refine ⟨_, rfl, htoken, ⟨hcert, hkey⟩, request, resp, reg, ?_, hreq, hparse, hidentity⟩
        rw [hresp]

/-- **Nothing is sent but one registration**, of the key that was drawn. -/
lemma provisionWg_acts (crates : Crates) (s : Session) (model locale : String)
    (jwt : Option String) : (provisionWg crates s model locale jwt).2 = []
      ∨ ∃ request, IsRegistration crates (clamp s.private32) request
        ∧ (provisionWg crates s model locale jwt).2
          = [.register (clamp s.private32) request (s.send request)] := by
  rcases register_cases crates s model locale jwt with ⟨e, heq⟩ | ⟨request, hreq, heq⟩
  · exact .inl (by rw [provisionWg, heq])
  · exact .inr ⟨request, hreq, by rw [provisionWg, heq]⟩

/-- What `ensure_masque_enrolled` sends: nothing for an identity with credentials or where no key
is made, else one request at most. -/
lemma ensureMasqueEnrolled_cases (crates : Crates) (s : Session) (id : Identity) :
    id.hasMasqueCredentials = true
        ∧ ensureMasqueEnrolled crates s id = (.ok (id.certPem, id.keyPem), [])
      ∨ id.hasMasqueCredentials = false
        ∧ ((∃ e, ensureMasqueEnrolled crates s id = (.error e, []))
          ∨ ∃ keypair request, s.keypair = .ok keypair ∧ IsEnrolment id keypair request
            ∧ ensureMasqueEnrolled crates s id
              = ((answered crates (s.send request)).map fun _ =>
                  (keypair.certPem, keypair.keyPem),
                [.enroll keypair request (s.send request)])) := by
  rw [ensureMasqueEnrolled]
  cases hcreds : id.hasMasqueCredentials with
  | true => exact .inl ⟨rfl, rfl⟩
  | false =>
      refine .inr ⟨rfl, ?_⟩
      rw [if_neg Bool.false_ne_true, generateMasqueKeypair]
      cases hpair : s.keypair with
      | error e => exact .inl ⟨_, rfl⟩
      | ok keypair =>
          rw [Except.mapError_ok]
          dsimp only
          rw [enrollKey]
          cases hclient : httpClient s .patch with
          | error e => exact .inl ⟨e, rfl⟩
          | ok client => exact .inr ⟨keypair, _, rfl, ⟨client, rfl⟩, rfl⟩

/-- The credentials that an enrolment gives are those of the new pair. -/
lemma ensureMasqueEnrolled_pair (hcreds : id.hasMasqueCredentials = false) {certPem keyPem : Bytes}
    (h : (ensureMasqueEnrolled crates s id).1 = .ok (certPem, keyPem)) :
    ∃ keypair, s.keypair = .ok keypair ∧ certPem = keypair.certPem ∧ keyPem = keypair.keyPem := by
  rcases ensureMasqueEnrolled_cases crates s id with ⟨htrue, -⟩ | ⟨-, ⟨e, heq⟩
      | ⟨keypair, request, hpair, -, heq⟩⟩
  · rw [hcreds] at htrue
    cases htrue
  · rw [heq] at h
    cases h
  · rw [heq] at h
    cases hanswer : answered crates (s.send request) with
    | error e =>
        rw [hanswer] at h
        cases h
    | ok data =>
        rw [hanswer] at h
        cases h
        exact ⟨keypair, hpair, rfl, rfl⟩

end Acts

end Aether.Account
