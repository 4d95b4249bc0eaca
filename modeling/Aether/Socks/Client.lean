import Aether.AddrParser
import Aether.Error
import Aether.Lib.Dialog
import Aether.Lib.OctetsMut
import Aether.Lib.Utf8

/-!
What a client of the SOCKS server is told (`handle_client` in `socks.rs`), from its first byte
to the end of its control connection.

The client is the bytes it sends before it closes; one that stops without closing is answered
alike. Everything else that can go one way or another is in `Env`. The log has what is written
to the client, whether or not the write succeeds, and what is opened in the netstack.

* `Received`: the bytes hold a whole request, for each address type what belongs to it.
* `Truthful`: the writes come in order, a whole request has one reply, and the reply is
  `REP_OK` exactly when what was asked for has been opened.
* `truthful_iff`: this holds exactly when the address type is known and, for a UDP association,
  nothing fails.
-/

namespace Aether.Socks.Client

open Dialog (byte)

def VER : UInt8 := 0x05
def CMD_CONNECT : UInt8 := 0x01
def CMD_UDP_ASSOCIATE : UInt8 := 0x03
def ATYP_V4 : UInt8 := 0x01
def ATYP_DOMAIN : UInt8 := 0x03
def ATYP_V6 : UInt8 := 0x04
def REP_OK : UInt8 := 0x00
def REP_GENERAL : UInt8 := 0x01
def REP_NOT_SUPPORTED : UInt8 := 0x07

inductive Target where
  | ip (ip : IpAddr)
  | domain (name : String)

/-- What can be opened in the netstack for a request. -/
inductive Resource where
  | tcp (dst : SocketAddr)
  | udp
  deriving DecidableEq

/-- The command that asks for it. -/
def Resource.cmd : Resource → UInt8
  | tcp _ => CMD_CONNECT
  | udp => CMD_UDP_ASSOCIATE

/-- What `handle_client` does that others see. -/
inductive Deed where
  | selected (bs : Bytes)
  | replied (bs : Bytes)
  | relayed (bs : Bytes)
  | opened (r : Resource)
  deriving DecidableEq

/-- The outcomes that are not in the hand of `handle_client`: of `dns_resolve`, `open_tcp` and
`open_udp`, of the relay's `bind` and `local_addr`, and of the writes of the method selection
and the reply. `downloads` is what a connection yields, with the outcome of its write. -/
structure Env where
  dnsResolve : String → Except AetherError IpAddr
  openTcp : SocketAddr → Except AetherError Unit
  openUdp : Except AetherError Unit
  relayBind : Except String Unit
  localAddr : Except String SocketAddr
  selectionWrite : Except String Unit
  replyWrite : Except String Unit
  downloads : List (Bytes × Except String Unit)

/-- A part of `handle_client`. -/
abbrev Talk (α : Type) := Dialog AetherError Deed α

/-! ### The code -/

def readExact (n : ℕ) : Talk { bs : Bytes // bs.length = n } :=
  Dialog.readExact (.io "early eof") n

/-- `write_all(..).await?`. -/
def writeAll (deed : Deed) (outcome : Except String Unit) : Talk Unit := do
  Dialog.note deed
  Dialog.lift (outcome.mapError .io)

def handshake (env : Env) : Talk Unit := do
  let first ← readExact 2
  if byte first 0 ≠ VER then Dialog.fail (.other "bad greeting version")
  else
    let _methods ← readExact (byte first 1).toNat
    writeAll (.selected [VER, 0x00]) env.selectionWrite

def readAddress (atyp : UInt8) : Talk Target :=
  if atyp = ATYP_V4 then do
    let b ← readExact 4
    pure (.ip (.v4 ⟨b.1, b.2⟩))
  else if atyp = ATYP_V6 then do
    let b ← readExact 16
    pure (.ip (.v6 ⟨b.1, b.2⟩))
  else if atyp = ATYP_DOMAIN then do
    let len ← readExact 1
    let name ← readExact (byte len 0).toNat
    pure (.domain (Utf8.lossy name.1))
  else Dialog.fail (.other "bad atyp")

def readTarget (atyp : UInt8) : Talk (Target × ℕ) := do
  let target ← readAddress atyp
  let port ← readExact 2
  pure (target, Octets.beNat port.1)

def reply (env : Env) (code : UInt8) : Talk Unit :=
  writeAll (.replied [VER, code, 0x00, ATYP_V4, 0, 0, 0, 0, 0, 0]) env.replyWrite

/-- The address part of `reply_bound`. -/
def boundBytes : IpAddr → Bytes
  | .v4 v4 => ATYP_V4 :: v4.octets
  | .v6 v6 => ATYP_V6 :: v6.octets

def replyBound (env : Env) (bound : SocketAddr) : Talk Unit :=
  writeAll (.replied ([VER, REP_OK, 0x00] ++ boundBytes bound.ip ++ Octets.beBytes 2 bound.port))
    env.replyWrite

def resolve (env : Env) : Target → Except AetherError IpAddr
  | .ip ip => .ok ip
  | .domain name =>
      match IpAddr.parse name with
      | some ip => .ok ip
      | none => env.dnsResolve name

/-- A name that is a literal is not looked up. -/
lemma resolve_literal (env : Env) {name : String} {ip : IpAddr} (h : IpAddr.parse name = some ip) :
    resolve env (.domain name) = .ok ip := by
  unfold resolve
  simp only [h]

lemma resolve_name (env : Env) {name : String} (h : IpAddr.parse name = none) :
    resolve env (.domain name) = env.dnsResolve name := by
  unfold resolve
  simp only [h]

/-- The download loop of `handle_connect`. Its upload task writes nothing to the client. -/
def relay : List (Bytes × Except String Unit) → Talk Unit
  | [] => pure ()
  | (chunk, .ok ()) :: more => do
      Dialog.note (.relayed chunk)
      relay more
  | (chunk, .error _) :: _ => Dialog.note (.relayed chunk)

/-- The address `0.0.0.0:0`. -/
def unspecified : SocketAddr := ⟨.v4 (.new 0 0 0 0), 0⟩

/-- `let _ = reply(..)`, and then the error. -/
def refuse (env : Env) (e : AetherError) : Talk Unit := fun s =>
  Dialog.fail e (reply env REP_GENERAL s).2

def handleConnect (env : Env) (target : Target) (port : ℕ) : Talk Unit :=
  match resolve env target with
  | .error e => refuse env e
  | .ok ip =>
      match env.openTcp ⟨ip, port⟩ with
      | .error e => refuse env e
      | .ok () => do
          Dialog.note (.opened (.tcp ⟨ip, port⟩))
          replyBound env unspecified
          relay env.downloads

/-- The loop behind `open_udp` writes datagrams of the relay socket only. -/
def handleUdpAssociate (env : Env) : Talk Unit := do
  Dialog.lift (env.relayBind.mapError .io)
  let relayAddr ← Dialog.lift (env.localAddr.mapError .io)
  replyBound env relayAddr
  Dialog.lift env.openUdp
  Dialog.note (.opened .udp)

/-- The `match` of `handle_client`. -/
def handleCommand (env : Env) (cmd : UInt8) (target : Target) (port : ℕ) : Talk Unit :=
  if cmd = CMD_CONNECT then handleConnect env target port
  else if cmd = CMD_UDP_ASSOCIATE then handleUdpAssociate env
  else do
    reply env REP_NOT_SUPPORTED
    Dialog.fail (.other "unsupported socks command")

def handleClient (env : Env) : Talk Unit := do
  handshake env
  let head ← readExact 4
  if byte head 0 ≠ VER then Dialog.fail (.other "bad socks version")
  else
    let (target, port) ← readTarget (byte head 3)
    handleCommand env (byte head 1) target port

/-- What the client is told and what is opened for it. -/
def deeds (env : Env) (bytes : Bytes) : List Deed := (handleClient env ⟨bytes, []⟩).2.log

/-! ### Requests -/

def Known (atyp : UInt8) : Prop := atyp = ATYP_V4 ∨ atyp = ATYP_V6 ∨ atyp = ATYP_DOMAIN

instance (atyp : UInt8) : Decidable (Known atyp) := inferInstanceAs (Decidable (_ ∨ _ ∨ _))

/-- The bytes behind the head hold the address and the port, when the type is known. -/
def Whole (atyp : UInt8) (rest : Bytes) : Prop :=
  (atyp = ATYP_V4 → 4 + 2 ≤ rest.length) ∧ (atyp = ATYP_V6 → 16 + 2 ≤ rest.length)
    ∧ (atyp = ATYP_DOMAIN → ∃ len tail, rest = len :: tail ∧ len.toNat + 2 ≤ tail.length)

/-- A greeting, answered, and a whole request with version 5, this command and address type. -/
def Received (env : Env) (bytes : Bytes) (cmd atyp : UInt8) : Prop :=
  env.selectionWrite = .ok () ∧ ∃ n methods rsv rest,
    bytes = VER :: n :: (methods ++ VER :: cmd :: rsv :: atyp :: rest)
      ∧ methods.length = n.toNat ∧ Whole atyp rest

/-- The kinds of bytes that a client gets. -/
inductive Kind where
  | selection
  | reply
  | relay
  deriving DecidableEq

namespace Deed

def kind : Deed → Option Kind
  | selected _ => some .selection
  | replied _ => some .reply
  | relayed _ => some .relay
  | opened _ => none

def reply : Deed → Option Bytes
  | replied bs => some bs
  | _ => none

end Deed

/-- The code of a reply is `REP_OK`. -/
def IsOk (bs : Bytes) : Prop := bs[1]? = some REP_OK

instance (bs : Bytes) : Decidable (IsOk bs) := inferInstanceAs (Decidable (_ = _))

/-- What `truthful_iff` is about: at most one selection, then at most one reply, then relayed
bytes; one reply for a whole request; and `REP_OK` exactly when what the request asks for has
been opened. -/
structure Truthful (env : Env) (bytes : Bytes) : Prop where
  ordered : ∃ n, (deeds env bytes).filterMap Deed.kind
    <+: .selection :: .reply :: List.replicate n .relay
  answered : ∀ cmd atyp, Received env bytes cmd atyp →
    ((deeds env bytes).filterMap Deed.reply).length = 1
  honest : (∃ bs ∈ (deeds env bytes).filterMap Deed.reply, IsOk bs) ↔
    ∃ cmd atyp r, Received env bytes cmd atyp ∧ .opened r ∈ deeds env bytes ∧ r.cmd = cmd

/-- Nothing fails in `handle_udp_associate`, up to the association. -/
def Associates (env : Env) : Prop :=
  env.relayBind.isOk ∧ env.localAddr.isOk ∧ env.replyWrite.isOk ∧ env.openUdp.isOk

/-! ### Reading -/

variable {env : Env} {s t : Dialog.State Deed} {atyp cmd : UInt8} {bytes : Bytes}

lemma readExact_append {n : ℕ} {bs : Bytes} (h : bs.length = n) (rest : Bytes) (log : List Deed) :
    readExact n ⟨bs ++ rest, log⟩ = (.ok ⟨bs, h⟩, ⟨rest, log⟩) :=
  Dialog.readExact_append h log

lemma readExact_of_le {n : ℕ} (h : n ≤ s.unread.length) :
    ∃ bs, readExact n s = (.ok bs, { s with unread := s.unread.drop n }) := by
  have hsplit := readExact_append (List.length_take_of_le h) (s.unread.drop n) s.log
  rw [List.take_append_drop] at hsplit
  exact ⟨_, hsplit⟩

lemma length_of_readExact {n : ℕ} {bs : { bs : Bytes // bs.length = n }}
    (h : readExact n s = (.ok bs, t)) : s.unread.length = n + t.unread.length := by
  rw [(Dialog.readExact_eq_ok h).1, List.length_append, bs.2]

lemma readAddress_quiet (atyp : UInt8) : Dialog.Quiet (readAddress atyp) := by
  rw [readAddress]
  split
  · exact (Dialog.quiet_readExact _ _).bind fun _ => Dialog.quiet_pure _
  · split
    · exact (Dialog.quiet_readExact _ _).bind fun _ => Dialog.quiet_pure _
    · split
      · exact (Dialog.quiet_readExact _ _).bind fun _ =>
          (Dialog.quiet_readExact _ _).bind fun _ => Dialog.quiet_pure _
      · exact Dialog.quiet_fail _

lemma readTarget_quiet (atyp : UInt8) : Dialog.Quiet (readTarget atyp) :=
  (readAddress_quiet atyp).bind fun _ =>
    (Dialog.quiet_readExact _ _).bind fun _ => Dialog.quiet_pure _

lemma whole_v4 {rest : Bytes} : Whole ATYP_V4 rest ↔ 4 + 2 ≤ rest.length := by
  simp [Whole, ATYP_V4, ATYP_V6, ATYP_DOMAIN]

lemma whole_v6 {rest : Bytes} : Whole ATYP_V6 rest ↔ 16 + 2 ≤ rest.length := by
  simp [Whole, ATYP_V4, ATYP_V6, ATYP_DOMAIN]

lemma whole_domain {rest : Bytes} : Whole ATYP_DOMAIN rest ↔
    ∃ len tail, rest = len :: tail ∧ len.toNat + 2 ≤ tail.length := by
  simp [Whole, ATYP_V4, ATYP_V6, ATYP_DOMAIN]

lemma pure_eq_ok {α : Type} {a b : α} (h : (pure a : Talk α) s = (.ok b, t)) : a = b ∧ s = t := by
  cases h
  exact ⟨rfl, rfl⟩

/-- What has been read when `read_target` succeeds. -/
lemma whole_of_readTarget {x : Target × ℕ} (h : readTarget atyp s = (.ok x, t)) :
    Known atyp ∧ Whole atyp s.unread := by
  obtain ⟨target, u, haddress, h⟩ := Dialog.bind_eq_ok.mp h
  obtain ⟨port, v, hport, -⟩ := Dialog.bind_eq_ok.mp h
  have hlen : u.unread.length = 2 + v.unread.length := length_of_readExact hport
  rw [readAddress] at haddress
  split at haddress
  case isTrue htyp =>
    obtain ⟨b, w, hb, hw⟩ := Dialog.bind_eq_ok.mp haddress
    have hrest := length_of_readExact hb
    rw [(pure_eq_ok hw).2] at hrest
    exact ⟨.inl htyp, htyp ▸ whole_v4.mpr (by omega)⟩
  case isFalse =>
    split at haddress
    case isTrue htyp =>
      obtain ⟨b, w, hb, hw⟩ := Dialog.bind_eq_ok.mp haddress
      have hrest := length_of_readExact hb
      rw [(pure_eq_ok hw).2] at hrest
      exact ⟨.inr (.inl htyp), htyp ▸ whole_v6.mpr (by omega)⟩
    case isFalse =>
      split at haddress
      case isTrue htyp =>
        obtain ⟨len, w, hb, hw⟩ := Dialog.bind_eq_ok.mp haddress
        obtain ⟨name, w', hname, hw'⟩ := Dialog.bind_eq_ok.mp hw
        have hrest := length_of_readExact hname
        rw [(pure_eq_ok hw').2] at hrest
        obtain ⟨first, hfirst⟩ := List.length_eq_one_iff.mp len.2
        have hbyte : byte len 0 = first := by simp only [byte, List.get_eq_getElem, hfirst]; rfl
        refine ⟨.inr (.inr htyp), htyp ▸ whole_domain.mpr ⟨first, w.unread, ?_, ?_⟩⟩
        · rw [(Dialog.readExact_eq_ok hb).1, hfirst]
          rfl
        · rw [hbyte] at hrest
          omega
      case isFalse => cases haddress

/-- The port behind an address of `n` bytes. -/
lemma readTarget_of_address (target : Target) (haddress : readAddress atyp s = (.ok target, t))
    (h : 2 ≤ t.unread.length) : ∃ x u, readTarget atyp s = (.ok x, u) := by
  obtain ⟨port, hport⟩ := readExact_of_le h
  refine ⟨(target, Octets.beNat port.1), { t with unread := t.unread.drop 2 }, ?_⟩
  rw [readTarget, Dialog.bind_ok haddress, Dialog.bind_ok hport]
  rfl

/-- `read_target` succeeds on a whole address with its port. -/
lemma readTarget_of_whole (hk : Known atyp) (h : Whole atyp s.unread) :
    ∃ x t, readTarget atyp s = (.ok x, t) := by
  rcases hk with rfl | rfl | rfl
  · have hlen : 4 + 2 ≤ s.unread.length := whole_v4.mp h
    obtain ⟨b, hb⟩ := readExact_of_le (n := 4) (s := s) (by omega)
    refine readTarget_of_address (.ip (.v4 ⟨b.1, b.2⟩))
      (t := { s with unread := s.unread.drop 4 }) ?_ ?_
    · rw [readAddress, if_pos rfl, Dialog.bind_ok hb]
      rfl
    · rw [List.length_drop]
      omega
  · have hlen : 16 + 2 ≤ s.unread.length := whole_v6.mp h
    obtain ⟨b, hb⟩ := readExact_of_le (n := 16) (s := s) (by omega)
    refine readTarget_of_address (.ip (.v6 ⟨b.1, b.2⟩))
      (t := { s with unread := s.unread.drop 16 }) ?_ ?_
    · rw [readAddress, if_neg (by decide), if_pos rfl, Dialog.bind_ok hb]
      rfl
    · rw [List.length_drop]
      omega
  · obtain ⟨len, tail, hrest, hlen⟩ := whole_domain.mp h
    obtain ⟨rest, log⟩ := s
    cases hrest
    have hsingle : [len].length = 1 := rfl
    have hone : readExact 1 ⟨len :: tail, log⟩ = (.ok ⟨[len], hsingle⟩, ⟨tail, log⟩) :=
      readExact_append hsingle tail log
    obtain ⟨name, hname⟩ := readExact_of_le (n := len.toNat) (s := ⟨tail, log⟩) (by
      show len.toNat ≤ tail.length
      omega)
    refine readTarget_of_address (.domain (Utf8.lossy name.1))
      (t := ⟨tail.drop len.toNat, log⟩) ?_ ?_
    · rw [readAddress, if_neg (by decide), if_neg (by decide), if_pos rfl]
      rw [Dialog.bind_ok hone]
      exact Dialog.bind_ok hname
    · rw [List.length_drop]
      omega

/-- What `handshake` writes. -/
def selection : Deed := .selected [VER, 0x00]

/-- Two bytes that have been read. -/
lemma eq_pair : ∀ bs : { bs : Bytes // bs.length = 2 }, bs.1 = [byte bs 0, byte bs 1]
  | ⟨[_, _], _⟩ => rfl

/-- Four bytes. -/
lemma eq_head : ∀ bs : { bs : Bytes // bs.length = 4 },
    bs.1 = [byte bs 0, byte bs 1, byte bs 2, byte bs 3]
  | ⟨[_, _, _, _], _⟩ => rfl

lemma writeAll_eq (d : Deed) (o : Except String Unit) (s : Dialog.State Deed) :
    writeAll d o s = (o.mapError .io, { s with log := s.log ++ [d] }) := rfl

/-- A greeting with its methods is answered. -/
lemma handshake_greeting {n : UInt8} {methods : Bytes} (h : methods.length = n.toNat)
    (hw : env.selectionWrite = .ok ()) (rest : Bytes) :
    handshake env ⟨VER :: n :: (methods ++ rest), []⟩ = (.ok (), ⟨rest, [selection]⟩) := by
  have hlen : [VER, n].length = 2 := rfl
  have hfirst : readExact 2 ⟨VER :: n :: (methods ++ rest), []⟩
      = (.ok ⟨[VER, n], hlen⟩, ⟨methods ++ rest, []⟩) := readExact_append hlen _ _
  have hver : ¬ byte ⟨[VER, n], hlen⟩ 0 ≠ VER := not_not_intro rfl
  rw [handshake, Dialog.bind_ok hfirst, if_neg hver]
  have hmethods : readExact (byte ⟨[VER, n], hlen⟩ 1).toNat ⟨methods ++ rest, []⟩
      = (.ok ⟨methods, h⟩, ⟨rest, []⟩) := readExact_append h _ _
  rw [Dialog.bind_ok hmethods, hw, writeAll_eq]
  rfl

lemma readExact_quiet (n : ℕ) : Dialog.Quiet (readExact n) := Dialog.quiet_readExact _ n

/-- Whatever the client sends, the handshake writes at most the selection. -/
lemma handshake_log (env : Env) (bytes : Bytes) :
    (handshake env ⟨bytes, []⟩).2.log = [] ∨ (handshake env ⟨bytes, []⟩).2.log = [selection] := by
  rw [handshake]
  obtain hfail | ⟨first, t, -, hlog, heq⟩ := (readExact_quiet 2).bind_cases _ ⟨bytes, []⟩
  · exact .inl hfail
  rw [heq]
  split
  · exact .inl hlog
  · obtain hfail | ⟨methods, u, -, hlog', heq⟩ := (readExact_quiet _).bind_cases _ t
    · exact .inl (hfail.trans hlog)
    · rw [heq, writeAll_eq, hlog', hlog]
      exact .inr rfl

/-- A handshake that succeeds has read a greeting and answered it. -/
lemma handshake_eq_ok (h : handshake env ⟨bytes, []⟩ = (.ok (), t)) :
    env.selectionWrite = .ok () ∧ t.log = [selection]
      ∧ ∃ n methods, methods.length = n.toNat ∧ bytes = VER :: n :: (methods ++ t.unread) := by
  obtain ⟨first, u, hfirst, h⟩ := Dialog.bind_eq_ok.mp h
  obtain ⟨hbytes, hlog⟩ := Dialog.readExact_eq_ok hfirst
  split at h
  · cases h
  case isFalse hver =>
    obtain ⟨methods, v, hmethods, h⟩ := Dialog.bind_eq_ok.mp h
    obtain ⟨hrest, hlog'⟩ := Dialog.readExact_eq_ok hmethods
    rw [writeAll_eq] at h
    have hwrite : env.selectionWrite.mapError AetherError.io = .ok () := congrArg Prod.fst h
    have hend : t = { v with log := v.log ++ [selection] } := (congrArg Prod.snd h).symm
    refine ⟨Except.mapError_eq_ok.mp hwrite, ?_, byte first 1, methods.1, methods.2, ?_⟩
    · rw [hend, hlog', hlog]
      rfl
    · rw [hend, ← not_not.mp hver]
      have hsplit : bytes = first.1 ++ u.unread := hbytes
      rw [hsplit, hrest, eq_pair first]
      rfl

/-- Without a whole request the client gets the selection at most. -/
lemma deeds_cases (env : Env) (bytes : Bytes) :
    (deeds env bytes = [] ∨ deeds env bytes = [selection])
    ∨ ∃ cmd atyp, Received env bytes cmd atyp := by
  rw [deeds, handleClient]
  have hfirst := handshake_log env bytes
  rcases hshake : handshake env ⟨bytes, []⟩ with ⟨e | ⟨⟩, t⟩
  · rw [hshake] at hfirst
    rw [Dialog.bind_error hshake]
    exact .inl hfirst
  obtain ⟨hwrite, hlog, n, methods, hmethods, hbytes⟩ := handshake_eq_ok hshake
  rw [Dialog.bind_ok hshake]
  obtain hfail | ⟨head, u, hhead, hlog', heq⟩ := (readExact_quiet 4).bind_cases _ t
  · exact .inl (.inr (hfail.trans hlog))
  rw [heq]
  split
  · exact .inl (.inr (hlog'.trans hlog))
  case isFalse hver =>
    obtain hfail | ⟨x, v, htarget, -⟩ := (readTarget_quiet (byte head 3)).bind_cases _ u
    · exact .inl (.inr (hfail.trans (hlog'.trans hlog)))
    have hwhole := (whole_of_readTarget htarget).2
    refine .inr ⟨byte head 1, byte head 3, hwrite, n, methods, byte head 2, u.unread, ?_, hmethods,
      hwhole⟩
    rw [hbytes, (Dialog.readExact_eq_ok hhead).1, eq_head head, not_not.mp hver]
    rfl

/-- `handle_client` goes on with a whole request of a known type. -/
lemma deeds_of_received (h : Received env bytes cmd atyp) :
    (Known atyp → ∃ target port s, s.log = [selection]
      ∧ deeds env bytes = (handleCommand env cmd target port s).2.log)
    ∧ (¬ Known atyp → deeds env bytes = [selection]) := by
  obtain ⟨hwrite, n, methods, rsv, rest, rfl, hmethods, hwhole⟩ := h
  have hhead : [VER, cmd, rsv, atyp].length = 4 := rfl
  have hread : readExact 4 ⟨VER :: cmd :: rsv :: atyp :: rest, [selection]⟩
      = (.ok ⟨[VER, cmd, rsv, atyp], hhead⟩, ⟨rest, [selection]⟩) := readExact_append hhead _ _
  have hver : ¬ byte ⟨[VER, cmd, rsv, atyp], hhead⟩ 0 ≠ VER := not_not_intro rfl
  have hgo : deeds env (VER :: n :: (methods ++ VER :: cmd :: rsv :: atyp :: rest))
      = ((readTarget atyp >>= fun x => handleCommand env cmd x.1 x.2)
          ⟨rest, [selection]⟩).2.log := by
    rw [deeds, handleClient, Dialog.bind_ok (handshake_greeting hmethods hwrite _),
      Dialog.bind_ok hread, if_neg hver]
    rfl
  constructor
  · intro hknown
    obtain ⟨⟨target, port⟩, t, ht⟩ :=
      readTarget_of_whole (s := ⟨rest, [selection]⟩) hknown hwhole
    have hlog := readTarget_quiet atyp ⟨rest, [selection]⟩
    rw [ht] at hlog
    rw [hgo, Dialog.bind_ok ht]
    exact ⟨target, port, t, hlog, rfl⟩
  · intro hknown
    obtain hfail | ⟨x, t, ht, -⟩ := (readTarget_quiet atyp).bind_cases
      (fun x => handleCommand env cmd x.1 x.2) ⟨rest, [selection]⟩
    · exact hgo.trans hfail
    · exact absurd (whole_of_readTarget ht).1 hknown

/-! ### Answers -/

/-- The log of a request that is answered as it should be. -/
inductive Answer (cmd : UInt8) : List Deed → Prop where
  | refused {bs : Bytes} (h : ¬ IsOk bs) : Answer cmd [selection, .replied bs]
  | connected {bs : Bytes} (dst : SocketAddr) (chunks : List Bytes) (h : IsOk bs)
      (hcmd : cmd = CMD_CONNECT) :
      Answer cmd (selection :: .opened (.tcp dst) :: .replied bs :: chunks.map .relayed)
  | associated {bs : Bytes} (h : IsOk bs) (hcmd : cmd = CMD_UDP_ASSOCIATE) :
      Answer cmd [selection, .replied bs, .opened .udp]

lemma relay_log (downloads : List (Bytes × Except String Unit)) (s : Dialog.State Deed) :
    ∃ chunks : List Bytes, (relay downloads s).2.log = s.log ++ chunks.map .relayed := by
  induction downloads generalizing s with
  | nil => exact ⟨[], (List.append_nil _).symm⟩
  | cons d more ih =>
      obtain ⟨chunk, e | ⟨⟩⟩ := d
      · exact ⟨[chunk], rfl⟩
      · obtain ⟨chunks, h⟩ := ih { s with log := s.log ++ [.relayed chunk] }
        exact ⟨chunk :: chunks, h.trans (List.append_assoc _ _ _)⟩

lemma refuse_log (e : AetherError) (hs : s.log = [selection]) :
    Answer cmd (refuse env e s).2.log := by
  show Answer cmd (s.log ++ [_])
  rw [hs]
  exact .refused (by simp [IsOk, REP_OK, REP_GENERAL])

lemma isOk_bound (bound : SocketAddr) :
    IsOk ([VER, REP_OK, 0x00] ++ boundBytes bound.ip ++ Octets.beBytes 2 bound.port) := rfl

/-- A write that fails is the last thing in the log. -/
lemma writeAll_bind {d : Deed} {o : Except String Unit} {f : Unit → Talk Unit} :
    o.isOk = false ∧ ((writeAll d o >>= f) s).2.log = s.log ++ [d]
    ∨ o.isOk = true ∧ (writeAll d o >>= f) s = f () { s with log := s.log ++ [d] } := by
  rcases o with e | ⟨⟩
  · exact .inl ⟨rfl, rfl⟩
  · exact .inr ⟨rfl, rfl⟩

lemma lift_bind {α : Type} {o : Except AetherError α} {f : α → Talk Unit} :
    o.isOk = false ∧ ((Dialog.lift o >>= f) s).2.log = s.log
    ∨ o.isOk = true ∧ ∃ a, (Dialog.lift o >>= f) s = f a s := by
  rcases o with e | a
  · exact .inl ⟨rfl, rfl⟩
  · exact .inr ⟨rfl, a, rfl⟩

lemma isOk_mapError {α : Type} (o : Except String α) :
    (o.mapError AetherError.io).isOk = o.isOk := by
  cases o <;> rfl

/-- `handle_connect` answers as it should, whatever fails. -/
lemma handleConnect_answer (env : Env) (target : Target) (port : ℕ) (hs : s.log = [selection]) :
    Answer CMD_CONNECT (handleConnect env target port s).2.log := by
  rcases hip : resolve env target with e | ip
  · rw [handleConnect, hip]
    exact refuse_log e hs
  rcases hopen : env.openTcp ⟨ip, port⟩ with e | ⟨⟩
  · simp only [handleConnect, hip, hopen]
    exact refuse_log e hs
  simp only [handleConnect, hip, hopen]
  rw [Dialog.note_bind, replyBound, hs]
  obtain ⟨-, hfail⟩ | ⟨-, hgo⟩ := writeAll_bind (f := fun _ => relay env.downloads)
  · rw [hfail]
    exact .connected _ [] (isOk_bound _) rfl
  · obtain ⟨chunks, hchunks⟩ := relay_log env.downloads _
    rw [hgo, hchunks]
    exact .connected _ chunks (isOk_bound _) rfl

/-- One of the steps that all have to succeed fails. -/
lemma branch_of_failed {all good bad : Prop} {ok : Bool} (hno : ok = false)
    (hall : all → ok = true) (hbad : bad) : (all → good) ∧ (¬ all → bad) :=
  ⟨fun h => absurd (hno.symm.trans (hall h)) Bool.noConfusion, fun _ => hbad⟩

/-- `handle_udp_associate` does so when nothing fails; else there is no reply, or one that says
that all is well. -/
lemma handleUdpAssociate_log (env : Env) (hs : s.log = [selection]) :
    (Associates env → Answer CMD_UDP_ASSOCIATE (handleUdpAssociate env s).2.log)
    ∧ (¬ Associates env → (handleUdpAssociate env s).2.log = [selection]
        ∨ ∃ bs, IsOk bs ∧ (handleUdpAssociate env s).2.log = [selection, .replied bs]) := by
  rw [handleUdpAssociate, Associates]
  obtain ⟨hno, hfail⟩ | ⟨hbind, _, hgo⟩ := lift_bind
  · rw [isOk_mapError] at hno
    exact branch_of_failed hno (fun h => h.1) (.inl (hfail.trans hs))
  rw [isOk_mapError] at hbind
  rw [hgo]
  obtain ⟨hno, hfail⟩ | ⟨haddr, addr, hgo⟩ := lift_bind
  · rw [isOk_mapError] at hno
    exact branch_of_failed hno (fun h => h.2.1) (.inl (hfail.trans hs))
  rw [isOk_mapError] at haddr
  rw [hgo, replyBound]
  -- From here on the client has been told that all is well.
  have htold {log : List Deed} (h : log = s.log ++ [.replied _]) :
      ∃ bs, IsOk bs ∧ log = [selection, .replied bs] :=
    ⟨_, isOk_bound addr, h.trans (by rw [hs]; rfl)⟩
  obtain ⟨hno, hfail⟩ | ⟨hreply, hgo⟩ := writeAll_bind
  · exact branch_of_failed hno (fun h => h.2.2.1) (.inr (htold hfail))
  rw [hgo]
  obtain ⟨hno, hfail⟩ | ⟨hopen, _, hgo⟩ := lift_bind
  · exact branch_of_failed hno (fun h => h.2.2.2) (.inr (htold hfail))
  rw [hgo]
  refine ⟨fun _ => ?_, fun h => absurd ⟨hbind, haddr, hreply, hopen⟩ h⟩
  show Answer _ ((s.log ++ [_]) ++ [_])
  rw [hs]
  exact .associated (isOk_bound addr) rfl

/-- A request of a known type is answered as it should be, but for an association that fails. -/
lemma handleCommand_log (env : Env) (cmd : UInt8) (target : Target) (port : ℕ)
    (hs : s.log = [selection]) :
    ((cmd = CMD_UDP_ASSOCIATE → Associates env) →
        Answer cmd (handleCommand env cmd target port s).2.log)
    ∧ (cmd = CMD_UDP_ASSOCIATE → ¬ Associates env →
        (handleCommand env cmd target port s).2.log = [selection]
        ∨ ∃ bs, IsOk bs
            ∧ (handleCommand env cmd target port s).2.log = [selection, .replied bs]) := by
  rw [handleCommand]
  split
  case isTrue hcmd =>
    rw [hcmd]
    exact ⟨fun _ => handleConnect_answer env target port hs, fun h => absurd h (by decide)⟩
  case isFalse =>
    split
    case isTrue hcmd =>
      obtain ⟨hall, hfail⟩ := handleUdpAssociate_log env hs
      exact ⟨fun h => hcmd ▸ hall (h hcmd), fun _ h => hfail h⟩
    case isFalse hcmd =>
      refine ⟨fun _ => ?_, fun h => absurd h hcmd⟩
      rw [reply]
      obtain ⟨-, hlog⟩ | ⟨-, hlog⟩ :=
        writeAll_bind (f := fun _ => Dialog.fail (.other "unsupported socks command"))
      · rw [hlog, hs]
        exact .refused (by decide)
      · rw [hlog]
        show Answer cmd (s.log ++ [_])
        rw [hs]
        exact .refused (by decide)

lemma kind_relayed (chunks : List Bytes) :
    (chunks.map Deed.relayed).filterMap Deed.kind = List.replicate chunks.length .relay := by
  induction chunks with
  | nil => rfl
  | cons c cs ih => exact congrArg (Kind.relay :: ·) ih

lemma reply_relayed (chunks : List Bytes) :
    (chunks.map Deed.relayed).filterMap Deed.reply = [] := by
  induction chunks with
  | nil => rfl
  | cons c cs ih => exact ih

namespace Answer

variable {log : List Deed}

lemma ordered (h : Answer cmd log) :
    ∃ n, log.filterMap Deed.kind <+: .selection :: .reply :: List.replicate n .relay := by
  cases h with
  | refused | associated => exact ⟨0, List.prefix_rfl⟩
  | connected dst chunks =>
      refine ⟨chunks.length, ?_⟩
      show .selection :: .reply :: (chunks.map Deed.relayed).filterMap Deed.kind <+: _
      rw [kind_relayed]

lemma answered (h : Answer cmd log) : (log.filterMap Deed.reply).length = 1 := by
  cases h with
  | refused | associated => rfl
  | @connected bs dst chunks =>
      show (bs :: (chunks.map Deed.relayed).filterMap Deed.reply).length = 1
      rw [reply_relayed]
      rfl

lemma honest (h : Answer cmd log) :
    (∃ bs ∈ log.filterMap Deed.reply, IsOk bs) ↔ ∃ r, .opened r ∈ log ∧ r.cmd = cmd := by
  cases h with
  | refused h =>
      refine ⟨?_, ?_⟩
      · rintro ⟨bs, hbs, hok⟩
        cases List.mem_singleton.mp hbs
        exact absurd hok h
      · rintro ⟨r, hr, -⟩
        simp [selection] at hr
  | @connected bs dst chunks h hcmd =>
      exact iff_of_true ⟨bs, List.mem_cons_self .., h⟩
        ⟨.tcp dst, List.mem_cons_of_mem _ (List.mem_cons_self ..), hcmd.symm⟩
  | @associated bs h hcmd =>
      exact iff_of_true ⟨bs, List.mem_cons_self .., h⟩ ⟨.udp, by simp, hcmd.symm⟩

end Answer

/-- The request that the bytes hold is unique. -/
lemma Received.unique {cmd' atyp' : UInt8} (h : Received env bytes cmd atyp)
    (g : Received env bytes cmd' atyp') : cmd = cmd' ∧ atyp = atyp' := by
  obtain ⟨-, n, methods, rsv, rest, rfl, hlen, -⟩ := h
  obtain ⟨-, n', methods', rsv', rest', heq, hlen', -⟩ := g
  simp only [List.cons.injEq, true_and] at heq
  obtain ⟨rfl, heq⟩ := heq
  obtain ⟨-, htail⟩ := List.append_inj heq (hlen.trans hlen'.symm)
  simp only [List.cons.injEq, true_and] at htail
  exact ⟨htail.1, htail.2.2.1⟩

/-- A request of an unknown type is not answered. -/
lemma Truthful.known (h : Truthful env bytes) (hr : Received env bytes cmd atyp) :
    Known atyp := by
  by_contra hno
  have hone := h.answered cmd atyp hr
  rw [(deeds_of_received hr).2 hno] at hone
  cases hone

/-- An association that fails is not answered, or the answer says that all is well. -/
lemma Truthful.associates (h : Truthful env bytes) (hr : Received env bytes cmd atyp)
    (hcmd : cmd = CMD_UDP_ASSOCIATE) : Associates env := by
  by_contra hno
  obtain ⟨target, port, s, hs, hdeeds⟩ := (deeds_of_received hr).1 (h.known hr)
  obtain hnone | ⟨bs, hok, hlog⟩ := (handleCommand_log env cmd target port hs).2 hcmd hno
  · have hone := h.answered cmd atyp hr
    rw [hdeeds, hnone] at hone
    cases hone
  · have hlog := hdeeds.trans hlog
    obtain ⟨-, -, r, -, hopened, -⟩ :=
      h.honest.mp ⟨bs, by rw [hlog]; exact List.mem_cons_self .., hok⟩
    rw [hlog] at hopened
    simp [selection] at hopened

lemma answer_of_received (hr : Received env bytes cmd atyp)
    (h : Known atyp ∧ (cmd = CMD_UDP_ASSOCIATE → Associates env)) :
    Answer cmd (deeds env bytes) := by
  obtain ⟨target, port, s, hs, hdeeds⟩ := (deeds_of_received hr).1 h.1
  exact hdeeds ▸ (handleCommand_log env cmd target port hs).1 h.2

/-- A client that has been told nothing but the selection has been told the truth, unless it
has made a request. -/
lemma truthful_of_short (hshort : deeds env bytes = [] ∨ deeds env bytes = [selection])
    (hanswered : ∀ cmd atyp, Received env bytes cmd atyp →
      ((deeds env bytes).filterMap Deed.reply).length = 1) : Truthful env bytes := by
  have hnone : ∀ r, .opened r ∉ deeds env bytes := by
    rcases hshort with h | h <;> simp [h, selection]
  refine ⟨⟨0, ?_⟩, hanswered, iff_of_false ?_ ?_⟩
  · rcases hshort with h | h
    · exact h ▸ List.nil_prefix
    · exact h ▸ ⟨[.reply], rfl⟩
  · rcases hshort with h | h <;> simp [h, selection, Deed.reply]
  · rintro ⟨-, -, r, -, hopened, -⟩
    exact hnone r hopened

/-- **What the client is told is true exactly when** the type of its address is known and, if
it asks for an association, nothing fails on the way to it. -/
theorem truthful_iff (env : Env) (bytes : Bytes) :
    Truthful env bytes ↔ ∀ cmd atyp, Received env bytes cmd atyp →
      Known atyp ∧ (cmd = CMD_UDP_ASSOCIATE → Associates env) := by
  constructor
  · intro h cmd atyp hr
    exact ⟨h.known hr, h.associates hr⟩
  · intro h
    have hanswer : ∀ cmd atyp, Received env bytes cmd atyp → Answer cmd (deeds env bytes) :=
      fun cmd atyp hr => answer_of_received hr (h cmd atyp hr)
    have hanswered : ∀ cmd atyp, Received env bytes cmd atyp →
        ((deeds env bytes).filterMap Deed.reply).length = 1 :=
      fun cmd atyp hr => (hanswer cmd atyp hr).answered
    obtain hshort | ⟨cmd, atyp, hr⟩ := deeds_cases env bytes
    · exact truthful_of_short hshort hanswered
    · refine ⟨(hanswer cmd atyp hr).ordered, hanswered, (hanswer cmd atyp hr).honest.trans ?_⟩
      constructor
      · rintro ⟨r, hopened, hcmd⟩
        exact ⟨cmd, atyp, r, hr, hopened, hcmd⟩
      · rintro ⟨cmd', atyp', r, hr', hopened, hcmd⟩
        exact ⟨r, hopened, hcmd.trans (hr'.unique hr).1⟩

/-- A client that asks for an association of a netstack that is gone. -/
def dropped : Env where
  dnsResolve _ := .error (.other "netstack dropped")
  openTcp _ := .error (.other "netstack dropped")
  openUdp := .error (.other "netstack dropped")
  relayBind := .ok ()
  localAddr := .ok ⟨.v4 (.new 127 0 0 1), 40000⟩
  selectionWrite := .ok ()
  replyWrite := .ok ()
  downloads := []

/-- The association is not opened, and the client is told that it is. -/
theorem associate_untruthful :
    ¬ Truthful dropped ([5, 1, 0] ++ [5, 3, 0, 1, 0, 0, 0, 0, 0, 0]) := by
  intro h
  have hdeeds : deeds dropped ([5, 1, 0] ++ [5, 3, 0, 1, 0, 0, 0, 0, 0, 0])
      = [selection, .replied [5, 0, 0, 1, 127, 0, 0, 1, 156, 64]] := by decide
  have hok : ∃ bs ∈ (deeds dropped ([5, 1, 0] ++ [5, 3, 0, 1, 0, 0, 0, 0, 0, 0])).filterMap
      Deed.reply, IsOk bs := by decide
  obtain ⟨-, -, r, -, hopened, -⟩ := h.honest.mp hok
  rw [hdeeds] at hopened
  simp [selection] at hopened

end Aether.Socks.Client
