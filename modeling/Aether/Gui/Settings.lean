import Aether.Gui.Text

/-!
The settings of the GUI, the arguments the core is started with, and the port that the
system proxy is given.
-/

namespace Aether.Gui

/-- The protocols the user chooses from; `gool` is shown as "WARP-in-WARP". -/
inductive ProtocolMode where
  | masque
  | wireguard
  | gool
  deriving DecidableEq, Repr

inductive ScanMode where
  | turbo
  | balanced
  | thorough
  | stealth
  | ironclad
  deriving DecidableEq, Repr

/-- The name that is shown and stored; the core takes it in lower case. -/
def ScanMode.rawValue : ScanMode → String
  | turbo => "Turbo"
  | balanced => "Balanced"
  | thorough => "Thorough"
  | stealth => "Stealth"
  | ironclad => "Ironclad"

/-- The transport of MASQUE: HTTP/3 over QUIC, or HTTP/2. -/
inductive TransportMode where
  | quic
  | h2
  deriving DecidableEq, Repr

inductive IPMode where
  | ipv4
  | ipv6
  | dual
  deriving DecidableEq, Repr

/-- The obfuscation profiles; `gfw` is shown as "GFW (Aggressive)". -/
inductive ObfuscationProfile where
  | off
  | light
  | balanced
  | gfw
  deriving DecidableEq, Repr

/-- The published settings of `AetherManager` that `buildArguments` reads. -/
structure Settings where
  selectedProtocol : ProtocolMode
  scanMode : ScanMode
  transportMode : TransportMode
  ipMode : IPMode
  obfuscation : ObfuscationProfile
  bindAddress : Text
  quickReconnect : Bool
  echEnabled : Bool
  fragmentEnabled : Bool
  fragmentSize : Text
  fragmentDelay : Text
  keepalive : ℤ
  deriving DecidableEq

namespace Settings

/-- The settings when none are stored. -/
def initial : Settings where
  selectedProtocol := .masque
  scanMode := .turbo
  transportMode := .quic
  ipMode := .ipv4
  obfuscation := .balanced
  bindAddress := text "127.0.0.1:1819"
  quickReconnect := true
  echEnabled := false
  fragmentEnabled := false
  fragmentSize := text "16-32"
  fragmentDelay := text "2-10"
  keepalive := 5

/-- The protocol, and HTTP/2 of MASQUE only. -/
def protocolArguments (s : Settings) : List Text :=
  match s.selectedProtocol with
  | .masque => [text "--masque"] ++ (if s.transportMode = .h2 then [text "--h2"] else [])
  | .wireguard => [text "--wg"]
  | .gool => [text "--gool"]

def ipArguments (s : Settings) : List Text :=
  match s.ipMode with
  | .ipv4 => [text "-4"]
  | .ipv6 => [text "-6"]
  | .dual => [text "--dual"]

/-- The obfuscation profile, under the name `noize` or `aethernoize` is given. -/
def noizeArguments (s : Settings) : List Text :=
  match s.obfuscation with
  | .off => [text "--noize", text "off"]
  | .light => [text "--noize", text "light"]
  | .balanced => [text "--noize", text "balanced"]
  | .gfw => [text "--noize", text "gfw"]

/-- `buildArguments`: the options in the order of the source. -/
def buildArguments (s : Settings) : List Text :=
  [text "--bind", s.bindAddress]
    ++ s.protocolArguments
    ++ [text "--scan", text s.scanMode.rawValue.toLower]
    ++ s.ipArguments
    ++ s.noizeArguments
    ++ [if s.quickReconnect then text "--quick-reconnect" else text "--no-quick-reconnect"]
    ++ (if s.echEnabled && s.selectedProtocol = .masque then [text "--ech", text "auto"] else [])
    ++ (if s.fragmentEnabled && s.transportMode = .h2 then
          [text "--fragment", text "--fragment-size", s.fragmentSize,
            text "--fragment-delay", s.fragmentDelay]
        else [])
    ++ (if s.selectedProtocol = .wireguard || s.selectedProtocol = .gool then
          [text "--keepalive", decimal s.keepalive]
        else [])

/-- The port that `enableSystemProxy` installs. -/
def parseSocksPort (s : Settings) : ℤ :=
  match (s.bindAddress.split (.single ':')).getLast? with
  | some last => last.toInt.getD 1819
  | none => 1819

end Settings

end Aether.Gui
