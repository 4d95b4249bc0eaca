import Aether.Error
import Aether.Net
import Aether.AddrParser
import Mathlib.Logic.Function.Basic

/-!
The command line of the core (`cli.rs`) and the listen address that `main` takes from it.

* `option`: what an option does; `parseAndApply` runs through the arguments.
* `Applies`: a list of arguments sets these variables, whatever follows; `Applies.append`
  puts lists together.
* `Gives`: a list of arguments gives a variable its value; `Keeps`: it leaves it alone.
-/

namespace Aether

/-- The environment of the process. -/
abbrev Env := String → Option String

/-- `std::env::set_var` for these variables, in order. -/
def Env.setAll (env : Env) (vars : List (String × String)) : Env :=
  vars.foldl (fun env v => Function.update env v.1 (some v.2)) env

namespace Cli

/-- `CARGO_PKG_VERSION`. -/
def version : String := "1.3.0"

/-- `USAGE`. -/
def usage : String := "Usage: aether [OPTIONS]

Connection:
  --bind <addr>            local SOCKS5 listen address (default 127.0.0.1:1819)
  --quick-reconnect        auto-accept reconnecting with the last known working gateway
  --no-quick-reconnect     always scan fresh, ignore any saved last-connection gateway
  -4                       scan/connect over IPv4 only (default)
  -6                       scan/connect over IPv6 only
  --dual                   scan/connect over both IPv4 and IPv6
  --peer <ip:port>         force a MASQUE/WireGuard peer, skip scanning
  --wg-peer <ip:port>      force a WireGuard peer (warp-in-warp outer), skip scanning

Protocol:
  --masque                 use MASQUE over QUIC/HTTP-3 (default)
  --wg, --wireguard        use classic WireGuard
  --gool, --wiw            use WARP-in-WARP (wireguard tunneled in wireguard)

Scan mode:
  --scan <mode>            turbo | balanced | thorough | stealth
  --turbo                  shortcut for --scan turbo
  --balanced               shortcut for --scan balanced
  --thorough               shortcut for --scan thorough
  --stealth                shortcut for --scan stealth
  --ironclad               shortcut for --scan ironclad (real tunnel + real HTTP check per candidate)

Obfuscation:
  --noize <profile>        obfuscation profile (off, light/firewall, balanced, gfw/aggressive, ...)

MASQUE transport:
  --h2, --http2            use HTTP/2 (TCP) instead of HTTP/3 (QUIC)
  --h2-peer <ip:port>      override the peer used for the HTTP/2 transport
  --ech <auto|base64>      enable Encrypted Client Hello
  --no-data-check          skip the end-to-end data-plane validation
  --validate-secs <n>      seconds to wait for data-plane validation (default 10)
  --reconnect-secs <n>     delay before reconnecting after a tunnel drop (default 2)
  --fragment               fragment the TLS ClientHello on the HTTP/2 transport
  --fragment-size <n|a-b>  fragment chunk size in bytes (default 16-32)
  --fragment-delay <n|a-b> delay between fragments in ms (default 2-10)

WireGuard:
  --keepalive <n>          persistent keepalive interval in seconds (default 5)
  --no-profile-retry       don't retry other obfuscation profiles during scan

Config files:
  --config <path>          base identity config path (default aether.toml)
  --wg-config <path>       identity config path for WireGuard
  --masque-config <path>   identity config path for MASQUE

Advanced:
  --tls-groups <list>      TLS key share groups, e.g. \"P-256:X25519:P-384\"
  --verbose                detailed debug logs: tunnel stages, validation, reconnects, retries
                           (equivalent to RUST_LOG=info,aether=debug; RUST_LOG overrides this)

  -v, --version            show version and exit
  -h, --help               show this help and exit
"

/-- What an option does. -/
inductive Action where
  /-- Print a text and exit. -/
  | exit (printed : String)
  | set (vars : List (String × String))
  /-- Set the variable to the next argument. -/
  | value (key : String)
  deriving DecidableEq

/-- The arms of the `match` in `parse_and_apply`. -/
def option : String → Option Action
  | "-v" | "--version" => some (.exit s!"aether {version}\n")
  | "-h" | "--help" => some (.exit usage)
  | "--bind" => some (.value "AETHER_SOCKS")
  | "--quick-reconnect" => some (.set [("AETHER_QUICK_RECONNECT", "1")])
  | "--no-quick-reconnect" => some (.set [("AETHER_QUICK_RECONNECT", "0")])
  | "-4" => some (.set [("AETHER_IP", "v4")])
  | "-6" => some (.set [("AETHER_IP", "v6")])
  | "--dual" => some (.set [("AETHER_IP", "both")])
  | "--ip" => some (.value "AETHER_IP")
  | "--peer" => some (.value "AETHER_PEER")
  | "--wg-peer" => some (.value "AETHER_WG_PEER")
  | "--masque" => some (.set [("AETHER_PROTOCOL", "masque")])
  | "--wg" | "--wireguard" => some (.set [("AETHER_PROTOCOL", "wg")])
  | "--gool" | "--wiw" => some (.set [("AETHER_PROTOCOL", "gool")])
  | "--protocol" => some (.value "AETHER_PROTOCOL")
  | "--scan" => some (.value "AETHER_SCAN")
  | "--turbo" => some (.set [("AETHER_SCAN", "turbo")])
  | "--balanced" => some (.set [("AETHER_SCAN", "balanced")])
  | "--thorough" => some (.set [("AETHER_SCAN", "thorough")])
  | "--stealth" => some (.set [("AETHER_SCAN", "stealth")])
  | "--ironclad" => some (.set [("AETHER_SCAN", "ironclad")])
  | "--noize" => some (.value "AETHER_NOIZE")
  | "--h2" | "--http2" => some (.set [("AETHER_MASQUE_HTTP2", "1")])
  | "--h2-peer" => some (.value "AETHER_MASQUE_H2_PEER")
  | "--ech" => some (.value "AETHER_ECH")
  | "--no-data-check" =>
      some (.set [("AETHER_MASQUE_NO_DATA_CHECK", "1"), ("AETHER_WG_NO_DATA_CHECK", "1")])
  | "--validate-secs" => some (.value "AETHER_MASQUE_VALIDATE_SECS")
  | "--reconnect-secs" => some (.value "AETHER_MASQUE_RECONNECT_SECS")
  | "--fragment" => some (.set [("AETHER_MASQUE_H2_FRAGMENT", "1")])
  | "--fragment-size" => some (.value "AETHER_MASQUE_H2_FRAGMENT_SIZE")
  | "--fragment-delay" => some (.value "AETHER_MASQUE_H2_FRAGMENT_DELAY")
  | "--keepalive" => some (.value "AETHER_WG_KEEPALIVE")
  | "--no-profile-retry" => some (.set [("AETHER_WG_NO_PROFILE_RETRY", "1")])
  | "--config" => some (.value "AETHER_CONFIG")
  | "--wg-config" => some (.value "AETHER_WG_CONFIG")
  | "--masque-config" => some (.value "AETHER_MASQUE_CONFIG")
  | "--tls-groups" => some (.value "AETHER_TLS_GROUPS")
  | "--verbose" => some (.set [("AETHER_VERBOSE", "1")])
  | _ => none

/-- How the arguments end: the environment they leave, or what is printed before the exit. -/
inductive Parsed where
  | applied (env : Env)
  | exited (printed : String)

/-- `parse_and_apply` from an argument on. -/
def parseAndApply : List String → Env → Except AetherError Parsed
  | [], env => .ok (.applied env)
  | [arg], env =>
      match option arg with
      | some (.exit printed) => .ok (.exited printed)
      | some (.set vars) => .ok (.applied (env.setAll vars))
      | some (.value _) => .error (.other s!"{arg} requires a value")
      | none => .error (.other s!"unknown option '{arg}'\n\n{usage}")
  | arg :: next :: args, env =>
      match option arg with
      | some (.exit printed) => .ok (.exited printed)
      | some (.set vars) => parseAndApply (next :: args) (env.setAll vars)
      | some (.value key) => parseAndApply args (env.setAll [(key, next)])
      | none => .error (.other s!"unknown option '{arg}'\n\n{usage}")

/-- An option that sets variables needs no other argument. -/
lemma parseAndApply_set {arg : String} {vars : List (String × String)}
    (h : option arg = some (.set vars)) (args : List String) (env : Env) :
    parseAndApply (arg :: args) env = parseAndApply args (env.setAll vars) := by
  cases args <;> simp only [parseAndApply, h]

/-- An option with a value takes the next argument, whatever it is. -/
lemma parseAndApply_value {arg key : String} (h : option arg = some (.value key))
    (value : String) (args : List String) (env : Env) :
    parseAndApply (arg :: value :: args) env = parseAndApply args (env.setAll [(key, value)]) := by
  simp only [parseAndApply, h]

/-! ### Lists of arguments -/

/-- The arguments set these variables and no more, whatever follows them. -/
def Applies (args : List String) (vars : List (String × String)) : Prop :=
  ∀ rest env, parseAndApply (args ++ rest) env = parseAndApply rest (env.setAll vars)

lemma applies_nil : Applies [] [] := fun _ _ => rfl

/-- Lists of arguments apply one after the other. -/
lemma Applies.append {args args' : List String} {vars vars' : List (String × String)}
    (h : Applies args vars) (h' : Applies args' vars') :
    Applies (args ++ args') (vars ++ vars') := by
  intro rest env
  rw [List.append_assoc, h, h']
  simp [Env.setAll]

lemma applies_set {arg : String} {vars : List (String × String)}
    (h : option arg = some (.set vars)) : Applies [arg] vars :=
  fun rest env => parseAndApply_set h rest env

lemma applies_value {arg key : String} (h : option arg = some (.value key)) (value : String) :
    Applies [arg, value] [(key, value)] :=
  fun rest env => parseAndApply_value h value rest env

/-- A variable that the arguments do not set is as it was. -/
lemma setAll_of_not_mem {key : String} {vars : List (String × String)}
    (h : ∀ v ∈ vars, v.1 ≠ key) (env : Env) : env.setAll vars key = env key := by
  induction vars generalizing env with
  | nil => rfl
  | cons v vars ih =>
      have hrest := ih (fun w hw => h w (List.mem_cons_of_mem v hw))
        (Function.update env v.1 (some v.2))
      have hne : key ≠ v.1 := (h v (List.mem_cons_self ..)).symm
      rw [Function.update_of_ne hne] at hrest
      exact hrest

lemma setAll_append (vars vars' : List (String × String)) (env : Env) :
    env.setAll (vars ++ vars') = (env.setAll vars).setAll vars' := List.foldl_append

/-- So a list that applies is accepted as a whole. -/
lemma Applies.run {args : List String} {vars : List (String × String)} (h : Applies args vars)
    (env : Env) : parseAndApply args env = .ok (.applied (env.setAll vars)) := by
  have hrun := h [] env
  rwa [List.append_nil] at hrun

/-- The arguments are accepted and leave the variable alone. -/
def Keeps (key : String) (args : List String) : Prop :=
  ∃ vars, Applies args vars ∧ ∀ v ∈ vars, v.1 ≠ key

lemma keeps_nil (key : String) : Keeps key [] := ⟨[], applies_nil, by simp⟩

lemma Keeps.append {key : String} {args args' : List String} (h : Keeps key args)
    (h' : Keeps key args') : Keeps key (args ++ args') := by
  obtain ⟨vars, hvars, hkey⟩ := h
  obtain ⟨vars', hvars', hkey'⟩ := h'
  refine ⟨vars ++ vars', hvars.append hvars', ?_⟩
  intro v hv
  exact (List.mem_append.mp hv).elim (hkey v) (hkey' v)

/-- An option that sets another variable. -/
lemma keeps_set {key arg written value : String} (h : option arg = some (.set [(written, value)]))
    (hne : written ≠ key) : Keeps key [arg] := by
  refine ⟨_, applies_set h, ?_⟩
  intro v hv
  rw [List.mem_singleton.mp hv]
  exact hne

/-- An option whose value goes to another variable, whatever the value is. -/
lemma keeps_value {key arg written : String} (h : option arg = some (.value written))
    (hne : written ≠ key) (value : String) : Keeps key [arg, value] := by
  refine ⟨_, applies_value h value, ?_⟩
  intro v hv
  rw [List.mem_singleton.mp hv]
  exact hne

/-- The arguments are accepted and give the variable this value. -/
def Gives (key value : String) (args : List String) : Prop :=
  ∃ vars, Applies args vars ∧ ∀ env : Env, env.setAll vars key = some value

lemma gives_value {arg key : String} (h : option arg = some (.value key)) (value : String) :
    Gives key value [arg, value] :=
  ⟨_, applies_value h value, fun _ => Function.update_self ..⟩

/-- What is given stays behind arguments that keep it. -/
lemma Gives.append {key value : String} {args args' : List String} (h : Gives key value args)
    (h' : Keeps key args') : Gives key value (args ++ args') := by
  obtain ⟨vars, hvars, hvalue⟩ := h
  obtain ⟨vars', hvars', hkey⟩ := h'
  refine ⟨vars ++ vars', hvars.append hvars', ?_⟩
  intro env
  rw [setAll_append, setAll_of_not_mem hkey, hvalue]

lemma Gives.run {key value : String} {args : List String} (h : Gives key value args) (env : Env) :
    ∃ env', parseAndApply args env = .ok (.applied env') ∧ env' key = some value := by
  obtain ⟨vars, hvars, hvalue⟩ := h
  exact ⟨env.setAll vars, hvars.run env, hvalue env⟩

end Cli

/-! ### The listen address -/

/-- `Ipv4Addr::LOCALHOST`. -/
def loopback : Ipv4Addr := ⟨[127, 0, 0, 1], rfl⟩

/-- `Ipv4Addr::UNSPECIFIED`. -/
def unspecified : Ipv4Addr := ⟨[0, 0, 0, 0], rfl⟩

/-- `Ipv6Addr::UNSPECIFIED`. -/
def unspecifiedV6 : Ipv6Addr := ⟨List.replicate 16 0, rfl⟩

/-- The address that `main` listens on. -/
def listenAddr (env : Env) : SocketAddr :=
  ((env "AETHER_SOCKS").bind SocketAddr.parse).getD ⟨.v4 loopback, 1819⟩

end Aether
