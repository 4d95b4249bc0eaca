import Aether.Cli
import Aether.Gui.Settings

/-!
The endpoint of the system proxy and the listener of the core. Two parsers read the bind
address: the core takes a socket address of it or falls back to 127.0.0.1:1819, the GUI
takes the number behind the last colon or falls back to 1819.

* `listenAddr_coreArguments`: whatever the settings, the core is given the bind address.
* `last_piece_of_parse`: where the core reads an address, the GUI reads its port.
* `accepts_iff`: the bind addresses for which the listener accepts the endpoint.
-/

namespace Aether.Gui

open AddrParser

/-- The string that the core is passed. -/
def Text.string (t : Text) : String := String.ofList t.scalars

@[simp] lemma Text.toList_string (t : Text) : t.string.toList = t.scalars := by simp [string]

lemma scalars_map_single (l : List Char) : Text.scalars (l.map .single) = l := by
  induction l with
  | nil => rfl
  | cons c l ih => exact congrArg (c :: ·) ih

@[simp] lemma string_text (s : String) : (text s).string = s := by
  rw [Text.string, text, scalars_map_single, String.ofList_toList]

/-! ### The arguments of the core -/

namespace Settings

/-- The arguments, as the core sees them. -/
def coreArguments (s : Settings) : List String := s.buildArguments.map Text.string

/-- The core accepts the arguments, and its listen address is not among them. -/
def Kept (args : List Text) : Prop := Cli.Keeps "AETHER_SOCKS" (args.map Text.string)

lemma kept_nil : Kept [] := Cli.keeps_nil _

/-- Lists of arguments keep the listen address if each of them does. -/
lemma Kept.append {args args' : List Text} (h : Kept args) (h' : Kept args') :
    Kept (args ++ args') := by
  rw [Kept, List.map_append]
  exact Cli.Keeps.append h h'

lemma kept_ite {p : Prop} [Decidable p] {args args' : List Text} (h : Kept args)
    (h' : Kept args') : Kept (if p then args else args') := by
  split
  · exact h
  · exact h'

lemma kept_set {arg key value : String} (h : Cli.option arg = some (.set [(key, value)]))
    (hne : key ≠ "AETHER_SOCKS") : Kept [text arg] := by
  rw [Kept, List.map_singleton, string_text]
  exact Cli.keeps_set h hne

/-- An option whose value goes to another variable. -/
lemma kept_value {arg key : String} (h : Cli.option arg = some (.value key))
    (hne : key ≠ "AETHER_SOCKS") (value : Text) : Kept [text arg, value] := by
  rw [Kept, List.map_cons, List.map_singleton, string_text]
  exact Cli.keeps_value h hne value.string

lemma protocolArguments_kept (s : Settings) : Kept s.protocolArguments := by
  rw [protocolArguments]
  split
  · exact .append (kept_set rfl (by decide)) (kept_ite (kept_set rfl (by decide)) kept_nil)
  · exact kept_set rfl (by decide)
  · exact kept_set rfl (by decide)

lemma ipArguments_kept (s : Settings) : Kept s.ipArguments := by
  rw [ipArguments]
  split <;> exact kept_set rfl (by decide)

lemma noizeArguments_kept (s : Settings) : Kept s.noizeArguments := by
  rw [noizeArguments]
  split <;> exact kept_value rfl (by decide) _

lemma reconnectArgument_kept (s : Settings) :
    Kept [if s.quickReconnect then text "--quick-reconnect" else text "--no-quick-reconnect"] := by
  split <;> exact kept_set rfl (by decide)

lemma fragmentArguments_kept (s : Settings) :
    Kept [text "--fragment", text "--fragment-size", s.fragmentSize, text "--fragment-delay",
      s.fragmentDelay] := by
  have hsize : Kept [text "--fragment-size", s.fragmentSize] := kept_value rfl (by decide) _
  have hdelay : Kept [text "--fragment-delay", s.fragmentDelay] := kept_value rfl (by decide) _
  exact Kept.append (kept_set rfl (by decide)) (hsize.append hdelay)

/-- The core accepts the arguments and takes its listen address from them. -/
def Given (s : Settings) (args : List Text) : Prop :=
  Cli.Gives "AETHER_SOCKS" s.bindAddress.string (args.map Text.string)

lemma given_bind (s : Settings) : s.Given [text "--bind", s.bindAddress] := by
  rw [Given, List.map_cons, List.map_singleton, string_text]
  exact Cli.gives_value rfl _

/-- The bind address stays behind arguments that keep it. -/
lemma Given.append {s : Settings} {args args' : List Text} (h : s.Given args)
    (h' : Kept args') : s.Given (args ++ args') := by
  rw [Given, List.map_append]
  exact Cli.Gives.append h h'

/-- **The core is given the bind address**, whatever the other settings. -/
theorem buildArguments_given (s : Settings) : s.Given s.buildArguments := by
  rw [buildArguments]
  refine .append ?_ (kept_ite (kept_value rfl (by decide) _) kept_nil)
  refine .append ?_ (kept_ite (fragmentArguments_kept s) kept_nil)
  refine .append ?_ (kept_ite (kept_value rfl (by decide) _) kept_nil)
  refine .append ?_ (reconnectArgument_kept s)
  refine .append ?_ (noizeArguments_kept s)
  refine .append ?_ (ipArguments_kept s)
  refine .append ?_ (kept_value rfl (by decide) _)
  exact .append (given_bind s) (protocolArguments_kept s)

end Settings

/-! ### Two parsers -/

lemma Character.eq_single {c : Character} (h : ∀ a ∈ c.scalars, Plain a) :
    ∃ a, c = .single a := by
  obtain ⟨scalars, hne, hascii⟩ := c
  rcases hascii fun a ha => (h a ha).1 with hlen | hcrlf
  · obtain ⟨a, rfl⟩ := List.length_eq_one_iff.mp hlen
    exact ⟨a, rfl⟩
  · have hcr : '\r' ∈ scalars := by simp [hcrlf]
    exact absurd rfl (h '\r' hcr).2

/-- Plain scalars are characters of their own. -/
lemma map_single_scalars {t : Text} (h : ∀ a ∈ t.scalars, Plain a) :
    t.scalars.map .single = t := by
  induction t with
  | nil => rfl
  | cons c t ih =>
      have hc : ∀ a ∈ c.scalars, Plain a := fun a ha => h a (List.mem_append_left _ ha)
      obtain ⟨a, rfl⟩ := Character.eq_single hc
      exact congrArg (Character.single a :: ·) (ih fun b hb => h b (List.mem_append_right _ hb))

/-- The last piece of a text is what stands behind its last separator. -/
lemma getLast?_split {front ds : List Char} {a : Char} (hne : ds ≠ []) (ha : a ∉ ds) :
    (Text.split ((front ++ a :: ds).map .single) (.single a)).getLast? = some (ds.map .single) := by
  have hnotin : Character.single a ∉ ds.map Character.single := by
    simpa [Character.single_inj] using ha
  rw [Text.split, List.map_append, List.map_cons, List.splitOn_append_cons_self,
    List.splitOn_eq_singleton hnotin, List.filter_append, List.getLast?_append]
  simp [hne]

/-- The GUI and the core read decimal digits alike. -/
lemma digits_eq_valueOf {ds : List Char} (hne : ds ≠ [])
    (hds : ∀ c ∈ ds, (toDigit 10 c).isSome = true) : digits ds = some (valueOf 10 ds) := by
  have hall : ds.all Char.isDigit = true :=
    List.all_eq_true.mpr fun c hc => (toDigit_ten (hds c hc)).1
  rw [digits, if_pos ⟨hne, hall⟩, valueOf]
  refine congrArg some (List.foldl_ext _ _ 0 ?_)
  intro n c hc
  rw [(toDigit_ten (hds c hc)).2, Option.getD_some, Nat.mul_comm]

/-- The number of the decimal digits. -/
lemma toInt_digits {ds : List Char} (hne : ds ≠ [])
    (hds : ∀ c ∈ ds, (toDigit 10 c).isSome = true) (hlt : valueOf 10 ds < 2 ^ 63) :
    Text.toInt (ds.map .single) = some (valueOf 10 ds : ℤ) := by
  have hdigits := digits_eq_valueOf hne hds
  rw [Text.toInt, scalars_map_single]
  split
  · exact absurd (hds '-' (List.mem_cons_self ..)) (by decide)
  · exact absurd (hds '+' (List.mem_cons_self ..)) (by decide)
  · rw [hdigits, Option.bind_some, if_pos hlt]

/-- **Where the core reads an address, the GUI reads its port.** -/
theorem Settings.parseSocksPort_of_parse {s : Settings} {a : SocketAddr}
    (h : SocketAddr.parse s.bindAddress.string = some a) : s.parseSocksPort = a.port := by
  obtain ⟨front, ds, htext, hplain, hne, hds, hport, hlt⟩ := SocketAddr.parse_eq_some h
  rw [Text.toList_string] at htext hplain
  have hcolon : ':' ∉ ds := fun hmem => absurd (hds ':' hmem) (by decide)
  have hbind : s.bindAddress = (front ++ ':' :: ds).map .single := by
    rw [← htext, map_single_scalars hplain]
  have hvalue : valueOf 10 ds < 2 ^ 63 := by omega
  rw [parseSocksPort, hbind, getLast?_split hne hcolon]
  dsimp only
  rw [toInt_digits hne hds hvalue, Option.getD_some, hport]

/-! ### The endpoint and the listener -/

/-- The address behind `TcpListener::bind`: the system chooses a port in place of 0. -/
def bound (listen : SocketAddr) (chosen : {n : ℕ // 0 < n}) : SocketAddr where
  ip := listen.ip
  port := if listen.port = 0 then chosen else listen.port

/-- A listener with this address has the connections to 127.0.0.1. -/
def Covers (ip : IpAddr) : Prop :=
  ip = .v4 loopback ∨ ip = .v4 unspecified ∨ ip = .v6 unspecifiedV6

instance (ip : IpAddr) : Decidable (Covers ip) := inferInstanceAs (Decidable (_ ∨ _))

/-- The listener accepts the connections to this port of 127.0.0.1. -/
def Accepts (listener : SocketAddr) (port : ℤ) : Prop := listener.port = port ∧ Covers listener.ip

/-- The bind address names a port of the loopback interface, or it is no address and no
number but 1819 stands behind its last colon. -/
def Agreed (bind : Text) : Prop :=
  (∃ a ∈ SocketAddr.parse bind.string, a.port ≠ 0 ∧ Covers a.ip)
    ∨ SocketAddr.parse bind.string = none
      ∧ ∀ last ∈ (bind.split (.single ':')).getLast?, ∀ port ∈ last.toInt, port = 1819

instance (bind : Text) : Decidable (Agreed bind) := inferInstanceAs (Decidable (_ ∨ _))

/-- The listener can be reached at the port it asks for, unless it asks for any or is bound
elsewhere. -/
lemma accepts_bound_iff (listen : SocketAddr) (chosen : {n : ℕ // 0 < n}) :
    Accepts (bound listen chosen) listen.port ↔ listen.port ≠ 0 ∧ Covers listen.ip := by
  have hchosen := chosen.2
  rw [Accepts, bound, Int.natCast_inj]
  dsimp only
  refine and_congr_left fun _ => ?_
  split <;> omega

/-- The GUI shows the default port for text that is no number. -/
lemma parseSocksPort_eq_default_iff (s : Settings) :
    s.parseSocksPort = 1819 ↔ ∀ last ∈ (s.bindAddress.split (.single ':')).getLast?,
      ∀ port ∈ last.toInt, port = 1819 := by
  rw [Settings.parseSocksPort]
  cases (s.bindAddress.split (.single ':')).getLast? with
  | none => simp
  | some last => cases hport : last.toInt <;> simp [hport]

/-- **The listener accepts the endpoint of the system proxy** exactly when the bind address
is one that the parsers agree on. -/
theorem accepts_iff (s : Settings) (env : Env) (chosen : {n : ℕ // 0 < n}) :
    (∃ env', Cli.parseAndApply s.coreArguments env = .ok (.applied env')
      ∧ Accepts (bound (listenAddr env') chosen) s.parseSocksPort) ↔ Agreed s.bindAddress := by
  obtain ⟨env₁, hrun, hsocks⟩ := s.buildArguments_given.run env
  have hlisten : listenAddr env₁
      = (SocketAddr.parse s.bindAddress.string).getD ⟨.v4 loopback, 1819⟩ := by
    rw [listenAddr, hsocks, Option.bind_some]
  have hany : (∃ env', Cli.parseAndApply s.coreArguments env = .ok (.applied env')
      ∧ Accepts (bound (listenAddr env') chosen) s.parseSocksPort)
      ↔ Accepts (bound (listenAddr env₁) chosen) s.parseSocksPort := by
    constructor
    · rintro ⟨env', hrun', haccepts⟩
      cases hrun.symm.trans hrun'
      exact haccepts
    · intro haccepts
      exact ⟨env₁, hrun, haccepts⟩
  rw [hany, hlisten, Agreed]
  cases hparse : SocketAddr.parse s.bindAddress.string with
  | some a =>
      rw [Option.getD_some, Settings.parseSocksPort_of_parse hparse, accepts_bound_iff]
      simp
  | none =>
      rw [Option.getD_none, ← parseSocksPort_eq_default_iff]
      -- the core falls back to a port of the loopback interface
      simp [Accepts, bound, Covers, eq_comm]

example : Agreed Settings.initial.bindAddress ∧ Agreed (text "[::]:8080")
    ∧ ¬ Agreed (text "192.168.1.5:1819") := by decide +kernel

/-- The settings with a host name for the bind address. -/
def hostName : Settings := { Settings.initial with bindAddress := text "localhost:8080" }

/-- The core does not resolve the name and listens at 1819, and the endpoint is at 8080. -/
theorem host_name : ∃ env', Cli.parseAndApply hostName.coreArguments (fun _ => none)
      = .ok (.applied env') ∧ listenAddr env' = ⟨.v4 loopback, 1819⟩
    ∧ hostName.parseSocksPort = 8080
    ∧ ¬ Accepts (bound (listenAddr env') ⟨1, by decide⟩) hostName.parseSocksPort := by
  obtain ⟨env', hrun, hsocks⟩ := hostName.buildArguments_given.run fun _ => none
  have hparse : SocketAddr.parse hostName.bindAddress.string = none := by decide +kernel
  have hport : hostName.parseSocksPort = 8080 := by decide +kernel
  have hlisten : listenAddr env' = ⟨.v4 loopback, 1819⟩ := by
    rw [listenAddr, hsocks, Option.bind_some, hparse, Option.getD_none]
  refine ⟨env', hrun, hlisten, hport, ?_⟩
  rw [hlisten, hport]
  exact fun h => absurd h.1 (by decide)

end Aether.Gui
