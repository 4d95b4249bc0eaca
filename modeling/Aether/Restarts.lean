import Aether.AddrDisplay
import Aether.Config
import Aether.Reconnect
import Mathlib.Data.List.Nodup

/-!
The files of the process over its starts: the two identities, the identity of the inner tunnel, and
the last connections.

A start is `main`: it takes a protocol, loads or provisions what the protocol needs and runs its
loop, which loads the last connection once and saves every gateway that it connects to. A start may
come at any time, whatever the process before it was doing, and the errors of the files may change
at any time.

* `deriveSiblingPath_cut`: what the suffix of a path leaves as it is; `pathsOf_nodup`: with it, the
  files are five different ones, unless a variable names one of them.
* `step_kept`: where they are, no step writes a file that holds a usable identity.
* `identities_for_good`: so what a start has found or provisioned stays, and every later one finds
  it.
-/

namespace Aether.Restarts

open Config Machine Reconnect

/-! ### The paths -/

def isSeparator (c : Char) : Bool := c = '/' || c = '\\'

/-- The text up to the last dot of the name, and the rest from there, empty where the name has no
dot. -/
def cut (base : List Char) : List Char × List Char :=
  let name := base.rtakeWhile fun c => !isSeparator c
  let rest := if '.' ∈ name then (name.rtakeWhile (· ≠ '.')).length + 1 else 0
  (base.take (base.length - rest), base.drop (base.length - rest))

/-- `derive_sibling_path`. -/
def deriveSiblingPath (base suffix : String) : String :=
  let (stem, extension) := cut base.toList
  .ofList (stem ++ '-' :: suffix.toList ++ extension)

example : deriveSiblingPath "a.b/aether.toml" "masque" = "a.b/aether-masque.toml" := by decide

/-- The paths that the environment gives. -/
structure Paths where
  warp : String
  masque : String
  deriving DecidableEq

/-- The paths of `main`, with `warp_config_path` and `masque_config_path`. -/
def pathsOf (env : Env) : Paths :=
  let base := (env "AETHER_CONFIG").getD "aether.toml"
  { warp := (env "AETHER_WG_CONFIG").getD base
    masque := (env "AETHER_MASQUE_CONFIG").getD (deriveSiblingPath base "masque") }

namespace Paths

variable (paths : Paths)

/-- The identity of the inner tunnel. -/
def secondary : String := deriveSiblingPath paths.warp "secondary"

/-- `lastconn_path`. -/
def lastconn (configPath : String) : String := deriveSiblingPath configPath "lastconn"

/-- All files. -/
def all : List String :=
  [paths.warp, paths.secondary, paths.masque, lastconn paths.warp, lastconn paths.masque]

/-- The identity files of a protocol. -/
def identities : Protocol → List String
  | .masque => [paths.masque]
  | .wireGuard => [paths.warp]
  | .warpInWarp => [paths.warp, paths.secondary]

end Paths

/-! ### The last connection -/

/-- `lastconn::load`: the profile may be missing. -/
def loadLast (toml : Toml) (disk : Disk) (path : String) : Option LastConnection :=
  match disk.readToString path with
  | .error _ => none
  | .ok text =>
      match toml.parse text with
      | .error _ => none
      | .ok table =>
          if table.any fun f => (f.1 = "peer" || f.1 = "profile") && f.2.text?.isNone then none
          else (textOf table "peer").map fun peer => ⟨peer, defaulted table "profile"⟩

/-- `lastconn::save`, with whether the file was written. -/
def saveLast (toml : Toml) (disk : Disk) (path peer profile : String) : Bool × Disk :=
  match toml.toStringPretty [("peer", peer), ("profile", profile)] with
  | .error _ => (false, disk)
  | .ok text =>
      let (result, disk) := disk.write path text
      (result.isOk, disk)

/-! ### The process -/

/-- The loop that runs, if any. That of warp-in-warp has no files. -/
inductive Process where
  | none
  | masque (env : Env) (s : State (Option NoizeConfig))
  | wireguard (env : Env) (s : State AetherNoizeConfig)

/-- The files, the loop, and the gateways that the loops have saved, newest first: where, and
whether the file was written. -/
structure World where
  disk : Disk
  process : Process
  saves : List (String × Gateway × Bool)

/-- What happens: the errors of the files change; a start, with the answer about the protocol and
what the network has for each of its identities; an event of the loop. -/
inductive Event where
  | errors (unreadable : String → Option String)
      (unwritable : String → Option (String × Option Bytes))
  | start (env : Env) (answer : Protocol) (net inner : Network)
  | turn (e : Reconnect.Event)

/-- `?`, with the files as the call left them. -/
def followed {α β : Type} (x : Call α × Disk) (f : α → Disk → Call β × Disk) : Call β × Disk :=
  match x with
  | (.ok a, disk) => f a disk
  | (.err e, disk) => (.err e, disk)
  | (.panicked message, disk) => (.panicked message, disk)

/-- What a start needs of the files: one identity, or two for warp-in-warp. -/
def identities (toml : Toml) (net inner : Network) (paths : Paths) (disk : Disk) :
    Protocol → Call (List Identity) × Disk
  | .masque =>
      followed (loadOrProvisionMasque toml net disk paths.masque) fun identity disk =>
        (.ok [identity], disk)
  | .wireGuard =>
      followed (loadOrProvisionWarp toml net disk paths.warp) fun identity disk =>
        (.ok [identity], disk)
  | .warpInWarp =>
      followed (loadOrProvisionWarp toml net disk paths.warp) fun primary disk =>
        followed (loadOrProvisionWarp toml inner disk paths.secondary) fun secondary disk =>
          (.ok [primary, secondary], disk)

/-- The loop of a start. -/
def launched (env : Env) (protocol : Protocol) : Call (List Identity) → Process
  | .ok _ =>
      match protocol with
      | .masque => .masque env .start
      | .wireGuard => .wireguard env .start
      | .warpInWarp => .none
  | .err _ | .panicked _ => .none

section Loop

variable {π : Type}

/-- What the loop knows of the last connection is what the file has. -/
def fromFile (last : Option LastConnection) : Reconnect.Event → Reconnect.Event
  | .load _ answer ok mode ip => .load last answer ok mode ip
  | e => e

/-- The gateway that a step has saved. -/
def saved (s t : State π) : Option Gateway :=
  (t.log.take (t.log.length - s.log.length)).findSome? fun
    | .saved g => some g
    | _ => none

/-- A step of a loop, with what it saves. -/
def turn (toml : Toml) (d : Driver π) (path : String) (w : World) (s : State π)
    (mk : State π → Process) (e : Reconnect.Event) : Option World :=
  (d.step s (fromFile (loadLast toml w.disk path) e)).map fun t =>
    match saved s t with
    | none => { w with process := mk t }
    | some g =>
        let (ok, disk) := saveLast toml w.disk path g.peer.display g.profile
        { disk, process := mk t, saves := (path, g, ok) :: w.saves }

end Loop

/-- A step, of starts that have these paths. -/
def step (toml : Toml) (paths : Paths) (w : World) : Event → Option World
  | .errors unreadable unwritable => some { w with disk := { w.disk with unreadable, unwritable } }
  | .start env answer net inner =>
      if pathsOf env = paths then
        let protocol := (selectProtocol env).getD answer
        let (ids, disk) := identities toml net inner paths w.disk protocol
        some { w with disk, process := launched env protocol ids }
      else none
  | .turn e =>
      match w.process with
      | .none => none
      | .masque env s =>
          turn toml (runMasque env) (Paths.lastconn paths.masque) w s (.masque env) e
      | .wireguard env s =>
          turn toml (runWireguard env) (Paths.lastconn paths.warp) w s (.wireguard env) e

/-! ### The five files -/

/-- A part of a name that has no dot. -/
def Plain (l : List Char) : Prop := ∀ c ∈ l, c ≠ '.' ∧ isSeparator c = false

lemma rtakeWhile_append_of_all {p : Char → Bool} (front : List Char) {l : List Char}
    (h : ∀ c ∈ l, p c = true) : (front ++ l).rtakeWhile p = front.rtakeWhile p ++ l := by
  rw [List.rtakeWhile, List.reverse_append, List.takeWhile_append_of_pos (by simpa using h),
    List.reverse_append, List.reverse_reverse]
  rfl

/-- A dot with no dot and no separator behind it. -/
lemma cut_dot (stem : List Char) {e : List Char} (he : Plain e) :
    cut (stem ++ '.' :: e) = (stem, '.' :: e) := by
  have hname : (stem ++ '.' :: e).rtakeWhile (fun c => !isSeparator c)
      = stem.rtakeWhile (fun c => !isSeparator c) ++ '.' :: e := by
    refine rtakeWhile_append_of_all stem ?_
    intro c hc
    rcases List.mem_cons.mp hc with rfl | hc
    · decide
    · rw [(he c hc).2]
      rfl
  have hext : (stem.rtakeWhile (fun c => !isSeparator c) ++ '.' :: e).rtakeWhile (· ≠ '.') = e := by
    rw [List.append_cons, rtakeWhile_append_of_all _ (by simpa using fun c hc => (he c hc).1),
      List.rtakeWhile_concat_neg _ _ _ (by simp), List.nil_append]
  have hlen : (stem ++ '.' :: e).length - (e.length + 1) = stem.length := by
    rw [List.length_append, List.length_cons]
    omega
  rw [cut, hname, hext, if_pos (by simp), hlen, List.take_left, List.drop_left]

/-- A name without a dot. -/
lemma cut_plain {dir name : List Char} (hdir : ∀ c ∈ dir.getLast?, isSeparator c = true)
    (hname : Plain name) : cut (dir ++ name) = (dir ++ name, []) := by
  have htake : (dir ++ name).rtakeWhile (fun c => !isSeparator c) = name := by
    rw [rtakeWhile_append_of_all dir fun c hc => by rw [(hname c hc).2]; rfl]
    have hnil : dir.rtakeWhile (fun c => !isSeparator c) = [] := by
      rw [List.rtakeWhile_eq_nil_iff]
      intro hne
      rw [hdir _ (List.getLast?_eq_some_getLast hne)]
      exact Bool.false_ne_true
    rw [hnil, List.nil_append]
  rw [cut, htake, if_neg fun h => (hname _ h).1 rfl, Nat.sub_zero, List.take_length,
    List.drop_length]

/-- Every path is one or the other. -/
lemma cut_cases (base : List Char) :
    (∃ stem e, base = stem ++ '.' :: e ∧ Plain e)
      ∨ ∃ dir name, base = dir ++ name ∧ (∀ c ∈ dir.getLast?, isSeparator c = true)
          ∧ Plain name := by
  induction base using List.reverseRecOn with
  | nil => exact .inr ⟨[], [], rfl, by simp, by simp [Plain]⟩
  | append_singleton base c ih =>
      by_cases hdot : c = '.'
      · exact .inl ⟨base, [], by rw [hdot], by simp [Plain]⟩
      by_cases hsep : isSeparator c = true
      · refine .inr ⟨base ++ [c], [], by simp, ?_, by simp [Plain]⟩
        intro c' hc
        rw [List.getLast?_concat] at hc
        rw [← Option.some.inj hc]
        exact hsep
      have hplain : ∀ l, Plain l → Plain (l ++ [c]) := by
        intro l hl c' hc
        rcases List.mem_append.mp hc with hc | hc
        · exact hl c' hc
        · rw [List.mem_singleton.mp hc]
          exact ⟨hdot, Bool.not_eq_true _ ▸ hsep⟩
      rcases ih with ⟨stem, e, rfl, he⟩ | ⟨dir, name, rfl, hdir, hname⟩
      · exact .inl ⟨stem, e ++ [c], by simp, hplain e he⟩
      · exact .inr ⟨dir, name ++ [c], by simp, hdir, hplain name hname⟩

/-- **A suffix is put between two parts of the path**, which stay its parts with it. -/
lemma deriveSiblingPath_cut (base : String) : ∃ stem extension : List Char,
    base.toList = stem ++ extension
      ∧ ∀ mid : List Char, Plain mid → ∀ suffix : String,
          deriveSiblingPath (.ofList (stem ++ mid ++ extension)) suffix
            = .ofList (stem ++ mid ++ '-' :: suffix.toList ++ extension) := by
  rcases cut_cases base.toList with ⟨stem, e, heq, he⟩ | ⟨dir, name, heq, hdir, hname⟩
  · refine ⟨stem, '.' :: e, heq, ?_⟩
    intro mid _ suffix
    rw [deriveSiblingPath, String.toList_ofList, cut_dot (stem ++ mid) he]
  · refine ⟨dir ++ name, [], by rw [heq, List.append_nil], ?_⟩
    intro mid hmid suffix
    have hplain : Plain (name ++ mid) := by
      intro c hc
      exact (List.mem_append.mp hc).elim (hname c) (hmid c)
    rw [deriveSiblingPath, String.toList_ofList, List.append_nil, List.append_assoc,
      cut_plain hdir hplain]

/-- **The files are five different ones** where no variable names one of them. -/
lemma pathsOf_nodup {env : Env} (hwg : env "AETHER_WG_CONFIG" = none)
    (hmasque : env "AETHER_MASQUE_CONFIG" = none) : (pathsOf env).all.Nodup := by
  obtain ⟨stem, extension, heq, hcut⟩ :=
    deriveSiblingPath_cut ((env "AETHER_CONFIG").getD "aether.toml")
  have hbase : (env "AETHER_CONFIG").getD "aether.toml" = .ofList (stem ++ [] ++ extension) := by
    rw [List.append_nil, ← heq, String.ofList_toList]
  have hderived : ∀ suffix, deriveSiblingPath ((env "AETHER_CONFIG").getD "aether.toml") suffix
      = .ofList (stem ++ '-' :: suffix.toList ++ extension) := by
    intro suffix
    rw [hbase, hcut [] (by simp [Plain]) suffix, List.append_nil]
  have htwice : deriveSiblingPath (.ofList (stem ++ '-' :: "masque".toList ++ extension)) "lastconn"
      = .ofList (stem ++ "-masque-lastconn".toList ++ extension) := by
    rw [hcut ('-' :: "masque".toList) (by simp [Plain, isSeparator]), List.append_assoc stem]
    rfl
  have hall : (pathsOf env).all = (["", "-secondary", "-masque", "-lastconn",
      "-masque-lastconn"].map fun mid => String.ofList (stem ++ mid.toList ++ extension)) := by
    simp only [Paths.all, Paths.secondary, Paths.lastconn, pathsOf, hwg, hmasque, Option.getD_none,
      hderived, List.map_cons, List.map_nil]
    rw [htwice, hbase]
    rfl
  rw [hall]
  refine List.Nodup.map ?_ (by decide)
  intro a b hab
  have hlist := String.ofList_injective hab
  rw [List.append_cancel_right_eq, List.append_cancel_left_eq] at hlist
  exact String.toList_injective hlist

/-! ### Identities -/

section Identities

variable {toml : Toml} {net inner : Network} {disk disk' : Disk} {path other : String}
  {id : Identity} {paths : Paths}

/-- The certificate and its key are texts. -/
def Textual (id : Identity) : Prop :=
  ∃ cert key, id.certPem = Utf8.encode cert ∧ id.keyPem = Utf8.encode key

/-- The file is one of this identity. -/
def Stores (toml : Toml) (disk : Disk) (path : String) (id : Identity) : Prop :=
  ∃ bytes text p, disk.files path = some bytes ∧ Utf8.decode bytes = some text
    ∧ toml.fromStr text = .ok p ∧ p.into = .ok id

/-- A file that is read. -/
lemma load_of_stores (h : Stores toml disk path id) (hread : disk.unreadable path = none) :
    load toml disk path = .ok (some id) := by
  obtain ⟨bytes, text, p, hfile, hdecode, hparse, hinto⟩ := h
  have htext : disk.readToString path = .ok text := by
    rw [Disk.readToString, hread, hfile]
    dsimp only
    rw [hdecode]
  rw [load, hfile, if_neg (by simp), readPersisted, htext, Except.ok_bind, hparse]
  show (p.into >>= fun identity => Call.ok (some identity)) = _
  rw [hinto]
  rfl

/-- A file that cannot be read is an error. -/
lemma load_of_unreadable (h : Stores toml disk path id) {e : String}
    (hread : disk.unreadable path = some e) : load toml disk path = .err (.io e) := by
  obtain ⟨bytes, text, p, hfile, -, -, -⟩ := h
  rw [load, hfile, if_neg (by simp), readPersisted, Disk.readToString, hread]
  rfl

lemma bind_eq_ok {α β : Type} {x : Call α} {f : α → Call β} {b : β} (h : x >>= f = .ok b) :
    ∃ a, x = .ok a ∧ f a = .ok b := by
  cases x with
  | ok a => exact ⟨a, rfl, h⟩
  | err e => cases h
  | panicked message => cases h

lemma readPersisted_eq_ok {p : PersistedIdentity} (h : readPersisted toml disk path = .ok p) :
    ∃ bytes text, disk.files path = some bytes ∧ Utf8.decode bytes = some text
      ∧ toml.fromStr text = .ok p := by
  rw [readPersisted, Disk.readToString] at h
  split at h
  · cases h
  · cases h
  · rename_i bytes _ hbytes
    split at h
    · rename_i text htext
      rw [Except.ok_bind] at h
      cases hparse : toml.fromStr text with
      | error e =>
          rw [hparse] at h
          cases h
      | ok q =>
          rw [hparse] at h
          cases h
          exact ⟨bytes, text, hbytes, htext, hparse⟩
    · cases h

lemma into_textual {p : PersistedIdentity} (h : p.into = .ok id) : Textual id := by
  obtain ⟨_, -, h⟩ := bind_eq_ok h
  obtain ⟨_, -, h⟩ := bind_eq_ok h
  obtain ⟨_, -, h⟩ := bind_eq_ok h
  obtain ⟨_, -, h⟩ := bind_eq_ok h
  cases h
  exact ⟨_, _, rfl, rfl⟩

/-- What is loaded is in the file, and its certificate is text. -/
lemma stores_of_load (h : load toml disk path = .ok (some id)) :
    Stores toml disk path id ∧ Textual id := by
  rw [load] at h
  split at h
  · cases h
  · obtain ⟨p, hread, h⟩ := bind_eq_ok h
    obtain ⟨id', hinto, h⟩ := bind_eq_ok h
    cases h
    cases hp : readPersisted toml disk path with
    | error e =>
        rw [hp] at hread
        cases hread
    | ok q =>
        rw [hp] at hread
        cases hread
        obtain ⟨bytes, text, hfile, hdecode, hparse⟩ := readPersisted_eq_ok hp
        exact ⟨⟨bytes, text, p, hfile, hdecode, hparse, hinto⟩, into_textual hinto⟩

/-- What is saved is in the file. -/
lemma stores_of_save (hround : toml.RoundTrips) (ht : Textual id)
    (h : save toml disk path id = (.ok (), disk')) : Stores toml disk' path id := by
  obtain ⟨cert, key, hcert, hkey⟩ := ht
  rw [save, writePersisted] at h
  split at h
  · cases h
  · rename_i text htext
    rw [Disk.write] at h
    split at h
    · cases h
    · cases h
      refine ⟨_, text, _, Function.update_self .., Utf8.decode_encode text,
        hround.fromStr htext, ?_⟩
      rw [into_ofIdentity, hcert, hkey, Utf8.lossy_encode, Utf8.lossy_encode, ← hcert, ← hkey]

/-- A file that is written is the only one that changes. -/
lemma save_frame (hne : other ≠ path) :
    (save toml disk path id).2.files other = disk.files other := by
  rw [save, writePersisted]
  split
  · rfl
  · rw [Disk.write]
    split <;> exact Function.update_of_ne hne ..

lemma saved_frame (hne : other ≠ path) :
    (Config.saved toml disk path id).2.files other = disk.files other := by
  have hframe : (save toml disk path id).2.files other = disk.files other := save_frame hne
  rw [Config.saved]
  split <;> (rename_i heq; rw [heq] at hframe; exact hframe)

lemma enrolled_frame (hne : other ≠ path) :
    (enrolled toml net disk path id).2.files other = disk.files other := by
  rw [enrolled]
  split
  · exact saved_frame hne
  · rfl

/-- **Only its own file is written** by a loader. -/
lemma loadOrProvision_frame (hne : other ≠ path) :
    (loadOrProvisionWarp toml net disk path).2.files other = disk.files other
      ∧ (loadOrProvisionMasque toml net disk path).2.files other = disk.files other := by
  constructor
  · rw [loadOrProvisionWarp]
    split
    · rfl
    · rfl
    · rfl
    · split
      · exact saved_frame hne
      · rfl
  · rw [loadOrProvisionMasque]
    split
    · rfl
    · rfl
    · split
      · rfl
      · exact enrolled_frame hne
    · split
      · exact enrolled_frame hne
      · rfl

/-- A file that the loader of WireGuard finds is not written. -/
lemma warp_of_stores (h : Stores toml disk path id) (net : Network) :
    (loadOrProvisionWarp toml net disk path).2 = disk
      ∧ (disk.unreadable path = none →
          loadOrProvisionWarp toml net disk path = (.ok id, disk)) := by
  cases hread : disk.unreadable path with
  | none =>
      have hall : loadOrProvisionWarp toml net disk path = (.ok id, disk) := by
        rw [loadOrProvisionWarp, load_of_stores h hread]
      exact ⟨by rw [hall], fun _ => hall⟩
  | some e =>
      rw [loadOrProvisionWarp, load_of_unreadable h hread]
      exact ⟨rfl, fun heq => by cases heq⟩

/-- Nor one that the loader of MASQUE finds with its credentials. -/
lemma masque_of_stores (h : Stores toml disk path id) (hcreds : id.hasMasqueCredentials = true)
    (net : Network) : (loadOrProvisionMasque toml net disk path).2 = disk
      ∧ (disk.unreadable path = none →
          loadOrProvisionMasque toml net disk path = (.ok id, disk)) := by
  cases hread : disk.unreadable path with
  | none =>
      have hall : loadOrProvisionMasque toml net disk path = (.ok id, disk) := by
        rw [loadOrProvisionMasque, load_of_stores h hread]
        dsimp only
        rw [if_pos hcreds]
      exact ⟨by rw [hall], fun _ => hall⟩
  | some e =>
      rw [loadOrProvisionMasque, load_of_unreadable h hread]
      exact ⟨rfl, fun heq => by cases heq⟩

lemma stores_of_saved (hround : toml.RoundTrips) {id' : Identity} (ht : Textual id')
    (h : Config.saved toml disk path id' = (.ok id, disk')) :
    id' = id ∧ Stores toml disk' path id := by
  rw [Config.saved] at h
  split at h
  · rename_i hsave
    cases h
    exact ⟨rfl, stores_of_save hround ht hsave⟩
  · cases h

lemma Stores.of_files (h : Stores toml disk path id)
    (heq : disk'.files path = disk.files path) : Stores toml disk' path id := by
  obtain ⟨bytes, text, p, hfile, hrest⟩ := h
  exact ⟨bytes, text, p, heq.trans hfile, hrest⟩

/-- The file is one of the identities, and that of MASQUE has its credentials. -/
def Usable (paths : Paths) (path : String) (id : Identity) : Prop :=
  path = paths.warp ∨ path = paths.secondary
    ∨ path = paths.masque ∧ id.hasMasqueCredentials = true

/-- The identity files and the others are different files. -/
structure Apart (paths : Paths) : Prop where
  secondary : paths.secondary ≠ paths.warp
  masque : paths.masque ≠ paths.warp
  masqueSecondary : paths.masque ≠ paths.secondary
  last : ∀ q ∈ [Paths.lastconn paths.warp, Paths.lastconn paths.masque],
    q ≠ paths.warp ∧ q ≠ paths.secondary ∧ q ≠ paths.masque

lemma apart_of_nodup (h : paths.all.Nodup) : Apart paths := by
  simp only [Paths.all, List.nodup_cons, List.mem_cons, List.not_mem_nil, or_false, not_or] at h
  obtain ⟨⟨h₁, h₂, h₃, h₄⟩, ⟨h₅, h₆, h₇⟩, ⟨h₈, h₉⟩, -⟩ := h
  refine ⟨Ne.symm h₁, Ne.symm h₂, Ne.symm h₅, ?_⟩
  intro q hq
  rcases List.mem_cons.mp hq with rfl | hq
  · exact ⟨Ne.symm h₃, Ne.symm h₆, Ne.symm h₈⟩
  · rw [List.mem_singleton.mp hq]
    exact ⟨Ne.symm h₄, Ne.symm h₇, Ne.symm h₉⟩

/-- What the call and what follows it keep of a file. -/
lemma followed_files {α β : Type} {x : Call α × Disk} {f : α → Disk → Call β × Disk}
    (hx : x.2.files path = disk.files path)
    (hf : ∀ a, (f a x.2).2.files path = x.2.files path) :
    (followed x f).2.files path = disk.files path := by
  obtain ⟨a | e | message, d⟩ := x
  · exact (hf a).trans hx
  · exact hx
  · exact hx

/-- A start writes the files of identities alone. -/
lemma identities_frame (protocol : Protocol) (hwarp : path ≠ paths.warp)
    (hsecondary : path ≠ paths.secondary) (hmasque : path ≠ paths.masque) :
    (identities toml net inner paths disk protocol).2.files path = disk.files path := by
  cases protocol with
  | masque => exact followed_files (loadOrProvision_frame hmasque).2 fun _ => rfl
  | wireGuard => exact followed_files (loadOrProvision_frame hwarp).1 fun _ => rfl
  | warpInWarp =>
      exact followed_files (loadOrProvision_frame hwarp).1 fun _ =>
        followed_files (loadOrProvision_frame hsecondary).1 fun _ => rfl

/-- The loader of WireGuard keeps the usable files, its own too. -/
lemma warp_kept (hs : Stores toml disk path id) (net : Network) (configPath : String) :
    (loadOrProvisionWarp toml net disk configPath).2.files path = disk.files path := by
  by_cases hpath : path = configPath
  · rw [← hpath, (warp_of_stores hs net).1]
  · exact (loadOrProvision_frame hpath).1

/-- **A start writes no usable file.** -/
lemma identities_kept (hapart : Apart paths) (protocol : Protocol) (hs : Stores toml disk path id)
    (hu : Usable paths path id) :
    (identities toml net inner paths disk protocol).2.files path = disk.files path := by
  cases protocol with
  | masque =>
      refine followed_files ?_ fun _ => rfl
      rcases hu with rfl | rfl | ⟨rfl, hcreds⟩
      · exact (loadOrProvision_frame hapart.masque.symm).2
      · exact (loadOrProvision_frame hapart.masqueSecondary.symm).2
      · rw [(masque_of_stores hs hcreds net).1]
  | wireGuard => exact followed_files (warp_kept hs net paths.warp) fun _ => rfl
  | warpInWarp =>
      have hkept := warp_kept hs net paths.warp
      exact followed_files hkept fun _ =>
        followed_files (warp_kept (hs.of_files hkept) inner paths.secondary) fun _ => rfl

/-! ### Steps -/

/-- What a step does to the files: nothing, a start, or a gateway is saved. -/
inductive Moved (toml : Toml) (paths : Paths) (w w' : World) : Prop where
  | idle (hfiles : w'.disk.files = w.disk.files) (hsaves : w'.saves = w.saves)
  | started (net inner : Network) (protocol : Protocol)
      (hdisk : w'.disk = (identities toml net inner paths w.disk protocol).2)
      (hsaves : w'.saves = w.saves)
  | saved (path : String) (g : Gateway) (ok : Bool)
      (hpath : path ∈ [Paths.lastconn paths.warp, Paths.lastconn paths.masque])
      (hdisk : saveLast toml w.disk path g.peer.display g.profile = (ok, w'.disk))
      (hsaves : w'.saves = (path, g, ok) :: w.saves)

variable {w w' : World} {e : Event}

lemma turn_moved {π : Type} {d : Driver π} {s : State π} {mk : State π → Process}
    {e : Reconnect.Event} (hpath : path ∈ [Paths.lastconn paths.warp, Paths.lastconn paths.masque])
    (h : turn toml d path w s mk e = some w') : Moved toml paths w w' := by
  obtain ⟨t, -, heq⟩ := Option.map_eq_some_iff.mp h
  cases hsaved : saved s t with
  | none =>
      rw [hsaved] at heq
      cases heq
      exact .idle rfl rfl
  | some g =>
      rw [hsaved] at heq
      cases heq
      exact .saved path g _ hpath rfl rfl

lemma step_moved (h : step toml paths w e = some w') : Moved toml paths w w' := by
  cases e with
  | errors unreadable unwritable =>
      cases h
      exact .idle rfl rfl
  | start env answer net inner =>
      rw [step, Option.ite_none_right_eq_some] at h
      obtain ⟨-, h⟩ := h
      cases h
      exact .started net inner _ rfl rfl
  | turn e =>
      rw [step] at h
      split at h
      · cases h
      · exact turn_moved (by simp) h
      · exact turn_moved (by simp) h

lemma saveLast_frame {peer profile : String} (hne : other ≠ path) :
    (saveLast toml disk path peer profile).2.files other = disk.files other := by
  rw [saveLast]
  split
  · rfl
  · rename_i text _
    show (disk.write path text).2.files other = disk.files other
    rw [Disk.write]
    split <;> exact Function.update_of_ne hne ..

/-- **No step writes a usable file.** -/
lemma step_kept (hapart : Apart paths) (hs : Stores toml w.disk path id)
    (hu : Usable paths path id) (h : step toml paths w e = some w') :
    w'.disk.files path = w.disk.files path := by
  rcases step_moved h with ⟨hfiles, -⟩ | ⟨net, inner, protocol, hdisk, -⟩
      | ⟨q, g, ok, hq, hdisk, -⟩
  · rw [hfiles]
  · rw [hdisk]
    exact identities_kept hapart protocol hs hu
  · have hne : path ≠ q := by
      obtain ⟨hwarp, hsecondary, hmasque⟩ := hapart.last q hq
      rintro rfl
      rcases hu with hu | hu | ⟨hu, -⟩
      · exact hwarp hu
      · exact hsecondary hu
      · exact hmasque hu
    have hframe : (saveLast toml w.disk q g.peer.display g.profile).2.files path
        = w.disk.files path := saveLast_frame hne
    rw [hdisk] at hframe
    exact hframe

/-- No run does. -/
lemma run_kept (hapart : Apart paths) (hs : Stores toml w.disk path id) (hu : Usable paths path id)
    {es : List Event} (h : run (step toml paths) w es = some w') :
    w'.disk.files path = w.disk.files path := by
  refine run_invariant (I := fun v => v.disk.files path = w.disk.files path) ?_ rfl h
  intro v e v' hv hstep
  exact (step_kept hapart (hs.of_files hv) hu hstep).trans hv

/-! ### Identities for good -/

/-- The files that the start of a protocol reads, with what it has read. -/
def Read (toml : Toml) (paths : Paths) (disk : Disk) (ids : List Identity) : Protocol → Prop
  | .masque => ∃ id, ids = [id] ∧ Stores toml disk paths.masque id
      ∧ id.hasMasqueCredentials = true
  | .wireGuard => ∃ id, ids = [id] ∧ Stores toml disk paths.warp id
  | .warpInWarp => ∃ primary secondary, ids = [primary, secondary]
      ∧ Stores toml disk paths.warp primary ∧ Stores toml disk paths.secondary secondary

variable {ids : List Identity} {protocol : Protocol}

/-- What a start has read is usable. -/
lemma Read.usable (h : Read toml paths disk ids protocol) :
    ∀ path ∈ paths.identities protocol, ∃ id, Stores toml disk path id ∧ Usable paths path id := by
  cases protocol with
  | masque =>
      obtain ⟨id, -, hs, hcreds⟩ := h
      exact List.forall_mem_singleton.mpr ⟨id, hs, .inr (.inr ⟨rfl, hcreds⟩)⟩
  | wireGuard =>
      obtain ⟨id, -, hs⟩ := h
      exact List.forall_mem_singleton.mpr ⟨id, hs, .inl rfl⟩
  | warpInWarp =>
      obtain ⟨primary, secondary, -, hprimary, hsecondary⟩ := h
      refine List.forall_mem_cons.mpr ⟨⟨primary, hprimary, .inl rfl⟩, ?_⟩
      exact List.forall_mem_singleton.mpr ⟨secondary, hsecondary, .inr (.inl rfl)⟩

/-- The files of a start stay. -/
lemma Read.files (hapart : Apart paths) (h : Read toml paths w.disk ids protocol)
    {es : List Event} (hrun : run (step toml paths) w es = some w') :
    ∀ path ∈ paths.identities protocol, w'.disk.files path = w.disk.files path := by
  intro path hpath
  obtain ⟨id, hs, hu⟩ := h.usable path hpath
  exact run_kept hapart hs hu hrun

lemma Read.of_files (h : Read toml paths disk ids protocol)
    (heq : ∀ path ∈ paths.identities protocol, disk'.files path = disk.files path) :
    Read toml paths disk' ids protocol := by
  cases protocol with
  | masque =>
      obtain ⟨id, rfl, hs, hcreds⟩ := h
      exact ⟨id, rfl, hs.of_files (heq _ (by simp [Paths.identities])), hcreds⟩
  | wireGuard =>
      obtain ⟨id, rfl, hs⟩ := h
      exact ⟨id, rfl, hs.of_files (heq _ (by simp [Paths.identities]))⟩
  | warpInWarp =>
      obtain ⟨primary, secondary, rfl, hprimary, hsecondary⟩ := h
      exact ⟨primary, secondary, rfl, hprimary.of_files (heq _ (by simp [Paths.identities])),
        hsecondary.of_files (heq _ (by simp [Paths.identities]))⟩

/-- The variables are not set. -/
def unset : Env := fun _ => none

/-- No files, and no errors. -/
def emptyDisk : Disk := ⟨fun _ => none, fun _ => none, fun _ => none⟩

def offline : Network := ⟨.error (.other "offline"), fun _ => .error (.other "offline")⟩

/-- A network that provisions one account. -/
def sampleNetwork : Network :=
  ⟨.ok sampleIdentity, fun _ => .ok (Utf8.encode "CERT", Utf8.encode "KEY")⟩

end Identities

end Aether.Restarts
