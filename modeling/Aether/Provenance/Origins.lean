import Aether.Provenance.Sessions

/-!
Where the identities of the process come from, over its starts.

* `provision_accounted`, `enroll_accounted`, `saved_accounted`: what the parts of a start keep, and
  `step_sound`, with them, what every step keeps.
* `run_keys`: the keys that are registered are drawn, each for one registration.
* `accounted_for`: **every identity was found or registered**, and every key is enrolled for one.
-/

namespace Aether.Provenance

open Config Account Machine
open Restarts (Paths Stores Textual Process)

/-! ### Accounts -/

/-- The bytes are a file of the identity. -/
def Loads (toml : Toml) (bytes : Bytes) (id : Identity) : Prop :=
  ∃ text p, Utf8.decode bytes = some text ∧ toml.fromStr text = .ok p ∧ p.into = .ok id

/-- Two identities of one device, with its token, its keys and its addresses. -/
def SameAccount (root id : Identity) : Prop :=
  id = { root with certPem := id.certPem, keyPem := id.keyPem }

section Accounts

variable (toml : Toml) (crates : Crates) (found : Set Bytes)

/-- An identity that was found in a file, or that was registered. -/
inductive Root (acts : List Act) (root : Identity) : Prop
  | found {bytes : Bytes} (hbytes : bytes ∈ found) (hloads : Loads toml bytes root)
  | registered {act : Act} (hact : act ∈ acts) (hreg : Registers crates root act)

/-- The identity is one that was found or registered, with its credentials or with those of a key
that was enrolled for it. -/
def Origin (acts : List Act) (id : Identity) : Prop :=
  ∃ root, Root toml crates found acts root ∧ SameAccount root id
    ∧ (id.certPem = root.certPem ∧ id.keyPem = root.keyPem ∨ ∃ act ∈ acts, Enrolls crates id act)

/-- What may be sent after these acts: a new key is registered, or a key is enrolled for an identity
that was found or registered before and has no credentials. -/
def Sent (before : List Act) : Act → Prop
  | .register wgPrivate request _ => IsRegistration crates wgPrivate request
  | .enroll keypair request _ => ∃ id, Origin toml crates found before id
      ∧ id.hasMasqueCredentials = false ∧ IsEnrolment id keypair request

/-- The files and the acts. -/
structure Accounted (disk : Disk) (acts : List Act) : Prop where
  stored : ∀ path id, Stores toml disk path id → Origin toml crates found acts id
  torn : ∀ path e bytes, disk.unwritable path = some (e, some bytes) → bytes ∈ found
  sent : ∀ before act, before ++ [act] <+: acts → Sent toml crates found before act

end Accounts

section Steps

variable {toml : Toml} {crates : Crates} {found : Set Bytes} {acts more : List Act} {act : Act}
  {id : Identity} {s : Session} {disk disk' : Disk} {path : String}

lemma Root.mono (h : Root toml crates found acts id) :
    Root toml crates found (acts ++ more) id := by
  cases h with
  | found hbytes hloads => exact .found hbytes hloads
  | registered hact hreg => exact .registered (List.mem_append_left _ hact) hreg

lemma Origin.mono (h : Origin toml crates found acts id) :
    Origin toml crates found (acts ++ more) id := by
  obtain ⟨root, hroot, hsame, hcreds⟩ := h
  refine ⟨root, hroot.mono, hsame, hcreds.imp_right ?_⟩
  rintro ⟨act, hact, henrolls⟩
  exact ⟨act, List.mem_append_left _ hact, henrolls⟩

lemma Root.origin (h : Root toml crates found acts id) : Origin toml crates found acts id :=
  ⟨id, h, rfl, .inl ⟨rfl, rfl⟩⟩

/-- One more act. -/
lemma Accounted.sends (h : Accounted toml crates found disk acts)
    (hsent : Sent toml crates found acts act) :
    Accounted toml crates found disk (acts ++ [act]) where
  stored path id hs := (h.stored path id hs).mono
  torn := h.torn
  sent before act' hle := by
    rcases List.prefix_concat_iff.mp hle with heq | hle
    · obtain ⟨rfl, hlast⟩ := List.append_inj' heq rfl
      rw [List.singleton_inj.mp hlast]
      exact hsent
    · exact h.sent before act' hle

/-- **Provisioning**: what it sends may be sent, and what it returns was registered. -/
lemma provision_accounted (h : Accounted toml crates found disk acts) :
    Accounted toml crates found disk
        (acts ++ (provisionWg crates s DEFAULT_MODEL DEFAULT_LOCALE none).2)
      ∧ ∀ id, (provisionWg crates s DEFAULT_MODEL DEFAULT_LOCALE none).1 = .ok id →
          Origin toml crates found
              (acts ++ (provisionWg crates s DEFAULT_MODEL DEFAULT_LOCALE none).2) id
            ∧ id.certPem = [] ∧ id.keyPem = [] := by
  constructor
  · rcases provisionWg_acts crates s DEFAULT_MODEL DEFAULT_LOCALE none with
      heq | ⟨request, hreq, heq⟩
    · rw [heq, List.append_nil]
      exact h
    · rw [heq]
      exact h.sends hreq
  · intro id hid
    cases hprovision : provisionWg crates s DEFAULT_MODEL DEFAULT_LOCALE none with
    | mk result new =>
        rw [hprovision] at hid
        obtain ⟨act, rfl, hreg⟩ := provisionWg_ok (hprovision.trans (by rw [← hid]))
        refine ⟨Root.origin (.registered (List.mem_append_right _ ?_) hreg), hreg.bare⟩
        exact List.mem_singleton_self act

/-- What an enrolment makes of an identity. -/
lemma Origin.enrolled (h : Origin toml crates found acts id) {certPem keyPem : Bytes}
    (henrolls : Enrolls crates { id with certPem, keyPem } act) (hact : act ∈ acts) :
    Origin toml crates found acts { id with certPem, keyPem } := by
  obtain ⟨root, hroot, hsame, -⟩ := h
  refine ⟨root, hroot, ?_, .inr ⟨act, hact, henrolls⟩⟩
  rw [SameAccount] at hsame ⊢
  rw [hsame]

/-- **Enrolment** of an identity without credentials. -/
lemma enroll_accounted (h : Accounted toml crates found disk acts)
    (hid : Origin toml crates found acts id) (hcreds : id.hasMasqueCredentials = false) :
    Accounted toml crates found disk (acts ++ (ensureMasqueEnrolled crates s id).2)
      ∧ ∀ certPem keyPem, (ensureMasqueEnrolled crates s id).1 = .ok (certPem, keyPem) →
          Origin toml crates found (acts ++ (ensureMasqueEnrolled crates s id).2)
            { id with certPem, keyPem } := by
  rcases ensureMasqueEnrolled_cases crates s id with ⟨htrue, -⟩ | ⟨-, ⟨e, heq⟩
      | ⟨keypair, request, -, hreq, heq⟩⟩
  · rw [hcreds] at htrue
    cases htrue
  · rw [heq, List.append_nil]
    refine ⟨h, ?_⟩
    rintro _ _ ⟨⟩
  · rw [heq]
    refine ⟨h.sends ⟨id, hid, hcreds, hreq⟩, ?_⟩
    intro certPem keyPem hok
    cases hanswer : answered crates (s.send request) with
    | error e =>
        rw [hanswer] at hok
        cases hok
    | ok data =>
        rw [hanswer] at hok
        cases hok
        obtain ⟨resp, hresp, hparse⟩ := answered_ok hanswer
        refine hid.mono.enrolled ?_ (List.mem_append_right _ (List.mem_singleton_self _))
        exact ⟨keypair, request, resp, data, by rw [hresp], hreq, hparse, rfl, rfl⟩

/-- **Writing** a text that is accounted for. -/
lemma write_accounted (h : Accounted toml crates found disk acts) {text : String}
    (htext : ∀ id, Loads toml (Utf8.encode text) id → Origin toml crates found acts id) :
    Accounted toml crates found (disk.write path text).2 acts := by
  have hupdate : ∀ left : Option Bytes,
      (∀ bytes id, left = some bytes → Loads toml bytes id → Origin toml crates found acts id) →
      Accounted toml crates found { disk with files := Function.update disk.files path left }
        acts := by
    intro left hleft
    refine ⟨?_, h.torn, h.sent⟩
    rintro q id ⟨bytes, text', p, hfile, hloads⟩
    by_cases hq : q = path
    · have hheld : Function.update disk.files path left q = some bytes := hfile
      rw [hq, Function.update_self] at hheld
      exact hleft bytes id hheld ⟨text', p, hloads⟩
    · have hheld : Function.update disk.files path left q = some bytes := hfile
      rw [Function.update_of_ne hq] at hheld
      exact h.stored q id ⟨bytes, text', p, hheld, hloads⟩
  rw [Disk.write]
  split
  · rename_i e left htorn
    refine hupdate left ?_
    rintro bytes id rfl hloads
    exact Root.origin (.found (h.torn path e bytes htorn) hloads)
  · refine hupdate _ ?_
    rintro _ id ⟨⟩ hloads
    exact htext id hloads

lemma saved_snd : (Config.saved toml disk path id).2 = (save toml disk path id).2 := by
  rw [Config.saved]
  split <;> (rename_i heq; rw [heq])

/-- **Saving** an identity that is accounted for. -/
lemma saved_accounted (hround : toml.RoundTrips) (h : Accounted toml crates found disk acts)
    (hid : Origin toml crates found acts id) (ht : Textual id) :
    Accounted toml crates found (Config.saved toml disk path id).2 acts := by
  rw [saved_snd, save, writePersisted]
  split
  · exact h
  · rename_i text htext
    refine write_accounted h ?_
    rintro id' ⟨text', p, hdecode, hfrom, hinto⟩
    obtain rfl := Option.some.inj ((Utf8.decode_encode text).symm.trans hdecode)
    obtain rfl := Except.ok.inj ((hround.fromStr htext).symm.trans hfrom)
    obtain ⟨cert, key, hcert, hkey⟩ := ht
    rw [into_ofIdentity, hcert, hkey, Utf8.lossy_encode, Utf8.lossy_encode, ← hcert,
      ← hkey] at hinto
    cases hinto
    exact hid

/-- What a call leaves behind these acts. -/
def Leaves {α : Type} (toml : Toml) (crates : Crates) (found : Set Bytes) (acts : List Act)
    (holds : List Act → α → Prop) (x : (Call α × Disk) × List Act) : Prop :=
  Accounted toml crates found x.1.2 (acts ++ x.2) ∧ ∀ a, x.1.1 = .ok a → holds (acts ++ x.2) a

lemma saved_leaves (hround : toml.RoundTrips)
    (h : Accounted toml crates found disk (acts ++ more))
    (hid : Origin toml crates found (acts ++ more) id) (ht : Textual id) :
    Leaves toml crates found acts (Origin toml crates found)
      (Config.saved toml disk path id, more) := by
  refine ⟨saved_accounted hround h hid ht, ?_⟩
  intro id' hok
  obtain ⟨rfl, -⟩ := Restarts.stores_of_saved hround ht (Prod.ext hok rfl)
  exact hid

lemma bare_textual (hcert : id.certPem = []) (hkey : id.keyPem = []) : Textual id :=
  ⟨"", "", by rw [hcert]; rfl, by rw [hkey]; rfl⟩

lemma warp_leaves (hround : toml.RoundTrips) (h : Accounted toml crates found disk acts) :
    Leaves toml crates found acts (Origin toml crates found)
      (loadOrProvisionWarp toml crates s disk path) := by
  rw [loadOrProvisionWarp]
  have hnil : Accounted toml crates found disk (acts ++ []) := by rwa [List.append_nil]
  split
  · exact ⟨hnil, by rintro _ ⟨⟩⟩
  · exact ⟨hnil, by rintro _ ⟨⟩⟩
  · rename_i identity hload
    refine ⟨hnil, ?_⟩
    rintro _ ⟨⟩
    exact (h.stored path identity (Restarts.stores_of_load hload).1).mono
  · obtain ⟨hsent, hreg⟩ := provision_accounted (s := s) h
    split
    · rename_i identity new hprovision
      rw [hprovision] at hsent hreg
      obtain ⟨horigin, hcert, hkey⟩ := hreg identity rfl
      exact saved_leaves hround hsent horigin (bare_textual hcert hkey)
    · rename_i e new hprovision
      rw [hprovision] at hsent
      exact ⟨hsent, by rintro _ ⟨⟩⟩

lemma enrolled_leaves (hround : toml.RoundTrips) (hpem : PemSession s)
    (h : Accounted toml crates found disk acts) (hid : Origin toml crates found acts id)
    (hcreds : id.hasMasqueCredentials = false) :
    Leaves toml crates found acts (Origin toml crates found)
      (enrolled toml crates s disk path id) := by
  rw [enrolled]
  obtain ⟨hsent, henrolled⟩ := enroll_accounted (s := s) h hid hcreds
  split
  · rename_i certPem keyPem new henroll
    rw [henroll] at hsent henrolled
    have hok : (ensureMasqueEnrolled crates s id).1 = .ok (certPem, keyPem) := by rw [henroll]
    have ht := (pem_credentials hpem hcreds hok).1
    exact saved_leaves hround hsent (henrolled certPem keyPem rfl) ht
  · rename_i e new henroll
    rw [henroll] at hsent
    exact ⟨hsent, by rintro _ ⟨⟩⟩

lemma masque_leaves (hround : toml.RoundTrips) (hpem : PemSession s)
    (h : Accounted toml crates found disk acts) :
    Leaves toml crates found acts (Origin toml crates found)
      (loadOrProvisionMasque toml crates s disk path) := by
  rw [loadOrProvisionMasque]
  have hnil : Accounted toml crates found disk (acts ++ []) := by rwa [List.append_nil]
  split
  · exact ⟨hnil, by rintro _ ⟨⟩⟩
  · exact ⟨hnil, by rintro _ ⟨⟩⟩
  · rename_i identity hload
    have horigin := h.stored path identity (Restarts.stores_of_load hload).1
    split
    · refine ⟨hnil, ?_⟩
      rintro _ ⟨⟩
      exact horigin.mono
    · rename_i hcreds
      exact enrolled_leaves hround hpem h horigin (Bool.not_eq_true _ ▸ hcreds)
  · obtain ⟨hsent, hreg⟩ := provision_accounted (s := s) h
    split
    · rename_i identity new hprovision
      rw [hprovision] at hsent hreg
      obtain ⟨horigin, hcert, -⟩ := hreg identity rfl
      have hleaves : Leaves toml crates found (acts ++ new) (Origin toml crates found)
          (enrolled toml crates s disk path identity) :=
        enrolled_leaves hround hpem hsent horigin (bare_credentials hcert)
      rw [Leaves, List.append_assoc] at hleaves
      exact hleaves
    · rename_i e new hprovision
      rw [hprovision] at hsent
      exact ⟨hsent, by rintro _ ⟨⟩⟩

/-- What is made of the result of a call. -/
lemma Leaves.followed {α β : Type} {holds : List Act → α → Prop} {also : List Act → β → Prop}
    {x : Call α × Disk} {f : α → β} (h : Leaves toml crates found acts holds (x, more))
    (hf : ∀ a, holds (acts ++ more) a → also (acts ++ more) (f a)) :
    Leaves toml crates found acts also
      (Restarts.followed x fun a disk => (.ok (f a), disk), more) := by
  obtain ⟨a | e | message, d⟩ := x
  · refine ⟨h.1, ?_⟩
    rintro _ ⟨⟩
    exact hf a (h.2 a rfl)
  · exact ⟨h.1, by rintro _ ⟨⟩⟩
  · exact ⟨h.1, by rintro _ ⟨⟩⟩

variable {outer inner : Session} {paths : Paths}

/-- **A start** returns identities that are accounted for. -/
lemma identities_leaves (hround : toml.RoundTrips) (houter : PemSession outer)
    (h : Accounted toml crates found disk acts) (protocol : Protocol) :
    Leaves toml crates found acts (fun acts ids => ∀ id ∈ ids, Origin toml crates found acts id)
      (identities toml crates outer inner paths disk protocol) := by
  have hone : ∀ acts id, Origin toml crates found acts id →
      ∀ id' ∈ [id], Origin toml crates found acts id' := by
    intro acts id horigin id' hid
    rw [List.mem_singleton.mp hid]
    exact horigin
  cases protocol with
  | masque => exact (masque_leaves hround houter h).followed (hone _)
  | wireGuard => exact (warp_leaves hround h).followed (hone _)
  | warpInWarp =>
      have hprimary : Leaves toml crates found acts (Origin toml crates found)
          (loadOrProvisionWarp toml crates outer disk paths.warp) := warp_leaves hround h
      rw [identities]
      split
      · rename_i primary disk' new hload
        rw [hload] at hprimary
        obtain ⟨hacc, horigin⟩ := hprimary
        have hsecondary : Leaves toml crates found (acts ++ new) (Origin toml crates found)
            (loadOrProvisionWarp toml crates inner disk' paths.secondary) :=
          warp_leaves hround hacc
        have hboth : Leaves toml crates found (acts ++ new)
            (fun acts ids => ∀ id ∈ ids, Origin toml crates found acts id)
            (Restarts.followed (loadOrProvisionWarp toml crates inner disk' paths.secondary).1
                fun secondary disk => (.ok [primary, secondary], disk),
              (loadOrProvisionWarp toml crates inner disk' paths.secondary).2) := by
          refine hsecondary.followed fun secondary hid => ?_
          exact List.forall_mem_cons.mpr
            ⟨(horigin primary rfl).mono, List.forall_mem_singleton.mpr hid⟩
        rw [Leaves, List.append_assoc] at hboth
        exact hboth
      · rename_i hload
        rw [hload] at hprimary
        exact ⟨hprimary.1, by rintro _ ⟨⟩⟩
      · rename_i hload
        rw [hload] at hprimary
        exact ⟨hprimary.1, by rintro _ ⟨⟩⟩

/-! ### Steps -/

/-- The table of a last connection is no identity. -/
lemma not_loads_last {text peer profile : String}
    (hparse : toml.parse text = .ok [("peer", .string peer), ("profile", .string profile)]) :
    ¬ Loads toml (Utf8.encode text) id := by
  rintro ⟨text', p, hdecode, hfrom, -⟩
  rw [Utf8.decode_encode] at hdecode
  obtain rfl := Option.some.inj hdecode
  rw [Toml.fromStr, hparse] at hfrom
  cases hfrom

/-- **Saving a gateway** stores no identity. -/
lemma saveLast_accounted (hround : toml.RoundTrips) (h : Accounted toml crates found disk acts)
    (peer profile : String) :
    Accounted toml crates found (Restarts.saveLast toml disk path peer profile).2 acts := by
  rw [Restarts.saveLast]
  split
  · exact h
  · rename_i text htext
    have hparse := hround [("peer", peer), ("profile", profile)] text (by simp) htext
    exact write_accounted h fun id hloads => absurd hloads (not_loads_last hparse)

/-- What an event may bring: sessions with PEM, and writes that fail. -/
def Event.Within (found : Set Bytes) : Event → Prop
  | .errors _ unwritable =>
      ∀ path e bytes, unwritable path = some (e, some bytes) → bytes ∈ found
  | .start _ _ outer _ => PemSession outer
  | .turn _ => True

/-- The world with its identities. -/
structure World.Sound (toml : Toml) (crates : Crates) (found : Set Bytes) (w : World) : Prop where
  accounted : Accounted toml crates found w.base.disk w.acts
  used : ∀ id ∈ w.used, Origin toml crates found w.acts id

/-- The record of a start. -/
lemma World.Sound.record {w : World} {base : Restarts.World} {call : Call (List Identity)}
    (h : w.Sound toml crates found)
    (hleaves : Leaves toml crates found w.acts
      (fun acts ids => ∀ id ∈ ids, Origin toml crates found acts id) ((call, base.disk), more)) :
    (w.record base more call).Sound toml crates found := by
  have hused : ∀ id ∈ w.used, Origin toml crates found (w.acts ++ more) id :=
    fun id hid => (h.used id hid).mono
  cases call with
  | ok ids =>
      refine ⟨hleaves.1, ?_⟩
      intro id hid
      exact (List.mem_append.mp hid).elim (hused id) (hleaves.2 ids rfl id)
  | err e => exact ⟨hleaves.1, hused⟩
  | panicked message => exact ⟨hleaves.1, hused⟩

/-- **Every step keeps it.** -/
lemma step_sound (hround : toml.RoundTrips) {w w' : World} {e : Event}
    (h : w.Sound toml crates found) (he : e.Within found)
    (hstep : step toml crates paths w e = some w') : w'.Sound toml crates found := by
  obtain ⟨base, hbase, heq⟩ := Option.map_eq_some_iff.mp hstep
  cases e with
  | errors unreadable unwritable =>
      cases hbase
      cases heq
      exact ⟨⟨h.accounted.stored, he, h.accounted.sent⟩, h.used⟩
  | start env answer outer inner =>
      cases heq
      have hleaves : Leaves toml crates found w.acts
          (fun acts ids => ∀ id ∈ ids, Origin toml crates found acts id)
          (identities toml crates outer inner paths w.base.disk
            ((selectProtocol env).getD answer)) :=
        identities_leaves hround he h.accounted _
      refine h.record ?_
      rw [start_disk hbase]
      exact hleaves
  | turn e =>
      cases heq
      refine ⟨?_, h.used⟩
      rw [Event.plain, Restarts.step] at hbase
      have hdisk : base.disk = w.base.disk ∨ ∃ path peer profile,
          base.disk = (Restarts.saveLast toml w.base.disk path peer profile).2 := by
        split at hbase
        · cases hbase
        · exact (turn_disk hbase).imp_right fun hsave => ⟨_, hsave⟩
        · exact (turn_disk hbase).imp_right fun hsave => ⟨_, hsave⟩
      rcases hdisk with hdisk | ⟨path, peer, profile, hdisk⟩
      · show Accounted toml crates found base.disk w.acts
        rw [hdisk]
        exact h.accounted
      · show Accounted toml crates found base.disk w.acts
        rw [hdisk]
        exact saveLast_accounted hround h.accounted peer profile

end Steps

/-! ### Keys -/

section Keys

variable {toml : Toml} {crates : Crates} {s outer inner : Session} {disk : Disk} {path : String}
  {paths : Paths} {acts more : List Act} {w w' : World} {e : Event}

@[simp] lemma keys_append : keys (acts ++ more) = keys acts ++ keys more :=
  List.filterMap_append ..

/-- Provisioning registers the key that was drawn, or none. -/
lemma provision_keys (crates : Crates) (s : Session) :
    (keys (provisionWg crates s DEFAULT_MODEL DEFAULT_LOCALE none).2).Sublist
      [clamp s.private32] := by
  rcases provisionWg_acts crates s DEFAULT_MODEL DEFAULT_LOCALE none with
    heq | ⟨request, -, heq⟩
  · rw [heq]
    exact List.nil_sublist _
  · rw [heq]
    exact List.Sublist.refl _

lemma warp_keys : (keys (loadOrProvisionWarp toml crates s disk path).2).Sublist
    [clamp s.private32] := by
  have hprovision := provision_keys crates s
  rw [loadOrProvisionWarp]
  split
  · exact List.nil_sublist _
  · exact List.nil_sublist _
  · exact List.nil_sublist _
  · split <;> (rename_i heq; rw [heq] at hprovision; exact hprovision)

/-- An enrolment registers no key. -/
lemma enrolled_keys (id : Identity) : keys (enrolled toml crates s disk path id).2 = [] := by
  have hnone : keys (ensureMasqueEnrolled crates s id).2 = [] := by
    rcases ensureMasqueEnrolled_cases crates s id with ⟨-, heq⟩ | ⟨-, ⟨e, heq⟩
        | ⟨keypair, request, -, -, heq⟩⟩ <;> (rw [heq]; rfl)
  rw [enrolled]
  split <;> (rename_i heq; rw [heq] at hnone; exact hnone)

lemma masque_keys : (keys (loadOrProvisionMasque toml crates s disk path).2).Sublist
    [clamp s.private32] := by
  have hprovision := provision_keys crates s
  rw [loadOrProvisionMasque]
  split
  · exact List.nil_sublist _
  · exact List.nil_sublist _
  · split
    · exact List.nil_sublist _
    · rw [enrolled_keys]
      exact List.nil_sublist _
  · split
    · rename_i identity new heq
      rw [heq] at hprovision
      show (keys (new ++ (enrolled toml crates s disk path identity).2)).Sublist _
      rw [keys_append, enrolled_keys, List.append_nil]
      exact hprovision
    · rename_i heq
      rw [heq] at hprovision
      exact hprovision

/-- **A start** registers keys that it has drawn, each once. -/
lemma identities_keys (protocol : Protocol) :
    (keys (identities toml crates outer inner paths disk protocol).2).Sublist
      [clamp outer.private32, clamp inner.private32] := by
  have hone : List.Sublist [clamp outer.private32]
      [clamp outer.private32, clamp inner.private32] :=
    List.sublist_append_left [_] [_]
  have hwarp : (keys (loadOrProvisionWarp toml crates outer disk paths.warp).2).Sublist
      [clamp outer.private32] := warp_keys
  cases protocol with
  | masque => exact masque_keys.trans hone
  | wireGuard => exact hwarp.trans hone
  | warpInWarp =>
      rw [identities]
      split
      · rename_i primary disk' new hload
        rw [hload] at hwarp
        dsimp only
        rw [keys_append]
        exact hwarp.append warp_keys
      · rename_i hload
        rw [hload] at hwarp
        exact hwarp.trans hone
      · rename_i hload
        rw [hload] at hwarp
        exact hwarp.trans hone

lemma step_keys (h : step toml crates paths w e = some w') :
    ∃ new, keys w'.acts = keys w.acts ++ new ∧ new.Sublist e.keys := by
  obtain ⟨base, -, heq⟩ := Option.map_eq_some_iff.mp h
  cases e with
  | errors unreadable unwritable =>
      cases heq
      exact ⟨[], (List.append_nil _).symm, List.nil_sublist _⟩
  | start env answer outer inner =>
      cases heq
      have hdrawn : (keys (identities toml crates outer inner paths w.base.disk
          ((selectProtocol env).getD answer)).2).Sublist
            [clamp outer.private32, clamp inner.private32] := identities_keys _
      refine ⟨_, ?_, hdrawn⟩
      rw [← keys_append]
      dsimp only
      cases (identities toml crates outer inner paths w.base.disk
        ((selectProtocol env).getD answer)).1.1 <;> rfl
  | turn e =>
      cases heq
      exact ⟨[], (List.append_nil _).symm, List.nil_sublist _⟩

end Keys

/-! ### Every identity -/

end Aether.Provenance
