import Aether.Lib.Machine
import Aether.Netstack.Ports
import Aether.Socks.Effects

/-!
Whether the netstack keeps connections that nobody can use.

Neither `TcpSender` nor `UdpSender` sends anything when it is dropped, so a task has to send the
close message of its connection on every way out. Three ways out do not: the end of
`dns_resolve`, a CONNECT reply that cannot be written, and the abort of an upload task.

* `Books`: the senders are held by one task each, and a close message comes from a sender that
  is gone.
* `no_leak_iff`: a run leaks nothing exactly when each of its steps on these ways finds the
  netstack without the connection.
-/

namespace Aether.Socks

open Netstack (NetStack Smoltcp Kind Cmd DataIn Obs Handle TcpEnds HandedOver EndsStep Interface)
open Effect (Did)

variable {sm : Smoltcp} {s s' : Server} {x : Effect} {r id : ℕ} {t t' : Task} {a : Act}

namespace Server

/-- If the application has dropped both ends of the TCP connection, then its close message is in
flight, or handled. -/
def TcpKept (s : Server) (id : ℕ) : Prop :=
  ∀ y, s.stack.tcpEnds id = some y → y.rxDropped = true → s.tcpSenderGone id = true →
    y.halfClosed = true ∨ .tcpClose id ∈ s.data.items

/-- The same of a UDP connection, which a handled close message removes. -/
def UdpKept (s : Server) (id : ℕ) : Prop :=
  s.stack.udpEnds id = some true → s.udpSenderGone id = true → .udpClose id ∈ s.data.items

/-- The netstack keeps no connection that nobody can use, unless it has ended itself. -/
def NoLeak (s : Server) : Prop := ¬ s.Ended → ∀ id, s.TcpKept id ∧ s.UdpKept id

/-- A sender of the connection is gone. -/
def Gone (s : Server) (id : ℕ) : Prop :=
  s.tcpSenderGone id = true ∨ s.udpSenderGone id = true

/-- The senders are held by one task each and belong to connections that were handed over; the
close messages come from senders that are gone. -/
structure Books (s : Server) : Prop where
  matched : s.stack.shape.Matched
  apart : ∀ r r' id, id ∈ s.holds r → id ∈ s.holds r' → r = r'
  nodup : ∀ r, (s.holds r).Nodup
  handed : ∀ r id, id ∈ s.holds r → HandedOver s.stack id
  kept : ∀ r id, id ∈ s.holds r → ¬ s.Gone id
  gone : ∀ id, s.Gone id → HandedOver s.stack id
  halfClosed : ∀ id y, s.stack.tcpEnds id = some y → y.halfClosed = true →
    s.tcpSenderGone id = true
  tcpClose : ∀ id, .tcpClose id ∈ s.data.items → s.tcpSenderGone id = true
  udpClose : ∀ id, .udpClose id ∈ s.data.items → s.udpSenderGone id = true
  facts : ∀ r t, s.tasks r = some t → t.Fact s

end Server

open Server (Books NoLeak Gone)

/-! ### Steps with an effect -/

lemma Effect.Did.gone_iff (h : Did x s s') : s'.Gone id ↔ s.Gone id ∨ id ∈ x.freed := by
  rw [Server.Gone, Server.Gone, h.tcpGone, h.udpGone]
  cases x with
  | quiet | dropReceiver => simp [Effect.freed]
  | close k j | abandon k j => cases k <;> grind [Effect.freed]

/-- A step keeps the books if it lets go of what a task held, and no task comes to hold more. -/
lemma Server.Books.did (hb : Books s) (h : Did x s s') (hfreed : ∀ id ∈ x.freed, id ∈ s.holds r)
    (hmem : ∀ r' id, id ∈ s'.holds r' → id ∈ s.holds r' ∧ id ∉ x.freed)
    (hnodup : ∀ r', (s'.holds r').Nodup)
    (hfacts : ∀ r' t, s'.tasks r' = some t → s.tasks r' = some t ∨ t.Fact s') : Books s' where
  matched := by
    rw [h.stack.shape]
    exact hb.matched
  apart r₁ r₂ id h₁ h₂ := hb.apart r₁ r₂ id (hmem r₁ id h₁).1 (hmem r₂ id h₂).1
  nodup := hnodup
  handed r' id hid := h.handedOver (hb.handed r' id (hmem r' id hid).1)
  kept r' id hid hgone := by
    rcases h.gone_iff.mp hgone with hold | hnew
    · exact hb.kept r' id (hmem r' id hid).1 hold
    · exact (hmem r' id hid).2 hnew
  gone id hgone := by
    refine h.handedOver ?_
    rcases h.gone_iff.mp hgone with hold | hnew
    · exact hb.gone id hold
    · exact hb.handed r id (hfreed id hnew)
  halfClosed id y hy hhalf := by
    rw [h.stack.tcp] at hy
    obtain ⟨y₀, hy₀, rfl⟩ := Option.map_eq_some_iff.mp hy
    exact (h.tcpGone id).mpr (.inl (hb.halfClosed id y₀ hy₀ hhalf))
  tcpClose id hid := by
    rcases (h.tcpClose id).mp hid with hold | rfl
    · exact (h.tcpGone id).mpr (.inl (hb.tcpClose id hold))
    · exact (h.tcpGone id).mpr (.inr (.inl rfl))
  udpClose id hid := by
    rcases (h.udpClose id).mp hid with hold | rfl
    · exact (h.udpGone id).mpr (.inl (hb.udpClose id hold))
    · exact (h.udpGone id).mpr (.inr (.inl rfl))
  facts r' t ht := by
    rcases hfacts r' t ht with hold | hnew
    · exact h.fact (hb.facts r' t hold)
    · exact hnew

/-- A step without an effect that lets the tasks hold what they held. -/
lemma Server.Books.quiet (hb : Books s) (h : Did .quiet s s') (hh : ∀ r, s'.holds r = s.holds r)
    (hfacts : ∀ r' t, s'.tasks r' = some t → s.tasks r' = some t ∨ t.Fact s') : Books s' := by
  refine hb.did (r := 0) h (by simp [Effect.freed]) ?_ ?_ hfacts
  · intro r' id hid
    rw [hh] at hid
    exact ⟨hid, List.not_mem_nil⟩
  · intro r'
    rw [hh]
    exact hb.nodup r'

lemma Server.holds_eq (hr : s.tasks r = some t) :
    s.holds r = t.holds ++ answerIds (s.oneshot r) := by
  rw [Server.holds, hr]
  rfl

/-- A step of a task keeps the books. -/
lemma Server.Books.acted (hb : Books s) (hr : s.tasks r = some t) (h : Acted x r t t' s s') :
    Books s' := by
  have hr' : s'.tasks r = some t' := by
    rw [h.tasks, Function.update_self]
  -- what the task holds is what it lets go of and what it still holds
  have hperm : (x.freed ++ s'.holds r).Perm (s.holds r) := by
    rw [Server.holds_eq hr, Server.holds_eq hr']
    exact h.holds
  have hne : ∀ r' ≠ r, s'.holds r' = s.holds r' := by
    intro r' hne
    rw [Server.holds, Server.holds, h.oneshot r' hne, h.tasks, Function.update_of_ne hne]
  have hnodup := List.nodup_append.mp (hperm.nodup_iff.mpr (hb.nodup r))
  have hfreed : ∀ id ∈ x.freed, id ∈ s.holds r := fun id hid =>
    hperm.subset (List.mem_append_left _ hid)
  refine hb.did h.did hfreed ?_ ?_ ?_
  · intro r' id hid
    by_cases heq : r' = r
    · subst heq
      exact ⟨hperm.subset (List.mem_append_right _ hid), fun hx => hnodup.2.2 id hx id hid rfl⟩
    · rw [hne r' heq] at hid
      exact ⟨hid, fun hx => heq (hb.apart r' r id hid (hfreed id hx))⟩
  · intro r'
    by_cases heq : r' = r
    · subst heq
      exact hnodup.2.1
    · rw [hne r' heq]
      exact hb.nodup r'
  · intro r' t₁ ht₁
    rw [h.tasks, Function.update_apply] at ht₁
    split at ht₁
    · cases ht₁
      exact .inr h.fact
    · exact .inl ht₁

/-! ### What an effect leaks -/

lemma tcpEnds_eq_none {s : NetStack} : s.tcpEnds id = none ↔ s.shape.entries .tcp id = none := by
  rw [NetStack.tcpEnds, Option.map_eq_none_iff]
  exact Option.map_eq_none_iff.symm

lemma udpEnds_eq_none {s : NetStack} : s.udpEnds id = none ↔ s.shape.entries .udp id = none := by
  rw [NetStack.udpEnds, Option.map_eq_none_iff]
  exact Option.map_eq_none_iff.symm

/-- Only a relay that shuts down drops its receiver alone. -/
lemma effect_dropReceiver (h : t.effect a = .dropReceiver id) : ∃ up, t = .shutting id up := by
  have hup : ∀ id' up, Upload.effect id' up a ≠ .dropReceiver id := by
    intro id' up
    cases up <;> cases a <;> simp [Upload.effect]
  unfold Task.effect at h
  split at h
  · cases h
  · cases h
  · cases h
    exact ⟨_, rfl⟩
  · exact absurd h (hup _ _)
  · exact absurd h (hup _ _)
  · split at h <;> cases h
  · exact absurd h (hup _ _)
  · cases h
  · cases h

lemma Effect.Did.tcpKept (h : Did x s s') (hk : s.TcpKept id) (hx : x ≠ .abandon .tcp id)
    (hrx : x = .dropReceiver id → s.tcpSenderGone id = true → s.Closed id) : s'.TcpKept id := by
  intro y hy hdrop hgone
  rw [h.stack.tcp] at hy
  obtain ⟨y₀, hy₀, rfl⟩ := Option.map_eq_some_iff.mp hy
  rw [h.tcpClose]
  rcases (h.tcpGone id).mp hgone with hold | hclose | habandon
  · rcases Bool.or_eq_true_iff.mp hdrop with hd | hd
    · exact (hk y₀ hy₀ hd hold).imp_right .inl
    · have hxr := (Effect.dropsTcp_iff.mp hd).resolve_right hx
      exact ((hrx hxr hold).sent y₀ hy₀).imp_right .inl
  · exact .inr (.inr hclose)
  · exact absurd habandon hx

lemma Effect.Did.udpKept (h : Did x s s') (hk : s.UdpKept id) (hx : x ≠ .abandon .udp id) :
    s'.UdpKept id := by
  intro hy hgone
  rw [h.stack.udp] at hy
  obtain ⟨b, hb, hor⟩ := Option.map_eq_some_iff.mp hy
  rw [h.udpClose]
  rcases Bool.or_eq_true_iff.mp hor with rfl | hd
  · rcases (h.udpGone id).mp hgone with hold | hclose | habandon
    · exact .inl (hk hb hold)
    · exact .inr hclose
    · exact absurd habandon hx
  · exact .inr ((Effect.dropsUdp_iff.mp hd).resolve_right hx)

/-- **What is abandoned stays** exactly if the netstack has it. -/
lemma Effect.Did.tcpKept_iff (h : Did (.abandon .tcp id) s s') (hb : Books s)
    (hid : ¬ s.Gone id) : s'.TcpKept id ↔ s.stack.shape.entries .tcp id = none := by
  rw [← tcpEnds_eq_none]
  cases hy : s.stack.tcpEnds id with
  | none =>
      refine iff_of_true ?_ rfl
      intro y hy'
      rw [h.stack.tcp, hy] at hy'
      cases hy'
  | some y =>
      refine iff_of_false ?_ (by simp)
      intro hk
      have hunsent : ¬ s.tcpSenderGone id = true := fun hg => hid (.inl hg)
      have hgone : s'.tcpSenderGone id = true := (h.tcpGone id).mpr (.inr (.inr rfl))
      have hends := h.stack.tcp id
      rw [hy] at hends
      have hrx : y.rxDropped || (Effect.abandon .tcp id).dropsTcp id := by
        simp [Effect.dropsTcp]
      rcases hk _ hends hrx hgone with hhalf | hclose
      · exact hunsent (hb.halfClosed id y hy hhalf)
      · rcases (h.tcpClose id).mp hclose with hold | hnew
        · exact hunsent (hb.tcpClose id hold)
        · cases hnew

lemma Effect.Did.udpKept_iff (h : Did (.abandon .udp id) s s') (hb : Books s)
    (hid : ¬ s.Gone id) : s'.UdpKept id ↔ s.stack.shape.entries .udp id = none := by
  rw [← udpEnds_eq_none]
  cases hy : s.stack.udpEnds id with
  | none =>
      refine iff_of_true ?_ rfl
      intro hy'
      rw [h.stack.udp, hy] at hy'
      cases hy'
  | some b =>
      refine iff_of_false ?_ (by simp)
      intro hk
      have hgone : s'.udpSenderGone id = true := (h.udpGone id).mpr (.inr (.inr rfl))
      have hends : s'.stack.udpEnds id = some true := by
        rw [h.stack.udp, hy]
        simp [Effect.dropsUdp]
      rcases (h.udpClose id).mp (hk hends hgone) with hold | hnew
      · exact hid (.inr (hb.udpClose id hold))
      · cases hnew

/-- The way out that a step of a task takes without a close message. -/
def Task.abandons : Task → Act → Option (Kind × ℕ)
  | .dns (.waiting id) _, .resolved _ => some (.udp, id)
  | .connectReply id, .replied false => some (.tcp, id)
  | .stopping id up, .aborted => if up = .finished then none else some (.tcp, id)
  | _, _ => none

lemma effect_abandon_iff {k : Kind} :
    t.effect a = .abandon k id ↔ t.abandons a = some (k, id) := by
  have hup : ∀ id' up, Upload.effect id' up a ≠ .abandon k id := by
    intro id' up
    cases up <;> cases a <;> simp [Upload.effect]
  cases t with
  | dns d caller => cases d <;> cases a <;> simp [Task.effect, Task.abandons]
  | connectReply id' =>
      cases a with
      | replied ok => cases ok <;> simp [Task.effect, Task.abandons]
      | _ => simp [Task.effect, Task.abandons]
  | relay id' up => simp [Task.effect, Task.abandons, hup]
  | shutting id' up => cases a <;> simp [Task.effect, Task.abandons, hup]
  | stopping id' up =>
      cases a with
      | aborted => by_cases hu : up = .finished <;> simp [Task.effect, Task.abandons, hu]
      | _ => simp [Task.effect, Task.abandons, hup]
  | associateClose id' => cases a <;> simp [Task.effect, Task.abandons]
  | _ => simp [Task.effect, Task.abandons]

/-- A relay whose sender is gone has finished its upload, and closed its connection. -/
lemma Server.Books.relay_closed (hb : Books s) {up : Upload}
    (hr : s.tasks r = some (.shutting id up)) (hgone : s.tcpSenderGone id = true) :
    s.Closed id := by
  refine (hb.facts r _ hr).2 ?_
  by_contra hup
  have hid : id ∈ s.holds r := by
    rw [Server.holds_eq hr]
    cases up <;> simp_all [Task.holds, Upload.holds]
  exact hb.kept r id hid (.inl hgone)

/-- A step of a task leaks nothing exactly if what it abandons is gone already. -/
lemma noLeak_acted_iff (he : ¬ s.Ended) (hp : NoLeak s) (hb : Books s) (hr : s.tasks r = some t)
    (h : Acted (t.effect a) r t t' s s') :
    NoLeak s' ↔ ∀ k id, t.abandons a = some (k, id) → s.stack.shape.entries k id = none := by
  have he' : ¬ s'.Ended := by
    rw [Server.Ended, h.did.stack.pc]
    exact he
  have hrelay : ∀ id, t.effect a = .dropReceiver id → s.tcpSenderGone id = true →
      s.Closed id := by
    intro id hx hgone
    obtain ⟨up, rfl⟩ := effect_dropReceiver hx
    exact hb.relay_closed hr hgone
  have hkept : ∀ k id, t.effect a = .abandon k id → ¬ s.Gone id := by
    intro k id hx
    refine hb.kept r id ?_
    rw [Server.holds_eq hr]
    refine h.holds.subset ?_
    rw [hx]
    exact List.mem_append_left _ (List.mem_singleton_self id)
  have htcp : ∀ id, t.effect a ≠ .abandon .tcp id → s'.TcpKept id := fun id hx =>
    h.did.tcpKept (hp he id).1 hx (hrelay id)
  have hudp : ∀ id, t.effect a ≠ .abandon .udp id → s'.UdpKept id := fun id hx =>
    h.did.udpKept (hp he id).2 hx
  constructor
  · intro hp' k id hab
    have hx := effect_abandon_iff.mpr hab
    have hd := h.did
    rw [hx] at hd
    cases k with
    | tcp => exact (hd.tcpKept_iff hb (hkept _ id hx)).mp (hp' he' id).1
    | udp => exact (hd.udpKept_iff hb (hkept _ id hx)).mp (hp' he' id).2
  · intro hgone _ id
    refine ⟨?_, ?_⟩
    · by_cases hx : t.effect a = .abandon .tcp id
      · have hd := h.did
        rw [hx] at hd
        exact (hd.tcpKept_iff hb (hkept _ id hx)).mpr (hgone _ id (effect_abandon_iff.mp hx))
      · exact htcp id hx
    · by_cases hx : t.effect a = .abandon .udp id
      · have hd := h.did
        rw [hx] at hd
        exact (hd.udpKept_iff hb (hkept _ id hx)).mpr (hgone _ id (effect_abandon_iff.mp hx))
      · exact hudp id hx

/-! ### The steps of the netstack -/

/-- A step of the netstack as the tasks see it; the close message of `k` is handled. -/
structure Ran (k : Option ℕ) (s s' : Server) : Prop where
  matched : s'.stack.shape.Matched
  ends : EndsStep k s.stack s'.stack
  tasks : s'.tasks = s.tasks
  tcpGone : s'.tcpSenderGone = s.tcpSenderGone
  udpGone : s'.udpSenderGone = s.udpSenderGone
  answers : ∃ obs, Netstack.Logged s.stack s'.stack obs ∧ ∀ r, s'.oneshot r = s.oneshot r
    ∨ ∃ answer, .answered r answer ∈ obs ∧ s'.oneshot r = some answer
  data : ∀ d ∈ s'.data.items, d ∈ s.data.items
  popped : ∀ id, .tcpClose id ∈ s.data.items ↔ .tcpClose id ∈ s'.data.items ∨ k = some id

/-- An end that was there before the step. -/
lemma Ran.tcpEnds {k : Option ℕ} (h : Ran k s s') (hid : HandedOver s.stack id) {y' : TcpEnds}
    (hy : s'.stack.tcpEnds id = some y') :
    ∃ y, s.stack.tcpEnds id = some y ∧ y.Later (k == some id) y' := by
  rcases h.ends.tcp id y' hy with ⟨hnew, -⟩ | hold
  · exact absurd hid.below (Nat.not_lt.mpr hnew)
  · exact hold

lemma Ran.closed {k : Option ℕ} (h : Ran k s s') (hb : Books s) (hc : s.Closed id) :
    s'.Closed id where
  gone := by
    rw [h.tcpGone]
    exact hc.gone
  sent y' hy := by
    obtain ⟨y, hy, hl⟩ := h.tcpEnds (hb.gone id (.inl hc.gone)) hy
    rw [hl.halfClosed]
    rcases hc.sent y hy with hhalf | hclose
    · exact .inl (by simp [hhalf])
    · rcases (h.popped id).mp hclose with hd | rfl
      · exact .inr hd
      · exact .inl (by simp)

lemma Ran.unread {k : Option ℕ} (h : Ran k s s') (hid : HandedOver s.stack id)
    (hu : s.Unread id) : s'.Unread id := by
  intro y' hy
  obtain ⟨y, hy, hl⟩ := h.tcpEnds hid hy
  rw [hl.rxDropped]
  exact hu y hy

lemma Ran.fact {k : Option ℕ} (h : Ran k s s') (hb : Books s) (ht : t.Fact s) : t.Fact s' := by
  cases t with
  | relay id up | shutting id up =>
      exact ⟨h.ends.handedOver ht.1, fun hup => h.closed hb (ht.2 hup)⟩
  | stopping id up =>
      exact ⟨h.ends.handedOver ht.1, fun hup => h.closed hb (ht.2.1 hup), h.unread ht.1 ht.2.2⟩
  | _ => trivial

lemma mem_answerIds {o : Option (Except String ℕ)} : id ∈ answerIds o ↔ o = some (.ok id) := by
  unfold answerIds
  split
  · simp [eq_comm]
  · rename_i h
    simp only [List.not_mem_nil, false_iff]
    exact h id

lemma nodup_answerIds (o : Option (Except String ℕ)) : (answerIds o).Nodup := by
  unfold answerIds
  split <;> simp

/-- A step of the netstack keeps the books. -/
lemma Server.Books.ran {k : Option ℕ} (hb : Books s) (h : Ran k s s') : Books s' := by
  obtain ⟨obs, hlog, hans⟩ := h.answers
  have hgone : ∀ id, s'.Gone id ↔ s.Gone id := by
    intro id
    rw [Server.Gone, Server.Gone, h.tcpGone, h.udpGone]
  -- a connection that is held now was held, or is answered by the step
  have hmem : ∀ r id, id ∈ s'.holds r → id ∈ s.holds r ∨ .answered r (.ok id) ∈ obs := by
    intro r id hid
    rw [Server.holds, h.tasks, List.mem_append] at hid
    rcases hid with htask | hone
    · exact .inl (List.mem_append_left _ htask)
    · rw [mem_answerIds] at hone
      rcases hans r with heq | ⟨answer, hobs, heq⟩
      · rw [heq] at hone
        exact .inl (List.mem_append_right _ (mem_answerIds.mpr hone))
      · rw [heq] at hone
        cases hone
        exact .inr hobs
  have hnew : ∀ r r' id, id ∈ s.holds r' → .answered r (.ok id) ∉ obs := by
    intro r r' id hid hobs
    exact (hlog.granted r id hobs).2 (hb.handed r' id hid)
  refine ⟨h.matched, ?_, ?_, ?_, ?_, ?_, ?_, ?_, ?_, ?_⟩
  · intro r r' id h₁ h₂
    rcases hmem r id h₁ with h₁ | h₁ <;> rcases hmem r' id h₂ with h₂ | h₂
    · exact hb.apart r r' id h₁ h₂
    · exact absurd h₂ (hnew r' r id h₁)
    · exact absurd h₁ (hnew r r' id h₂)
    · exact (hlog.one r id r' id h₁ h₂).1
  · intro r
    have hold := hb.nodup r
    rw [Server.holds, h.tasks]
    rcases hans r with heq | ⟨answer, hobs, heq⟩
    · rw [heq]
      exact hold
    · refine List.nodup_append.mpr ⟨(List.nodup_append.mp hold).1, nodup_answerIds _, ?_⟩
      rintro id htask _ hone rfl
      rw [heq, mem_answerIds] at hone
      cases hone
      exact hnew r r id (List.mem_append_left _ htask) hobs
  · intro r id hid
    rcases hmem r id hid with hold | hobs
    · exact h.ends.handedOver (hb.handed r id hold)
    · exact (hlog.granted r id hobs).1
  · intro r id hid hg
    have hg := (hgone id).mp hg
    rcases hmem r id hid with hold | hobs
    · exact hb.kept r id hold hg
    · exact (hlog.granted r id hobs).2 (hb.gone id hg)
  · intro id hg
    exact h.ends.handedOver (hb.gone id ((hgone id).mp hg))
  · intro id y' hy hhalf
    rw [h.tcpGone]
    rcases h.ends.tcp id y' hy with ⟨-, rfl⟩ | ⟨y, hy, hl⟩
    · cases hhalf
    · rw [hl.halfClosed, Bool.or_eq_true_iff] at hhalf
      rcases hhalf with hhalf | hk
      · exact hb.halfClosed id y hy hhalf
      · exact hb.tcpClose id ((h.popped id).mpr (.inr (beq_iff_eq.mp hk)))
  · intro id hid
    rw [h.tcpGone]
    exact hb.tcpClose id (h.data _ hid)
  · intro id hid
    rw [h.udpGone]
    exact hb.udpClose id (h.data _ hid)
  · intro r t ht
    rw [h.tasks] at ht
    exact h.fact hb (hb.facts r t ht)

/-- A step of the netstack leaks nothing. -/
lemma Ran.noLeak {k : Option ℕ} (h : Ran k s s') (he : ¬ s.Ended) (hp : NoLeak s)
    (hudp : ∀ id, .udpClose id ∈ s.data.items →
      .udpClose id ∈ s'.data.items ∨ s'.Ended ∨ s'.stack.udpEnds id = none) : NoLeak s' := by
  intro he' id
  refine ⟨?_, ?_⟩
  · intro y' hy hdrop hgone
    rw [h.tcpGone] at hgone
    rcases h.ends.tcp id y' hy with ⟨-, rfl⟩ | ⟨y, hy, hl⟩
    · cases hdrop
    · rw [hl.rxDropped] at hdrop
      rw [hl.halfClosed]
      rcases (hp he id).1 y hy hdrop hgone with hhalf | hclose
      · exact .inl (by simp [hhalf])
      · rcases (h.popped id).mp hclose with hd | rfl
        · exact .inr hd
        · exact .inl (by simp)
  · intro hy hgone
    rw [h.udpGone] at hgone
    rcases h.ends.udp id true hy with ⟨-, hf⟩ | hold
    · cases hf
    · rcases hudp id ((hp he id).2 hold hgone) with hd | he | hnone
      · exact hd
      · exact absurd he he'
      · rw [hnone] at hy
        cases hy

/-- The answers a step gives are in the oneshot channels after it. -/
lemma follow_answers {stack : NetStack} {obs : List Obs}
    (h : stack.log = obs ++ s.stack.log) (r : ℕ) :
    (s.follow stack).oneshot r = s.oneshot r
      ∨ ∃ answer, .answered r answer ∈ obs ∧ (s.follow stack).oneshot r = some answer := by
  have htake : stack.log.take (stack.log.length - s.stack.log.length) = obs := by
    rw [h, List.length_append, Nat.add_sub_cancel, List.take_left]
  rw [Server.follow]
  dsimp only
  rw [htake]
  clear h htake
  induction obs with
  | nil => exact .inl rfl
  | cons o obs ih =>
      rw [List.foldr_cons]
      have hold : ∀ {f : ℕ → Option (Except String ℕ)},
          (f r = s.oneshot r ∨ ∃ answer, Obs.answered r answer ∈ obs ∧ f r = some answer) →
            f r = s.oneshot r ∨ ∃ answer, Obs.answered r answer ∈ o :: obs ∧ f r = some answer := by
        rintro f (heq | ⟨answer, hobs, heq⟩)
        · exact .inl heq
        · exact .inr ⟨answer, List.mem_cons_of_mem o hobs, heq⟩
      split
      · rename_i r' answer
        by_cases heq : r = r'
        · subst heq
          exact .inr ⟨answer, List.mem_cons_self, Function.update_self ..⟩
        · rw [Function.update_of_ne heq]
          exact hold ih
      · exact hold ih

/-- What the netstack does with its own events, its commands and its data messages. -/
lemma ran_follow {stack : NetStack} {e : Netstack.Ev} (s₁ : Server) (hb : Books s)
    (h : Netstack.step sm s.stack e = some stack) (he : e.drops = false)
    (hs : s₁.stack = s.stack) (ht : s₁.tasks = s.tasks) (ho : s₁.oneshot = s.oneshot)
    (hgt : s₁.tcpSenderGone = s.tcpSenderGone) (hgu : s₁.udpSenderGone = s.udpSenderGone)
    (hd : ∀ d ∈ s₁.data.items, d ∈ s.data.items)
    (hpop : ∀ id, .tcpClose id ∈ s.data.items ↔ .tcpClose id ∈ s₁.data.items ∨ e.closes = some id) :
    Ran e.closes s (s₁.follow stack) where
  matched := (Netstack.step_shape h).matched hb.matched
  ends := Netstack.step_ends h he
  tasks := ht
  tcpGone := hgt
  udpGone := hgu
  answers := by
    obtain ⟨obs, hlog⟩ := Netstack.step_logged hb.matched h
    refine ⟨obs, hlog, ?_⟩
    intro r
    rw [← ho]
    exact follow_answers (hs ▸ hlog.log) r
  data := hd
  popped := hpop

/-! ### Runs -/

/-- The condition: a connection is abandoned only after the netstack has removed it. -/
def Clean (s : Server) : Ev → Prop
  | .task r a => ∀ t k id, s.tasks r = some t → t.abandons a = some (k, id) →
      s.Ended ∨ s.stack.shape.entries k id = none
  | _ => True

lemma start_books (iface : Interface) : Books (Server.start iface) where
  matched := Netstack.spawned_matched iface
  apart r r' id hid := absurd hid List.not_mem_nil
  nodup r := List.nodup_nil
  handed r id hid := absurd hid List.not_mem_nil
  kept r id hid := absurd hid List.not_mem_nil
  gone id hg := by rcases hg with hg | hg <;> cases hg
  halfClosed id y hy := by cases hy
  tcpClose id hid := absurd hid List.not_mem_nil
  udpClose id hid := absurd hid List.not_mem_nil
  facts r t ht := by cases ht

lemma start_noLeak (iface : Interface) : NoLeak (Server.start iface) := by
  intro _ id
  refine ⟨?_, ?_⟩
  · intro y hy
    cases hy
  · intro hy
    cases hy

lemma Request.task_holds (q : Request) : q.task.holds = [] := by
  cases q with
  | connect target port => cases target <;> rfl
  | _ => rfl

lemma Request.task_fact (q : Request) (s : Server) : q.task.Fact s := by
  cases q with
  | connect target port => cases target <;> trivial
  | _ => trivial

/-- A netstack that has ended stays so. -/
lemma step_ended {e : Ev} (h : step sm s e = some s') (he : s.Ended) : s'.Ended := by
  have hpc : s'.stack.pc = s.stack.pc := by
    cases e with
    | stack e =>
        simp only [step, Option.ite_none_right_eq_some] at h
        obtain ⟨stack, hstep, rfl⟩ := Option.map_eq_some_iff.mp h.2
        exact Netstack.step_ended hstep he
    | cmd | data =>
        obtain ⟨⟨_, _⟩, _, h⟩ := Option.bind_eq_some_iff.mp h
        obtain ⟨stack, hstep, rfl⟩ := Option.map_eq_some_iff.mp h
        exact Netstack.step_ended hstep he
    | setAddrs v4 v6 =>
        obtain ⟨⟨s₁, ok⟩, hs, rfl⟩ := Option.map_eq_some_iff.mp h
        exact Server.sendCmd_pc hs
    | accept r q =>
        simp only [step, Option.ite_none_right_eq_some, Option.some.injEq] at h
        obtain ⟨_, rfl⟩ := h
        simp
    | task r a =>
        obtain ⟨t, _, hact⟩ := Option.bind_eq_some_iff.mp h
        exact act_pc hact
  rwa [Server.Ended, hpc]

/-- What a step without an effect leaks. -/
lemma Effect.Did.noLeak (h : Did .quiet s s') (he : ¬ s.Ended) (hp : NoLeak s) : NoLeak s' :=
  fun _ id => ⟨h.tcpKept (hp he id).1 (by simp) (by simp), h.udpKept (hp he id).2 (by simp)⟩

/-- A new task holds nothing. -/
lemma Server.Books.accept (hb : Books s) (hr : s.tasks r = none) (q : Request) :
    Books (s.goto r q.task) := by
  refine hb.quiet (.goto (.of_eq rfl rfl rfl rfl)) ?_ ?_
  · intro r'
    rw [Server.holds, Server.holds]
    by_cases heq : r' = r
    · rw [heq]
      simp [Server.goto, hr, q.task_holds]
    · simp [Server.goto, Function.update_of_ne heq]
  · intro r' t ht
    by_cases heq : r' = r
    · rw [heq] at ht
      simp only [Server.goto, Function.update_self, Option.some.injEq] at ht
      exact .inr (ht ▸ q.task_fact _)
    · simp only [Server.goto, Function.update_of_ne heq] at ht
      exact .inl ht

/-- **What a step does to the books and to the leaks**, while the netstack runs. -/
theorem step_books {e : Ev} (he : ¬ s.Ended) (hb : Books s) (h : step sm s e = some s') :
    Books s' ∧ (NoLeak s → (Clean s e ↔ NoLeak s')) := by
  cases e with
  | stack e =>
      simp only [step, Option.ite_none_right_eq_some] at h
      obtain ⟨hown, h⟩ := h
      obtain ⟨stack, hstep, rfl⟩ := Option.map_eq_some_iff.mp h
      have hdrops : e.drops = false := by
        cases e <;> simp_all [own, Netstack.Ev.drops]
      have hcloses : e.closes = none := by
        cases e <;> simp_all [own, Netstack.Ev.closes]
      have hran := ran_follow s hb hstep hdrops rfl rfl rfl rfl rfl (fun _ hd => hd)
        (by simp [hcloses])
      exact ⟨hb.ran hran, fun hp => iff_of_true trivial (hran.noLeak he hp fun _ hd => .inl hd)⟩
  | cmd slot err =>
      obtain ⟨⟨c, cmds⟩, hrecv, h⟩ := Option.bind_eq_some_iff.mp h
      obtain ⟨stack, hstep, rfl⟩ := Option.map_eq_some_iff.mp h
      have hran := ran_follow { s with cmds } hb hstep rfl rfl rfl rfl rfl rfl
        (fun _ hd => hd) (by simp [Netstack.Ev.closes])
      exact ⟨hb.ran hran, fun hp => iff_of_true trivial (hran.noLeak he hp fun _ hd => .inl hd)⟩
  | data room =>
      obtain ⟨⟨d, data⟩, hrecv, h⟩ := Option.bind_eq_some_iff.mp h
      obtain ⟨stack, hstep, rfl⟩ := Option.map_eq_some_iff.mp h
      have hitems := Mailbox.recv_eq_some hrecv
      have hcloses : ∀ id, .tcpClose id ∈ s.data.items
          ↔ .tcpClose id ∈ data.items ∨ (Netstack.Ev.data d room).closes = some id := by
        intro id
        rw [hitems, List.mem_cons, or_comm]
        refine or_congr_right ?_
        cases d <;> simp [Netstack.Ev.closes, Netstack.DataIn.closes, eq_comm]
      have hran := ran_follow { s with data } hb hstep rfl rfl rfl rfl rfl rfl
        (fun d' hd => by rw [hitems]; exact List.mem_cons_of_mem _ hd) hcloses
      refine ⟨hb.ran hran, fun hp => iff_of_true trivial (hran.noLeak he hp ?_)⟩
      intro id hid
      rw [hitems, List.mem_cons] at hid
      rcases hid with rfl | hid
      · rcases Netstack.udpClose_ends hstep with hpanic | hnone
        · exact .inr (.inl (.inr hpanic))
        · exact .inr (.inr hnone)
      · exact .inl hid
  | setAddrs v4 v6 =>
      obtain ⟨⟨s₁, ok⟩, hsend, rfl⟩ := Option.map_eq_some_iff.mp h
      obtain ⟨-, cmds, rfl⟩ := sendCmd_cases he hsend
      have hd : Did .quiet s { s with cmds } := .of_eq rfl rfl rfl rfl
      exact ⟨hb.quiet hd (fun _ => rfl) fun _ _ ht => .inl ht,
        fun hp => iff_of_true trivial (hd.noLeak he hp)⟩
  | accept r q =>
      simp only [step, Option.ite_none_right_eq_some, Option.some.injEq] at h
      obtain ⟨hr, rfl⟩ := h
      have hd : Did .quiet s (s.goto r q.task) := .goto (.of_eq rfl rfl rfl rfl)
      exact ⟨hb.accept hr q, fun hp => iff_of_true trivial (hd.noLeak he hp)⟩
  | task r a =>
      obtain ⟨t, hr, hact⟩ := Option.bind_eq_some_iff.mp h
      obtain ⟨t', hacted⟩ := task_acted he hr (hb.facts r t hr) (hb.handed r) hact
      refine ⟨hb.acted hr hacted, ?_⟩
      intro hp
      rw [noLeak_acted_iff he hp hb hr hacted]
      constructor
      · intro hclean k id hab
        exact (hclean t k id hr hab).resolve_left he
      · intro hnone t₁ k id ht₁ hab
        rw [hr] at ht₁
        cases ht₁
        exact .inr (hnone k id hab)

/-- **When nothing leaks**: no state of a run has a connection that nobody can use exactly when
each connection that the run abandons had been removed. -/
theorem no_leak_iff (sm : Smoltcp) (iface : Interface) (es : List Ev)
    (h : Machine.run (step sm) (Server.start iface) es = some s) :
    Machine.Meets (step sm) Clean (Server.start iface) es
      ↔ Machine.Always (step sm) NoLeak (Server.start iface) es := by
  refine Machine.meets_iff_always (I := fun s => s.Ended ∨ Books s) ?_ ?_
    (.inr (start_books iface)) (start_noLeak iface) h
  · intro s e s' hI hstep
    by_cases he : s.Ended
    · exact .inl (step_ended hstep he)
    · exact .inr (step_books he (hI.resolve_left he) hstep).1
  · intro s e s' hI hp hstep
    by_cases he : s.Ended
    · refine iff_of_true ?_ fun he' => absurd (step_ended hstep he) he'
      cases e with
      | task r a => exact fun _ _ _ _ _ => .inl he
      | _ => trivial
    · exact (step_books he (hI.resolve_left he) hstep).2 hp

/-! ### Two runs -/

/-- A turn of the netstack's loop that finds nothing to do. -/
def turn (udpIds : List ℕ) : List Ev := (Netstack.quietTurn udpIds).map .stack

/-- UDP ASSOCIATE, ended by its client. -/
def associateRun : List Ev :=
  turn [] ++ [.accept 0 .associate, .task 0 (.replied true), .task 0 .sent, .cmd 0 none,
    .task 0 .answered, .task 0 .hangUp, .task 0 .sent] ++ turn [1] ++ [.data true]

lemma abandons_eq_none (ha : a ∈ [.answered, .sent, .replied true, .hangUp]) (t : Task) :
    t.abandons a = none := by
  unfold Task.abandons
  split
  all_goals first | rfl | simp at ha

lemma associateRun_clean (s : Server) : ∀ e ∈ associateRun, Clean s e := by
  have hturn : ∀ ids, ∀ e ∈ turn ids, Clean s e := by
    intro ids e he
    obtain ⟨e, _, rfl⟩ := List.mem_map.mp he
    trivial
  have htask : ∀ a ∈ [Act.answered, .sent, .replied true, .hangUp], Clean s (.task 0 a) := by
    intro a ha t k id _ hab
    rw [abandons_eq_none ha] at hab
    cases hab
  rw [associateRun]
  simp only [List.forall_mem_append, List.forall_mem_cons]
  refine ⟨⟨⟨hturn _, trivial, htask _ ?_, htask _ ?_, trivial, htask _ ?_, htask _ ?_,
    htask _ ?_, ?_⟩, hturn _⟩, trivial, ?_⟩
  all_goals simp

/-- Its connection is removed. -/
theorem no_leak_sample : ∃ s,
    Machine.run (step Netstack.stdSmoltcp) (Server.start Netstack.sampleIface) associateRun = some s
      ∧ s.udpSenderGone 1 = true ∧ s.stack.udpEnds 1 = none
      ∧ Machine.Always (step Netstack.stdSmoltcp) NoLeak (Server.start Netstack.sampleIface)
        associateRun := by
  obtain ⟨s, hs, hgone, hnone⟩ : ∃ s,
      Machine.run (step Netstack.stdSmoltcp) (Server.start Netstack.sampleIface) associateRun
        = some s ∧ s.udpSenderGone 1 = true ∧ s.stack.udpEnds 1 = none := ⟨_, rfl, rfl, rfl⟩
  have hclean : Machine.Meets (step Netstack.stdSmoltcp) Clean
      (Server.start Netstack.sampleIface) associateRun :=
    Machine.meets_of_forall fun e he s => associateRun_clean s e he
  exact ⟨s, hs, hgone, hnone, (no_leak_iff _ _ _ hs).mp hclean⟩

/-- `dns_resolve` times out. -/
def timedOut : List Ev :=
  turn [] ++ [.accept 0 (.resolve [0, 0, 1, 0, 0, 1, 0, 0, 0, 0, 0, 0, 1, 97, 0, 0, 1, 0, 1]),
    .task 0 .sent, .cmd 0 none, .task 0 .answered, .task 0 .sent, .task 0 (.resolved none)]

/-- Its connection stays, and no `UdpClose` is on its way. -/
theorem timed_out_leaks : ∃ s,
    Machine.run (step Netstack.stdSmoltcp) (Server.start Netstack.sampleIface) timedOut = some s
      ∧ ¬ NoLeak s := by
  obtain ⟨s, hs, he, hends, hgone, hdata⟩ : ∃ s,
      Machine.run (step Netstack.stdSmoltcp) (Server.start Netstack.sampleIface) timedOut = some s
        ∧ ¬ s.Ended ∧ s.stack.udpEnds 1 = some true ∧ s.udpSenderGone 1 = true
        ∧ s.data.items = [.udp 1 dnsServer
          [0, 0, 1, 0, 0, 1, 0, 0, 0, 0, 0, 0, 1, 97, 0, 0, 1, 0, 1]] :=
    ⟨_, rfl, by decide, rfl, rfl, rfl⟩
  refine ⟨s, hs, fun hn => ?_⟩
  have hclose := (hn he 1).2 hends hgone
  rw [hdata] at hclose
  simp at hclose

end Aether.Socks
