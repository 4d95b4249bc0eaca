import Aether.WarpInWarp.Forwarder
import Aether.Wireguard.Wire

/-!
The inner tunnel, the forwarder and the outer netstack (`run_warp_in_warp`).

The inner tunnel is that of `Aether.Wireguard.Tunnel`, with the profile `off`; its socket and that
of the forwarder are joined by the loopback interface, which may lose a datagram but keeps their
order. Any other process of the host may write to the forwarder's port.

* `step_joined`: what every step of the three preserves.
* `nested_in_order`: **the inner tunnel goes through the outer one**: what the outer netstack is
  given is what boringtun made for the inner one, in order and for the edge alone, and each
  datagram fits into one packet of the outer tunnel.
-/

namespace Aether.WarpInWarp

open Machine
open Netstack (Smoltcp DataIn Interface)
open Wireguard (Tunn WgTunnel WgConfig sentOf)

def TUNNEL_MTU : ℕ := 1280

def INNER_MTU : ℕ := 1200

variable {T ω : Type}

/-! ### The three together -/

/-- The inner tunnel and the forwarder with their ledgers, what waits in the two sockets between
them, and what the inner tunnel has read. -/
structure World (T : Type) where
  inner : WgTunnel T × Wireguard.Ledger
  forwarder : Forwarder × Ledger
  toForwarder : List (SocketAddr × Bytes)
  toInner : List Bytes
  heard : List Bytes

def World.start (u : T) (iface : Interface) : World T where
  inner := (.start u false, .empty)
  forwarder := (.start iface, .empty)
  toForwarder := []
  toInner := []
  heard := []

/-- An event of one of the two; `carried` says that the loopback does not lose what is sent. A
stray datagram is of another process. -/
inductive Step (ω : Type) where
  | inner (e : Wireguard.Ev ω) (carried : Bool)
  | forwarder (e : Ev) (carried : Bool)
  | stray (source : SocketAddr) (data : Bytes)

/-- The datagram that the inner tunnel reads. -/
def reads : Wireguard.Ev ω → Option Bytes
  | .recv (.datagram (.ok d)) => some d
  | _ => none

/-- The datagram that the forwarder reads. -/
def receives : Ev → Option (SocketAddr × Bytes)
  | .received r => r
  | _ => none

/-- A socket gives its datagrams in order. -/
def popped {α : Type} [DecidableEq α] (queue : List α) : Option α → Option (List α)
  | none => some queue
  | some a => if queue.head? = some a then some queue.tail else none

/-- What a step of the inner tunnel gives to its socket. -/
def sends (s s' : WgTunnel T) : List Bytes := (sentOf s'.log).drop (sentOf s.log).length

/-- What a step of the forwarder sends to the inner tunnel. -/
def returns (inside : SocketAddr) (s : Forwarder) : Ev → List Bytes
  | .answered => (s.down.outgoing.filter (·.1 = inside)).map Prod.snd
  | _ => []

/-- A step; `inside` is the address of the inner tunnel's socket. -/
def move (tunn : Tunn T ω) (cfg : WgConfig) (sm : Smoltcp) (remote inside : SocketAddr)
    (w : World T) : Step ω → Option (World T)
  | .inner e carried =>
      (popped w.toInner (reads e)).bind fun toInner =>
        (Wireguard.record tunn cfg w.inner e).map fun inner =>
          { w with
            inner, toInner
            heard := w.heard ++ (reads e).toList
            toForwarder := w.toForwarder
              ++ if carried then (sends w.inner.1 inner.1).map (inside, ·) else [] }
  | .forwarder e carried =>
      (popped w.toForwarder (receives e)).bind fun toForwarder =>
        (record sm remote w.forwarder e).map fun forwarder =>
          { w with
            forwarder, toForwarder
            toInner := w.toInner ++ if carried then returns inside w.forwarder.1 e else [] }
  | .stray source data =>
      if source = inside then none
      else some { w with toForwarder := w.toForwarder ++ [(source, data)] }

/-! ### The loopback -/

section Loopback

variable {tunn : Tunn T ω} {cfg : WgConfig} {sm : Smoltcp} {remote inside : SocketAddr}

/-- What the socket took stays, and is only added to. -/
lemma step_sent {s s' : WgTunnel T} {e : Wireguard.Ev ω}
    (h : Wireguard.step tunn cfg s e = some s') : sentOf s.log <+: sentOf s'.log := by
  cases e with
  | recv e =>
      obtain ⟨spoke, -, hsent⟩ := (Wireguard.recvStep_moves (l := .empty) h).wire
      exact ⟨_, hsent.symm⟩
  | send e =>
      obtain ⟨spoke, -, hsent⟩ := (Wireguard.sendStep_moves (l := .empty) h).wire
      exact ⟨_, hsent.symm⟩
  | timer e =>
      obtain ⟨spoke, -, hsent⟩ := (Wireguard.timerStep_moves (l := .empty) h).wire
      exact ⟨_, hsent.symm⟩
  | helper i ok =>
      rw [Wireguard.step] at h
      split at h
      · cases h
        exact ⟨_, (Wireguard.emit_sent ..).symm⟩
      · cases h
  | panics t =>
      cases t <;>
        (rw [Wireguard.step, Option.ite_none_right_eq_some] at h
         obtain ⟨-, h⟩ := h
         cases h
         exact List.prefix_rfl)
  | run | queue | hangup | returns | aborts =>
      rw [Wireguard.step, Option.ite_none_right_eq_some] at h
      obtain ⟨-, h⟩ := h
      cases h
      exact List.prefix_rfl

lemma sends_spec {s s' : WgTunnel T} {e : Wireguard.Ev ω}
    (h : Wireguard.step tunn cfg s e = some s') :
    sentOf s.log ++ sends s s' = sentOf s'.log := by
  obtain ⟨more, hmore⟩ := step_sent h
  rw [sends, ← hmore, List.drop_left]

lemma popped_eq_some {α : Type} [DecidableEq α] {queue rest : List α} {o : Option α}
    (h : popped queue o = some rest) : queue = o.toList ++ rest := by
  cases o with
  | none => exact Option.some.inj h
  | some a =>
      rw [popped, Option.ite_none_right_eq_some] at h
      obtain ⟨hhead, hrest⟩ := h
      cases queue with
      | nil => cases hhead
      | cons b queue =>
          cases hhead
          cases hrest
          rfl

/-- The ledger of the forwarder reads what the event has. -/
lemma see_read (s : Forwarder) (l : Ledger) (e : Ev) :
    (l.see s e).read = l.read ++ (receives e).toList := by
  have hfollow : ∀ e : Netstack.Ev, (l.follow s e).read = l.read := by
    intro e
    rw [Ledger.follow]
    split <;> rfl
  cases e with
  | received r => rfl
  | stack e => exact (hfollow e).trans (List.append_nil _).symm
  | noted | looked | answered =>
      rw [Ledger.see]
      split <;> exact (List.append_nil _).symm
  | reply =>
      rw [Ledger.see]
      split
      · exact (hfollow _).trans (List.append_nil _).symm
      · exact (List.append_nil _).symm
  | data room =>
      rw [Ledger.see]
      split
      · exact (hfollow _).trans (List.append_nil _).symm
      · exact (List.append_nil _).symm
  | opened | sent => exact (List.append_nil _).symm

/-- And sends what the task has in hand. -/
lemma see_out (inside : SocketAddr) (s : Forwarder) (l : Ledger) (e : Ev) :
    ((l.see s e).out.filter (·.1 = inside)).map Prod.snd
      = (l.out.filter (·.1 = inside)).map Prod.snd ++ returns inside s e := by
  have hfollow : ∀ e : Netstack.Ev, (l.follow s e).out = l.out := by
    intro e
    rw [Ledger.follow]
    split <;> rfl
  cases e with
  | answered =>
      rw [Ledger.see, returns]
      split
      · rename_i hdown
        rw [hdown, Down.outgoing, List.filter_append, List.map_append]
      · rename_i hdown
        cases hd : s.down with
        | sending data dst => exact absurd hd (hdown data dst)
        | receiving | locking | ended => exact (List.append_nil _).symm
  | stack e =>
      refine Eq.trans ?_ (List.append_nil _).symm
      rw [Ledger.see, hfollow]
  | noted | looked =>
      refine Eq.trans ?_ (List.append_nil _).symm
      rw [Ledger.see]
      split <;> rfl
  | reply | data room =>
      refine Eq.trans ?_ (List.append_nil _).symm
      rw [Ledger.see]
      split
      · simp only [hfollow]
      · rfl
  | received | opened | sent => exact (List.append_nil _).symm

/-- What every step of the three preserves: the datagrams between them keep their order. -/
structure Joined (cfg : WgConfig) (remote inside : SocketAddr) (w : World T) : Prop where
  inner : Wireguard.Kept cfg false w.inner
  forwarder : Sound remote w.forwarder
  up : (((w.forwarder.2.read ++ w.toForwarder).filter (·.1 = inside)).map Prod.snd).Sublist
    (sentOf w.inner.1.log)
  down : (w.heard ++ w.toInner).Sublist
    ((w.forwarder.2.out.filter (·.1 = inside)).map Prod.snd)

lemma sublist_carried {α : Type} (xs : List α) (carried : Bool) :
    (if carried then xs else []).Sublist xs := by
  split
  · exact List.Sublist.refl xs
  · exact List.nil_sublist xs

lemma start_joined (u : T) (iface : Interface) :
    Joined cfg remote inside (World.start u iface) where
  inner := Wireguard.start_kept u
  forwarder := start_sound remote iface
  up := List.Sublist.refl []
  down := List.Sublist.refl []

/-- **Every step keeps the order.** -/
lemma step_joined {w w' : World T} {e : Step ω} (hw : Joined cfg remote inside w)
    (h : move tunn cfg sm remote inside w e = some w') : Joined cfg remote inside w' := by
  cases e with
  | inner e carried =>
      obtain ⟨toInner, hpop, h⟩ := Option.bind_eq_some_iff.mp h
      obtain ⟨inner, hinner, rfl⟩ := Option.map_eq_some_iff.mp h
      have hstep : Wireguard.step tunn cfg w.inner.1 e = some inner.1 := by
        obtain ⟨s', hs', rfl⟩ := Option.map_eq_some_iff.mp hinner
        exact hs'
      refine ⟨Wireguard.step_kept hw.inner hinner, hw.forwarder, ?_, ?_⟩
      · show (((w.forwarder.2.read ++ (w.toForwarder
          ++ if carried then (sends w.inner.1 inner.1).map (inside, ·) else [])).filter
            (·.1 = inside)).map Prod.snd).Sublist (sentOf inner.1.log)
        rw [← sends_spec hstep, ← List.append_assoc, List.filter_append, List.map_append]
        refine hw.up.append ?_
        have hall : (((sends w.inner.1 inner.1).map (inside, ·)).filter (·.1 = inside)).map Prod.snd
            = sends w.inner.1 inner.1 := by
          rw [List.filter_eq_self.mpr (by simp), List.map_map]
          exact List.map_id _
        have hsub := ((sublist_carried ((sends w.inner.1 inner.1).map (inside, ·)) carried).filter
          (·.1 = inside)).map Prod.snd
        rwa [hall] at hsub
      · show (w.heard ++ (reads e).toList ++ toInner).Sublist _
        rw [List.append_assoc, ← popped_eq_some hpop]
        exact hw.down
  | forwarder e carried =>
      obtain ⟨toForwarder, hpop, h⟩ := Option.bind_eq_some_iff.mp h
      obtain ⟨forwarder, hforwarder, rfl⟩ := Option.map_eq_some_iff.mp h
      have hsee : forwarder.2 = w.forwarder.2.see w.forwarder.1 e := by
        obtain ⟨s', -, rfl⟩ := Option.map_eq_some_iff.mp hforwarder
        rfl
      refine ⟨hw.inner, step_sound hw.forwarder hforwarder, ?_, ?_⟩
      · show (((forwarder.2.read ++ toForwarder).filter (·.1 = inside)).map Prod.snd).Sublist _
        rw [hsee, see_read, List.append_assoc, ← popped_eq_some hpop]
        exact hw.up
      · show (w.heard ++ (w.toInner
          ++ if carried then returns inside w.forwarder.1 e else [])).Sublist
            ((forwarder.2.out.filter (·.1 = inside)).map Prod.snd)
        rw [hsee, see_out, ← List.append_assoc]
        exact hw.down.append (sublist_carried _ carried)
  | stray source data =>
      rw [move, Option.ite_none_left_eq_some] at h
      obtain ⟨hne, h⟩ := h
      cases h
      refine ⟨hw.inner, hw.forwarder, ?_, hw.down⟩
      show (((w.forwarder.2.read ++ (w.toForwarder ++ [(source, data)])).filter
        (·.1 = inside)).map Prod.snd).Sublist _
      rw [← List.append_assoc, List.filter_append, List.filter_cons_of_neg (by simpa using hne),
        List.filter_nil, List.append_nil]
      exact hw.up

end Loopback

/-! ### The sizes -/

/-- What a data message adds to its packet: the header and the tag. -/
def OVERHEAD : ℕ := 32

/-- What boringtun adds to the packets, as long as those it has queued itself fit. -/
structure Overhead (tunn : Tunn T ω) (fits : T → Prop) : Prop where
  encapsulate : ∀ x t p, fits t → p.length ≤ INNER_MTU → fits (tunn.encapsulate x t p).2
    ∧ ∀ pkt, (tunn.encapsulate x t p).1 = .writeToNetwork pkt → pkt.length ≤ INNER_MTU + OVERHEAD
  decapsulate : ∀ x t d, fits t → fits (tunn.decapsulate x t d).2
    ∧ ∀ pkt, (tunn.decapsulate x t d).1 = .writeToNetwork pkt → pkt.length ≤ INNER_MTU + OVERHEAD
  updateTimers : ∀ x t, fits t → fits (tunn.updateTimers x t).2
    ∧ ∀ pkt, (tunn.updateTimers x t).1 = .writeToNetwork pkt → pkt.length ≤ INNER_MTU + OVERHEAD

/-- The packets that the inner tunnel has fit, and it leaves nothing to helper tasks. -/
structure Light (fits : T → Prop) (w : WgTunnel T × Wireguard.Ledger) : Prop where
  tunn : fits w.1.tunn
  spawned : w.2.spawned = []
  outbound : ∀ p ∈ w.1.outbound, p.length ≤ INNER_MTU
  lock : ∀ p, w.1.send = .lock p → p.length ≤ INNER_MTU
  made : ∀ t, ∀ pkt ∈ w.2.made t, pkt.length ≤ INNER_MTU + OVERHEAD

section Sizes

variable {tunn : Tunn T ω} {fits : T → Prop} {cfg : WgConfig} {s s' : WgTunnel T}
  {l : Wireguard.Ledger}

/-- One more datagram that boringtun made. -/
lemma Light.makes (h : Light fits (s, l)) {t : Wireguard.Task} {pkt : Bytes}
    (hpkt : pkt.length ≤ INNER_MTU + OVERHEAD) :
    ∀ t', ∀ pkt' ∈ (l.makes t pkt).made t', pkt'.length ≤ INNER_MTU + OVERHEAD := by
  intro t' pkt' hmem
  rw [Wireguard.Ledger.makes] at hmem
  dsimp only at hmem
  by_cases heq : t' = t
  · subst heq
    rw [Function.update_self, List.mem_append, List.mem_singleton] at hmem
    rcases hmem with hmem | rfl
    · exact h.made _ _ hmem
    · exact hpkt
  · rw [Function.update_of_ne heq] at hmem
    exact h.made _ _ hmem

lemma recvStep_light (hover : Overhead tunn fits) {e : Wireguard.RecvEv ω} (hl : Light fits (s, l))
    (h : Wireguard.recvStep tunn cfg s e = some s') :
    Light fits (s', Wireguard.seeRecv tunn s l e) := by
  simp only [Wireguard.recvStep] at h
  split at h
  · cases h
    exact ⟨hl.tunn, hl.spawned, hl.outbound, hl.lock, hl.made⟩
  · cases h
    exact ⟨hl.tunn, hl.spawned, hl.outbound, hl.lock, hl.made⟩
  · rename_i d x hpc
    obtain ⟨hfits, hsize⟩ := hover.decapsulate x s.tunn d hl.tunn
    rw [Wireguard.seeRecv, hpc]
    dsimp only at h ⊢
    cases hr : (tunn.decapsulate x s.tunn d).1 with
    | writeToNetwork pkt =>
        rw [hr] at h
        cases h
        exact ⟨hfits, hl.spawned, hl.outbound, hl.lock, hl.makes (hsize pkt hr)⟩
    | done | err | writeToTunnelV4 | writeToTunnelV6 =>
        rw [hr] at h
        cases h
        exact ⟨hfits, hl.spawned, hl.outbound, hl.lock, hl.made⟩
  · rename_i pkt ok hpc
    cases h
    obtain ⟨log, hlog⟩ := Wireguard.emit_eq s .recv pkt ok
    rw [hlog, Wireguard.seeRecv, hpc]
    exact ⟨hl.tunn, hl.spawned, hl.outbound, hl.lock, hl.made⟩
  · rename_i pkt ok hpc
    cases h
    rw [Wireguard.seeRecv, hpc]
    cases ok <;> exact ⟨hl.tunn, hl.spawned, hl.outbound, hl.lock, hl.made⟩
  · cases h

/-- The send task takes the packets of the channel, and sends no decoys. -/
lemma sendStep_light (hover : Overhead tunn fits) (hoff : cfg.aethernoize = .off)
    {e : Wireguard.SendEv ω} (hl : Light fits (s, l))
    (h : Wireguard.sendStep tunn cfg s e = some s') :
    Light fits (s', Wireguard.seeSend tunn cfg s l e) := by
  have hno : ¬ (!s.obfSent && cfg.aethernoize.isEnabled) = true := by
    rw [hoff, show AetherNoizeConfig.off.isEnabled = false from rfl, Bool.and_false]
    exact Bool.false_ne_true
  have hjunk : ¬ cfg.aethernoize.jcAfterHs > 0 := by
    rw [hoff]
    exact Nat.lt_irrefl 0
  simp only [Wireguard.sendStep] at h
  split at h
  · rw [Wireguard.seeSend]
    split at h
    · rename_i p rest hout
      cases h
      have hp : ∀ p' ∈ p :: rest, p'.length ≤ INNER_MTU := hout ▸ hl.outbound
      refine ⟨hl.tunn, hl.spawned, fun p' hp' => hp p' (List.mem_cons_of_mem p hp'), ?_, hl.made⟩
      rintro _ ⟨⟩
      exact hp p List.mem_cons_self
    · split at h
      · cases h
      · cases h
        exact ⟨hl.tunn, hl.spawned, hl.outbound, by rintro _ ⟨⟩, hl.made⟩
  · rename_i p x hpc
    obtain ⟨hfits, hsize⟩ := hover.encapsulate x s.tunn p hl.tunn (hl.lock p hpc)
    rw [Wireguard.seeSend, hpc]
    dsimp only
    have hmade : ∀ t, ∀ pkt ∈ l.made t, pkt.length ≤ INNER_MTU + OVERHEAD := hl.made
    cases hr : (tunn.encapsulate x s.tunn p).1 with
    | writeToNetwork pkt =>
        rw [hr] at h
        cases h
        exact ⟨hfits, hl.spawned, hl.outbound, by rintro _ ⟨⟩, hl.makes (hsize pkt hr)⟩
    | done | err | writeToTunnelV4 | writeToTunnelV6 =>
        rw [hr] at h
        cases h
        exact ⟨hfits, hl.spawned, hl.outbound, by rintro _ ⟨⟩, hmade⟩
  · rw [if_neg hno] at h
    cases h
    rw [Wireguard.seeSend, if_neg hno]
    exact ⟨hl.tunn, hl.spawned, hl.outbound, by rintro _ ⟨⟩, hl.made⟩
  · rename_i d junk pkt ok hpc
    cases h
    obtain ⟨log, hlog⟩ := Wireguard.emit_eq s .send d ok
    rw [hlog, Wireguard.seeSend, hpc]
    exact ⟨hl.tunn, hl.spawned, hl.outbound, by rintro _ ⟨⟩, hl.made⟩
  · rename_i pkt ok hpc
    cases h
    rw [Wireguard.seeSend, hpc]
    exact ⟨hl.tunn, hl.spawned, hl.outbound, by rintro _ ⟨⟩, hl.made⟩
  · rename_i pkt ok junk hpc
    obtain ⟨log, hlog⟩ := Wireguard.emit_eq s .send pkt ok
    rw [hlog, if_neg hjunk] at h
    cases h
    rw [Wireguard.seeSend, hpc]
    dsimp only
    rw [if_neg hjunk]
    exact ⟨hl.tunn, hl.spawned, hl.outbound, by rintro _ ⟨⟩, hl.made⟩
  · cases h

lemma timerStep_light (hover : Overhead tunn fits) (hoff : cfg.aethernoize = .off)
    {e : Wireguard.TimerEv ω} (hl : Light fits (s, l))
    (h : Wireguard.timerStep tunn cfg s e = some s') :
    Light fits (s', Wireguard.seeTimer tunn cfg s l e) := by
  have hno : ¬ cfg.aethernoize.isEnabled = true := by
    rw [hoff]
    exact Bool.false_ne_true
  simp only [Wireguard.timerStep] at h
  split at h
  · cases h
    exact ⟨hl.tunn, hl.spawned, hl.outbound, hl.lock, hl.made⟩
  · rename_i x junk hpc
    obtain ⟨hfits, hsize⟩ := hover.updateTimers x s.tunn hl.tunn
    rw [Wireguard.seeTimer]
    cases hr : (tunn.updateTimers x s.tunn).1 with
    | writeToNetwork pkt =>
        rw [hr] at h
        dsimp only at h ⊢
        rw [if_neg hno] at h ⊢
        cases h
        exact ⟨hfits, hl.spawned, hl.outbound, hl.lock, hl.makes (hsize pkt hr)⟩
    | done | err | writeToTunnelV4 | writeToTunnelV6 =>
        rw [hr] at h
        cases h
        exact ⟨hfits, hl.spawned, hl.outbound, hl.lock, hl.made⟩
  · rename_i pkt ok hpc
    cases h
    obtain ⟨log, hlog⟩ := Wireguard.emit_eq s .timer pkt ok
    rw [hlog, Wireguard.seeTimer, hpc]
    exact ⟨hl.tunn, hl.spawned, hl.outbound, hl.lock, hl.made⟩
  · cases h

/-- **The inner tunnel stays light** as long as its netstack gives it packets that fit. -/
lemma step_light (hover : Overhead tunn fits) (hoff : cfg.aethernoize = .off)
    {w w' : WgTunnel T × Wireguard.Ledger} {e : Wireguard.Ev ω} (hl : Light fits w)
    (hfit : ∀ p, e = .queue p → p.length ≤ INNER_MTU)
    (h : Wireguard.record tunn cfg w e = some w') : Light fits w' := by
  obtain ⟨s, l⟩ := w
  obtain ⟨s', hs', rfl⟩ := Option.map_eq_some_iff.mp h
  cases e with
  | recv e => exact recvStep_light hover hl hs'
  | send e => exact sendStep_light hover hoff hl hs'
  | timer e => exact timerStep_light hover hoff hl hs'
  | queue p =>
      rw [Wireguard.step, Option.ite_none_right_eq_some] at hs'
      obtain ⟨-, hs'⟩ := hs'
      cases hs'
      refine ⟨hl.tunn, hl.spawned, ?_, hl.lock, hl.made⟩
      intro p' hp'
      rcases List.mem_append.mp hp' with hp' | hp'
      · exact hl.outbound p' hp'
      · rw [List.mem_singleton.mp hp']
        exact hfit p rfl
  | helper i ok =>
      rw [Wireguard.step] at hs'
      split at hs'
      · rename_i t d junk hi
        have hhelper : s.helpers[i]? = some (t, d :: junk) := hi
        have hsee : Wireguard.see tunn cfg s l (.helper i ok) = l.tries (.helper i) d ok := by
          rw [Wireguard.see, hhelper]
        cases hs'
        obtain ⟨log, hlog⟩ := Wireguard.emit_eq s t d ok
        rw [hlog, hsee]
        exact ⟨hl.tunn, hl.spawned, hl.outbound, hl.lock, hl.made⟩
      · cases hs'
  | panics t =>
      cases t <;>
        (rw [Wireguard.step, Option.ite_none_right_eq_some] at hs'
         obtain ⟨-, hs'⟩ := hs'
         cases hs')
      · exact ⟨hl.tunn, hl.spawned, hl.outbound, hl.lock, hl.made⟩
      · exact ⟨hl.tunn, hl.spawned, hl.outbound, by rintro _ ⟨⟩, hl.made⟩
      · exact ⟨hl.tunn, hl.spawned, hl.outbound, hl.lock, hl.made⟩
  | run =>
      rw [Wireguard.step, Option.ite_none_right_eq_some] at hs'
      obtain ⟨-, hs'⟩ := hs'
      cases hs'
      exact ⟨hl.tunn, hl.spawned, hl.outbound, by rintro _ ⟨⟩, hl.made⟩
  | hangup | returns | aborts =>
      rw [Wireguard.step, Option.ite_none_right_eq_some] at hs'
      obtain ⟨-, hs'⟩ := hs'
      cases hs'
      exact ⟨hl.tunn, hl.spawned, hl.outbound, hl.lock, hl.made⟩

lemma length_injectClientId {clientId : Bytes} (hlen : clientId.length = 3) (pkt : Bytes) :
    (Wireguard.injectClientId pkt clientId).length = pkt.length := by
  rw [Wireguard.injectClientId, Wireguard.setReserved.eq_def]
  split
  · split
    · rfl
    · rw [List.cons_append, List.length_cons, List.length_append, hlen]
      simp only [List.length_cons]
      omega
  · rfl

/-- Without a profile, the tasks say what boringtun made, and nobody else says anything. -/
lemma said_due {w : WgTunnel T × Wireguard.Ledger} (hk : Wireguard.Kept cfg false w)
    (hl : Light fits w) (hoff : cfg.aethernoize = .off) (sp : Wireguard.Speaker) :
    (∃ t, sp = .task t ∧ w.2.said sp <+: w.2.due cfg t) ∨ w.2.said sp = [] := by
  have hno : cfg.aethernoize.isEnabled = false := by
    rw [hoff]
    rfl
  cases sp with
  | task t =>
      refine .inl ⟨t, rfl, ?_⟩
      cases t with
      | recv => exact hk.recv.said
      | send =>
          have hsaid := hk.send.said
          rwa [hk.send.uncovered (.inr hno), List.nil_append] at hsaid
      | timer => exact hk.timer.said hno
  | helper i =>
      refine .inr (hk.helpers.silent i ?_)
      rw [hl.spawned]
      exact Nat.zero_le i

/-- What the inner tunnel sends fits into one packet of the outer one, IPv6 and UDP headers
included. -/
lemma sent_fits {w : WgTunnel T × Wireguard.Ledger} (hk : Wireguard.Kept cfg false w)
    (hl : Light fits w) (hoff : cfg.aethernoize = .off) (hlen : cfg.clientId.length = 3)
    {pkt : Bytes} (hpkt : pkt ∈ sentOf w.1.log) : 40 + 8 + pkt.length ≤ TUNNEL_MTU := by
  rw [hk.log.sent, Wireguard.taken] at hpkt
  obtain ⟨⟨pkt, ok⟩, hmem, rfl⟩ := List.mem_map.mp hpkt
  obtain ⟨⟨sp, x⟩, hwire, rfl⟩ := List.mem_map.mp (List.mem_of_mem_filter hmem)
  have hsaid : pkt ∈ w.2.said sp :=
    List.mem_map.mpr ⟨(sp, pkt, ok), List.mem_filter.mpr ⟨hwire, decide_eq_true rfl⟩, rfl⟩
  rcases said_due hk hl hoff sp with ⟨t, -, hdue⟩ | hnone
  · obtain ⟨made, hmade, rfl⟩ := List.mem_map.mp (hdue.subset hsaid)
    have hsize := hl.made t made hmade
    rw [length_injectClientId hlen, TUNNEL_MTU]
    rw [INNER_MTU, OVERHEAD] at hsize
    omega
  · rw [hnone] at hsaid
    cases hsaid

end Sizes

/-! ### The whole run -/

/-- The inner netstack gives its tunnel packets of its own size. -/
def Packets (es : List (Step ω)) : Prop :=
  ∀ p carried, .inner (.queue p) carried ∈ es → p.length ≤ INNER_MTU

lemma answers_sublist (notes : List Note) :
    ((answers notes).map Prod.snd).Sublist ((replies notes).map Prod.fst) := by
  rw [answers]
  induction replies notes with
  | nil => exact List.Sublist.refl []
  | cons x xs ih =>
      obtain ⟨data, dst⟩ := x
      cases dst with
      | none => exact ih.cons data
      | some dst => exact ih.cons_cons data

lemma start_light {fits : T → Prop} {u : T} (hu : fits u) :
    Light fits (WgTunnel.start u false, .empty) where
  tunn := hu
  spawned := rfl
  outbound := by rintro _ ⟨⟩
  lock := by rintro _ ⟨⟩
  made := by rintro _ _ ⟨⟩

/-- A step of the three moves the inner tunnel by a step of its own, or not at all. -/
lemma move_light {tunn : Tunn T ω} {fits : T → Prop} {cfg : WgConfig} {sm : Smoltcp}
    {remote inside : SocketAddr} {w w' : World T} {e : Step ω} (hover : Overhead tunn fits)
    (hoff : cfg.aethernoize = .off) (hl : Light fits w.inner)
    (hfit : ∀ p carried, e = .inner (.queue p) carried → p.length ≤ INNER_MTU)
    (h : move tunn cfg sm remote inside w e = some w') : Light fits w'.inner := by
  cases e with
  | inner e carried =>
      obtain ⟨toInner, -, h⟩ := Option.bind_eq_some_iff.mp h
      obtain ⟨inner, hinner, rfl⟩ := Option.map_eq_some_iff.mp h
      exact step_light hover hoff hl (fun p heq => hfit p carried (heq ▸ rfl)) hinner
  | forwarder e carried =>
      obtain ⟨toForwarder, -, h⟩ := Option.bind_eq_some_iff.mp h
      obtain ⟨forwarder, -, rfl⟩ := Option.map_eq_some_iff.mp h
      exact hl
  | stray source data =>
      rw [move, Option.ite_none_left_eq_some] at h
      obtain ⟨-, h⟩ := h
      cases h
      exact hl

/-- **The inner tunnel goes through the outer one**, in every run of its tasks, the tasks of the
forwarder and the outer netstack, whatever the loopback loses and other processes send:

* what the outer netstack was given and will be is, in order and for the edge alone, what was read
  from the forwarder's socket; of this, what came from the inner tunnel is in the order in which it
  was sent;
* the inner tunnel says what boringtun made, with its client id, and no decoys;
* each of its datagrams fits into one packet of the outer tunnel;
* and what it has read came to the outer connection, in this order. -/
theorem nested_in_order (tunn : Tunn T ω) (fits : T → Prop) (hover : Overhead tunn fits)
    (cfg : WgConfig) (hoff : cfg.aethernoize = .off) (hlen : cfg.clientId.length = 3)
    (sm : Smoltcp) (remote inside : SocketAddr) (iface : Interface) (u : T) (hu : fits u)
    (es : List (Step ω)) (hpackets : Packets es) (w : World T)
    (h : run (move tunn cfg sm remote inside) (World.start u iface) es = some w) (id : ℕ)
    (hid : w.forwarder.1.conn = .opened id) :
    (∃ lost, w.forwarder.2.handled ++ (w.forwarder.1.dataIn.items
        ++ (w.forwarder.1.up.hand id remote ++ lost))
        = w.forwarder.2.read.map (fun x => .udp id remote x.2)
      ∧ (lost ≠ [] → w.forwarder.1.Ended))
    ∧ (((w.forwarder.2.read ++ w.toForwarder).filter (·.1 = inside)).map Prod.snd).Sublist
        (sentOf w.inner.1.log)
    ∧ (∀ sp, (∃ t, sp = .task t ∧ w.inner.2.said sp <+: w.inner.2.due cfg t)
      ∨ w.inner.2.said sp = [])
    ∧ (∀ pkt ∈ sentOf w.inner.1.log, 40 + 8 + pkt.length ≤ TUNNEL_MTU)
    ∧ (w.heard ++ w.toInner).Sublist (w.forwarder.2.conn.came.map Prod.snd) := by
  have hok : Meets (move tunn cfg sm remote inside)
      (fun _ e => ∀ p carried, e = .inner (.queue p) carried → p.length ≤ INNER_MTU)
      (World.start u iface) es := by
    refine meets_of_forall ?_
    rintro e he w p carried rfl
    exact hpackets p carried he
  have hinv : Joined cfg remote inside w ∧ Light fits w.inner := by
    refine run_invariant_of_meets (I := fun w => Joined cfg remote inside w ∧ Light fits w.inner)
      ?_ ⟨start_joined u iface, start_light hu⟩ hok h
    intro w e w' hw he hstep
    exact ⟨step_joined hw.1 hstep, move_light hover hoff hw.2 he hstep⟩
  obtain ⟨hj, hl⟩ := hinv
  have hk := hj.forwarder.kept hid
  obtain ⟨lost, heq, hlost⟩ := hk.upward
  obtain ⟨st, hst, hlive⟩ := Option.map_eq_some_iff.mp hk.alive
  refine ⟨⟨lost, heq, fun hne => (hlost hne).1⟩, hj.up, said_due hj.inner hl hoff,
    fun pkt => sent_fits hj.inner hl hoff hlen, ?_⟩
  have hout : (w.forwarder.2.out.map Prod.snd).Sublist
      ((answers w.forwarder.2.notes).map Prod.snd) := by
    rw [← hk.out]
    exact (List.sublist_append_left ..).map _
  have htaken : ((replies w.forwarder.2.notes).map Prod.fst).Sublist
      (w.forwarder.2.conn.taken.map Prod.snd) := by
    rw [← hk.replies]
    exact List.sublist_append_left ..
  have hcame : (w.forwarder.2.conn.taken.map Prod.snd).Sublist
      (w.forwarder.2.conn.came.map Prod.snd) := by
    rw [← hk.accounted.balanced st hst hlive]
    exact (List.sublist_append_left ..).map _
  exact ((((hj.down.trans (List.filter_sublist.map _)).trans hout).trans
    (answers_sublist _)).trans htaken).trans hcame

def nestedConfig : WgConfig := ⟨[7, 8, 9], .off⟩

lemma echoTunn_overhead : Overhead Wireguard.echoTunn fun _ => True where
  encapsulate _ _ p _ hp := by
    refine ⟨trivial, ?_⟩
    rintro _ ⟨⟩
    simp only [List.length_cons, INNER_MTU, OVERHEAD] at hp ⊢
    omega
  decapsulate _ _ _ _ := ⟨trivial, by rintro _ ⟨⟩⟩
  updateTimers _ _ _ := ⟨trivial, by rintro _ ⟨⟩; exact Nat.le_of_ble_eq_true rfl⟩

/-- A packet goes out through the forwarder, behind a stray datagram of the host, and a datagram of
the edge comes back. -/
def nestedRun : List (Step Unit) :=
  (sampleRelay.take 13).map (.forwarder · true)
    ++ [.inner .run true, .inner (.queue [1]) true, .stray sampleEdge [7],
      .inner (.send .packet) true, .inner (.send (.locked ())) true,
      .inner (.send (.obfuscate [])) true, .inner (.send (.sent true [])) true]
    ++ [.received (some (sampleEdge, [7])), .noted, .sent, .data true,
      .received (some (sampleInner, [4, 7, 8, 9, 1])), .noted, .sent, .data true, .reply, .looked,
      .answered].map (.forwarder · true)
    ++ [.inner (.recv (.datagram (.ok [9]))) true]

lemma nestedRun_packets : Packets nestedRun := by
  intro p carried hmem
  have hone : p = [1] ∧ carried = true := by
    simpa [nestedRun, -List.map_take] using hmem
  rw [hone.1]
  exact Nat.le_of_ble_eq_true rfl

theorem nested_in_order_sample : ∃ w,
    run (move Wireguard.echoTunn nestedConfig Netstack.stdSmoltcp sampleEdge sampleInner)
        (World.start () Netstack.sampleIface) nestedRun = some w
      ∧ w.forwarder.2.handled = [.udp 1 sampleEdge [7], .udp 1 sampleEdge [4, 7, 8, 9, 1]]
      ∧ sentOf w.inner.1.log = [[4, 7, 8, 9, 1]] ∧ w.heard = [[9]]
      ∧ (w.heard ++ w.toInner).Sublist (w.forwarder.2.conn.came.map Prod.snd)
      ∧ ∀ pkt ∈ sentOf w.inner.1.log, 40 + 8 + pkt.length ≤ TUNNEL_MTU := by
  obtain ⟨w, hw, hid, hhandled, hsent, hheard⟩ : ∃ w,
      run (move Wireguard.echoTunn nestedConfig Netstack.stdSmoltcp sampleEdge sampleInner)
          (World.start () Netstack.sampleIface) nestedRun = some w
        ∧ w.forwarder.1.conn = .opened 1
        ∧ w.forwarder.2.handled = [.udp 1 sampleEdge [7], .udp 1 sampleEdge [4, 7, 8, 9, 1]]
        ∧ sentOf w.inner.1.log = [[4, 7, 8, 9, 1]] ∧ w.heard = [[9]] :=
    ⟨_, rfl, rfl, rfl, rfl, rfl⟩
  obtain ⟨-, -, -, hsize, hdown⟩ := nested_in_order Wireguard.echoTunn (fun _ => True)
    echoTunn_overhead nestedConfig rfl rfl Netstack.stdSmoltcp sampleEdge sampleInner
    Netstack.sampleIface () trivial nestedRun nestedRun_packets w hw 1 hid
  exact ⟨w, hw, hhandled, hsent, hheard, hdown, hsize⟩

end Aether.WarpInWarp
