import Aether.Wireguard.Speakers

/-!
What a step of one task of a tunnel leaves alone.

* `Moves`: the rest of the tunnel and of its ledger, and what the step adds to them.
* `recvStep_moves`, `sendStep_moves`, `timerStep_moves`: the steps of the three tasks.
* `Moves.recvKept`, `Moves.sendKept`, `Moves.timerKept`: so the other tasks keep what they have to
  say.
-/

namespace Aether.Wireguard

variable {T ω : Type} {tunn : Tunn T ω} {cfg : WgConfig} {s s' : WgTunnel T} {l : Ledger}
  {obf : Bool}

/-! ### One step -/

/-- What a step of a task leaves alone, and what it adds: what the task says, what it hands to the
netstack, and the helper tasks that it spawns. -/
structure Moves (cfg : WgConfig) (t : Task) (s s' : WgTunnel T) (l l' : Ledger) : Prop where
  phase : s'.phase = s.phase
  recv : t ≠ .recv → s'.recv = s.recv ∧ l.SameIn l'
  send : t ≠ .send → (s'.send = s.send ∧ s'.obfSent = s.obfSent ∧ s'.outbound = s.outbound)
    ∧ l'.asked = l.asked ∧ l'.cover = l.cover
  timer : t ≠ .timer → s'.timer = s.timer
  made : ∀ t', t' ≠ t → l'.made t' = l.made t'
  queued : l'.queued = l.queued
  wire : ∃ spoke, l'.wire = l.wire ++ spoke.map (fun x => (Speaker.task t, x))
    ∧ sentOf s'.log = sentOf s.log ++ taken spoke
  handed : ∃ more, l'.handed = l.handed ++ more
    ∧ deliveredOf s'.log = deliveredOf s.log ++ taken more
  spawned : ∃ more, l'.spawned = l.spawned ++ more ∧ s'.helpers = s.helpers ++ more
    ∧ more.length ≤ 1 ∧ ∀ x ∈ more, x.1 = t ∧ (t = .send ∧ x.2.length = cfg.aethernoize.jcAfterHs
      ∨ t = .timer ∧ keepaliveJunk cfg.aethernoize (x.2.length - 1))

/-- A step of the recv task leaves the rest of the tunnel and of the ledger alone. -/
lemma moves_recv {l' : Ledger} (pc : RecvPc) (u : T) (log : List (Seen T))
    (hmade : ∀ t', t' ≠ .recv → l'.made t' = l.made t') (hqueued : l'.queued = l.queued)
    (hasked : l'.asked = l.asked ∧ l'.cover = l.cover) (hspawned : l'.spawned = l.spawned)
    (spoke more : List (Bytes × Bool))
    (hwire : l'.wire = l.wire ++ spoke.map (fun x => (Speaker.task .recv, x)))
    (hsent : sentOf log = sentOf s.log ++ taken spoke) (hhanded : l'.handed = l.handed ++ more)
    (hdelivered : deliveredOf log = deliveredOf s.log ++ taken more) :
    Moves cfg .recv s { s with recv := pc, tunn := u, log } l l' where
  phase := rfl
  recv h := absurd rfl h
  send _ := ⟨⟨rfl, rfl, rfl⟩, hasked⟩
  timer _ := rfl
  made := hmade
  queued := hqueued
  wire := ⟨spoke, hwire, hsent⟩
  handed := ⟨more, hhanded, hdelivered⟩
  spawned := ⟨[], by rw [hspawned, List.append_nil], (List.append_nil _).symm, Nat.zero_le _,
    by simp⟩

lemma sentOf_handled (u : T) (log : List (Seen T)) : sentOf (.handled u :: log) = sentOf log :=
  (sentOf_cons _ _).trans (List.append_nil _)

lemma deliveredOf_handled (u : T) (log : List (Seen T)) :
    deliveredOf (.handled u :: log) = deliveredOf log :=
  (deliveredOf_cons _ _).trans (List.append_nil _)

/-- The steps of the receiving task are moves of its. -/
lemma recvStep_moves {e : RecvEv ω} (hstep : recvStep tunn cfg s e = some s') :
    Moves cfg .recv s s' l (seeRecv tunn s l e) := by
  have hw : l.wire = l.wire ++ [] := (List.append_nil _).symm
  have hh : l.handed = l.handed ++ [] := (List.append_nil _).symm
  have hs : sentOf s.log = sentOf s.log ++ [] := (List.append_nil _).symm
  have hd : deliveredOf s.log = deliveredOf s.log ++ [] := (List.append_nil _).symm
  simp only [recvStep] at hstep
  split at hstep
  · cases hstep
    exact moves_recv _ _ s.log (fun _ _ => rfl) rfl ⟨rfl, rfl⟩ rfl [] [] hw hs hh hd
  · cases hstep
    exact moves_recv _ _ s.log (fun _ _ => rfl) rfl ⟨rfl, rfl⟩ rfl [] [] hw hs hh hd
  · rename_i d w hpc
    rw [seeRecv, hpc]
    dsimp only
    cases hr : (tunn.decapsulate w s.tunn d).1 with
    | done | err =>
        rw [hr] at hstep
        cases hstep
        exact moves_recv _ _ _ (fun _ _ => rfl) rfl ⟨rfl, rfl⟩ rfl [] [] hw
          ((sentOf_handled _ _).trans hs) hh ((deliveredOf_handled _ _).trans hd)
    | writeToNetwork pkt =>
        rw [hr] at hstep
        cases hstep
        exact moves_recv _ _ s.log (fun _ hne => Function.update_of_ne hne ..) rfl ⟨rfl, rfl⟩ rfl
          [] [] hw hs hh hd
    | writeToTunnelV4 | writeToTunnelV6 =>
        rw [hr] at hstep
        cases hstep
        exact moves_recv _ _ s.log (fun _ _ => rfl) rfl ⟨rfl, rfl⟩ rfl [] [] hw hs hh hd
  · rename_i pkt ok hpc
    rw [seeRecv, hpc]
    have hsent := emit_sent s .recv pkt ok
    have hdelivered := emit_delivered s .recv pkt ok
    obtain ⟨log, hlog⟩ := emit_eq s .recv pkt ok
    rw [hlog] at hstep hsent hdelivered
    cases hstep
    exact moves_recv _ _ _ (fun _ _ => rfl) rfl ⟨rfl, rfl⟩ rfl [(pkt, ok)] [] rfl
      ((sentOf_handled _ _).trans (hsent.trans (by rw [taken_singleton]))) hh
      ((deliveredOf_handled _ _).trans (hdelivered.trans hd))
  · rename_i pkt ok hpc
    rw [seeRecv, hpc]
    cases hstep
    cases ok with
    | true =>
        refine moves_recv _ _ _ (fun _ _ => rfl) rfl ⟨rfl, rfl⟩ rfl [] [(pkt, true)] hw ?_ rfl ?_
        · exact (sentOf_handled _ _).trans (sentOf_cons _ _)
        · exact (deliveredOf_handled _ _).trans (deliveredOf_cons _ _)
    | false =>
        exact moves_recv _ _ _ (fun _ _ => rfl) rfl ⟨rfl, rfl⟩ rfl [] [(pkt, false)] hw
          ((sentOf_handled _ _).trans hs) rfl ((deliveredOf_handled _ _).trans hd)
  · cases hstep

/-- So does a step of the send task. -/
lemma moves_send (cfg : WgConfig) (l l' : Ledger) (pc : SendPc) (outbound : List Bytes) (u : T)
    (obfSent : Bool) (log : List (Seen T)) (hmade : ∀ t', t' ≠ .send → l'.made t' = l.made t')
    (hqueued : l'.queued = l.queued) (hin : l.SameIn l') (spoke : List (Bytes × Bool))
    (more : List (Task × List Bytes))
    (hwire : l'.wire = l.wire ++ spoke.map (fun x => (Speaker.task .send, x)))
    (hsent : sentOf log = sentOf s.log ++ taken spoke)
    (hdelivered : deliveredOf log = deliveredOf s.log)
    (hspawned : l'.spawned = l.spawned ++ more) (hone : more.length ≤ 1)
    (hmore : ∀ x ∈ more, x.1 = .send ∧ x.2.length = cfg.aethernoize.jcAfterHs) :
    Moves cfg .send s { s with
      send := pc, outbound, tunn := u, obfSent, log, helpers := s.helpers ++ more } l l' where
  phase := rfl
  recv _ := ⟨rfl, hin⟩
  send h := absurd rfl h
  timer _ := rfl
  made := hmade
  queued := hqueued
  wire := ⟨spoke, hwire, hsent⟩
  handed := ⟨[], by rw [hin.handed, List.append_nil], hdelivered.trans (List.append_nil _).symm⟩
  spawned := ⟨more, hspawned, rfl, hone, fun x hx => ⟨(hmore x hx).1, .inl ⟨rfl, (hmore x hx).2⟩⟩⟩

/-- The steps of the sending task are moves of its. -/
lemma sendStep_moves {e : SendEv ω} (hstep : sendStep tunn cfg s e = some s') :
    Moves cfg .send s s' l (seeSend tunn cfg s l e) := by
  have hw : l.wire = l.wire ++ [] := (List.append_nil _).symm
  have hs : sentOf s.log = sentOf s.log ++ [] := (List.append_nil _).symm
  have hsp : l.spawned = l.spawned ++ [] := (List.append_nil _).symm
  have hnone : ∀ x ∈ ([] : List (Task × List Bytes)),
      x.1 = .send ∧ x.2.length = cfg.aethernoize.jcAfterHs := by simp
  -- a step that spawns no helper task
  have hquiet : ∀ (l' : Ledger) (pc : SendPc) (outbound : List Bytes) (u : T) (obfSent : Bool),
      (∀ t', t' ≠ .send → l'.made t' = l.made t') → l'.queued = l.queued → l.SameIn l' →
      l'.wire = l.wire → l'.spawned = l.spawned →
      Moves cfg .send s { s with send := pc, outbound, tunn := u, obfSent } l l' := by
    intro l' pc outbound u obfSent hmade hqueued hin hwire hspawned
    have h := moves_send cfg l l' pc outbound u obfSent s.log hmade hqueued hin [] []
      (hwire.trans hw) hs rfl (hspawned.trans hsp) (Nat.zero_le _) hnone
    rw [List.append_nil] at h
    exact h
  simp only [sendStep] at hstep
  split at hstep
  · rw [seeSend]
    split at hstep
    · cases hstep
      exact hquiet _ _ _ _ _ (fun _ _ => rfl) rfl ⟨rfl, rfl, rfl, rfl⟩ rfl rfl
    · split at hstep
      · cases hstep
      · cases hstep
        exact hquiet _ _ _ _ _ (fun _ _ => rfl) rfl ⟨rfl, rfl, rfl, rfl⟩ rfl rfl
  · rename_i p w hpc
    rw [seeSend, hpc]
    dsimp only
    cases hr : (tunn.encapsulate w s.tunn p).1 with
    | writeToNetwork pkt =>
        rw [hr] at hstep
        cases hstep
        exact hquiet _ _ _ _ _ (fun _ hne => Function.update_of_ne hne ..) rfl ⟨rfl, rfl, rfl, rfl⟩
          rfl rfl
    | done | err | writeToTunnelV4 | writeToTunnelV6 =>
        rw [hr] at hstep
        cases hstep
        exact hquiet _ _ _ _ _ (fun _ _ => rfl) rfl ⟨rfl, rfl, rfl, rfl⟩ rfl rfl
  · rw [seeSend]
    split at hstep
    · rename_i hfirst
      cases hstep
      rw [if_pos hfirst]
      exact hquiet _ _ _ _ _ (fun _ _ => rfl) rfl ⟨rfl, rfl, rfl, rfl⟩ rfl rfl
    · rename_i hlater
      cases hstep
      rw [if_neg hlater]
      exact hquiet _ _ _ _ _ (fun _ _ => rfl) rfl ⟨rfl, rfl, rfl, rfl⟩ rfl rfl
  · rename_i d junk pkt ok hpc
    rw [seeSend, hpc]
    have hsent := emit_sent s .send d ok
    have hdelivered := emit_delivered s .send d ok
    obtain ⟨log, hlog⟩ := emit_eq s .send d ok
    rw [hlog] at hstep hsent hdelivered
    cases hstep
    have h := moves_send cfg l (l.tries (.task .send) d ok) (.cover junk pkt) s.outbound s.tunn
      s.obfSent log (fun _ _ => rfl) rfl ⟨rfl, rfl, rfl, rfl⟩ [(d, ok)] [] rfl
      (hsent.trans (by rw [taken_singleton])) hdelivered hsp (Nat.zero_le _) hnone
    rw [List.append_nil] at h
    exact h
  · rename_i pkt ok hpc
    have hsee : seeSend tunn cfg s l (.covered ok) = l := by rw [seeSend, hpc]
    rw [hsee]
    cases hstep
    exact hquiet _ _ _ _ _ (fun _ _ => rfl) rfl ⟨rfl, rfl, rfl, rfl⟩ rfl rfl
  · rename_i pkt ok junk hpc
    rw [seeSend, hpc]
    have hsent := emit_sent s .send pkt ok
    have hdelivered := emit_delivered s .send pkt ok
    obtain ⟨log, hlog⟩ := emit_eq s .send pkt ok
    rw [hlog] at hstep hsent hdelivered
    dsimp only at hstep ⊢
    split at hstep
    · rename_i hjunk
      rw [Option.ite_none_right_eq_some] at hstep
      obtain ⟨hlen, hstep⟩ := hstep
      cases hstep
      rw [if_pos hjunk]
      exact moves_send cfg l ((l.tries (.task .send) pkt ok).spawns .send junk) .recv s.outbound
        s.tunn s.obfSent log (fun _ _ => rfl) rfl ⟨rfl, rfl, rfl, rfl⟩ [(pkt, ok)]
        [(.send, junk)] rfl
        (hsent.trans (by rw [taken_singleton])) hdelivered rfl (Nat.le_refl _)
        (by simpa using hlen)
    · rename_i hjunk
      cases hstep
      rw [if_neg hjunk]
      have h := moves_send cfg l (l.tries (.task .send) pkt ok) .recv s.outbound s.tunn s.obfSent
        log (fun _ _ => rfl) rfl ⟨rfl, rfl, rfl, rfl⟩ [(pkt, ok)] [] rfl
        (hsent.trans (by rw [taken_singleton])) hdelivered hsp (Nat.zero_le _) hnone
      rw [List.append_nil] at h
      exact h
  · cases hstep

/-- And a step of the timer task. -/
lemma moves_timer (cfg : WgConfig) (l l' : Ledger) (pc : TimerPc) (u : T) (log : List (Seen T))
    (hmade : ∀ t', t' ≠ .timer → l'.made t' = l.made t') (hqueued : l'.queued = l.queued)
    (hasked : l'.asked = l.asked ∧ l'.cover = l.cover) (hin : l.SameIn l')
    (spoke : List (Bytes × Bool)) (more : List (Task × List Bytes))
    (hwire : l'.wire = l.wire ++ spoke.map (fun x => (Speaker.task .timer, x)))
    (hsent : sentOf log = sentOf s.log ++ taken spoke)
    (hdelivered : deliveredOf log = deliveredOf s.log)
    (hspawned : l'.spawned = l.spawned ++ more) (hone : more.length ≤ 1)
    (hmore : ∀ x ∈ more, x.1 = .timer ∧ keepaliveJunk cfg.aethernoize (x.2.length - 1)) :
    Moves cfg .timer s { s with timer := pc, tunn := u, log, helpers := s.helpers ++ more }
      l l' where
  phase := rfl
  recv _ := ⟨rfl, hin⟩
  send _ := ⟨⟨rfl, rfl, rfl⟩, hasked⟩
  timer h := absurd rfl h
  made := hmade
  queued := hqueued
  wire := ⟨spoke, hwire, hsent⟩
  handed := ⟨[], by rw [hin.handed, List.append_nil], hdelivered.trans (List.append_nil _).symm⟩
  spawned := ⟨more, hspawned, rfl, hone, fun x hx => ⟨(hmore x hx).1, .inr ⟨rfl, (hmore x hx).2⟩⟩⟩

/-- The steps of the timer are moves of its. -/
lemma timerStep_moves {e : TimerEv ω} (hstep : timerStep tunn cfg s e = some s') :
    Moves cfg .timer s s' l (seeTimer tunn cfg s l e) := by
  have hw : l.wire = l.wire ++ [] := (List.append_nil _).symm
  have hs : sentOf s.log = sentOf s.log ++ [] := (List.append_nil _).symm
  have hsp : l.spawned = l.spawned ++ [] := (List.append_nil _).symm
  have hnone : ∀ x ∈ ([] : List (Task × List Bytes)),
      x.1 = .timer ∧ keepaliveJunk cfg.aethernoize (x.2.length - 1) := by simp
  -- a step that neither says anything nor spawns a helper task
  have hquiet : ∀ (l' : Ledger) (pc : TimerPc) (u : T),
      (∀ t', t' ≠ .timer → l'.made t' = l.made t') → l'.queued = l.queued →
      (l'.asked = l.asked ∧ l'.cover = l.cover) → l.SameIn l' → l'.wire = l.wire → l'.spawned = l.spawned →
      Moves cfg .timer s { s with timer := pc, tunn := u } l l' := by
    intro l' pc u hmade hqueued hasked hin hwire hspawned
    have h := moves_timer cfg l l' pc u s.log hmade hqueued hasked hin [] []
      (hwire.trans hw) hs rfl (hspawned.trans hsp) (Nat.zero_le _) hnone
    rw [List.append_nil] at h
    exact h
  simp only [timerStep] at hstep
  split at hstep
  · cases hstep
    exact hquiet _ _ _ (fun _ _ => rfl) rfl ⟨rfl, rfl⟩ ⟨rfl, rfl, rfl, rfl⟩ rfl rfl
  · rename_i w junk hpc
    rw [seeTimer]
    cases hr : (tunn.updateTimers w s.tunn).1 with
    | writeToNetwork pkt =>
        rw [hr] at hstep
        dsimp only at hstep ⊢
        split at hstep
        · rename_i hen
          rw [Option.ite_none_right_eq_some] at hstep
          obtain ⟨hlen, hstep⟩ := hstep
          cases hstep
          rw [if_pos hen]
          refine moves_timer cfg l ((l.makes .timer pkt).spawns .timer
            (junk ++ [injectClientId pkt cfg.clientId])) .tick _ s.log
            (fun _ hne => Function.update_of_ne hne ..) rfl ⟨rfl, rfl⟩ ⟨rfl, rfl, rfl, rfl⟩ []
            [(.timer, junk ++ [injectClientId pkt cfg.clientId])] hw hs rfl rfl
            (Nat.le_refl _) ?_
          simpa using hlen
        · rename_i hno
          cases hstep
          rw [if_neg hno]
          exact hquiet _ _ _ (fun _ hne => Function.update_of_ne hne ..) rfl ⟨rfl, rfl⟩
            ⟨rfl, rfl, rfl, rfl⟩ rfl rfl
    | done | err | writeToTunnelV4 | writeToTunnelV6 =>
        rw [hr] at hstep
        cases hstep
        exact hquiet _ _ _ (fun _ _ => rfl) rfl ⟨rfl, rfl⟩ ⟨rfl, rfl, rfl, rfl⟩ rfl rfl
  · rename_i pkt ok hpc
    rw [seeTimer, hpc]
    have hsent := emit_sent s .timer pkt ok
    have hdelivered := emit_delivered s .timer pkt ok
    obtain ⟨log, hlog⟩ := emit_eq s .timer pkt ok
    rw [hlog] at hstep hsent hdelivered
    cases hstep
    have h := moves_timer cfg l (l.tries (.task .timer) pkt ok) .tick s.tunn log
      (fun _ _ => rfl) rfl ⟨rfl, rfl⟩ ⟨rfl, rfl, rfl, rfl⟩ [(pkt, ok)] []
      rfl (hsent.trans (by rw [taken_singleton])) hdelivered hsp (Nat.zero_le _) hnone
    rw [List.append_nil] at h
    exact h
  · cases hstep

namespace Moves

variable {t : Task} {l' : Ledger}

/-- A task puts nothing into the mouth of another speaker. -/
lemma said (h : Moves cfg t s s' l l') {sp : Speaker} (hne : sp ≠ .task t) :
    l'.said sp = l.said sp := by
  obtain ⟨spoke, hwire, -⟩ := h.wire
  have hnone : (spoke.map (fun x => (Speaker.task t, x))).filter (·.1 = sp) = [] := by
    rw [List.filter_eq_nil_iff]
    intro x hx
    obtain ⟨y, -, rfl⟩ := List.mem_map.mp hx
    simpa using Ne.symm hne
  rw [Ledger.said, Ledger.said, hwire, List.filter_append, hnone, List.append_nil]

/-- Nor does it owe anything for another task. -/
lemma due (h : Moves cfg t s s' l l') {t' : Task} (hne : t' ≠ t) :
    l'.due cfg t' = l.due cfg t' := by
  rw [Ledger.due, Ledger.due, h.made t' hne]

/-- Only the timer keeps alive. -/
lemma keepalives (h : Moves cfg t s s' l l') (hne : t ≠ .timer) :
    l'.keepalives = l.keepalives := by
  obtain ⟨more, hspawned, -, -, hmore⟩ := h.spawned
  have hnone : more.filterMap (fun x => if x.1 = .timer then x.2.getLast? else none) = [] := by
    rw [List.filterMap_eq_nil_iff]
    intro x hx
    rw [(hmore x hx).1]
    exact if_neg hne
  rw [Ledger.keepalives, Ledger.keepalives, hspawned, List.filterMap_append, hnone,
    List.append_nil]

lemma helpers (h : Moves cfg t s s' l l') (hk : HelpersKept cfg s l) : HelpersKept cfg s' l' := by
  obtain ⟨more, hspawned, hhelpers, hone, hmore⟩ := h.spawned
  have hsaid : ∀ i, l'.said (.helper i) = l.said (.helper i) :=
    fun i => h.said (fun heq => by cases heq)
  match more, hone with
  | [], _ =>
      rw [List.append_nil] at hspawned hhelpers
      exact hk.of_same hhelpers hspawned hsaid
  | [(t', ds)], _ =>
      obtain ⟨rfl, hbound⟩ := hmore (t', ds) List.mem_cons_self
      have hnew := hk.spawn hhelpers hbound
      exact hnew.of_same rfl hspawned hsaid

/-- The log keeps what the socket and the netstack took. -/
lemma log (h : Moves cfg t s s' l l') (hk : LogKept s l) : LogKept s' l' where
  sent := by
    obtain ⟨spoke, hwire, hsent⟩ := h.wire
    have hpairs : (spoke.map (fun x => (Speaker.task t, x))).map Prod.snd = spoke := by
      rw [List.map_map]
      exact List.map_id spoke
    rw [hsent, hwire, hk.sent, List.map_append, taken_append, hpairs]
  delivered := by
    obtain ⟨more, hhanded, hdelivered⟩ := h.handed
    rw [hdelivered, hhanded, hk.delivered, taken_append]

lemma recvKept (h : Moves cfg t s s' l l') (hne : t ≠ .recv) (hk : RecvKept cfg s l) :
    RecvKept cfg s' l' := by
  obtain ⟨hrecv, hin⟩ := h.recv hne
  exact hk.of_same hrecv (fun hi => h.phase ▸ hi)
    (h.said fun heq => hne (Speaker.task.inj heq).symm) (h.made _ hne.symm) hin

lemma sendKept (h : Moves cfg t s s' l l') (hne : t ≠ .send) (hk : SendKept cfg obf s l) :
    SendKept cfg obf s' l' := by
  obtain ⟨⟨hsend, hobf, hout⟩, hasked, hcover⟩ := h.send hne
  exact hk.of_same hsend hobf (fun hi => h.phase ▸ hi)
    (h.said fun heq => hne (Speaker.task.inj heq).symm) (h.due hne.symm) hcover hasked
    ⟨[], by rw [h.queued, List.append_nil], by rw [hout, List.append_nil]⟩

lemma timerKept (h : Moves cfg t s s' l l') (hne : t ≠ .timer) (hk : TimerKept cfg s l) :
    TimerKept cfg s' l' :=
  hk.of_same (h.timer hne) (fun hi => h.phase ▸ hi)
    (h.said fun heq => hne (Speaker.task.inj heq).symm) (h.due hne.symm) (h.keepalives hne)

end Moves

end Aether.Wireguard
