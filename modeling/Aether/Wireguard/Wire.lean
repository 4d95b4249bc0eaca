import Aether.Wireguard.Moves
import Mathlib.Data.List.Forall2

/-!
What a tunnel says on the wire, in every interleaving of its tasks.

* `step_kept`: what every step keeps, of all speakers.
* `spoken_in_order`: each speaker says what it has been given, in order and once: boringtun's
  datagrams with the client id, behind the datagrams of `apply_obfuscation` if these have not been
  sent before, and decoys in the helper tasks alone.
-/

namespace Aether.Wireguard

open Machine

variable {T ω : Type} {tunn : Tunn T ω} {cfg : WgConfig} {s s' : WgTunnel T} {l : Ledger}
  {obf : Bool}

/-! ### All speakers -/

/-- What every step keeps, for a tunnel whose flag was this at the start. -/
structure Kept (cfg : WgConfig) (obf : Bool) (w : WgTunnel T × Ledger) : Prop where
  recv : RecvKept cfg w.1 w.2
  send : SendKept cfg obf w.1 w.2
  timer : TimerKept cfg w.1 w.2
  helpers : HelpersKept cfg w.1 w.2
  log : LogKept w.1 w.2

lemma start_kept (u : T) : Kept cfg obf (WgTunnel.start u obf, .empty) where
  recv := .of_all (fun _ => rfl) rfl rfl rfl ⟨rfl, rfl⟩
  send := ⟨fun _ => rfl, List.prefix_rfl, List.prefix_rfl, fun _ => rfl, fun _ => rfl,
    fun _ _ => ⟨rfl, rfl⟩, (fun h => by cases h), id, fun _ => rfl⟩
  timer := .of_all (fun _ => rfl) (fun _ => rfl) fun _ => ⟨rfl, rfl, rfl⟩
  helpers := ⟨rfl, (fun _ _ _ h => by cases h), fun _ _ => rfl, (fun _ h => by cases h)⟩
  log := ⟨rfl, rfl⟩

/-- A task ends, with what it still has in hand. -/
lemma panics_kept {t : Task} {w : WgTunnel T × Ledger} (hk : Kept cfg obf w)
    (h : step tunn cfg w.1 (.panics t) = some s') : Kept cfg obf (s', w.2) := by
  obtain ⟨s, l⟩ := w
  obtain ⟨hrecv, hsend, htimer, hhelpers, hlog⟩ := hk
  have hsame : ∃ more, l.queued = l.queued ++ more ∧ s.outbound = s.outbound ++ more :=
    ⟨[], (List.append_nil _).symm, (List.append_nil _).symm⟩
  cases t with
  | recv =>
      rw [step, Option.ite_none_right_eq_some] at h
      obtain ⟨hne, h⟩ := h
      cases h
      have hrun : ∀ {P : Prop}, s.phase = .idle → P := fun hi => absurd (hrecv.idle hi) hne
      refine ⟨⟨fun _ => rfl, hrecv.said, hrecv.handed, hrecv.received, hrecv.answers, ?_, ?_, ?_⟩,
        ?_, ?_, ?_, ?_⟩
      · exact fun halive => hrun (halive.resolve_right fun hno => hno rfl)
      · exact fun halive => hrun (halive.resolve_right fun hno => hno rfl)
      · exact fun halive => hrun (halive.resolve_right fun hno => hno rfl)
      · exact hsend.of_same rfl rfl id rfl rfl rfl rfl hsame
      · exact htimer.of_same rfl id rfl rfl rfl
      · exact hhelpers.of_same rfl rfl fun _ => rfl
      · exact ⟨hlog.sent, hlog.delivered⟩
  | send =>
      rw [step, Option.ite_none_right_eq_some] at h
      obtain ⟨hne, h⟩ := h
      cases h
      have hrun : ∀ {P : Prop}, s.phase = .idle → P := fun hi => absurd (hsend.idle hi) hne
      refine ⟨?_, ⟨fun _ => rfl, hsend.said, hsend.asked, ?_, ?_, hsend.fresh, ?_, hsend.flag,
        hsend.uncovered⟩, ?_, ?_, ?_⟩
      · exact hrecv.of_same rfl id rfl rfl ⟨rfl, rfl, rfl, rfl⟩
      · exact fun halive => hrun (halive.resolve_right fun hno => hno rfl)
      · exact fun halive => hrun (halive.resolve_right fun hno => hno rfl)
      · exact fun hs => by cases hs
      · exact htimer.of_same rfl id rfl rfl rfl
      · exact hhelpers.of_same rfl rfl fun _ => rfl
      · exact ⟨hlog.sent, hlog.delivered⟩
  | timer =>
      rw [step, Option.ite_none_right_eq_some] at h
      obtain ⟨hne, h⟩ := h
      cases h
      have hrun : ∀ {P : Prop}, s.phase = .idle → P := fun hi => absurd (htimer.idle hi) hne
      refine ⟨?_, ?_, ⟨fun _ => rfl, htimer.said, ?_, ?_⟩, ?_, ?_⟩
      · exact hrecv.of_same rfl id rfl rfl ⟨rfl, rfl, rfl, rfl⟩
      · exact hsend.of_same rfl rfl id rfl rfl rfl rfl hsame
      · exact fun _ halive => hrun (halive.resolve_right fun hno => hno rfl)
      · exact fun hen => ⟨(htimer.left hen).1, rfl, (htimer.left hen).2.2⟩
      · exact hhelpers.of_same rfl rfl fun _ => rfl
      · exact ⟨hlog.sent, hlog.delivered⟩

/-- The tasks begin with nothing in hand. -/
lemma run_kept {w : WgTunnel T × Ledger} (hk : Kept cfg obf w)
    (h : step tunn cfg w.1 .run = some s') : Kept cfg obf (s', w.2) := by
  obtain ⟨s, l⟩ := w
  obtain ⟨hrecv, hsend, htimer, hhelpers, hlog⟩ := hk
  rw [step, Option.ite_none_right_eq_some] at h
  obtain ⟨hi, h⟩ := h
  cases h
  have hsaid := hrecv.saidAll (.inl hi)
  have hhanded := hrecv.handedAll (.inl hi)
  have hreceived := hrecv.receivedAll (.inl hi)
  have hsent := hsend.saidAll (.inl hi)
  have hasked := hsend.askedAll (.inl hi)
  rw [hrecv.idle hi] at hsaid hhanded hreceived
  rw [hsend.idle hi] at hsent hasked
  refine ⟨.of_all (fun h => by cases h) hsaid hhanded hreceived hrecv.answers, ?_, ?_, ?_, ?_⟩
  · exact hsend.of_all (fun h => by cases h) hsent hasked hsend.fresh (fun hs => by cases hs) id
      hsend.uncovered
  · refine .of_all (fun h => by cases h) (fun hen => ?_) fun hen => ?_
    · have hticked := htimer.saidAll hen (.inl hi)
      rw [htimer.idle hi] at hticked
      exact hticked
    · exact ⟨(htimer.left hen).1, rfl, (htimer.left hen).2.2⟩
  · exact hhelpers.of_same rfl rfl fun _ => rfl
  · exact ⟨hlog.sent, hlog.delivered⟩

/-- A step that belongs to no task, but for packets that enter the channel. -/
lemma Kept.of_same {w w' : WgTunnel T × Ledger} (hk : Kept cfg obf w)
    (htasks : w'.1.recv = w.1.recv ∧ w'.1.send = w.1.send ∧ w'.1.timer = w.1.timer)
    (hphase : w'.1.phase = .idle → w.1.phase = .idle)
    (hstate : w'.1.obfSent = w.1.obfSent ∧ w'.1.helpers = w.1.helpers ∧ w'.1.log = w.1.log)
    (more : List Bytes) (hout : w'.1.outbound = w.1.outbound ++ more)
    (hledger : w'.2 = { w.2 with queued := w.2.queued ++ more }) : Kept cfg obf w' := by
  obtain ⟨s, l⟩ := w
  obtain ⟨s', l'⟩ := w'
  obtain ⟨hrecv, hsend, htimer, hhelpers, hlog⟩ := hk
  dsimp only at hledger
  subst hledger
  refine ⟨?_, ?_, ?_, ?_, ?_⟩
  · exact hrecv.of_same htasks.1 hphase rfl rfl ⟨rfl, rfl, rfl, rfl⟩
  · exact hsend.of_same htasks.2.1 hstate.1 hphase rfl rfl rfl rfl ⟨more, rfl, hout⟩
  · exact htimer.of_same htasks.2.2 hphase rfl rfl rfl
  · exact hhelpers.of_same hstate.2.1 rfl fun _ => rfl
  · refine ⟨?_, ?_⟩
    · rw [hstate.2.2]
      exact hlog.sent
    · rw [hstate.2.2]
      exact hlog.delivered

/-- A helper task says its next datagram. -/
lemma helper_kept {i : ℕ} {ok : Bool} {w : WgTunnel T × Ledger} (hk : Kept cfg obf w)
    (h : step tunn cfg w.1 (.helper i ok) = some s') :
    Kept cfg obf (s', see tunn cfg w.1 w.2 (.helper i ok : Ev ω)) := by
  obtain ⟨s, l⟩ := w
  obtain ⟨hrecv, hsend, htimer, hhelpers, hlog⟩ := hk
  rw [step] at h
  split at h
  · rename_i t d junk hi
    have hsent := emit_sent s t d ok
    have hdelivered := emit_delivered s t d ok
    obtain ⟨log, heq⟩ := emit_eq s t d ok
    rw [heq] at h hsent hdelivered
    cases h
    have hsee : see tunn cfg s l (.helper i ok : Ev ω) = l.tries (.helper i) d ok := by
      rw [see, hi]
    rw [hsee]
    have hsaid : ∀ t, (l.tries (.helper i) d ok).said (.task t) = l.said (.task t) := by
      intro t
      rw [Ledger.said_tries, if_neg (fun heq => by cases heq), List.append_nil]
    refine ⟨?_, ?_, ?_, hhelpers.speak hi rfl, ?_, ?_⟩
    · exact hrecv.of_same rfl id (hsaid _) rfl ⟨rfl, rfl, rfl, rfl⟩
    · exact hsend.of_same rfl rfl id (hsaid _) rfl rfl rfl
        ⟨[], (List.append_nil _).symm, (List.append_nil _).symm⟩
    · exact htimer.of_same rfl id (hsaid _) rfl rfl
    · rw [hsent, hlog.sent, Ledger.tries, List.map_append, taken_append]
      exact congrArg (_ ++ ·) (taken_singleton d ok).symm
    · exact hdelivered.trans hlog.delivered
  · cases h

/-- **What every step keeps.** -/
lemma step_kept {w w' : WgTunnel T × Ledger} {e : Ev ω} (hk : Kept cfg obf w)
    (h : record tunn cfg w e = some w') : Kept cfg obf w' := by
  obtain ⟨s', hs', rfl⟩ := Option.map_eq_some_iff.mp h
  cases e with
  | run => exact run_kept hk hs'
  | queue p =>
      rw [step, Option.ite_none_right_eq_some] at hs'
      obtain ⟨-, hs'⟩ := hs'
      cases hs'
      exact hk.of_same ⟨rfl, rfl, rfl⟩ id ⟨rfl, rfl, rfl⟩ [p] rfl rfl
  | hangup =>
      rw [step, Option.ite_none_right_eq_some] at hs'
      obtain ⟨-, hs'⟩ := hs'
      cases hs'
      exact hk.of_same ⟨rfl, rfl, rfl⟩ id ⟨rfl, rfl, rfl⟩ [] (List.append_nil _).symm
        (by rw [List.append_nil]; rfl)
  | recv e =>
      have hm := recvStep_moves (l := w.2) hs'
      exact ⟨recvStep_kept hk.recv hs', hm.sendKept (by decide) hk.send,
        hm.timerKept (by decide) hk.timer, hm.helpers hk.helpers, hm.log hk.log⟩
  | send e =>
      have hm := sendStep_moves (l := w.2) hs'
      exact ⟨hm.recvKept (by decide) hk.recv, sendStep_kept hk.send hs',
        hm.timerKept (by decide) hk.timer, hm.helpers hk.helpers, hm.log hk.log⟩
  | timer e =>
      have hm := timerStep_moves (l := w.2) hs'
      exact ⟨hm.recvKept (by decide) hk.recv, hm.sendKept (by decide) hk.send,
        timerStep_kept hk.timer hs', hm.helpers hk.helpers, hm.log hk.log⟩
  | helper i ok => exact helper_kept hk hs'
  | panics t => exact panics_kept hk hs'
  | returns =>
      rw [step, Option.ite_none_right_eq_some] at hs'
      obtain ⟨-, hs'⟩ := hs'
      cases hs'
      exact hk.of_same ⟨rfl, rfl, rfl⟩ (fun hi => by cases hi) ⟨rfl, rfl, rfl⟩ []
        (List.append_nil _).symm (by rw [List.append_nil]; rfl)
  | aborts =>
      rw [step, Option.ite_none_right_eq_some] at hs'
      obtain ⟨-, hs'⟩ := hs'
      cases hs'
      exact hk.of_same ⟨rfl, rfl, rfl⟩ (fun hi => by cases hi) ⟨rfl, rfl, rfl⟩ []
        (List.append_nil _).symm (by rw [List.append_nil]; rfl)

/-! ### The whole run -/

/-- A message of WireGuard has one of its types, and room for the reserved bytes. -/
def IsMessage (pkt : Bytes) : Prop :=
  ∃ ty x y z rest, pkt = ty :: x :: y :: z :: rest ∧ wgMsgTypeMin ≤ ty ∧ ty ≤ wgMsgTypeMax

/-- How a datagram goes out: a message with the client id for its reserved bytes, and all else as
boringtun made it. -/
structure Carries (clientId made pkt : Bytes) : Prop where
  message : IsMessage made → pkt = made.take 1 ++ clientId ++ made.drop 4
  other : ¬ IsMessage made → pkt = made

lemma carries_inject (clientId pkt : Bytes) :
    Carries clientId pkt (injectClientId pkt clientId) := by
  rw [injectClientId, setReserved.eq_def]
  split
  · rename_i ty x y z rest
    split
    · rename_i hty
      refine ⟨?_, fun _ => rfl⟩
      rintro ⟨_, _, _, _, _, heq, hmin, hmax⟩
      cases heq
      rcases hty with hty | hty
      · exact absurd hmin (UInt8.not_le.mpr hty)
      · exact absurd hmax (UInt8.not_le.mpr hty)
    · rename_i hty
      obtain ⟨hmin, hmax⟩ := not_or.mp hty
      refine ⟨fun _ => rfl, fun hno => absurd ?_ hno⟩
      exact ⟨ty, x, y, z, rest, rfl, UInt8.not_lt.mp hmin, UInt8.not_lt.mp hmax⟩
  · rename_i hshort
    refine ⟨?_, fun _ => rfl⟩
    rintro ⟨ty, x, y, z, rest, heq, -⟩
    exact absurd heq (hshort ty x y z rest)

/-- The peer takes the client id off, and has what boringtun made. -/
lemma strip_inject {clientId : Bytes} (hlen : clientId.length = 3) (pkt : Bytes) :
    stripClientId (injectClientId pkt clientId) = stripClientId pkt := by
  match clientId, hlen with
  | [a, b, c], _ =>
    rw [stripClientId, stripClientId, injectClientId, setReserved.eq_def pkt [a, b, c]]
    split
    · rename_i ty x y z rest
      split
      · rfl
      · rename_i hty
        show setReserved (ty :: a :: b :: c :: rest) [0, 0, 0] = _
        rw [setReserved, setReserved, if_neg hty, if_neg hty]
    · rfl

lemma due_carries (cfg : WgConfig) (l : Ledger) (t : Task) :
    List.Forall₂ (Carries cfg.clientId) (l.made t) (l.due cfg t) := by
  rw [Ledger.due, List.forall₂_map_right_iff]
  exact List.forall₂_same.mpr fun pkt _ => carries_inject cfg.clientId pkt

lemma strip_due (hlen : cfg.clientId.length = 3) (l : Ledger) (t : Task)
    (hzero : ∀ pkt ∈ l.made t, stripClientId pkt = pkt) :
    (l.due cfg t).map stripClientId = l.made t :=
  calc (l.due cfg t).map stripClientId
      = (l.made t).map fun pkt => stripClientId (injectClientId pkt cfg.clientId) :=
        List.map_map
    _ = (l.made t).map id :=
        List.map_congr_left fun pkt hpkt => (strip_inject hlen pkt).trans (hzero pkt hpkt)
    _ = l.made t := List.map_id _

/-- **Each speaker says what it has been given, in order and once**, in every interleaving of the
tasks, whatever boringtun answers, the socket refuses, and whichever task ends:

* what the socket and the netstack took is what they were given, but for what they refused;
* the recv task gives boringtun the datagrams of the socket in their order, says what it answers to
  each of them, and hands on what it finds;
* the send task gives boringtun the packets in the order of the channel, and says the datagrams of
  `apply_obfuscation`, if any, and then boringtun's; there are none if they had been sent before or
  are disabled;
* the timer says boringtun's datagrams, or leaves each to a helper task, which says it last;
* a helper task says decoys besides, no more than the configuration has;
* and what boringtun made goes out with the client id, and comes out of it again where boringtun
  leaves the reserved bytes zero.

A task that goes on has said all but what it has in hand, and so has every helper task. -/
theorem spoken_in_order (tunn : Tunn T ω) (cfg : WgConfig) (hlen : cfg.clientId.length = 3) (u : T)
    (obf : Bool) (es : List (Ev ω)) (w : WgTunnel T × Ledger)
    (h : Machine.run (record tunn cfg) (WgTunnel.start u obf, .empty) es = some w) :
    (sentOf w.1.log = taken (w.2.wire.map Prod.snd) ∧ deliveredOf w.1.log = taken w.2.handed)
    ∧ (w.2.answered.map Prod.fst <+: w.2.received.map stripClientId
      ∧ w.2.made .recv = w.2.answered.filterMap (·.2.network)
      ∧ w.2.opened = w.2.answered.filterMap (·.2.packet)
      ∧ w.2.said (.task .recv) <+: w.2.due cfg .recv ∧ w.2.handed.map Prod.fst <+: w.2.opened
      ∧ (w.1.recv ≠ .gone →
        w.2.answered.map Prod.fst ++ w.1.recv.holding = w.2.received.map stripClientId
        ∧ w.2.said (.task .recv) ++ w.1.recv.saying = w.2.due cfg .recv
        ∧ w.2.handed.map Prod.fst ++ w.1.recv.handing = w.2.opened))
    ∧ (w.2.said (.task .send) <+: w.2.cover ++ w.2.due cfg .send ∧ w.2.asked <+: w.2.queued
      ∧ (w.1.send ≠ .gone →
        w.2.said (.task .send) ++ w.1.send.saying = w.2.cover ++ w.2.due cfg .send
        ∧ w.2.asked ++ w.1.send.asking ++ w.1.outbound = w.2.queued)
      ∧ (obf = true ∨ cfg.aethernoize.isEnabled = false → w.2.cover = []))
    ∧ (if cfg.aethernoize.isEnabled then
        w.2.said (.task .timer) = [] ∧ w.2.keepalives = w.2.due cfg .timer
      else w.2.said (.task .timer) <+: w.2.due cfg .timer
        ∧ (w.1.timer ≠ .gone →
          w.2.said (.task .timer) ++ w.1.timer.saying = w.2.due cfg .timer))
    ∧ (∀ i t ds, w.2.spawned[i]? = some (t, ds) →
      ∃ rest, w.1.helpers[i]? = some (t, rest) ∧ w.2.said (.helper i) ++ rest = ds)
    ∧ (∀ i, w.2.spawned[i]? = none → w.2.said (.helper i) = [])
    ∧ (∀ x ∈ w.2.spawned, x.1 = .send ∧ x.2.length = cfg.aethernoize.jcAfterHs
      ∨ x.1 = .timer ∧ keepaliveJunk cfg.aethernoize (x.2.length - 1))
    ∧ ∀ t, List.Forall₂ (Carries cfg.clientId) (w.2.made t) (w.2.due cfg t)
      ∧ ((∀ pkt ∈ w.2.made t, stripClientId pkt = pkt) →
        (w.2.due cfg t).map stripClientId = w.2.made t) := by
  have hk : Kept cfg obf w :=
    run_invariant (I := Kept cfg obf) (fun _ _ _ hk hs => step_kept hk hs) (start_kept u) h
  refine ⟨⟨hk.log.sent, hk.log.delivered⟩,
    ⟨hk.recv.received, hk.recv.answers.1, hk.recv.answers.2, hk.recv.said, hk.recv.handed, ?_⟩,
    ⟨hk.send.said, hk.send.asked, ?_, hk.send.uncovered⟩, ?_, hk.helpers.kept, ?_,
    hk.helpers.bounded, ?_⟩
  · exact fun halive => ⟨hk.recv.receivedAll (.inr halive), hk.recv.saidAll (.inr halive),
      hk.recv.handedAll (.inr halive)⟩
  · exact fun halive => ⟨hk.send.saidAll (.inr halive), hk.send.askedAll (.inr halive)⟩
  · split
    · rename_i hen
      exact ⟨(hk.timer.left hen).1, (hk.timer.left hen).2.2⟩
    · rename_i hno
      have hoff := Bool.eq_false_iff.mpr hno
      exact ⟨hk.timer.said hoff, fun halive => hk.timer.saidAll hoff (.inr halive)⟩
  · exact fun i hi => hk.helpers.silent i (List.getElem?_eq_none_iff.mp hi)
  · exact fun t => ⟨due_carries cfg w.2 t, strip_due hlen w.2 t⟩

/-- A protocol object that answers each datagram, sends each packet behind a header, and keeps the
peer alive. -/
def echoTunn : Tunn Unit Unit where
  encapsulate _ t p := (.writeToNetwork (4 :: 0 :: 0 :: 0 :: p), t)
  decapsulate _ t d := (.writeToTunnelV4 (d.drop 4), t)
  updateTimers _ t := (.writeToNetwork [4, 0, 0, 0], t)

def echoConfig : WgConfig := ⟨[7, 8, 9], { AetherNoizeConfig.off with jc := 1, jcAfterHs := 1 }⟩

/-- Two packets go out behind one datagram of `apply_obfuscation`, a decoy follows the first, a
datagram comes in, and a keepalive goes out behind its decoy. -/
def echoRun : List (Ev Unit) :=
  [.run, .queue [1], .queue [2], .send .packet, .send (.locked ()), .send (.obfuscate [[5, 5]]),
    .send (.covered true), .send (.covered true), .send (.sent true [[6]]), .send .packet,
    .recv (.datagram (.ok [4, 1, 1, 1, 3])), .recv (.locked ()), .recv (.delivered true),
    .timer .tick, .timer (.locked () [[6, 6]]), .helper 0 true, .send (.locked ()),
    .send (.obfuscate []), .helper 1 true, .send (.sent false [[6]]), .helper 1 true]

theorem spoken_in_order_sample : ∃ w,
    Machine.run (record echoTunn echoConfig) (WgTunnel.start () false, .empty) echoRun
        = some w
      ∧ w.2.received = [[4, 1, 1, 1, 3]] ∧ w.2.answered.map Prod.fst = [[4, 0, 0, 0, 3]]
      ∧ w.2.said (.task .send) = [[5, 5], [4, 7, 8, 9, 1], [4, 7, 8, 9, 2]]
      ∧ w.2.said (.task .send) <+: w.2.cover ++ w.2.due echoConfig .send
      ∧ w.2.keepalives = w.2.due echoConfig .timer
      ∧ (w.2.due echoConfig .send).map stripClientId = w.2.made .send := by
  obtain ⟨w, hw, hreceived, hanswered, hsaid, hzero⟩ : ∃ w, Machine.run (record echoTunn echoConfig)
      (WgTunnel.start () false, .empty) echoRun = some w
        ∧ w.2.received = [[4, 1, 1, 1, 3]] ∧ w.2.answered.map Prod.fst = [[4, 0, 0, 0, 3]]
        ∧ w.2.said (.task .send) = [[5, 5], [4, 7, 8, 9, 1], [4, 7, 8, 9, 2]]
        ∧ ∀ pkt ∈ w.2.made .send, stripClientId pkt = pkt :=
    ⟨_, rfl, rfl, rfl, by decide, by decide⟩
  obtain ⟨-, -, ⟨hsend, -⟩, htimer, -, -, -, hcarried⟩ :=
    spoken_in_order echoTunn echoConfig rfl () false _ w hw
  exact ⟨w, hw, hreceived, hanswered, hsaid, hsend, htimer.2, (hcarried .send).2 hzero⟩

end Aether.Wireguard
