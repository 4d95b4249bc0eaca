import Aether.Wireguard.Ledger

/-!
What each speaker of a tunnel has still to say.

* `recvStep_kept`: the recv task gives boringtun the datagrams of the socket, and says and hands on
  what it answers.
* `sendStep_kept`: the send task gives boringtun the packets of the channel, and says the datagrams
  of `apply_obfuscation` and then what boringtun makes.
* `timerStep_kept`: the timer says what boringtun makes, or leaves it to helper tasks.
* `HelpersKept.spawn`, `HelpersKept.speak`: a helper task says what it was spawned with.
-/

namespace Aether.Wireguard

/-! ### The recv task -/

/-- What the task still has to send. -/
def RecvPc.saying : RecvPc → List Bytes
  | .send pkt => [pkt]
  | _ => []

/-- What it still has to deliver. -/
def RecvPc.handing : RecvPc → List Bytes
  | .deliver pkt => [pkt]
  | _ => []

/-- The datagram that it has taken from the socket. -/
def RecvPc.holding : RecvPc → List Bytes
  | .lock d => [d]
  | _ => []

variable {T ω : Type} {tunn : Tunn T ω} {cfg : WgConfig} {s s' : WgTunnel T} {l : Ledger}

/-- The recv task gives boringtun the datagrams of the socket, sends what it answers and delivers
what it finds, in order; a task that has ended has come through an initial part. -/
structure RecvKept (cfg : WgConfig) (s : WgTunnel T) (l : Ledger) : Prop where
  idle : s.phase = .idle → s.recv = .gone
  said : l.said (.task .recv) <+: l.due cfg .recv
  handed : l.handed.map Prod.fst <+: l.opened
  received : l.answered.map Prod.fst <+: l.received.map stripClientId
  answers : l.made .recv = l.answered.filterMap (·.2.network)
    ∧ l.opened = l.answered.filterMap (·.2.packet)
  saidAll : s.phase = .idle ∨ s.recv ≠ .gone →
    l.said (.task .recv) ++ s.recv.saying = l.due cfg .recv
  handedAll : s.phase = .idle ∨ s.recv ≠ .gone →
    l.handed.map Prod.fst ++ s.recv.handing = l.opened
  receivedAll : s.phase = .idle ∨ s.recv ≠ .gone →
    l.answered.map Prod.fst ++ s.recv.holding = l.received.map stripClientId

lemma RecvKept.of_all (hidle : s.phase = .idle → s.recv = .gone)
    (hsaid : l.said (.task .recv) ++ s.recv.saying = l.due cfg .recv)
    (hhanded : l.handed.map Prod.fst ++ s.recv.handing = l.opened)
    (hreceived : l.answered.map Prod.fst ++ s.recv.holding = l.received.map stripClientId)
    (hanswers : l.made .recv = l.answered.filterMap (·.2.network)
      ∧ l.opened = l.answered.filterMap (·.2.packet)) : RecvKept cfg s l :=
  ⟨hidle, ⟨_, hsaid⟩, ⟨_, hhanded⟩, ⟨_, hreceived⟩, hanswers, fun _ => hsaid, fun _ => hhanded,
    fun _ => hreceived⟩

/-- What neither belongs to the task nor to its part of the ledger. -/
lemma RecvKept.of_same {l' : Ledger} (h : RecvKept cfg s l) (hrecv : s'.recv = s.recv)
    (hphase : s'.phase = .idle → s.phase = .idle)
    (hsaid : l'.said (.task .recv) = l.said (.task .recv)) (hmade : l'.made .recv = l.made .recv)
    (hin : l.SameIn l') : RecvKept cfg s' l' := by
  obtain ⟨hreceived, hanswered, hopened, hhanded⟩ := hin
  have hdue : l'.due cfg .recv = l.due cfg .recv := by rw [Ledger.due, hmade, Ledger.due]
  have halive : s'.phase = .idle ∨ s'.recv ≠ .gone → s.phase = .idle ∨ s.recv ≠ .gone :=
    fun halive => halive.imp hphase fun hne => hrecv ▸ hne
  refine ⟨fun hi => hrecv.trans (h.idle (hphase hi)), ?_, ?_, ?_, ?_, ?_, ?_, ?_⟩
  · rw [hsaid, hdue]
    exact h.said
  · rw [hopened, hhanded]
    exact h.handed
  · rw [hreceived, hanswered]
    exact h.received
  · rw [hmade, hopened, hanswered]
    exact h.answers
  · intro hor
    rw [hsaid, hdue, hrecv]
    exact h.saidAll (halive hor)
  · intro hor
    rw [hopened, hhanded, hrecv]
    exact h.handedAll (halive hor)
  · intro hor
    rw [hreceived, hanswered, hrecv]
    exact h.receivedAll (halive hor)

/-- One more datagram is given to boringtun, which makes and finds what it answers. -/
lemma RecvKept.answer (h : RecvKept cfg s l) (d : Bytes) (r : TunnResult) :
    l.made .recv ++ r.network.toList = (l.answered ++ [(d, r)]).filterMap (·.2.network)
      ∧ l.opened ++ r.packet.toList = (l.answered ++ [(d, r)]).filterMap (·.2.packet) := by
  rw [h.answers.1, h.answers.2, List.filterMap_append, List.filterMap_append]
  cases r <;> exact ⟨rfl, rfl⟩

lemma recvStep_kept {e : RecvEv ω} (h : RecvKept cfg s l)
    (hstep : recvStep tunn cfg s e = some s') : RecvKept cfg s' (seeRecv tunn s l e) := by
  have halive : s.recv ≠ .gone := by
    intro hgone
    simp [recvStep, hgone] at hstep
  have hphase : s'.phase ≠ .idle := by
    rw [recvStep_phase hstep]
    exact fun hi => halive (h.idle hi)
  have hidle : s'.phase = .idle → s'.recv = .gone := fun hi => absurd hi hphase
  have hsaid := h.saidAll (.inr halive)
  have hhanded := h.handedAll (.inr halive)
  have hreceived := h.receivedAll (.inr halive)
  simp only [recvStep] at hstep
  split at hstep
  · rename_i d hpc
    cases hstep
    rw [hpc] at hsaid hhanded hreceived
    refine .of_all hidle hsaid hhanded ?_ h.answers
    show l.answered.map Prod.fst ++ [stripClientId d] = (l.received ++ [d]).map stripClientId
    rw [List.map_append, ← hreceived, List.append_assoc]
    rfl
  · rename_i d hpc
    cases hstep
    rw [hpc] at hsaid hhanded hreceived
    exact .of_all hidle hsaid hhanded hreceived h.answers
  · rename_i d w hpc
    rw [hpc] at hsaid hhanded hreceived
    replace hsaid := (List.append_nil _).symm.trans hsaid
    replace hhanded := (List.append_nil _).symm.trans hhanded
    rw [seeRecv, hpc]
    dsimp only
    -- the datagram in hand is the next one that is given to boringtun
    have hgiven : ∀ r : TunnResult, (l.answered ++ [(d, r)]).map Prod.fst ++ []
        = l.received.map stripClientId := by
      intro r
      rw [List.map_append, List.append_nil]
      exact hreceived
    have hanswer := h.answer d (tunn.decapsulate w s.tunn d).1
    cases hr : (tunn.decapsulate w s.tunn d).1 with
    | done | err =>
        rw [hr] at hstep hanswer
        cases hstep
        refine .of_all hidle ((List.append_nil _).trans hsaid) ((List.append_nil _).trans hhanded)
          (hgiven _) ?_
        exact ⟨(List.append_nil _).symm.trans hanswer.1, (List.append_nil _).symm.trans hanswer.2⟩
    | writeToNetwork pkt =>
        rw [hr] at hstep hanswer
        cases hstep
        refine .of_all hidle ?_ ((List.append_nil _).trans hhanded) (hgiven _) ?_
        · rw [Ledger.due_makes, if_pos rfl]
          exact congrArg (· ++ [injectClientId pkt cfg.clientId]) hsaid
        · exact ⟨(Ledger.made_makes ..).trans hanswer.1,
            (List.append_nil _).symm.trans hanswer.2⟩
    | writeToTunnelV4 pkt | writeToTunnelV6 pkt =>
        rw [hr] at hstep hanswer
        cases hstep
        refine .of_all hidle ((List.append_nil _).trans hsaid) (congrArg (· ++ [pkt]) hhanded)
          (hgiven _) ?_
        exact ⟨(List.append_nil _).symm.trans hanswer.1, hanswer.2⟩
  · rename_i pkt ok hpc
    cases hstep
    have hsee : seeRecv tunn s l (.sent ok) = l.tries (.task .recv) pkt ok := by rw [seeRecv, hpc]
    rw [hpc] at hsaid hhanded hreceived
    rw [hsee]
    refine .of_all hidle ?_ hhanded hreceived h.answers
    rw [Ledger.said_tries, if_pos rfl]
    exact (List.append_nil _).trans hsaid
  · rename_i pkt ok hpc
    cases hstep
    have hsee : seeRecv tunn s l (.delivered ok)
        = { l with handed := l.handed ++ [(pkt, ok)] } := by rw [seeRecv, hpc]
    rw [hpc] at hsaid hhanded hreceived
    rw [hsee]
    refine .of_all hidle hsaid ?_ hreceived h.answers
    show (l.handed ++ [(pkt, ok)]).map Prod.fst ++ [] = l.opened
    rw [List.map_append, List.append_nil]
    exact hhanded
  · cases hstep

/-! ### The send task -/

/-- What the task still has to send. -/
def SendPc.saying : SendPc → List Bytes
  | .obfuscate pkt => [pkt]
  | .cover junk pkt => junk ++ [pkt]
  | .send pkt => [pkt]
  | _ => []

/-- The packet that it has taken from the channel. -/
def SendPc.asking : SendPc → List Bytes
  | .lock p => [p]
  | _ => []

/-- The task sends, or is about to. -/
def SendPc.speaks : SendPc → Bool
  | .cover _ _ => true
  | .send _ => true
  | _ => false

/-- The send task gives boringtun the packets of its channel and sends what boringtun makes of them,
in order, behind the datagrams of `apply_obfuscation`; these are sent at most once, and not by a
tunnel whose flag is set from the start. -/
structure SendKept (cfg : WgConfig) (obf : Bool) (s : WgTunnel T) (l : Ledger) : Prop where
  idle : s.phase = .idle → s.send = .gone
  said : l.said (.task .send) <+: l.cover ++ l.due cfg .send
  asked : l.asked <+: l.queued
  saidAll : s.phase = .idle ∨ s.send ≠ .gone →
    l.said (.task .send) ++ s.send.saying = l.cover ++ l.due cfg .send
  askedAll : s.phase = .idle ∨ s.send ≠ .gone →
    l.asked ++ s.send.asking ++ s.outbound = l.queued
  fresh : s.obfSent = false → cfg.aethernoize.isEnabled = true →
    l.cover = [] ∧ l.said (.task .send) = []
  spoke : s.send.speaks = true → s.obfSent = true ∨ cfg.aethernoize.isEnabled = false
  flag : obf = true → s.obfSent = true
  uncovered : obf = true ∨ cfg.aethernoize.isEnabled = false → l.cover = []

variable {obf : Bool}

/-- What neither belongs to the task nor to its part of the ledger, but for packets that enter the
channel. -/
lemma SendKept.of_same {l' : Ledger} (h : SendKept cfg obf s l) (hsend : s'.send = s.send)
    (hobf : s'.obfSent = s.obfSent) (hphase : s'.phase = .idle → s.phase = .idle)
    (hsaid : l'.said (.task .send) = l.said (.task .send))
    (hdue : l'.due cfg .send = l.due cfg .send)
    (hcover : l'.cover = l.cover) (hasked : l'.asked = l.asked)
    (hqueue : ∃ more, l'.queued = l.queued ++ more ∧ s'.outbound = s.outbound ++ more) :
    SendKept cfg obf s' l' where
  idle hi := hsend.trans (h.idle (hphase hi))
  said := by
    rw [hsaid, hdue, hcover]
    exact h.said
  asked := by
    obtain ⟨more, hq, -⟩ := hqueue
    rw [hasked, hq]
    exact h.asked.trans (List.prefix_append _ _)
  saidAll halive := by
    rw [hsaid, hdue, hcover, hsend]
    exact h.saidAll (halive.imp hphase fun hne => hsend ▸ hne)
  askedAll halive := by
    obtain ⟨more, hq, ho⟩ := hqueue
    rw [hasked, hq, ho, hsend, ← List.append_assoc,
      h.askedAll (halive.imp hphase fun hne => hsend ▸ hne)]
  fresh hno hen := by
    rw [hcover, hsaid]
    exact h.fresh (hobf ▸ hno) hen
  spoke hs := by
    rw [hobf]
    exact h.spoke (hsend ▸ hs)
  flag ho := hobf.trans (h.flag ho)
  uncovered hu := hcover.trans (h.uncovered hu)

/-- A step of the task, where it leads to what it has still to send and to ask. -/
lemma SendKept.of_all {l' : Ledger} (h : SendKept cfg obf s l)
    (hidle : s'.phase = .idle → s'.send = .gone)
    (hsaid : l'.said (.task .send) ++ s'.send.saying = l'.cover ++ l'.due cfg .send)
    (hasked : l'.asked ++ s'.send.asking ++ s'.outbound = l'.queued)
    (hfresh : s'.obfSent = false → cfg.aethernoize.isEnabled = true →
      l'.cover = [] ∧ l'.said (.task .send) = [])
    (hspoke : s'.send.speaks = true → s'.obfSent = true ∨ cfg.aethernoize.isEnabled = false)
    (hobf : s.obfSent = true → s'.obfSent = true)
    (huncovered : obf = true ∨ cfg.aethernoize.isEnabled = false → l'.cover = []) :
    SendKept cfg obf s' l' :=
  ⟨hidle, ⟨_, hsaid⟩, ⟨_, by rw [← List.append_assoc]; exact hasked⟩, fun _ => hsaid,
    fun _ => hasked, hfresh, hspoke, fun ho => hobf (h.flag ho), huncovered⟩

/-- A task that has come to speak has nothing more to cover. -/
lemma not_fresh (h : s.obfSent = true ∨ cfg.aethernoize.isEnabled = false)
    (hno : s.obfSent = false) (hen : cfg.aethernoize.isEnabled = true) : False := by
  rcases h with h | h
  · exact Bool.noConfusion (hno.symm.trans h)
  · exact Bool.noConfusion (hen.symm.trans h)

lemma sendStep_kept {e : SendEv ω} (h : SendKept cfg obf s l)
    (hstep : sendStep tunn cfg s e = some s') : SendKept cfg obf s' (seeSend tunn cfg s l e) := by
  have halive : s.send ≠ .gone := by
    intro hgone
    simp [sendStep, hgone] at hstep
  have hidle : s'.phase = .idle → s'.send = .gone := by
    intro hi
    rw [(sendStep_frame hstep).1] at hi
    exact absurd (h.idle hi) halive
  have hsaid := h.saidAll (.inr halive)
  have hasked := h.askedAll (.inr halive)
  simp only [sendStep] at hstep
  split at hstep
  · rename_i hpc
    rw [hpc] at hsaid hasked
    rw [seeSend]
    split at hstep
    · rename_i p rest hout
      cases hstep
      rw [hout] at hasked
      refine h.of_all hidle hsaid ?_ h.fresh (fun hs => by cases hs) id h.uncovered
      rw [← hasked]
      simp [SendPc.asking]
    · split at hstep
      · cases hstep
      · cases hstep
        exact h.of_all hidle hsaid hasked h.fresh (fun hs => by cases hs) id h.uncovered
  · rename_i p w hpc
    rw [hpc] at hsaid hasked
    rw [seeSend, hpc]
    dsimp only
    have hnext : l.asked ++ [p] ++ [] ++ s.outbound = l.queued := by
      rw [List.append_nil]
      exact hasked
    cases hr : (tunn.encapsulate w s.tunn p).1 with
    | writeToNetwork pkt =>
        rw [hr] at hstep
        cases hstep
        refine h.of_all hidle ?_ hnext h.fresh (fun hs => by cases hs) id h.uncovered
        rw [Ledger.due_makes, if_pos rfl, ← List.append_assoc]
        exact congrArg (· ++ [injectClientId pkt cfg.clientId])
          ((List.append_nil _).symm.trans hsaid)
    | done | err | writeToTunnelV4 | writeToTunnelV6 =>
        rw [hr] at hstep
        cases hstep
        exact h.of_all hidle hsaid hnext h.fresh (fun hs => by cases hs) id h.uncovered
  · rename_i pkt junk hpc
    rw [hpc] at hsaid hasked
    rw [seeSend]
    split at hstep
    · rename_i hfirst
      rw [Bool.and_eq_true, Bool.not_eq_true'] at hfirst
      cases hstep
      obtain ⟨hcover, hnone⟩ := h.fresh hfirst.1 hfirst.2
      rw [hcover, hnone] at hsaid
      rw [if_pos (by rw [hfirst.1, hfirst.2]; rfl), hcover]
      refine h.of_all hidle ?_ hasked (fun hno => by cases hno) (fun _ => .inl rfl)
        (fun _ => rfl) ?_
      · show l.said (.task .send) ++ (junk ++ [pkt]) = junk ++ l.due cfg .send
        rw [hnone]
        exact congrArg (junk ++ ·) hsaid
      · rintro (ho | hen)
        · exact absurd (h.flag ho) (by rw [hfirst.1]; exact Bool.false_ne_true)
        · exact Bool.noConfusion (hfirst.2.symm.trans hen)
    · rename_i hlater
      cases hstep
      rw [if_neg hlater]
      refine h.of_all hidle hsaid hasked h.fresh (fun _ => ?_) id h.uncovered
      cases ho : s.obfSent with
      | true => exact .inl rfl
      | false =>
          rw [ho] at hlater
          exact .inr (Bool.eq_false_iff.mpr hlater)
  · rename_i d junk pkt ok hpc
    have hsee : seeSend tunn cfg s l (.covered ok) = l.tries (.task .send) d ok := by
      rw [seeSend, hpc]
    have hspoke := h.spoke (by rw [hpc]; rfl)
    obtain ⟨log, hlog⟩ := emit_eq s .send d ok
    rw [hlog] at hstep
    cases hstep
    rw [hpc] at hsaid hasked
    rw [hsee]
    refine h.of_all hidle ?_ hasked ?_ (fun _ => hspoke) id h.uncovered
    · rw [Ledger.said_tries, if_pos rfl, List.append_assoc]
      exact hsaid
    · exact fun hno hen => (not_fresh hspoke hno hen).elim
  · rename_i pkt ok hpc
    have hspoke := h.spoke (by rw [hpc]; rfl)
    have hsee : seeSend tunn cfg s l (.covered ok) = l := by rw [seeSend, hpc]
    cases hstep
    rw [hpc] at hsaid hasked
    rw [hsee]
    exact h.of_all hidle hsaid hasked h.fresh (fun _ => hspoke) id h.uncovered
  · rename_i pkt ok junk hpc
    have hspoke := h.spoke (by rw [hpc]; rfl)
    obtain ⟨log, hlog⟩ := emit_eq s .send pkt ok
    have hsaid' : (l.tries (.task .send) pkt ok).said (.task .send) ++ []
        = l.cover ++ l.due cfg .send := by
      rw [Ledger.said_tries, if_pos rfl, List.append_nil]
      rw [hpc] at hsaid
      exact hsaid
    rw [hlog] at hstep
    rw [seeSend, hpc]
    rw [hpc] at hasked
    dsimp only at hstep ⊢
    split at hstep
    · rename_i hjunk
      rw [Option.ite_none_right_eq_some] at hstep
      obtain ⟨-, hstep⟩ := hstep
      cases hstep
      rw [if_pos hjunk]
      exact h.of_all hidle hsaid' hasked (fun hno hen => (not_fresh hspoke hno hen).elim)
        (fun hs => by cases hs) id h.uncovered
    · rename_i hjunk
      cases hstep
      rw [if_neg hjunk]
      exact h.of_all hidle hsaid' hasked (fun hno hen => (not_fresh hspoke hno hen).elim)
        (fun hs => by cases hs) id h.uncovered
  · cases hstep

/-! ### The timer task -/

/-- What the task still has to send. -/
def TimerPc.saying : TimerPc → List Bytes
  | .send pkt => [pkt]
  | _ => []

/-- The timer sends boringtun's datagrams, in order; with the decoys enabled it leaves each to a
helper task. -/
structure TimerKept (cfg : WgConfig) (s : WgTunnel T) (l : Ledger) : Prop where
  idle : s.phase = .idle → s.timer = .gone
  said : cfg.aethernoize.isEnabled = false → l.said (.task .timer) <+: l.due cfg .timer
  saidAll : cfg.aethernoize.isEnabled = false → s.phase = .idle ∨ s.timer ≠ .gone →
    l.said (.task .timer) ++ s.timer.saying = l.due cfg .timer
  left : cfg.aethernoize.isEnabled = true →
    l.said (.task .timer) = [] ∧ s.timer.saying = [] ∧ l.keepalives = l.due cfg .timer

lemma keepalives_spawns (l : Ledger) (t : Task) (ds : List Bytes) :
    (l.spawns t ds).keepalives
      = l.keepalives ++ (if t = .timer then ds.getLast? else none).toList := by
  rw [Ledger.keepalives, Ledger.spawns, List.filterMap_append]
  refine congrArg (l.keepalives ++ ·) ?_
  by_cases ht : t = .timer
  · rw [if_pos ht]
    cases h : ds.getLast? <;> simp [ht, h]
  · simp [ht]

lemma TimerKept.of_same {l' : Ledger} (h : TimerKept cfg s l) (htimer : s'.timer = s.timer)
    (hphase : s'.phase = .idle → s.phase = .idle)
    (hsaid : l'.said (.task .timer) = l.said (.task .timer))
    (hdue : l'.due cfg .timer = l.due cfg .timer) (hkeep : l'.keepalives = l.keepalives) :
    TimerKept cfg s' l' where
  idle hi := htimer.trans (h.idle (hphase hi))
  said hen := by
    rw [hsaid, hdue]
    exact h.said hen
  saidAll hen halive := by
    rw [hsaid, hdue, htimer]
    exact h.saidAll hen (halive.imp hphase fun hne => htimer ▸ hne)
  left hen := by
    rw [hsaid, hdue, htimer, hkeep]
    exact h.left hen

/-- A step of the task, with the decoys disabled and enabled. -/
lemma TimerKept.of_all (hidle : s.phase = .idle → s.timer = .gone)
    (hsaid : cfg.aethernoize.isEnabled = false →
      l.said (.task .timer) ++ s.timer.saying = l.due cfg .timer)
    (hleft : cfg.aethernoize.isEnabled = true →
      l.said (.task .timer) = [] ∧ s.timer.saying = [] ∧ l.keepalives = l.due cfg .timer) :
    TimerKept cfg s l :=
  ⟨hidle, fun hen => ⟨_, hsaid hen⟩, fun hen _ => hsaid hen, hleft⟩

lemma timerStep_kept {e : TimerEv ω} (h : TimerKept cfg s l)
    (hstep : timerStep tunn cfg s e = some s') : TimerKept cfg s' (seeTimer tunn cfg s l e) := by
  have halive : s.timer ≠ .gone := by
    intro hgone
    simp [timerStep, hgone] at hstep
  have hidle : s'.phase = .idle → s'.timer = .gone := by
    intro hi
    rw [(timerStep_frame hstep).1] at hi
    exact absurd (h.idle hi) halive
  have hsaid := fun hen => h.saidAll hen (.inr halive)
  have hleft := h.left
  simp only [timerStep] at hstep
  split at hstep
  · rename_i hpc
    cases hstep
    rw [hpc] at hsaid hleft
    exact .of_all hidle hsaid hleft
  · rename_i w junk hpc
    rw [hpc] at hsaid hleft
    rw [seeTimer]
    cases hr : (tunn.updateTimers w s.tunn).1 with
    | writeToNetwork pkt =>
        rw [hr] at hstep
        dsimp only at hstep ⊢
        have hdue : (l.makes .timer pkt).due cfg .timer
            = l.due cfg .timer ++ [injectClientId pkt cfg.clientId] := by
          rw [Ledger.due_makes, if_pos rfl]
        split at hstep
        · rename_i hen
          rw [Option.ite_none_right_eq_some] at hstep
          obtain ⟨-, hstep⟩ := hstep
          cases hstep
          obtain ⟨hnone, -, hkeep⟩ := hleft hen
          rw [if_pos hen]
          refine .of_all hidle (fun hno => Bool.noConfusion (hen.symm.trans hno)) fun _ => ?_
          refine ⟨hnone, rfl, ?_⟩
          rw [keepalives_spawns, if_pos rfl, List.getLast?_concat]
          show l.keepalives ++ [_] = (l.makes .timer pkt).due cfg .timer
          rw [hdue, hkeep]
        · rename_i hno
          cases hstep
          rw [if_neg hno]
          refine .of_all hidle (fun hen => ?_) fun hen => absurd hen hno
          rw [hdue, ← hsaid hen]
          exact congrArg (· ++ [_]) (List.append_nil _).symm
    | done | err | writeToTunnelV4 | writeToTunnelV6 =>
        rw [hr] at hstep
        cases hstep
        exact .of_all hidle hsaid hleft
  · rename_i pkt ok hpc
    have hsee : seeTimer tunn cfg s l (.sent ok) = l.tries (.task .timer) pkt ok := by
      rw [seeTimer, hpc]
    obtain ⟨log, hlog⟩ := emit_eq s .timer pkt ok
    rw [hlog] at hstep
    cases hstep
    rw [hpc] at hsaid hleft
    rw [hsee]
    refine .of_all hidle (fun hen => ?_) fun hen => ?_
    · rw [Ledger.said_tries, if_pos rfl]
      exact (List.append_nil _).trans (hsaid hen)
    · obtain ⟨-, hnil, -⟩ := hleft hen
      cases hnil
  · cases hstep

/-! ### The helper tasks -/

/-- Each helper task sends what it was spawned with, in order: `jc_after_hs` decoys behind a
datagram of the send task, and decoys in front of a keepalive. -/
structure HelpersKept (cfg : WgConfig) (s : WgTunnel T) (l : Ledger) : Prop where
  length : s.helpers.length = l.spawned.length
  kept : ∀ i t ds, l.spawned[i]? = some (t, ds) →
    ∃ rest, s.helpers[i]? = some (t, rest) ∧ l.said (.helper i) ++ rest = ds
  silent : ∀ i, l.spawned.length ≤ i → l.said (.helper i) = []
  bounded : ∀ x ∈ l.spawned, x.1 = .send ∧ x.2.length = cfg.aethernoize.jcAfterHs
    ∨ x.1 = .timer ∧ keepaliveJunk cfg.aethernoize (x.2.length - 1)

lemma HelpersKept.of_same {l' : Ledger} (h : HelpersKept cfg s l)
    (hhelpers : s'.helpers = s.helpers)
    (hspawned : l'.spawned = l.spawned) (hsaid : ∀ i, l'.said (.helper i) = l.said (.helper i)) :
    HelpersKept cfg s' l' where
  length := by
    rw [hhelpers, hspawned]
    exact h.length
  kept i t ds hi := by
    rw [hhelpers, hsaid]
    exact h.kept i t ds (hspawned ▸ hi)
  silent i hi := by
    rw [hsaid]
    exact h.silent i (hspawned ▸ hi)
  bounded x hx := h.bounded x (hspawned ▸ hx)

/-- A helper task is spawned. -/
lemma HelpersKept.spawn {t : Task} {ds : List Bytes} (h : HelpersKept cfg s l)
    (hhelpers : s'.helpers = s.helpers ++ [(t, ds)])
    (hbound : t = .send ∧ ds.length = cfg.aethernoize.jcAfterHs
      ∨ t = .timer ∧ keepaliveJunk cfg.aethernoize (ds.length - 1)) :
    HelpersKept cfg s' (l.spawns t ds) where
  length := by
    rw [hhelpers, Ledger.spawns, List.length_append, List.length_append, h.length]
  kept i t' ds' hi := by
    change (l.spawned ++ [(t, ds)])[i]? = some (t', ds') at hi
    show ∃ rest, s'.helpers[i]? = some (t', rest) ∧ l.said (.helper i) ++ rest = ds'
    rw [hhelpers]
    by_cases hlt : i < l.spawned.length
    · rw [List.getElem?_append_left hlt] at hi
      rw [List.getElem?_append_left (h.length ▸ hlt)]
      exact h.kept i t' ds' hi
    · have hle := Nat.not_lt.mp hlt
      rw [List.getElem?_append_right hle] at hi
      rw [List.getElem?_append_right (h.length ▸ hle), h.length, h.silent i hle]
      exact ⟨ds', hi, rfl⟩
  silent i hi := by
    refine h.silent i (Nat.le_trans ?_ hi)
    rw [Ledger.spawns, List.length_append]
    exact Nat.le_add_right _ _
  bounded x hx := by
    rcases List.mem_append.mp hx with hx | hx
    · exact h.bounded x hx
    · rw [List.mem_singleton.mp hx]
      exact hbound

/-- A helper task sends its next datagram. -/
lemma HelpersKept.speak {i : ℕ} {t : Task} {d : Bytes} {junk : List Bytes} {ok : Bool}
    (h : HelpersKept cfg s l) (hi : s.helpers[i]? = some (t, d :: junk))
    (hhelpers : s'.helpers = s.helpers.set i (t, junk)) :
    HelpersKept cfg s' (l.tries (.helper i) d ok) where
  length := by
    rw [hhelpers, List.length_set]
    exact h.length
  kept j t' ds hj := by
    obtain ⟨rest, hrest, heq⟩ := h.kept j t' ds hj
    rw [hhelpers, Ledger.said_tries]
    by_cases hij : i = j
    · subst hij
      rw [hi] at hrest
      cases hrest
      refine ⟨junk, ?_, by rw [if_pos rfl, List.append_assoc]; exact heq⟩
      exact List.getElem?_set_self (List.getElem?_eq_some_iff.mp hi).1
    · refine ⟨rest, ?_, ?_⟩
      · rw [List.getElem?_set_ne hij]
        exact hrest
      · rw [if_neg (fun heq => hij (Speaker.helper.inj heq)), List.append_nil]
        exact heq
  silent j hj := by
    have hlt := (List.getElem?_eq_some_iff.mp hi).1
    rw [h.length] at hlt
    rw [Ledger.said_tries, if_neg, List.append_nil]
    · exact h.silent j hj
    · intro heq
      rw [Speaker.helper.inj heq] at hlt
      exact absurd hj (Nat.not_le.mpr hlt)
  bounded := h.bounded

end Aether.Wireguard
