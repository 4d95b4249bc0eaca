import Aether.Netstack.Streams
import Aether.Socks.Moves

/-!
What a client of CONNECT sends.

The upload task of `handle_connect` reads a piece, puts it into the data channel and reads on; the
netstack takes the messages of all tasks from that channel and buffers them for the sockets. `read`
is what has been read for one connection.

* `Uploads`: every byte that was read is handled, queued, or in the hand of the one task that has
  the sender, in this order; the close message is the last of its connection.
* `uploads_conserved`: so the socket was given a prefix of what was read, the pending buffer, the
  channel and the task have the rest, and the half-close comes behind all of it.
-/

namespace Aether.Socks

open Netstack (NetStack Smoltcp Interface DataIn HandedOver TcpState)

/-- The bytes that are read for a connection in a step. -/
def Move.reads (id : ℕ) : Move → Bytes
  | .read id' data => if id' = id then data else []
  | _ => []

def Ev.reads (id : ℕ) (s : Server) : Ev → Bytes
  | .task r a => (s.tasks r).elim [] fun t => (t.move a).reads id
  | _ => []

/-- The server, with what has been read for a connection. -/
def readStep (sm : Smoltcp) (id : ℕ) (s : Server × Bytes) (e : Ev) : Option (Server × Bytes) :=
  (step sm s.1 e).map fun s' => (s', s.2 ++ e.reads id s.1)

/-- The close message of the connection is queued, or handled. -/
def Server.Closing (s : Server) (id : ℕ) : Prop :=
  .tcpClose id ∈ s.data.items ∨ ∃ y, s.stack.tcpEnds id = some y ∧ y.halfClosed = true

/-- Where the bytes are that have been read for a connection; `hand` has not been sent. -/
structure Uploads (id : ℕ) (s : Server) (read hand : Bytes) : Prop where
  stream : s.stack.handled id ++ bytesOf id s.data.items ++ hand = read
  held : ∀ r t, s.tasks r = some t → id ∈ t.holds → t.inHand = hand
  answered : ∀ r, id ∈ answerIds (s.oneshot r) → hand = []
  unopened : ¬ HandedOver s.stack id → read = []
  closed : s.Closing id → hand = []
  last : s.data.items.Pairwise fun d d' => d = .tcpClose id → d'.bytesFor id = []
  half : ∀ y, s.stack.tcpEnds id = some y → y.halfClosed = true → bytesOf id s.data.items = []

open Server (Books)

variable {sm : Smoltcp} {s s' : Server} {x : Effect} {r id : ℕ} {t t' : Task} {a : Act} {m : Move}
  {read hand : Bytes} {st : TcpState}

/-- The sender of a connection that closes is gone. -/
lemma Server.Closing.gone (h : s.Closing id) (hb : Books s) : s.Gone id := by
  rcases h with hd | ⟨y, hy, hhalf⟩
  · exact .inl (hb.tcpClose id hd)
  · exact .inl (hb.halfClosed id y hy hhalf)

lemma Server.Books.not_closing (hb : Books s) (hr : s.tasks r = some t) (hid : id ∈ t.holds) :
    ¬ s.Closing id := by
  intro h
  refine hb.kept r id ?_ (h.gone hb)
  rw [Server.holds_eq hr]
  exact List.mem_append_left _ hid

lemma Server.Books.handedOver (hb : Books s) (hr : s.tasks r = some t) (hid : id ∈ t.holds) :
    HandedOver s.stack id := by
  refine hb.handed r id ?_
  rw [Server.holds_eq hr]
  exact List.mem_append_left _ hid

/-- The task that has the sender is the only one. -/
lemma Server.Books.holder (hb : Books s) {r' : ℕ} {t₁ : Task} (hr : s.tasks r = some t)
    (hid : id ∈ t.holds) (hr' : s.tasks r' = some t₁) (hid' : id ∈ t₁.holds) : r' = r := by
  refine hb.apart r' r id ?_ ?_
  · rw [Server.holds_eq hr']
    exact List.mem_append_left _ hid'
  · rw [Server.holds_eq hr]
    exact List.mem_append_left _ hid

lemma bytesOf_eq_nil {ds : List DataIn} : bytesOf id ds = [] ↔ ∀ d ∈ ds, d.bytesFor id = [] := by
  rw [bytesOf, List.flatten_eq_nil_iff, List.forall_mem_map]

/-! ### The steps of the netstack -/

/-- A data message is taken and handled, or nothing. -/
lemma Uploads.netstack {n : Netstack.Ev} (h : Uploads id s read hand) (hb : Books s)
    (hstep : Netstack.step sm s.stack n = some s'.stack) (hran : Ran n.closes s s')
    (hdata : (∃ d room, n = .data d room ∧ s.data.items = d :: s'.data.items)
      ∨ (∀ d room, n ≠ .data d room) ∧ s'.data = s.data) : Uploads id s' read hand := by
  have hqueue : bytesOf id s.data.items = n.bytesFor id ++ bytesOf id s'.data.items := by
    rcases hdata with ⟨d, room, rfl, hitems⟩ | ⟨hn, heq⟩
    · rw [hitems]
      rfl
    · rw [Netstack.bytesFor_eq_nil hn, heq]
      rfl
  have hmono : HandedOver s.stack id → HandedOver s'.stack id := hran.ends.handedOver
  have hunopened : s.stack.nextId ≤ id → read = [] :=
    fun hle => h.unopened fun hh => absurd hh.below (Nat.not_lt.mpr hle)
  -- before it is opened, a connection has no bytes
  have hempty : s.stack.nextId ≤ id →
      s.stack.handled id = [] ∧ bytesOf id s.data.items = [] := by
    intro hle
    have hs := h.stream
    rw [hunopened hle, List.append_eq_nil_iff, List.append_eq_nil_iff] at hs
    exact hs.1
  have hends : ∀ y', s'.stack.tcpEnds id = some y' → y'.halfClosed = true →
      (∃ y, s.stack.tcpEnds id = some y ∧ y.halfClosed = true) ∨ n.closes = some id := by
    intro y' hy' hhalf
    rcases hran.ends.tcp id y' hy' with ⟨-, rfl⟩ | ⟨y, hy, hl⟩
    · cases hhalf
    · rw [hl.halfClosed, Bool.or_eq_true_iff] at hhalf
      exact hhalf.imp (fun hold => ⟨y, hy, hold⟩) beq_iff_eq.mp
  refine ⟨?_, ?_, ?_, fun hn => h.unopened (mt hmono hn), ?_, ?_, ?_⟩
  · rw [← h.stream, hqueue]
    by_cases hlt : id < s.stack.nextId
    · obtain ⟨came, hflow⟩ := Netstack.step_flow hlt hstep
      rw [hflow.handled]
      simp only [List.append_assoc]
    · have hle := Nat.not_lt.mp hlt
      obtain ⟨hh, hq⟩ := hempty hle
      rw [hqueue, List.append_eq_nil_iff] at hq
      rw [(Netstack.step_unopened hb.matched hle hstep).1 hq.1 hh, hh, hq.1, hq.2]
      rfl
  · intro r t ht
    exact h.held r t (hran.tasks ▸ ht)
  · intro r hid
    obtain ⟨obs, hlog, hans⟩ := hran.answers
    rcases hans r with heq | ⟨answer, hobs, heq⟩
    · exact h.answered r (heq ▸ hid)
    · -- an answer hands over a connection from which nothing was read
      rw [heq, mem_answerIds] at hid
      cases hid
      have hs := h.stream
      rw [h.unopened (hlog.granted r id hobs).2, List.append_eq_nil_iff] at hs
      exact hs.2
  · rintro (hd | ⟨y', hy', hhalf⟩)
    · exact h.closed (.inl (hran.data _ hd))
    · rcases hends y' hy' hhalf with hold | hk
      · exact h.closed (.inr hold)
      · exact h.closed (.inl ((hran.popped id).mpr (.inr hk)))
  · have hlast := h.last
    rcases hdata with ⟨d, room, rfl, hitems⟩ | ⟨-, heq⟩
    · rw [hitems] at hlast
      exact hlast.of_cons
    · rwa [heq]
  · intro y' hy' hhalf
    rcases hends y' hy' hhalf with ⟨y, hy, hold⟩ | hk
    · have hq := h.half y hy hold
      rw [hqueue, List.append_eq_nil_iff] at hq
      exact hq.2
    · rcases hdata with ⟨d, room, rfl, hitems⟩ | ⟨hn, -⟩
      · have hlast := h.last
        rw [hitems, List.pairwise_cons] at hlast
        refine bytesOf_eq_nil.mpr fun d' hd' => hlast.1 d' hd' ?_
        cases d <;> simp_all [Netstack.Ev.closes, DataIn.closes]
      · cases n <;> simp_all [Netstack.Ev.closes]

/-- A step that leaves the streams alone. -/
lemma Uploads.quietly (h : Uploads id s read hand) (hstack : s'.stack = s.stack)
    (hdata : s'.data = s.data) (honeshot : s'.oneshot = s.oneshot)
    (htasks : ∀ r t, s'.tasks r = some t → s.tasks r = some t ∨ t.Bare ∧ t.holds = []) :
    Uploads id s' read hand := by
  refine ⟨?_, ?_, ?_, ?_, ?_, ?_, ?_⟩
  · rw [hstack, hdata]
    exact h.stream
  · intro r t ht hid
    rcases htasks r t ht with hold | ⟨-, hnone⟩
    · exact h.held r t hold hid
    · rw [hnone] at hid
      cases hid
  · intro r hid
    exact h.answered r (honeshot ▸ hid)
  · rw [hstack]
    exact h.unopened
  · rw [Server.Closing, hstack, hdata]
    exact h.closed
  · rw [hdata]
    exact h.last
  · rw [hstack, hdata]
    exact h.half

/-! ### The steps of the tasks -/

/-- What a step has to say of the hand; only the task that has the sender changes it. -/
structure Hands (id : ℕ) (m : Move) (t t' : Task) (hand hand' : Bytes) : Prop where
  stream : m.sends id ++ hand' = hand ++ m.reads id
  held : id ∈ t'.holds → t'.inHand = hand'
  changed : hand' = hand ∧ m.reads id = [] ∧ m.sends id = [] ∨ t.holds = [id]
  close : m = .close id → hand' = []

lemma Uploads.took {hand' : Bytes} (h : Uploads id s read hand) (hb : Books s)
    (hr : s.tasks r = some t) (hacted : Acted x r t t' s s') (htook : Took sm m r t t' s s')
    (hands : Hands id m t t' hand hand') : Uploads id s' (read ++ m.reads id) hand' := by
  obtain ⟨ds, hitems, hds, hclose⟩ := htook.sent
  have hqueue : bytesOf id s'.data.items = bytesOf id s.data.items ++ m.sends id := by
    rw [hitems, bytesOf_append, hds]
  -- nothing changes when the connection closes
  have hkeep : s.Closing id → hand' = hand ∧ m.sends id = [] := by
    intro hc
    rcases hands.changed with ⟨hsame, -, hsends⟩ | hown
    · exact ⟨hsame, hsends⟩
    · exact absurd hc (hb.not_closing hr (hown ▸ List.mem_singleton_self id))
  have hends : ∀ y', s'.stack.tcpEnds id = some y' → y'.halfClosed = true →
      ∃ y, s.stack.tcpEnds id = some y ∧ y.halfClosed = true := by
    intro y' hy' hhalf
    rw [hacted.did.stack.tcp] at hy'
    obtain ⟨y, hy, rfl⟩ := Option.map_eq_some_iff.mp hy'
    exact ⟨y, hy, hhalf⟩
  refine ⟨?_, ?_, ?_, ?_, ?_, ?_, ?_⟩
  · rw [htook.drawn.same_log.1, hqueue, ← h.stream]
    simp only [List.append_assoc, hands.stream]
  · intro r' t₁ ht₁ hid
    rw [hacted.tasks, Function.update_apply] at ht₁
    split at ht₁
    · cases ht₁
      exact hands.held hid
    · rename_i hne
      rcases hands.changed with ⟨hsame, -⟩ | hown
      · rw [hsame]
        exact h.held r' t₁ ht₁ hid
      · exact absurd (hb.holder hr (hown ▸ List.mem_singleton_self id) ht₁ hid) hne
  · intro r' hid
    have hold : id ∈ answerIds (s.oneshot r') := by
      by_cases hne : r' = r
      · subst hne
        rcases htook.kept.oneshot with heq | heq
        · exact heq ▸ hid
        · rw [heq] at hid
          cases hid
      · exact hacted.oneshot r' hne ▸ hid
    rcases hands.changed with ⟨hsame, -⟩ | hown
    · rw [hsame]
      exact h.answered r' hold
    · -- a connection is held by a task or handed to one
      have hmem : id ∈ s.holds r' := List.mem_append_right _ hold
      have hmem' : id ∈ s.holds r := by
        rw [Server.holds_eq hr, hown]
        exact List.mem_append_left _ (List.mem_singleton_self id)
      obtain rfl := hb.apart r' r id hmem hmem'
      have hnodup := hb.nodup r'
      rw [Server.holds_eq hr, hown] at hnodup
      exact absurd hold (List.nodup_cons.mp hnodup).1
  · intro hn
    have hold : ¬ HandedOver s.stack id := mt hacted.did.handedOver hn
    rw [h.unopened hold, List.nil_append]
    rcases hands.changed with ⟨-, hreads, -⟩ | hown
    · exact hreads
    · exact absurd (hb.handedOver hr (hown ▸ List.mem_singleton_self id)) hold
  · rintro (hd | ⟨y', hy', hhalf⟩)
    · rw [hitems, List.mem_append] at hd
      rcases hd with hold | hnew
      · rw [(hkeep (.inl hold)).1]
        exact h.closed (.inl hold)
      · exact hands.close (hclose id hnew).1
    · have hc : s.Closing id := .inr (hends y' hy' hhalf)
      rw [(hkeep hc).1]
      exact h.closed hc
  · rw [hitems, List.pairwise_append]
    refine ⟨h.last, ?_, ?_⟩
    · rw [List.pairwise_iff_forall_sublist]
      rintro d d' hsub rfl
      obtain ⟨-, rfl⟩ := hclose id (hsub.subset List.mem_cons_self)
      have hlen := hsub.length_le
      simp at hlen
    · rintro d hd d' hd' rfl
      have hnone := hds id
      rw [(hkeep (.inl hd)).2] at hnone
      exact bytesOf_eq_nil.mp hnone d' hd'
  · intro y' hy' hhalf
    obtain ⟨y, hy, hold⟩ := hends y' hy' hhalf
    rw [hqueue, h.half y hy hold, (hkeep (.inr ⟨y, hy, hold⟩)).2]
    rfl

/-- What the task that has no connection of its own holds, it held, or was answered. -/
lemma Acted.held (h : Acted x r t t' s s') (hid : id ∈ t'.holds) :
    id ∈ t.holds ∨ id ∈ answerIds (s.oneshot r) := by
  refine List.mem_append.mp (h.holds.subset ?_)
  exact List.mem_append_right _ (List.mem_append_left _ hid)

/-- A move that is not about the connection. -/
lemma Hands.of_other (h : Uploads id s read hand) (hb : Books s) (hr : s.tasks r = some t)
    (hacted : Acted x r t t' s s') (htook : Took sm m r t t' s s') (hreads : m.reads id = [])
    (hsends : m.sends id = []) (hhand : id ∈ t.holds → t'.inHand = t.inHand ∨ t'.holds = [])
    (hclose : m = .close id → hand = []) : Hands id m t t' hand hand where
  stream := by rw [hreads, hsends, List.append_nil, List.nil_append]
  held hid := by
    rcases hacted.held hid with hold | hans
    · rcases hhand hold with heq | hnone
      · exact heq.trans (h.held r t hr hold)
      · rw [hnone] at hid
        cases hid
    · rw [h.answered r hans]
      refine htook.kept.fresh.resolve_right fun hsub => ?_
      have hnodup := hb.nodup r
      rw [Server.holds_eq hr] at hnodup
      exact (List.nodup_append.mp hnodup).2.2 id (hsub hid) id hans rfl
  changed := .inl ⟨rfl, hreads, hsends⟩
  close := hclose

/-- A step of a task moves the bytes between its hand and the channel. -/
lemma Uploads.task (h : Uploads id s read hand) (hb : Books s) (hr : s.tasks r = some t)
    (hacted : Acted x r t t' s s') (htook : Took sm m r t t' s s') :
    ∃ hand', Uploads id s' (read ++ m.reads id) hand' := by
  have hhand := htook.hand
  have hother : ∀ id', t.holds = [id'] → id' ≠ id → id ∉ t.holds := by
    intro id' hown hne hid
    rw [hown, List.mem_singleton] at hid
    exact hne hid.symm
  cases m with
  | read id' data =>
      obtain ⟨hown, hin, hin'⟩ := hhand
      by_cases hid : id' = id
      · subst hid
        have hheld := h.held r t hr (hown ▸ List.mem_singleton_self id')
        refine ⟨data, h.took hb hr hacted htook ⟨?_, fun _ => hin', .inr hown, by simp⟩⟩
        rw [← hheld, hin, Move.reads, if_pos rfl]
        rfl
      · exact ⟨hand, h.took hb hr hacted htook (.of_other h hb hr hacted htook (if_neg hid) rfl
          (fun hmem => absurd hmem (hother id' hown hid)) (by simp))⟩
  | send id' data =>
      obtain ⟨hown, hin, hin'⟩ := hhand
      by_cases hid : id' = id
      · subst hid
        have hheld := h.held r t hr (hown ▸ List.mem_singleton_self id')
        refine ⟨[], h.took hb hr hacted htook ⟨?_, fun _ => hin', .inr hown, by simp⟩⟩
        rw [← hheld, hin, Move.sends, if_pos rfl]
        rfl
      · exact ⟨hand, h.took hb hr hacted htook (.of_other h hb hr hacted htook rfl (if_neg hid)
          (fun hmem => absurd hmem (hother id' hown hid)) (by simp))⟩
  | close id' =>
      obtain ⟨hown, hin, hfree⟩ := hhand
      refine ⟨hand, h.took hb hr hacted htook (.of_other h hb hr hacted htook rfl rfl
        (fun _ => .inr hfree) fun hm => ?_)⟩
      obtain rfl : id' = id := by
        cases hm
        rfl
      exact (h.held r t hr (hown ▸ List.mem_singleton_self id')).symm.trans hin
  | quiet | chunk | drained =>
      exact ⟨hand, h.took hb hr hacted htook (.of_other h hb hr hacted htook rfl rfl
        (fun _ => hhand) (by simp))⟩

/-! ### Runs -/

lemma start_uploads (id : ℕ) (iface : Interface) : Uploads id (Server.start iface) [] [] where
  stream := rfl
  held r t ht := by cases ht
  answered _ _ := rfl
  unopened _ := rfl
  closed _ := rfl
  last := List.Pairwise.nil
  half y hy := by cases hy

/-- What holds while the netstack of the server runs: it has made a run of its own, and every byte
is accounted for. -/
structure Reading (sm : Smoltcp) (iface : Interface) (id : ℕ) (s : Server) (read : Bytes) :
    Prop where
  run : ∃ ns, Machine.run (Netstack.step sm) (.spawned iface) ns = some s.stack
  books : Books s
  uploads : ∃ hand, Uploads id s read hand

lemma readStep_reading {iface : Interface} {e : Ev} (he : ¬ s.Ended)
    (h : Reading sm iface id s read) (hstep : step sm s e = some s') :
    Reading sm iface id s' (read ++ e.reads id s) := by
  have hstepped := stepped he h.books hstep
  refine ⟨run_stack h.run hstepped, (step_books he h.books hstep).1, ?_⟩
  obtain ⟨hand, hup⟩ := h.uploads
  have hnone : (∀ r a, e ≠ .task r a) → e.reads id s = [] := by
    intro hne
    cases e with
    | task r a => exact absurd rfl (hne r a)
    | _ => rfl
  cases hstepped with
  | netstack hnet hran _ hdata hne =>
      rw [hnone hne, List.append_nil]
      exact ⟨hand, hup.netstack h.books hnet hran hdata⟩
  | quiet hstack hdata honeshot htasks hne =>
      rw [hnone hne, List.append_nil]
      exact ⟨hand, hup.quietly hstack hdata honeshot htasks⟩
  | task hr _ hacted htook =>
      rw [Ev.reads, hr]
      exact hup.task h.books hr hacted htook

/-- **Where the bytes of a client are**, in every run: the socket was given some, the connection
has some pending, some are in the channel and some in the hand of the task, in this order; a
half-close comes behind all of them. -/
theorem uploads_conserved {iface : Interface} {es : List Ev}
    (h : Machine.run (readStep sm id) (Server.start iface, []) es = some (s, read))
    (he : ¬ s.Ended) (hid : s.stack.tcpConns id = some st) :
    ∃ t hand, s.stack.tcp st.handle = some t
      ∧ t.sent ++ st.pending ++ bytesOf id s.data.items ++ hand = read
      ∧ (∀ r u, s.tasks r = some u → id ∈ u.holds → u.inHand = hand)
      ∧ (st.halfClosed = true → t.sent ++ st.pending = read) := by
  have hI : s.Ended ∨ Reading sm iface id s read := by
    refine Machine.run_invariant
      (I := fun p : Server × Bytes => p.1.Ended ∨ Reading sm iface id p.1 p.2) ?_
      (.inr ⟨⟨[], rfl⟩, start_books iface, [], start_uploads id iface⟩) h
    rintro ⟨s, read⟩ e p hI hstep
    obtain ⟨s', hs', rfl⟩ := Option.map_eq_some_iff.mp hstep
    by_cases he : s.Ended
    · exact .inl (step_ended hs' he)
    · exact .inr (readStep_reading he (hI.resolve_left he) hs')
  obtain ⟨⟨ns, hns⟩, hb, hand, hup⟩ := hI.resolve_left he
  obtain ⟨t, ht⟩ := Netstack.exists_socket (Netstack.tables_matched hns) hid
  have hv : Netstack.View.Conserved
      ⟨st, t, s.stack.handled id, s.stack.delivered id, s.stack.pc.inflight id⟩ :=
    Netstack.run_view (fun _ _ _ _ => rfl) (fun _ _ => Netstack.conserved_step) hns
      (Netstack.view_eq hid ht)
  rw [Netstack.View.Conserved] at hv
  refine ⟨t, hand, ht, hv ▸ hup.stream, hup.held, fun hhalf => ?_⟩
  have hy : s.stack.tcpEnds id = some st.ends := by
    rw [NetStack.tcpEnds, hid]
    rfl
  have hs := hup.stream
  rw [hup.half _ hy hhalf, hup.closed (.inr ⟨_, hy, hhalf⟩), List.append_nil, List.append_nil] at hs
  exact hv.trans hs

/-- A client sends six bytes: two are sent on, one is pending, one queued, two just read. -/
def uploadRun : List Ev :=
  turn [] ++ [.accept 0 (.connect (.ip (.v4 Netstack.sampleV4)) 80), .task 0 .sent, .cmd 0 none]
    ++ ([Netstack.samplePoll .established [] [1], .serviceTcp 0, .finishTcp]
      ++ Netstack.samplePass).map .stack
    ++ [.task 0 .answered, .task 0 (.replied true), .task 0 (.read (some [1, 2, 3])), .task 0 .sent,
      .task 0 (.read (some [4])), .task 0 .sent, .data true, .stack .dataDone]
    ++ ([Netstack.samplePoll .established [] [1], .serviceTcp 2, .finishTcp]
      ++ Netstack.samplePass).map .stack
    ++ [.task 0 (.read (some [5, 6]))]

/-- None of them is lost. -/
theorem uploads_conserved_sample : ∃ s st t hand,
    Machine.run (readStep Netstack.stdSmoltcp 1) (Server.start Netstack.sampleIface, []) uploadRun
        = some (s, [1, 2, 3, 4, 5, 6])
      ∧ s.stack.tcpConns 1 = some st ∧ st.pending = [3] ∧ bytesOf 1 s.data.items = [4]
      ∧ s.stack.tcp st.handle = some t
      ∧ t.sent ++ st.pending ++ bytesOf 1 s.data.items ++ hand = [1, 2, 3, 4, 5, 6] := by
  obtain ⟨s, hs, he, st, hid, hpending, hqueued⟩ : ∃ s,
      Machine.run (readStep Netstack.stdSmoltcp 1) (Server.start Netstack.sampleIface, []) uploadRun
        = some (s, [1, 2, 3, 4, 5, 6]) ∧ ¬ s.Ended ∧ ∃ st, s.stack.tcpConns 1 = some st
        ∧ st.pending = [3] ∧ bytesOf 1 s.data.items = [4] :=
    ⟨_, rfl, by decide, _, rfl, rfl, rfl⟩
  obtain ⟨t, hand, ht, hstream, -⟩ := uploads_conserved hs he hid
  exact ⟨s, st, t, hand, hs, hid, hpending, hqueued, ht, hstream⟩

end Aether.Socks
