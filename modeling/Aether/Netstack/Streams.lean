import Aether.Netstack.Conn

/-!
The two byte streams of a connection.

Upstream, the bytes handed to the socket and the pending buffer make up what the
application sent; downstream, the bytes delivered, those on their way to the
application and those in the receive buffer make up what smoltcp received. Both hold
of a new connection and survive each of its changes, so `run_view` gives them for
every run.

* `conserved_step`: a change moves bytes from the pending buffer to the socket, or adds
  those of a message to both sides.
* `inOrder_step`: a pass drains the ring buffer into the chunks it delivers.
* `run_conserved`, `run_inOrder`: both hold after every run.
-/

namespace Aether.Netstack

variable {sm : Smoltcp} {iface : Interface} {es : List Ev} {s s' : NetStack} {id : ℕ}
  {st : TcpState} {t : TcpSocket} {v v' : View}

@[simp] lemma seen_pending (st : TcpState) (state : State) :
    (st.seen state).pending = st.pending := by
  rw [TcpState.seen]; split <;> rfl

@[simp] lemma seen_rxDropped (st : TcpState) (state : State) :
    (st.seen state).rxDropped = st.rxDropped := by
  rw [TcpState.seen]; split <;> rfl

/-! ### Upstream -/

/-- What was handed to the socket, then what is pending, is what the application sent. -/
def View.Conserved (v : View) : Prop := v.socket.sent ++ v.entry.pending = v.handled

/-- A partial write moves a prefix of the pending buffer to the socket. -/
lemma sendPending_conserved (st : TcpState) (t : TcpSocket) (accept : ℕ) :
    (sendPending st t accept).2.sent ++ (sendPending st t accept).1.pending
      = t.sent ++ st.pending := by
  rw [sendPending, TcpSocket.sendSlice]
  dsimp only
  rw [List.append_assoc, List.take_append_drop]

/-- A flush moves bytes from the pending queue to the socket. -/
lemma flushed_conserved (sm : Smoltcp) (v : View) (accept : ℕ) :
    (v.flushed sm accept).2.sent ++ (v.flushed sm accept).1.pending
      = v.socket.sent ++ v.entry.pending := by
  have h := sendPending_conserved (v.entry.seen v.socket.state) v.socket accept
  rw [seen_pending] at h
  rw [View.flushed]
  dsimp only
  split <;> exact h

/-- No step of a connection loses or doubles a byte of the upstream. -/
lemma conserved_step (hv : v.Conserved) (h : ConnStep sm v v') : v'.Conserved := by
  rw [View.Conserved] at hv ⊢
  cases h with
  | data d =>
      rw [← hv, ← List.append_assoc]
  | serviced accept _ _ =>
      rw [View.serviced]
      exact (flushed_conserved sm v accept).trans hv
  | finished _ =>
      rw [View.finished]
      dsimp only
      split <;> exact hv
  | _ => exact hv

lemma run_conserved (h : Machine.run (step sm) (.spawned iface) es = some s)
    (hid : s.tcpConns id = some st) (ht : s.tcp st.handle = some t) :
    t.sent ++ st.pending = s.handled id :=
  run_view (P := View.Conserved) (fun _ _ _ _ => rfl) (fun _ _ => conserved_step) h (view_eq hid ht)

/-! ### Draining the ring buffer -/

/-- The chunks of a pass and what stays behind are the content of the buffer. -/
lemma recvChunks_content (n : ℕ) (b : RingBuf) :
    (recvChunks n b).1.flatten ++ (recvChunks n b).2.content = b.content := by
  induction n generalizing b with
  | zero => rfl
  | succ n ih =>
      rw [recvChunks]
      split
      · rw [List.flatten_cons, List.append_assoc, ih, b.recv_content]
      · rfl

/-- A buffer with nothing to receive is empty. -/
lemma content_of_not_canRecv {b : RingBuf} (h : ¬ b.canRecv) : b.content = [] := by
  have hf : b.front = [] := by simpa [RingBuf.canRecv] using h
  rw [RingBuf.content, hf, b.wrapped_of_front hf]
  rfl

/-- A buffer is its front and its wrapped piece, so two chunks drain it. -/
lemma recvChunks_drains (n : ℕ) (b : RingBuf) : (recvChunks (n + 2) b).2.content = [] := by
  -- an empty buffer stays empty
  have hempty : ∀ m c, RingBuf.content c = [] → (recvChunks m c).2.content = [] := by
    intro m c hc
    have h := recvChunks_content m c
    rw [hc] at h
    exact (List.append_eq_nil_iff.mp h).2
  rw [recvChunks]
  split
  · rw [recvChunks]
    split
    · exact hempty n _ rfl
    · exact content_of_not_canRecv ‹_›
  · exact content_of_not_canRecv ‹_›

/-! ### Downstream -/

/-- The receive buffer is empty while its last content is being delivered, and as long
as the application listens, what was delivered, what is under way and what is
buffered are what smoltcp received. -/
structure View.InOrder (v : View) : Prop where
  drained : v.inflight ≠ none → v.socket.rx.content = []
  stream : v.entry.rxDropped = false →
    v.delivered ++ (v.inflight.getD []).flatten ++ v.socket.rx.content = v.socket.received

lemma opened_inOrder (h : Handle) (p : ℕ) (dst : SocketAddr) (resp : ℕ) :
    (View.opened h p dst resp).InOrder :=
  ⟨fun hin => absurd rfl hin, fun _ => rfl⟩

/-- The send part and the half-close leave the receive side alone. -/
lemma flushed_rx (sm : Smoltcp) (v : View) (accept : ℕ) :
    (v.flushed sm accept).2.rx = v.socket.rx
      ∧ (v.flushed sm accept).2.received = v.socket.received
      ∧ (v.flushed sm accept).1.rxDropped = v.entry.rxDropped := by
  rw [View.flushed]
  refine ⟨?_, ?_, seen_rxDropped ..⟩
  · dsimp only
    split <;> rfl
  · dsimp only
    split <;> rfl

lemma serviced_inOrder {accept : ℕ} (hv : v.InOrder) (hin : v.inflight = none) :
    (v.serviced sm accept).InOrder := by
  obtain ⟨hrx, hrec, hdrop⟩ := flushed_rx sm v accept
  refine ⟨fun _ => recvChunks_drains 126 _, fun hd => ?_⟩
  have hold := hv.stream (hdrop ▸ hd)
  rw [hin] at hold
  calc v.delivered ++ (recvChunks maxRecvChunks (v.flushed sm accept).2.rx).1.flatten
        ++ (recvChunks maxRecvChunks (v.flushed sm accept).2.rx).2.content
      = v.delivered ++ v.socket.rx.content := by
        rw [List.append_assoc, recvChunks_content, hrx]
    _ = v.socket.received := by rw [← hold]; simp
    _ = (v.flushed sm accept).2.received := hrec.symm

/-- No step of a connection reorders the downstream. -/
lemma inOrder_step (hv : v.InOrder) (h : ConnStep sm v v') : v'.InOrder := by
  cases h with
  | idle | data | halfClosed => exact ⟨hv.drained, hv.stream⟩
  | polled a hin =>
      refine ⟨fun h => absurd hin h, fun hd => ?_⟩
      have hold := hv.stream hd
      rw [hin] at hold ⊢
      simp only [TcpSocket.polled, RingBuf.content_layout]
      rw [← List.append_assoc, hold]
  | app toApp rxDropped hdrop =>
      refine ⟨hv.drained, fun hd => hv.stream ?_⟩
      by_contra h
      rw [Bool.not_eq_false] at h
      rw [hdrop h] at hd
      cases hd
  | serviced accept hin _ => exact serviced_inOrder hv hin
  | chunk c cs toApp hin hd =>
      refine ⟨fun _ => hv.drained (by rw [hin]; simp), fun _ => ?_⟩
      have hold := hv.stream hd
      rw [hin] at hold
      simpa using hold
  | appGone c cs hin hd =>
      refine ⟨fun _ => hv.drained (by rw [hin]; simp), fun hd' => ?_⟩
      rw [hd] at hd'
      cases hd'
  | finished hin =>
      refine ⟨fun h => absurd rfl h, fun hd => ?_⟩
      have hold := hv.stream hd
      rw [hin] at hold
      rw [View.finished]
      dsimp only
      split <;> exact hold

lemma run_inOrder (h : Machine.run (step sm) (.spawned iface) es = some s)
    (hid : s.tcpConns id = some st) (ht : s.tcp st.handle = some t) :
    View.InOrder ⟨st, t, s.handled id, s.delivered id, s.pc.inflight id⟩ :=
  run_view (fun _ _ _ _ => opened_inOrder ..) (fun _ _ => inOrder_step) h (view_eq hid ht)

end Aether.Netstack
