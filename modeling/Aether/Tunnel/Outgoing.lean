import Aether.Masque.Encode
import Aether.Tunnel.Drain

/-!
The sending half of `masque_h2::run`: `send_capsule`, and the request stream as the edge reads it.

The machine is the loop of `Aether.Tunnel.H2` with its request stream: an event also carries
what a `send_capsule` of the iteration meets in the flow control of HTTP/2.

* `sendCapsule_cases`: a capsule goes onto the stream whole, and once all of it may, or not at all.
* `Sender.Framed`: the stream is the capsules accepted so far, whatever the run.
* `stream_delivers`: **the tunnel transports packets**: however the stream is cut on its way, the
  packets that a drain at its other end hands on are those accepted, in order, and of the packets
  taken from the netstack at most the last one, the one a run fails with, is missing.
-/

namespace Aether.Tunnel.H2

open Framing Machine
open Masque (CapsuleParser Capsule capsuleDecoder encodeDatagramCapsule)

/-! ### `send_capsule` -/

/-- What `send_capsule` meets: the results of `poll_capacity`, one after the other, and that of
`send_data`. -/
structure FlowControl where
  polls : List (Option (Except String ℕ))
  sendData : Except String Unit

/-- The loop over `poll_capacity`; `none` as long as there is too little. -/
def awaitCapacity (len : ℕ) : List (Option (Except String ℕ)) → Option (Except AetherError Unit)
  | [] => none
  | some (.ok n) :: polls => if len ≤ n then some (.ok ()) else awaitCapacity len polls
  | some (.error e) :: _ => some (.error (.masque s!"h2 capacity: {e}"))
  | none :: _ => some (.error (.masque "h2 stream closed"))

/-- `send_capsule`: its result and the bytes that go onto the stream; `none` while it waits. -/
def sendCapsule (f : FlowControl) (data : Bytes) : Option (Outcome × Bytes) :=
  if data.length = 0 then some (.ok (), [])
  else
    match awaitCapacity data.length f.polls with
    | none => none
    | some (.error e) => some (.error e, [])
    | some (.ok ()) =>
        match f.sendData with
        | .error e => some (.error (.masque s!"h2 send_data: {e}"), [])
        | .ok () => some (.ok (), data)

lemma awaitCapacity_ok {len : ℕ} {polls : List (Option (Except String ℕ))}
    (h : awaitCapacity len polls = some (.ok ())) : ∃ n, some (.ok n) ∈ polls ∧ len ≤ n := by
  induction polls with
  | nil => cases h
  | cons poll polls ih =>
      rcases poll with _ | _ | n
      · cases h
      · cases h
      · rw [awaitCapacity] at h
        split at h
        · exact ⟨n, List.mem_cons_self, ‹_›⟩
        · obtain ⟨m, hm, hle⟩ := ih h
          exact ⟨m, List.mem_cons_of_mem _ hm, hle⟩

/-- A capsule goes onto the stream as a whole, and not before the peer has granted the capacity
for all of it, or the call fails and nothing does. -/
lemma sendCapsule_cases {f : FlowControl} {data out : Bytes} {r : Outcome}
    (h : sendCapsule f data = some (r, out)) :
    (r = .ok () ∧ out = data ∧ (data = [] ∨ ∃ n, some (.ok n) ∈ f.polls ∧ data.length ≤ n))
      ∨ ((∃ e, r = .error e) ∧ out = []) := by
  rw [sendCapsule] at h
  split at h
  · rename_i hlen
    obtain rfl := List.length_eq_zero_iff.mp hlen
    cases h
    exact .inl ⟨rfl, rfl, .inl rfl⟩
  · split at h
    · cases h
    · cases h
      exact .inr ⟨⟨_, rfl⟩, rfl⟩
    · rename_i hawait
      split at h <;> cases h
      · exact .inr ⟨⟨_, rfl⟩, rfl⟩
      · exact .inl ⟨rfl, rfl, .inr (awaitCapacity_ok hawait)⟩

/-! ### The stream -/

/-- What an iteration sends: the probe of the validation, or a packet of the netstack. -/
inductive Message where
  | probe
  | packet (p : Bytes)
  deriving DecidableEq, Repr

namespace Message

/-- The IP packet inside. -/
def inner (probe : Bytes) : Message → Bytes
  | .probe => probe
  | .packet p => p

/-- The packet, if it is one of the netstack. -/
def ofStack? : Message → Option Bytes
  | .probe => none
  | .packet p => some p

end Message

/-- Whether a chunk brings a success that is not the last one needed: the next probe goes out. -/
def followsUp (s : Loop) (chunk : Bytes) (takes : Option ℕ) : Bool :=
  !(drainCapsules takes (s.capsules.push chunk)).packets.isEmpty && !s.ready.readyFired
    && s.ready.validateSuccesses + 1 < dataProbeRequiredSuccesses

/-- What an event makes `run` send: the first probe behind the response, and in an iteration that
reaches its `select` what the branch sends. -/
def message (s : Loop) : Ev → Option Message
  | .failed _ => none
  | .response (.error _) _ => none
  | .response (.ok code) _ => if isSuccess code && s.ready.dataCheck then some .probe else none
  | .turn t =>
      if s.ready.expired t.now || s.pongDeadline.any (· ≤ t.pongNow) then none
      else
        match t.branch with
        | .probe => some .probe
        | .outbound (some p) _ => some (.packet p)
        | .data (some (.ok chunk)) takes => if followsUp s chunk takes then some .probe else none
        | _ => none

/-- The result of a send is what the iteration goes on with; only for a packet of the netstack it
is looked at. -/
def agrees (r : Outcome) : Ev → Bool
  | .turn ⟨_, _, .outbound (some _) sent⟩ =>
      match r, sent with
      | .ok (), .ok () => true
      | .error e, .error e' => e = e'
      | _, _ => false
  | _ => true

/-- The loop and its request stream: the bytes on it, the messages accepted, and the packets taken
from the outbound channel. -/
structure Sender where
  loop : Loop
  stream : Bytes
  accepted : List Message
  taken : List Bytes

namespace Sender

def start (l : Loop) : Sender := ⟨l, [], [], []⟩

/-- One event, with what its `send_capsule` meets. The encoder panics on a packet without a
length field for it, and an event whose send waits for ever does not end. -/
def step (probe : Bytes) (s : Sender) (x : Ev × FlowControl) : Option Sender :=
  match message s.loop x.1 with
  | none => (H2.step s.loop x.1).map fun l => { s with loop := l }
  | some m =>
      (encodeDatagramCapsule (m.inner probe)).bind fun framed =>
        (sendCapsule x.2 framed).bind fun (r, out) =>
          if agrees r x.1 then
            (H2.step s.loop x.1).map fun l =>
              { loop := l
                stream := s.stream ++ out
                accepted := if r.isOk then s.accepted ++ [m] else s.accepted
                taken := s.taken ++ m.ofStack?.toList }
          else none

/-- What a step does: its `send_capsule`, if there is one, ends, and then the loop steps. -/
lemma step_cases {probe : Bytes} {s s' : Sender} {x : Ev × FlowControl}
    (h : step probe s x = some s') :
    H2.step s.loop x.1 = some s'.loop
      ∧ ((message s.loop x.1 = none ∧ s' = { s with loop := s'.loop })
        ∨ ∃ m framed r out, message s.loop x.1 = some m
          ∧ encodeDatagramCapsule (m.inner probe) = some framed
          ∧ sendCapsule x.2 framed = some (r, out) ∧ agrees r x.1 = true
          ∧ s' = ⟨s'.loop, s.stream ++ out, if r.isOk then s.accepted ++ [m] else s.accepted,
            s.taken ++ m.ofStack?.toList⟩) := by
  rw [step] at h
  split at h
  · rename_i hm
    obtain ⟨l, hl, rfl⟩ := Option.map_eq_some_iff.mp h
    exact ⟨hl, .inl ⟨hm, rfl⟩⟩
  · rename_i m hm
    obtain ⟨framed, hframed, h⟩ := Option.bind_eq_some_iff.mp h
    obtain ⟨⟨r, out⟩, hsend, h⟩ := Option.bind_eq_some_iff.mp h
    obtain ⟨hagrees, h⟩ := Option.ite_none_right_eq_some.mp h
    obtain ⟨l, hl, rfl⟩ := Option.map_eq_some_iff.mp h
    exact ⟨hl, .inr ⟨m, framed, r, out, hm, hframed, hsend, hagrees, rfl⟩⟩

end Sender

/-! ### The capsules on the stream -/

/-- The DATAGRAM capsule of a packet. -/
def frame (p : Bytes) : Bytes := Masque.varint 0 ++ (Masque.varint p.length ++ p)

lemma encodeDatagramCapsule_eq_some {p framed : Bytes} (h : encodeDatagramCapsule p = some framed) :
    p.length < 2 ^ 62 ∧ framed = frame p := by
  have hlen : p.length < 2 ^ 62 := by
    by_contra hge
    have hnone : Octets.varintLen p.length = none := by
      rw [Octets.varintLen, if_neg, if_neg, if_neg, if_neg] <;> omega
    rw [encodeDatagramCapsule, Masque.encodeCapsule] at h
    simp only [OctetsMut.putVarint, Octets.varint, hnone, Option.map_none, Option.bind_eq_bind,
      Option.bind_none, Option.bind_fun_none, reduceCtorEq] at h
  refine ⟨hlen, ?_⟩
  rw [encodeDatagramCapsule, Masque.encodeCapsule_eq (by decide) hlen] at h
  exact (Option.some.inj h).symm

/-- The peer finds a capsule at the front of its buffer, whatever is behind it. -/
lemma next_frame {p : Bytes} (h : p.length < 2 ^ 62) (more : Bytes) :
    capsuleDecoder.next (frame p ++ more) = some (.ok (.datagram p), (frame p).length) :=
  CapsuleParser.nextFrame_append (Masque.frameOf 0 p (by decide) h) more

/-- What the peer decodes from the capsules of packets. -/
lemma decode_frames {ps : List Bytes} (h : ∀ p ∈ ps, p.length < 2 ^ 62) :
    capsuleDecoder.decode (ps.map frame).flatten = (ps.map fun p => .ok (.datagram p), []) := by
  have hnil : capsuleDecoder.decode [] = ([], []) := capsuleDecoder.decode_of_none rfl
  have hdecode := capsuleDecoder.decode_flatten (fun p hp more => next_frame (h p hp) more) []
  rw [List.append_nil, hnil, List.append_nil] at hdecode
  exact hdecode

namespace Sender

/-- The stream is the capsules of the messages accepted, and each of them has a length. -/
structure Framed (probe : Bytes) (s : Sender) : Prop where
  stream : s.stream = ((s.accepted.map (Message.inner probe)).map frame).flatten
  short : ∀ p ∈ s.accepted.map (Message.inner probe), p.length < 2 ^ 62

lemma start_framed (probe : Bytes) (l : Loop) : (start l).Framed probe where
  stream := rfl
  short _ hp := absurd hp List.not_mem_nil

/-- A message accepted is a capsule at the end of the stream; one that fails leaves nothing. -/
lemma step_framed {probe : Bytes} (s : Sender) (x : Ev × FlowControl) (s' : Sender)
    (hs : s.Framed probe) (h : step probe s x = some s') : s'.Framed probe := by
  obtain ⟨-, ⟨-, heq⟩ | ⟨m, framed, r, out, -, hframed, hsend, -, heq⟩⟩ := step_cases h
  · rw [heq]
    exact ⟨hs.stream, hs.short⟩
  · obtain ⟨hlen, rfl⟩ := encodeDatagramCapsule_eq_some hframed
    rw [heq]
    rcases sendCapsule_cases hsend with ⟨rfl, rfl, -⟩ | ⟨⟨e, rfl⟩, rfl⟩
    · refine ⟨?_, ?_⟩
      · simp [hs.stream, Except.isOk, Except.toBool]
      · intro p hp
        simp only [Except.isOk, Except.toBool, if_true, List.map_append, List.map_cons,
          List.map_nil, List.mem_append, List.mem_singleton] at hp
        rcases hp with hp | rfl
        · exact hs.short p hp
        · exact hlen
    · exact ⟨(List.append_nil _).trans hs.stream, hs.short⟩

/-! ### The packets of the netstack -/

/-- The packets taken are those accepted, and the one that ended the run, if one did. -/
def Passed (s : Sender) : Prop :=
  s.taken = s.accepted.filterMap Message.ofStack?
    ∨ ∃ p e, s.taken = s.accepted.filterMap Message.ofStack? ++ [p]
      ∧ s.loop.result = some (.error e)

/-- An iteration that sends something gets as far as its `select`. -/
lemma iterate_of_message {l : Loop} {t : Turn} {m : Message} (hr : l.result = none)
    (h : message l (.turn t) = some m) : iterate t l = select t l := by
  simp only [message] at h
  split at h
  · cases h
  · rename_i hchecks
    simp only [Bool.or_eq_true, not_or] at hchecks
    rw [iterate, checkDeadline, if_neg hchecks.1, Loop.andThen_running hr, checkPong,
      if_neg hchecks.2, Loop.andThen_running hr]

/-- A packet is sent by an iteration that takes it from the channel. -/
lemma branch_of_message {l : Loop} {e : Ev} {p : Bytes} (h : message l e = some (.packet p)) :
    ∃ t sent, e = .turn t ∧ t.branch = .outbound (some p) sent := by
  cases e with
  | failed e => cases h
  | response status now =>
      cases status with
      | error e => cases h
      | ok code =>
          simp only [message] at h
          split at h <;> cases h
  | turn t =>
      simp only [message] at h
      split at h
      · cases h
      · split at h
        · cases h
        · rename_i sent hbranch
          cases h
          exact ⟨t, sent, rfl, hbranch⟩
        · split at h <;> cases h
        · cases h

/-- A packet whose send fails ends the run. -/
lemma result_of_failed {l l' : Loop} {t : Turn} {p : Bytes} {e : AetherError} {sent : Outcome}
    (hstep : H2.step l (.turn t) = some l') (hm : message l (.turn t) = some (.packet p))
    (hbranch : t.branch = .outbound (some p) sent) (hagrees : agrees (.error e) (.turn t) = true) :
    l'.result = some (.error e) := by
  obtain ⟨now, pongNow, branch⟩ := t
  obtain rfl : branch = .outbound (some p) sent := hbranch
  obtain ⟨⟨hr, -, -⟩, hl⟩ := Option.ite_none_right_eq_some.mp hstep
  rw [iterate_of_message hr hm, Option.some.injEq] at hl
  cases sent with
  | ok u => cases hagrees
  | error e' =>
      obtain rfl : e = e' := of_decide_eq_true hagrees
      rw [← hl]
      rfl

lemma step_passed {probe : Bytes} (s : Sender) (x : Ev × FlowControl) (s' : Sender)
    (hs : s.Passed) (h : step probe s x = some s') : s'.Passed := by
  obtain ⟨hl, hcase⟩ := step_cases h
  obtain ⟨hr, -⟩ := H2.step_cases hl
  -- a loop that still steps has lost nothing
  have htaken : s.taken = s.accepted.filterMap Message.ofStack? := by
    rcases hs with htaken | ⟨p, e, -, hresult⟩
    · exact htaken
    · rw [hr] at hresult
      cases hresult
  rcases hcase with ⟨-, heq⟩ | ⟨m, framed, r, out, hm, -, hsend, hagrees, heq⟩
  · rw [heq]
    exact .inl htaken
  · rw [heq]
    cases m with
    | probe =>
        refine .inl ?_
        cases hok : r.isOk <;> simp [htaken, Message.ofStack?]
    | packet p =>
        obtain ⟨t, sent, hx, hbranch⟩ := branch_of_message hm
        rw [hx] at hl hm hagrees
        cases r with
        | ok u => exact .inl (by simp [htaken, Message.ofStack?, Except.isOk, Except.toBool])
        | error e =>
            refine .inr ⟨p, e, ?_, result_of_failed hl hm hbranch hagrees⟩
            simp [htaken, Message.ofStack?, Except.isOk, Except.toBool]

end Sender

/-! ### The other end of the stream -/

/-- What has arrived of the stream has been handed on, as far as its capsules are complete. -/
structure Arrived (f : Fed) : Prop where
  kept : Kept f
  delivered : Delivered f

/-- A chunk of a stream of packets' capsules completes no malformed one. -/
lemma clear_of_frames {ps : List Bytes} (h : ∀ p ∈ ps, p.length < 2 ^ 62) {f : Fed} {chunk : Bytes}
    (hf : Arrived f) (hinit : f.received ++ chunk <+: (ps.map frame).flatten) :
    Clear f chunk := by
  have hrest : (capsuleDecoder.decode f.received).2 = f.capsules.buf := by
    rw [← hf.kept.2, capsuleDecoder.decode_of_none ((delivered_iff_next hf.kept).mp hf.delivered)]
  intro r hr
  have hmem : r ∈ (capsuleDecoder.decode (f.received ++ chunk)).1 := by
    rw [capsuleDecoder.decode_append, hrest]
    exact List.mem_append_right _ (List.dropLast_subset _ hr)
  have hall := (capsuleDecoder.decode_prefix hinit).subset hmem
  rw [decode_frames h] at hall
  obtain ⟨p, -, rfl⟩ := List.mem_map.mp hall
  rfl

/-- The drain at the other end keeps up with the stream, in whatever chunks it comes. -/
lemma run_arrived {ps : List Bytes} (h : ∀ p ∈ ps, p.length < 2 ^ 62) {chunks : List Bytes}
    {f g : Fed} (hf : Arrived f) (hrun : run feed f chunks = some g)
    (hinit : f.received ++ chunks.flatten <+: (ps.map frame).flatten) :
    Arrived g ∧ g.received = f.received ++ chunks.flatten := by
  induction chunks generalizing f with
  | nil =>
      rw [run_nil, Option.some.injEq] at hrun
      rw [← hrun, List.flatten_nil, List.append_nil]
      exact ⟨hf, rfl⟩
  | cons chunk chunks ih =>
      obtain ⟨t, ht, hrest⟩ := run_cons_eq_some.mp hrun
      rw [List.flatten_cons, ← List.append_assoc] at hinit ⊢
      have hclear := clear_of_frames h hf ((List.prefix_append _ _).trans hinit)
      have hreceived : t.received = f.received ++ chunk := by
        obtain rfl := Option.some.inj ht
        rfl
      rw [← hreceived] at hinit ⊢
      exact ih ⟨feed_kept hf.kept ht, (feed_delivered_iff hf.kept ht).mp hclear⟩ hrest hinit

/-- **The request stream transports packets.** In every run of the loop, whatever the flow control
does, the stream is the capsules of the messages accepted. The peer that receives a part of it, in
any chunks, hands on an initial part of the packets accepted, and all of them, with nothing left in
its buffer, where it is the whole stream. The packets taken from the netstack are those accepted
among them, in order, but for the one whose failure the run has returned with. -/
theorem stream_delivers (probe : Bytes) (l : Loop) (es : List (Ev × FlowControl)) (s : Sender)
    (h : run (Sender.step probe) (Sender.start l) es = some s) :
    s.stream = ((s.accepted.map (Message.inner probe)).map frame).flatten
      ∧ (∀ chunks f, chunks.flatten <+: s.stream → run feed Fed.start chunks = some f →
        f.sent <+: s.accepted.map (Message.inner probe)
          ∧ (chunks.flatten = s.stream →
            f.sent = s.accepted.map (Message.inner probe) ∧ f.capsules.buf = []))
      ∧ (s.taken = s.accepted.filterMap Message.ofStack?
        ∨ ∃ p e, s.taken = s.accepted.filterMap Message.ofStack? ++ [p]
          ∧ s.loop.result = some (.error e)) := by
  have hframed := run_invariant Sender.step_framed (Sender.start_framed probe l) h
  have hpassed := run_invariant Sender.step_passed (.inl rfl) h
  refine ⟨hframed.stream, ?_, hpassed⟩
  intro chunks f hinit hrun
  rw [hframed.stream] at hinit ⊢
  have hstart : Arrived Fed.start := ⟨start_kept, (delivered_iff_next start_kept).mpr rfl⟩
  obtain ⟨harrived, hreceived⟩ := run_arrived hframed.short hstart hrun hinit
  rw [show Fed.start.received = [] from rfl, List.nil_append] at hreceived
  have hdecode := decode_frames hframed.short
  have hpackets : ∀ ps : List Bytes,
      (ps.map fun p => (.ok (.datagram p) : Except AetherError Capsule)).filterMap packet? = ps := by
    intro ps
    rw [List.filterMap_map]
    exact List.filterMap_some
  have hsent : f.sent = datagrams chunks.flatten := by rw [harrived.delivered.1, hreceived]
  constructor
  · have := (capsuleDecoder.decode_prefix hinit).filterMap packet?
    rwa [hdecode, hpackets, ← datagrams, ← hsent] at this
  · intro hwhole
    rw [hwhole] at hsent hreceived
    refine ⟨by rw [hsent, datagrams, hdecode, hpackets], ?_⟩
    have hbuf := harrived.kept.2
    rwa [hreceived, hdecode, capsuleDecoder.decode_of_none
      ((delivered_iff_next harrived.kept).mp harrived.delivered)] at hbuf

/-- A packet that waits for its capacity, and is read in two pieces. -/
theorem stream_delivers_pieces :
    ∃ s f, run (Sender.step []) (Sender.start (.start false true 0 0))
        [(.response (.ok 200) 0, ⟨[], .ok ()⟩),
          (.turn ⟨0, 0, .outbound (some [69]) (.ok ())⟩, ⟨[some (.ok 1), some (.ok 3)], .ok ()⟩)]
        = some s
      ∧ s.taken = [[69]] ∧ run feed Fed.start [[0], [1, 69]] = some f ∧ f.sent = [[69]] := by
  obtain ⟨f, hf⟩ := exists_run_feed Fed.start [[0], [1, 69]]
  have hall := stream_delivers [] (.start false true 0 0)
    [(.response (.ok 200) 0, ⟨[], .ok ()⟩),
      (.turn ⟨0, 0, .outbound (some [69]) (.ok ())⟩, ⟨[some (.ok 1), some (.ok 3)], .ok ()⟩)] _ rfl
  exact ⟨_, f, rfl, rfl, hf, ((hall.2.1 [[0], [1, 69]] f (List.prefix_refl _) hf).2 rfl).1⟩

end Aether.Tunnel.H2
