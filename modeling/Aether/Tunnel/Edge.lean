import Aether.Netstack.Lookups
import Aether.Tunnel.Drain
import Aether.Tunnel.Quic

/-!
From the bytes of the CONNECT-IP stream to the interface of the netstack.

A chunk of the stream is pushed to the capsule parser and drained; the addresses that a
drain assigns go over a bounded channel, which may drop some, to the bridge, and become
`SetAddrs` commands.

* `named`: the addresses that the `ADDRESS_ASSIGN` capsules of a stream name.
* `Via.fed_append_named`: the drains assign these addresses and no others.
* `edge_safe_iff`: **no cut of the stream can panic the stack, exactly when no address it
  names is multicast or broadcast.**
* `multicast_panics`: nine bytes that do.
-/

namespace Aether.Tunnel

open Masque (CapsuleParser CapsuleFrame Capsule capsuleDecoder)
open Netstack hiding Ev step Obs

/-! ### What a stream names -/

/-- The addresses of a capsule that reach the bridge. -/
def assignedBy : Except AetherError Capsule → List AssignedAddr
  | .ok (.addressAssign addrs) => addrs.filterMap assignedAddr
  | _ => []

/-- The addresses that a stream names, in order. -/
def named (stream : Bytes) : List AssignedAddr :=
  (capsuleDecoder.decode stream).1.flatMap assignedBy

/-- A drain takes some capsules from the front of the buffer, and assigns their
addresses. -/
def Drained (p : CapsuleParser) (out : List AssignedAddr) (q : CapsuleParser) : Prop :=
  ∃ rs, (capsuleDecoder.decode p.buf).1 = rs ++ (capsuleDecoder.decode q.buf).1
    ∧ (capsuleDecoder.decode p.buf).2 = (capsuleDecoder.decode q.buf).2
    ∧ out = rs.flatMap assignedBy

lemma Drained.stop (p : CapsuleParser) : Drained p [] p := ⟨[], rfl, rfl, rfl⟩

lemma Drained.take {p q : CapsuleParser} {r : Except AetherError Capsule} {n : ℕ}
    {out : List AssignedAddr} (hn : capsuleDecoder.next p.buf = some (r, n))
    (h : Drained ⟨p.buf.drop n⟩ out q) : Drained p (assignedBy r ++ out) q := by
  obtain ⟨rs, hfst, hsnd, rfl⟩ := h
  refine ⟨r :: rs, ?_, ?_, rfl⟩
  · rw [capsuleDecoder.decode_of_some hn, hfst]
    rfl
  · rw [capsuleDecoder.decode_of_some hn, hsnd]

/-- What a drain has not assigned is still named by the buffer it leaves. -/
lemma Drained.named_append {p q : CapsuleParser} {out : List AssignedAddr} (h : Drained p out q)
    (more : Bytes) : named (p.buf ++ more) = out ++ named (q.buf ++ more) := by
  obtain ⟨rs, hfst, hsnd, rfl⟩ := h
  rw [named, named, capsuleDecoder.decode_append, capsuleDecoder.decode_append q.buf, hfst, hsnd,
    List.append_assoc, List.flatMap_append]

/-- What `next` returns, as the decoder has it. -/
lemma next_cases (p : CapsuleParser) :
    p.next = (.ok none, p)
      ∨ ∃ r n, capsuleDecoder.next p.buf = some (r, n) ∧ p.next = (r.map some, ⟨p.buf.drop n⟩) := by
  have h := CapsuleParser.next_eq p
  cases hn : capsuleDecoder.next p.buf with
  | none =>
      rw [hn] at h
      exact .inl h
  | some rn =>
      obtain ⟨r, n⟩ := rn
      rw [hn] at h
      exact .inr ⟨r, n, rfl, h⟩

/-- A capsule that `next` takes. -/
lemma Drained.of_next {p q p' : CapsuleParser} {r : Except AetherError Capsule}
    {out : List AssignedAddr} (hr : p.next = (r.map some, q)) (hne : p.next.1 ≠ .ok none)
    (h : Drained q out p') : Drained p (assignedBy r ++ out) p' := by
  rcases next_cases p with hnone | ⟨r', n, hn, hnext⟩
  · rw [hnone] at hne
    exact absurd rfl hne
  · rw [hnext, Prod.mk.injEq] at hr
    obtain ⟨hmap, rfl⟩ := hr
    have hrr : r' = r := by
      cases r' <;> cases r <;> simp_all [Except.map]
    subst hrr
    exact .take hn h

/-- `next` asks for more and a drain ends. -/
lemma Drained.of_none {p q : CapsuleParser} (h : p.next = (.ok none, q)) : Drained p [] q := by
  rcases next_cases p with hnone | ⟨r, n, -, hnext⟩
  · rw [h] at hnone
    cases hnone
    exact .stop p
  · rw [h] at hnext
    cases r <;> cases hnext

/-- A capsule that names no address. -/
lemma Drained.skip {p q p' : CapsuleParser} {c : Capsule} {out : List AssignedAddr}
    (hr : p.next = (.ok (some c), q)) (hc : ∀ addrs, c ≠ .addressAssign addrs)
    (h : Drained q out p') : Drained p out p' := by
  have hnone : assignedBy (.ok c) = [] := by
    cases c with
    | addressAssign addrs => exact absurd rfl (hc addrs)
    | _ => rfl
  have hstep : Drained p (assignedBy (.ok c) ++ out) p' :=
    .of_next (r := .ok c) hr (by simp [hr]) h
  rw [hnone] at hstep
  exact hstep

lemma quic_drained (p : CapsuleParser) :
    Drained p (Quic.drainCapsules p).1 (Quic.drainCapsules p).2 := by
  fun_induction Quic.drainCapsules p with
  | case1 p addrs q h hlt ih => exact .of_next (r := .ok (.addressAssign addrs)) h (by simp [h]) ih
  | case2 p c q hc h hlt ih => exact .skip h (fun addrs hca => hc addrs hca) ih
  | case3 p q h => exact .of_none h
  | case4 p e q h => exact .of_next (r := .error e) h (by simp [h]) (.stop q)

lemma h2_drained (takes : Option ℕ) (p : CapsuleParser) :
    Drained p (H2.drainCapsules takes p).assigned (H2.drainCapsules takes p).parser := by
  fun_induction H2.drainCapsules takes p with
  | case1 p packet q h hlt => exact .skip h (by simp) (.stop q)
  | case2 takes p packet q h hlt htakes d ih => exact .skip h (by simp) ih
  | case3 takes p addrs q h hlt d ih =>
      exact .of_next (r := .ok (.addressAssign addrs)) h (by simp [h]) ih
  | case4 takes p c q hpacket hc h hlt ih => exact .skip h (fun addrs hca => hc addrs hca) ih
  | case5 takes p q h => exact .of_none h
  | case6 takes p e q h => exact .of_next (r := .error e) h (by simp [h]) (.stop q)

/-! ### The stream in chunks -/

/-- The two drains. -/
inductive Via where
  | quic
  | h2
  deriving DecidableEq, Repr

namespace Via

/-- One drain: over HTTP/2 the inbound channel takes `takes` more packets if that is a
number. -/
def drain (tr : Via) (takes : Option ℕ) (p : CapsuleParser) :
    List AssignedAddr × CapsuleParser :=
  match tr with
  | quic => Quic.drainCapsules p
  | h2 => ((H2.drainCapsules takes p).assigned, (H2.drainCapsules takes p).parser)

/-- The addresses that the drains of a sequence of chunks assign. -/
def fed (tr : Via) : List (Bytes × Option ℕ) → CapsuleParser → List AssignedAddr
  | [], _ => []
  | (chunk, takes) :: chunks, p =>
      let (assigned, q) := tr.drain takes (p.push chunk)
      assigned ++ tr.fed chunks q

lemma drain_drained (tr : Via) (takes : Option ℕ) (p : CapsuleParser) :
    Drained p (tr.drain takes p).1 (tr.drain takes p).2 := by
  cases tr with
  | quic => exact quic_drained p
  | h2 => exact h2_drained takes p

/-- **The drains assign what the stream names**, in order, perhaps not all of it yet. -/
lemma fed_prefix_named (tr : Via) (chunks : List (Bytes × Option ℕ)) (p : CapsuleParser) :
    tr.fed chunks p <+: named (p.buf ++ (chunks.map Prod.fst).flatten) := by
  induction chunks generalizing p with
  | nil => exact List.nil_prefix
  | cons c chunks ih =>
      obtain ⟨chunk, takes⟩ := c
      have hd := (tr.drain_drained takes (p.push chunk)).named_append
        (chunks.map Prod.fst).flatten
      rw [List.map_cons, List.flatten_cons, ← List.append_assoc]
      rw [show (p.push chunk).buf = p.buf ++ chunk from rfl] at hd
      rw [hd, fed]
      exact (List.prefix_append_right_inj _).mpr (ih _)

/-- A chunk that is one capsule is drained. -/
lemma drain_frame (tr : Via) (f : CapsuleFrame) :
    tr.drain none ⟨f.bytes⟩ = (assignedBy (Masque.capsuleOf f.kind f.value), .new) := by
  have hnil : CapsuleParser.next .new = (.ok none, .new) := rfl
  have hquic : Quic.drainCapsules .new = ([], .new) := by
    rw [Quic.drainCapsules]
    split <;> rename_i h <;> rw [hnil] at h <;> cases h
    rfl
  have hh2 : H2.drainCapsules none .new = ⟨[], [], .new⟩ := by
    rw [H2.drainCapsules]
    split <;> rename_i h <;> rw [hnil] at h <;> cases h
    rfl
  have hnext : CapsuleParser.next ⟨f.bytes⟩
      = ((Masque.capsuleOf f.kind f.value).map some, .new) := by
    have := CapsuleParser.next_append f []
    rw [List.append_nil] at this
    exact this
  generalize Masque.capsuleOf f.kind f.value = r at hnext
  cases tr with
  | quic =>
      rw [drain, Quic.drainCapsules]
      rcases r with e | c
      · split <;> rename_i h <;> rw [hnext] at h <;> cases h
        rfl
      · split <;> rename_i h <;> rw [hnext] at h <;> cases h
        · rw [hquic, List.append_nil]
          rfl
        · rename_i hc
          rw [hquic]
          cases c with
          | addressAssign addrs => exact absurd rfl (hc addrs)
          | _ => rfl
  | h2 =>
      rw [drain, H2.drainCapsules]
      rcases r with e | c
      · split <;> rename_i h <;> rw [hnext] at h <;> cases h
        rfl
      · split <;> rename_i h <;> rw [hnext] at h <;> cases h
        · rw [if_neg (by simp), Option.map_none, hh2]
          rfl
        · simp [hh2, assignedBy]
        · rename_i _ hc
          rw [hh2]
          cases c with
          | addressAssign addrs => exact absurd rfl (hc addrs)
          | _ => rfl

/-- Cut capsule by capsule, a stream has all its addresses assigned. -/
lemma exists_fed_eq_named (tr : Via) (stream : Bytes) :
    ∃ chunks : List (Bytes × Option ℕ), (chunks.map Prod.fst).flatten = stream
      ∧ tr.fed chunks .new = named stream := by
  induction hk : stream.length using Nat.strong_induction_on generalizing stream with
  | _ k ih =>
    cases hn : capsuleDecoder.next stream with
    | none =>
        -- no capsule is complete: the stream in one chunk
        have hnamed : named stream = [] := by
          rw [named, capsuleDecoder.decode_of_none hn]
          rfl
        have hfed := tr.fed_prefix_named [(stream, none)] .new
        rw [show (CapsuleParser.new.buf ++ ([(stream, (none : Option ℕ))].map Prod.fst).flatten)
          = stream by simp [CapsuleParser.new], hnamed, List.prefix_nil] at hfed
        exact ⟨[(stream, none)], by simp, hfed.trans hnamed.symm⟩
    | some rn =>
        obtain ⟨r, n⟩ := rn
        obtain ⟨chunks, hflat, hfed⟩ :=
          ih _ (hk ▸ capsuleDecoder.drop_length_lt hn) (stream.drop n) rfl
        obtain ⟨f, more, hstream, hr, hlen⟩ := CapsuleParser.nextFrame_eq_some hn
        have hmore : stream.drop n = more := by
          rw [hstream, hlen, List.drop_left]
        refine ⟨(f.bytes, none) :: chunks, ?_, ?_⟩
        · rw [List.map_cons, List.flatten_cons, hflat, hmore, hstream]
        · have hpush : CapsuleParser.new.push f.bytes = ⟨f.bytes⟩ := rfl
          rw [fed, hpush, drain_frame]
          show assignedBy (Masque.capsuleOf f.kind f.value) ++ tr.fed chunks .new = named stream
          rw [hfed, named, named, capsuleDecoder.decode_of_some hn, List.flatMap_cons, hr]

end Via

/-! ### The stack -/

/-- Handling the addresses of a sequence panics the stack only at one it does not accept. -/
lemma ne_panicked_of_accepted (sm : Smoltcp) {iface : Interface} {sent : List AssignedAddr}
    {es : List Netstack.Ev} {s : NetStack} (hsent : ∀ a ∈ sent, sm.accepts a.ip = true)
    (hes : es.filterMap Netstack.Ev.setAddrs = sent.map bridge)
    (h : Machine.run (Netstack.step sm) (.spawned iface) es = some s) : s.pc ≠ .panicked := by
  have hok : Machine.Meets (Netstack.step sm)
      (fun _ e => ∀ vs, e.setAddrs = some vs → ∃ a ∈ sent, vs = bridge a) (.spawned iface) es := by
    refine Machine.meets_of_forall ?_
    intro e he _ vs hvs
    have hmem : vs ∈ es.filterMap Netstack.Ev.setAddrs := List.mem_filterMap.mpr ⟨e, he, hvs⟩
    rw [hes] at hmem
    obtain ⟨a, ha, rfl⟩ := List.mem_map.mp hmem
    exact ⟨a, ha, rfl⟩
  refine (Machine.run_invariant_of_meets
    (I := fun s => s.pc ≠ .panicked ∧ s.shape.Matched ∧ Serving s) ?_
    ⟨by simp [NetStack.spawned], spawned_matched iface, spawned_serving iface⟩ hok h).1
  rintro s e s' ⟨hpc, hm, hs⟩ he hstep
  refine ⟨?_, (step_shape hstep).matched hm, step_serving hs hstep⟩
  intro hpanic
  rcases panicked_of_step hm hs hstep hpanic with hpc' | ⟨v4, v6, slot, err, rfl, hnone⟩
  · exact hpc hpc'
  · obtain ⟨a, ha, hvs⟩ := he (v4, v6) rfl
    obtain ⟨i, hi⟩ : ∃ i, setAddrs sm.accepts s.iface a = some i :=
      exists_setAddrs s.iface (hsent a ha)
    rw [setAddrs, ← hvs, hnone] at hi
    cases hi

/-- An address that the interface does not accept panics a stack that has just started. -/
lemma exists_panicked (sm : Smoltcp) (iface : Interface) {a : AssignedAddr}
    (ha : sm.accepts a.ip ≠ true) : ∃ es s, es.filterMap Netstack.Ev.setAddrs = [bridge a]
      ∧ Machine.run (Netstack.step sm) (.spawned iface) es = some s ∧ s.pc = .panicked := by
  obtain ⟨t, ht, hpc, hiface⟩ : ∃ t,
      Machine.run (Netstack.step sm) (.spawned iface) (quietTurn []) = some t
        ∧ t.pc = .select ∧ t.iface = iface := ⟨_, rfl, rfl, rfl⟩
  have hnone : applyAddrs sm.accepts iface (bridge a).1 (bridge a).2 = none := by
    rw [Option.eq_none_iff_forall_not_mem]
    intro i hi
    exact ha (setAddrs_eq_some hi).1
  refine ⟨quietTurn [] ++ [.cmd (.setAddrs (bridge a).1 (bridge a).2) 0 none],
    (t.goto .poll).goto .panicked, rfl, ?_, rfl⟩
  refine Machine.run_append_eq_some.mpr ⟨t, ht, Machine.run_cons_eq_some.mpr ⟨_, ?_, rfl⟩⟩
  have hpoll : applyAddrs sm.accepts (t.goto .poll).iface (bridge a).1 (bridge a).2 = none :=
    (congrArg (applyAddrs sm.accepts · (bridge a).1 (bridge a).2) hiface).trans hnone
  rw [Netstack.step, if_pos ⟨hpc, rfl⟩, handleCmd]
  simp only [hpoll]

/-- **When no bytes from the edge can crash the netstack**: whatever cut of the stream is
drained, whatever the channel drops, and whatever else the stack does, exactly when the
stream names no multicast and no broadcast address. -/
theorem edge_safe_iff (tr : Via) (close : State → State) (iface : Interface)
    (stream : Bytes) :
    (∀ chunks : List (Bytes × Option ℕ), (chunks.map Prod.fst).flatten = stream →
      ∀ sent : List AssignedAddr, sent.Sublist (tr.fed chunks .new) →
        ∀ es s, es.filterMap Netstack.Ev.setAddrs = sent.map bridge →
          Machine.run (Netstack.step ⟨unicastOrUnspecified, close⟩) (.spawned iface) es = some s →
            s.pc ≠ .panicked)
      ↔ ∀ a ∈ named stream, unicastOrUnspecified a.ip = true := by
  constructor
  · intro hsafe a ha
    by_contra hbad
    obtain ⟨chunks, hflat, hfed⟩ := tr.exists_fed_eq_named stream
    obtain ⟨es, s, hes, hrun, hpanic⟩ :=
      exists_panicked ⟨unicastOrUnspecified, close⟩ iface hbad
    have hsub : [a].Sublist (tr.fed chunks .new) := by
      rw [hfed]
      exact List.singleton_sublist.mpr ha
    exact hsafe chunks hflat [a] hsub es s hes hrun hpanic
  · intro hall chunks hflat sent hsub es s hes hrun
    refine ne_panicked_of_accepted ⟨unicastOrUnspecified, close⟩ ?_ hes hrun
    intro a ha
    refine hall a ?_
    have hnamed := (tr.fed_prefix_named chunks .new).subset (hsub.subset ha)
    rw [hflat] at hnamed
    exact hnamed

/-- An `ADDRESS_ASSIGN` capsule with the address `224.0.0.1/32`. -/
def multicastCapsule : Bytes := [1, 7, 0, 4, 224, 0, 0, 1, 32]

/-- **Nine bytes panic the stack.** -/
theorem multicast_panics : ∃ es s,
    Via.quic.fed [(multicastCapsule, none)] .new
        = [⟨.v4 ⟨[224, 0, 0, 1], rfl⟩, 32⟩]
      ∧ es.filterMap Netstack.Ev.setAddrs
        = (Via.quic.fed [(multicastCapsule, none)] .new).map bridge
      ∧ Machine.run (Netstack.step stdSmoltcp) (.spawned sampleIface) es = some s
      ∧ s.pc = .panicked := by
  have hfed : Via.quic.fed [(multicastCapsule, none)] .new
      = [⟨.v4 ⟨[224, 0, 0, 1], rfl⟩, 32⟩] := by decide +kernel
  obtain ⟨es, s, hes, hrun, hpanic⟩ := exists_panicked stdSmoltcp sampleIface
    (a := ⟨.v4 ⟨[224, 0, 0, 1], rfl⟩, 32⟩) (by decide)
  exact ⟨es, s, hfed, by rw [hfed]; exact hes, hrun, hpanic⟩

end Aether.Tunnel
