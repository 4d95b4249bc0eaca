import Aether.Lib.Tally
import Aether.Tunnel.Drain

/-!
`verify_h2`: the request of a scan over HTTP/2, and the count of the capsules that come back.

The HTTP/2 library is the environment: what the response is, what the body brings, and which of
the probes can be sent. Where the events of the body end, the time is up.

* `countCapsules_eq`: the inner loop counts the packets that a drain hands on.
* `verifyH2_ok_iff`: with data checking on, **the verification succeeds** exactly when the
  request does, two packets come, and the probes before the second one can be sent.
* `verifyH2_counted`: the packets it has counted then.
* `verifyH2_agrees_iff`: when a scan and a tunnel agree on a body.
-/

namespace Aether.Tunnel.H2

open Tally
open Masque (CapsuleParser Capsule)

/-- What `verify_h2` meets: the status of the response, or an error on the way to it, the result
of sending each probe, and what the body brings: chunks, an error, or its end. -/
structure Attempt where
  response : Except AetherError ℕ
  probes : ℕ → Except AetherError Unit
  body : List (Option (Except String Bytes))

/-- The inner loop of `verify_h2`, where `probe_successes` is the list of the packets that it
counts. An error is what the function returns, and otherwise the loop ends with the successes so
far and the parser. -/
def countCapsules (probes : ℕ → Except AetherError Unit) (successes : List Bytes)
    (p : CapsuleParser) : Except (Outcome × List Bytes) (List Bytes × CapsuleParser) :=
  match h : p.next with
  | (.ok (some (.datagram packet)), q) =>
      have := CapsuleParser.length_next h (by simp)
      if dataProbeRequiredSuccesses ≤ successes.length + 1 then
        .error (.ok (), successes ++ [packet])
      else
        match probes (successes.length + 1) with
        | .error e => .error (.error e, successes ++ [packet])
        | .ok () => countCapsules probes (successes ++ [packet]) q
  | (.ok (some _), q) =>
      have := CapsuleParser.length_next h (by simp)
      countCapsules probes successes q
  | (.ok none, q) => .ok (successes, q)
  | (.error _, q) => .ok (successes, q)
termination_by p.buf.length

/-- The outer loop: the result, and the packets counted. -/
def verifyBody (probes : ℕ → Except AetherError Unit) :
    List Bytes → CapsuleParser → List (Option (Except String Bytes)) → Outcome × List Bytes
  | successes, _, [] => (.error (.other "h2 verify timeout"), successes)
  | successes, _, none :: _ => (.error (.masque "h2 stream closed before data"), successes)
  | successes, _, some (.error e) :: _ => (.error (.masque s!"h2 body: {e}"), successes)
  | successes, p, some (.ok chunk) :: rest =>
      match countCapsules probes successes (p.push chunk) with
      | .error r => r
      | .ok (successes, p) => verifyBody probes successes p rest

/-- `verify_h2`, without the time it took: the result, and the packets counted. -/
def verifyH2 (dataCheck : Bool) (a : Attempt) : Outcome × List Bytes :=
  match a.response with
  | .error e => (.error e, [])
  | .ok code =>
      if !isSuccess code then (.error (.masque s!"h2 connect-ip status {code}"), [])
      else if !dataCheck then (.ok (), [])
      else
        match a.probes 0 with
        | .error e => (.error e, [])
        | .ok () => verifyBody a.probes [] .new a.body

/-! ### What is counted -/

/-- The packets that the chunks bring one after the other, and the parser behind them. -/
def batches (p : CapsuleParser) : List Bytes → List (List Bytes)
  | [] => []
  | chunk :: chunks =>
      let d := drainCapsules none (p.push chunk)
      d.packets :: batches d.parser chunks

/-- The chunks of a body up to its end or an error. -/
def chunks : List (Option (Except String Bytes)) → List Bytes
  | some (.ok chunk) :: rest => chunk :: chunks rest
  | _ => []

variable {probes : ℕ → Except AetherError Unit}

/-- The inner loop goes on behind a capsule that parses, and counts it if it is a packet. -/
lemma countCapsules_of_ok {p q : CapsuleParser} {c : Capsule} {ks : List Bytes}
    (h : p.next = (.ok (some c), q)) :
    countCapsules probes ks p
      = (tally dataProbeRequiredSuccesses probes ks (packet? (.ok c)).toList).bind fun ks =>
        countCapsules probes ks q := by
  rw [countCapsules]
  split <;> rename_i h' <;> rw [h] at h' <;> cases h'
  case h_1 =>
    show _ = (tally dataProbeRequiredSuccesses probes ks [_]).bind _
    rw [tally]
    split
    · rfl
    · cases probes (ks.length + 1) <;> rfl
  case h_2 hdatagram =>
    cases c with
    | datagram packet => exact absurd rfl (hdatagram packet)
    | _ => rfl

/-- **The inner loop counts the packets of a drain**, and leaves its parser. -/
lemma countCapsules_eq (p : CapsuleParser) (ks : List Bytes) :
    countCapsules probes ks p
      = (tally dataProbeRequiredSuccesses probes ks (drainCapsules none p).packets).map
        fun ks => (ks, (drainCapsules none p).parser) := by
  induction hk : p.buf.length using Nat.strong_induction_on generalizing p ks with
  | _ n ih =>
    cases hnext : p.next with
    | mk r q =>
      match r with
      | .error e =>
          rw [countCapsules, drainCapsules]
          split <;> rename_i h <;> rw [hnext] at h <;> cases h
          split <;> rename_i h <;> rw [hnext] at h <;> cases h
          rfl
      | .ok none =>
          rw [countCapsules, drainCapsules]
          split <;> rename_i h <;> rw [hnext] at h <;> cases h
          split <;> rename_i h <;> rw [hnext] at h <;> cases h
          rfl
      | .ok (some c) =>
          have hlt := CapsuleParser.length_next hnext (by simp)
          obtain ⟨hpackets, hparser⟩ := drainCapsules_of_ok hnext
          rw [countCapsules_of_ok hnext, hpackets, hparser, tally_append]
          cases htally : tally dataProbeRequiredSuccesses probes ks (packet? (.ok c)).toList with
          | error o => rfl
          | ok ks' => exact ih q.buf.length (hk ▸ hlt) q ks' rfl

/-- **The loop over the body** counts the packets of the drains, and succeeds when the count is
done. -/
lemma verifyBody_spec (body : List (Option (Except String Bytes))) (p : CapsuleParser)
    (ks : List Bytes) :
    ((verifyBody probes ks p body).1 = .ok ()
        ↔ Done (tally dataProbeRequiredSuccesses probes ks (batches p (chunks body)).flatten))
      ∧ (verifyBody probes ks p body).2
        = counted (tally dataProbeRequiredSuccesses probes ks
          (batches p (chunks body)).flatten) := by
  induction body generalizing p ks with
  | nil => exact ⟨⟨(by intro h; cases h), (by rintro ⟨ys, h⟩; cases h)⟩, rfl⟩
  | cons event rest ih =>
      match event with
      | none => exact ⟨⟨(by intro h; cases h), (by rintro ⟨ys, h⟩; cases h)⟩, rfl⟩
      | some (.error e) => exact ⟨⟨(by intro h; cases h), (by rintro ⟨ys, h⟩; cases h)⟩, rfl⟩
      | some (.ok chunk) =>
          rw [verifyBody, countCapsules_eq, chunks, batches, List.flatten_cons, tally_append]
          cases tally dataProbeRequiredSuccesses probes ks
              (drainCapsules none (p.push chunk)).packets with
          | error r =>
              obtain ⟨o, ys⟩ := r
              refine ⟨⟨?_, ?_⟩, rfl⟩
              · rintro rfl
                exact ⟨ys, rfl⟩
              · rintro ⟨zs, h⟩
                cases h
                rfl
          | ok ks' => exact ih _ ks'

/-- **The count of the body** is done exactly when two packets come and the probe between them
can be sent. -/
lemma verifyBody_new_iff (body : List (Option (Except String Bytes))) :
    (verifyBody probes [] .new body).1 = .ok ()
      ↔ 2 ≤ (batches .new (chunks body)).flatten.length ∧ probes 1 = .ok () := by
  rw [(verifyBody_spec body .new []).1, tally_done_iff (by decide), List.length_nil, Nat.zero_add]
  refine and_congr Iff.rfl ⟨fun h => h 1 (by decide) (by decide), ?_⟩
  intro h j hj hj'
  obtain rfl : j = 1 := by
    rw [dataProbeRequiredSuccesses] at hj'
    omega
  exact h

/-- The request of a scan over HTTP/2 is accepted, and its first probe goes out. -/
def Requested (a : Attempt) : Prop :=
  (∃ code, a.response = .ok code ∧ isSuccess code = true) ∧ a.probes 0 = .ok ()

/-- A scan whose request fails has counted nothing, and one whose request does not is its loop. -/
lemma verifyH2_cases (a : Attempt) :
    (¬ Requested a ∧ ∃ e, verifyH2 true a = (.error e, []))
      ∨ (Requested a ∧ verifyH2 true a = verifyBody a.probes [] .new a.body) := by
  rw [verifyH2, Requested]
  cases hresponse : a.response with
  | error e => exact .inl ⟨(by rintro ⟨⟨code, hcode, -⟩, -⟩; cases hcode), e, rfl⟩
  | ok code =>
      cases hcode : isSuccess code with
      | false =>
          refine .inl ⟨(by simp [hcode]), .masque s!"h2 connect-ip status {code}", ?_⟩
          simp [hcode]
      | true =>
          cases hprobe : a.probes 0 with
          | error e => exact .inl ⟨(by simp), e, by simp [hcode]⟩
          | ok u => exact .inr ⟨⟨⟨code, rfl, hcode⟩, rfl⟩, by simp [hcode]⟩

/-- **Success of a scan over HTTP/2** with data checking on. -/
theorem verifyH2_ok_iff (a : Attempt) :
    (verifyH2 true a).1 = .ok ()
      ↔ Requested a ∧ 2 ≤ (batches .new (chunks a.body)).flatten.length ∧ a.probes 1 = .ok () := by
  rcases verifyH2_cases a with ⟨hno, e, heq⟩ | ⟨hyes, heq⟩
  · rw [heq]
    exact iff_of_false (by intro h; cases h) (fun h => hno h.1)
  · rw [heq, verifyBody_new_iff]
    exact (and_iff_right hyes).symm

/-- The packets that a scan comes to count: the first two, or the first one if the probe behind it
cannot be sent. -/
def countable (a : Attempt) : List Bytes :=
  (batches .new (chunks a.body)).flatten.take (if (a.probes 1).isOk then 2 else 1)

/-- **What a scan over HTTP/2 has counted** with data checking on. -/
theorem verifyH2_counted (a : Attempt) :
    (Requested a → (verifyH2 true a).2 = countable a)
      ∧ (¬ Requested a → (verifyH2 true a).2 = []) := by
  rcases verifyH2_cases a with ⟨hno, e, heq⟩ | ⟨hyes, heq⟩
  · rw [heq]
    exact ⟨fun h => absurd h hno, fun _ => rfl⟩
  · rw [heq, (verifyBody_spec a.body .new []).2, countable]
    refine ⟨fun _ => ?_, fun h => absurd hyes h⟩
    cases hprobe : a.probes 1 with
    | error e => exact counted_tally_of_error hprobe _
    | ok u =>
        refine counted_tally ?_ (by decide) _
        intro j hj hj'
        obtain rfl : j = 1 := by
          rw [dataProbeRequiredSuccesses] at hj'
          rw [List.length_nil] at hj
          omega
        exact hprobe

/-! ### The tunnel on the same chunks -/

/-- A chunk that comes at some time, with the inbound channel open. -/
def chunkTurn (c : Bytes × ℕ) : Ev := .turn ⟨c.2, c.2, .data (some (.ok c.1)) none⟩

/-- The tunnel waits for its body, and so many chunks have delivered something. -/
structure Receiving (deadline : ℕ) (p : CapsuleParser) (n : ℕ) (s : Loop) : Prop where
  running : s.result = none
  connected : s.connected = true
  pong : s.pongDeadline = none
  capsules : s.capsules = p
  armed : s.ready.readyFired = false → s.ready.validateDeadline = some deadline
  counted : Counted n s.ready

/-- The response arms the deadline, and nothing has come yet. -/
lemma onResponse_receiving {code : ℕ} (hcode : isSuccess code = true) (now timeout keepalive : ℕ) :
    Receiving (now + timeout) .new 0
      (onResponse (.start true true timeout keepalive) (.ok code) now) := by
  have hstart : Counted 0 ((Readiness.start true true).observe (.status code)) :=
    (Counted.start true).observe (by simp)
  rw [onResponse]
  simp only [hcode, Bool.not_true, Bool.false_eq_true, if_false]
  exact ⟨rfl, rfl, rfl, rfl, fun _ => rfl, hstart.begin rfl now timeout⟩

/-- **A chunk in time** is drained, and counts once if it delivers something. -/
lemma step_chunkTurn {deadline n : ℕ} {p : CapsuleParser} {s : Loop}
    (h : Receiving deadline p n s) {c : Bytes × ℕ} (htime : c.2 < deadline) :
    ∃ s', step s (chunkTurn c) = some s'
      ∧ Receiving deadline (drainCapsules none (p.push c.1)).parser
        (n + if !(drainCapsules none (p.push c.1)).packets.isEmpty then 1 else 0) s' := by
  have hexp : s.ready.expired c.2 = false := Readiness.expired_eq_false h.armed htime
  have hiter : iterate ⟨c.2, c.2, .data (some (.ok c.1)) none⟩ s
      = select ⟨c.2, c.2, .data (some (.ok c.1)) none⟩ s := by
    rw [iterate, checkDeadline, hexp, if_neg Bool.false_ne_true,
      Loop.andThen_running h.running, checkPong, h.pong]
    exact Loop.andThen_running h.running _
  have hselect : select ⟨c.2, c.2, .data (some (.ok c.1)) none⟩ s
      = { s with
          capsules := (drainCapsules none (s.capsules.push c.1)).parser
          ready := (s.ready.observeAll
            ((drainCapsules none (s.capsules.push c.1)).assigned.map .assigned)).count
              !(drainCapsules none (s.capsules.push c.1)).packets.isEmpty } := rfl
  refine ⟨_, if_pos ⟨h.running, h.connected, rfl⟩, ?_⟩
  rw [hiter, hselect, h.capsules]
  generalize drainCapsules none (p.push c.1) = d
  have hos : ∀ o ∈ d.assigned.map Obs.assigned, o ≠ .ready := by
    intro o ho
    obtain ⟨a, -, rfl⟩ := List.mem_map.mp ho
    simp
  have hframe := Readiness.count_frame (s.ready.observeAll (d.assigned.map .assigned))
    (!d.packets.isEmpty)
  refine ⟨h.running, h.connected, h.pong, rfl, ?_, (h.counted.observeAll hos).count _⟩
  intro hfired
  obtain ⟨hbefore, hdeadline⟩ := hframe.2 hfired
  have harmed : (s.ready.observeAll (d.assigned.map .assigned)).validateDeadline
      = some deadline := by
    rw [Readiness.observeAll_frame] at hbefore ⊢
    exact h.armed hbefore
  exact hdeadline.trans harmed

/-- So are all of them. -/
lemma run_chunkTurns {deadline n : ℕ} {p : CapsuleParser} {s : Loop}
    (h : Receiving deadline p n s) {cs : List (Bytes × ℕ)} (htime : ∀ c ∈ cs, c.2 < deadline) :
    ∃ s' p', Machine.run step s (cs.map chunkTurn) = some s'
      ∧ Receiving deadline p' (n + full (batches p (cs.map Prod.fst))) s' := by
  induction cs generalizing s p n with
  | nil => exact ⟨s, p, rfl, h⟩
  | cons c cs ih =>
      obtain ⟨t, ht, hreceiving⟩ := step_chunkTurn h (htime c (List.mem_cons_self ..))
      obtain ⟨s', p', hs', hn⟩ := ih hreceiving fun x hx => htime x (List.mem_cons_of_mem c hx)
      refine ⟨s', p', Machine.run_cons_eq_some.mpr ⟨t, ht, hs'⟩, ?_⟩
      rw [List.map_cons, batches, full_cons, ← Nat.add_assoc]
      exact hn

/-- The tunnel has signalled readiness after the response and so many chunks. -/
def Signalled (code responseAt timeout keepalive : ℕ) (cs : List (Bytes × ℕ)) : Prop :=
  ∃ s, Machine.run step (.start true true timeout keepalive)
    (.response (.ok code) responseAt :: cs.map chunkTurn) = some s ∧ .ready ∈ s.ready.log

lemma signalled_iff {code responseAt timeout : ℕ} (keepalive : ℕ) {cs : List (Bytes × ℕ)}
    (hcode : isSuccess code = true) (htime : ∀ c ∈ cs, c.2 < responseAt + timeout) :
    Signalled code responseAt timeout keepalive cs ↔ 2 ≤ full (batches .new (cs.map Prod.fst)) := by
  obtain ⟨s, p, hs, hreceiving⟩ :=
    run_chunkTurns (onResponse_receiving hcode responseAt timeout keepalive) htime
  have hrun : Machine.run step (.start true true timeout keepalive)
      (.response (.ok code) responseAt :: cs.map chunkTurn) = some s :=
    Machine.run_cons_eq_some.mpr ⟨_, rfl, hs⟩
  have hready := hreceiving.counted.ready_iff
  rw [Nat.zero_add] at hready
  rw [← dataProbeRequiredSuccesses, ← hready]
  constructor
  · rintro ⟨s', hs', hmem⟩
    obtain rfl := Option.some.inj (hrun.symm.trans hs')
    exact hmem
  · exact fun hmem => ⟨s, hrun, hmem⟩

/-- A refused request signals nothing, and no chunk comes behind it. -/
lemma not_signalled {code responseAt timeout keepalive : ℕ} {cs : List (Bytes × ℕ)}
    (hcode : isSuccess code = false) : ¬ Signalled code responseAt timeout keepalive cs := by
  rintro ⟨s, hs, hmem⟩
  obtain ⟨t, ht, hs⟩ := Machine.run_cons_eq_some.mp hs
  have hrefused : t = ((Loop.start true true timeout keepalive).observe (.status code)).returns
      (.error (.masque s!"h2 connect-ip status {code}")) := by
    rw [← Option.some.inj ht, onResponse]
    simp [hcode]
  cases cs with
  | nil =>
      obtain rfl := Option.some.inj hs
      rw [hrefused] at hmem
      cases List.mem_singleton.mp hmem
  | cons c cs =>
      obtain ⟨u, hu, -⟩ := Machine.run_cons_eq_some.mp hs
      obtain ⟨⟨hr, -⟩, -⟩ := Option.ite_none_right_eq_some.mp hu
      rw [hrefused] at hr
      cases hr

lemma batches_take (p : CapsuleParser) (chunks : List Bytes) (n : ℕ) :
    batches p (chunks.take n) = (batches p chunks).take n := by
  induction chunks generalizing p n with
  | nil => simp [batches]
  | cons chunk chunks ih =>
      cases n with
      | zero => rfl
      | succ n => exact congrArg _ (ih _ n)

lemma chunks_map_ok (cs : List Bytes) : chunks (cs.map fun c => some (.ok c)) = cs := by
  induction cs with
  | nil => rfl
  | cons c cs ih => exact congrArg _ ih

/-- **The scan and the tunnel** agree on a body, after every number of its chunks, exactly when
the request is refused or the chunks count alike, packets counting if the probes can be sent. -/
lemma verifyH2_agrees_iff {code responseAt timeout : ℕ} (keepalive : ℕ)
    (probes : ℕ → Except AetherError Unit) {cs : List (Bytes × ℕ)}
    (htime : ∀ c ∈ cs, c.2 < responseAt + timeout) :
    (∀ n, (verifyH2 true ⟨.ok code, probes, (cs.take n).map fun c => some (.ok c.1)⟩).1 = .ok ()
        ↔ Signalled code responseAt timeout keepalive (cs.take n))
      ↔ (isSuccess code = true → Alike (fun _ => probes 0 = .ok () ∧ probes 1 = .ok ())
        (batches .new (cs.map Prod.fst))) := by
  cases hcode : isSuccess code with
  | false =>
      refine iff_of_true (fun n => iff_of_false ?_ (not_signalled hcode)) (by simp)
      rw [verifyH2_ok_iff, Requested]
      rintro ⟨⟨⟨code', heq, hok⟩, -⟩, -⟩
      rw [← Except.ok.inj heq, hcode] at hok
      cases hok
  | true =>
      have hsignal : ∀ n, Signalled code responseAt timeout keepalive (cs.take n)
          ↔ 2 ≤ full ((batches .new (cs.map Prod.fst)).take n) := by
        intro n
        rw [signalled_iff keepalive hcode fun c hc => htime c (List.mem_of_mem_take hc),
          List.map_take, batches_take]
      have hverify : ∀ n,
          (verifyH2 true ⟨.ok code, probes, (cs.take n).map fun c => some (.ok c.1)⟩).1 = .ok ()
            ↔ ∃ m ≤ n, (probes 0 = .ok () ∧ probes 1 = .ok ())
              ∧ 2 ≤ ((batches .new (cs.map Prod.fst)).take m).flatten.length := by
        intro n
        have hbody : ((cs.take n).map fun c => some (Except.ok (ε := String) c.1))
            = ((cs.map Prod.fst).take n).map fun c => some (.ok c) := by
          rw [← List.map_take, List.map_map]
          rfl
        rw [verifyH2_ok_iff, Requested, hbody, chunks_map_ok, batches_take]
        constructor
        · rintro ⟨⟨-, hfirst⟩, hlen, hsecond⟩
          exact ⟨n, Nat.le_refl n, ⟨hfirst, hsecond⟩, hlen⟩
        · rintro ⟨m, hm, ⟨hfirst, hsecond⟩, hlen⟩
          have hmono := length_flatten_take_mono (batches .new (cs.map Prod.fst)) hm
          exact ⟨⟨⟨code, rfl, hcode⟩, hfirst⟩, Nat.le_trans hlen hmono, hsecond⟩
      simp only [hverify, hsignal]
      rw [alike_iff]
      exact ⟨fun h _ => h, fun h => h trivial⟩

end Aether.Tunnel.H2
