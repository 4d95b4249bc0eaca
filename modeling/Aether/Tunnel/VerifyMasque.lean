import Aether.Lib.Tally
import Aether.Tunnel.Response
import Aether.Tunnel.VerifyH2

/-!
`verify_masque`: the request of a scan over QUIC, and the count of the datagrams that come back.

As in the model of `quic::run`, a turn is what one iteration of the loop finds in the libraries.
The probes are not in it: whether they can be sent makes no difference here.

* `countDgrams_eq`: the inner loop counts the packets of the datagrams.
* `verifyMasque_ok_iff`: with data checking on, **the verification succeeds** exactly when two
  packets come; `confirmed_eq` says which packets it has counted.
* `verifyMasque_iff`: a scan that receives the same as a tunnel.
* `confirmations_agree_iff`: over both transports, when a scan and a tunnel agree on what they
  receive.
-/

namespace Aether.Tunnel.VerifyMasque

open Tally
open Masque (decodeIpDatagram)
open Quic (H3Event)

/-- What one iteration of the loop finds: whether the deadline has passed, the error of the
socket, and the connection. -/
structure Turn where
  late : Bool
  recv : Except String Unit
  established : Bool
  request : Except AetherError ℕ
  events : List H3Event
  /-- The error that ended the polling, if it was not `Done`. -/
  h3Error : Option String
  dgrams : List Bytes
  flush : Except AetherError Unit
  closed : Bool

/-- The variables of the loop. `probeSuccesses` is the list of the packets that `probe_successes`
counts. -/
structure Loop where
  dataCheck : Bool
  h3Conn : Bool
  reqStream : Option ℕ
  connectIpOk : Bool
  probeSuccesses : List Bytes
  result : Option Outcome

namespace Loop

def start (dataCheck : Bool) : Loop := ⟨dataCheck, false, none, false, [], none⟩

/-- `return` from `verify_masque`. -/
def returns (s : Loop) (o : Outcome) : Loop := { s with result := some o }

/-- The next stage, unless the function has returned. -/
def andThen (s : Loop) (f : Loop → Loop) : Loop := if s.result.isSome then s else f s

end Loop

/-! ### The stages of an iteration -/

def checkDeadline (t : Turn) (s : Loop) : Loop :=
  if t.late then s.returns (.error (.other "verify timeout")) else s

/-- The `select`: a datagram for the connection, its timer, or an error. -/
def receive (t : Turn) (s : Loop) : Loop :=
  match t.recv with
  | .error e => s.returns (.error (.io e))
  | .ok () => s

def sendRequest (t : Turn) (s : Loop) : Loop :=
  if t.established && !s.h3Conn then
    match t.request with
    | .error e => s.returns (.error e)
    | .ok sid => { s with reqStream := some sid, h3Conn := true }
  else s

/-- The status of the response: without data checking it is all that is waited for. -/
def onH3Event (sid : ℕ) (s : Loop) : H3Event → Loop
  | .headers stream (some code) =>
      if stream = sid then
        if code = 200 then
          if !s.dataCheck then s.returns (.ok ()) else { s with connectIpOk := true }
        else s.returns (.error (.other s!"status {code}"))
      else s
  | _ => s

/-- The events of a poll, until one of them returns. -/
def onEvents (sid : ℕ) (s : Loop) (events : List H3Event) : Loop :=
  events.foldl (fun s e => s.andThen fun s => onH3Event sid s e) s

def pollH3 (t : Turn) (s : Loop) : Loop :=
  match s.h3Conn, s.reqStream with
  | true, some sid =>
      (onEvents sid s t.events).andThen fun s =>
        match t.h3Error with
        | some e => s.returns (.error (.h3 e))
        | none => s
  | _, _ => s

/-- The inner loop over the datagrams. An error is what the function returns, and otherwise the
loop ends with the successes so far. -/
def countDgrams (sid : ℕ) :
    List Bytes → List Bytes → Except (Outcome × List Bytes) (List Bytes)
  | successes, [] => .ok successes
  | successes, d :: ds =>
      match decodeIpDatagram d sid with
      | .ok (some packet) =>
          if dataProbeRequiredSuccesses ≤ successes.length + 1 then
            .error (.ok (), successes ++ [packet])
          else countDgrams sid (successes ++ [packet]) ds
      | _ => countDgrams sid successes ds

def drain (t : Turn) (s : Loop) : Loop :=
  match s.connectIpOk, s.reqStream with
  | true, some sid =>
      match countDgrams sid s.probeSuccesses t.dgrams with
      | .error (o, successes) => { s with probeSuccesses := successes }.returns o
      | .ok successes => { s with probeSuccesses := successes }
  | _, _ => s

def flush (t : Turn) (s : Loop) : Loop :=
  match t.flush with
  | .error e => s.returns (.error e)
  | .ok () => s

def onClosed (t : Turn) (s : Loop) : Loop :=
  if t.closed then s.returns (.error (.other "closed before data-plane confirmation")) else s

/-- An iteration up to the drain. -/
def reach (t : Turn) (s : Loop) : Loop :=
  (checkDeadline t s).andThen fun s =>
    (receive t s).andThen fun s => (sendRequest t s).andThen (pollH3 t)

/-- One iteration. -/
def iterate (t : Turn) (s : Loop) : Loop :=
  (reach t s).andThen fun s => (drain t s).andThen fun s => (flush t s).andThen (onClosed t)

/-- The loop. -/
def iterateAll (s : Loop) (ts : List Turn) : Loop := ts.foldl (fun s t => s.andThen (iterate t)) s

/-- `verify_masque`, without the time it took; `none` where it goes on behind the turns. -/
def verifyMasque (dataCheck : Bool) (ts : List Turn) : Option Outcome :=
  (iterateAll (.start dataCheck) ts).result

/-- The packets that it has counted. -/
def confirmed (dataCheck : Bool) (ts : List Turn) : List Bytes :=
  (iterateAll (.start dataCheck) ts).probeSuccesses

/-! ### What is counted -/

/-- The packets of the datagrams. -/
def packets (sid : ℕ) (dgrams : List Bytes) : List Bytes :=
  dgrams.filterMap fun d => (decodeIpDatagram d sid).toOption.join

/-- The packets that an iteration comes to count. -/
def given (t : Turn) (s : Loop) : List Bytes :=
  match (reach t s).result, (reach t s).connectIpOk, (reach t s).reqStream with
  | none, true, some sid => packets sid t.dgrams
  | _, _, _ => []

/-- The packets that come until the function returns. -/
def arrivals (s : Loop) : List Turn → List Bytes
  | [] => []
  | t :: ts => if s.result.isSome then [] else given t s ++ arrivals (iterate t s) ts

/-- **The inner loop counts the packets.** -/
lemma countDgrams_eq (sid : ℕ) (dgrams ks : List Bytes) :
    countDgrams sid ks dgrams
      = tally dataProbeRequiredSuccesses (fun _ => .ok ()) ks (packets sid dgrams) := by
  induction dgrams generalizing ks with
  | nil => rfl
  | cons d ds ih =>
      rw [countDgrams, packets, List.filterMap_cons, ← packets]
      cases decodeIpDatagram d sid with
      | error e => exact ih ks
      | ok packet =>
          cases packet with
          | none => exact ih ks
          | some p =>
              show _ = tally dataProbeRequiredSuccesses _ ks (p :: packets sid ds)
              rw [tally]
              exact if_congr Iff.rfl rfl (ih (ks ++ [p]))

namespace Loop

lemma andThen_returned {s : Loop} (h : s.result.isSome = true) (f : Loop → Loop) :
    s.andThen f = s := by
  rw [andThen, if_pos h]

lemma andThen_running {s : Loop} (h : s.result = none) (f : Loop → Loop) : s.andThen f = f s := by
  rw [andThen, h]
  rfl

end Loop

lemma iterateAll_returned {s : Loop} (h : s.result.isSome = true) (ts : List Turn) :
    iterateAll s ts = s := by
  induction ts with
  | nil => rfl
  | cons t ts ih => rw [iterateAll, List.foldl_cons, Loop.andThen_returned h]; exact ih

lemma arrivals_returned {s : Loop} (h : s.result.isSome = true) (ts : List Turn) :
    arrivals s ts = [] := by
  cases ts with
  | nil => rfl
  | cons t ts => rw [arrivals, if_pos h]

/-- The function checks the data plane, and is still running with these packets counted, or has
returned an error. -/
def Unconfirmed (ks : List Bytes) (s : Loop) : Prop :=
  s.dataCheck = true ∧ s.probeSuccesses = ks ∧ s.result ≠ some (.ok ())

lemma Unconfirmed.andThen {ks : List Bytes} {s : Loop} {f : Loop → Loop} (h : Unconfirmed ks s)
    (hf : s.result = none → Unconfirmed ks (f s)) : Unconfirmed ks (s.andThen f) := by
  rw [Loop.andThen]
  split
  · exact h
  · rename_i hr
    exact hf (Option.not_isSome_iff_eq_none.mp hr)

lemma Unconfirmed.returns {ks : List Bytes} {s : Loop} (h : Unconfirmed ks s) (e : AetherError) :
    Unconfirmed ks (s.returns (.error e)) :=
  ⟨h.1, h.2.1, (by intro heq; cases heq)⟩

lemma onH3Event_unconfirmed {ks : List Bytes} {s : Loop} (h : Unconfirmed ks s) (sid : ℕ) (e : H3Event) :
    Unconfirmed ks (onH3Event sid s e) := by
  match e with
  | .headers stream (some code) =>
      rw [onH3Event]
      split
      · split
        · rw [h.1, Bool.not_true, if_neg Bool.false_ne_true]
          exact ⟨rfl, h.2⟩
        · exact h.returns _
      · exact h
  | .headers _ none | .data _ _ | .finished _ | .reset _ | .other _ => exact h

lemma events_unconfirmed {ks : List Bytes} {s : Loop} (h : Unconfirmed ks s) (sid : ℕ)
    (events : List H3Event) :
    Unconfirmed ks (onEvents sid s events) := by
  induction events generalizing s with
  | nil => exact h
  | cons e es ih =>
      have hstep : Unconfirmed ks (s.andThen fun s => onH3Event sid s e) :=
        h.andThen fun _ => onH3Event_unconfirmed h sid e
      exact ih hstep

lemma pollH3_unconfirmed {ks : List Bytes} {s : Loop} (h : Unconfirmed ks s) (t : Turn) :
    Unconfirmed ks (pollH3 t s) := by
  rw [pollH3]
  split
  · rename_i sid _ _
    have hfold := events_unconfirmed h sid t.events
    refine hfold.andThen fun _ => ?_
    cases t.h3Error with
    | none => exact hfold
    | some e => exact hfold.returns _
  · exact h

/-- Up to the drain nothing is confirmed. -/
lemma reach_unconfirmed {ks : List Bytes} {s : Loop} (h : Unconfirmed ks s) (t : Turn) :
    Unconfirmed ks (reach t s) := by
  have hdeadline : Unconfirmed ks (checkDeadline t s) := by
    rw [checkDeadline]
    split
    · exact h.returns _
    · exact h
  refine hdeadline.andThen fun _ => ?_
  have hreceive : Unconfirmed ks (receive t (checkDeadline t s)) := by
    rw [receive]
    split
    · exact hdeadline.returns _
    · exact hdeadline
  refine hreceive.andThen fun _ => ?_
  have hsend : Unconfirmed ks (sendRequest t (receive t (checkDeadline t s))) := by
    rw [sendRequest]
    split
    · split
      · exact hreceive.returns _
      · exact hreceive
    · exact hreceive
  exact hsend.andThen fun _ => pollH3_unconfirmed hsend t

/-- The stages behind the drain confirm nothing either. -/
lemma finish_unconfirmed {ks : List Bytes} {s : Loop} (h : Unconfirmed ks s) (t : Turn) :
    Unconfirmed ks (s.andThen fun s => (flush t s).andThen (onClosed t)) := by
  refine h.andThen fun _ => ?_
  have hflush : Unconfirmed ks (flush t s) := by
    rw [flush]
    split
    · exact h.returns _
    · exact h
  refine hflush.andThen fun _ => ?_
  rw [onClosed]
  split
  · exact hflush.returns _
  · exact hflush

/-- The drain counts what the iteration comes to count. -/
lemma drain_reach {ks : List Bytes} {t : Turn} {s : Loop} (h : Unconfirmed ks (reach t s))
    (hr : (reach t s).result = none) :
    drain t (reach t s)
      = match tally dataProbeRequiredSuccesses (fun _ => .ok ()) ks (given t s) with
        | .error (o, ys) => { reach t s with probeSuccesses := ys }.returns o
        | .ok ys => { reach t s with probeSuccesses := ys } := by
  have hcount : (reach t s).probeSuccesses = ks := h.2.1
  rw [given, hr]
  generalize reach t s = u at hcount
  obtain ⟨dataCheck, h3Conn, reqStream, connectIpOk, probeSuccesses, result⟩ := u
  obtain rfl : probeSuccesses = ks := hcount
  cases connectIpOk with
  | false => rfl
  | true =>
      cases reqStream with
      | none => rfl
      | some sid =>
          simp only [drain, countDgrams_eq]
          rfl

/-- **The count goes on** from every state that is still running: it succeeds when there are enough
packets, and the first of them are those counted. -/
lemma iterateAll_spec {ks : List Bytes} (hk : ks.length < dataProbeRequiredSuccesses) {s : Loop}
    (h : Unconfirmed ks s) (hr : s.result = none) (ts : List Turn) :
    ((iterateAll s ts).result = some (.ok ())
        ↔ dataProbeRequiredSuccesses ≤ (ks ++ arrivals s ts).length)
      ∧ (iterateAll s ts).probeSuccesses
        = (ks ++ arrivals s ts).take dataProbeRequiredSuccesses := by
  -- what has returned an error stays as it is
  have hover : ∀ {u : Loop} {ys : List Bytes} (ts : List Turn), Unconfirmed ys u →
      ys.length < dataProbeRequiredSuccesses → u.result.isSome = true →
      ((iterateAll u ts).result = some (.ok ())
          ↔ dataProbeRequiredSuccesses ≤ (ys ++ arrivals u ts).length)
        ∧ (iterateAll u ts).probeSuccesses
          = (ys ++ arrivals u ts).take dataProbeRequiredSuccesses := by
    intro u ys ts hu hlt hsome
    rw [iterateAll_returned hsome, arrivals_returned hsome, List.append_nil,
      List.take_of_length_le (Nat.le_of_lt hlt)]
    exact ⟨iff_of_false hu.2.2 (Nat.not_le_of_lt hlt), hu.2.1⟩
  induction ts generalizing s ks with
  | nil =>
      rw [arrivals, List.append_nil, List.take_of_length_le (Nat.le_of_lt hk)]
      refine ⟨iff_of_false ?_ (Nat.not_le_of_lt hk), h.2.1⟩
      rw [iterateAll, List.foldl_nil, hr]
      intro heq
      cases heq
  | cons t ts ih =>
      have hstep : iterateAll s (t :: ts) = iterateAll (iterate t s) ts := by
        rw [iterateAll, List.foldl_cons, Loop.andThen_running hr]
        rfl
      rw [hstep, arrivals, hr, Option.isSome_none, if_neg Bool.false_ne_true, ← List.append_assoc]
      have hreach := reach_unconfirmed h t
      cases hrun : (reach t s).result with
      | some o =>
          have hsome : (reach t s).result.isSome = true := by rw [hrun]; rfl
          have hgiven : given t s = [] := by rw [given, hrun]
          rw [iterate, Loop.andThen_returned hsome, hgiven, List.append_nil]
          exact hover ts hreach hk hsome
      | none =>
          have hdrain := drain_reach hreach hrun
          have hcounted : counted (tally dataProbeRequiredSuccesses
                (fun _ => (.ok () : Except AetherError Unit)) ks (given t s))
              = (ks ++ given t s).take dataProbeRequiredSuccesses :=
            counted_tally (fun _ _ _ => rfl) hk (given t s)
          rw [iterate, Loop.andThen_running hrun, hdrain]
          cases htally : tally dataProbeRequiredSuccesses (ε := AetherError) (fun _ => .ok ()) ks
              (given t s) with
          | error r =>
              obtain ⟨o, ys⟩ := r
              obtain rfl := done_of_tally_error htally
              have hle := ((tally_done_iff hk _).mp ⟨ys, htally⟩).1
              have hys : ys = (ks ++ given t s).take dataProbeRequiredSuccesses := by
                rw [← hcounted, htally]
                rfl
              have hsome : ({ reach t s with probeSuccesses := ys }.returns
                  (.ok ())).result.isSome = true := rfl
              rw [Loop.andThen_returned hsome, iterateAll_returned hsome]
              refine ⟨iff_of_true rfl ?_, ?_⟩
              · rw [List.length_append, List.length_append]
                omega
              · rw [List.take_append_of_le_length (by rw [List.length_append]; exact hle)]
                exact hys
          | ok ys =>
              obtain ⟨rfl, hlt⟩ := lt_of_tally_ok hk htally
              have hun : Unconfirmed (ks ++ given t s)
                  { reach t s with probeSuccesses := ks ++ given t s } :=
                ⟨hreach.1, rfl, hreach.2.2⟩
              have hnext := finish_unconfirmed hun t
              cases hresult : (Loop.andThen { reach t s with probeSuccesses := ks ++ given t s }
                  fun s => (flush t s).andThen (onClosed t)).result with
              | some o => exact hover ts hnext hlt (by rw [hresult]; rfl)
              | none => exact ih hlt hnext hresult

lemma start_unconfirmed : Unconfirmed [] (.start true) :=
  ⟨rfl, rfl, by intro heq; cases heq⟩

/-- **Success of a scan over QUIC** with data checking on. -/
theorem verifyMasque_ok_iff (ts : List Turn) :
    verifyMasque true ts = some (.ok ())
      ↔ dataProbeRequiredSuccesses ≤ (arrivals (.start true) ts).length :=
  (iterateAll_spec (by decide) start_unconfirmed rfl ts).1

/-- **What a scan over QUIC has counted** with data checking on. -/
theorem confirmed_eq (ts : List Turn) :
    confirmed true ts = (arrivals (.start true) ts).take dataProbeRequiredSuccesses :=
  (iterateAll_spec (by decide) start_unconfirmed rfl ts).2

/-! ### The scan and the tunnel on the same batches -/

/-- What a turn of either loop receives: the events of HTTP/3, the datagrams, and the time. -/
structure Batch where
  events : List H3Event
  dgrams : List Bytes
  now : ℕ

/-- The packets that each batch brings. -/
def brought (sid : ℕ) (bs : List Batch) : List (List Bytes) :=
  bs.map fun b => packets sid b.dgrams

/-- The statuses among the events of the request stream. -/
def statuses (sid : ℕ) (events : List H3Event) : List ℕ :=
  events.filterMap fun
    | .headers stream status => if stream = sid then status else none
    | _ => none

/-- **The request stands accepted** for a scan: a status has come, and none but 200. -/
def Granted (sid : ℕ) (bs : List Batch) : Prop :=
  statuses sid (bs.flatMap Batch.events) ≠ []
    ∧ ∀ code ∈ statuses sid (bs.flatMap Batch.events), code = 200

/-- A turn of a scan on an established connection. -/
def Turn.received (sid : ℕ) (events : List H3Event) (dgrams : List Bytes) : Turn where
  late := false
  recv := .ok ()
  established := true
  request := .ok sid
  events := events
  h3Error := none
  dgrams := dgrams
  flush := .ok ()
  closed := false

/-- The turns of a scan. The datagrams of a batch stay in the connection, behind those held there,
until a turn finds the request accepted and drains them. -/
def scanTurns (sid : ℕ) : Bool → List Bytes → List Batch → List Turn
  | _, _, [] => []
  | accepted, held, b :: bs =>
      let accepted := accepted || decide (200 ∈ statuses sid b.events)
      .received sid b.events (held ++ b.dgrams)
        :: scanTurns sid accepted (if accepted then [] else held ++ b.dgrams) bs

/-! ### The scan -/

/-- The variables of the loop behind the request. -/
def Loop.going (sid : ℕ) (accepted : Bool) (ks : List Bytes) : Loop :=
  ⟨true, true, some sid, accepted, ks, none⟩

lemma onEvents_returned {s : Loop} (h : s.result.isSome = true) (sid : ℕ)
    (events : List H3Event) : onEvents sid s events = s := by
  induction events with
  | nil => rfl
  | cons e events ih =>
      rw [onEvents, List.foldl_cons, Loop.andThen_returned h]
      exact ih

/-- The events of a poll leave the request accepted or as it was, or end the scan. -/
lemma onEvents_cases (sid : ℕ) (accepted : Bool) (ks : List Bytes) (events : List H3Event) :
    ((∀ code ∈ statuses sid events, code = 200)
        ∧ onEvents sid (.going sid accepted ks) events
          = .going sid (accepted || decide (200 ∈ statuses sid events)) ks)
      ∨ ((∃ code ∈ statuses sid events, code ≠ 200)
        ∧ (onEvents sid (.going sid accepted ks) events).result.isSome = true) := by
  induction events generalizing accepted with
  | nil => exact .inl ⟨(by intro code h; cases h), by simp [statuses, onEvents]⟩
  | cons event events ih =>
      have hfold : onEvents sid (.going sid accepted ks) (event :: events)
          = onEvents sid (onH3Event sid (.going sid accepted ks) event) events := by
        rw [onEvents, List.foldl_cons, Loop.andThen_running rfl]
        rfl
      rw [hfold]
      match event with
      | .headers stream (some code) =>
          by_cases hstream : stream = sid
          · have hcons : statuses sid (.headers stream (some code) :: events)
                = code :: statuses sid events := by
              simp [statuses, hstream]
            rw [hcons]
            by_cases hcode : code = 200
            · have hstep : onH3Event sid (.going sid accepted ks) (.headers stream (some code))
                  = .going sid true ks := by
                simp [onH3Event, hstream, hcode, Loop.going]
              rw [hstep]
              rcases ih true with ⟨hall, heq⟩ | ⟨⟨bad, hbad, hne⟩, hend⟩
              · refine .inl ⟨List.forall_mem_cons.mpr ⟨hcode, hall⟩, ?_⟩
                rw [heq]
                simp [hcode]
              · exact .inr ⟨⟨bad, List.mem_cons_of_mem _ hbad, hne⟩, hend⟩
            · have hstep : (onH3Event sid (.going sid accepted ks)
                  (.headers stream (some code))).result.isSome = true := by
                simp [onH3Event, hstream, hcode, Loop.returns]
              rw [onEvents_returned hstep]
              exact .inr ⟨⟨code, List.mem_cons_self, hcode⟩, hstep⟩
          · have hskip : statuses sid (.headers stream (some code) :: events)
                = statuses sid events := by
              simp [statuses, hstream]
            rw [hskip, onH3Event, if_neg hstream]
            exact ih accepted
      | .headers stream none =>
          have hskip : statuses sid (.headers stream none :: events) = statuses sid events := by
            simp [statuses]
          rw [hskip]
          exact ih accepted
      | .data _ _ | .finished _ | .reset _ | .other _ => exact ih accepted

/-- A scan is about to take a turn: with its request out, or the first one. -/
def Going (sid : ℕ) (accepted : Bool) (ks : List Bytes) (s : Loop) : Prop :=
  s = .going sid accepted ks ∨ (s = .start true ∧ accepted = false ∧ ks = [])

variable {sid : ℕ} {accepted : Bool} {ks : List Bytes} {s : Loop}

lemma reach_received (h : Going sid accepted ks s) (events : List H3Event) (dgrams : List Bytes) :
    reach (.received sid events dgrams) s = onEvents sid (.going sid accepted ks) events := by
  have hsend : sendRequest (.received sid events dgrams) s = .going sid accepted ks := by
    rcases h with rfl | ⟨rfl, rfl, rfl⟩ <;> rfl
  have hr : s.result = none := by
    rcases h with rfl | ⟨rfl, -⟩ <;> rfl
  have hdeadline : checkDeadline (.received sid events dgrams) s = s := rfl
  have hreceive : receive (.received sid events dgrams) s = s := rfl
  have hpoll : pollH3 (.received sid events dgrams) (.going sid accepted ks)
      = onEvents sid (.going sid accepted ks) events := by
    show (onEvents sid (.going sid accepted ks) events).andThen (fun s => s) = _
    rw [Loop.andThen]
    split <;> rfl
  rw [reach, hdeadline, Loop.andThen_running hr, hreceive, Loop.andThen_running hr, hsend,
    Loop.andThen_running rfl, hpoll]

/-- A turn whose statuses are all 200 counts what it drains, if the request stands accepted. -/
lemma iterate_received (h : Going sid accepted ks s) {events : List H3Event}
    (hall : ∀ code ∈ statuses sid events, code = 200) (dgrams : List Bytes) :
    iterate (.received sid events dgrams) s
      = if accepted || decide (200 ∈ statuses sid events) then
          match tally dataProbeRequiredSuccesses (fun _ => .ok ()) ks (packets sid dgrams) with
          | .error (o, ys) => (Loop.going sid true ys).returns o
          | .ok ys => .going sid true ys
        else .going sid false ks := by
  have hreach := reach_received h events dgrams
  rcases onEvents_cases sid accepted ks events with ⟨-, heq⟩ | ⟨⟨bad, hbad, hne⟩, -⟩
  · rw [heq] at hreach
    rw [iterate, hreach, Loop.andThen_running rfl]
    cases accepted || decide (200 ∈ statuses sid events) with
    | false => rfl
    | true =>
        have hdrain : drain (.received sid events dgrams) (.going sid true ks)
            = match tally dataProbeRequiredSuccesses (fun _ => .ok ()) ks (packets sid dgrams) with
              | .error (o, ys) => (Loop.going sid true ys).returns o
              | .ok ys => .going sid true ys := by
          rw [← countDgrams_eq]
          rfl
        rw [hdrain, if_pos rfl]
        cases tally dataProbeRequiredSuccesses (fun _ => .ok ()) ks (packets sid dgrams) <;> rfl
  · exact absurd (hall bad hbad) hne

/-- A turn that brings another status ends the scan. -/
lemma iterate_refused (h : Going sid accepted ks s) {events : List H3Event} {code : ℕ}
    (hmem : code ∈ statuses sid events) (hne : code ≠ 200) (dgrams : List Bytes) :
    (iterate (.received sid events dgrams) s).result.isSome = true
      ∧ (iterate (.received sid events dgrams) s).result ≠ some (.ok ()) := by
  have hun : Unconfirmed ks s := by
    rcases h with rfl | ⟨rfl, -, rfl⟩
    · exact ⟨rfl, rfl, by intro heq; cases heq⟩
    · exact start_unconfirmed
  have hreach := reach_received h events dgrams
  rcases onEvents_cases sid accepted ks events with ⟨hall, -⟩ | ⟨-, hsome⟩
  · exact absurd (hall code hmem) hne
  · have hsome' : (reach (.received sid events dgrams) s).result.isSome = true := by
      rw [hreach]
      exact hsome
    rw [iterate, Loop.andThen_returned hsome']
    exact ⟨hsome', (reach_unconfirmed hun _).2.2⟩

/-- After some of the batches the request stands accepted, and two packets have come, `k` of them
before. -/
def Confirmable (sid : ℕ) (accepted : Bool) (k : ℕ) (bs : List Batch) : Prop :=
  ∃ m, (∀ code ∈ statuses sid ((bs.take m).flatMap Batch.events), code = 200)
    ∧ (accepted = true ∨ statuses sid ((bs.take m).flatMap Batch.events) ≠ [])
    ∧ 2 ≤ k + ((brought sid bs).take m).flatten.length

lemma statuses_append (sid : ℕ) (es es' : List H3Event) :
    statuses sid (es ++ es') = statuses sid es ++ statuses sid es' :=
  List.filterMap_append

lemma confirmable_cons {k : ℕ} (hnot : ¬ (accepted = true ∧ 2 ≤ k)) (b : Batch) (bs : List Batch) :
    Confirmable sid accepted k (b :: bs)
      ↔ (∀ code ∈ statuses sid b.events, code = 200)
        ∧ Confirmable sid (accepted || decide (200 ∈ statuses sid b.events))
          (k + (packets sid b.dgrams).length) bs := by
  -- of statuses that are all 200, one is there or none is
  have hany (hall : ∀ code ∈ statuses sid b.events, code = 200) (more : List ℕ) :
      (accepted = true ∨ statuses sid b.events ++ more ≠ [])
        ↔ ((accepted || decide (200 ∈ statuses sid b.events)) = true ∨ more ≠ []) := by
    cases hst : statuses sid b.events with
    | nil => simp
    | cons code codes =>
        have hcode := hall code (by rw [hst]; exact List.mem_cons_self)
        simp [hcode]
  constructor
  · rintro ⟨m, hall, haccepted, hlen⟩
    cases m with
    | zero =>
        refine absurd ⟨haccepted.resolve_right ?_, ?_⟩ hnot
        · simp [statuses]
        · simpa using hlen
    | succ m =>
        rw [List.take_succ_cons, List.flatMap_cons, statuses_append] at hall haccepted
        rw [brought, List.map_cons, List.take_succ_cons, List.flatten_cons, List.length_append,
          ← Nat.add_assoc] at hlen
        have hfirst : ∀ code ∈ statuses sid b.events, code = 200 :=
          fun code hcode => hall code (List.mem_append_left _ hcode)
        exact ⟨hfirst, m, fun code hcode => hall code (List.mem_append_right _ hcode),
          (hany hfirst _).mp haccepted, hlen⟩
  · rintro ⟨hfirst, m, hall, haccepted, hlen⟩
    refine ⟨m + 1, ?_, ?_, ?_⟩
    · rw [List.take_succ_cons, List.flatMap_cons, statuses_append]
      exact List.forall_mem_append.mpr ⟨hfirst, hall⟩
    · rw [List.take_succ_cons, List.flatMap_cons, statuses_append]
      exact (hany hfirst _).mpr haccepted
    · rw [brought, List.map_cons, List.take_succ_cons, List.flatten_cons, List.length_append,
        ← Nat.add_assoc]
      exact hlen

/-- **The scan counts the batches**, those held in the connection included. -/
lemma scan_iff (h : Going sid accepted ks s) (hk : ks.length < dataProbeRequiredSuccesses)
    {held : List Bytes} (hheld : accepted = true → held = []) (bs : List Batch) :
    (iterateAll s (scanTurns sid accepted held bs)).result = some (.ok ())
      ↔ Confirmable sid accepted (ks.length + (packets sid held).length) bs := by
  induction bs generalizing s accepted ks held with
  | nil =>
      have hr : s.result = none := by
        rcases h with rfl | ⟨rfl, -⟩ <;> rfl
      refine iff_of_false ?_ ?_
      · rw [scanTurns, iterateAll, List.foldl_nil, hr]
        intro heq
        cases heq
      · rintro ⟨m, -, haccepted, hlen⟩
        have hopen : accepted = true := haccepted.resolve_right (by simp [statuses])
        rw [hheld hopen] at hlen
        simp only [brought, packets, List.map_nil, List.take_nil, List.flatten_nil,
          List.length_nil, List.filterMap_nil] at hlen
        rw [dataProbeRequiredSuccesses] at hk
        omega
  | cons b bs ih =>
      have hr : s.result = none := by
        rcases h with rfl | ⟨rfl, -⟩ <;> rfl
      have hnot : ¬ (accepted = true ∧ 2 ≤ ks.length + (packets sid held).length) := by
        rintro ⟨hopen, hlen⟩
        rw [hheld hopen] at hlen
        exact absurd hk (Nat.not_lt_of_le hlen)
      rw [confirmable_cons hnot, scanTurns, iterateAll, List.foldl_cons, ← iterateAll,
        Loop.andThen_running hr]
      by_cases hall : ∀ code ∈ statuses sid b.events, code = 200
      · have hsplit : packets sid (held ++ b.dgrams)
            = packets sid held ++ packets sid b.dgrams := List.filterMap_append
        rw [iterate_received h hall, and_iff_right hall]
        generalize (accepted || decide (200 ∈ statuses sid b.events)) = open'
        cases open' with
        | false =>
            have hheld' : false = true → held ++ b.dgrams = [] := by rintro ⟨⟩
            have hnext := ih (s := .going sid false ks) (.inl rfl) hk hheld'
            rw [hsplit, List.length_append, ← Nat.add_assoc] at hnext
            exact hnext
        | true =>
            rw [if_pos rfl, if_pos rfl]
            cases htally : tally dataProbeRequiredSuccesses (ε := AetherError) (fun _ => .ok ()) ks
                (packets sid (held ++ b.dgrams)) with
            | error r =>
                obtain ⟨o, ys⟩ := r
                obtain rfl := done_of_tally_error htally
                have hle := ((tally_done_iff hk _).mp ⟨ys, htally⟩).1
                rw [hsplit, List.length_append, dataProbeRequiredSuccesses] at hle
                rw [iterateAll_returned rfl]
                refine iff_of_true rfl ⟨0, (by simp [statuses]), .inl rfl, ?_⟩
                rw [List.take_zero, List.flatten_nil, List.length_nil]
                omega
            | ok ys =>
                obtain ⟨rfl, hlt⟩ := lt_of_tally_ok hk htally
                have hnone : true = true → ([] : List Bytes) = [] := fun _ => rfl
                have hnext := ih (s := .going sid true (ks ++ packets sid (held ++ b.dgrams)))
                  (.inl rfl) hlt hnone
                have hlen : (ks ++ packets sid (held ++ b.dgrams)).length
                    + (packets sid []).length
                    = ks.length + (packets sid held).length + (packets sid b.dgrams).length := by
                  have hnil : (packets sid []).length = 0 := rfl
                  rw [hsplit, List.length_append, List.length_append, hnil]
                  omega
                rw [hlen] at hnext
                exact hnext
      · obtain ⟨code, hmem, hne⟩ : ∃ code ∈ statuses sid b.events, code ≠ 200 := by
          simpa using hall
        obtain ⟨hsome, hbad⟩ := iterate_refused h hmem hne (held ++ b.dgrams)
        rw [iterateAll_returned hsome]
        exact iff_of_false hbad fun hall' => hall hall'.1

/-- **A scan that receives batches** succeeds exactly when, after some of them, the request stands
accepted and two packets have come. -/
lemma verifyMasque_iff (sid : ℕ) (bs : List Batch) (n : ℕ) :
    verifyMasque true (scanTurns sid false [] (bs.take n)) = some (.ok ())
      ↔ ∃ m ≤ n, Granted sid (bs.take m) ∧ 2 ≤ ((brought sid bs).take m).flatten.length := by
  have hscan : (iterateAll (.start true) (scanTurns sid false [] (bs.take n))).result
        = some (.ok ()) ↔ Confirmable sid false (0 + 0) (bs.take n) :=
    scan_iff (.inr ⟨rfl, rfl, rfl⟩) (by decide) (fun _ => rfl) (bs.take n)
  rw [verifyMasque, hscan]
  have hbrought : ∀ m, ((brought sid (bs.take n)).take m) = (brought sid bs).take (min m n) := by
    intro m
    rw [brought, brought, List.map_take, List.take_take]
  constructor
  · rintro ⟨m, hall, haccepted, hlen⟩
    rw [List.take_take] at hall haccepted
    refine ⟨min m n, Nat.min_le_right .., ⟨haccepted.resolve_left (by simp), hall⟩, ?_⟩
    rw [hbrought] at hlen
    simpa [packets] using hlen
  · rintro ⟨m, hm, ⟨hsome, hall⟩, hlen⟩
    refine ⟨m, ?_, ?_, ?_⟩
    · rwa [List.take_take, Nat.min_eq_left hm]
    · rw [List.take_take, Nat.min_eq_left hm]
      exact .inr hsome
    · rw [hbrought, Nat.min_eq_left hm]
      simpa [packets] using hlen

/-! ### The tunnel -/

/-- The turn of a tunnel in which it receives a batch. -/
def batchTurn (sid requestAt : ℕ) (b : Batch) : Quic.Turn :=
  { Quic.Turn.plain b.events b.dgrams with request := .ok sid, requestAt := requestAt, now := b.now }

/-- The tunnel is running, its request goes out or is out, and so many turns have delivered
something. -/
structure Taking (sid requestAt timeout n : ℕ) (s : Quic.Loop) : Prop where
  asked : Quic.Asked s
  running : s.result = none
  dataCheck : s.ready.dataCheck = true
  counted : Counted n s.ready
  unsent : s.h3Conn = false →
    s.ready.validateDeadline = none ∧ s.validationTimeout = timeout
  stream : s.h3Conn = true → s.reqStream = some sid
  armed : s.h3Conn = true → s.ready.readyFired = false →
    s.ready.validateDeadline = some (requestAt + timeout)

lemma start_taking (sid requestAt timeout : ℕ) (ech : Option Bytes) :
    Taking sid requestAt timeout 0 (.start true true timeout ech) where
  asked := Quic.start_asked ..
  running := rfl
  dataCheck := rfl
  counted := .start true
  unsent _ := ⟨rfl, rfl⟩
  stream h := by cases h
  armed h := by cases h

lemma gotData_eq (sid requestAt : ℕ) (b : Batch) :
    Quic.gotData (batchTurn sid requestAt b) (some sid) = !(packets sid b.dgrams).isEmpty :=
  Quic.gotData_eq (batchTurn sid requestAt b) (some sid)

/-- **A batch in time** is drained, and counts once if it delivers something. -/
lemma step_batchTurn {requestAt timeout n : ℕ} {s : Quic.Loop} (h : Taking sid requestAt timeout n s)
    {b : Batch} (htime : b.now < requestAt + timeout) :
    ∃ s', Quic.step s (batchTurn sid requestAt b) = some s'
      ∧ Taking sid requestAt timeout (n + if !(packets sid b.dgrams).isEmpty then 1 else 0) s' := by
  have hexp : s.ready.expired b.now = false := by
    cases hc : s.h3Conn with
    | true => exact Readiness.expired_eq_false (h.armed hc) htime
    | false => simp [Readiness.expired, (h.unsent hc).1]
  have hpolls : Quic.polls s (batchTurn sid requestAt b) = some sid := by
    rw [Quic.polls]
    cases hc : s.h3Conn with
    | true => simp [batchTurn, hexp, h.stream hc]
    | false => simp [batchTurn, Quic.Turn.plain, hexp, Except.toOption]
  have hs : Quic.step s (batchTurn sid requestAt b)
      = some (Quic.iterate (batchTurn sid requestAt b) s) := if_pos ⟨h.running, rfl⟩
  obtain ⟨⟨hconn, hstream, -⟩, os, hos, -, hend⟩ := Quic.step_polled h.asked hs hpolls
  obtain ⟨-, hready, hresult⟩ := hend.resolve_left (by rintro ⟨⟨e, he⟩, -⟩; cases he)
  rw [hpolls, gotData_eq] at hready
  -- the request, if it goes out in this turn, arms the deadline
  have hbegun : Counted n (Quic.begun s (batchTurn sid requestAt b))
      ∧ (Quic.begun s (batchTurn sid requestAt b)).dataCheck = true
      ∧ ((Quic.begun s (batchTurn sid requestAt b)).readyFired = false →
        (Quic.begun s (batchTurn sid requestAt b)).validateDeadline
          = some (requestAt + timeout)) := by
    rw [Quic.begun]
    cases hc : s.h3Conn with
    | true => exact ⟨h.counted, h.dataCheck, h.armed hc⟩
    | false =>
        have hbegin : s.ready.begin (batchTurn sid requestAt b).requestAt s.validationTimeout
            = { s.ready with validateDeadline := some (requestAt + timeout) } := by
          rw [Readiness.begin, if_pos h.dataCheck, (h.unsent hc).2]
          rfl
        refine ⟨h.counted.begin h.dataCheck _ _, ?_, fun _ => ?_⟩
        · simp [hbegin, h.dataCheck]
        · simp [hbegin]
  obtain ⟨hcount, hdc, harmed⟩ := hbegun
  have hframe := Readiness.count_frame
    ((Quic.begun s (batchTurn sid requestAt b)).observeAll os) (!(packets sid b.dgrams).isEmpty)
  rw [← hready] at hframe
  refine ⟨_, hs, ⟨Quic.step_asked h.asked hs, hresult, ?_, ?_, ?_, fun _ => hstream, ?_⟩⟩
  · rw [hframe.1, Readiness.observeAll_frame]
    exact hdc
  · rw [hready]
    exact (hcount.observeAll fun o ho => (hos o ho).ne.1).count _
  · intro hc
    rw [hconn] at hc
    cases hc
  · intro _ hfired
    obtain ⟨hbefore, hdeadline⟩ := hframe.2 hfired
    rw [Readiness.observeAll_frame] at hbefore hdeadline
    rw [hdeadline]
    exact harmed hbefore

lemma run_batchTurns {requestAt timeout n : ℕ} {s : Quic.Loop} (h : Taking sid requestAt timeout n s)
    {bs : List Batch} (htime : ∀ b ∈ bs, b.now < requestAt + timeout) :
    ∃ s', Machine.run Quic.step s (bs.map (batchTurn sid requestAt)) = some s'
      ∧ Taking sid requestAt timeout (n + full (brought sid bs)) s' := by
  induction bs generalizing s n with
  | nil => exact ⟨s, rfl, h⟩
  | cons b bs ih =>
      obtain ⟨t, ht, htaking⟩ := step_batchTurn h (htime b (List.mem_cons_self ..))
      obtain ⟨s', hs', hn⟩ := ih htaking fun x hx => htime x (List.mem_cons_of_mem b hx)
      refine ⟨s', Machine.run_cons_eq_some.mpr ⟨t, ht, hs'⟩, ?_⟩
      rw [brought, List.map_cons, full_cons, ← Nat.add_assoc]
      exact hn

/-- The tunnel has signalled readiness after so many batches. -/
def Signalled (sid requestAt timeout : ℕ) (ech : Option Bytes) (bs : List Batch) : Prop :=
  ∃ s, Machine.run Quic.step (.start true true timeout ech) (bs.map (batchTurn sid requestAt))
    = some s ∧ .ready ∈ s.ready.log

lemma signalled_iff (sid : ℕ) {requestAt timeout : ℕ} (ech : Option Bytes) {bs : List Batch}
    (htime : ∀ b ∈ bs, b.now < requestAt + timeout) :
    Signalled sid requestAt timeout ech bs ↔ 2 ≤ full (brought sid bs) := by
  obtain ⟨s, hs, htaking⟩ := run_batchTurns (start_taking sid requestAt timeout ech) htime
  have hready := htaking.counted.ready_iff
  rw [Nat.zero_add] at hready
  rw [← dataProbeRequiredSuccesses, ← hready]
  constructor
  · rintro ⟨s', hs', hmem⟩
    obtain rfl := Option.some.inj (hs.symm.trans hs')
    exact hmem
  · exact fun hmem => ⟨s, hs, hmem⟩

/-! ### Both of them -/

/-- **The scan and the tunnel** agree on batches, after every number of them, exactly when they
count alike, packets counting while the request stands accepted. -/
lemma verifyMasque_agrees_iff (sid : ℕ) {requestAt timeout : ℕ} (ech : Option Bytes)
    {bs : List Batch} (htime : ∀ b ∈ bs, b.now < requestAt + timeout) :
    (∀ n, verifyMasque true (scanTurns sid false [] (bs.take n)) = some (.ok ())
        ↔ Signalled sid requestAt timeout ech (bs.take n))
      ↔ Alike (fun n => Granted sid (bs.take n)) (brought sid bs) := by
  have hsignal : ∀ n, Signalled sid requestAt timeout ech (bs.take n)
      ↔ 2 ≤ full ((brought sid bs).take n) := by
    intro n
    rw [signalled_iff sid ech fun b hb => htime b (List.mem_of_mem_take hb), brought, brought,
      List.map_take]
  simp only [verifyMasque_iff, hsignal]
  exact alike_iff _ _

/-- **The scan and the tunnel count alike** exactly when, as long as one batch has brought packets
and they count for the scan, it has brought one packet, and when the second one does, they count.
They count over QUIC while the request stands accepted, and over HTTP/2 if the probes can be
sent. -/
theorem confirmations_agree_iff {code responseAt timeout requestAt timeout' : ℕ} (keepalive : ℕ)
    (probes : ℕ → Except AetherError Unit) {cs : List (Bytes × ℕ)}
    (hcs : ∀ c ∈ cs, c.2 < responseAt + timeout) (sid : ℕ) (ech : Option Bytes)
    {bs : List Batch} (hbs : ∀ b ∈ bs, b.now < requestAt + timeout') :
    ((∀ n, (H2.verifyH2 true
            ⟨.ok code, probes, (cs.take n).map fun c => some (.ok c.1)⟩).1 = .ok ()
          ↔ H2.Signalled code responseAt timeout keepalive (cs.take n))
        ↔ (isSuccess code = true → Alike (fun _ => probes 0 = .ok () ∧ probes 1 = .ok ())
          (H2.batches .new (cs.map Prod.fst))))
      ∧ ((∀ n, verifyMasque true (scanTurns sid false [] (bs.take n)) = some (.ok ())
          ↔ Signalled sid requestAt timeout' ech (bs.take n))
        ↔ Alike (fun n => Granted sid (bs.take n)) (brought sid bs)) :=
  ⟨H2.verifyH2_agrees_iff keepalive probes hcs, verifyMasque_agrees_iff sid ech hbs⟩

/-- The rule where one packet comes over HTTP/2, and two over QUIC, in a batch each, the first of
them with the response. -/
theorem confirmations_agree_sample :
    ((∀ n, (H2.verifyH2 true ⟨.ok 200, fun _ => .ok (),
            ([([0, 1, 7], 5)].take n).map fun c => some (.ok c.1)⟩).1 = .ok ()
          ↔ H2.Signalled 200 0 10 20 ([([0, 1, 7], 5)].take n))
        ↔ (isSuccess 200 = true → Alike
          (fun _ => (Except.ok () : Except AetherError Unit) = .ok ()
            ∧ (Except.ok () : Except AetherError Unit) = .ok ())
          (H2.batches .new [[0, 1, 7]])))
      ∧ ∀ n, verifyMasque true (scanTurns 0 false []
            ([⟨[.headers 0 (some 200)], [[0, 0, 69]], 1⟩, ⟨[], [[0, 0, 70]], 2⟩].take n))
          = some (.ok ())
        ↔ Signalled 0 1 10 none
          ([⟨[.headers 0 (some 200)], [[0, 0, 69]], 1⟩, ⟨[], [[0, 0, 70]], 2⟩].take n) := by
  obtain ⟨hh2, hquic⟩ := @confirmations_agree_iff 200 0 10 1 10 20 (fun _ => .ok ())
    [([0, 1, 7], 5)] (by decide) 0 none
    [⟨[.headers 0 (some 200)], [[0, 0, 69]], 1⟩, ⟨[], [[0, 0, 70]], 2⟩] (by simp)
  refine ⟨hh2, hquic.mpr ⟨fun n _ hone => ?_, fun n _ _ => ⟨?_, ?_⟩⟩⟩
  · match n with
    | 0 => cases hone
    | 1 => rfl
    | n + 2 =>
        rw [List.take_of_length_le (by simp [brought])] at hone
        cases hone
  · rw [List.take_succ_cons, List.flatMap_cons]
    simp [statuses]
  · intro code hcode
    rw [List.take_succ_cons, List.flatMap_cons] at hcode
    cases n <;> simpa [statuses] using hcode

/-- **One batch of two packets** confirms a gateway for the scan, and not for the tunnel. **Two
batches before the response** confirm it for the tunnel, and not for the scan. -/
theorem batch_of_two_disagrees :
    (verifyMasque true (scanTurns 0 false []
          [⟨[.headers 0 (some 200)], [], 1⟩, ⟨[], [[0, 0, 69], [0, 0, 70]], 2⟩]) = some (.ok ())
        ∧ ¬ Signalled 0 1 10 none
          [⟨[.headers 0 (some 200)], [], 1⟩, ⟨[], [[0, 0, 69], [0, 0, 70]], 2⟩])
      ∧ verifyMasque true (scanTurns 0 false [] [⟨[], [[0, 0, 69]], 1⟩, ⟨[], [[0, 0, 70]], 2⟩]) = none
      ∧ Signalled 0 1 10 none [⟨[], [[0, 0, 69]], 1⟩, ⟨[], [[0, 0, 70]], 2⟩] := by
  refine ⟨⟨?_, ?_⟩, ?_, ?_⟩
  · decide +kernel
  · rw [signalled_iff 0 none (by simp)]
    decide +kernel
  · decide +kernel
  · rw [signalled_iff 0 none (by simp)]
    decide +kernel

end Aether.Tunnel.VerifyMasque
