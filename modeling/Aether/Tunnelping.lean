import Aether.Lib.Utf8
import Aether.Options
import Aether.Socks.Resolve

/-!
The HTTP check of an ironclad scan (`http_probe` in `tunnelping.rs`).

The chunks are all that the server returns, as the netstack hands it on. The check reads whole
chunks until it has twelve bytes, and looks for `204` in all that it has.

* `httpProbe_eq_ok`: when the check is passed.
* `httpProbe_right_iff`: this is for a 204 response exactly when no other `204` has been read,
  and however the response is split exactly when it has no other `204`.
-/

namespace Aether.Tunnelping

def HTTP_PROBE_HOST : String := "www.gstatic.com"
def HTTP_PROBE_PATH : String := "/generate_204"

/-! ### The code -/

/-- How the response ends: the connection is closed, or six seconds pass without a chunk. -/
inductive Ending where
  | closed
  | silent
  deriving DecidableEq

/-- What `http_probe` meets. -/
structure Probe where
  env : Env
  lookup : Socks.Lookup
  openTcp : SocketAddr → Except AetherError Unit
  send : Bytes → Except AetherError Unit
  chunks : List Bytes
  ending : Ending

def httpProbePort (env : Env) : ℕ :=
  ((env "AETHER_IRONCLAD_PORT").bind (parseUnsigned 65536)).getD 80

def request : String :=
  s!"GET {HTTP_PROBE_PATH} HTTP/1.1\r\nHost: {HTTP_PROBE_HOST}\r\nConnection: close\r\n"
    ++ "User-Agent: aether-ironclad\r\n\r\n"

/-- The loop, behind the bytes that have been read. -/
def receive (ending : Ending) (buf : Bytes) : List Bytes → Except AetherError Bytes
  | [] =>
      match ending with
      | .closed => .ok buf
      | .silent => .error (.other "http probe response timeout")
  | chunk :: chunks =>
      if 12 ≤ (buf ++ chunk).length then .ok (buf ++ chunk)
      else receive ending (buf ++ chunk) chunks

/-- `lines().next().unwrap_or("").trim()`; a carriage return goes with the other white space. -/
def firstLine (text : String) : String := trim (.ofList (text.toList.takeWhile (· ≠ '\n')))

/-- What becomes of the bytes that have been read. -/
def judge (buf : Bytes) : Except AetherError Unit :=
  let statusLine := Utf8.lossy buf
  if "204".toList <:+: statusLine.toList then .ok ()
  else .error (.other s!"unexpected http probe response: {firstLine statusLine}")

def httpProbe (p : Probe) : Except AetherError Unit := do
  let ip ← (Socks.dnsResolve p.lookup HTTP_PROBE_HOST).result
  p.openTcp ⟨ip, httpProbePort p.env⟩
  p.send (request.toList.flatMap String.utf8EncodeChar)
  let buf ← receive p.ending [] p.chunks
  judge buf

/-! ### Responses -/

/-- The server is connected to, and the request is sent. -/
def Probe.Connects (p : Probe) : Prop :=
  ∃ ip, (Socks.dnsResolve p.lookup HTTP_PROBE_HOST).result = .ok ip
    ∧ p.openTcp ⟨ip, httpProbePort p.env⟩ = .ok ()
    ∧ p.send (request.toList.flatMap String.utf8EncodeChar) = .ok ()

/-- The bytes of ASCII text. -/
def ascii (text : String) : Bytes := text.toList.map Utf8.byteOf

/-- The response begins with a status line of HTTP/1.x whose code is 204. -/
def NoContent (stream : Bytes) : Prop :=
  ∃ minor rest, stream = ascii "HTTP/1." ++ minor :: (ascii " 204" ++ rest)
    ∧ minor ∈ ascii "0123456789" ∧ (rest = [] ∨ ∃ b ∈ rest.head?, b ∈ ascii " \r\n")

/-- The bytes up to the end of the chunk with the twelfth, or all of them. -/
def gathered (buf : Bytes) : List Bytes → Bytes
  | [] => buf
  | chunk :: chunks =>
      if 12 ≤ (buf ++ chunk).length then buf ++ chunk else gathered (buf ++ chunk) chunks

/-- The server does not fall silent before the twelfth byte. -/
def Probe.Complete (p : Probe) : Prop := p.ending = .closed ∨ 12 ≤ (gathered [] p.chunks).length

/-! ### When the check is passed -/

variable {p : Probe} {buf : Bytes}

/-- The loop ends with what is gathered, unless the server falls silent. -/
lemma receive_eq_ok (ending : Ending) (chunks : List Bytes) (hbuf : buf.length < 12)
    (bytes : Bytes) : receive ending buf chunks = .ok bytes ↔ bytes = gathered buf chunks
      ∧ (ending = .closed ∨ 12 ≤ (gathered buf chunks).length) := by
  induction chunks generalizing buf with
  | nil =>
      rw [gathered, or_iff_left (Nat.not_le_of_lt hbuf)]
      cases ending with
      | closed => simp [receive, eq_comm]
      | silent => simp [receive]
  | cons chunk chunks ih =>
      rw [receive, gathered]
      split
      · rename_i hlong
        rw [and_iff_left (.inr hlong), Except.ok.injEq]
        exact eq_comm
      · rename_i hshort
        exact ih (Nat.lt_of_not_le hshort)

/-- What is gathered is a beginning of the response. -/
lemma gathered_isPrefix (buf : Bytes) (chunks : List Bytes) :
    gathered buf chunks <+: buf ++ chunks.flatten := by
  induction chunks generalizing buf with
  | nil =>
      rw [gathered, List.flatten_nil, List.append_nil]
  | cons chunk chunks ih =>
      rw [gathered, List.flatten_cons, ← List.append_assoc]
      split
      · exact List.prefix_append _ _
      · exact ih _

/-- It is all of the response, or has twelve bytes. -/
lemma gathered_cases (buf : Bytes) (chunks : List Bytes) :
    gathered buf chunks = buf ++ chunks.flatten ∨ 12 ≤ (gathered buf chunks).length := by
  induction chunks generalizing buf with
  | nil =>
      rw [gathered, List.flatten_nil, List.append_nil]
      exact .inl rfl
  | cons chunk chunks ih =>
      rw [gathered, List.flatten_cons, ← List.append_assoc]
      split
      · rename_i hlong
        exact .inr hlong
      · exact ih _

lemma judge_eq_ok (buf : Bytes) : judge buf = .ok () ↔ ascii "204" <:+: buf := by
  have htext : ∀ c ∈ "204".toList, Utf8.IsAscii c := by
    intro c hc
    have hmem : c ∈ ['2', '0', '4'] := hc
    simp only [List.mem_cons, List.not_mem_nil, or_false] at hmem
    rcases hmem with rfl | rfl | rfl <;> decide
  have hlossy : (Utf8.lossy buf).toList = Utf8.lossyFrom 0 buf := String.toList_ofList
  rw [ascii, ← Utf8.infix_lossy_iff htext, ← hlossy, judge]
  split
  · rename_i hin
    exact iff_of_true rfl hin
  · rename_i hin
    exact iff_of_false (fun h => by cases h) hin

/-- **The check is passed exactly when** `204` has been read before the end. -/
lemma httpProbe_eq_ok (h : p.Connects) :
    httpProbe p = .ok () ↔ p.Complete ∧ ascii "204" <:+: gathered [] p.chunks := by
  obtain ⟨ip, hresolve, hopen, hsend⟩ := h
  have hrun : httpProbe p = receive p.ending [] p.chunks >>= judge := by
    rw [httpProbe, hresolve]
    show (p.openTcp ⟨ip, httpProbePort p.env⟩ >>= _) = _
    rw [hopen]
    show (p.send _ >>= _) = _
    rw [hsend]
    rfl
  have hempty : ([] : Bytes).length < 12 := by decide
  have hreceive := receive_eq_ok p.ending p.chunks hempty
  rw [hrun]
  cases hr : receive p.ending [] p.chunks with
  | ok buf =>
      obtain ⟨rfl, hcomplete⟩ := (hreceive buf).mp hr
      exact (judge_eq_ok _).trans (and_iff_right hcomplete).symm
  | error e =>
      refine iff_of_false (fun hok => by cases hok) fun hc => ?_
      rw [(hreceive _).mpr ⟨rfl, hc.1⟩] at hr
      cases hr

/-- A 204 response has the code within its first twelve bytes. -/
lemma NoContent.infix_gathered {stream : Bytes} (h : NoContent stream)
    (hpre : buf <+: stream) (hbuf : buf = stream ∨ 12 ≤ buf.length) :
    12 ≤ buf.length ∧ ascii "204" <:+: buf := by
  obtain ⟨minor, rest, rfl, -, -⟩ := h
  have hsplit : ascii "HTTP/1." ++ minor :: (ascii " 204" ++ rest)
      = (ascii "HTTP/1." ++ minor :: ascii " 204") ++ rest := by
    rw [List.append_assoc]
    rfl
  rw [hsplit] at hpre hbuf
  have hlen : (ascii "HTTP/1." ++ minor :: ascii " 204").length = 12 := rfl
  have hlong : 12 ≤ buf.length := by
    rcases hbuf with rfl | hbuf
    · rw [List.length_append, hlen]
      omega
    · exact hbuf
  have hline : ascii "HTTP/1." ++ minor :: ascii " 204" <+: buf :=
    List.prefix_of_prefix_length_le (List.prefix_append _ _) hpre (hlen ▸ hlong)
  have hcode : ascii "204" <:+: ascii "HTTP/1." ++ minor :: ascii " 204" :=
    ⟨ascii "HTTP/1." ++ [minor, 0x20], [], by rfl⟩
  exact ⟨hlong, hcode.trans hline.isInfix⟩

/-- In one chunk, all of the response is gathered. -/
lemma gathered_singleton (stream : Bytes) : gathered [] [stream] = stream := by
  rw [gathered, gathered, List.nil_append, ite_self]

/-- One run is right exactly when nothing else that it has read contains `204`. -/
lemma right_iff (h : p.Connects) : (httpProbe p = .ok () ↔ NoContent p.chunks.flatten)
    ↔ (p.Complete → ascii "204" <:+: gathered [] p.chunks → NoContent p.chunks.flatten) := by
  rw [httpProbe_eq_ok h]
  constructor
  · intro hiff hcomplete hin
    exact hiff.mp ⟨hcomplete, hin⟩
  · intro hright
    refine ⟨fun hc => hright hc.1 hc.2, fun hno => ?_⟩
    have hall := hno.infix_gathered (gathered_isPrefix [] p.chunks) (gathered_cases [] p.chunks)
    exact ⟨.inr hall.1, hall.2⟩

/-- **The check accepts exactly the 204 responses if and only if** nothing else that it has read
contains `204`. It does so however a response is split, and however it ends, if and only if
nothing else contains `204`. -/
theorem httpProbe_right_iff (h : p.Connects) :
    ((httpProbe p = .ok () ↔ NoContent p.chunks.flatten)
      ↔ (p.Complete → ascii "204" <:+: gathered [] p.chunks → NoContent p.chunks.flatten))
    ∧ ∀ stream, (∀ chunks ending, chunks.flatten = stream →
        (httpProbe { p with chunks, ending } = .ok () ↔ NoContent stream))
      ↔ (ascii "204" <:+: stream → NoContent stream) := by
  refine ⟨right_iff h, fun stream => ⟨fun hall hin => ?_, ?_⟩⟩
  · -- the whole response in one chunk
    have hconnects : { p with chunks := [stream], ending := .closed }.Connects := h
    refine (hall [stream] .closed List.flatten_singleton).mp ?_
    refine (httpProbe_eq_ok hconnects).mpr ⟨.inl rfl, ?_⟩
    rw [gathered_singleton]
    exact hin
  · rintro hright chunks ending rfl
    have hconnects : { p with chunks, ending }.Connects := h
    exact (right_iff hconnects).mpr fun _ hin =>
      hright (hin.trans (gathered_isPrefix [] chunks).isInfix)

/-- A probe whose connection succeeds. -/
def connected (chunks : List Bytes) : Probe where
  env _ := none
  lookup := Socks.answered
  openTcp _ := .ok ()
  send _ := .ok ()
  chunks := chunks
  ending := .closed

lemma connects_connected (chunks : List Bytes) : (connected chunks).Connects := by
  refine ⟨.v4 (.new 93 184 216 34), Socks.dnsResolve_eq_ok.mpr ⟨⟨rfl, rfl⟩, _, rfl, ?_⟩, rfl, rfl⟩
  exact Socks.dnsA_message (m := Socks.aliased) (by decide) rfl

/-- A 204 response in two chunks. -/
theorem httpProbe_no_content :
    httpProbe (connected [ascii "HTTP/1.", ascii "1 204 No Content\r\n\r\n"]) = .ok () := by
  have hno : NoContent (connected [ascii "HTTP/1.",
      ascii "1 204 No Content\r\n\r\n"]).chunks.flatten :=
    ⟨0x31, ascii " No Content\r\n\r\n", rfl, by decide, .inr ⟨0x20, rfl, by decide⟩⟩
  exact ((httpProbe_right_iff (connects_connected _)).1.mpr fun _ _ => hno).mpr hno

/-- A redirection with a body of 204 bytes is accepted in one chunk, and is not when the chunks
are cut behind the code. -/
theorem redirection_accepted :
    httpProbe (connected [ascii "HTTP/1.1 302 Found\r\nContent-Length: 204\r\n\r\n"]) = .ok ()
      ∧ httpProbe (connected [ascii "HTTP/1.1 302",
          ascii " Found\r\nContent-Length: 204\r\n\r\n"]) ≠ .ok ()
      ∧ ¬ NoContent (ascii "HTTP/1.1 302 Found\r\nContent-Length: 204\r\n\r\n") := by
  refine ⟨(httpProbe_eq_ok (connects_connected _)).mpr ⟨.inl rfl, by decide⟩, fun hok => ?_, ?_⟩
  · exact absurd ((httpProbe_eq_ok (connects_connected _)).mp hok).2 (by decide)
  rintro ⟨minor, rest, heq, -, -⟩
  have hcode : (ascii "HTTP/1." ++ minor :: (ascii " 204" ++ rest))[9]? = some 0x32 := rfl
  rw [← heq] at hcode
  exact absurd hcode (by decide)

end Aether.Tunnelping
