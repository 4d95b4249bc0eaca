import Aether.Gui.Manager
import Aether.Lib.Octets
import Mathlib.Data.List.DropRight

/-!
The output of the core as the pipe readers see it: in chunks that may end anywhere.

* `message`: what a reader makes of a chunk; nothing if the chunk is not UTF-8 of its own.
* `addLogs_eq`: a list of messages as one update; the last one with a rule decides the state.
* `Split`: a way of reading the lines; `Faithful`: it calls for what the lines call for.
* `split_independent_iff`: two ways of reading show the same, and what the lines show, exactly
  when both are faithful; all ways do exactly when no piece of the output changes anything.
-/

namespace Aether.Gui

/-! ### From bytes to messages -/

/-- The division of a string into characters: it loses no scalar. -/
structure Graphemes where
  characters : List Char → Text
  scalars_characters : ∀ l, (characters l).scalars = l

/-- `String(data:encoding:)` for UTF-8. -/
def decodeUtf8 (data : Bytes) : Option (List Char) :=
  data.toByteArray.utf8Decode?.map Array.toList

/-- The members of `CharacterSet.newlines`. -/
def isNewline (c : Char) : Bool :=
  (0x0A ≤ c.toNat && c.toNat ≤ 0x0D) || c.toNat = 0x85 || c.toNat = 0x2028 || c.toNat = 0x2029

/-- `trimmingCharacters(in: .newlines)`. -/
def trimNewlines (l : List Char) : List Char := (l.dropWhile isNewline).rdropWhile isNewline

/-- The message that a reader makes of a chunk. -/
def message (g : Graphemes) (data : Bytes) : Option Text :=
  match decodeUtf8 data with
  | some [] => none
  | some str => some (g.characters (trimNewlines str))
  | none => none

/-- The bytes of a line of the core's output. -/
def lineBytes (line : List Char) : Bytes := (line ++ ['\n']).flatMap String.utf8EncodeChar

/-- The output of the core. -/
def output (lines : List (List Char)) : Bytes := lines.flatMap lineBytes

lemma decodeUtf8_encode (l : List Char) :
    decodeUtf8 (l.flatMap String.utf8EncodeChar) = some l := by
  have h : (l.flatMap String.utf8EncodeChar).toByteArray.utf8Decode? = some l.toArray :=
    List.utf8Decode?_utf8Encode
  rw [decodeUtf8, h]
  rfl

lemma encode_of_decodeUtf8 {data : Bytes} {l : List Char} (h : decodeUtf8 data = some l) :
    l.flatMap String.utf8EncodeChar = data := by
  obtain ⟨a, ha, rfl⟩ := Option.map_eq_some_iff.mp h
  have hsome : data.toByteArray.utf8Decode?.isSome = true := by rw [ha]; rfl
  have hencode := ByteArray.utf8Encode_get_utf8Decode? (h := hsome)
  rw [Option.get_of_eq_some hsome ha] at hencode
  exact List.toByteArray_inj.mp hencode

/-- A chunk has no more scalars than bytes. -/
lemma length_le_of_decodeUtf8 {data : Bytes} {l : List Char} (h : decodeUtf8 data = some l) :
    l.length ≤ data.length := by
  rw [← encode_of_decodeUtf8 h]
  clear h
  induction l with
  | nil => exact Nat.zero_le _
  | cons c l ih =>
      have hpos : 0 < (String.utf8EncodeChar c).length :=
        List.length_pos_iff.mpr String.utf8EncodeChar_ne_nil
      rw [List.flatMap_cons, List.length_append, List.length_cons]
      omega

/-- The newline that ends a line is trimmed. -/
lemma trimNewlines_append (line : List Char) :
    trimNewlines (line ++ ['\n']) = trimNewlines line := by
  rw [trimNewlines, trimNewlines, List.dropWhile_append]
  cases h : line.dropWhile isNewline with
  | nil => rfl
  | cons c rest =>
      rw [List.isEmpty_cons, if_neg (by simp)]
      exact List.rdropWhile_concat_pos _ _ _ (by decide)

/-- The message of a line, trimmed as a reader does. -/
def lineMessage (g : Graphemes) (line : List Char) : Text := g.characters (trimNewlines line)

/-- A chunk that holds whole scalars is read as they are. -/
lemma message_encode (g : Graphemes) {l : List Char} (hl : l ≠ []) :
    message g (l.flatMap String.utf8EncodeChar) = some (g.characters (trimNewlines l)) := by
  rw [message, decodeUtf8_encode]
  cases l with
  | nil => exact absurd rfl hl
  | cons c l => rfl

/-- A reader that reads one line. -/
lemma message_lineBytes (g : Graphemes) (line : List Char) :
    message g (lineBytes line) = some (lineMessage g line) := by
  rw [lineBytes, message_encode g (by simp), trimNewlines_append]
  rfl

/-- A message of at most one scalar has no phrase of two. -/
lemma contains_of_short {m : Text} (hm : m.scalars.length ≤ 1) {phrase : String}
    (hp : 2 ≤ phrase.toList.length) : m.contains phrase = false := by
  rw [← Bool.not_eq_true]
  intro hfound
  obtain ⟨a, b, rfl⟩ : text phrase <:+: m := of_decide_eq_true hfound
  have hscalars : (text phrase).scalars = phrase.toList := by
    simp [Text.scalars, text, List.flatMap_map, Character.single]
  have hlength : (text phrase).scalars.length ≤ (Text.scalars (a ++ text phrase ++ b)).length := by
    simp only [Text.scalars, List.flatMap_append, List.length_append]
    omega
  rw [hscalars] at hlength
  omega

/-- A chunk of one byte calls for nothing. -/
lemma rule_of_singleton {g : Graphemes} {b : UInt8} {m : Text} (h : message g [b] = some m) :
    rule m = none := by
  have hshort : m.scalars.length ≤ 1 := by
    rw [message] at h
    split at h
    · cases h
    · rename_i str _ hstr
      cases h
      rw [g.scalars_characters]
      calc (trimNewlines str).length
          ≤ (str.dropWhile isNewline).length := (List.rdropWhile_prefix _ _).length_le
        _ ≤ str.length := (List.dropWhile_suffix _).length_le
        _ ≤ 1 := length_le_of_decodeUtf8 hstr
    · cases h
  have hnone : ∀ phrase : String, 2 ≤ phrase.toList.length → m.contains phrase = false :=
    fun _ hp => contains_of_short hshort hp
  simp only [rule, listening, selected, hnone "socks5 server listening" (by decide),
    hnone "socks5 listening" (by decide), hnone "hunting for" (by decide),
    hnone "selected" (by decide), hnone "handshake successful" (by decide), Bool.or_self,
    Bool.false_and, Bool.false_eq_true, if_false]

/-! ### Messages in order -/

namespace Manager

def addLogs (ms : List Text) (s : Manager) : Manager := ms.foldl (fun s m => s.addLog m) s

/-- The state that the last message with a rule calls for. -/
def lastRule (ms : List Text) : Option ConnectionState := (ms.filterMap rule).getLast?

lemma lastRule_cons (m : Text) (ms : List Text) :
    lastRule (m :: ms) = (lastRule ms).or (rule m) := by
  cases hm : rule m with
  | none => rw [lastRule, List.filterMap_cons_none hm, Option.or_none]; rfl
  | some c =>
      rw [lastRule, List.filterMap_cons_some hm, List.getLast?_cons, lastRule]
      cases (ms.filterMap rule).getLast? <;> rfl

/-- Messages in order as one update. -/
lemma addLogs_eq (ms : List Text) (s : Manager) :
    s.addLogs ms = { s with
      connectionState := (lastRule ms).getD s.connectionState
      jobs := s.jobs ++
        List.replicate (if s.systemProxyEnabled then ms.countP listening else 0)
          .enableSystemProxy } := by
  induction ms generalizing s with
  | nil => cases s; simp [addLogs, lastRule]
  | cons m ms ih =>
      have hstep : s.addLogs (m :: ms) = (s.addLog m).addLogs ms := rfl
      have hstate : (lastRule ms).getD ((rule m).getD s.connectionState)
          = (lastRule (m :: ms)).getD s.connectionState := by
        rw [lastRule_cons]
        cases lastRule ms <;> rfl
      have hjobs : (if listening m && s.systemProxyEnabled then [Job.enableSystemProxy] else [])
          ++ List.replicate (if s.systemProxyEnabled then ms.countP listening else 0)
            .enableSystemProxy
          = List.replicate (if s.systemProxyEnabled then (m :: ms).countP listening else 0)
            .enableSystemProxy := by
        cases hen : s.systemProxyEnabled with
        | false => simp
        | true =>
            cases hl : listening m with
            | false => simp [hl]
            | true => simp [hl, List.replicate_succ]
      rw [hstep, ih, addLog_eq]
      simp only [hstate, List.append_assoc, hjobs]

/-- What the messages changed: the state shown, and whether the system proxy was requested. -/
def shown (s t : Manager) : ConnectionState × Bool :=
  (t.connectionState, decide (.enableSystemProxy ∈ t.jobs.drop s.jobs.length))

lemma shown_addLogs (ms : List Text) (s : Manager) :
    shown s (s.addLogs ms) = ((lastRule ms).getD s.connectionState,
      s.systemProxyEnabled && ms.any listening) := by
  rw [addLogs_eq, shown]
  refine Prod.ext rfl ?_
  rw [List.drop_left, Bool.eq_iff_iff]
  cases s.systemProxyEnabled <;> simp [List.mem_replicate, List.countP_eq_zero]

end Manager

open Manager

/-! ### Ways of reading the output -/

/-- The chunks that the output is read in. -/
structure Split (lines : List (List Char)) where
  chunks : List Bytes
  flatten_eq : chunks.flatten = output lines

namespace Split

variable (g : Graphemes) {lines : List (List Char)}

/-- The messages that the readers queue. -/
def messages (cs : Split lines) : List Text := cs.chunks.filterMap (message g)

/-- One chunk for each line. -/
def byLine (lines : List (List Char)) : Split lines := ⟨lines.map lineBytes, rfl⟩

lemma byLine_messages : (byLine lines).messages g = lines.map (lineMessage g) := by
  rw [messages, byLine, List.filterMap_map, ← List.filterMap_eq_map]
  exact List.filterMap_congr fun line _ => message_lineBytes g line

/-- One chunk in the middle, and single bytes around it. -/
def around (a c b : Bytes) (h : a ++ c ++ b = output lines) : Split lines where
  chunks := a.map ([·]) ++ [c] ++ b.map ([·])
  flatten_eq := by simp [← h, ← List.flatMap_def]

end Split

/-- Single bytes call for nothing. -/
lemma rule_singletons (g : Graphemes) (l : Bytes) :
    ((l.map ([·])).filterMap (message g)).filterMap rule = [] := by
  rw [List.filterMap_eq_nil_iff]
  intro m hm
  rw [List.filterMap_map, List.mem_filterMap] at hm
  obtain ⟨b, -, hb⟩ := hm
  exact rule_of_singleton hb

/-- Messages that call for nothing do not say that the core is listening. -/
lemma any_listening_eq_false {ms : List Text} (h : ms.filterMap rule = []) :
    ms.any listening = false := by
  rw [List.filterMap_eq_nil_iff] at h
  rw [List.any_eq_false]
  intro m hm
  rw [listening_of_rule (h m hm)]
  simp

/-! ### What the ways of reading show -/

section Reading

variable (g : Graphemes) (s : Manager) {lines : List (List Char)}

/-- Two ways of reading show the same, and what the lines show one at a time. -/
def Agree (cs cs' : Split lines) : Prop :=
  shown s (s.addLogs (cs.messages g)) = shown s (s.addLogs (cs'.messages g))
    ∧ shown s (s.addLogs (cs.messages g)) = shown s (s.addLogs (lines.map (lineMessage g)))

/-- The last chunk with a rule calls for what the last line with one calls for, the state
before the output standing for none, and, if the system proxy is wanted, a chunk says that
the core is listening exactly when a line does. -/
def Faithful (cs : Split lines) : Prop :=
  (lastRule (cs.messages g)).getD s.connectionState
      = (lastRule (lines.map (lineMessage g))).getD s.connectionState
    ∧ (s.systemProxyEnabled = true →
      (cs.messages g).any listening = (lines.map (lineMessage g)).any listening)

/-- Read as one chunk, the piece calls for no other state than the one shown, and not for the
system proxy. -/
def Quiet (c : Bytes) : Prop :=
  ∀ m ∈ message g c, (∀ state ∈ rule m, state = s.connectionState)
    ∧ (s.systemProxyEnabled = true → listening m = false)

lemma faithful_iff (cs : Split lines) :
    Faithful g s cs ↔ shown s (s.addLogs (cs.messages g))
      = shown s (s.addLogs (lines.map (lineMessage g))) := by
  rw [shown_addLogs, shown_addLogs, Prod.mk.injEq, Faithful]
  cases s.systemProxyEnabled <;> simp

lemma agree_iff (cs cs' : Split lines) :
    Agree g s cs cs' ↔ Faithful g s cs ∧ Faithful g s cs' := by
  rw [Agree, faithful_iff, faithful_iff]
  constructor
  · rintro ⟨hsame, hlines⟩
    exact ⟨hlines, hsame ▸ hlines⟩
  · rintro ⟨h, h'⟩
    exact ⟨h.trans h'.symm, h⟩

/-- Reading a piece between single bytes shows what the piece calls for. -/
lemma shown_around {a c b : Bytes} (h : a ++ c ++ b = output lines) :
    shown s (s.addLogs ((Split.around a c b h).messages g))
      = shown s (s.addLogs (message g c).toList) := by
  have hmessages : (Split.around a c b h).messages g
      = (a.map ([·])).filterMap (message g) ++ (message g c).toList
        ++ (b.map ([·])).filterMap (message g) := by
    rw [Split.messages, Split.around, List.filterMap_append, List.filterMap_append]
    cases hc : message g c with
    | none => rw [List.filterMap_cons_none hc]; rfl
    | some m => rw [List.filterMap_cons_some hc]; rfl
  have hrule : lastRule ((Split.around a c b h).messages g)
      = lastRule (message g c).toList := by
    rw [hmessages, lastRule, List.filterMap_append, List.filterMap_append, rule_singletons,
      rule_singletons, List.nil_append, List.append_nil, lastRule]
  have hany : ((Split.around a c b h).messages g).any listening
      = (message g c).toList.any listening := by
    rw [hmessages, List.any_append, List.any_append,
      any_listening_eq_false (rule_singletons g a), any_listening_eq_false (rule_singletons g b),
      Bool.false_or, Bool.or_false]
  rw [shown_addLogs, shown_addLogs, hrule, hany]

lemma quiet_iff (c : Bytes) :
    Quiet g s c ↔ shown s (s.addLogs (message g c).toList) = (s.connectionState, false) := by
  rw [shown_addLogs, Prod.mk.injEq, Quiet]
  cases message g c with
  | none => simp [lastRule]
  | some m =>
      have hrule : lastRule [m] = rule m := by
        rw [lastRule_cons]
        exact Option.none_or
      cases hm : rule m <;> cases s.systemProxyEnabled <;> simp [hrule, hm]

/-- If no piece of the output calls for anything, no way of reading it shows anything. -/
lemma shown_of_quiet (h : ∀ c, c <:+: output lines → Quiet g s c) (cs : Split lines) :
    shown s (s.addLogs (cs.messages g)) = (s.connectionState, false) := by
  have hquiet : ∀ m ∈ cs.messages g, (∀ state ∈ rule m, state = s.connectionState)
      ∧ (s.systemProxyEnabled = true → listening m = false) := by
    intro m hm
    obtain ⟨c, hc, hmessage⟩ := List.mem_filterMap.mp hm
    exact h c (cs.flatten_eq ▸ List.infix_of_mem_flatten hc) m hmessage
  have hstate : (lastRule (cs.messages g)).getD s.connectionState = s.connectionState := by
    cases hlast : lastRule (cs.messages g) with
    | none => rfl
    | some state =>
        obtain ⟨m, hm, hrule⟩ := List.mem_filterMap.mp (List.mem_of_getLast? hlast)
        exact (hquiet m hm).1 state hrule
  have hproxy : (s.systemProxyEnabled && (cs.messages g).any listening) = false := by
    cases hen : s.systemProxyEnabled with
    | false => rfl
    | true =>
        rw [Bool.true_and, List.any_eq_false]
        intro m hm
        rw [(hquiet m hm).2 hen]
        simp
  rw [shown_addLogs, hstate, hproxy]

/-- **What is shown depends on how the output is read.** Two ways of reading show the same,
and what the lines show one at a time, exactly when both are faithful to the lines; all ways
of reading do exactly when no piece of the output, read as one chunk, changes anything. -/
theorem split_independent_iff :
    (∀ cs cs' : Split lines, Agree g s cs cs' ↔ Faithful g s cs ∧ Faithful g s cs')
      ∧ ((∀ cs cs' : Split lines, Agree g s cs cs') ↔ ∀ c, c <:+: output lines → Quiet g s c) := by
  refine ⟨agree_iff g s, ?_⟩
  constructor
  · rintro hall c ⟨a, b, hc⟩
    -- single bytes show nothing, so the piece between single bytes must not either
    have hdecode : decodeUtf8 [] = some [] := decodeUtf8_encode []
    have hempty : message g [] = none := by rw [message, hdecode]
    have hwhole : output lines ++ [] ++ [] = output lines := by simp
    have hbytes : shown s (s.addLogs ((Split.around _ _ _ hwhole).messages g))
        = (s.connectionState, false) := by
      rw [shown_around, ← quiet_iff, Quiet, hempty]
      exact fun m hm => absurd hm (Option.not_mem_none m)
    rw [quiet_iff, ← shown_around g s hc, ← hbytes]
    exact (hall _ _).1
  · intro hquiet cs cs'
    have hlines := shown_of_quiet g s hquiet (Split.byLine lines)
    rw [Split.byLine_messages] at hlines
    rw [Agree, shown_of_quiet g s hquiet cs, shown_of_quiet g s hquiet cs', hlines]
    exact ⟨rfl, rfl⟩

end Reading

/-- Every scalar a character, which is what it is in ASCII text without CR LF. -/
def scalarwise : Graphemes where
  characters l := l.map .single
  scalars_characters l := by simp [Text.scalars, List.flatMap_map, Character.single]

/-- A line that says the core is listening. -/
def coreLine : List Char := "socks5 listening on 127.0.0.1:1819".toList

/-- The line in two chunks, with the cut in the phrase. -/
def cutLine : Split [coreLine] where
  chunks := ["socks5 lis".toList.flatMap String.utf8EncodeChar,
    "tening on 127.0.0.1:1819\n".toList.flatMap String.utf8EncodeChar]
  flatten_eq := by decide

/-- Read in these chunks, the line leaves the started core shown as scanning and requests
nothing; in one chunk it is shown as connected and the proxy is requested. -/
theorem cut_in_phrase :
    shown ((init .initial true []).start .launched)
        (((init .initial true []).start .launched).addLogs (cutLine.messages scalarwise))
      = (.scanning, false)
      ∧ shown ((init .initial true []).start .launched)
        (((init .initial true []).start .launched).addLogs
          ((Split.byLine [coreLine]).messages scalarwise))
      = (.connected, true)
      ∧ ¬ Agree scalarwise ((init .initial true []).start .launched) cutLine
        (Split.byLine [coreLine]) := by
  have hmessages : cutLine.messages scalarwise
      = [text "socks5 lis", text "tening on 127.0.0.1:1819"] := by
    show List.filterMap (message scalarwise) [_, _] = _
    rw [List.filterMap_cons_some (message_encode _ (by decide)),
      List.filterMap_cons_some (message_encode _ (by decide))]
    decide
  have hcut : shown ((init .initial true []).start .launched)
      (((init .initial true []).start .launched).addLogs (cutLine.messages scalarwise))
      = (.scanning, false) := by
    rw [hmessages]; decide +kernel
  have hline : shown ((init .initial true []).start .launched)
      (((init .initial true []).start .launched).addLogs
        ((Split.byLine [coreLine]).messages scalarwise))
      = (.connected, true) := by
    rw [Split.byLine_messages]; decide +kernel
  refine ⟨hcut, hline, ?_⟩
  rintro ⟨h, -⟩
  rw [hcut, hline] at h
  cases h

end Aether.Gui
