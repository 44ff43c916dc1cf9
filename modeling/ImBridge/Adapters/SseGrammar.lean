import ImBridge.Adapters.Sse

/-!
# The grammar of server-sent events

What a stream of events means, as a whole: a byte order mark at its start is dropped, the rest is
cut into lines, and the lines are read one after the other. The decoder gets the stream in pieces
and keeps what is incomplete; it finds the same events, the same error, and the same at the end,
however the stream is cut.

## Main definitions

* `SseGrammar.lines`: the lines of a stream, which end at CR, LF or CRLF
* `SseGrammar.readLine`, `SseGrammar.readLines`: what lines mean, within the bounds
* `SseGrammar.parse`: what a stream means
* `StSseStreamDecoder.decode`: what the decoder makes of a stream that comes in chunks

## Main results

* `StSseStreamDecoder.outcome_processBytes`: bytes are decoded as the grammar reads them
* `sse_decoder_meets_grammar`: so are all streams of three bytes or more
-/

namespace ImBridge

open Chunked

variable {byte : UInt8}

namespace SseGrammar

/-! ## Lines -/

/-- The lines of a stream. The last one is what follows the last end of a line. -/
def lines : Bytes → List Bytes
  | [] => [[]]
  | 13 :: 10 :: bytes => [] :: lines bytes
  | byte :: bytes =>
    if IsLineEnd byte then [] :: lines bytes else (lines bytes).modifyHead (byte :: ·)

/-- The stream without a line feed at its start. -/
def dropLf : Bytes → Bytes
  | 10 :: bytes => bytes
  | bytes => bytes

def dropBom (bytes : Bytes) : Bytes :=
  if StSseStreamDecoder.bom.isPrefixOf bytes then bytes.drop 3 else bytes

/-! ## Events -/

/-- An event whose lines are not complete. -/
structure Draft where
  data : List String
  event : Option String
  size : ℕ
  deriving DecidableEq, Repr

namespace Draft

def empty : Draft := ⟨[], none, 0⟩

/-- The event that an empty line completes. -/
def events (draft : Draft) : List StSseEvent :=
  if draft.data = [] ∧ draft.event = none then []
  else [.message draft.event (String.intercalate "\n" draft.data)]

/-- A line with a field: data is collected, the name of the event is set, and others are skipped. -/
def addField (draft : Draft) (line : String) : Draft :=
  let (field, value) := splitOnceColon line
  { data := if field = "data" then draft.data ++ [stripSpace value] else draft.data
    event := if field = "event" then some (stripSpace value) else draft.event
    size := draft.size + (line.utf8ByteSize + 1) }

end Draft

section Bounds

variable (maxLine maxEvent : ℕ)

/-- What a line means. -/
def readLine (draft : Draft) (line : Bytes) : Except SseDecodeError (List StSseEvent × Draft) :=
  if maxLine < line.length then .error .lineTooLarge
  else
    match fromUtf8 line with
    | none => .error .invalidUtf8
    | some text =>
      if text = "" then .ok (draft.events, .empty)
      else if startsWith ":" text then .ok ([.heartbeat], draft)
      else if maxEvent < (draft.addField text).size then .error .eventTooLarge
      else .ok ([], draft.addField text)

/-- The end of the stream, after the last end of a line. -/
def readRest (draft : Draft) (rest : Bytes) :
    Except SseDecodeError (List StSseEvent × Except SseDecodeError Unit) :=
  if maxLine < rest.length then .error .lineTooLarge
  else if rest = [] ∧ draft.data = [] ∧ draft.event = none then .ok ([], .ok ())
  else .ok ([], .error .truncated)

/-- What lines mean one after the other: the events, and whether the end is a good one. -/
def readLines (draft : Draft) :
    List Bytes → Except SseDecodeError (List StSseEvent × Except SseDecodeError Unit)
  | [] => readRest maxLine draft []
  | [rest] => readRest maxLine draft rest
  | line :: next :: lines =>
    match readLine maxLine maxEvent draft line with
    | .error e => .error e
    | .ok (events, draft) => (readLines draft (next :: lines)).map fun r => (events ++ r.1, r.2)

/-- **What a stream means.** -/
def parse (stream : Bytes) :
    Except SseDecodeError (List StSseEvent × Except SseDecodeError Unit) :=
  readLines maxLine maxEvent .empty (lines (dropBom stream))

end Bounds

/-! ## Lines byte by byte -/

theorem exists_lines_eq_cons (bytes : Bytes) : ∃ first rest, lines bytes = first :: rest := by
  fun_induction lines bytes with
  | case1 => exact ⟨_, _, rfl⟩
  | case2 bytes ih => exact ⟨_, _, rfl⟩
  | case3 byte bytes _ hend ih => exact ⟨_, _, rfl⟩
  | case4 byte bytes _ hend ih =>
    obtain ⟨first, rest, hlines⟩ := ih
    exact ⟨byte :: first, rest, by rw [hlines, List.modifyHead_cons]⟩

theorem lines_cons_of_not_end (h : ¬ IsLineEnd byte) (bytes : Bytes) :
    lines (byte :: bytes) = (lines bytes).modifyHead (byte :: ·) := by
  rw [lines.eq_3, if_neg h]
  rintro tail rfl -
  exact h (.inl rfl)

/-- A line feed after a carriage return belongs to the same end of a line. -/
theorem lines_cons_of_end (h : IsLineEnd byte) (bytes : Bytes) :
    lines (byte :: bytes) = [] :: lines (if byte = 13 then dropLf bytes else bytes) := by
  rcases h with rfl | rfl
  · rw [if_pos rfl]
    cases bytes with
    | nil => rfl
    | cons next bytes =>
      by_cases hnext : next = 10
      · subst hnext
        rw [lines, dropLf]
      · rw [lines.eq_3, if_pos (.inl rfl), dropLf.eq_2]
        · simpa using hnext
        · simpa using hnext
  · rw [lines.eq_3, if_pos (.inr rfl), if_neg (by decide)]
    rintro tail h -
    exact absurd h (by decide)

section Bounds

variable {maxLine maxEvent : ℕ} {draft : Draft} {line : Bytes}

/-- A line that is too long is an error, whether it is complete or not. -/
theorem readLines_of_long (h : maxLine < line.length) (lines : List Bytes) :
    readLines maxLine maxEvent draft (line :: lines) = .error .lineTooLarge := by
  cases lines with
  | nil => rw [readLines, readRest, if_pos h]
  | cons next lines => rw [readLines, readLine, if_pos h]

theorem readLines_cons (line : Bytes) (bytes : Bytes) :
    readLines maxLine maxEvent draft (line :: lines bytes) =
      match readLine maxLine maxEvent draft line with
      | .error e => .error e
      | .ok (events, draft) =>
        (readLines maxLine maxEvent draft (lines bytes)).map fun r => (events ++ r.1, r.2) := by
  obtain ⟨first, rest, hlines⟩ := exists_lines_eq_cons bytes
  rw [hlines, readLines]

end Bounds

end SseGrammar

/-! ## The decoder -/

namespace StSseStreamDecoder

open SseGrammar

variable {d : StSseStreamDecoder}

/-- The chunks of a stream one after the other, up to one that fails. -/
def pushAll (d : StSseStreamDecoder) : List Bytes → Decoded
  | [] => .ok ([], d)
  | chunk :: chunks =>
    match d.push chunk with
    | .error e => .error e
    | .ok (events, d) =>
      match pushAll d chunks with
      | .error e => .error e
      | .ok (more, d) => .ok (events ++ more, d)

/-- The events, and what `finish` says at the end. -/
def outcome (r : Decoded) :
    Except SseDecodeError (List StSseEvent × Except SseDecodeError Unit) :=
  r.map fun r => (r.1, r.2.finish)

/-- What the decoder makes of a stream that comes in chunks. -/
def decode (maxLine maxEvent : ℕ) (chunks : List Bytes) :
    Except SseDecodeError (List StSseEvent × Except SseDecodeError Unit) :=
  outcome ((new maxLine maxEvent).pushAll chunks)

theorem pushAll_eq_feed (h : d.Waiting) (chunks : List Bytes) :
    d.pushAll chunks = feed pushByte d chunks.flatten := by
  induction chunks generalizing d with
  | nil => rfl
  | cons chunk chunks ih =>
    rw [pushAll, List.flatten_cons, feed_append, push_eq_feed h]
    cases hfeed : feed pushByte d chunk with
    | error e => rfl
    | ok r =>
      obtain ⟨events, d₁⟩ := r
      have hrest := ih (h.feed hfeed)
      cases hall : feed pushByte d₁ chunks.flatten with
      | error e | ok r => simp only [hrest, hall]

/-- The event that is pending. -/
def draft (d : StSseStreamDecoder) : Draft := ⟨d.data, d.event, d.eventBytes⟩

/-- The decoder at the start of a line, with an event pending. -/
def withDraft (d : StSseStreamDecoder) (draft : Draft) : StSseStreamDecoder :=
  { d with line := [], data := draft.data, event := draft.event, eventBytes := draft.size }

theorem setField_eq (field value : String) :
    d.setField field value =
      { d with data := if field = "data" then d.data ++ [value] else d.data
               event := if field = "event" then some value else d.event } := by
  unfold setField
  split
  · rfl
  · rfl
  · rename_i hdata hevent
    rw [if_neg hdata, if_neg hevent]

theorem takeField_eq (line : String) :
    d.takeField line =
      if d.maxEvent < (d.draft.addField line).size then .error .eventTooLarge
      else .ok ([], d.withDraft (d.draft.addField line)) := by
  have hsize : (d.draft.addField line).size = d.eventBytes + (line.utf8ByteSize + 1) := rfl
  cases hsplit : splitOnceColon line with
  | mk field value =>
    simp only [hsize, takeField, hsplit, setField_eq]
    split
    · rfl
    · simp only [Draft.addField, hsplit]
      rfl

theorem finishMessage_eq : d.finishMessage = (d.draft.events, d.withDraft .empty) := by
  have hpending : (d.data ≠ [] ∨ d.event.isSome = true) ↔ ¬ (d.data = [] ∧ d.event = none) := by
    rw [not_and_or, Option.isSome_iff_ne_none]
  refine Prod.ext ?_ rfl
  by_cases hclean : d.data = [] ∧ d.event = none
  · rw [finishMessage, if_neg fun h => hpending.mp h hclean, Draft.events]
    exact (if_pos hclean).symm
  · rw [finishMessage, if_pos (hpending.mpr hclean), Draft.events]
    exact (if_neg hclean).symm

/-- **The end of a line**: the line is read as the grammar reads it. -/
theorem finishLine_eq (h : d.line.length ≤ d.maxLine) :
    d.finishLine = (readLine d.maxLine d.maxEvent d.draft d.line).map
      fun r => (r.1, d.withDraft r.2) := by
  rw [finishLine, readLine, if_neg (by omega)]
  cases fromUtf8 d.line with
  | none => rfl
  | some text =>
    simp only [finishMessage_eq, takeField_eq]
    split_ifs <;> rfl

/-! ## Bytes -/

theorem addByte_of_end (hend : IsLineEnd byte) (h : d.line.length ≤ d.maxLine) :
    d.addByte byte = (readLine d.maxLine d.maxEvent d.draft d.line).map
      fun r => (r.1, { d.withDraft r.2 with skipLf := byte == 13 }) := by
  rw [addByte, if_pos hend, finishLine_eq h]
  cases readLine d.maxLine d.maxEvent d.draft d.line <;> rfl

/-- The bytes that count: a line feed does not after a carriage return. -/
def counting (d : StSseStreamDecoder) (bytes : Bytes) : Bytes :=
  if d.skipLf then dropLf bytes else bytes

/-- A byte that counts is added to the line or ends it. -/
theorem processByte_of_counting (h : ¬ (d.skipLf = true ∧ byte = 10)) (bytes : Bytes) :
    d.processByte byte = { d with skipLf := false }.addByte byte ∧
      d.counting (byte :: bytes) = byte :: bytes := by
  unfold processByte counting
  by_cases hskip : d.skipLf = true
  · have hbyte : ¬ byte = 10 := fun hbyte => h ⟨hskip, hbyte⟩
    rw [if_pos hskip, if_pos hskip, if_neg hbyte, dropLf.eq_2]
    · exact ⟨rfl, rfl⟩
    · simpa using hbyte
  · have hsame : { d with skipLf := false } = d := by
      rw [← Bool.not_eq_true _ |>.mp hskip]
    rw [if_neg hskip, if_neg hskip, hsame]
    exact ⟨rfl, rfl⟩

/-- Events that come before the others. -/
theorem outcome_feed_cons {events : List StSseEvent} {d' : StSseStreamDecoder}
    (h : d.processByte byte = .ok (events, d')) (bytes : Bytes) :
    outcome (feed processByte d (byte :: bytes)) =
      (outcome (feed processByte d' bytes)).map fun r => (events ++ r.1, r.2) := by
  rw [feed, h]
  simp only
  cases feed processByte d' bytes <;> rfl

theorem outcome_feed_error {e : SseDecodeError} (h : d.processByte byte = .error e)
    (bytes : Bytes) : outcome (feed processByte d (byte :: bytes)) = .error e := by
  rw [feed, h]
  rfl

/-- **Bytes are decoded as the grammar reads them**, after what is pending of a line and of an
event. -/
theorem outcome_processBytes (hchecked : d.bomChecked = true) (hline : d.line.length ≤ d.maxLine)
    (bytes : Bytes) :
    outcome (feed processByte d bytes) =
      readLines d.maxLine d.maxEvent d.draft
        ((lines (d.counting bytes)).modifyHead (d.line ++ ·)) := by
  induction bytes generalizing d with
  | nil =>
    have hcount : d.counting [] = [] := by
      unfold counting
      split <;> rfl
    rw [hcount, lines, List.modifyHead_cons, List.append_nil, readLines, readRest,
      if_neg (by omega), feed_nil]
    by_cases hclean : d.line = [] ∧ d.draft.data = [] ∧ d.draft.event = none
    · rw [if_pos hclean, outcome, Except.map, finish, if_neg (by simp [hchecked])]
      exact congrArg (fun r => Except.ok ([], r)) (if_pos hclean)
    · rw [if_neg hclean, outcome, Except.map, finish, if_neg (by simp [hchecked])]
      exact congrArg (fun r => Except.ok ([], r)) (if_neg hclean)
  | cons byte bytes ih =>
    by_cases hskip : d.skipLf = true ∧ byte = 10
    · -- the line feed after a carriage return
      obtain ⟨hskip, rfl⟩ := hskip
      have hbyte : d.processByte 10 = .ok ([], { d with skipLf := false }) := by
        rw [processByte, if_pos hskip, if_pos rfl]
      have hcount : d.counting (10 :: bytes) = bytes := by
        rw [counting, if_pos hskip, dropLf]
      rw [feed_cons_silent hbyte, hcount]
      exact @ih { d with skipLf := false } hchecked hline
    · obtain ⟨hbyte, hcount⟩ := processByte_of_counting hskip bytes
      rw [hcount]
      by_cases hend : IsLineEnd byte
      · -- the end of a line: its end is the end of the first line of the rest
        replace hbyte := hbyte.trans (addByte_of_end hend hline)
        rw [lines_cons_of_end hend, List.modifyHead_cons, List.append_nil, readLines_cons]
        cases hread : readLine d.maxLine d.maxEvent d.draft d.line with
        | error e =>
          have herror : d.processByte byte = .error e := hbyte.trans (congrArg (Except.map _) hread)
          rw [outcome_feed_error herror]
        | ok r =>
          obtain ⟨events, draft⟩ := r
          have hok : d.processByte byte =
              .ok (events, { d.withDraft draft with skipLf := byte == 13 }) :=
            hbyte.trans (congrArg (Except.map _) hread)
          have hrest := @ih { d.withDraft draft with skipLf := byte == 13 } hchecked
            (Nat.zero_le _)
          have hcounting : { d.withDraft draft with skipLf := byte == 13 }.counting bytes =
              if byte = 13 then dropLf bytes else bytes := by
            simp [counting]
          obtain ⟨first, rest, hlines⟩ :=
            exists_lines_eq_cons (if byte = 13 then dropLf bytes else bytes)
          rw [outcome_feed_cons hok, hrest, hcounting, hlines]
          rfl
      · rw [lines_cons_of_not_end hend, List.modifyHead_modifyHead]
        by_cases hlong : d.maxLine ≤ d.line.length
        · have herror : d.processByte byte = .error .lineTooLarge := by
            rw [hbyte, addByte, if_neg hend]
            exact if_pos hlong
          obtain ⟨first, rest, hlines⟩ := exists_lines_eq_cons bytes
          rw [outcome_feed_error herror, hlines, List.modifyHead_cons, readLines_of_long]
          simp
          omega
        · have hok : d.processByte byte =
              .ok ([], { d with skipLf := false, line := d.line ++ [byte] }) := by
            rw [hbyte, addByte, if_neg hend]
            exact if_neg hlong
          have hrest := @ih { d with skipLf := false, line := d.line ++ [byte] } hchecked
            (by simp; omega)
          obtain ⟨first, rest, hlines⟩ := exists_lines_eq_cons bytes
          have hcounting : { d with skipLf := false, line := d.line ++ [byte] }.counting bytes =
              bytes := rfl
          rw [feed_cons_silent hok, hrest, hcounting, hlines, List.modifyHead_cons,
            List.modifyHead_cons, Function.comp_apply, List.append_assoc]
          rfl

/-! ## The start of the stream -/

/-- The decoder after the check of the byte order mark. -/
def checked (maxLine maxEvent : ℕ) : StSseStreamDecoder :=
  { new maxLine maxEvent with bomChecked := true }

/-- The first three bytes wait for each other, and then they are skipped or decoded. -/
theorem feed_new {maxLine maxEvent : ℕ} {stream : Bytes} (h : 3 ≤ stream.length) :
    feed pushByte (new maxLine maxEvent) stream =
      feed processByte (checked maxLine maxEvent) (dropBom stream) := by
  obtain ⟨a, b, c, rest, rfl⟩ : ∃ a b c rest, stream = a :: b :: c :: rest := by
    match stream, h with
    | a :: b :: c :: rest, _ => exact ⟨a, b, c, rest, rfl⟩
  have ha : (new maxLine maxEvent).pushByte a = .ok ([], (new maxLine maxEvent).collect [a]) := rfl
  have hb : ((new maxLine maxEvent).collect [a]).pushByte b =
      .ok ([], (new maxLine maxEvent).collect [a, b]) := rfl
  have hc : ((new maxLine maxEvent).collect [a, b]).pushByte c =
      ((new maxLine maxEvent).collect [a, b, c]).checkBom := rfl
  rw [feed_cons_silent ha, feed_cons_silent hb]
  by_cases hbom : [a, b, c] = bom
  · have hcheck : ((new maxLine maxEvent).collect [a, b, c]).checkBom =
        .ok ([], checked maxLine maxEvent) := if_pos hbom
    have hdrop : dropBom (a :: b :: c :: rest) = rest :=
      if_pos (List.isPrefixOf_iff_prefix.mpr ⟨rest, by rw [← hbom]; rfl⟩)
    rw [feed_cons_silent (hc.trans hcheck), feed_pushByte_of_checked rfl, hdrop]
    rfl
  · have hcheck : ((new maxLine maxEvent).collect [a, b, c]).checkBom =
        feed processByte (checked maxLine maxEvent) [a, b, c] := if_neg hbom
    have hdrop : dropBom (a :: b :: c :: rest) = [a, b, c] ++ rest := by
      refine if_neg fun hpre => hbom ?_
      obtain ⟨tail, htail⟩ := List.isPrefixOf_iff_prefix.mp hpre
      have hsame : bom ++ tail = [a, b, c] ++ rest := htail
      exact (List.append_inj hsame rfl).1.symm
    rw [hdrop, feed_append, feed, hc, hcheck]
    cases hfirst : feed processByte (checked maxLine maxEvent) [a, b, c] with
    | error e => rfl
    | ok r =>
      obtain ⟨events, d₁⟩ := r
      have hd₁ : d₁.bomChecked = true := bomChecked_processBytes hfirst
      simp only [feed_pushByte_of_checked hd₁]
      rfl

end StSseStreamDecoder

open StSseStreamDecoder

/-- **The decoder meets its grammar**: however a stream is cut, a push fails exactly if the grammar
does, with the same error; otherwise the events are the same, and so is what `finish` says. -/
theorem sse_decoder_meets_grammar (maxLine maxEvent : ℕ) (stream : Bytes) (chunks : List Bytes)
    (hlength : 3 ≤ stream.length) (hchunks : chunks.flatten = stream) :
    decode maxLine maxEvent chunks = SseGrammar.parse maxLine maxEvent stream := by
  rw [decode, pushAll_eq_feed (waiting_new _ _), hchunks, feed_new hlength,
    outcome_processBytes rfl (Nat.zero_le _), SseGrammar.parse]
  obtain ⟨first, rest, hlines⟩ := SseGrammar.exists_lines_eq_cons (SseGrammar.dropBom stream)
  have hcounting : (checked maxLine maxEvent).counting (SseGrammar.dropBom stream) =
      SseGrammar.dropBom stream := rfl
  rw [hcounting, hlines]
  rfl

theorem sse_decoder_meets_grammar_split :
    decode 64 256 [utf8 "data: a\r", utf8 "\ndata:b\r\n\n:"] =
      SseGrammar.parse 64 256 (utf8 "data: a\r\ndata:b\r\n\n:") :=
  sse_decoder_meets_grammar 64 256 _ _ (by decide +kernel) (by decide +kernel)

/-- The events of this stream, and that its last line is not complete. -/
example : SseGrammar.parse 64 256 (utf8 "data: a\r\ndata:b\r\n\n:") =
    .ok ([.message none "a\nb"], .error .truncated) := by
  decide +kernel

end ImBridge
