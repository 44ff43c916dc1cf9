import ImBridge.Adapters.Sse
import ImBridge.Bridge.Errors
import ImBridge.Domain.JsonText

/-!
# The stream of a generation

The messages of the stream carry JSON, from which come the deltas of the text, the reason it ended,
and errors. The backend takes them until the end marker, and then asks the decoder whether anything
is pending. Each chunk is decoded before its messages are taken, so what comes after the end marker
in the same chunk is pending then, and an error of the decoder takes the place of an error that the
chunk reports before it.

## Main definitions

* `decodeStGenerationEvent`: the events of the generation in a message
* `Generation.streamGenerate`: the result of a stream that comes in chunks
* `Generation.Undisturbed`: nothing comes after the message that decides the stream that could
  matter

## Main results

* `Generation.reads_of_takeAll`: the text is the deltas before the terminal event
* `generation_independent_of_chunks`: the chunks do not matter exactly if the stream is undisturbed
* `byte_after_done`: a stream whose result depends on its chunks
-/

namespace ImBridge

open Chunked StSseStreamDecoder

/-! ## Events of a generation -/

inductive StGenerationEvent
  | ignored
  | textDelta (sequence : ℕ) (text : String)
  | finished (finishReason : Option String)
  | rejected (safeCode : String)
  deriving DecidableEq, Repr

def StGenerationEvent.isAcceptedFinish : StGenerationEvent → Bool
  | finished (some "stop") | finished (some "eos") | finished (some "end_turn") => true
  | _ => false

def Json.asObject : Json → Option (List (String × Json))
  | object fields => some fields
  | _ => none

def Json.isNull : Json → Bool
  | null => true
  | _ => false

/-- The fields of a message without choices. -/
def allowedMetadata : List String :=
  ["choices", "usage", "id", "object", "created", "model", "system_fingerprint"]

def decodeMetadata (parsed : List (String × Json)) :
    Except SseDecodeError (List StGenerationEvent) :=
  if parsed.all (allowedMetadata.contains ·.1) ∧ parsed.any (·.1 != "choices") then .ok [.ignored]
  else .error .invalidPayload

/-- The fields of a delta one after the other, up to one that is a call of a tool. -/
def checkDelta : List (String × Json) → Except SseDecodeError (Option StGenerationEvent)
  | [] => .ok none
  | (key, value) :: fields =>
    match key with
    | "role" => checkDelta fields
    | "content" | "reasoning_content" =>
      if value.isNull ∨ value.asStr.isSome then checkDelta fields else .error .invalidPayload
    | "tool_calls" | "function_call" =>
      .ok (some (.rejected "ST_GENERATION_UNSUPPORTED_OUTPUT"))
    | _ => .error .unsupportedOutput

def contentEvents (delta : List (String × Json)) (sequence : ℕ) :
    Except SseDecodeError (List StGenerationEvent) :=
  match delta.lookup "content" with
  | none => .ok []
  | some content =>
    if content.isNull then .ok []
    else
      match content.asStr with
      | none => .error .invalidPayload
      | some text => .ok (if text = "" then [] else [.textDelta sequence text])

def finishEvents (choice : List (String × Json)) :
    Except SseDecodeError (List StGenerationEvent) :=
  match choice.lookup "finish_reason" with
  | none => .ok []
  | some finishReason =>
    if finishReason.isNull then .ok []
    else
      match finishReason.asStr with
      | none => .error .invalidPayload
      | some reason =>
        if isBlank reason then .error .invalidPayload else .ok [.finished (some reason)]

def decodeChoice (choice : List (String × Json)) (sequence : ℕ) :
    Except SseDecodeError (List StGenerationEvent) :=
  if (choice.lookup "message").isSome then .error .unsupportedOutput
  else
    match (choice.lookup "delta").bind Json.asObject with
    | none => .error .invalidPayload
    | some delta => do
      match ← checkDelta delta with
      | some event => return [event]
      | none =>
        let content ← contentEvents delta sequence
        let finish ← finishEvents choice
        return if content ++ finish = [] then [.ignored] else content ++ finish

def decodeStGenerationEvent (fromStr : String → Option Json) (data : String) (sequence : ℕ) :
    Except SseDecodeError (List StGenerationEvent) :=
  let trimmed := trim data
  if trimmed = "" then .ok [.ignored]
  else if trimmed = "[DONE]" then .ok [.finished (some "stop")]
  else
    match fromStr trimmed with
    | none => .error .invalidJson
    | some value =>
      if (value.get "error").isSome then .ok [.rejected "ST_GENERATION_FAILED"]
      else
        match value.asObject with
        | none => .error .invalidPayload
        | some parsed =>
          match (parsed.lookup "choices").bind Json.asArray with
          | none => .error .unsupportedOutput
          | some [] => decodeMetadata parsed
          | some (choice :: _) =>
            match choice.asObject with
            | none => .error .invalidPayload
            | some choice => decodeChoice choice sequence

/-! ## The stream -/

def sseMaxLineBytes : ℕ := 64 * 1024

def sseMaxEventBytes : ℕ := 256 * 1024

def generationMaxTextBytes : ℕ := 4 * 1024 * 1024

/-- What was taken of a stream. -/
structure Generation where
  accumulatedText : String
  finishReason : Option String
  terminal : Option StGenerationEvent
  sequence : ℕ
  deriving DecidableEq, Repr

variable {decoded : List StGenerationEvent} {stop : Bool} {events : List StSseEvent}

namespace Generation

def start : Generation := ⟨"", none, none, 0⟩

/-- An event after the terminal one. -/
def takeLate (g : Generation) : StGenerationEvent → Except StErrorCode Generation
  | .ignored => .ok g
  | .finished reason =>
    if reason = some "stop" ∨ g.finishReason = reason then .ok g
    else .error .stGenerateStreamInvalid
  | .textDelta .. => .error .stGenerateStreamInvalid
  | .rejected _ => .error .stGenerateRejected

def takeGenerationEvent (g : Generation) (event : StGenerationEvent) :
    Except StErrorCode Generation :=
  if g.terminal.isSome then g.takeLate event
  else
    match event with
    | .ignored => .ok g
    | .textDelta _ text =>
      if generationMaxTextBytes < g.accumulatedText.utf8ByteSize + text.utf8ByteSize then
        .error .stGenerateStreamInvalid
      else .ok { g with accumulatedText := g.accumulatedText ++ text }
    | .finished reason => .ok { g with finishReason := reason, terminal := some (.finished reason) }
    | .rejected _ => .error .stGenerateRejected

/-- The name of an event that reports an error. -/
def isErrorName (event : Option String) : Bool := event.any (toAsciiLowercase · == "error")

variable (fromStr : String → Option Json)

/-- Takes a message, and says whether it is the end marker. -/
def takeMessage (g : Generation) (event : Option String) (data : String) :
    Except StErrorCode (Generation × Bool) :=
  if isErrorName event then .error .stGenerateRejected
  else if 2 ^ 64 ≤ g.sequence + 1 then .error .stGenerateStreamInvalid
  else
    match decodeStGenerationEvent fromStr data (g.sequence + 1) with
    | .error _ => .error .stGenerateStreamInvalid
    | .ok decoded => do
      let g ← decoded.foldlM takeGenerationEvent { g with sequence := g.sequence + 1 }
      return (g, trim data == "[DONE]")

def takeEvent (g : Generation) : StSseEvent → Except StErrorCode (Generation × Bool)
  | .heartbeat => .ok (g, false)
  | .message event data => g.takeMessage fromStr event data

/-- What remains to be checked at the end of the stream. -/
def result (g : Generation) : Except StErrorCode StGenerationResult :=
  match g.terminal with
  | none => .error .stGenerateStreamInvalid
  | some terminal =>
    if terminal.isAcceptedFinish then
      if isBlank g.accumulatedText then .error .stGenerateEmpty
      else .ok ⟨g.accumulatedText, g.finishReason⟩
    else .error .stGenerateStreamInvalid

/-- The end of the stream. -/
def conclude (d : StSseStreamDecoder) (g : Generation) : Except StErrorCode StGenerationResult :=
  match d.finish with
  | .error _ => .error .stGenerateStreamInvalid
  | .ok () => g.result

/-- The chunks one after the other. A chunk is decoded before its events are taken. -/
def readChunks (d : StSseStreamDecoder) (g : Generation) :
    List Bytes → Except StErrorCode StGenerationResult
  | [] => conclude d g
  | chunk :: chunks =>
    match d.push chunk with
    | .error _ => .error .stGenerateStreamInvalid
    | .ok (events, d') =>
      match takeAll (takeEvent fromStr) g events with
      | .error code => .error code
      | .ok (g', true) => conclude d' g'
      | .ok (g', false) => readChunks d' g' chunks

def streamGenerate (chunks : List Bytes) : Except StErrorCode StGenerationResult :=
  readChunks fromStr (.new sseMaxLineBytes sseMaxEventBytes) start chunks

/-! ## The chunks byte by byte -/

variable {code : StErrorCode}

section Chunks

variable {fromStr} {d d' : StSseStreamDecoder} {g g' : Generation}

theorem readChunks_eq_readAll (h : d.Waiting) (chunks : List Bytes) :
    readChunks fromStr d g chunks = readAll pushByte (takeEvent fromStr)
      .stGenerateStreamInvalid conclude d g chunks := by
  induction chunks generalizing d g with
  | nil => rfl
  | cons chunk chunks ih =>
    simp only [readChunks, readAll, push_eq_feed h]
    cases hfeed : feed pushByte d chunk with
    | error e => rfl
    | ok r =>
      obtain ⟨events, d₁⟩ := r
      simp only
      cases takeAll (takeEvent fromStr) g events with
      | error code => rfl
      | ok verdict =>
        obtain ⟨g₁, stop⟩ := verdict
        cases stop with
        | true => rfl
        | false => exact ih (h.feed hfeed)

/-- The codes of a stream that fails. -/
def IsStreamCode (code : StErrorCode) : Prop :=
  code = .stGenerateRejected ∨ code = .stGenerateStreamInvalid

theorem isStreamCode_takeGenerationEvent {event : StGenerationEvent}
    (h : g.takeGenerationEvent event = .error code) : IsStreamCode code := by
  unfold takeGenerationEvent at h
  split at h
  · unfold takeLate at h
    split at h
    · cases h
    · split at h
      · cases h
      · cases h
        exact .inr rfl
    · cases h
      exact .inr rfl
    · cases h
      exact .inl rfl
  · split at h
    · cases h
    · split at h
      · cases h
        exact .inr rfl
      · cases h
    · cases h
    · cases h
      exact .inl rfl

theorem isStreamCode_foldlM (h : decoded.foldlM takeGenerationEvent g = .error code) :
    IsStreamCode code := by
  induction decoded generalizing g with
  | nil => cases h
  | cons event decoded ih =>
    rw [List.foldlM_cons] at h
    cases hevent : g.takeGenerationEvent event with
    | error code' =>
      rw [hevent] at h
      cases h
      exact isStreamCode_takeGenerationEvent hevent
    | ok g₁ =>
      rw [hevent] at h
      exact ih h

theorem isStreamCode_takeEvent {event : StSseEvent} (h : takeEvent fromStr g event = .error code) :
    IsStreamCode code := by
  cases event with
  | heartbeat => cases h
  | message event data =>
    simp only [takeEvent, takeMessage] at h
    split at h
    · cases h
      exact .inl rfl
    · split at h
      · cases h
        exact .inr rfl
      · split at h
        · cases h
          exact .inr rfl
        · rename_i decoded _
          cases hfold :
            decoded.foldlM takeGenerationEvent { g with sequence := g.sequence + 1 } with
          | error code' =>
            rw [hfold] at h
            cases h
            exact isStreamCode_foldlM hfold
          | ok g₁ =>
            rw [hfold] at h
            cases h

theorem isStreamCode_takeAll (h : takeAll (takeEvent fromStr) g events = .error code) :
    IsStreamCode code := by
  induction events generalizing g with
  | nil => cases h
  | cons event events ih =>
    simp only [takeAll] at h
    split at h
    · rename_i hevent
      cases h
      exact isStreamCode_takeEvent hevent
    · cases h
    · exact ih h

/-- Heartbeats decide nothing. -/
theorem exists_message_of_takeAll (h : takeAll (takeEvent fromStr) g events = .ok (g', true)) :
    ∃ event data, .message event data ∈ events := by
  induction events generalizing g with
  | nil => cases h
  | cons first events ih =>
    cases first with
    | message event data => exact ⟨event, data, List.mem_cons_self⟩
    | heartbeat =>
      obtain ⟨event, data, hmem⟩ := ih h
      exact ⟨event, data, List.mem_cons_of_mem _ hmem⟩

/-- **The end marker leaves nothing pending.** -/
theorem clean_of_decided {bytes : Bytes} (hwaiting : d.Waiting)
    (h : Decided pushByte (takeEvent fromStr) d g bytes d' (.ok (g', stop))) :
    d'.Clean ∧ d'.bomChecked = true := by
  obtain ⟨first, byte, rfl⟩ := (List.eq_nil_or_concat' bytes).resolve_left h.ne_nil
  obtain ⟨d₁, g₁, hopen⟩ := h.before first (List.prefix_append _ _) (by simp)
  obtain ⟨out, hfeed, htake⟩ := (h.of_append hopen).feed
  obtain ⟨out₁, d₂, out₂, hpush, hnil, hout⟩ := exists_of_feed_cons hfeed
  cases hnil
  rw [List.append_nil] at hout
  subst hout
  cases stop with
  | false => exact absurd trivial h.stops
  | true =>
    obtain ⟨event, data, hmem⟩ := exists_message_of_takeAll htake
    obtain ⟨events, hfirst, -⟩ := hopen
    exact clean_of_mem_pushByte (hwaiting.feed hfirst) hpush hmem

/-- The stream has ended for a reason that is accepted. -/
def Accepted (g : Generation) : Prop := g.terminal.any StGenerationEvent.isAcceptedFinish = true

theorem result_of_not_accepted (h : ¬ g.Accepted) : g.result = .error .stGenerateStreamInvalid := by
  unfold Accepted at h
  unfold result
  split
  · rfl
  · rename_i terminal hterminal
    rw [hterminal] at h
    exact if_neg h

theorem result_of_accepted (h : g.Accepted) : g.result ≠ .error .stGenerateStreamInvalid := by
  unfold Accepted at h
  unfold result
  split
  · rename_i hterminal
    rw [hterminal] at h
    cases h
  · rename_i terminal hterminal
    rw [hterminal, Option.any_some] at h
    rw [if_pos h]
    split <;> exact nofun

theorem conclude_of_not_accepted (h : ¬ g.Accepted) :
    conclude d g = .error .stGenerateStreamInvalid := by
  unfold conclude
  split
  · rfl
  · exact result_of_not_accepted h

/-- The end of the stream is as it should be exactly if nothing is pending. -/
theorem conclude_eq_result_iff (h : g.Accepted) : conclude d g = g.result ↔ d.finish = .ok () := by
  unfold conclude
  cases hfinish : d.finish with
  | error e => exact ⟨fun heq => absurd heq.symm (result_of_accepted h), nofun⟩
  | ok u => exact ⟨fun _ => rfl, fun _ => rfl⟩

/-- What may follow the message that decides: after an error anything that decodes, and after the
end marker line ends, unless the stream has already ended for a reason that is not accepted. -/
def Harmless (d : StSseStreamDecoder) (rest : Bytes) : Except StErrorCode (Generation × Bool) → Prop
  | .error code => code = .stGenerateRejected → ∃ r, d.push rest = .ok r
  | .ok (g, _) => g.Accepted → ∀ byte ∈ rest, IsLineEnd byte

abbrev afterDecision (d : StSseStreamDecoder) (verdict : Except StErrorCode (Generation × Bool))
    (bytes : Bytes) : Except StErrorCode StGenerationResult :=
  afterwards pushByte .stGenerateStreamInvalid conclude d verdict bytes

theorem harmless_error_iff (hcode : IsStreamCode code) (hwaiting : d.Waiting) (rest : Bytes) :
    Harmless d rest (.error code) ↔ ∀ first, first <+: rest →
      afterDecision d (.error code) first = afterDecision d (.error code) [] := by
  rcases hcode with rfl | rfl
  · simp only [Harmless, true_implies, push_eq_feed hwaiting]
    constructor
    · rintro ⟨⟨out, d₁⟩, hrest⟩ first ⟨last, rfl⟩
      obtain ⟨out₁, d₂, out₂, hfirst, -, -⟩ := exists_of_feed_append hrest
      simp only [afterDecision, afterwards, hfirst, feed_nil]
    · intro hall
      have heq := hall rest (List.prefix_refl rest)
      simp only [afterDecision, afterwards, feed_nil] at heq
      cases hfeed : feed pushByte d rest with
      | error e =>
        rw [hfeed] at heq
        cases heq
      | ok r => exact ⟨r, rfl⟩
  · refine ⟨fun _ first _ => ?_, fun _ hcode => absurd hcode (by simp)⟩
    simp only [afterDecision, afterwards, feed_nil]
    split <;> rfl

theorem harmless_ok_iff (hclean : d.Clean) (hchecked : d.bomChecked = true) (rest : Bytes) :
    Harmless d rest (.ok (g, stop)) ↔ ∀ first, first <+: rest →
      afterDecision d (.ok (g, stop)) first = afterDecision d (.ok (g, stop)) [] := by
  by_cases haccepted : g.Accepted
  · have hnow : afterDecision d (.ok (g, stop)) [] = g.result :=
      (conclude_eq_result_iff haccepted).mpr
        ((finish_eq_ok_iff hchecked).mpr hclean)
    rw [hnow]
    simp only [Harmless, haccepted, true_implies,
      ← forall_clean_iff hclean hchecked]
    refine forall₂_congr fun first _ => ?_
    simp only [afterDecision, afterwards]
    cases feed pushByte d first with
    | error e =>
      refine ⟨?_, fun heq => absurd heq.symm (result_of_accepted haccepted)⟩
      rintro ⟨events, d₁, hfeed, -⟩
      cases hfeed
    | ok r =>
      obtain ⟨events, d₁⟩ := r
      rw [conclude_eq_result_iff haccepted]
      refine ⟨?_, fun hfinish => ⟨events, d₁, rfl, hfinish⟩⟩
      rintro ⟨events', d₂, heq, hfinish⟩
      cases heq
      exact hfinish
  · -- the stream is invalid whatever follows
    have hinvalid : ∀ first, afterDecision d (.ok (g, stop)) first =
        .error .stGenerateStreamInvalid := by
      intro first
      simp only [afterDecision, afterwards]
      split
      · rfl
      · exact conclude_of_not_accepted haccepted
    refine ⟨fun _ first _ => ?_, fun _ h => absurd h haccepted⟩
    rw [hinvalid, hinvalid]

end Chunks

/-! ## The text -/

section Text

/-- The text of the deltas before the terminal event. -/
def contentBefore : List StGenerationEvent → String
  | [] => ""
  | .textDelta _ text :: events => text ++ contentBefore events
  | .finished _ :: _ => ""
  | _ :: events => contentBefore events

/-- The reason that the terminal event gives. -/
def terminalReason : List StGenerationEvent → Option (Option String)
  | [] => none
  | .finished reason :: _ => some reason
  | _ :: events => terminalReason events

/-- The events of the generation in the messages of a stream, if all of them decode. -/
def generationEvents (fromStr : String → Option Json) :
    ℕ → List StSseEvent → Option (List StGenerationEvent)
  | _, [] => some []
  | sequence, .heartbeat :: events => generationEvents fromStr sequence events
  | sequence, .message _ data :: events =>
    match decodeStGenerationEvent fromStr data (sequence + 1) with
    | .error _ => none
    | .ok decoded => (generationEvents fromStr (sequence + 1) events).map (decoded ++ ·)

variable {fromStr} {g g' : Generation} {taken : List StGenerationEvent}

/-- What was taken are these events. -/
structure Reads (g : Generation) (taken : List StGenerationEvent) : Prop where
  text : g.accumulatedText = contentBefore taken
  terminal : g.terminal = (terminalReason taken).map .finished
  reason : ∀ reason, terminalReason taken = some reason → g.finishReason = reason

theorem reads_start : Reads start [] := ⟨rfl, rfl, nofun⟩

theorem terminalReason_append (taken events : List StGenerationEvent) :
    terminalReason (taken ++ events) = (terminalReason taken).or (terminalReason events) := by
  induction taken with
  | nil => rfl
  | cons event taken ih => cases event <;> simp [terminalReason, ih]

theorem contentBefore_append (taken events : List StGenerationEvent) :
    contentBefore (taken ++ events) = contentBefore taken ++
      if (terminalReason taken).isSome then "" else contentBefore events := by
  induction taken with
  | nil => simp [contentBefore, terminalReason]
  | cons event taken ih =>
    cases event with
    | ignored => exact ih
    | rejected safeCode => exact ih
    | finished reason => exact String.append_empty.symm
    | textDelta sequence text =>
      show text ++ contentBefore (taken ++ events) = (text ++ contentBefore taken) ++ _
      rw [ih, String.append_assoc]
      rfl

variable (h : g.Reads taken)
include h

/-- After the terminal event nothing is added. -/
theorem Reads.late (hterminal : g.terminal.isSome = true) (event : StGenerationEvent) :
    g.Reads (taken ++ [event]) := by
  have hsome : (terminalReason taken).isSome = true := by
    rw [h.terminal, Option.isSome_map] at hterminal
    exact hterminal
  obtain ⟨reason, hreason⟩ := Option.isSome_iff_exists.mp hsome
  refine ⟨?_, ?_, fun reason' hreason' => ?_⟩
  · rw [contentBefore_append, if_pos hsome, String.append_empty, h.text]
  · rw [terminalReason_append, hreason, Option.some_or, ← hreason, h.terminal]
  · rw [terminalReason_append, hreason, Option.some_or] at hreason'
    exact h.reason reason' (hreason.trans hreason')

theorem Reads.takeGenerationEvent {event : StGenerationEvent}
    (htake : g.takeGenerationEvent event = .ok g') : g'.Reads (taken ++ [event]) := by
  unfold Generation.takeGenerationEvent at htake
  split at htake
  · rename_i hterminal
    have hsame : g' = g := by
      unfold takeLate at htake
      split at htake
      · exact (Except.ok.inj htake).symm
      · split at htake
        · exact (Except.ok.inj htake).symm
        · cases htake
      · cases htake
      · cases htake
    rw [hsame]
    exact h.late hterminal event
  · rename_i hterminal
    have hnone : terminalReason taken = none := by
      rw [h.terminal] at hterminal
      simpa using hterminal
    have hcontent : contentBefore (taken ++ [event]) =
        contentBefore taken ++ contentBefore [event] := by
      rw [contentBefore_append, hnone]
      rfl
    have hreason : terminalReason (taken ++ [event]) = terminalReason [event] := by
      rw [terminalReason_append, hnone, Option.none_or]
    split at htake
    · cases htake
      refine ⟨?_, ?_, ?_⟩
      · rw [hcontent, h.text]
        exact String.append_empty.symm
      · rw [hreason, h.terminal, hnone]
        rfl
      · rw [hreason]
        exact nofun
    · split at htake
      · cases htake
      · cases htake
        refine ⟨?_, ?_, ?_⟩
        · rw [hcontent, ← h.text]
          simp [contentBefore]
        · rw [hreason]
          exact h.terminal.trans (by rw [hnone]; rfl)
        · rw [hreason]
          exact nofun
    · cases htake
      refine ⟨?_, ?_, ?_⟩
      · rw [hcontent]
        exact h.text.trans String.append_empty.symm
      · rw [hreason]
        rfl
      · rw [hreason]
        rintro reason' ⟨⟩
        rfl
    · cases htake

theorem Reads.foldlM (hfold : decoded.foldlM Generation.takeGenerationEvent g = .ok g') :
    g'.Reads (taken ++ decoded) := by
  induction decoded generalizing g taken with
  | nil =>
    cases hfold
    rw [List.append_nil]
    exact h
  | cons event decoded ih =>
    rw [List.foldlM_cons] at hfold
    obtain ⟨g₁, hevent, hrest⟩ := exists_of_bind_eq_ok hfold
    have hreads := ih (h.takeGenerationEvent hevent) hrest
    rwa [List.append_assoc] at hreads

omit h in
theorem sequence_of_foldlM (h : decoded.foldlM Generation.takeGenerationEvent g = .ok g') :
    g'.sequence = g.sequence := by
  induction decoded generalizing g with
  | nil =>
    cases h
    rfl
  | cons event decoded ih =>
    rw [List.foldlM_cons] at h
    obtain ⟨g₁, hevent, hrest⟩ := exists_of_bind_eq_ok h
    rw [ih hrest]
    unfold takeGenerationEvent takeLate at hevent
    split at hevent <;> split at hevent <;> (try split at hevent) <;> cases hevent <;> rfl

theorem Reads.takeMessage {event : Option String} {data : String}
    (htake : g.takeMessage fromStr event data = .ok (g', stop)) :
    g'.sequence = g.sequence + 1 ∧
      ∃ decoded, decodeStGenerationEvent fromStr data (g.sequence + 1) = .ok decoded ∧
        g'.Reads (taken ++ decoded) := by
  unfold Generation.takeMessage at htake
  split at htake
  · cases htake
  · split at htake
    · cases htake
    · split at htake
      · cases htake
      · rename_i decoded hdecoded
        obtain ⟨g₁, hfold, hreturn⟩ := exists_of_bind_eq_ok htake
        cases hreturn
        have hnext : Reads { g with sequence := g.sequence + 1 } taken :=
          ⟨h.text, h.terminal, h.reason⟩
        exact ⟨sequence_of_foldlM hfold, decoded, hdecoded, hnext.foldlM hfold⟩

/-- **What is taken of the events of a stream** is what the first of them say. -/
theorem reads_of_takeAll (htake : takeAll (takeEvent fromStr) g events = .ok (g', stop)) :
    ∃ first decoded, first <+: events ∧ generationEvents fromStr g.sequence first = some decoded ∧
      g'.Reads (taken ++ decoded) := by
  induction events generalizing g taken with
  | nil =>
    cases htake
    exact ⟨[], [], List.prefix_refl _, rfl, by rwa [List.append_nil]⟩
  | cons event events ih =>
    simp only [takeAll] at htake
    cases event with
    | heartbeat =>
      obtain ⟨first, decoded, hfirst, hdecoded, hreads⟩ := ih h htake
      exact ⟨.heartbeat :: first, decoded, List.cons_prefix_cons.mpr ⟨rfl, hfirst⟩, hdecoded,
        hreads⟩
    | message event data =>
      simp only [takeEvent] at htake
      split at htake
      · cases htake
      · rename_i g₁ hmessage
        cases htake
        obtain ⟨-, decoded, hdecoded, hreads⟩ := h.takeMessage hmessage
        refine ⟨[.message event data], decoded,
          List.cons_prefix_cons.mpr ⟨rfl, List.nil_prefix⟩, ?_, hreads⟩
        simp [generationEvents, hdecoded]
      · rename_i g₁ hmessage
        obtain ⟨hsequence, decoded, hdecoded, hreads⟩ := h.takeMessage hmessage
        obtain ⟨first, rest, hfirst, hrest, hreads'⟩ := ih hreads htake
        refine ⟨.message event data :: first, decoded ++ rest,
          List.cons_prefix_cons.mpr ⟨rfl, hfirst⟩, ?_, by rwa [List.append_assoc] at hreads'⟩
        rw [hsequence] at hrest
        simp [generationEvents, hdecoded, hrest]

end Text

/-! ## The result of a stream -/

section Result

variable {fromStr} {stream : Bytes}

/-- The decoder of a stream. -/
abbrev decoder : StSseStreamDecoder := .new sseMaxLineBytes sseMaxEventBytes

/-- The events are the first ones of the stream. -/
def FirstEvents (stream : Bytes) (events : List StSseEvent) : Prop :=
  ∃ bytes out d, bytes <+: stream ∧ decoder.push bytes = .ok (out, d) ∧ events <+: out

/-- The text is the concatenation of the deltas before the terminal event, and the reason is the one
of that event. -/
def FaithfulText (fromStr : String → Option Json) (stream : Bytes) (r : StGenerationResult) :
    Prop :=
  ∃ events decoded, FirstEvents stream events ∧ generationEvents fromStr 0 events = some decoded ∧
    r.text = contentBefore decoded ∧ terminalReason decoded = some r.finishReason

variable {r : StGenerationResult} {g : Generation}

theorem Reads.result {taken : List StGenerationEvent} (h : g.Reads taken)
    (hresult : g.result = .ok r) :
    r.text = contentBefore taken ∧ terminalReason taken = some r.finishReason := by
  unfold Generation.result at hresult
  split at hresult
  · cases hresult
  · rename_i terminal hterminal
    split at hresult
    · split at hresult
      · cases hresult
      · cases hresult
        refine ⟨h.text, ?_⟩
        rw [h.terminal] at hterminal
        obtain ⟨reason, hreason, -⟩ := Option.map_eq_some_iff.mp hterminal
        rw [hreason, h.reason reason hreason]
    · cases hresult

variable {d : StSseStreamDecoder}

theorem result_of_conclude (h : conclude d g = .ok r) :
    g.result = .ok r := by
  unfold conclude at h
  split at h
  · cases h
  · exact h

/-- What was taken of the first bytes of a stream gives its text. -/
theorem faithfulText_of_feed {bytes : Bytes} {out : List StSseEvent} (hbytes : bytes <+: stream)
    (hfeed : feed pushByte decoder bytes = .ok (out, d))
    (htake : takeAll (takeEvent fromStr) start out = .ok (g, stop)) (hresult : g.result = .ok r) :
    FaithfulText fromStr stream r := by
  rw [← push_eq_feed (waiting_new _ _)] at hfeed
  obtain ⟨first, decoded, hfirst, hdecoded, hreads⟩ := reads_of_takeAll reads_start htake
  obtain ⟨htext, hreason⟩ := hreads.result hresult
  exact ⟨first, decoded, ⟨bytes, out, d, hbytes, hfeed, hfirst⟩, hdecoded, htext, hreason⟩

theorem faithfulText_of_ok {chunks : List Bytes} (h : streamGenerate fromStr chunks = .ok r) :
    FaithfulText fromStr chunks.flatten r := by
  rw [streamGenerate, readChunks_eq_readAll (waiting_new _ _)] at h
  rcases open_or_failed_or_decided pushByte (takeEvent fromStr) decoder start
    chunks.flatten with ⟨d, g, hopen⟩ | hfailed | ⟨first, rest, d, verdict, hstream, hdecided⟩
  · rw [readAll_of_open hopen] at h
    obtain ⟨out, hfeed, htake⟩ := hopen
    exact faithfulText_of_feed (List.prefix_refl _) hfeed htake (result_of_conclude h)
  · rw [readAll_of_failed hfailed] at h
    cases h
  · obtain ⟨bytes, -, heq⟩ := exists_readAll_eq _ _ hdecided hstream
    rw [heq] at h
    obtain ⟨out, hfeed, htake⟩ := hdecided.feed
    unfold afterwards at h
    split at h
    · cases h
    · split at h
      · cases h
      · exact faithfulText_of_feed ⟨rest, hstream.symm⟩ hfeed htake (result_of_conclude h)

/-- Nothing that could matter comes after the message that decides the stream. -/
def Undisturbed (fromStr : String → Option Json) (stream : Bytes) : Prop :=
  ∀ first rest d verdict, stream = first ++ rest →
    Decided pushByte (takeEvent fromStr) decoder start first d verdict →
      Harmless d rest verdict

theorem harmless_iff {first rest : Bytes} {verdict : Except StErrorCode (Generation × Bool)}
    (h : Decided pushByte (takeEvent fromStr) decoder start first d verdict) :
    Harmless d rest verdict ↔ ∀ bytes, bytes <+: rest →
      afterDecision d verdict bytes = afterDecision d verdict [] := by
  have hwaiting := waiting_new sseMaxLineBytes sseMaxEventBytes
  obtain ⟨out, hfeed, htake⟩ := h.feed
  match verdict, h, htake with
  | .error code, _, htake =>
    exact harmless_error_iff (isStreamCode_takeAll htake) (hwaiting.feed hfeed) rest
  | .ok (g, stop), h, _ =>
    obtain ⟨hclean, hchecked⟩ := clean_of_decided hwaiting h
    exact harmless_ok_iff hclean hchecked rest

end Result

end Generation

open Generation

/-- **The chunks of a stream do not matter exactly if it is undisturbed**; the text of a result is
in any case the concatenation of the deltas before the terminal event. -/
theorem generation_independent_of_chunks (fromStr : String → Option Json) (stream : Bytes) :
    ((∀ chunks chunks' : List Bytes, chunks.flatten = stream → chunks'.flatten = stream →
        streamGenerate fromStr chunks = streamGenerate fromStr chunks') ∧
      ∀ chunks r, chunks.flatten = stream → streamGenerate fromStr chunks = .ok r →
        FaithfulText fromStr stream r) ↔ Generation.Undisturbed fromStr stream := by
  have hread : ∀ chunks, streamGenerate fromStr chunks = readAll pushByte
      (takeEvent fromStr) .stGenerateStreamInvalid conclude decoder Generation.start chunks :=
    fun chunks => readChunks_eq_readAll (waiting_new _ _) chunks
  simp only [hread]
  rw [forall_readAll_eq_iff .stGenerateStreamInvalid conclude, and_iff_left]
  · constructor
    · intro h first rest d verdict hstream hdecided
      exact (harmless_iff hdecided).mpr (h first rest d verdict hstream hdecided)
    · intro h first rest d verdict hstream hdecided
      exact (harmless_iff hdecided).mp (h first rest d verdict hstream hdecided)
  · rintro chunks r rfl hok
    rw [← hread] at hok
    exact faithfulText_of_ok hok

/-- A message with the delta of a text. -/
def Generation.helloMessage : Json :=
  .object [("choices", .array [.object [("delta", .object [("content", .string "Hi")])]])]

/-- The stream of that message, up to the end marker. -/
def Generation.doneStream : Bytes :=
  utf8 ("data: " ++ helloMessage.text ++ "\n\ndata: [DONE]\n\n")

/-- A byte after the end marker is pending if it comes in the chunk of the marker, and is not read
if it comes in a chunk of its own. -/
theorem byte_after_done :
    (streamGenerate (Json.readFrom [helloMessage]) [doneStream ++ utf8 ":"]).map (fun r =>
        (r.text, r.finishReason)) = .error .stGenerateStreamInvalid ∧
      (streamGenerate (Json.readFrom [helloMessage]) [doneStream, utf8 ":"]).map (fun r =>
        (r.text, r.finishReason)) = .ok ("Hi", some "stop") := by
  decide +kernel

end ImBridge
