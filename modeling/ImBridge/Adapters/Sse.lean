import ImBridge.Domain.Text
import ImBridge.Encoding.Chunked
import ImBridge.Encoding.Utf8

/-!
# Server-sent events

The decoder of the stream of a generation. It collects bytes to lines and lines to messages, within
bounds, and skips the byte order mark at the start.

## Main definitions

* `StSseStreamDecoder`: the decoder, with `push` for a chunk and `finish` for the end of the stream

## Main results

* `StSseStreamDecoder.push_eq_feed`: a chunk is decoded byte by byte
* `StSseStreamDecoder.clean_of_mem_pushByte`: a message leaves nothing pending
* `StSseStreamDecoder.forall_clean_iff`: only line ends leave nothing pending after it
-/

namespace ImBridge

open Chunked

inductive StSseEvent
  | heartbeat
  | message (event : Option String) (data : String)
  deriving DecidableEq, Repr

inductive SseDecodeError
  | lineTooLarge
  | eventTooLarge
  | invalidUtf8
  | invalidJson
  | invalidPayload
  | unsupportedOutput
  | truncated
  deriving DecidableEq, Repr

/-! ## The decoder -/

structure StSseStreamDecoder where
  line : Bytes
  data : List String
  event : Option String
  eventBytes : ℕ
  skipLf : Bool
  maxLine : ℕ
  maxEvent : ℕ
  bomPrefix : Bytes
  bomChecked : Bool
  deriving DecidableEq, Repr

/-- The part before the first colon and the part after it, if there is one. -/
def splitOnceColon (line : String) : String × String :=
  match line.toList.dropWhile (· != ':') with
  | [] => (line, "")
  | _ :: value => (String.ofList (line.toList.takeWhile (· != ':')), String.ofList value)

/-- The string without a space at its start. -/
def stripSpace (s : String) : String :=
  match s.toList with
  | ' ' :: rest => String.ofList rest
  | _ => s

/-- The bytes that end a line: carriage return and line feed. -/
def IsLineEnd (byte : UInt8) : Prop := byte = 13 ∨ byte = 10

instance : DecidablePred IsLineEnd :=
  fun byte => inferInstanceAs (Decidable (byte = 13 ∨ byte = 10))

namespace StSseStreamDecoder

/-- The events of a call, and the decoder after it. -/
abbrev Decoded := Except SseDecodeError (List StSseEvent × StSseStreamDecoder)

def new (maxLine maxEvent : ℕ) : StSseStreamDecoder :=
  { line := [], data := [], event := none, eventBytes := 0, skipLf := false, maxLine, maxEvent
    bomPrefix := [], bomChecked := false }

/-- An empty line ends the message. -/
def finishMessage (d : StSseStreamDecoder) : List StSseEvent × StSseStreamDecoder :=
  (if d.data ≠ [] ∨ d.event.isSome then [.message d.event (String.intercalate "\n" d.data)] else [],
    { d with line := [], data := [], event := none, eventBytes := 0 })

/-- The fields other than the data and the name of the event are skipped. -/
def setField (d : StSseStreamDecoder) (field value : String) : StSseStreamDecoder :=
  match field with
  | "data" => { d with data := d.data ++ [value] }
  | "event" => { d with event := some value }
  | _ => d

/-- A line with a field of the message. -/
def takeField (d : StSseStreamDecoder) (line : String) : Decoded :=
  let eventBytes := d.eventBytes + (line.utf8ByteSize + 1)
  if d.maxEvent < eventBytes then .error .eventTooLarge
  else
    let (field, value) := splitOnceColon line
    .ok ([], { d with line := [], eventBytes }.setField field (stripSpace value))

def finishLine (d : StSseStreamDecoder) : Decoded :=
  match fromUtf8 d.line with
  | none => .error .invalidUtf8
  | some line =>
    if line = "" then .ok d.finishMessage
    else if startsWith ":" line then .ok ([.heartbeat], { d with line := [] })
    else d.takeField line

/-- One byte of a line, or the end of one. -/
def addByte (d : StSseStreamDecoder) (byte : UInt8) : Decoded :=
  if IsLineEnd byte then
    match d.finishLine with
    | .error e => .error e
    | .ok (events, d) => .ok (events, { d with skipLf := byte == 13 })
  else if d.maxLine ≤ d.line.length then .error .lineTooLarge
  else .ok ([], { d with line := d.line ++ [byte] })

/-- A line feed after a carriage return is skipped. -/
def processByte (d : StSseStreamDecoder) (byte : UInt8) : Decoded :=
  if d.skipLf then
    if byte = 10 then .ok ([], { d with skipLf := false })
    else { d with skipLf := false }.addByte byte
  else d.addByte byte

def processBytes (d : StSseStreamDecoder) (bytes : Bytes) : Decoded := feed processByte d bytes

/-- The byte order mark. -/
def bom : Bytes := [0xEF, 0xBB, 0xBF]

/-- The first three bytes are complete. -/
def checkBom (d : StSseStreamDecoder) : Decoded :=
  if d.bomPrefix = bom then .ok ([], { d with bomPrefix := [], bomChecked := true })
  else { d with bomPrefix := [], bomChecked := true }.processBytes d.bomPrefix

/-- Bytes that wait for the check of the byte order mark. -/
def collect (d : StSseStreamDecoder) (bytes : Bytes) : StSseStreamDecoder :=
  { d with bomPrefix := d.bomPrefix ++ bytes }

def push (d : StSseStreamDecoder) (bytes : Bytes) : Decoded :=
  if d.bomChecked then d.processBytes bytes
  else
    let take := min (3 - d.bomPrefix.length) bytes.length
    let d := d.collect (bytes.take take)
    if d.bomPrefix.length < 3 then .ok ([], d)
    else
      match d.checkBom with
      | .error e => .error e
      | .ok (events, d) =>
        match d.processBytes (bytes.drop take) with
        | .error e => .error e
        | .ok (rest, d) => .ok (events ++ rest, d)

def finish (d : StSseStreamDecoder) : Except SseDecodeError Unit :=
  if ¬ d.bomChecked ∧ d.bomPrefix ≠ [] then .error .truncated
  else if d.line = [] ∧ d.data = [] ∧ d.event = none then .ok ()
  else .error .truncated

/-! ## A chunk byte by byte -/

/-- One byte of the stream. -/
def pushByte (d : StSseStreamDecoder) (byte : UInt8) : Decoded :=
  if d.bomChecked then d.processByte byte
  else
    let d := d.collect [byte]
    if d.bomPrefix.length < 3 then .ok ([], d) else d.checkBom

variable {d d' : StSseStreamDecoder} {events : List StSseEvent} {byte : UInt8}

/-- What the end of a line does: a message is complete, or a comment or a field has come. -/
inductive LineStep (d : StSseStreamDecoder) : List StSseEvent → StSseStreamDecoder → Prop
  | message : LineStep d d.finishMessage.1 d.finishMessage.2
  | comment : LineStep d [.heartbeat] { d with line := [] }
  | field (eventBytes : ℕ) (name value : String) (hname : name.toList.length ≤ d.line.length) :
      LineStep d [] ({ d with line := [], eventBytes }.setField name value)

/-- What a byte does: it is skipped, ends a line, or is added to the line. -/
inductive ByteStep (d : StSseStreamDecoder) (byte : UInt8) :
    List StSseEvent → StSseStreamDecoder → Prop
  | skip (hbyte : byte = 10) : ByteStep d byte [] { d with skipLf := false }
  | lineEnd (hbyte : IsLineEnd byte) (events : List StSseEvent) (d' : StSseStreamDecoder)
      (h : LineStep { d with skipLf := false } events d') :
      ByteStep d byte events { d' with skipLf := byte == 13 }
  | add (hbyte : ¬ IsLineEnd byte) :
      ByteStep d byte [] { d with skipLf := false, line := d.line ++ [byte] }

theorem length_splitOnceColon (line : String) :
    (splitOnceColon line).1.toList.length ≤ line.toList.length := by
  unfold splitOnceColon
  split
  · exact Nat.le_refl _
  · rw [String.toList_ofList]
    exact (List.takeWhile_sublist _).length_le

variable {bytes : Bytes}

theorem length_of_fromUtf8 {line : String} (h : fromUtf8 bytes = some line) :
    line.toList.length ≤ bytes.length := by
  rw [← utf8_of_fromUtf8 h]
  exact Encoding.length_le_utf8ByteSize line

theorem lineStep_finishLine (h : d.finishLine = .ok (events, d')) : LineStep d events d' := by
  unfold finishLine at h
  split at h
  · cases h
  · rename_i line hutf8
    split at h
    · cases h
      exact .message
    · split at h
      · cases h
        exact .comment
      · simp only [takeField] at h
        split at h
        · cases h
        · cases h
          exact .field _ _ _ (Nat.le_trans (length_splitOnceColon line) (length_of_fromUtf8 hutf8))

theorem byteStep_addByte (hskip : d.skipLf = false) (h : d.addByte byte = .ok (events, d')) :
    ByteStep d byte events d' := by
  have hsame : { d with skipLf := false } = d := by rw [← hskip]
  unfold addByte at h
  split at h
  · rename_i hbyte
    split at h
    · cases h
    · rename_i d₁ hline
      cases h
      exact .lineEnd hbyte _ d₁ (hsame.symm ▸ lineStep_finishLine hline)
  · rename_i hbyte
    split at h
    · cases h
    · cases h
      exact hsame ▸ .add hbyte

/-- **What a byte does.** -/
theorem byteStep_processByte (h : d.processByte byte = .ok (events, d')) :
    ByteStep d byte events d' := by
  unfold processByte at h
  split at h
  · split at h
    · rename_i hbyte
      cases h
      exact .skip hbyte
    · -- without the mark for a line feed the steps are the same
      cases byteStep_addByte rfl h with
      | skip hbyte => exact .skip hbyte
      | lineEnd hbyte _ d₁ hline => exact .lineEnd hbyte _ d₁ hline
      | add hbyte => exact .add hbyte
  · rename_i hskip
    exact byteStep_addByte (by simpa using hskip) h

theorem bomChecked_setField (field value : String) :
    (d.setField field value).bomChecked = d.bomChecked := by
  unfold setField
  split <;> rfl

theorem bomChecked_processByte (h : d.processByte byte = .ok (events, d')) :
    d'.bomChecked = d.bomChecked := by
  cases byteStep_processByte h with
  | skip => rfl
  | add => rfl
  | lineEnd hbyte _ d₁ hline =>
    cases hline with
    | message => rfl
    | comment => rfl
    | field eventBytes name value => exact bomChecked_setField name value

theorem bomChecked_processBytes (h : d.processBytes bytes = .ok (events, d')) :
    d'.bomChecked = d.bomChecked := by
  unfold processBytes at h
  induction bytes generalizing d events with
  | nil =>
    cases h
    rfl
  | cons byte bytes ih =>
    obtain ⟨out₁, d₁, out₂, hbyte, hrest, -⟩ := exists_of_feed_cons h
    rw [ih hrest, bomChecked_processByte hbyte]

theorem feed_pushByte_of_checked (h : d.bomChecked = true) (bytes : Bytes) :
    feed pushByte d bytes = d.processBytes bytes := by
  unfold processBytes
  induction bytes generalizing d with
  | nil => rfl
  | cons byte bytes ih =>
    simp only [feed, pushByte, h, if_true]
    cases hbyte : d.processByte byte with
    | error e => rfl
    | ok r =>
      obtain ⟨events, d₁⟩ := r
      simp only [ih ((bomChecked_processByte hbyte).trans h)]

theorem bomChecked_checkBom (h : d.checkBom = .ok (events, d')) : d'.bomChecked = true := by
  unfold checkBom at h
  split at h
  · cases h
    rfl
  · exact (bomChecked_processBytes h).trans rfl

@[simp] theorem collect_nil : d.collect [] = d := by
  simp [collect]

@[simp] theorem collect_collect (bytes bytes' : Bytes) :
    (d.collect bytes).collect bytes' = d.collect (bytes ++ bytes') := by
  simp [collect]

@[simp] theorem length_collect (bytes : Bytes) :
    (d.collect bytes).bomPrefix.length = d.bomPrefix.length + bytes.length :=
  List.length_append

/-- Nothing of a message is pending. -/
structure Clean (d : StSseStreamDecoder) : Prop where
  line : d.line = []
  data : d.data = []
  event : d.event = none

/-- Before the check of the byte order mark at most two bytes wait for it, and nothing else. -/
def Waiting (d : StSseStreamDecoder) : Prop :=
  d.bomChecked = false → d.bomPrefix.length < 3 ∧ d.Clean

theorem waiting_new (maxLine maxEvent : ℕ) : (new maxLine maxEvent).Waiting :=
  fun _ => ⟨Nat.zero_lt_succ _, rfl, rfl, rfl⟩

/-- **A chunk is decoded byte by byte.** -/
theorem push_eq_feed (h : d.Waiting) (bytes : Bytes) : d.push bytes = feed pushByte d bytes := by
  by_cases hchecked : d.bomChecked = true
  · rw [feed_pushByte_of_checked hchecked, push, if_pos hchecked]
  · have hlength : d.bomPrefix.length < 3 := (h (by simpa using hchecked)).1
    clear h
    induction bytes generalizing d with
    | nil => simp [push, hchecked, hlength]
    | cons byte bytes ih =>
      have hunchecked : ¬ (d.collect [byte]).bomChecked = true := hchecked
      by_cases hmore : d.bomPrefix.length + 1 < 3
      · -- the byte waits with the others
        have hbyte : d.pushByte byte = .ok ([], d.collect [byte]) := by
          simp [pushByte, hchecked, hmore]
        have htake : min (3 - d.bomPrefix.length) (bytes.length + 1) =
            min (3 - (d.bomPrefix.length + 1)) bytes.length + 1 := by omega
        have hpush : d.push (byte :: bytes) = (d.collect [byte]).push bytes := by
          simp [push, hchecked, hunchecked, htake]
        rw [hpush, feed_cons_silent hbyte, ih hunchecked (by simpa using hmore)]
      · -- it is the third one
        have hbyte : d.pushByte byte = (d.collect [byte]).checkBom := by
          simp [pushByte, hchecked, hmore]
        have htake : min (3 - d.bomPrefix.length) (bytes.length + 1) = 1 := by omega
        simp only [push, feed, if_neg hchecked, List.length_cons, htake, List.take_succ_cons,
          List.take_zero, length_collect, List.length_nil, Nat.zero_add, if_neg hmore,
          List.drop_succ_cons, List.drop_zero, hbyte]
        cases hcheck : (d.collect [byte]).checkBom with
        | error e => rfl
        | ok r =>
          obtain ⟨events, d₁⟩ := r
          simp only [feed_pushByte_of_checked (bomChecked_checkBom hcheck)]
          cases d₁.processBytes bytes <;> rfl

theorem Waiting.pushByte (h : d.Waiting) (hbyte : d.pushByte byte = .ok (events, d')) :
    d'.Waiting := by
  unfold StSseStreamDecoder.pushByte at hbyte
  split at hbyte
  · rename_i hchecked
    intro hnot
    rw [bomChecked_processByte hbyte, hchecked] at hnot
    cases hnot
  · rename_i hchecked
    obtain ⟨-, hline, hdata, hevent⟩ := h (by simpa using hchecked)
    simp only at hbyte
    split at hbyte
    · rename_i hlength
      cases hbyte
      exact fun _ => ⟨hlength, hline, hdata, hevent⟩
    · intro hnot
      rw [bomChecked_checkBom hbyte] at hnot
      cases hnot

theorem Waiting.feed (h : d.Waiting)
    (hbytes : Chunked.feed StSseStreamDecoder.pushByte d bytes = .ok (events, d')) :
    d'.Waiting := by
  induction bytes generalizing d events with
  | nil =>
    cases hbytes
    exact h
  | cons byte bytes ih =>
    obtain ⟨out₁, d₁, out₂, hbyte, hrest, -⟩ := exists_of_feed_cons hbytes
    exact ih (h.pushByte hbyte) hrest

/-! ## Messages -/

variable {event : Option String}

/-- A message leaves nothing pending. -/
theorem clean_of_mem_processByte {data : String} (h : d.processByte byte = .ok (events, d'))
    (hmem : .message event data ∈ events) : d'.Clean := by
  cases byteStep_processByte h with
  | skip | add => exact absurd hmem List.not_mem_nil
  | lineEnd hbyte _ d₁ hline =>
    cases hline with
    | message => exact ⟨rfl, rfl, rfl⟩
    | comment => cases List.mem_singleton.mp hmem
    | field => exact absurd hmem List.not_mem_nil

/-! ## The first three bytes

A message needs a field with a longer name, so none is complete before the check of the byte order
mark. -/

theorem setField_of_short {field : String} (h : field.toList.length < 4) (value : String) :
    d.setField field value = d := by
  unfold setField
  split
  · exact absurd h (by decide)
  · exact absurd h (by decide)
  · rfl

/-- No field of a message has come, and the line is short. -/
structure Short (n : ℕ) (d : StSseStreamDecoder) : Prop where
  line : d.line.length ≤ n
  data : d.data = []
  event : d.event = none

theorem Short.processByte {n : ℕ} (h : d.Short n) (hn : n < 4)
    (hbyte : d.processByte byte = .ok (events, d')) :
    d'.Short (n + 1) ∧ ∀ e ∈ events, e = .heartbeat := by
  have hshort := h.line
  cases byteStep_processByte hbyte with
  | skip =>
    exact ⟨⟨Nat.le_succ_of_le h.line, h.data, h.event⟩, fun e he => absurd he List.not_mem_nil⟩
  | add =>
    refine ⟨⟨?_, h.data, h.event⟩, fun e he => absurd he List.not_mem_nil⟩
    simp only [List.length_append, List.length_singleton]
    omega
  | lineEnd _ _ d₁ hline =>
    cases hline with
    | message =>
      refine ⟨⟨Nat.zero_le _, rfl, rfl⟩, fun e he => ?_⟩
      simp [finishMessage, h.data, h.event] at he
    | comment => exact ⟨⟨Nat.zero_le _, h.data, h.event⟩, fun e he => List.mem_singleton.mp he⟩
    | field eventBytes name value hname =>
      -- the name of the field is no longer than the line
      have hlength : name.toList.length ≤ d.line.length := hname
      rw [setField_of_short (by omega)]
      exact ⟨⟨Nat.zero_le _, h.data, h.event⟩, fun e he => absurd he List.not_mem_nil⟩

theorem Short.processBytes {n : ℕ} (h : d.Short n) (hn : n + bytes.length < 5)
    (hbytes : d.processBytes bytes = .ok (events, d')) : ∀ e ∈ events, e = .heartbeat := by
  unfold StSseStreamDecoder.processBytes at hbytes
  induction bytes generalizing d events n with
  | nil =>
    cases hbytes
    exact fun e he => absurd he List.not_mem_nil
  | cons byte bytes ih =>
    rw [List.length_cons] at hn
    obtain ⟨out₁, d₁, out₂, hbyte, hrest, rfl⟩ := exists_of_feed_cons hbytes
    obtain ⟨hshort, hevents⟩ := h.processByte (by omega) hbyte
    exact List.forall_mem_append.mpr ⟨hevents, ih hshort (by omega) hrest⟩

/-- **A message leaves nothing pending**, and comes after the check of the byte order mark. -/
theorem clean_of_mem_pushByte {data : String} (hwaiting : d.Waiting)
    (h : d.pushByte byte = .ok (events, d')) (hmem : .message event data ∈ events) :
    d'.Clean ∧ d'.bomChecked = true := by
  unfold pushByte at h
  split at h
  · rename_i hchecked
    exact ⟨clean_of_mem_processByte h hmem, (bomChecked_processByte h).trans hchecked⟩
  · rename_i hchecked
    obtain ⟨hlength, hclean⟩ := hwaiting (by simpa using hchecked)
    simp only at h
    split at h
    · cases h
      exact absurd hmem List.not_mem_nil
    · unfold checkBom at h
      split at h
      · cases h
        exact absurd hmem List.not_mem_nil
      · have hshort : { d.collect [byte] with bomPrefix := [], bomChecked := true }.Short 0 :=
          ⟨Nat.le_of_eq (congrArg List.length hclean.line), hclean.data, hclean.event⟩
        have hthree : 0 + (d.collect [byte]).bomPrefix.length < 5 := by
          rw [length_collect, List.length_singleton]
          omega
        cases hshort.processBytes hthree h _ hmem

/-! ## The end of the stream -/

theorem finish_eq_ok_iff (h : d.bomChecked = true) : d.finish = .ok () ↔ d.Clean := by
  unfold finish
  rw [if_neg (fun hnot => hnot.1 h)]
  by_cases hclean : d.line = [] ∧ d.data = [] ∧ d.event = none
  · rw [if_pos hclean]
    exact ⟨fun _ => ⟨hclean.1, hclean.2.1, hclean.2.2⟩, fun _ => rfl⟩
  · rw [if_neg hclean]
    exact ⟨nofun, fun h => absurd ⟨h.line, h.data, h.event⟩ hclean⟩

theorem Clean.finishLine (h : d.Clean) :
    d.finishLine = .ok ([], { d with line := [], data := [], event := none, eventBytes := 0 }) := by
  have hempty : fromUtf8 d.line = some "" := by
    rw [h.line]
    exact fromUtf8_utf8 ""
  simp [StSseStreamDecoder.finishLine, hempty, finishMessage, h.data, h.event]

/-- An empty line where nothing is pending. -/
theorem Clean.addByte (h : d.Clean) (hbyte : IsLineEnd byte) :
    ∃ d', d.addByte byte = .ok ([], d') ∧ d'.Clean ∧ d'.bomChecked = d.bomChecked := by
  refine ⟨{ d with line := [], data := [], event := none, eventBytes := 0, skipLf := byte == 13 },
    ?_, ⟨rfl, rfl, rfl⟩, rfl⟩
  unfold StSseStreamDecoder.addByte
  rw [if_pos hbyte, h.finishLine]

theorem Clean.pushByte (h : d.Clean) (hchecked : d.bomChecked = true) (hbyte : IsLineEnd byte) :
    ∃ d', d.pushByte byte = .ok ([], d') ∧ d'.Clean ∧ d'.bomChecked = true := by
  unfold StSseStreamDecoder.pushByte processByte
  rw [if_pos hchecked]
  split
  · split
    · exact ⟨_, rfl, ⟨h.line, h.data, h.event⟩, hchecked⟩
    · obtain ⟨d', heq, hclean, hchecked'⟩ :=
        Clean.addByte (d := { d with skipLf := false }) ⟨h.line, h.data, h.event⟩ hbyte
      exact ⟨d', heq, hclean, hchecked'.trans hchecked⟩
  · obtain ⟨d', heq, hclean, hchecked'⟩ := h.addByte hbyte
    exact ⟨d', heq, hclean, hchecked'.trans hchecked⟩

/-- Any other byte is pending after it. -/
theorem not_clean_pushByte (hchecked : d.bomChecked = true) (hbyte : ¬ IsLineEnd byte)
    (h : d.pushByte byte = .ok (events, d')) : ¬ d'.Clean := by
  unfold pushByte at h
  rw [if_pos hchecked] at h
  cases byteStep_processByte h with
  | skip hlf => exact absurd (.inr hlf) hbyte
  | lineEnd hend => exact absurd hend hbyte
  | add =>
    exact fun hclean => List.append_ne_nil_of_right_ne_nil _ (List.cons_ne_nil _ _) hclean.line

/-- **Only line ends leave nothing pending**, wherever they are cut. -/
theorem forall_clean_iff (h : d.Clean) (hchecked : d.bomChecked = true) :
    (∀ first, first <+: bytes → ∃ events d', feed pushByte d first = .ok (events, d') ∧
      d'.finish = .ok ()) ↔ ∀ byte ∈ bytes, IsLineEnd byte := by
  induction bytes generalizing d with
  | nil =>
    refine ⟨fun _ byte hmem => absurd hmem List.not_mem_nil, fun _ first hfirst => ?_⟩
    rw [List.prefix_nil.mp hfirst]
    exact ⟨[], d, rfl, (finish_eq_ok_iff hchecked).mpr h⟩
  | cons byte bytes ih =>
    by_cases hbyte : IsLineEnd byte
    · obtain ⟨d', hpush, hclean, hchecked'⟩ := h.pushByte hchecked hbyte
      rw [List.forall_mem_cons, and_iff_right hbyte, ← ih hclean hchecked']
      constructor
      · intro hall first hfirst
        obtain ⟨events, d'', hfeed, hfinish⟩ :=
          hall (byte :: first) (List.cons_prefix_cons.mpr ⟨rfl, hfirst⟩)
        rw [feed_cons_silent hpush] at hfeed
        exact ⟨events, d'', hfeed, hfinish⟩
      · intro hall first hfirst
        cases first with
        | nil => exact ⟨[], d, rfl, (finish_eq_ok_iff hchecked).mpr h⟩
        | cons x first =>
          obtain ⟨rfl, hrest⟩ := List.cons_prefix_cons.mp hfirst
          rw [feed_cons_silent hpush]
          exact hall first hrest
    · -- the byte alone is pending
      refine ⟨fun hall => ?_, fun hall => absurd (hall byte List.mem_cons_self) hbyte⟩
      obtain ⟨events, d', hfeed, hfinish⟩ :=
        hall [byte] (List.cons_prefix_cons.mpr ⟨rfl, List.nil_prefix⟩)
      obtain ⟨out₁, d₁, out₂, hpush, hnil, -⟩ := exists_of_feed_cons hfeed
      cases hnil
      have hchecked' : d'.bomChecked = true := by
        unfold pushByte at hpush
        rw [if_pos hchecked] at hpush
        exact (bomChecked_processByte hpush).trans hchecked
      exact absurd ((finish_eq_ok_iff hchecked').mp hfinish)
        (not_clean_pushByte hchecked hbyte hpush)

end StSseStreamDecoder

end ImBridge
