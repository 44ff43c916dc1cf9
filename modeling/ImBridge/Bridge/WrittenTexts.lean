import ImBridge.Bridge.StOps
import ImBridge.Chat.Prompt

/-!
# The texts a generation writes

A generated text is rewritten before it is put into a mutation. The engine has refused a blank
generation by then, but the rewritten text is not looked at again.

## Main definitions

* `promptText`: the functions of the chat's texts, as the bridge uses them
* `StMutation.assistantTexts`, `StMessagePatch.texts`: the texts that are written

## Main results

* `generated_texts_not_blank`: the generations of which something is left
-/

namespace ImBridge

open Encoding Interleaving

/-- The functions that rewrite the texts; how the system prompts are made does not matter here. -/
def promptText (buildSystemPrompt : StCharacterSummary → String → String)
    (compressionSystemPrompt : String) : PromptText where
  buildSystemPrompt := buildSystemPrompt
  normalizeModelInputText input := String.ofList (normalizeModelInputText input.toList)
  normalizeAssistantReply characterName input :=
    String.ofList (normalizeAssistantReply characterName.toList input.toList)
  sanitizeCompression text := String.ofList (sanitizeCompression text.toList)
  compressionSystemPrompt := compressionSystemPrompt

def StMessagePatch.texts (patch : StMessagePatch) : List String :=
  patch.mes.toList ++ (patch.extra.bind (·.displayText)).toList

/-- The texts a mutation writes as the assistant's. -/
def StMutation.assistantTexts : StMutation → List String
  | appendTurn _ assistantMessage => [assistantMessage.mes]
  | undoLastTurn _ _ => []
  | replaceLastAssistant _ assistantMessage => [assistantMessage.mes]
  | compressMessages patches => patches.flatMap (·.texts)

theorem ends_chatMessage (name : String) (isUser : Bool) (text : String) :
    (StOps.chatMessage name isUser text).Ends (·.mes = text) := by
  intro now
  rfl

variable {buildSystemPrompt : StCharacterSummary → String → String}
  {compressionSystemPrompt characterName generated : String}

theorem ends_appendMutation (T : PromptText) (userName userText : String) :
    (StOps.appendMutation T userName characterName userText generated).Ends
      (·.assistantTexts = [T.normalizeAssistantReply characterName generated]) := by
  refine Program.ends_bind (ends_chatMessage _ _ _) fun user _ => ?_
  refine Program.ends_bind (ends_chatMessage _ _ _) fun assistant hassistant => ?_
  exact congrArg ([·]) hassistant

theorem ends_replaceAssistantMutation (lib : Primitives) (T : PromptText)
    (snapshot : StChatSnapshot) :
    (StOps.replaceAssistantMutation lib T snapshot characterName generated).Ends fun mutation =>
      ∀ m ∈ mutation, m.assistantTexts = [T.normalizeAssistantReply characterName generated] := by
  rw [StOps.replaceAssistantMutation]
  split
  · rintro m ⟨⟩
  · refine Program.ends_bind (ends_chatMessage _ _ _) fun assistant hassistant => ?_
    rintro m ⟨⟩
    exact congrArg ([·]) hassistant

theorem texts_compressPatch (T : PromptText) (index : ℕ) (expectedSha256 : String) :
    (StOps.compressPatch T index expectedSha256 generated).texts =
      [T.sanitizeCompression generated, T.sanitizeCompression generated] := rfl

/-- A generation leaves nothing of a reply if it is the name of the character alone. -/
theorem isBlank_reply_iff (hgenerated : isBlank generated = false) :
    isBlank ((promptText buildSystemPrompt compressionSystemPrompt).normalizeAssistantReply
        characterName generated) = true ↔
      normalizeModelInputText generated.toList ∈ speakerPrefixes characterName.toList := by
  have hne : solid isWhitespace (normalizeModelInputText generated.toList) ≠ [] := by
    rw [solid_normalizeModelInputText, ne_eq, ← isBlank_iff, hgenerated]
    exact Bool.false_ne_true
  rw [isBlank_iff, promptText, String.toList_ofList, solid_normalizeAssistantReply]
  exact solid_stripSpeaker_eq_nil_iff normal_normalizeModelInputText hne

theorem isBlank_compression_iff :
    isBlank ((promptText buildSystemPrompt compressionSystemPrompt).sanitizeCompression
        generated) = true ↔
      OnlyLabels compressionLabels (stripFence (trimText generated.toList)) := by
  rw [isBlank_iff, promptText, String.toList_ofList]
  exact solid_sanitizeCompression_eq_nil_iff

/-- **Which generations leave a text.** A reply made of a generation that is not blank is not blank
if and only if the generation is not just the name of the character with a colon; the text of a
patch is not blank if and only if the generation has more than the labels of a compression. -/
theorem generated_texts_not_blank (buildSystemPrompt : StCharacterSummary → String → String)
    (compressionSystemPrompt characterName generated : String)
    (hgenerated : isBlank generated = false) :
    (∀ userName userText,
      (StOps.appendMutation (promptText buildSystemPrompt compressionSystemPrompt) userName
        characterName userText generated).Ends fun mutation =>
        (∀ text ∈ mutation.assistantTexts, isBlank text = false) ↔
          normalizeModelInputText generated.toList ∉ speakerPrefixes characterName.toList) ∧
    (∀ lib snapshot,
      (StOps.replaceAssistantMutation lib (promptText buildSystemPrompt compressionSystemPrompt)
        snapshot characterName generated).Ends fun replaced => ∀ mutation ∈ replaced,
        ((∀ text ∈ mutation.assistantTexts, isBlank text = false) ↔
          normalizeModelInputText generated.toList ∉ speakerPrefixes characterName.toList)) ∧
    ∀ index expectedSha256,
      (∀ text ∈ (StOps.compressPatch (promptText buildSystemPrompt compressionSystemPrompt) index
        expectedSha256 generated).texts, isBlank text = false) ↔
        ¬OnlyLabels compressionLabels (stripFence (trimText generated.toList)) := by
  refine ⟨fun userName userText => ?_, fun lib snapshot => ?_, fun index expectedSha256 => ?_⟩
  · refine (ends_appendMutation _ userName userText).imp fun mutation htexts => ?_
    rw [htexts, List.forall_mem_singleton, ← isBlank_reply_iff hgenerated, Bool.not_eq_true]
  · refine (ends_replaceAssistantMutation lib _ snapshot).imp fun replaced htexts => ?_
    intro mutation hmutation
    rw [htexts mutation hmutation, List.forall_mem_singleton, ← isBlank_reply_iff hgenerated,
      Bool.not_eq_true]
  · rw [texts_compressPatch, List.forall_mem_cons, List.forall_mem_singleton, and_self,
      ← isBlank_compression_iff, Bool.not_eq_true]

/-- A reply to which the condition applies. -/
theorem generated_texts_not_blank_alice :
    isBlank "hi" = false ∧ ∀ userName userText,
      (StOps.appendMutation (promptText (fun _ _ => "") "") userName "Alice" userText "hi").Ends
        fun mutation => ∀ text ∈ mutation.assistantTexts, isBlank text = false := by
  have hnot : normalizeModelInputText "hi".toList ∉ speakerPrefixes "Alice".toList := by
    decide +kernel
  refine ⟨by decide +kernel, fun userName userText => ?_⟩
  have h := generated_texts_not_blank (fun _ _ => "") "" "Alice" "hi" (by decide +kernel)
  exact (h.1 userName userText).imp fun mutation hiff => hiff.mpr hnot

/-- The name of the character makes an empty reply, and the label of a compression an empty
message. -/
theorem generated_texts_blank :
    isBlank "Alice:" = false ∧ isBlank "Summary:" = false ∧
      ¬(StOps.appendMutation (promptText (fun _ _ => "") "") "Bob" "Alice" "hi" "Alice:").Ends
        (fun mutation => ∀ text ∈ mutation.assistantTexts, isBlank text = false) ∧
      ¬∀ text ∈ (StOps.compressPatch (promptText (fun _ _ => "") "") 1 "" "Summary:").texts,
        isBlank text = false := by
  refine ⟨by decide +kernel, by decide +kernel, fun h => ?_, by decide +kernel⟩
  exact absurd (h "" "" _ List.mem_cons_self) (by decide +kernel)

end ImBridge
