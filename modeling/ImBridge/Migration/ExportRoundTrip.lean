import ImBridge.Migration.Export

/-!
# A chat that is imported and exported

Each line of a chat is split into a role, two texts and the object itself, and the export puts it
together again. The text that is shown instead of the message takes its place, the flag of the
system hides the one of the user, and what is not a text or not a flag is replaced. So a line comes
back with the same message and flags exactly if it has none of these.

## Main definitions

* `JsonLibrary.Rereads`: a value that is printed is read back
* `ExportRoundTrip.fields`: the message and the flags of a line
* `ExportRoundTrip.Plain`: the lines that come back as they were

## Main results

* `ExportRoundTrip.fields_exportObject`: what an exported line says
* `ExportRoundTrip.import_export_faithful`: import and export keep the messages and flags exactly if
  all lines are plain
* `ExportRoundTrip.hidden_message_rewritten`: a message that comes back without its text
-/

namespace ImBridge

def Json.isObject : Json → Bool
  | object _ => true
  | _ => false

/-- Texts and flags. -/
def Json.isScalar : Json → Bool
  | string _ => true
  | bool _ => true
  | _ => false

/-- What is printed of the value is read back as a value of its kind, with the same texts and flags.
-/
def JsonLibrary.Rereads (lib : JsonLibrary) (v : Json) : Prop :=
  ∃ v', lib.fromStr (lib.toText v) = some v' ∧ v'.isObject = v.isObject ∧
    ∀ key w, w.isScalar = true → v.get key = some w → v'.get key = some w

namespace ExportRoundTrip

open ImportChat Export

/-- The message, which is empty if there is none, and the flags, which are false if there are none.
-/
def fields (v : Json) : Json × Json × Json :=
  ((v.get "mes").getD (.string ""), (v.get "is_user").getD (.bool false),
    (v.get "is_system").getD (.bool false))

/-- The objects among the lines. -/
def objects (lib : JsonLibrary) (lines : List String) : List Json :=
  (lines.filterMap lib.fromStr).filter Json.isObject

/-- A line whose message is a text and whose flags are flags, not both set, and for which no other
text is shown. -/
structure Plain (v : Json) : Prop where
  mes : ∀ w, v.get "mes" = some w → ∃ s, w = .string s
  isUser : ∀ w, v.get "is_user" = some w → ∃ b, w = .bool b
  isSystem : ∀ w, v.get "is_system" = some w → ∃ b, w = .bool b
  flags : ¬ (flag v "is_user" = true ∧ flag v "is_system" = true)
  shown : ∀ s, prompt v = some s → s = original v

/-! ## One line -/

/-- What the export makes of a line. -/
def keptFields (v : Json) : Json × Json × Json :=
  (.string ((prompt v).getD (original v)), .bool (role v == .user), .bool (role v == .system))

theorem role_eq_user_iff (v : Json) :
    (role v == .user) = (flag v "is_user" && !flag v "is_system") := by
  unfold role
  cases flag v "is_system" <;> cases flag v "is_user" <;> rfl

theorem role_eq_system_iff (v : Json) : (role v == .system) = flag v "is_system" := by
  unfold role
  cases flag v "is_system" <;> cases flag v "is_user" <;> rfl

/-- A flag that is kept is absent or a flag. -/
theorem flag_eq_iff {v : Json} {key : String} :
    (v.get key).getD (.bool false) = .bool (flag v key) ↔
      ∀ w, v.get key = some w → ∃ b, w = .bool b := by
  unfold flag
  cases hget : v.get key with
  | none => simp
  | some w =>
    constructor
    · intro h w' hw'
      cases hw'
      exact ⟨_, h⟩
    · intro h
      obtain ⟨b, rfl⟩ := h w rfl
      rfl

theorem mes_eq_iff {v : Json} :
    (v.get "mes").getD (.string "") = .string (original v) ↔
      ∀ w, v.get "mes" = some w → ∃ s, w = .string s := by
  unfold original
  cases hget : v.get "mes" with
  | none => simp
  | some w =>
    constructor
    · intro h w' hw'
      cases hw'
      exact ⟨_, h⟩
    · intro h
      obtain ⟨s, rfl⟩ := h w rfl
      rfl

/-- A message that is kept is the text that is shown. -/
theorem shown_eq_iff {v : Json} :
    (v.get "mes").getD (.string "") = .string ((prompt v).getD (original v)) ↔
      (∀ w, v.get "mes" = some w → ∃ s, w = .string s) ∧
        ∀ s, prompt v = some s → s = original v := by
  cases hprompt : prompt v with
  | none =>
    rw [Option.getD_none, mes_eq_iff]
    exact ⟨fun h => ⟨h, nofun⟩, fun h => h.1⟩
  | some s =>
    rw [Option.getD_some]
    constructor
    · intro h
      -- the message is this text, so it is its own original
      have horiginal : original v = s := by
        unfold original
        cases hget : v.get "mes" with
        | none =>
          rw [hget] at h
          exact Json.string.inj h
        | some w =>
          rw [hget] at h
          rw [show w = .string s from h]
          rfl
      refine ⟨mes_eq_iff.mp (by rw [horiginal]; exact h), fun s' hs' => ?_⟩
      cases hs'
      exact horiginal.symm
    · rintro ⟨hmes, hshown⟩
      rw [hshown s rfl]
      exact mes_eq_iff.mpr hmes

/-- **A line is kept exactly if it is plain.** -/
theorem keptFields_eq_iff (v : Json) : keptFields v = fields v ↔ Plain v := by
  rw [keptFields, fields, Prod.mk.injEq, Prod.mk.injEq, role_eq_user_iff, role_eq_system_iff,
    eq_comm, shown_eq_iff, eq_comm (a := Json.bool (flag v "is_system")), flag_eq_iff]
  constructor
  · rintro ⟨⟨hmes, hshown⟩, huser, hsystem⟩
    have hflags : ¬ (flag v "is_user" = true ∧ flag v "is_system" = true) := by
      rintro ⟨hu, hs⟩
      rw [hu, hs] at huser
      -- the flag would be kept as false although it is set
      have hget : (v.get "is_user").getD (.bool false) = .bool false := huser.symm
      unfold flag at hu
      cases hv : v.get "is_user" with
      | none =>
        rw [hv] at hu
        cases hu
      | some w =>
        rw [hv] at hu hget
        rw [show w = .bool false from hget] at hu
        cases hu
    have huser' : (v.get "is_user").getD (.bool false) = .bool (flag v "is_user") := by
      rw [← huser]
      cases hs : flag v "is_system" with
      | false => simp
      | true =>
        cases hu : flag v "is_user" with
        | false => rfl
        | true => exact absurd ⟨hu, hs⟩ hflags
    exact ⟨hmes, flag_eq_iff.mp huser', hsystem, hflags, hshown⟩
  · intro h
    refine ⟨⟨h.mes, h.shown⟩, ?_, h.isSystem⟩
    rw [flag_eq_iff.mpr h.isUser]
    cases hs : flag v "is_system" with
    | false => simp
    | true =>
      cases hu : flag v "is_user" with
      | false => rfl
      | true => exact absurd ⟨hu, hs⟩ h.flags

/-! ## The lines of a conversation -/

section Lines

variable {lib : JsonLibrary}

/-- The exported object is one of its kind, and says what is kept. -/
theorem fields_exportObject {raw : Json} (h : lib.Rereads raw) :
    (exportObject lib (contentOf lib raw)).isObject = raw.isObject ∧
      (raw.isObject = true →
        (exportObject lib (contentOf lib raw)).get "mes" =
          some (.string ((prompt raw).getD (original raw))) ∧
        (exportObject lib (contentOf lib raw)).get "is_user" = some (.bool (role raw == .user)) ∧
        (exportObject lib (contentOf lib raw)).get "is_system" =
          some (.bool (role raw == .system))) := by
  obtain ⟨v, hread, hkind, -⟩ := h
  have hsource : ((contentOf lib raw).sourceRawJson.bind lib.fromStr).getD (.object []) = v := by
    show ((some (lib.toText raw)).bind lib.fromStr).getD (.object []) = v
    rw [Option.bind_some, hread, Option.getD_some]
  rw [← hkind]
  cases v with
  | object fields =>
    obtain ⟨⟨fields', hobject⟩, hmes, huser, hsystem, -⟩ := get_exportObject lib hsource
    exact ⟨by rw [hobject]; rfl, fun _ => ⟨hmes, huser, hsystem⟩⟩
  | _ =>
    unfold exportObject
    rw [hsource]
    exact ⟨rfl, nofun⟩

/-- A line of the export is read as an object if the line of the import was one, and then it says
what is kept. -/
theorem exists_reread {raw : Json} (hraw : lib.Rereads raw)
    (hexport : lib.Rereads (exportObject lib (contentOf lib raw))) :
    ∃ v, lib.fromStr (lib.toText (exportObject lib (contentOf lib raw))) = some v ∧
      v.isObject = raw.isObject ∧ (raw.isObject = true → fields v = keptFields raw) := by
  obtain ⟨hkind, hfields⟩ := fields_exportObject hraw
  obtain ⟨v, hread, hkind', hscalars⟩ := hexport
  refine ⟨v, hread, hkind'.trans hkind, fun hobject => ?_⟩
  obtain ⟨hmes, huser, hsystem⟩ := hfields hobject
  rw [fields, hscalars _ _ rfl hmes, hscalars _ _ rfl huser, hscalars _ _ rfl hsystem]
  rfl

theorem map_fields_objects {raws : List Json}
    (h : ∀ raw ∈ raws, lib.Rereads raw ∧ lib.Rereads (exportObject lib (contentOf lib raw))) :
    (objects lib (raws.map fun raw =>
        lib.toText (exportObject lib (contentOf lib raw)))).map fields =
      (raws.filter Json.isObject).map keptFields := by
  induction raws with
  | nil => rfl
  | cons raw raws ih =>
    obtain ⟨hraw, hexport⟩ := h raw List.mem_cons_self
    obtain ⟨v, hread, hkind, hfields⟩ := exists_reread hraw hexport
    have ih := ih fun r hr => h r (List.mem_cons_of_mem _ hr)
    unfold objects at ih ⊢
    rw [List.map_cons, List.filterMap_cons_some hread]
    by_cases hobject : raw.isObject = true
    · rw [List.filter_cons_of_pos hobject, List.filter_cons_of_pos (hkind.trans hobject),
        List.map_cons, List.map_cons, hfields hobject, ih]
    · -- a line that is not an object is none after the export either
      have hnot : ¬ v.isObject = true := by rw [hkind]; exact hobject
      rw [List.filter_cons_of_neg hobject, List.filter_cons_of_neg hnot, ih]

/-- The lines of a conversation that was imported and not changed since. -/
theorem exportLines_importChat {x : ChatImport} {db db' : ChatDb} {id newId title : String}
    {count : ℕ} (h : (importChat lib x).run db = .ok ((id, count), db')) :
    (exportLines lib (db'.archiveOf id) (db'.messagesOf id) newId title).drop 1 =
      ((x.chat.lines.drop 1).filterMap lib.fromStr).map fun raw =>
        lib.toText (exportObject lib (contentOf lib raw)) := by
  obtain ⟨-, hcontent, hactive⟩ := messagesOf_importChat h
  have hall : (db'.messagesOf id).filter (·.status == .active) = db'.messagesOf id :=
    List.filter_eq_self.mpr fun r hr => beq_iff_eq.mpr (hactive r hr)
  have hmap : ∀ messages : List MessageRow,
      (messages.map fun m => lib.toText (exportObject lib (content m))) =
        (messages.map content).map fun c => lib.toText (exportObject lib c) := by
    intro messages
    rw [List.map_map]
    rfl
  rw [exportLines, List.drop_one, List.tail_cons, hall, hmap, hcontent, List.map_map]
  rfl

end Lines

/-- **Import and export keep the messages and flags exactly if all lines are plain.** -/
theorem import_export_faithful {lib : JsonLibrary} {x : ChatImport} {db db' : ChatDb}
    {id newId title : String} {count : ℕ}
    (hlib : ∀ line ∈ x.chat.lines.drop 1, ∀ raw, lib.fromStr line = some raw →
      lib.Rereads raw ∧ lib.Rereads (exportObject lib (contentOf lib raw)))
    (h : (importChat lib x).run db = .ok ((id, count), db')) :
    (objects lib ((exportLines lib (db'.archiveOf id) (db'.messagesOf id) newId title).drop 1)).map
        fields = (objects lib (x.chat.lines.drop 1)).map fields ↔
      ∀ v ∈ objects lib (x.chat.lines.drop 1), Plain v := by
  have hraws : ∀ raw ∈ (x.chat.lines.drop 1).filterMap lib.fromStr,
      lib.Rereads raw ∧ lib.Rereads (exportObject lib (contentOf lib raw)) := by
    intro raw hraw
    obtain ⟨line, hline, hread⟩ := List.mem_filterMap.mp hraw
    exact hlib line hline raw hread
  rw [exportLines_importChat h, map_fields_objects hraws]
  show (objects lib (x.chat.lines.drop 1)).map keptFields = _ ↔ _
  rw [List.map_inj_left]
  exact forall₂_congr fun v _ => keptFields_eq_iff v

/-! ## A hidden message of the user -/

section Reading

variable {known : List Json} (h : (known.map Json.text).Nodup) {v : Json} (hv : v ∈ known)
include h hv

theorem fromStr_reading : (JsonLibrary.reading known).fromStr v.text = some v :=
  Json.readFrom_text h hv

theorem rereads_reading : (JsonLibrary.reading known).Rereads v :=
  ⟨v, fromStr_reading h hv, rfl, fun _ _ _ hget => hget⟩

/-- What is exported of a line that the library reads. -/
theorem exportObject_reading {fields : List (String × Json)} (hobject : v = .object fields) :
    exportObject (.reading known) (contentOf (.reading known) v) =
      .object (setField "is_system" (.bool (role v == .system))
        (setField "is_user" (.bool (role v == .user))
          (setField "mes" (.string ((prompt v).getD (original v))) fields))) := by
  have hsource : ((contentOf (.reading known) v).sourceRawJson.bind
      (JsonLibrary.reading known).fromStr).getD (.object []) = .object fields := by
    rw [← hobject]
    show ((JsonLibrary.reading known).fromStr v.text).getD _ = v
    rw [fromStr_reading h hv]
    rfl
  unfold exportObject
  rw [hsource]
  rfl

end Reading

/-- A message of the user that is hidden and shows an empty text, as it is imported and as it is
exported. -/
def hidden : Json :=
  .object [("mes", .string "Hello"), ("is_user", .bool true), ("is_system", .bool true),
    ("extra", .object [("display_text", .string "")])]

def hiddenExported : Json :=
  .object [("mes", .string ""), ("is_user", .bool false), ("is_system", .bool true),
    ("extra", .object [("display_text", .string "")])]

/-- A JSON library that reads these, and a plain line of each side. -/
def someLines : List Json := [chatHeader, userLine, characterLine, hidden, hiddenExported]

def someLibrary : JsonLibrary := .reading someLines

theorem nodup_someLines : (someLines.map Json.text).Nodup := by decide +kernel

/-- The lines are read and exported as values that the library knows. -/
theorem rereads_some : ∀ raw ∈ [userLine, characterLine, hidden], someLibrary.Rereads raw ∧
    someLibrary.Rereads (exportObject someLibrary (contentOf someLibrary raw)) := by
  have hrereads : ∀ v ∈ someLines, someLibrary.Rereads v := fun v => rereads_reading nodup_someLines
  have huser : exportObject someLibrary (contentOf someLibrary userLine) = userLine :=
    exportObject_reading (v := userLine) nodup_someLines (by simp [someLines]) rfl
  have hcharacter : exportObject someLibrary (contentOf someLibrary characterLine) =
      characterLine :=
    exportObject_reading (v := characterLine) nodup_someLines (by simp [someLines]) rfl
  have hhidden : exportObject someLibrary (contentOf someLibrary hidden) = hiddenExported :=
    exportObject_reading (v := hidden) nodup_someLines (by simp [someLines]) rfl
  simp only [List.forall_mem_cons, huser, hcharacter, hhidden]
  refine ⟨⟨?_, ?_⟩, ⟨?_, ?_⟩, ⟨?_, ?_⟩, nofun⟩ <;> exact hrereads _ (by simp [someLines])

theorem filterMap_text {raws : List Json} (h : ∀ raw ∈ raws, raw ∈ someLines) :
    (raws.map Json.text).filterMap someLibrary.fromStr = raws := by
  induction raws with
  | nil => rfl
  | cons raw raws ih =>
    have hread : someLibrary.fromStr raw.text = some raw :=
      fromStr_reading nodup_someLines (h raw (by simp))
    rw [List.map_cons, List.filterMap_cons_some hread, ih fun r hr => h r (by simp [hr])]

/-- **A hidden message of the user is rewritten**: it comes back without its text, and no longer as
one of the user. -/
theorem hidden_message_rewritten :
    (∀ raw ∈ [characterLine, hidden], someLibrary.Rereads raw ∧
      someLibrary.Rereads (exportObject someLibrary (contentOf someLibrary raw))) ∧
    ∃ id count db, (importChat someLibrary
        (chatImport "chat" "chat.jsonl" [chatHeader, characterLine, hidden])).run seraphinaDb =
        .ok ((id, count), db) ∧
      (objects someLibrary [characterLine.text, hidden.text]).map fields =
        [(.string "Welcome", .bool false, .bool false), (.string "Hello", .bool true, .bool true)] ∧
      (objects someLibrary ((exportLines someLibrary (db.archiveOf id) (db.messagesOf id) "new"
        "title").drop 1)).map fields =
        [(.string "Welcome", .bool false, .bool false), (.string "", .bool false, .bool true)] := by
  have himport : ((importChat someLibrary (chatImport "chat" "chat.jsonl"
      [chatHeader, characterLine, hidden])).run seraphinaDb).map (fun p => p.1.2) = .ok 2 := by
    decide +kernel
  obtain ⟨⟨⟨id, count⟩, db⟩, hrun, -⟩ := exists_ok_of_map_eq_ok himport
  have hread : ([characterLine, hidden].map Json.text).filterMap someLibrary.fromStr =
      [characterLine, hidden] := filterMap_text (by simp [someLines])
  have hrereads := fun raw hraw => rereads_some raw (List.mem_cons_of_mem _ hraw)
  refine ⟨hrereads, id, count, db, hrun, ?_, ?_⟩
  · show ((([characterLine, hidden].map Json.text).filterMap
      someLibrary.fromStr).filter _).map _ = _
    rw [hread]
    rfl
  · rw [exportLines_importChat hrun]
    show (objects _ ((([characterLine, hidden].map Json.text).filterMap _).map _)).map fields = _
    rw [hread, map_fields_objects hrereads]
    rfl

theorem plain_messageLine (name : String) (isUser : Bool) (mes : String) :
    Plain (messageLine name isUser mes) where
  mes _ hw := ⟨mes, (Option.some.inj hw).symm⟩
  isUser _ hw := ⟨isUser, (Option.some.inj hw).symm⟩
  isSystem _ hw := ⟨false, (Option.some.inj hw).symm⟩
  flags h := Bool.false_ne_true h.2
  shown := nofun

/-- Two plain messages come back as they were. -/
theorem import_export_faithful_plain :
    ∃ id count db, (importChat someLibrary
        (chatImport "chat" "chat.jsonl" [chatHeader, userLine, characterLine])).run seraphinaDb =
        .ok ((id, count), db) ∧
      (objects someLibrary ((exportLines someLibrary (db.archiveOf id) (db.messagesOf id) "new"
        "title").drop 1)).map fields =
          (objects someLibrary [userLine.text, characterLine.text]).map fields := by
  have himport : ((importChat someLibrary (chatImport "chat" "chat.jsonl"
      [chatHeader, userLine, characterLine])).run seraphinaDb).map (fun p => p.1.2) = .ok 2 := by
    decide +kernel
  obtain ⟨⟨⟨id, count⟩, db⟩, hrun, -⟩ := exists_ok_of_map_eq_ok himport
  have hread : ([userLine, characterLine].map Json.text).filterMap someLibrary.fromStr =
      [userLine, characterLine] := filterMap_text (by simp [someLines])
  have hraw : ∀ raw, raw ∈ [userLine, characterLine] → raw ∈ [userLine, characterLine, hidden] :=
    fun raw h => List.mem_append_left [hidden] h
  refine ⟨id, count, db, hrun, (import_export_faithful ?_ hrun).mpr ?_⟩
  · intro line hline raw hline'
    refine rereads_some raw (hraw raw ?_)
    rw [← hread]
    exact List.mem_filterMap.mpr ⟨line, hline, hline'⟩
  · intro v hv
    have hmem : v ∈ ([userLine, characterLine].map Json.text).filterMap someLibrary.fromStr :=
      (List.mem_filter.mp hv).1
    rw [hread] at hmem
    rcases List.mem_cons.mp hmem with rfl | hmem
    · exact plain_messageLine _ _ _
    · rw [List.mem_singleton.mp hmem]
      exact plain_messageLine _ _ _

end ExportRoundTrip

end ImBridge
