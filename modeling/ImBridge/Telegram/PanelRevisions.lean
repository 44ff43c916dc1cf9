import ImBridge.Interleaving.Schedule
import ImBridge.Telegram.PanelStore

/-!
# Revisions of panels

A panel is replaced in steps: the replacement is claimed for the revision that is shown, it is sent,
and then it is completed, which moves the panel to the next revision. Any number of tasks may do so
side by side, and several of them may have claimed one revision. Only one of these completes it.

## Main definitions

* `Planned`: the next place of a panel, as it is planned
* `PanelStoreCall.OfReplace`: the calls that replace panels
* `completes`, `completions`: the revisions of a panel that were completed

## Main results

* `revision?_effect`: what a call does to the revision of a panel
* `panel_revision`: a revision is completed at most once, and each completion is the next revision
-/

namespace ImBridge

open Interleaving Relational PanelTx PanelStore

variable {digest : String → String} {panelId : String} {db db' : PanelDb}

/-- The revision of the panel. -/
def PanelDb.revision? (db : PanelDb) (panelId : String) : Option ℤ :=
  (db.slot? panelId).map (·.revision)

/-- The next place of a panel was planned for the one that is shown. -/
def Planned (slot : PanelSlot) (expectedRevision : UInt64) (nextSlot : PanelSlot) : Prop :=
  ∃ now currentSlot nextPanel panelId accountId numericBotId chatId ttlSecs panel,
    planEffect now currentSlot nextPanel panelId accountId numericBotId chatId ttlSecs =
      (.replace slot expectedRevision panel, nextSlot)

/-- The calls that replace panels, and those on their buttons. -/
def PanelStoreCall.OfReplace : PanelStoreCall → Prop
  | saveSlot _ => False
  | completePanelReplace _ slot expectedRevision nextSlot =>
    Planned slot expectedRevision nextSlot ∧ slot.revision.toNat < 2 ^ 63 - 1
  | _ => True

/-- The same for all calls. -/
def PanelCall.OfReplace : PanelCall → Prop
  | store c => c.OfReplace
  | _ => True

/-- The revision of the panel that a reply completes. -/
def completes (panelId : String) : (c : PanelCall) → c.Reply → Option UInt64
  | .store (.completePanelReplace _ slot expectedRevision _), .ok () =>
    if slot.panelId = panelId then some expectedRevision else none
  | _, _ => none

/-- The revisions of the panel that were completed, in order. -/
def completions {A : Type} (panelId : String) (trace : List (Event panelCalls A)) : List UInt64 :=
  trace.filterMap fun e => completes panelId e.call e.reply

/-! ## One call -/

/-- The calls on effects leave the places of panels alone. -/
theorem moves_slots (c : PanelStoreCall) (hsave : ∀ slot, c ≠ .saveSlot slot)
    (hcomplete : ∀ effectId slot expectedRevision nextSlot,
      c ≠ .completePanelReplace effectId slot expectedRevision nextSlot) :
    Transaction.Moves (fun db db' : PanelDb => db'.slots = db.slots) (c.transaction digest) := by
  apply PanelStoreCall.moves_transaction
  · exact fun _ => rfl
  · exact fun _ _ _ h h' => h'.trans h
  · intro row db u db' h
    obtain ⟨effects, -, rfl⟩ := run_insertEffect_eq_ok.mp h
    rfl
  · intro p status error _ db u db' h
    obtain ⟨-, rfl⟩ := run_changeEffect_eq_ok.mp h
    rfl
  · exact fun slot hc => absurd hc (hsave slot)
  · exact fun _ _ _ _ hc => absurd hc (hcomplete _ _ _ _)

theorem toNat_of_encodeRevision {revision : UInt64} {encoded : ℤ}
    (h : encodeRevision revision = .ok encoded) : encoded = revision.toNat := by
  unfold encodeRevision at h
  split at h
  · exact (Except.ok.inj h).symm
  · cases h

/-- A completed replacement moves the place of the panel from the revision it was claimed for to
the next one. -/
theorem run_completePanelReplace_eq_ok {effectId : String} {slot nextSlot : PanelSlot}
    {expectedRevision : UInt64} {u : Unit}
    (h : (completePanelReplace effectId slot expectedRevision nextSlot).run db = .ok (u, db')) :
    db.slots.affected (isAt slot expectedRevision.toNat) = 1 ∧
      db'.slots = db.slots.update (isAt slot expectedRevision.toNat)
        (showNext nextSlot.revision.toNat nextSlot) := by
  obtain ⟨revision, hrevision, h₁⟩ := Transaction.run_lift_bind_eq_ok.mp h
  obtain ⟨expected, hexpected, h₂⟩ := Transaction.run_lift_bind_eq_ok.mp h₁
  obtain ⟨_, _, hslot, heffect⟩ := Transaction.run_bind_eq_ok.mp h₂
  obtain ⟨haffected, rfl⟩ := run_changeSlot_eq_ok.mp hslot
  obtain ⟨-, rfl⟩ := run_changeEffect_eq_ok.mp heffect
  rw [← toNat_of_encodeRevision hrevision, ← toNat_of_encodeRevision hexpected]
  exact ⟨haffected, rfl⟩

/-- The revision of the completed panel, and those of other ones. -/
theorem revision?_of_completed {slot nextSlot : PanelSlot} {revision : ℤ}
    (haffected : db.slots.affected (isAt slot revision) = 1)
    (hslots : db'.slots = db.slots.update (isAt slot revision)
      (showNext nextSlot.revision.toNat nextSlot)) :
    db.revision? slot.panelId = some revision ∧
      db'.revision? slot.panelId = some nextSlot.revision.toNat ∧
      ∀ panelId, slot.panelId ≠ panelId → db'.revision? panelId = db.revision? panelId := by
  have hkey : ∀ r, isAt slot revision r = true → (r.panelId == slot.panelId) = true := by
    intro r hr
    simp only [isAt, Bool.and_eq_true] at hr
    exact hr.1.1.1.1.1
  have hafter : ∀ panelId, db'.slot? panelId = (db.slot? panelId).map
      ((showNext nextSlot.revision.toNat nextSlot).on (isAt slot revision)) := by
    intro panelId
    rw [PanelDb.slot?, hslots]
    exact Table.find?_update fun _ => rfl
  obtain ⟨r, hfind, hr⟩ :=
    (Table.affected_eq_one_iff (pins_panelId slot.panelId) db.slots hkey).mp haffected
  have hslot : db.slot? slot.panelId = some r := hfind
  refine ⟨?_, ?_, fun panelId hne => ?_⟩
  · have hrevision : r.revision = revision := by
      simp only [isAt, Bool.and_eq_true, beq_iff_eq] at hr
      exact hr.1.2
    simp [PanelDb.revision?, hslot, hrevision]
  · simp [PanelDb.revision?, hafter, hslot, Table.Change.on, hr, showNext]
  · simp only [PanelDb.revision?, hafter, Option.map_map]
    cases hother : db.slot? panelId with
    | none => rfl
    | some r' =>
      -- the place of another panel is not the one that is completed
      have hnot : isAt slot revision r' = false := by
        have hid := List.find?_some hother
        simp only [beq_iff_eq] at hid
        simp [isAt, hid, Ne.symm hne]
      simp [Table.Change.on, hnot]

theorem completes_error (c : PanelStoreCall) (e : AppError) :
    completes panelId (.store c) (.error e) = none := by
  cases c <;> rfl

variable {c : PanelCall}

/-- **What a call does to the revision of a panel**: a completion finds the revision it was claimed
for and leaves the next one, and every other call keeps it. -/
theorem revision?_effect (panelId : String) {r : c.Reply} (hc : c.OfReplace)
    (h : c.Effect digest db r db') :
    (∀ expected, completes panelId c r = some expected →
      db.revision? panelId = some (expected.toNat : ℤ) ∧
        db'.revision? panelId = some (expected.toNat + 1 : ℤ)) ∧
      (completes panelId c r = none → db'.revision? panelId = db.revision? panelId) := by
  have hkeep : ∀ {x : Option UInt64}, x = none → db'.slots = db.slots →
      (∀ expected, x = some expected → db.revision? panelId = some (expected.toNat : ℤ) ∧
        db'.revision? panelId = some (expected.toNat + 1 : ℤ)) ∧
      (x = none → db'.revision? panelId = db.revision? panelId) := by
    rintro x rfl hslots
    refine ⟨fun expected hx => (by cases hx), fun _ => ?_⟩
    rw [PanelDb.revision?, PanelDb.slot?, hslots]
    rfl
  cases c with
  | unixTimestamp | newId | randomBytes => exact hkeep rfl (congrArg PanelDb.slots h)
  | store c =>
    cases r with
    | error e =>
      refine hkeep (completes_error c e) ?_
      rw [PanelCall.eq_of_effect_error h]
    | ok a =>
      have hrun := PanelCall.run_of_effect_ok h
      have hother : (∀ effectId slot expectedRevision nextSlot,
          c ≠ .completePanelReplace effectId slot expectedRevision nextSlot) →
          db'.slots = db.slots := fun hne =>
        moves_slots c (fun slot hsave => by subst hsave; exact hc) hne db a db' hrun
      cases c with
      | completePanelReplace effectId slot expectedRevision nextSlot =>
        obtain ⟨haffected, hslots⟩ := run_completePanelReplace_eq_ok hrun
        obtain ⟨hbefore, hafter, hothers⟩ := revision?_of_completed haffected hslots
        obtain ⟨⟨_, _, _, _, _, _, _, _, _, hplan⟩, hlt⟩ := hc
        obtain ⟨-, -, hexpected, hnext⟩ := planEffect_replace hplan
        rw [hnext, toNat_nextRevision hlt, ← hexpected] at hafter
        by_cases hid : slot.panelId = panelId
        · subst hid
          simp only [completes, if_true, Option.some.injEq, reduceCtorEq, false_imp_iff, and_true]
          rintro expected rfl
          exact ⟨hbefore, by simpa using hafter⟩
        · simp only [completes, hid, if_false]
          exact ⟨fun _ hnone => (by cases hnone), fun _ => hothers panelId hid⟩
      | _ => exact hkeep rfl (hother (by simp))

/-! ## Whole runs -/

/-- Only calls that replace panels, or are on buttons. -/
def replacing (digest : String → String) (A : Type) : Semantics panelCalls A PanelDb :=
  (panelSemantics digest A).restrict fun _ _ c _ _ => c.OfReplace

/-- The revisions that were completed grow, and all are behind the one that is shown. -/
structure RevisionsKept {A : Type} (panelId : String) (start : PanelDb)
    (m : Moment panelCalls A PanelDb) : Prop where
  growing : (completions panelId m.trace).Pairwise (·.toNat < ·.toNat)
  behind : ∀ e ∈ completions panelId m.trace, ∀ revision,
    m.world.revision? panelId = some revision → (e.toNat : ℤ) < revision
  counted : m.world.revision? panelId =
    (start.revision? panelId).map fun first : ℤ => first + (completions panelId m.trace).length

variable {τ : Type} {Out : τ → Type} {body : (j : τ) → Program panelCalls (Out j)}
  {P : Pool panelCalls PanelDb Out}

theorem RevisionsKept.after {A : Type} {start : PanelDb} {m : Moment panelCalls A PanelDb} {t : A}
    {r : c.Reply} (hm : RevisionsKept panelId start m) (hc : c.OfReplace)
    (h : c.Effect digest m.world r db') : RevisionsKept panelId start (m.after t c r db') := by
  obtain ⟨hcompleted, hkept⟩ := revision?_effect panelId hc h
  have htrace : completions panelId (m.after t c r db').trace =
      completions panelId m.trace ++ (completes panelId c r).toList := by
    simp only [completions, Moment.after_trace, List.filterMap_append]
    cases hcr : completes panelId c r <;> simp [hcr]
  cases hcr : completes panelId c r with
  | none =>
    rw [hcr, Option.toList_none, List.append_nil] at htrace
    have hrevision := hkept hcr
    refine ⟨?_, ?_, ?_⟩
    · rw [htrace]
      exact hm.growing
    · rw [htrace, Moment.after_world, hrevision]
      exact hm.behind
    · rw [htrace, Moment.after_world, hrevision]
      exact hm.counted
  | some expected =>
    rw [hcr, Option.toList_some] at htrace
    obtain ⟨hbefore, hafter⟩ := hcompleted expected hcr
    -- all earlier ones are behind the revision that is completed now
    have hlt : ∀ e ∈ completions panelId m.trace, e.toNat < expected.toNat := by
      intro e he
      exact_mod_cast hm.behind e he _ hbefore
    refine ⟨?_, ?_, ?_⟩
    · rw [htrace, List.pairwise_append]
      refine ⟨hm.growing, List.pairwise_singleton _ _, fun e he e' he' => ?_⟩
      rw [List.mem_singleton.mp he']
      exact hlt e he
    · rw [htrace]
      intro e he revision hrevision
      rw [Moment.after_world, hafter, Option.some.injEq] at hrevision
      rcases List.mem_append.mp he with he | he
      · have := hlt e he
        omega
      · rw [List.mem_singleton.mp he]
        omega
    · rw [htrace, Moment.after_world, hafter]
      have hcount := hm.counted
      rw [hbefore] at hcount
      obtain ⟨first, hfirst, heq⟩ := Option.map_eq_some_iff.mp hcount.symm
      rw [hfirst, Option.map_some, List.length_append, List.length_singleton, ← heq]
      push_cast
      rw [Int.add_assoc]

theorem revisionsKept_reachable
    (h : Pool.Reachable (replacing digest (ℕ × τ)) body db P) (panelId : String) :
    RevisionsKept panelId db P.moment := by
  refine Pool.steps_invariant ?_ ?_ h ⟨List.Pairwise.nil, by simp [completions, Pool.start], ?_⟩
  · rintro t m c r w ⟨heffect, hc⟩ hm
    exact hm.after hc heffect
  · rintro m w hdrift _
    cases hdrift
  · simp [Pool.start, completions]

/-- **A revision of a panel is completed at most once**, each completion moves the panel to the next
revision and nothing else does, and a completion that fails changes nothing. -/
theorem panel_revision (h : Pool.Reachable (replacing digest (ℕ × τ)) body db P)
    (panelId : String) :
    (completions panelId P.moment.trace).Nodup ∧
      P.moment.world.revision? panelId =
        ((db.revision? panelId).map fun first : ℤ =>
          first + (completions panelId P.moment.trace).length) ∧
      (∀ (c : PanelCall) (r : c.Reply) (db' : PanelDb), c.OfReplace →
        c.Effect digest P.moment.world r db' →
          (∀ expected, completes panelId c r = some expected →
            P.moment.world.revision? panelId = some (expected.toNat : ℤ) ∧
              db'.revision? panelId = some (expected.toNat + 1 : ℤ)) ∧
            (completes panelId c r = none →
              db'.revision? panelId = P.moment.world.revision? panelId)) ∧
      ∀ effectId slot expectedRevision nextSlot e db',
        (PanelCall.store (.completePanelReplace effectId slot expectedRevision nextSlot)).Effect
          digest P.moment.world (.error e) db' → db' = P.moment.world := by
  have hkept := revisionsKept_reachable h panelId
  refine ⟨hkept.growing.imp fun hlt heq => ?_, hkept.counted, ?_, ?_⟩
  · rw [heq] at hlt
    exact Nat.lt_irrefl _ hlt
  · intro c r db' hc heffect
    exact revision?_effect panelId hc heffect
  · intro effectId slot expectedRevision nextSlot e db' heffect
    exact PanelCall.eq_of_effect_error heffect

/-! ## Two tasks that replace one panel -/

section Race

/-- A home panel that is shown. -/
def shownSlot : PanelSlot :=
  { panelId := "panel-1", accountId := "alice", numericBotId := 7, chatId := -100, messageId := 1
    kind := .home, revision := 0, active := true, expiresAtUnix := 600 }

/-- The next place of the panel, to show one of this kind. -/
def nextOfShown (kind : PanelKind) : PanelSlot :=
  (planEffect 0 (some shownSlot) (newPanel kind "" []) "" "" 0 0 600).2

theorem planned_nextOfShown (kind : PanelKind) : Planned shownSlot 0 (nextOfShown kind) :=
  ⟨0, some shownSlot, newPanel kind "" [], "", "", 0, 0, 600, _, rfl⟩

/-- The calls of a task that replaces the panel, by one of this kind. -/
def replaceCalls (effectId : String) (kind : PanelKind) : List PanelCall :=
  [.store (.claimPanelRevision effectId shownSlot 0 (newPanel kind "" []) (nextOfShown kind)),
    .store (.markPanelRevisionSending effectId shownSlot 0),
    .store (.completePanelReplace effectId shownSlot 0 (nextOfShown kind))]

theorem ofReplace_of_mem_replaceCalls {effectId : String} {kind : PanelKind}
    (h : c ∈ replaceCalls effectId kind) : c.OfReplace := by
  simp only [replaceCalls, List.mem_cons, List.not_mem_nil, or_false] at h
  rcases h with rfl | rfl | rfl
  · trivial
  · trivial
  · exact ⟨planned_nextOfShown kind, by decide⟩

/-- The calls of two such tasks. -/
def racingCalls : List PanelCall := replaceCalls "effect-1" .help ++ replaceCalls "effect-2" .status

def actRacing (_ : Unit) (_ : ℕ × PanelCall) (m : Moment panelCalls (ℕ × PanelCall) PanelDb)
    (c : PanelCall) : Option (c.Reply × PanelDb) :=
  if c ∈ racingCalls then c.act id m.world else none

/-- Both tasks claim the revision and send their panels before the first one completes. -/
def race : List (Move PanelCall Unit) :=
  (racingCalls.map fun c => Move.spawn c) ++ [0, 3, 1, 4, 2, 5].map fun i => Move.exec i ()

/-- Two tasks that have claimed one revision: it is completed once. -/
theorem panel_revision_race :
    ∃ P : Pool panelCalls PanelDb PanelCall.Reply,
      Pool.Reachable (replacing id (ℕ × PanelCall)) askPanel
        ((saveSlot shownSlot).commit PanelDb.empty).2 P ∧
      completions "panel-1" P.moment.trace = [0] ∧
      P.moment.world.revision? "panel-1" = some 1 := by
  have hrun : ((Pool.start ((saveSlot shownSlot).commit PanelDb.empty).2).follow actRacing askPanel
      race).map (fun P => completions "panel-1" P.moment.trace) = some [0] := by
    decide +kernel
  obtain ⟨P, hP, hcompletions⟩ := Option.map_eq_some_iff.mp hrun
  have hreachable : Pool.Reachable (replacing id (ℕ × PanelCall)) askPanel
      ((saveSlot shownSlot).commit PanelDb.empty).2 P := by
    refine Pool.steps_of_follow (fun _ _ m c r w hact => ?_) hP
    unfold actRacing at hact
    split at hact
    · rename_i hmem
      exact ⟨PanelCall.effect_of_act hact, (List.mem_append.mp hmem).elim
        ofReplace_of_mem_replaceCalls ofReplace_of_mem_replaceCalls⟩
    · cases hact
  have hstart : (((saveSlot shownSlot).commit PanelDb.empty).2).revision? "panel-1" = some 0 := by
    decide +kernel
  have hrevision := (panel_revision hreachable "panel-1").2.1
  rw [hstart, hcompletions] at hrevision
  exact ⟨P, hreachable, hcompletions, hrevision⟩

end Race

end ImBridge
