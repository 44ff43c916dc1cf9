import Mathlib.Data.Finmap
import ImBridge.Bridge.PollerOwnership

/-!
# The registry of poller ownership

The registry records for each bot who owns it and in which epoch, and which runtime is bound to it.
The two maps are changed by different calls: ownership by the one-time bootstrap and by transfers,
bindings by runtimes that claim and release. A fence passes only if both maps agree with it.

## Main definitions

* `MemoryPollerRegistry` with its methods, and `SharedMemoryPollerRegistry.assertFence`
* `RegistryCall`, `MemoryPollerRegistry.after`: the calls on a registry, and the registry after
  a sequence of them

## Main results

* `MemoryPollerRegistry.Extends`: what every call keeps, and `after_extends` for sequences
* `poller_exclusivity`: one fence at a time, one bootstrap, and no way back to an older epoch
-/

namespace ImBridge

structure PollerOwnershipRecord where
  telegramBotId : ℤ
  owner : PollerOwner
  epoch : ℕ
  deriving DecidableEq, Repr

inductive PollerError
  | bootstrapClosed
  | notRegistered
  | notOwner
  | epochMismatch
  | invalidBotId
  | registryUnavailable
  | conflict
  | lifecycleInvalid
  deriving DecidableEq, Repr

def PollerError.asStr : PollerError → String
  | bootstrapClosed => "poller bootstrap closed"
  | notRegistered => "poller not registered for numeric bot id"
  | notOwner => "poller not owner for numeric bot id"
  | epochMismatch => "poller epoch mismatch for numeric bot id"
  | invalidBotId => "invalid numeric bot id"
  | registryUnavailable => "poller ownership registry unavailable"
  | conflict => "poller ownership conflict"
  | lifecycleInvalid => "poller runtime lifecycle is not writable"

def PollerLifecycle.canOwn : PollerLifecycle → Bool
  | starting | running => true
  | draining | stopped => false

def PollerLifecycle.acceptsWrites : PollerLifecycle → Bool
  | running => true
  | starting | draining | stopped => false

def PollerLifecycle.beginDraining : PollerLifecycle → Except PollerError PollerLifecycle
  | starting | running | draining => .ok .draining
  | stopped => .error .lifecycleInvalid

def PollerLifecycle.markStopped : PollerLifecycle → Except PollerError PollerLifecycle
  | draining | stopped => .ok .stopped
  | starting | running => .error .lifecycleInvalid

/-- The identity of a runtime that is bound to one epoch of the ownership of a bot. -/
structure PollerRuntimeBinding where
  internalBotId : String
  runtimeInstanceId : String
  epoch : ℕ
  lifecycle : PollerLifecycle
  deriving DecidableEq, Repr

def requireNumericBotId (telegramBotId : ℤ) : Except PollerError Unit :=
  if telegramBotId ≤ 0 then .error .invalidBotId else .ok ()

structure MemoryPollerRegistry where
  records : Finmap fun _ : ℤ => PollerOwnershipRecord
  runtimeBindings : Finmap fun _ : ℤ => PollerRuntimeBinding
  bootstrapped : Bool

namespace MemoryPollerRegistry

def new : MemoryPollerRegistry := ⟨∅, ∅, false⟩

def get (self : MemoryPollerRegistry) (telegramBotId : ℤ) : Option PollerOwnershipRecord :=
  self.records.lookup telegramBotId

def runtimeBinding (self : MemoryPollerRegistry) (telegramBotId : ℤ) :
    Option PollerRuntimeBinding :=
  self.runtimeBindings.lookup telegramBotId

/-- Registers the legacy owner, once and only in an empty registry. -/
def bootstrapLegacy (self : MemoryPollerRegistry) (telegramBotId : ℤ) :
    Except PollerError PollerOwnershipRecord × MemoryPollerRegistry :=
  if telegramBotId ≤ 0 then (.error .invalidBotId, self)
  else if self.bootstrapped ∨ self.records ≠ ∅ then (.error .bootstrapClosed, self)
  else
    let record := ⟨telegramBotId, .legacyPlugin, 1⟩
    (.ok record, { self with records := self.records.insert telegramBotId record
                             bootstrapped := true })

def assertCanStart (self : MemoryPollerRegistry) (telegramBotId : ℤ) (runtimeOwner : PollerOwner)
    (runtimeEpoch : ℕ) : Except PollerError Unit := do
  requireNumericBotId telegramBotId
  match self.get telegramBotId with
  | none => .error .notRegistered
  | some record =>
    if record.owner ≠ runtimeOwner then .error .notOwner
    else if record.epoch ≠ runtimeEpoch then .error .epochMismatch
    else .ok ()

/-- Hands the bot over to another owner, in the next epoch. Epochs are 64-bit numbers. -/
def transfer (self : MemoryPollerRegistry) (telegramBotId : ℤ) (expectedOwner : PollerOwner)
    (expectedEpoch : ℕ) (newOwner : PollerOwner) :
    Except PollerError PollerOwnershipRecord × MemoryPollerRegistry :=
  if telegramBotId ≤ 0 then (.error .invalidBotId, self)
  else match self.get telegramBotId with
    | none => (.error .notRegistered, self)
    | some record =>
      if record.owner ≠ expectedOwner then (.error .notOwner, self)
      else if record.epoch ≠ expectedEpoch then (.error .epochMismatch, self)
      else if newOwner = record.owner then (.error .notOwner, self)
      else if 2 ^ 64 ≤ record.epoch + 1 then (.error .conflict, self)
      else
        let updated := ⟨telegramBotId, newOwner, record.epoch + 1⟩
        (.ok updated, { self with records := self.records.insert telegramBotId updated })

def claimRuntime (self : MemoryPollerRegistry) (telegramBotId : ℤ)
    (binding : PollerRuntimeBinding) : Except PollerError Unit × MemoryPollerRegistry :=
  if telegramBotId ≤ 0 then (.error .invalidBotId, self)
  else if !binding.lifecycle.canOwn || isBlank binding.internalBotId ||
      isBlank binding.runtimeInstanceId then (.error .lifecycleInvalid, self)
  else match self.assertCanStart telegramBotId .rustBridge binding.epoch with
    | .error e => (.error e, self)
    | .ok () =>
      if (self.runtimeBinding telegramBotId).isSome then (.error .conflict, self)
      else
        (.ok (), { self with runtimeBindings := self.runtimeBindings.insert telegramBotId binding })

def releaseRuntime (self : MemoryPollerRegistry) (telegramBotId : ℤ) (runtimeInstanceId : String) :
    Except PollerError Unit × MemoryPollerRegistry :=
  if telegramBotId ≤ 0 then (.error .invalidBotId, self)
  else match self.runtimeBinding telegramBotId with
    | none => (.error .notRegistered, self)
    | some binding =>
      if binding.runtimeInstanceId ≠ runtimeInstanceId then (.error .notOwner, self)
      else (.ok (), { self with runtimeBindings := self.runtimeBindings.erase telegramBotId })

end MemoryPollerRegistry

/-- The check of a complete runtime fence, under the read lock of the shared registry. -/
def SharedMemoryPollerRegistry.assertFence (registry : MemoryPollerRegistry) (telegramBotId : ℤ)
    (owner : PollerOwner) (binding : PollerRuntimeBinding) : Except PollerError Unit := do
  if !binding.lifecycle.acceptsWrites then throw .lifecycleInvalid
  registry.assertCanStart telegramBotId owner binding.epoch
  match registry.runtimeBinding telegramBotId with
  | none => .error .notRegistered
  | some current =>
    if current.internalBotId ≠ binding.internalBotId ∨
        current.runtimeInstanceId ≠ binding.runtimeInstanceId then .error .conflict
    else if current.epoch ≠ binding.epoch then .error .epochMismatch
    else .ok ()

/-- The calls that a registry serves. -/
inductive RegistryCall
  | bootstrapLegacy (telegramBotId : ℤ)
  | transfer (telegramBotId : ℤ) (expectedOwner : PollerOwner) (expectedEpoch : ℕ)
      (newOwner : PollerOwner)
  | claimRuntime (telegramBotId : ℤ) (binding : PollerRuntimeBinding)
  | releaseRuntime (telegramBotId : ℤ) (runtimeInstanceId : String)
  | heartbeat (telegramBotId : ℤ) (owner : PollerOwner) (epoch : ℕ)
  | assertFence (telegramBotId : ℤ) (owner : PollerOwner) (binding : PollerRuntimeBinding)

variable {owner : PollerOwner}

namespace MemoryPollerRegistry

/-- The registry after the call. -/
def serve (self : MemoryPollerRegistry) : RegistryCall → MemoryPollerRegistry
  | .bootstrapLegacy bot => (self.bootstrapLegacy bot).2
  | .transfer bot owner epoch newOwner => (self.transfer bot owner epoch newOwner).2
  | .claimRuntime bot binding => (self.claimRuntime bot binding).2
  | .releaseRuntime bot runtimeInstanceId => (self.releaseRuntime bot runtimeInstanceId).2
  | .heartbeat .. => self
  | .assertFence .. => self

/-- The registry after the calls, one by one. -/
def after (self : MemoryPollerRegistry) (calls : List RegistryCall) : MemoryPollerRegistry :=
  calls.foldl serve self

/-! ## What a successful call says -/

variable (self : MemoryPollerRegistry)

section Inversion

variable {self : MemoryPollerRegistry} {bot : ℤ} {record : PollerOwnershipRecord}

theorem bootstrapLegacy_eq_ok (h : (self.bootstrapLegacy bot).1 = .ok record) :
    self.bootstrapped = false ∧ (self.bootstrapLegacy bot).2.bootstrapped = true := by
  by_cases hbot : bot ≤ 0
  · simp [bootstrapLegacy, hbot] at h
  · by_cases hclosed : self.bootstrapped ∨ self.records ≠ ∅
    · simp [bootstrapLegacy, hbot, if_pos hclosed] at h
    · refine ⟨by simpa using (not_or.mp hclosed).1, ?_⟩
      rw [bootstrapLegacy, if_neg hbot, if_neg hclosed]

theorem bootstrapLegacy_of_bootstrapped (h : self.bootstrapped = true) :
    (self.bootstrapLegacy bot).1 ≠ .ok record := by
  intro hok
  rw [(bootstrapLegacy_eq_ok hok).1] at h
  cases h

theorem transfer_eq_ok {owner newOwner : PollerOwner} {epoch : ℕ}
    (h : (self.transfer bot owner epoch newOwner).1 = .ok record) :
    ∃ old, self.get bot = some old ∧ record.epoch = old.epoch + 1 ∧
      (self.transfer bot owner epoch newOwner).2 =
        { self with records := self.records.insert bot record } := by
  unfold transfer at h ⊢
  by_cases hbot : bot ≤ 0
  · simp [hbot] at h
  rw [if_neg hbot] at h ⊢
  cases hold : self.get bot with
  | none => simp [hold] at h
  | some old =>
    simp only [hold] at h ⊢
    -- each check of the source that fails returns an error
    split_ifs at h ⊢
    cases h
    exact ⟨old, rfl, rfl, rfl⟩

theorem assertCanStart_eq_ok {epoch : ℕ} (h : self.assertCanStart bot owner epoch = .ok ()) :
    ∃ record, self.get bot = some record ∧ record.epoch = epoch := by
  unfold assertCanStart requireNumericBotId at h
  by_cases hbot : bot ≤ 0
  · simp [hbot, bind, Except.bind] at h
  rw [if_neg hbot] at h
  cases hrecord : self.get bot with
  | none => simp [hrecord, bind, Except.bind] at h
  | some record =>
    simp only [hrecord, bind, Except.bind] at h
    split_ifs at h with howner hepoch
    exact ⟨record, rfl, not_not.mp hepoch⟩

theorem assertFence_eq_ok {binding : PollerRuntimeBinding}
    (h : SharedMemoryPollerRegistry.assertFence self bot owner binding = .ok ()) :
    self.assertCanStart bot owner binding.epoch = .ok () ∧
      ∃ current, self.runtimeBinding bot = some current ∧
        current.internalBotId = binding.internalBotId ∧
        current.runtimeInstanceId = binding.runtimeInstanceId ∧ current.epoch = binding.epoch := by
  unfold SharedMemoryPollerRegistry.assertFence at h
  cases hwrites : binding.lifecycle.acceptsWrites with
  | false => simp [hwrites, bind, Except.bind, throw, throwThe, MonadExceptOf.throw] at h
  | true =>
    cases hstart : self.assertCanStart bot owner binding.epoch with
    | error e => simp [hwrites, hstart, bind, Except.bind] at h
    | ok _ =>
      cases hcurrent : self.runtimeBinding bot with
      | none => simp [hwrites, hstart, hcurrent, bind, Except.bind] at h
      | some current =>
        simp only [hwrites, hstart, hcurrent, bind, Except.bind, Bool.not_true,
          Bool.false_eq_true, if_false] at h
        split_ifs at h with hsame hepoch
        obtain ⟨hinternal, hinstance⟩ := not_or.mp hsame
        exact ⟨rfl, current, rfl, not_not.mp hinternal, not_not.mp hinstance, not_not.mp hepoch⟩

theorem claimRuntime_cases (bot : ℤ) (binding : PollerRuntimeBinding) :
    (∃ e, self.claimRuntime bot binding = (.error e, self)) ∨
      (0 < bot ∧ self.claimRuntime bot binding =
        (.ok (), { self with runtimeBindings := self.runtimeBindings.insert bot binding })) := by
  unfold claimRuntime
  split
  · exact .inl ⟨_, rfl⟩
  · rename_i hbot
    split
    · exact .inl ⟨_, rfl⟩
    · split
      · exact .inl ⟨_, rfl⟩
      · split
        · exact .inl ⟨_, rfl⟩
        · exact .inr ⟨by omega, rfl⟩

/-- Releasing a runtime takes its own binding, and no other one. -/
theorem runtimeBinding_releaseRuntime (hbot : 0 < bot) (id : String) (bot' : ℤ) :
    (self.releaseRuntime bot id).2.runtimeBinding bot' =
      if bot' = bot then (self.runtimeBinding bot).filter (·.runtimeInstanceId ≠ id)
      else self.runtimeBinding bot' := by
  unfold releaseRuntime
  rw [if_neg (by omega)]
  split
  · rename_i hnone
    split <;> simp_all
  · rename_i binding hbinding
    by_cases hid : binding.runtimeInstanceId = id
    · rw [if_neg (not_not.mpr hid)]
      by_cases hbot' : bot' = bot
      · rw [hbot', if_pos rfl, hbinding, Option.filter_some_neg (by simp [hid])]
        exact Finmap.lookup_erase _ _
      · rw [if_neg hbot']
        exact Finmap.lookup_erase_ne hbot'
    · rw [if_pos hid]
      by_cases hbot' : bot' = bot
      · rw [hbot', if_pos rfl, hbinding, Option.filter_some_pos (by simpa using hid)]
      · rw [if_neg hbot']

theorem releaseRuntime_of_nonpos (hbot : bot ≤ 0) (id : String) :
    self.releaseRuntime bot id = (.error .invalidBotId, self) := by
  rw [releaseRuntime, if_pos hbot]

end Inversion

/-! ## What every call keeps -/

/-- What a registry keeps as it serves calls: its records, in epochs that do not go back, and that
it was bootstrapped. -/
structure Extends (old new : MemoryPollerRegistry) : Prop where
  record : ∀ bot r, old.get bot = some r → ∃ r', new.get bot = some r' ∧ r.epoch ≤ r'.epoch
  bootstrapped : old.bootstrapped = true → new.bootstrapped = true

theorem Extends.refl : Extends self self :=
  ⟨fun _ r h => ⟨r, h, le_rfl⟩, id⟩

theorem Extends.trans {r₁ r₂ r₃ : MemoryPollerRegistry} (h : Extends r₁ r₂) (h' : Extends r₂ r₃) :
    Extends r₁ r₃ := by
  refine ⟨fun bot r hr => ?_, fun hb => h'.bootstrapped (h.bootstrapped hb)⟩
  obtain ⟨r', hr', hle⟩ := h.record bot r hr
  obtain ⟨r'', hr'', hle'⟩ := h'.record bot r' hr'
  exact ⟨r'', hr'', hle.trans hle'⟩

/-- Only the record of the bot itself is replaced, by one of no older epoch. -/
theorem extends_insert {self : MemoryPollerRegistry} {bot : ℤ} {record : PollerOwnershipRecord}
    (h : ∀ old, self.get bot = some old → old.epoch ≤ record.epoch) :
    Extends self { self with records := self.records.insert bot record } := by
  refine ⟨fun bot' r hr => ?_, id⟩
  by_cases heq : bot' = bot
  · subst heq
    exact ⟨record, Finmap.lookup_insert _, h r hr⟩
  · exact ⟨r, (Finmap.lookup_insert_of_ne _ heq).trans hr, le_rfl⟩

theorem extends_bootstrapLegacy (bot : ℤ) :
    Extends self (self.bootstrapLegacy bot).2 := by
  unfold bootstrapLegacy
  split_ifs with hbot hclosed
  · exact .refl self
  · exact .refl self
  · -- the registry was empty
    have hempty : self.records = ∅ := not_not.mp (not_or.mp hclosed).2
    refine ⟨fun bot' r hr => ?_, fun _ => rfl⟩
    rw [get, hempty, Finmap.lookup_empty] at hr
    cases hr

theorem extends_transfer (bot : ℤ) (owner : PollerOwner) (epoch : ℕ) (newOwner : PollerOwner) :
    Extends self (self.transfer bot owner epoch newOwner).2 := by
  unfold transfer
  by_cases hbot : bot ≤ 0
  · rw [if_pos hbot]
    exact .refl self
  rw [if_neg hbot]
  cases hold : self.get bot with
  | none => exact .refl self
  | some old =>
    dsimp only
    split_ifs
    · exact .refl self
    · exact .refl self
    · exact .refl self
    · exact .refl self
    · refine extends_insert fun old' hold' => ?_
      rw [hold] at hold'
      cases hold'
      exact Nat.le_succ _

/-- Bindings are no part of what is kept. -/
theorem extends_of_records {self new : MemoryPollerRegistry} (hrecords : new.records = self.records)
    (hbootstrapped : new.bootstrapped = self.bootstrapped) : Extends self new := by
  refine ⟨fun bot r hr => ⟨r, ?_, le_rfl⟩, fun h => hbootstrapped.trans h⟩
  rw [get, hrecords]
  exact hr

theorem extends_serve (call : RegistryCall) :
    Extends self (self.serve call) := by
  cases call with
  | bootstrapLegacy bot => exact extends_bootstrapLegacy self bot
  | transfer bot owner epoch newOwner => exact extends_transfer self bot owner epoch newOwner
  | claimRuntime bot binding =>
    refine extends_of_records ?_ ?_ <;>
    · simp only [serve, claimRuntime]
      repeat' split
      all_goals rfl
  | releaseRuntime bot runtimeInstanceId =>
    refine extends_of_records ?_ ?_ <;>
    · simp only [serve, releaseRuntime]
      repeat' split
      all_goals rfl
  | heartbeat bot owner epoch | assertFence bot owner binding => exact .refl self

theorem after_extends (calls : List RegistryCall) :
    Extends self (self.after calls) := by
  induction calls generalizing self with
  | nil => exact .refl self
  | cons call calls ih => exact (extends_serve self call).trans (ih _)

end MemoryPollerRegistry

/-! ## Exclusivity -/

open MemoryPollerRegistry SharedMemoryPollerRegistry

/-- Two fences that pass are fences of one runtime in one epoch. -/
theorem assertFence_unique {registry : MemoryPollerRegistry} {bot : ℤ} {owner owner' : PollerOwner}
    {binding binding' : PollerRuntimeBinding} (h : assertFence registry bot owner binding = .ok ())
    (h' : assertFence registry bot owner' binding' = .ok ()) :
    binding.internalBotId = binding'.internalBotId ∧
      binding.runtimeInstanceId = binding'.runtimeInstanceId ∧ binding.epoch = binding'.epoch := by
  obtain ⟨-, current, hcurrent, hinternal, hinstance, hepoch⟩ := assertFence_eq_ok h
  obtain ⟨-, current', hcurrent', hinternal', hinstance', hepoch'⟩ := assertFence_eq_ok h'
  obtain rfl : current = current' := Option.some.inj (hcurrent.symm.trans hcurrent')
  exact ⟨hinternal.symm.trans hinternal', hinstance.symm.trans hinstance',
    hepoch.symm.trans hepoch'⟩

/-- A registry that has gone on from a record accepts no fence of an older epoch. -/
theorem assertFence_ne_ok_of_older {old new : MemoryPollerRegistry} {bot : ℤ}
    {record : PollerOwnershipRecord} {binding : PollerRuntimeBinding} (hnew : Extends old new)
    (hrecord : old.get bot = some record) (holder : binding.epoch < record.epoch) :
    assertFence new bot owner binding ≠ .ok () := by
  intro h
  obtain ⟨current, hcurrent, hepoch⟩ := assertCanStart_eq_ok (assertFence_eq_ok h).1
  obtain ⟨current', hcurrent', hle⟩ := hnew.record bot record hrecord
  rw [hcurrent] at hcurrent'
  cases hcurrent'
  omega

/-- **Exclusivity of pollers.** After any sequence of calls on a new registry, and for every bot:
all fences that pass are of one runtime and one epoch; no bootstrap succeeds after a successful one;
and a successful transfer starts an epoch later than the one before, from which the registry never
goes back and before which it never again accepts a fence. -/
theorem poller_exclusivity (calls : List RegistryCall) (bot : ℤ) :
    let registry := MemoryPollerRegistry.new.after calls
    (∀ owner owner' binding binding', assertFence registry bot owner binding = .ok () →
      assertFence registry bot owner' binding' = .ok () →
        binding.internalBotId = binding'.internalBotId ∧
          binding.runtimeInstanceId = binding'.runtimeInstanceId ∧
          binding.epoch = binding'.epoch) ∧
    (∀ record, (registry.bootstrapLegacy bot).1 = .ok record → ∀ later bot' record',
      (((registry.bootstrapLegacy bot).2.after later).bootstrapLegacy bot').1 ≠ .ok record') ∧
    ∀ owner epoch newOwner record, (registry.transfer bot owner epoch newOwner).1 = .ok record →
      (∃ old, registry.get bot = some old ∧ old.epoch < record.epoch) ∧
      ∀ later, let registry' := (registry.transfer bot owner epoch newOwner).2.after later
        (∃ current, registry'.get bot = some current ∧ record.epoch ≤ current.epoch) ∧
        ∀ owner' binding, binding.epoch < record.epoch →
          assertFence registry' bot owner' binding ≠ .ok () := by
  intro registry
  refine ⟨?_, ?_, ?_⟩
  · intro owner owner' binding binding' h h'
    exact assertFence_unique h h'
  · intro record h later bot' record'
    refine bootstrapLegacy_of_bootstrapped ?_
    exact (after_extends _ later).bootstrapped (bootstrapLegacy_eq_ok h).2
  · intro owner epoch newOwner record h
    obtain ⟨old, hold, hepoch, hregistry⟩ := transfer_eq_ok h
    have hrecord : (registry.transfer bot owner epoch newOwner).2.get bot = some record := by
      rw [hregistry]
      exact Finmap.lookup_insert _
    refine ⟨⟨old, hold, by omega⟩, fun later => ⟨?_, ?_⟩⟩
    · exact (after_extends _ later).record bot record hrecord
    · intro owner' binding holder
      exact assertFence_ne_ok_of_older (after_extends _ later) hrecord holder

/-- A runtime whose fence passes, until the bot is handed back to the plugin. -/
theorem poller_exclusivity_handover :
    let binding : PollerRuntimeBinding := ⟨"bot", "runtime", 2, .running⟩
    let registry := MemoryPollerRegistry.new.after [.bootstrapLegacy 7,
      .transfer 7 .legacyPlugin 1 .rustBridge, .claimRuntime 7 binding]
    assertFence registry 7 .rustBridge binding = .ok () ∧
    (registry.transfer 7 .rustBridge 2 .legacyPlugin).1 = .ok ⟨7, .legacyPlugin, 3⟩ ∧
    ∀ later owner, assertFence ((registry.transfer 7 .rustBridge 2 .legacyPlugin).2.after later) 7
      owner binding ≠ .ok () := by
  intro binding registry
  have htransfer : (registry.transfer 7 .rustBridge 2 .legacyPlugin).1 =
      .ok ⟨7, .legacyPlugin, 3⟩ := by decide +kernel
  refine ⟨by decide +kernel, htransfer, fun later owner => ?_⟩
  obtain ⟨-, -, h⟩ := poller_exclusivity [.bootstrapLegacy 7,
    .transfer 7 .legacyPlugin 1 .rustBridge, .claimRuntime 7 binding] 7
  exact ((h _ _ _ _ htransfer).2 later).2 owner binding (by decide)

end ImBridge
