import ImBridge.Bridge.OperationPayload
import ImBridge.Sequential
import Mathlib.Logic.Equiv.List

/-!
# One key for each operation

A key is created and wrapped before the operation refers to it, so several callers may each hold a
key of their own when they race for the reference. The table of references lets one of them win and
never changes afterwards; the losers read the reference back and load the winner's key. Hence all
callers that succeed hold the same key, whatever the interleaving.

## Main definitions

* `World.Extends`: the later world still has every key reference and every secret
* `World.RefersTo`, `World.HoldsKey`: the reference of an operation, and the key it leads to
* `World.ReadsKey`: the same of a reference that is well formed, as the provider reads it
* `KeyCall`: the calls for the key of an operation
* `Primitives.AeadBinds`: a sealed text opens only with the data it was sealed with

## Main results

* `Effect.extends`: every call extends the world
* `yields_getOperationKeyReference` to `yields_forOperation`: what each function returns
* `one_key_per_operation`: all calls that succeed return the key of the one reference
* `payload_bound_to_operation`: a payload is decrypted for no other operation or chat
-/

namespace ImBridge

open Interleaving OperationStore OperationPayloadEncryptor OperationPayloadKeyProvider Discipline
  Encoding
open Fallible (onResult)

/-! ## What never goes away -/

/-- The later world still has every key reference and every secret of the earlier one. -/
structure World.Extends (w w' : World) : Prop where
  keyRef : ∀ id k, w.ledger.keyRef? id = some k → w'.ledger.keyRef? id = some k
  vault : ∀ secretId b, w.vault secretId = some b → w'.vault secretId = some b

variable {w w' : World} {c : Call} {r : c.Reply} (h : Effect w c r w')
include h

theorem Effect.vault {secretId : String} {b : Bytes} (hb : w.vault secretId = some b) :
    w'.vault secretId = some b := by
  cases c with
  | sql s => rcases h with ⟨-, rfl⟩ | ⟨-, rfl⟩ <;> exact hb
  | vaultPut scope kind plaintext =>
    cases r with
    | ok fresh =>
      -- the new secret has another name
      obtain ⟨hfresh, rfl⟩ := h
      have hne : secretId ≠ fresh := by
        rintro rfl
        rw [hfresh] at hb
        cases hb
      simpa [World.store, Function.update_of_ne hne] using hb
    | error e => cases h; exact hb
  | vaultGet secretId => obtain ⟨rfl, -⟩ := h; exact hb
  | http request =>
    simp only [Effect] at h
    split at h
    · obtain ⟨d, rfl⟩ := h; exact hb
    · cases h; exact hb
  | _ => cases h; exact hb

/-- **Every call extends the world.** -/
theorem Effect.extends :
    w.Extends w' := by
  refine ⟨fun id k hk => ?_, fun secretId b hb => h.vault hb⟩
  rcases h.ledger with ⟨s, -, hw⟩ | hw
  · rw [hw]; exact Ledger.keyRef?_exec s hk
  · rw [hw]; exact hk

omit h

theorem Drift.extends {w w' : World} (h : Drift w w') : w.Extends w' := by
  cases h <;> exact ⟨fun _ _ h => h, fun _ _ h => h⟩

/-- An assertion on worlds that nothing can take back. -/
def Lasting (P : World → Prop) : Prop := ∀ w w', w.Extends w' → P w → P w'

theorem lasting_const (p : Prop) : Lasting fun _ => p := fun _ _ _ h => h

theorem Lasting.and {P Q : World → Prop} (hP : Lasting P) (hQ : Lasting Q) :
    Lasting fun w => P w ∧ Q w :=
  fun w w' he h => ⟨hP w w' he h.1, hQ w w' he h.2⟩

section Rules

variable {A : Type} {t : A}

/-- The rules of the logic are used without any restriction on the tasks. -/
abbrev freely (A : Type) : Discipline (bridgeSemantics A) := .free _

theorem Lasting.stable {P : World → Prop} (hP : Lasting P) :
    (freely A).Stable t fun m => P m.world := by
  intro m m' h hm
  cases h with
  | call u c r w hu hinv hmay he => exact hP _ _ (Effect.extends he) hm
  | drift w hinv hd => exact hP _ _ (Drift.extends hd) hm

/-- From a moment at which `P` holds the task either fails or returns a value for which `Q` holds,
then and at every later time. -/
def Yields {α : Type} (t : A) (P : World → Prop) (p : AppTask α) (Q : α → World → Prop) : Prop :=
  (freely A).Triple t (fun m => P m.world) p.run fun r m =>
    onResult (fun a => Q a m.world) (fun _ => True) r

variable {α β : Type} {P : World → Prop} {Q : α → World → Prop} {R : β → World → Prop}

theorem stable_onResult (hQ : ∀ a, Lasting (Q a)) (r : AppResult α) :
    (freely A).Stable t fun m => onResult (fun a => Q a m.world) (fun _ => True) r := by
  cases r with
  | ok a => exact (hQ a).stable
  | error e => exact stable_true

variable {p : AppTask α}

theorem Yields.of_pre {P' : World → Prop} (h : Yields t P' p Q) (hP : ∀ w, P w → P' w) :
    Yields t P p Q :=
  Triple.weaken h (fun m _ hm => hP m.world hm) fun _ _ _ h => h

theorem yields_bind {f : α → AppTask β} (hp : Yields t P p Q) (hf : ∀ a, Yields t (Q a) (f a) R) :
    Yields t P (p >>= f) R :=
  triple_tryBind hp (fun _ => stable_true) hf

theorem yields_pure {a : α} (hQ : Lasting (Q a)) (h : ∀ w, P w → Q a w) : Yields t P (pure a) Q :=
  triple_ret hQ.stable fun m _ hp => h m.world hp

theorem yields_throw (e : AppError) : Yields t P (throw e) Q :=
  triple_ret stable_true fun _ _ _ => trivial

theorem yields_ofExcept {r : AppResult α} (hQ : ∀ a, Lasting (Q a))
    (h : ∀ a w, r = .ok a → P w → Q a w) : Yields t P (Fallible.ofExcept r) Q := by
  cases r with
  | ok a => exact yields_pure (hQ a) fun w => h a w rfl
  | error e => exact yields_throw e

/-- A call that cannot fail. -/
theorem yields_askBind {c : Call} {f : c.Reply → AppTask β} {Q : c.Reply → World → Prop}
    (hP : Lasting P) (hQ : ∀ r, Lasting (Q r))
    (h : ∀ w r w', P w → Effect w c r w' → Q r w') (hf : ∀ r, Yields t (Q r) (f r) R) :
    Yields t P (liftM (ask c) >>= f) R :=
  triple_liftBind (triple_perform hP.stable (fun _ _ _ => trivial)
    (fun m r w _ hp he => h m.world r w hp he) fun r => (hQ r).stable) hf

/-- A statement answers from the tables, or fails and changes nothing. -/
theorem yields_sql {s : Statement} {Q : s.Rows → World → Prop} (hP : Lasting P)
    (hQ : ∀ rows, Lasting (Q rows)) (h : ∀ w rows, P w → (s.exec w.ledger).1 = .ok rows →
      Q rows { w with ledger := (s.exec w.ledger).2 }) : Yields t P (sql s) Q := by
  refine triple_sql hP.stable (fun _ _ _ => trivial) (fun m r w _ hp he => ?_)
    (stable_onResult hQ)
  rcases he with ⟨rfl, rfl⟩ | ⟨rfl, rfl⟩
  · cases hr : (s.exec m.world.ledger).1 with
    | ok rows => exact h m.world rows hp hr
    | error e => trivial
  · trivial

theorem yields_attemptBind {f : AppResult α → AppTask β} (hp : Yields t P p Q)
    (hok : ∀ a, Yields t (Q a) (f (.ok a)) R)
    (herror : ∀ e, Yields t (fun _ => True) (f (.error e)) R) : Yields t P (p.attempt >>= f) R := by
  refine triple_attemptBind hp fun r => ?_
  cases r with
  | ok a => exact hok a
  | error e => exact herror e

end Rules

/-! ## The functions that hand out keys -/

/-- The reference of the operation. -/
def World.RefersTo (w : World) (id : String) (reference : OperationKeyReference) : Prop :=
  ∃ k, w.ledger.keyRef? id = some k ∧ keyReferenceOfRow k = .ok reference

/-- The reference of the operation leads to this key. -/
def World.HoldsKey (w : World) (id : String) (encryptor : OperationPayloadEncryptor) : Prop :=
  ∃ k, w.ledger.keyRef? id = some k ∧ k.keyVersion = encryptor.keyVersion.toNat ∧
    w.vault k.wrappedSecretId = some encryptor.operationDek.val

/-- The reference of the operation is well formed and leads to this key. -/
def World.ReadsKey (w : World) (id : String) (encryptor : OperationPayloadEncryptor) : Prop :=
  ∃ reference, w.RefersTo id reference ∧ reference.keyVersion = encryptor.keyVersion ∧
    w.vault reference.wrappedSecretId = some encryptor.operationDek.val

/-- The key is wrapped in the vault. -/
def World.Wraps (w : World) (encryptor : OperationPayloadEncryptor) : Prop :=
  ∃ secretId, encryptor.wrappedSecretId = some secretId ∧
    w.vault secretId = some encryptor.operationDek.val

theorem lasting_refersTo (id : String) (reference : OperationKeyReference) :
    Lasting fun w => w.RefersTo id reference := by
  rintro w w' he ⟨k, hk, h⟩
  exact ⟨k, he.keyRef id k hk, h⟩

theorem lasting_readsKey (id : String) (encryptor : OperationPayloadEncryptor) :
    Lasting fun w => w.ReadsKey id encryptor := by
  rintro w w' he ⟨reference, hrefers, hv, hs⟩
  exact ⟨reference, lasting_refersTo id reference w w' he hrefers, hv, he.vault _ _ hs⟩

theorem lasting_wraps (encryptor : OperationPayloadEncryptor) :
    Lasting fun w => w.Wraps encryptor := by
  rintro w w' he ⟨secretId, hid, hs⟩
  exact ⟨secretId, hid, he.vault _ _ hs⟩

/-- A reference that was stored after its checks is read back as it is. -/
theorem keyReferenceOfRow_stored {id secretId now : String} {keyVersion : UInt32}
    (hsecret : isBlank secretId = false) (hversion : keyVersion ≠ 0) :
    keyReferenceOfRow ⟨id, secretId, keyVersion.toNat, now, now⟩ = .ok ⟨secretId, keyVersion⟩ := by
  have hpos : 0 < keyVersion.toNat := by
    rcases Nat.eq_zero_or_pos keyVersion.toNat with hzero | hpos
    · exact absurd (UInt32.toNat_inj.mp hzero) hversion
    · exact hpos
  have hlt : keyVersion.toNat < 2 ^ 32 := keyVersion.toNat_lt
  unfold keyReferenceOfRow
  simp only [hsecret, Bool.false_eq_true, if_false]
  rw [if_pos (by omega)]
  simp

theorem keyReferenceOfRow_eq_ok {row : OperationKeyRefRow} {reference : OperationKeyReference}
    (h : keyReferenceOfRow row = .ok reference) :
    row.wrappedSecretId = reference.wrappedSecretId ∧
      row.keyVersion = reference.keyVersion.toNat := by
  unfold keyReferenceOfRow at h
  split at h
  · cases h
  · split at h
    · rename_i hpos
      cases h
      have hlt : row.keyVersion.toNat < 2 ^ 32 := by omega
      refine ⟨rfl, ?_⟩
      rw [UInt32.toNat_ofNat_of_lt' hlt]
      omega
    · cases h

variable {id : String}

theorem World.ReadsKey.holdsKey {w : World} {e : OperationPayloadEncryptor} (h : w.ReadsKey id e) :
    w.HoldsKey id e := by
  obtain ⟨reference, ⟨k, hk, hrow⟩, hversion, hvault⟩ := h
  obtain ⟨hsecret, hnumber⟩ := keyReferenceOfRow_eq_ok hrow
  exact ⟨k, hk, hversion ▸ hnumber, hsecret ▸ hvault⟩

section Functions

variable {A : Type} {t : A} {P : World → Prop} (id : String)

theorem yields_getOperationKeyReference (hP : Lasting P) :
    Yields t P (getOperationKeyReference id) fun o w =>
      P w ∧ ∀ reference, o = some reference → w.RefersTo id reference := by
  have hrow : ∀ row : Option OperationKeyRefRow,
      Lasting fun w => P w ∧ ∀ k, row = some k → w.ledger.keyRef? id = some k := fun row =>
    hP.and fun w w' he h k hk => he.keyRef id k (h k hk)
  refine yields_bind (yields_sql hP hrow fun w rows hp hrows => ?_) fun row => ?_
  · exact ⟨hp, fun k hk => hk ▸ Except.ok.inj hrows⟩
  · have hfound : ∀ o : Option OperationKeyReference, Lasting fun w =>
        P w ∧ ∀ reference, o = some reference → w.RefersTo id reference := fun o =>
      hP.and fun w w' he h reference ho => lasting_refersTo id reference w w' he (h reference ho)
    cases row with
    | none => exact yields_pure (hfound none) fun w h => ⟨h.1, fun _ ho => by cases ho⟩
    | some row =>
      refine yields_bind (Q := fun reference w => P w ∧ w.RefersTo id reference)
        (yields_ofExcept (fun reference => hP.and (lasting_refersTo id reference))
          fun reference w hr h => ?_) fun reference => ?_
      · exact ⟨h.1, row, h.2 row rfl, hr⟩
      · refine yields_pure (hfound _) fun w h => ⟨h.1, fun reference' ho => ?_⟩
        cases ho
        exact h.2

theorem yields_load (reference : OperationKeyReference) :
    Yields t (fun w => w.RefersTo id reference) (load reference) fun encryptor w =>
      w.ReadsKey id encryptor := by
  have hkept := lasting_refersTo id reference
  unfold load fromWrapped
  split
  · exact yields_throw _
  · refine yields_bind (Q := fun bytes w => w.RefersTo id reference ∧
      w.vault reference.wrappedSecretId = some bytes) ?_ fun bytes => ?_
    · refine triple_perform hkept.stable (fun _ _ _ => trivial)
        (fun m r w _ hp he => ?_) fun r => ?_
      · obtain ⟨rfl, hget⟩ := he
        cases r with
        | ok bytes => exact ⟨hp, hget bytes rfl⟩
        | error e => trivial
      · cases r with
        | ok bytes => exact (hkept.and fun w w' he h => he.vault _ _ h).stable
        | error e => exact stable_true
    · refine yields_ofExcept (lasting_readsKey id) fun encryptor w hr h => ?_
      obtain ⟨hrefers, hvault⟩ := h
      unfold ofBytes at hr
      split at hr
      · cases hr
        exact ⟨reference, hrefers, rfl, hvault⟩
      · cases hr

theorem yields_createWrapped (operationId : String) (keyVersion : UInt32) :
    Yields t (fun _ => True) (createWrapped operationId keyVersion) fun encryptor w =>
      w.Wraps encryptor := by
  unfold createWrapped
  split
  · exact yields_throw _
  · refine yields_askBind (Q := fun _ _ => True) (lasting_const _) (fun _ => lasting_const _)
      (fun _ _ _ _ _ => trivial) fun dek => ?_
    refine yields_bind (Q := fun secretId w => w.vault secretId = some dek.val) ?_
      fun secretId => ?_
    · refine triple_perform stable_true (fun _ _ _ => trivial)
        (fun m r w _ _ he => ?_) fun r => ?_
      · cases r with
        | ok secretId =>
          obtain ⟨-, rfl⟩ := he
          exact Function.update_self ..
        | error e => trivial
      · cases r with
        | ok secretId =>
          exact Lasting.stable (P := fun w => w.vault secretId = some dek.val)
            fun w w' he h => he.vault _ _ h
        | error e => exact stable_true
    · exact yields_pure (lasting_wraps _) fun w h => ⟨secretId, rfl, h⟩

theorem yields_putOperationKeyReference (hP : Lasting P) (secretId : String) (keyVersion : UInt32) :
    Yields t P (putOperationKeyReference id secretId keyVersion) fun _ w =>
      P w ∧ w.RefersTo id ⟨secretId, keyVersion⟩ := by
  have hrefers := hP.and (lasting_refersTo id ⟨secretId, keyVersion⟩)
  unfold putOperationKeyReference
  split
  · exact yields_throw _
  rename_i hchecks
  simp only [Bool.or_eq_true, beq_iff_eq, not_or, Bool.not_eq_true] at hchecks
  obtain ⟨⟨-, hsecret⟩, hversion⟩ := hchecks
  refine yields_askBind (Q := fun _ => P) hP (fun _ => hP)
    (fun w _ w' hp he => hP w w' he.extends hp) fun now => ?_
  refine yields_bind (Q := fun inserted w => P w ∧ (inserted = (1 : ℕ) →
      w.RefersTo id ⟨secretId, keyVersion⟩)) ?_ fun inserted => ?_
  · refine yields_sql hP (fun inserted => hP.and fun w w' he h hone =>
      lasting_refersTo id _ w w' he (h hone)) fun w inserted hp hr => ⟨?_, fun hone => ?_⟩
    · exact hP w _ (Effect.extends (c := .sql _) (.inl ⟨rfl, rfl⟩)) hp
    · subst hone
      exact ⟨_, Ledger.keyRef?_insertKeyReference hr, keyReferenceOfRow_stored hsecret hversion⟩
  · split
    · rename_i hone
      exact yields_pure hrefers fun w h => ⟨h.1, h.2 hone⟩
    · -- the row is another caller's, who may have stored the very same reference
      refine yields_bind (yields_getOperationKeyReference id
        (hP.and fun w w' he h hone => lasting_refersTo id _ w w' he (h hone))) fun existing => ?_
      cases existing with
      | none => exact yields_throw _
      | some existing =>
        dsimp only
        split
        · exact yields_throw _
        · rename_i hsame
          push Not at hsame
          refine yields_pure hrefers fun w h => ⟨h.1.1, ?_⟩
          rw [← hsame.1, ← hsame.2]
          exact h.2 existing rfl

/-- Whoever wants to make its key the operation's ends with the operation's key. -/
theorem yields_adopt (encryptor : OperationPayloadEncryptor) :
    Yields t (fun w => w.Wraps encryptor) (adopt id encryptor) fun encryptor w =>
      w.ReadsKey id encryptor := by
  unfold adopt
  split
  · exact yields_throw _
  rename_i secretId hid
  refine yields_attemptBind (yields_putOperationKeyReference id (lasting_wraps encryptor) secretId
    encryptor.keyVersion) (fun _ => ?_) fun e => ?_
  · refine yields_pure (lasting_readsKey id encryptor) fun w h => ?_
    obtain ⟨⟨secretId', hid', hvault⟩, hrefers⟩ := h
    obtain rfl : secretId' = secretId := Option.some.inj (hid'.symm.trans hid)
    exact ⟨⟨secretId', encryptor.keyVersion⟩, hrefers, rfl, hvault⟩
  · refine yields_bind (yields_getOperationKeyReference id (lasting_const True))
      fun reference => ?_
    cases reference with
    | none => exact yields_throw e
    | some reference =>
      exact (yields_load id reference).of_pre fun w h => h.2 reference rfl

theorem yields_forOperation (provider : OperationPayloadKeyProvider) :
    Yields t (fun _ => True) (provider.forOperation id) fun encryptor w =>
      w.ReadsKey id encryptor := by
  refine yields_bind (yields_getOperationKeyReference id (lasting_const True)) fun reference => ?_
  cases reference with
  | some reference =>
    exact (yields_load id reference).of_pre fun w h => h.2 reference rfl
  | none =>
    refine yields_bind ((yields_createWrapped id provider.keyVersion).of_pre fun _ _ => trivial)
      fun encryptor => ?_
    exact yields_adopt id encryptor

theorem yields_restoreForOperation :
    Yields t (fun _ => True) (restoreForOperation id) fun encryptor w =>
      w.ReadsKey id encryptor := by
  refine yields_bind (yields_getOperationKeyReference id (lasting_const True)) fun reference => ?_
  cases reference with
  | some reference =>
    exact (yields_load id reference).of_pre fun w h => h.2 reference rfl
  | none => exact yields_throw _

end Functions

/-! ## All callers hold one key -/

/-- Authenticated encryption opens what it sealed. -/
def Primitives.AeadCorrect (lib : Primitives) : Prop :=
  ∀ dek nonce aad plaintext ciphertext,
    lib.sealPayload dek nonce aad plaintext = some ciphertext →
      lib.openPayload dek nonce aad ciphertext = some plaintext

theorem sealed_of_encrypt (lib : Primitives) (e : OperationPayloadEncryptor) (plaintext : Bytes)
    (aad : OperationAad) :
    (e.encrypt lib plaintext aad).run.Ends (onResult (fun payload =>
      validateAad aad = .ok () ∧ payload.keyVersion = e.keyVersion ∧
        lib.sealPayload e.operationDek payload.nonce aad.encode plaintext =
          some payload.ciphertext) fun _ => True) := by
  cases hvalid : validateAad aad with
  | error error =>
    simp only [encrypt, hvalid]
    trivial
  | ok _ =>
    simp only [encrypt, hvalid]
    intro nonce
    show onResult _ _ (sealWith lib e plaintext aad nonce)
    cases hseal : lib.sealPayload e.operationDek nonce aad.encode plaintext <;>
      simp [sealWith, hseal]

/-- What one key encrypts, the same key under the same version decrypts. -/
theorem decrypt_of_encrypt {lib : Primitives} (haead : lib.AeadCorrect)
    {e e' : OperationPayloadEncryptor} (hdek : e.operationDek = e'.operationDek)
    (hversion : e.keyVersion = e'.keyVersion) (plaintext : Bytes) (aad : OperationAad) :
    (e.encrypt lib plaintext aad).run.Ends
      (onResult (fun payload => e'.decrypt lib payload aad = .ok plaintext)
        fun _ => True) := by
  refine (sealed_of_encrypt lib e plaintext aad).imp fun _ => Fallible.onResult_mono ?_
  rintro payload ⟨hvalid, hpayload, hseal⟩
  have hopen := haead _ _ _ _ _ hseal
  rw [hdek] at hopen
  simp [decrypt, hpayload, hversion, hvalid, hopen]

/-- The calls for the key of an operation, by providers of any version. -/
inductive KeyCall
  | forOperation (provider : OperationPayloadKeyProvider) (operationId : String)
  | restoreForOperation (operationId : String)

namespace KeyCall

def operationId : KeyCall → String
  | forOperation _ operationId => operationId
  | restoreForOperation operationId => operationId

abbrev Out (_ : KeyCall) : Type := AppResult OperationPayloadEncryptor

def body : (j : KeyCall) → BridgeTask j.Out
  | forOperation provider operationId => (provider.forOperation operationId).run
  | restoreForOperation operationId =>
    (OperationPayloadKeyProvider.restoreForOperation operationId).run

end KeyCall

/-- Two keys that one reference leads to are the same. -/
theorem World.HoldsKey.unique {w : World} {e e' : OperationPayloadEncryptor} (h : w.HoldsKey id e)
    (h' : w.HoldsKey id e') :
    e.operationDek = e'.operationDek ∧ e.keyVersion = e'.keyVersion := by
  obtain ⟨k, hk, hversion, hvault⟩ := h
  obtain ⟨k', hk', hversion', hvault'⟩ := h'
  obtain rfl : k = k' := Option.some.inj (hk.symm.trans hk')
  refine ⟨Subtype.ext (Option.some.inj (hvault.symm.trans hvault')), UInt32.toNat_inj.mp ?_⟩
  exact Int.ofNat.inj (hversion.symm.trans hversion')

/-- A key reference stays as it is along every continuation of a run. -/
theorem keyRef?_of_steps {τ : Type} {Out : τ → Type} {body : (j : τ) → BridgeTask (Out j)}
    {P Q : Pool bridgeCalls World Out}
    (h : Relation.ReflTransGen (Pool.Step (bridgeSemantics (ℕ × τ)) body) P Q)
    {k : OperationKeyRefRow} (hk : P.moment.world.ledger.keyRef? id = some k) :
    Q.moment.world.ledger.keyRef? id = some k := by
  induction h with
  | refl => exact hk
  | tail _ hs ih =>
    cases hs with
    | spawn m ts j => exact ih
    | crash m ts i j c k hi => exact ih
    | exec m ts i j c k r w hi he => exact (Effect.extends he).keyRef _ _ ih
    | drift m ts w hd => exact (Drift.extends hd).keyRef _ _ ih

/-- **One key for each operation.** In every interleaving of calls for keys, from any state of the
ledger and the vault: an operation has at most one key reference; a reference never changes; every
call that has succeeded returned the key and the version of the operation's reference; and so what
the key of one call encrypts, the key of any other call for the same operation decrypts. -/
theorem one_key_per_operation {lib : Primitives} (haead : lib.AeadCorrect) {w : World}
    {P : Pool bridgeCalls World KeyCall.Out}
    (h : Pool.Reachable (bridgeSemantics (ℕ × KeyCall)) KeyCall.body w P) :
    (∀ id, P.moment.world.ledger.keyRefs.rows.countP (·.operationId == id) ≤ 1) ∧
    (∀ id k, P.moment.world.ledger.keyRef? id = some k →
      ∀ Q, Relation.ReflTransGen (Pool.Step (bridgeSemantics (ℕ × KeyCall)) KeyCall.body) P Q →
        Q.moment.world.ledger.keyRef? id = some k) ∧
    (∀ i (j : KeyCall) e, P.Returned i j (.ok e) → P.moment.world.HoldsKey j.operationId e) ∧
    (∀ i (j : KeyCall) e i' (j' : KeyCall) e', P.Returned i j (.ok e) →
      P.Returned i' j' (.ok e') → j.operationId = j'.operationId →
      ∀ plaintext aad, (e.encrypt lib plaintext aad).run.Ends
        (onResult (fun payload => e'.decrypt lib payload aad = .ok plaintext)
          fun _ => True)) := by
  have hspec : ∀ (j : KeyCall) (i : ℕ), (freely (ℕ × KeyCall)).Triple (i, j)
      (fun m => m.Silent (i, j)) (KeyCall.body j) fun r m =>
        onResult (fun e => m.world.HoldsKey j.operationId e) (fun _ => True) r := by
    intro j i
    cases j with
    | forOperation provider id =>
      exact Triple.weaken (yields_forOperation id provider) (fun _ _ _ => trivial)
        fun _ _ _ => Fallible.onResult_mono fun _ => World.ReadsKey.holdsKey
    | restoreForOperation id =>
      exact Triple.weaken (yields_restoreForOperation id) (fun _ _ _ => trivial)
        fun _ _ _ => Fallible.onResult_mono fun _ => World.ReadsKey.holdsKey
  have hverified := sound hspec trivial h
  have hholds : ∀ i (j : KeyCall) e, P.Returned i j (.ok e) →
      P.moment.world.HoldsKey j.operationId e := fun i j e hi => hverified.returned hi
  refine ⟨?_, ?_, hholds, ?_⟩
  · intro id
    exact Relational.Table.countP_le_one (Ledger.pins_operationId id) _
  · intro id k hk Q hQ
    exact keyRef?_of_steps hQ hk
  · intro i j e i' j' e' hi hi' hid plaintext aad
    have hkey := hholds i j e hi
    rw [hid] at hkey
    obtain ⟨hdek, hversion⟩ := hkey.unique (hholds i' j' e' hi')
    exact decrypt_of_encrypt haead hdek hversion plaintext aad

/-- A world with one operation and no key yet. -/
def oneClaim : World :=
  { World.start with
    ledger := ((Statement.insertOperation ⟨"op-1", "actor", "bot", 7, "telegram", kindSend,
      ⟨"user", "a.png", "A", "c.jsonl"⟩, "op-1", "op-1"⟩ "op-1" "2026-01-01T00:00:00Z").exec
        .empty).2 }

/-- The key that is made for it when the random source gives zeros. -/
def zeroKey : OperationPayloadEncryptor := ⟨zeroDek, 3, some "secret-1"⟩

/-- A provider of version 3 makes the key, and a later restore gets the same. -/
theorem one_key_per_operation_restore : ∃ P : Pool bridgeCalls World KeyCall.Out,
    Pool.Reachable (bridgeSemantics (ℕ × KeyCall)) KeyCall.body oneClaim P ∧
    P.Returned 0 (.forOperation (withKeyVersion 3) "op-1") (.ok zeroKey) ∧
    P.Returned 1 (.restoreForOperation "op-1") (.ok zeroKey) ∧
    P.moment.world.HoldsKey "op-1" zeroKey ∧
    ∀ plaintext aad, (zeroKey.encrypt .plain plaintext aad).run.Ends
      (onResult (fun payload => zeroKey.decrypt .plain payload aad = .ok plaintext)
        fun _ => True) := by
  obtain ⟨P, hP, -, -, hreturned⟩ := Pool.exists_reachable_runs (bridgeSemantics (ℕ × KeyCall))
    KeyCall.body (fun c w => settle w c (supply w c)) (fun _ m c => supply_effect m.world c)
    oneClaim [.forOperation (withKeyVersion 3) "op-1", .restoreForOperation "op-1"]
  have hmade := hreturned 0 _ (.ok zeroKey) rfl (by decide +kernel)
  have hrestored := hreturned 1 _ (.ok zeroKey) rfl (by decide +kernel)
  have haead : Primitives.AeadCorrect .plain := fun _ _ _ _ _ h => h.symm
  obtain ⟨-, -, hholds, hdecrypts⟩ := one_key_per_operation haead hP
  exact ⟨P, hP, hmade, hrestored, hholds 0 _ _ hmade, hdecrypts 0 _ _ 1 _ _ hmade hrestored rfl⟩

/-! ## What a payload is bound to -/

/-- Ideal authenticated encryption: a sealed text opens only with the data it was sealed with. -/
def Primitives.AeadBinds (lib : Primitives) : Prop :=
  ∀ dek nonce aad plaintext ciphertext,
    lib.sealPayload dek nonce aad plaintext = some ciphertext →
      ∀ dek' nonce' aad' plaintext',
        lib.openPayload dek' nonce' aad' ciphertext = some plaintext' → aad' = aad

/-- The parts of a locator that its hash is made of. -/
def StChatLocator.hashed (self : StChatLocator) : List String :=
  [self.handle, self.avatar, self.chatFile]

/-- Every hashed part is short enough for its length field. -/
def StChatLocator.Framed (self : StChatLocator) : Prop :=
  ∀ s ∈ self.hashed, (utf8 s).length < 256 ^ 8

/-- The data is for the chat of this locator. -/
def OperationAad.IsFor (lib : Primitives) (self : OperationAad) (locator : StChatLocator) : Prop :=
  self.locatorHash = ImBridge.locatorHash lib locator.handle locator.avatar locator.chatFile

theorem StChatLocator.hashed_injective {l l' : StChatLocator} (hl : l.Framed) (hl' : l'.Framed)
    (h : frames 8 (l.hashed.map utf8) = frames 8 (l'.hashed.map utf8)) : l.hashed = l'.hashed := by
  have hparts : l.hashed.map utf8 = l'.hashed.map utf8 := by
    refine frames_injective (by omega) ?_ ?_ h
    · simpa [Framed] using hl
    · simpa [Framed] using hl'
  exact List.map_injective_iff.mpr (fun _ _ => utf8_injective) hparts

/-- What is decrypted was encrypted with data of the same encoding. -/
theorem encode_of_decrypt {lib : Primitives} (haead : lib.AeadBinds)
    (e : OperationPayloadEncryptor) (plaintext : Bytes) (a : OperationAad) :
    (e.encrypt lib plaintext a).run.Ends
      (onResult (fun payload => ∀ (e' : OperationPayloadEncryptor) b plaintext',
        e'.decrypt lib payload b = .ok plaintext' → b.encode = a.encode) fun _ => True) := by
  refine (sealed_of_encrypt lib e plaintext a).imp fun _ => Fallible.onResult_mono ?_
  rintro payload ⟨-, -, hseal⟩ e' b plaintext' hdecrypt
  simp only [decrypt] at hdecrypt
  split at hdecrypt
  · cases hdecrypt
  split at hdecrypt
  · cases hdecrypt
  split at hdecrypt
  · rename_i hopen
    exact haead _ _ _ _ _ hseal _ _ _ _ hopen
  · cases hdecrypt

/-- **A payload is bound to its operation.** The encoding of the data of an operation, with or
without a fence, determines the data, and the text hashed for a locator determines its three parts.
With ideal encryption and an ideal hash, what is encrypted for one operation and chat is therefore
decrypted for no other, whatever the keys. -/
theorem payload_bound_to_operation {lib : Primitives} (haead : lib.AeadBinds)
    (hsha : Function.Injective lib.sha256Hex) :
    (∀ a b : OperationAad, a.Framed → b.Framed → a.encode = b.encode → a = b) ∧
    (∀ l l' : StChatLocator, l.Framed → l'.Framed →
      frames 8 (l.hashed.map utf8) = frames 8 (l'.hashed.map utf8) → l.hashed = l'.hashed) ∧
    ∀ (e : OperationPayloadEncryptor) plaintext (a : OperationAad) (l : StChatLocator),
      a.Framed → l.Framed → a.IsFor lib l →
      (e.encrypt lib plaintext a).run.Ends
        (onResult (fun payload => ∀ (e' : OperationPayloadEncryptor) (b : OperationAad)
          (l' : StChatLocator) plaintext', b.Framed → l'.Framed → b.IsFor lib l' →
          e'.decrypt lib payload b = .ok plaintext' → b = a ∧ l'.hashed = l.hashed)
          fun _ => True) := by
  refine ⟨fun a b => OperationAad.encode_injective, fun l l' => StChatLocator.hashed_injective, ?_⟩
  intro e plaintext a l ha hl hal
  refine (encode_of_decrypt haead e plaintext a).imp fun result hresult => ?_
  refine Fallible.onResult_mono (fun payload hpayload => ?_) hresult
  intro e' b l' plaintext' hb hl' hbl hdecrypt
  obtain rfl := OperationAad.encode_injective hb ha (hpayload e' b plaintext' hdecrypt)
  exact ⟨rfl, StChatLocator.hashed_injective hl' hl (hsha (hbl.symm.trans hal))⟩

/-- Libraries for examples whose encryption and hash are ideal: both keep all of their input. -/
def Primitives.ideal : Primitives :=
  { Primitives.plain with
    sha256Hex := fun bytes => String.ofList (bytes.map Char.ofUInt8)
    sealPayload := fun _ _ aad plaintext =>
      some (List.replicate (Encodable.encode (aad.map UInt8.toNat, plaintext.map UInt8.toNat)) 0)
    openPayload := fun _ _ aad ciphertext =>
      match (Encodable.decode ciphertext.length : Option (List ℕ × List ℕ)) with
      | some (bound, plaintext) =>
        if bound = aad.map UInt8.toNat then some (plaintext.map UInt8.ofNat) else none
      | none => none }

theorem Primitives.ideal_aeadBinds : Primitives.ideal.AeadBinds := by
  intro _ _ aad plaintext ciphertext hseal _ _ aad' plaintext' hopen
  obtain rfl := Option.some.inj hseal
  simp only [ideal, List.length_replicate, Encodable.encodek] at hopen
  split at hopen
  · rename_i hbound
    exact (List.map_injective_iff.mpr (fun _ _ => UInt8.toNat_inj.mp) hbound).symm
  · cases hopen

theorem Primitives.ideal_sha256Hex_injective : Function.Injective Primitives.ideal.sha256Hex := by
  intro bytes bytes' h
  refine List.map_injective_iff.mpr (fun b b' hb => ?_) (String.ofList_injective h)
  exact UInt8.toUInt32_inj.mp (congrArg Char.val hb)

/-- A payload of one operation is not decrypted for another of the same chat. -/
theorem payload_bound_to_operation_ideal :
    let aad operationId : OperationAad := .newWithFence operationId
      (locatorHash .ideal "user" "a.png" "c.jsonl") kindSend "actor"
        ⟨7, "rust_bridge", 1, "bot", "r"⟩
    (zeroKey.encrypt .ideal [1] (aad "op-1")).run.Ends
      (onResult (fun payload => ∀ plaintext, zeroKey.decrypt .ideal payload (aad "op-2") ≠
        .ok plaintext) fun _ => True) := by
  intro aad
  have hl : StChatLocator.Framed ⟨"user", "a.png", "A", "c.jsonl"⟩ := by
    unfold StChatLocator.Framed
    decide +kernel
  have ha : (aad "op-1").Framed := by
    unfold OperationAad.Framed
    decide +kernel
  have hb : (aad "op-2").Framed := by
    unfold OperationAad.Framed
    decide +kernel
  obtain ⟨-, -, hbound⟩ := payload_bound_to_operation Primitives.ideal_aeadBinds
    Primitives.ideal_sha256Hex_injective
  refine (hbound zeroKey [1] (aad "op-1") _ ha hl rfl).imp fun result hresult => ?_
  refine Fallible.onResult_mono (fun payload hpayload plaintext hdecrypt => ?_) hresult
  obtain ⟨hsame, -⟩ := hpayload zeroKey (aad "op-2") _ plaintext hb hl rfl hdecrypt
  simp [aad, OperationAad.newWithFence] at hsame

end ImBridge
