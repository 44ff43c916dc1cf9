import ImBridge.Bridge.Errors
import ImBridge.Interleaving.Schedule
import ImBridge.Interleaving.Transcript
import ImBridge.Relational.Table
import ImBridge.Relational.Transaction

/-!
# Codes that bind a Telegram user to an account

A Telegram user redeems a code that the owner of a bot was shown. The code is looked up, compared
and checked for its expiry and for a conflict of identities by statements of their own, and a later
transaction consumes it and writes the identity and the binding. Between two statements any other
call may run, so all that was checked can be stale; the code is good for one binding because the
transaction itself demands that the code was not consumed.

A statement or transaction that fails leaves the tables as they were. This stands for faults of the
storage as well as for broken constraints, those on other tables included.

## Main definitions

* `CodeRow`, `IdentityRow`, `BindingRow`, `BindAttemptRow`, `BindDb`: the tables `bind_codes`,
  `external_identities`, `telegram_bindings` and `bind_attempts`
* `BindStatement`, `bindSemantics`: the statements and their effects
* `BindCodes.redeemBindCode`: the call that redeems a code
* `consumes`: the code that a transaction consumed

## Main results

* `course_redeemBindCode`: a call consumes a code in its last step and then returns `"ok"`, or it
  does neither
* `bind_codes_single_use`: each code yields `"ok"` at most once, and only calls that return `"ok"`
  change identities and bindings
-/

namespace ImBridge

open Interleaving Relational Transaction
open Fallible (uses_bind uses_lift uses_ofExcept uses_pure)

/-! ## The tables -/

structure CodeRow where
  id : String
  botId : String
  targetAccountId : String
  codeHmac : String
  expiresAt : String
  consumedAt : Option String
  createdAt : String
  deriving DecidableEq

/-- The primary key `id`. -/
def CodeRow.Clash (r s : CodeRow) : Prop := r.id = s.id

instance : DecidableRel CodeRow.Clash := fun r s => inferInstanceAs (Decidable (r.id = s.id))

structure IdentityRow where
  id : String
  accountId : String
  channel : String
  externalUserId : String
  verifiedAt : Option String
  createdAt : String
  deriving DecidableEq

/-- The primary key `id`, and one identity for a user of a channel. -/
def IdentityRow.Clash (r s : IdentityRow) : Prop :=
  r.id = s.id ∨ (r.channel = s.channel ∧ r.externalUserId = s.externalUserId)

instance : DecidableRel IdentityRow.Clash := fun _ _ => inferInstanceAs (Decidable (_ ∨ _))

structure BindingRow where
  id : String
  botId : String
  externalIdentityId : String
  workspaceId : String
  boundAt : String
  revokedAt : Option String
  deriving DecidableEq

/-- The primary key `id`, and one binding of an identity to a bot that is not revoked. -/
def BindingRow.Clash (r s : BindingRow) : Prop :=
  r.id = s.id ∨ (r.revokedAt = none ∧ s.revokedAt = none ∧ r.botId = s.botId ∧
    r.externalIdentityId = s.externalIdentityId)

instance : DecidableRel BindingRow.Clash := fun _ _ => inferInstanceAs (Decidable (_ ∨ _))

structure BindAttemptRow where
  accountId : String
  telegramUserId : String
  failures : ℤ
  windowStart : String
  lockedUntil : Option String
  deriving DecidableEq

/-- The primary key `(account_id, telegram_user_id)`. -/
def BindAttemptRow.Clash (r s : BindAttemptRow) : Prop :=
  r.accountId = s.accountId ∧ r.telegramUserId = s.telegramUserId

instance : DecidableRel BindAttemptRow.Clash := fun _ _ => inferInstanceAs (Decidable (_ ∧ _))

/-- The tables; of a bot only the workspace is of interest here. -/
structure BindDb where
  codes : Table CodeRow CodeRow.Clash
  identities : Table IdentityRow IdentityRow.Clash
  bindings : Table BindingRow BindingRow.Clash
  attempts : Table BindAttemptRow BindAttemptRow.Clash
  bots : List (String × String)
  deriving DecidableEq

/-- A code for the bot and the account that was not consumed. -/
def CodeRow.isOpen (botId accountId : String) (r : CodeRow) : Bool :=
  r.botId == botId && r.targetAccountId == accountId && r.consumedAt == none

/-- The row of the account's attempts with the Telegram user. -/
def BindAttemptRow.isOf (accountId telegramUserId : String) (r : BindAttemptRow) : Bool :=
  r.accountId == accountId && r.telegramUserId == telegramUserId

/-- The identity of a Telegram user. -/
def IdentityRow.isTelegram (telegramUserId : String) (r : IdentityRow) : Bool :=
  r.channel == "telegram" && r.externalUserId == telegramUserId

/-- A binding of the identity to the bot that was not revoked. -/
def BindingRow.isActive (botId identityId : String) (r : BindingRow) : Bool :=
  r.botId == botId && r.externalIdentityId == identityId && r.revokedAt == none

/-- What `ORDER BY created_at DESC LIMIT 1` may select among the codes that were not consumed: any
of the latest ones. -/
def BindDb.LatestCode (db : BindDb) (botId accountId : String) : Option (String × String) → Prop
  | none => ∀ r ∈ db.codes.rows, r.isOpen botId accountId = false
  | some (id, expiresAt) => ∃ r ∈ db.codes.rows, r.isOpen botId accountId = true ∧
      (∀ s ∈ db.codes.rows, s.isOpen botId accountId = true → s.createdAt ≤ r.createdAt) ∧
        r.id = id ∧ r.expiresAt = expiresAt

/-! ## Statements -/

/-- Transactions on these tables. -/
abbrev BindTx (α : Type) := Transaction BindDb AppError α

/-- What the transaction of a redemption works with: the code, the identity that was found, and what
is written. The new ids are used where there is no row yet. -/
structure Redemption where
  codeId : String
  existingIdentity : Option String
  accountId : String
  telegramUserId : String
  botId : String
  workspaceId : String
  now : String
  newIdentityId : String
  newBindingId : String
  deriving DecidableEq

namespace BindTx

/-- `SET consumed_at = ?`. -/
def setConsumedAt (now : String) : Table.Change CodeRow CodeRow.Clash where
  set r := { r with consumedAt := some now }
  left _ _ := Iff.rfl
  right _ _ := Iff.rfl

/-- `SET verified_at = ?`. -/
def setVerifiedAt (now : String) : Table.Change IdentityRow IdentityRow.Clash where
  set r := { r with verifiedAt := some now }
  left _ _ := Iff.rfl
  right _ _ := Iff.rfl

/-- `SET failures = failures + 1`. -/
def countFailure : Table.Change BindAttemptRow BindAttemptRow.Clash where
  set r := { r with failures := r.failures + 1 }
  left _ _ := Iff.rfl
  right _ _ := Iff.rfl

/-- `SET locked_until = ?`. -/
def setLockedUntil (lockedUntil : String) : Table.Change BindAttemptRow BindAttemptRow.Clash where
  set r := { r with lockedUntil := some lockedUntil }
  left _ _ := Iff.rfl
  right _ _ := Iff.rfl

/-- `WHERE id = ? AND consumed_at IS NULL`. -/
def isUnconsumed (codeId : String) (r : CodeRow) : Bool := r.id == codeId && r.consumedAt == none

/-- Marks the code as consumed, and returns the number of rows this affects. -/
def consumeCode (x : Redemption) : BindTx ℕ := fun db =>
  .ok (db.codes.affected (isUnconsumed x.codeId),
    { db with codes := db.codes.update (isUnconsumed x.codeId) (setConsumedAt x.now) })

def insertIdentity (row : IdentityRow) : BindTx Unit := fun db =>
  match db.identities.insert? row with
  | some identities => .ok ((), { db with identities })
  | none => .error .database

def insertBinding (row : BindingRow) : BindTx Unit := fun db =>
  match db.bindings.insert? row with
  | some bindings => .ok ((), { db with bindings })
  | none => .error .database

/-- The identity of the user, which is verified once more or written. -/
def verifyIdentity (x : Redemption) : BindTx String :=
  match x.existingIdentity with
  | some identityId => fun db => .ok (identityId, { db with
      identities := db.identities.update (·.id == identityId) (setVerifiedAt x.now) })
  | none => do
    insertIdentity { id := x.newIdentityId, accountId := x.accountId, channel := "telegram"
                     externalUserId := x.telegramUserId, verifiedAt := some x.now
                     createdAt := x.now }
    return x.newIdentityId

/-- The binding of the identity to the bot, unless there is one. -/
def bindIdentity (x : Redemption) (identityId : String) : BindTx Unit := do
  let db ← get
  if db.bindings.affected (BindingRow.isActive x.botId identityId) = 0 then
    insertBinding { id := x.newBindingId, botId := x.botId, externalIdentityId := identityId
                    workspaceId := x.workspaceId, boundAt := x.now, revokedAt := none }

def clearAttempts (accountId telegramUserId : String) : BindTx Unit := fun db =>
  .ok ((), { db with
    attempts := db.attempts.delete (BindAttemptRow.isOf accountId telegramUserId) })

/-- What the transaction writes once the code is marked. -/
def writeBinding (x : Redemption) : BindTx Unit := do
  let identityId ← verifyIdentity x
  bindIdentity x identityId
  clearAttempts x.accountId x.telegramUserId

/-- The transaction of a redemption; `false` if the code could not be consumed, where it is rolled
back. -/
def redeem (x : Redemption) : BindTx Bool := do
  let consumed ← consumeCode x
  if consumed = 0 then return false
  writeBinding x
  return true

/-- One more failure of the account with the Telegram user. -/
def upsertAttempt (accountId telegramUserId now : String) : BindTx Unit := fun db =>
  let row : BindAttemptRow :=
    { accountId, telegramUserId, failures := 1, windowStart := now, lockedUntil := none }
  match db.attempts.insert? row with
  | some attempts => .ok ((), { db with attempts })
  | none => .ok ((), { db with
      attempts := db.attempts.update (BindAttemptRow.isOf accountId telegramUserId) countFailure })

section Codes

variable {db db' : BindDb} {u : Unit}

/-- The attempts are a table of their own. -/
theorem run_upsertAttempt {accountId telegramUserId now : String}
    (h : (upsertAttempt accountId telegramUserId now).run db = .ok (u, db')) :
    ∃ attempts, db' = { db with attempts } := by
  simp only [upsertAttempt, StateT.run] at h
  split at h
  · cases h
    exact ⟨_, rfl⟩
  · cases h
    exact ⟨_, rfl⟩

/-- The codes are not written once one is marked. -/
theorem codes_writeBinding (x : Redemption) :
    Moves (fun db db' : BindDb => db'.codes = db.codes) (writeBinding x) := by
  have htrans : ∀ a b c : BindDb, b.codes = a.codes → c.codes = b.codes → c.codes = a.codes :=
    fun _ _ _ hab hbc => hbc.trans hab
  have hidentity : ∀ row, Moves (fun db db' : BindDb => db'.codes = db.codes)
      (insertIdentity row) := by
    intro row db u db' h
    grind [insertIdentity, StateT.run]
  have hbinding : ∀ row, Moves (fun db db' : BindDb => db'.codes = db.codes)
      (insertBinding row) := by
    intro row db u db' h
    grind [insertBinding, StateT.run]
  apply moves_bind htrans
  · unfold verifyIdentity
    split
    · intro db a db' h
      cases h
      rfl
    · exact moves_bind htrans (hidentity _) fun _ => moves_pure fun _ => rfl
  · intro identityId
    apply moves_bind htrans
    · apply moves_bind htrans (moves_get fun _ => rfl)
      intro db
      split
      · exact hbinding _
      · exact moves_pure fun _ => rfl
    · intro _ db a db' h
      cases h
      rfl

end Codes

end BindTx

/-- The statements of a call, and its transaction. -/
inductive BindStatement
  | selectLockedUntil (accountId telegramUserId : String)
  | selectOpenCode (botId accountId : String)
  | selectCodeHmac (id : String)
  | deleteCode (id : String)
  | selectIdentity (telegramUserId : String)
  | selectBotWorkspace (botId : String)
  | upsertAttempt (accountId telegramUserId now : String)
  | selectFailures (accountId telegramUserId : String)
  | updateLockedUntil (accountId telegramUserId lockedUntil : String)
  | redeem (x : Redemption)
  deriving DecidableEq

namespace BindStatement

@[reducible] def Result : BindStatement → Type
  | selectLockedUntil .. => Option (Option String)
  | selectOpenCode .. => Option (String × String)
  | selectCodeHmac _ => String
  | deleteCode _ => Unit
  | selectIdentity _ => Option (String × String)
  | selectBotWorkspace _ => Option String
  | upsertAttempt .. => Unit
  | selectFailures .. => ℤ
  | updateLockedUntil .. => Unit
  | redeem _ => Bool

/-- What a statement that does not fail may return and do. -/
def Effect (db : BindDb) : (s : BindStatement) → s.Result → BindDb → Prop
  | selectLockedUntil accountId telegramUserId, r, db' =>
      r = (db.attempts.rows.find? (BindAttemptRow.isOf accountId telegramUserId)).map
        (·.lockedUntil) ∧ db' = db
  | selectOpenCode botId accountId, r, db' => db.LatestCode botId accountId r ∧ db' = db
  | selectCodeHmac id, r, db' =>
      (db.codes.rows.find? (·.id == id)).map (·.codeHmac) = some r ∧ db' = db
  | deleteCode id, _, db' => db' = { db with codes := db.codes.delete (·.id == id) }
  | selectIdentity telegramUserId, r, db' =>
      r = (db.identities.rows.find? (IdentityRow.isTelegram telegramUserId)).map
        (fun row => (row.id, row.accountId)) ∧ db' = db
  | selectBotWorkspace botId, r, db' => r = db.bots.lookup botId ∧ db' = db
  | upsertAttempt accountId telegramUserId now, _, db' =>
      (BindTx.upsertAttempt accountId telegramUserId now).run db = .ok ((), db')
  | selectFailures accountId telegramUserId, r, db' =>
      (db.attempts.rows.find? (BindAttemptRow.isOf accountId telegramUserId)).map
        (·.failures) = some r ∧ db' = db
  | updateLockedUntil accountId telegramUserId lockedUntil, _, db' => db' = { db with
      attempts := db.attempts.update (BindAttemptRow.isOf accountId telegramUserId)
        (BindTx.setLockedUntil lockedUntil) }
  | redeem x, r, db' => (BindTx.redeem x).run db = .ok (r, db')

end BindStatement

/-- The calls on the surroundings: statements, the clock, and new ids. -/
inductive BindCall
  | sql (s : BindStatement)
  | nowRfc3339
  | rfc3339After (minutes : ℕ)
  | newId
  deriving DecidableEq

/-- The replies; the time that is some minutes ahead may have no text. -/
@[reducible] def BindCall.Reply : BindCall → Type
  | sql s => AppResult s.Result
  | nowRfc3339 => String
  | rfc3339After _ => Option String
  | newId => String

abbrev bindCalls : Signature := ⟨BindCall, BindCall.Reply⟩

/-- What a call may reply and do: a statement that fails has no effect. -/
def BindCall.Effect (db : BindDb) : (c : BindCall) → c.Reply → BindDb → Prop
  | sql s, .ok r, db' => s.Effect db r db'
  | sql _, .error e, db' => e = .database ∧ db' = db
  | nowRfc3339, _, db' => db' = db
  | rfc3339After _, _, db' => db' = db
  | newId, _, db' => db' = db

/-- The runs of any calls on these tables, side by side. -/
def bindSemantics (A : Type) : Semantics bindCalls A BindDb where
  effect _ m c r db := c.Effect m.world r db
  drift _ _ := False

/-! ## The redemption of a code -/

/-- Calls that may fail. -/
abbrev BindTask (α : Type) := Fallible bindCalls AppError α

/-- What the redemption takes from elsewhere: upper case letters, and the HMAC with the key of the
bridge. -/
structure BindLibrary where
  toUppercase : String → String
  bindCodeHmac : String → AppResult String

/-- The arguments of a call. -/
structure RedeemArgs where
  botId : String
  accountId : String
  rawCode : String
  telegramUserId : String
  deriving DecidableEq

namespace BindCodes

/-- Makes the call and returns its reply. -/
def ask (c : BindCall) : Program bindCalls c.Reply := Program.perform (σ := bindCalls) c

/-- Runs the statement, and stops if it fails. -/
def sql (s : BindStatement) : BindTask s.Result := ExceptT.mk (ask (.sql s))

def isLocked (accountId telegramUserId : String) : BindTask Bool := do
  match ← sql (.selectLockedUntil accountId telegramUserId) with
  | some (some lockedUntil) => return decide ((← ask .nowRfc3339) < lockedUntil)
  | _ => return false

/-- The lock of the tenth failure. -/
def lockAttempts (accountId telegramUserId now : String) : BindTask Unit := do
  let lockedUntil ← ask (.rfc3339After 15)
  sql (.updateLockedUntil accountId telegramUserId (lockedUntil.getD now))

def recordBindFailure (accountId telegramUserId : String) : BindTask Unit := do
  let now ← ask .nowRfc3339
  sql (.upsertAttempt accountId telegramUserId now)
  let failures ← sql (.selectFailures accountId telegramUserId)
  if failures ≥ 10 then lockAttempts accountId telegramUserId now

/-- The last part: the bot is looked up, and the transaction consumes the code. -/
def consumeBindCode (args : RedeemArgs) (codeId : String) (existingIdentity : Option String) :
    BindTask String := do
  match ← sql (.selectBotWorkspace args.botId) with
  | none => throw (.notFound "BOT_NOT_FOUND" "bot not found")
  | some workspaceId =>
    let now ← ask .nowRfc3339
    let newIdentityId ← ask .newId
    let newBindingId ← ask .newId
    let consumed ← sql (.redeem
      { codeId, existingIdentity, accountId := args.accountId
        telegramUserId := args.telegramUserId, botId := args.botId
        workspaceId, now, newIdentityId, newBindingId })
    return if consumed then "ok" else "invalid"

/-- The code matches and is in time; the user must not belong to another account. -/
def claimBindCode (args : RedeemArgs) (codeId : String) : BindTask String := do
  let existingIdentity ← sql (.selectIdentity args.telegramUserId)
  if existingIdentity.any (·.2 != args.accountId) then return "identity_conflict"
  else consumeBindCode args codeId (existingIdentity.map (·.1))

/-- The checks of the code that was found. -/
def checkBindCode (args : RedeemArgs) (hmac codeId expiresAt : String) : BindTask String := do
  let stored ← sql (.selectCodeHmac codeId)
  if stored != hmac then
    recordBindFailure args.accountId args.telegramUserId
    return "invalid"
  else if expiresAt ≤ (← ask .nowRfc3339) then
    sql (.deleteCode codeId)
    recordBindFailure args.accountId args.telegramUserId
    return "expired"
  else claimBindCode args codeId

def redeemBindCode (lib : BindLibrary) (args : RedeemArgs) : BindTask String := do
  if ← isLocked args.accountId args.telegramUserId then return "rate_limited"
  else
    let hmac ← Fallible.ofExcept (lib.bindCodeHmac (lib.toUppercase (trim args.rawCode)))
    match ← sql (.selectOpenCode args.botId args.accountId) with
    | none =>
      recordBindFailure args.accountId args.telegramUserId
      return "invalid"
    | some (codeId, expiresAt) => checkBindCode args hmac codeId expiresAt

end BindCodes

/-! ## What one call does -/

/-- The code that the call consumed. -/
def consumes : (c : BindCall) → c.Reply → Option String
  | .sql (.redeem x), .ok true => some x.codeId
  | _, _ => none

/-- All calls but the transaction. -/
def BindCall.IsCheck (c : BindCall) : Prop := ∀ x, c ≠ .sql (.redeem x)

variable {c : BindCall}

theorem consumes_of_isCheck (h : c.IsCheck) (r : c.Reply) : consumes c r = none := by
  unfold consumes
  split
  · exact absurd rfl (h _)
  · rfl

/-- The task consumes a code in its last step and then returns `"ok"`, or it does neither. -/
def RedeemCourse (p : BindTask String) : Prop :=
  ∀ es q, Program.Goes p.run es q →
    ((∀ e ∈ es, consumes e.1 e.2 = none) ∧ q ≠ .ret (.ok "ok")) ∨
      ∃ es' e, es = es' ++ [e] ∧ (∀ e' ∈ es', consumes e'.1 e'.2 = none) ∧
        (consumes e.1 e.2).isSome = true ∧ q = .ret (.ok "ok")

section RedeemCourse

open BindCodes

theorem RedeemCourse.bind {α : Type} {p : BindTask α} {f : α → BindTask String}
    (hp : p.run.Uses BindCall.IsCheck) (hf : ∀ a, RedeemCourse (f a)) : RedeemCourse (p >>= f) := by
  have hchecks : ∀ {es q}, Program.Goes p.run es q → ∀ e ∈ es, consumes e.1 e.2 = none := by
    intro es q hgoes e he
    exact consumes_of_isCheck (hgoes.of_uses hp e he) _
  intro es q h
  rcases Fallible.goes_bind h with ⟨⟨p', hgoes⟩, hq⟩ | ⟨es₁, es₂, a, rfl, hgoes, hrest⟩
  · exact .inl ⟨hchecks hgoes, hq _⟩
  · rcases hf a es₂ q hrest with ⟨hnone, hq⟩ | ⟨es', e, rfl, hnone, he, hq⟩
    · exact .inl ⟨List.forall_mem_append.mpr ⟨hchecks hgoes, hnone⟩, hq⟩
    · exact .inr ⟨es₁ ++ es', e, (List.append_assoc ..).symm,
        List.forall_mem_append.mpr ⟨hchecks hgoes, hnone⟩, he, hq⟩

theorem RedeemCourse.pure {s : String} (hs : s ≠ "ok") : RedeemCourse (pure s) := by
  intro es q h
  obtain ⟨rfl, rfl⟩ := Program.goes_ret.mp h
  refine .inl ⟨fun e he => absurd he List.not_mem_nil, fun heq => hs ?_⟩
  cases heq
  rfl

theorem RedeemCourse.throw (e : AppError) : RedeemCourse (throw e) := by
  intro es q h
  obtain ⟨rfl, rfl⟩ := Program.goes_ret.mp h
  exact .inl ⟨fun e he => absurd he List.not_mem_nil, nofun⟩

/-- The transaction is followed by the end of the call. -/
theorem course_redeem (x : Redemption) :
    RedeemCourse (BindCodes.sql (.redeem x) >>= fun consumed =>
      Pure.pure (if consumed then "ok" else "invalid")) := by
  intro es q h
  have hcall : (BindCodes.sql (.redeem x) >>= fun consumed =>
      Pure.pure (if consumed then "ok" else "invalid") : BindTask String).run =
        Program.call (σ := bindCalls) (.sql (.redeem x)) fun r =>
          .ret (r.map fun consumed => if consumed then "ok" else "invalid") := by
    rw [Fallible.run_bind]
    refine congrArg _ (funext fun r => ?_)
    cases r <;> rfl
  rw [hcall] at h
  rcases Program.goes_call h with ⟨rfl, rfl⟩ | ⟨r, es', rfl, hend⟩
  · exact .inl ⟨fun e he => absurd he List.not_mem_nil, Program.call_ne_ret _ _ _⟩
  · obtain ⟨rfl, rfl⟩ := Program.goes_ret.mp hend
    match r with
    | .ok true =>
      exact .inr ⟨[], _, rfl, fun e he => absurd he List.not_mem_nil, rfl, rfl⟩
    | .ok false =>
      refine .inl ⟨fun e he => ?_, fun heq => ?_⟩
      · rw [List.mem_singleton.mp he]
        rfl
      · exact absurd (Except.ok.inj (Program.ret.inj heq)) (show "invalid" ≠ "ok" by decide)
    | .error e =>
      refine .inl ⟨fun e he => ?_, nofun⟩
      rw [List.mem_singleton.mp he]
      rfl

theorem uses_ask (h : c.IsCheck) :
    (liftM (BindCodes.ask c) : BindTask c.Reply).run.Uses BindCall.IsCheck :=
  uses_lift ((Program.uses_perform (σ := bindCalls) c).mpr h)

theorem uses_sql {s : BindStatement} (h : (BindCall.sql s).IsCheck) :
    (BindCodes.sql s).run.Uses BindCall.IsCheck :=
  (Program.uses_perform (σ := bindCalls) (.sql s)).mpr h

theorem uses_isLocked (accountId telegramUserId : String) :
    (isLocked accountId telegramUserId).run.Uses BindCall.IsCheck := by
  refine uses_bind (uses_sql nofun) fun row => ?_
  split
  · exact uses_bind (uses_ask nofun) fun now => uses_pure _
  · exact uses_pure _

theorem uses_recordBindFailure (accountId telegramUserId : String) :
    (recordBindFailure accountId telegramUserId).run.Uses BindCall.IsCheck := by
  refine uses_bind (uses_ask nofun) fun now => ?_
  refine uses_bind (uses_sql nofun) fun _ => ?_
  refine uses_bind (uses_sql nofun) fun failures => ?_
  split
  · exact uses_bind (uses_ask nofun) fun _ => uses_sql nofun
  · exact uses_pure _

theorem course_consumeBindCode (args : RedeemArgs) (codeId : String)
    (existingIdentity : Option String) :
    RedeemCourse (consumeBindCode args codeId existingIdentity) := by
  refine RedeemCourse.bind (uses_sql nofun) fun workspace => ?_
  split
  · exact RedeemCourse.throw _
  · refine RedeemCourse.bind (uses_ask nofun) fun now => ?_
    refine RedeemCourse.bind (uses_ask nofun) fun newIdentityId => ?_
    exact RedeemCourse.bind (uses_ask nofun) fun newBindingId => course_redeem _

theorem course_checkBindCode (args : RedeemArgs) (hmac codeId expiresAt : String) :
    RedeemCourse (checkBindCode args hmac codeId expiresAt) := by
  have hclaim : RedeemCourse (claimBindCode args codeId) := by
    refine RedeemCourse.bind (uses_sql nofun) fun existingIdentity => ?_
    split
    · exact RedeemCourse.pure (by decide)
    · exact course_consumeBindCode _ _ _
  refine RedeemCourse.bind (uses_sql nofun) fun stored => ?_
  split
  · exact RedeemCourse.bind (uses_recordBindFailure _ _) fun _ => RedeemCourse.pure (by decide)
  · refine RedeemCourse.bind (uses_ask nofun) fun now => ?_
    split
    · refine RedeemCourse.bind (uses_sql nofun) fun _ => ?_
      exact RedeemCourse.bind (uses_recordBindFailure _ _) fun _ => RedeemCourse.pure (by decide)
    · exact hclaim

/-- **A call consumes a code in its last step and then returns `"ok"`, or it does neither.** -/
theorem course_redeemBindCode (lib : BindLibrary) (args : RedeemArgs) :
    RedeemCourse (redeemBindCode lib args) := by
  refine RedeemCourse.bind (uses_isLocked _ _) fun locked => ?_
  split
  · exact RedeemCourse.pure (by decide)
  · refine RedeemCourse.bind (uses_ofExcept _) fun hmac => ?_
    refine RedeemCourse.bind (uses_sql nofun) fun row => ?_
    split
    · exact RedeemCourse.bind (uses_recordBindFailure _ _) fun _ => RedeemCourse.pure (by decide)
    · exact course_checkBindCode _ _ _ _

end RedeemCourse

/-! ## What the statements do -/

variable {r : c.Reply} {codeId : String}

section Effects

variable {db db' : BindDb}

/-- Nothing but the transaction that consumes the code writes a binding. -/
theorem BindTx.run_redeem {x : Redemption} {consumed : Bool}
    (h : (BindTx.redeem x).run db = .ok (consumed, db')) :
    (consumed = false ∧ db' = db) ∨
      (consumed = true ∧ (∃ r ∈ db.codes.rows, BindTx.isUnconsumed x.codeId r = true) ∧
        db'.codes =
          db.codes.update (BindTx.isUnconsumed x.codeId) (BindTx.setConsumedAt x.now)) := by
  obtain ⟨n, db₁, hconsume, hrest⟩ := run_bind_eq_ok.mp h
  cases hconsume
  by_cases hn : db.codes.affected (BindTx.isUnconsumed x.codeId) = 0
  · rw [if_pos hn] at hrest
    obtain ⟨rfl, rfl⟩ := run_pure_eq_ok.mp hrest
    refine .inl ⟨rfl, ?_⟩
    -- no row was affected, so there is nothing to roll back
    rw [Table.update_of_forall_not fun r hr => by simpa using List.countP_eq_zero.mp hn r hr]
  · rw [if_neg hn] at hrest
    obtain ⟨u, db₂, hwrite, hpure⟩ := run_bind_eq_ok.mp hrest
    obtain ⟨rfl, rfl⟩ := run_pure_eq_ok.mp hpure
    refine .inr ⟨rfl, List.countP_pos_iff.mp (Nat.pos_of_ne_zero hn), ?_⟩
    exact BindTx.codes_writeBinding x _ _ _ hwrite

/-- What a call can do to the tables: it writes attempts at most, or deletes a code, or consumes
one. -/
theorem BindCall.Effect.inversion (h : c.Effect db r db') :
    (consumes c r = none ∧ ((∃ attempts, db' = { db with attempts }) ∨
      ∃ p, db' = { db with codes := db.codes.delete p })) ∨
    ∃ x : Redemption, consumes c r = some x.codeId ∧
      (∃ row ∈ db.codes.rows, BindTx.isUnconsumed x.codeId row = true) ∧
      db'.codes = db.codes.update (BindTx.isUnconsumed x.codeId) (BindTx.setConsumedAt x.now) := by
  have hsame : db' = db → (∃ attempts, db' = { db with attempts }) ∨
      ∃ p, db' = { db with codes := db.codes.delete p } := fun heq => .inl ⟨db.attempts, heq⟩
  match c, r, h with
  | .nowRfc3339, _, h | .rfc3339After _, _, h | .newId, _, h => exact .inl ⟨rfl, hsame h⟩
  | .sql s, .error _, h => exact .inl ⟨by cases s <;> rfl, hsame h.2⟩
  | .sql (.selectLockedUntil ..), .ok _, h | .sql (.selectOpenCode ..), .ok _, h
  | .sql (.selectCodeHmac _), .ok _, h | .sql (.selectIdentity _), .ok _, h
  | .sql (.selectBotWorkspace _), .ok _, h | .sql (.selectFailures ..), .ok _, h =>
    exact .inl ⟨rfl, hsame h.2⟩
  | .sql (.updateLockedUntil ..), .ok _, h => exact .inl ⟨rfl, .inl ⟨_, h⟩⟩
  | .sql (.upsertAttempt ..), .ok _, h => exact .inl ⟨rfl, .inl (BindTx.run_upsertAttempt h)⟩
  | .sql (.deleteCode _), .ok _, h => exact .inl ⟨rfl, .inr ⟨_, h⟩⟩
  | .sql (.redeem x), .ok consumed, h =>
    rcases BindTx.run_redeem h with ⟨rfl, hdb⟩ | ⟨rfl, hopen, hcodes⟩
    · exact .inl ⟨rfl, hsame hdb⟩
    · exact .inr ⟨x, rfl, hopen, hcodes⟩

theorem tables_eq_of_effect (h : c.Effect db r db') (hnone : consumes c r = none) :
    db'.identities = db.identities ∧ db'.bindings = db.bindings := by
  rcases h.inversion with ⟨-, ⟨attempts, rfl⟩ | ⟨p, rfl⟩⟩ | ⟨x, hsome, -⟩
  · exact ⟨rfl, rfl⟩
  · exact ⟨rfl, rfl⟩
  · rw [hnone] at hsome
    cases hsome

/-- No code with this id can be consumed any more. -/
def BindDb.Spent (db : BindDb) (codeId : String) : Prop :=
  ∀ r ∈ db.codes.rows, BindTx.isUnconsumed codeId r = false

/-- Codes are only marked, never the other way round. -/
theorem BindDb.Spent.consume {x : Redemption}
    (hcodes : db'.codes = db.codes.update (BindTx.isUnconsumed x.codeId) (BindTx.setConsumedAt
      x.now)) (h : db.Spent codeId ∨ codeId = x.codeId) : db'.Spent codeId := by
  intro r hr
  rw [hcodes] at hr
  obtain ⟨s, hs, rfl⟩ := Table.mem_update.mp hr
  by_cases hp : BindTx.isUnconsumed x.codeId s = true
  · have hon : (BindTx.setConsumedAt x.now).on (BindTx.isUnconsumed x.codeId) s =
        { s with consumedAt := some x.now } := by
      simp only [Table.Change.on, if_pos hp]
      rfl
    rw [hon]
    simp [BindTx.isUnconsumed]
  · have hon : (BindTx.setConsumedAt x.now).on (BindTx.isUnconsumed x.codeId) s = s := by
      simp [Table.Change.on, hp]
    rw [hon]
    rcases h with h | rfl
    · exact h s hs
    · simpa using hp

theorem BindDb.Spent.effect (hspent : db.Spent codeId) (h : c.Effect db r db') :
    db'.Spent codeId := by
  rcases h.inversion with ⟨-, ⟨attempts, rfl⟩ | ⟨p, rfl⟩⟩ | ⟨x, -, -, hcodes⟩
  · exact hspent
  · exact fun row hrow => hspent row (List.mem_filter.mp hrow).1
  · exact .consume hcodes (.inl hspent)

/-- A code that is consumed was not spent before, and is spent from then on. -/
theorem spent_of_consumes (h : c.Effect db r db') (hconsumes : consumes c r = some codeId) :
    ¬ db.Spent codeId ∧ db'.Spent codeId := by
  rcases h.inversion with ⟨hnone, -⟩ | ⟨x, hsome, ⟨row, hrow, hopen⟩, hcodes⟩
  · rw [hnone] at hconsumes
    cases hconsumes
  · cases hsome.symm.trans hconsumes
    refine ⟨fun hspent => ?_, .consume hcodes (.inr rfl)⟩
    have hclosed := hspent row hrow
    rw [hopen] at hclosed
    cases hclosed

end Effects

/-! ## Calls side by side -/

section Runs

variable {lib : BindLibrary} {db : BindDb}

/-- Calls that redeem codes, side by side. -/
abbrev RedeemPool := Pool bindCalls BindDb fun _ : RedeemArgs => AppResult String

/-- A call that redeems a code, as a task of a pool. -/
def redeemCall (lib : BindLibrary) (args : RedeemArgs) : Program bindCalls (AppResult String) :=
  (BindCodes.redeemBindCode lib args).run

/-- One step of calls side by side. -/
abbrev RedeemStep (lib : BindLibrary) : RedeemPool → RedeemPool → Prop :=
  Pool.Step (bindSemantics (ℕ × RedeemArgs)) (redeemCall lib)

/-- The `i`-th call has consumed the code. -/
def HasConsumed (P : RedeemPool) (i : ℕ) (codeId : String) : Prop :=
  ∃ e ∈ P.moment.trace, e.agent.1 = i ∧ consumes e.call e.reply = some codeId

variable {P : RedeemPool}

variable (h : Pool.Reachable (bindSemantics (ℕ × RedeemArgs)) (redeemCall lib) db P)
include h

theorem countP_consumes_le_one (codeId : String) :
    (P.moment.trace.countP fun e => consumes e.call e.reply == some codeId) ≤ 1 := by
  refine h.countP_le_one (fun db => db.Spent codeId) ?_ ?_ ?_
  · exact fun t m c r w heffect hwin => spent_of_consumes heffect (eq_of_beq hwin)
  · exact fun t m c r w heffect hspent => hspent.effect heffect
  · exact fun w w' hdrift => hdrift.elim

theorem HasConsumed.unique {i i' : ℕ} (hi : HasConsumed P i codeId) (hi' : HasConsumed P i' codeId)
    : i = i' := by
  obtain ⟨e, he, rfl, hconsumes⟩ := hi
  obtain ⟨e', he', rfl, hconsumes'⟩ := hi'
  have hsame := eq_of_countP_le_one (countP_consumes_le_one h codeId) he he'
    (beq_iff_eq.mpr hconsumes) (beq_iff_eq.mpr hconsumes')
  rw [hsame]

variable {args : RedeemArgs}

/-- What a call has exchanged up to some point is the course of it. -/
theorem course_of_reachable {i : ℕ} {q : Program bindCalls (AppResult String)}
    (hi : P.tasks[i]? = some ⟨args, some q⟩) :
    ((∀ e ∈ P.exchanges i, consumes e.1 e.2 = none) ∧ q ≠ .ret (.ok "ok")) ∨
      ∃ es' e, P.exchanges i = es' ++ [e] ∧ (∀ e' ∈ es', consumes e'.1 e'.2 = none) ∧
        (consumes e.1 e.2).isSome = true ∧ q = .ret (.ok "ok") := by
  obtain ⟨q', hgoes, hq⟩ := h.goes i args _ hi
  rw [hq q rfl]
  exact course_redeemBindCode lib args _ _ hgoes

theorem exists_hasConsumed {i : ℕ} (hi : P.Returned i args (.ok "ok")) :
    ∃! codeId, HasConsumed P i codeId := by
  rcases course_of_reachable h hi with ⟨-, hne⟩ | ⟨es', e, hes, hnone, hsome, -⟩
  · exact absurd rfl hne
  · obtain ⟨codeId, hcodeId⟩ := Option.isSome_iff_exists.mp hsome
    have hmem : ∀ codeId', HasConsumed P i codeId' ↔ consumes e.1 e.2 = some codeId' := by
      intro codeId'
      constructor
      · rintro ⟨e', he', rfl, hconsumes⟩
        -- the call consumed nothing before its last step
        have hin := Pool.mem_exchanges he'
        rw [hes] at hin
        rcases List.mem_append.mp hin with hin | hin
        · have hnothing := hnone _ hin
          rw [show consumes e'.call e'.reply = none from hnothing] at hconsumes
          cases hconsumes
        · rw [← List.mem_singleton.mp hin]
          exact hconsumes
      · intro hconsumes
        have hin : e ∈ P.exchanges i := by
          rw [hes]
          exact List.mem_append_right _ (List.mem_singleton.mpr rfl)
        obtain ⟨e', he', rfl⟩ := List.mem_map.mp hin
        obtain ⟨htrace, hagent⟩ := List.mem_filter.mp he'
        exact ⟨e', htrace, eq_of_beq hagent, hconsumes⟩
    refine ⟨codeId, (hmem codeId).mpr hcodeId, fun codeId' hconsumed => ?_⟩
    have hcodeId' := (hmem codeId').mp hconsumed
    rw [hcodeId] at hcodeId'
    exact (Option.some.inj hcodeId').symm

omit h

/-- A step of a call that consumes a code is its last one. -/
theorem returned_of_consumes {Q Q' : RedeemPool}
    (h : Pool.Reachable (bindSemantics (ℕ × RedeemArgs)) (redeemCall lib) db Q)
    (hstep : RedeemStep lib Q Q') {i : ℕ} {w : BindDb}
    (hQ : Q'.moment = Q.moment.after (i, args) c r w) (hsome : (consumes c r).isSome = true) :
    Q'.Returned i args (.ok "ok") := by
  obtain ⟨-, q, hq⟩ := hstep.of_after hQ
  have hreach : Pool.Reachable (bindSemantics (ℕ × RedeemArgs)) (redeemCall lib) db Q' :=
    Relation.ReflTransGen.tail h hstep
  rcases course_of_reachable hreach hq with ⟨hnone, -⟩ | ⟨_, _, -, -, -, rfl⟩
  · have hin : (⟨(i, args), c, r⟩ : Event bindCalls (ℕ × RedeemArgs)) ∈ Q'.moment.trace := by
      rw [hQ]
      simp
    rw [show consumes c r = none from hnone _ (Pool.mem_exchanges hin)] at hsome
    cases hsome
  · exact hq

/-- **Single-use bind codes**: a call that returns `"ok"` has consumed one code, no two calls have
consumed the same one, and no step of a call that did not return `"ok"` changes the identities or
the bindings. -/
theorem bind_codes_single_use
    (h : Pool.Reachable (bindSemantics (ℕ × RedeemArgs)) (redeemCall lib) db P) :
    (∀ i args, P.Returned i args (.ok "ok") → ∃! codeId, HasConsumed P i codeId) ∧
      (∀ i i' codeId, HasConsumed P i codeId → HasConsumed P i' codeId → i = i') ∧
      ∀ Q Q' i args c r w,
        Pool.Reachable (bindSemantics (ℕ × RedeemArgs)) (redeemCall lib) db Q →
        RedeemStep lib Q Q' → Relation.ReflTransGen (RedeemStep lib) Q' P →
        Q'.moment = Q.moment.after (i, args) c r w → ¬ P.Returned i args (.ok "ok") →
          Q'.moment.world.identities = Q.moment.world.identities ∧
            Q'.moment.world.bindings = Q.moment.world.bindings := by
  refine ⟨fun i args hi => exists_hasConsumed h hi, fun i i' codeId => HasConsumed.unique h, ?_⟩
  intro Q Q' i args c r w hQ hstep hsteps hmoment hnot
  obtain ⟨heffect, -⟩ := hstep.of_after hmoment
  rw [hmoment]
  refine tables_eq_of_effect heffect ?_
  by_contra hne
  -- a call that consumed a code has returned, and for good
  have hreturned := returned_of_consumes hQ hstep hmoment (Option.isSome_iff_ne_none.mpr hne)
  exact hnot (hreturned.steps hsteps)

/-! ## Two users with one code -/

/-- The effect of a call, with the given time and the given new id, where there is one code to
choose from. -/
def BindCall.act (now newId : String) (db : BindDb) : (c : BindCall) → Option (c.Reply × BindDb)
  | .nowRfc3339 => some (now, db)
  | .rfc3339After _ => some (none, db)
  | .newId => some (newId, db)
  | .sql (.selectLockedUntil accountId telegramUserId) =>
      some (.ok ((db.attempts.rows.find? (BindAttemptRow.isOf accountId telegramUserId)).map
        (·.lockedUntil)), db)
  | .sql (.selectOpenCode botId accountId) =>
      match db.codes.rows.filter (CodeRow.isOpen botId accountId) with
      | [r] => some (.ok (some (r.id, r.expiresAt)), db)
      | _ => none
  | .sql (.selectCodeHmac id) =>
      (db.codes.rows.find? (·.id == id)).map fun r => (.ok r.codeHmac, db)
  | .sql (.selectIdentity telegramUserId) =>
      some (.ok ((db.identities.rows.find? (IdentityRow.isTelegram telegramUserId)).map
        (fun row => (row.id, row.accountId))), db)
  | .sql (.selectBotWorkspace botId) => some (.ok (db.bots.lookup botId), db)
  | .sql (.redeem x) =>
      match (BindTx.redeem x).run db with
      | .ok (consumed, db') => some (.ok consumed, db')
      | .error _ => none
  | _ => none

theorem BindCall.effect_of_act {now newId : String} {db db' : BindDb}
    (h : c.act now newId db = some (r, db')) : c.Effect db r db' := by
  match c with
  | .nowRfc3339 | .rfc3339After _ | .newId =>
    cases h
    rfl
  | .sql (.selectLockedUntil ..) | .sql (.selectIdentity _) | .sql (.selectBotWorkspace _) =>
    cases h
    exact ⟨rfl, rfl⟩
  | .sql (.selectOpenCode botId accountId) =>
    simp only [act] at h
    split at h
    · rename_i row hrow
      cases h
      have hmem : ∀ s, s ∈ db.codes.rows ∧ s.isOpen botId accountId = true ↔ s = row := by
        intro s
        rw [← List.mem_filter, hrow, List.mem_singleton]
      refine ⟨⟨row, ((hmem row).mpr rfl).1, ((hmem row).mpr rfl).2, fun s hs hopen => ?_, rfl, rfl⟩,
        rfl⟩
      obtain rfl := (hmem s).mp ⟨hs, hopen⟩
      exact String.le_refl _
    · cases h
  | .sql (.selectCodeHmac id) =>
    obtain ⟨row, hrow, hr⟩ := Option.map_eq_some_iff.mp h
    cases hr
    exact ⟨by rw [hrow]; rfl, rfl⟩
  | .sql (.redeem x) =>
    simp only [act] at h
    split at h
    · rename_i hrun
      cases h
      exact hrun
    · cases h

/-- A code of which the digest is the code itself. -/
def sharedCode : CodeRow :=
  { id := "code-1", botId := "bot", targetAccountId := "alice", codeHmac := "ABCD"
    expiresAt := "2026-01-01T00:05:00Z", consumedAt := none, createdAt := "2026-01-01T00:00:00Z" }

def sharedCodeDb : BindDb where
  codes := ⟨[sharedCode], List.pairwise_singleton _ _⟩
  identities := .empty
  bindings := .empty
  attempts := .empty
  bots := [("bot", "workspace")]

/-- A library in which the digest of a code is the code itself. -/
def plainLibrary : BindLibrary := ⟨id, .ok⟩

def firstUser : RedeemArgs := ⟨"bot", "alice", "ABCD", "11"⟩

def secondUser : RedeemArgs := ⟨"bot", "alice", "ABCD", "12"⟩

/-- Both users pass all checks, and then their transactions run. -/
def twoRedemptions : List (Move RedeemArgs String) :=
  [.spawn firstUser, .spawn secondUser] ++
    ((List.range 6).flatMap fun _ => [.exec 0 "", .exec 1 ""]) ++
    [.exec 0 "", .exec 0 "identity-1", .exec 0 "binding-1",
      .exec 1 "", .exec 1 "identity-2", .exec 1 "binding-2", .exec 0 "", .exec 1 ""]

/-- Of two users that redeem one code, and pass all checks with it, one gets it. -/
theorem bind_codes_single_use_twice :
    ∃ P : RedeemPool, Pool.Reachable (bindSemantics (ℕ × RedeemArgs)) (redeemCall plainLibrary)
        sharedCodeDb P ∧
      P.Returned 0 firstUser (.ok "ok") ∧ P.Returned 1 secondUser (.ok "invalid") ∧
      ∃! codeId, HasConsumed P 0 codeId := by
  have hrun : ((Pool.start sharedCodeDb).follow
      (fun newId _ m (c : BindCall) => c.act "2026-01-01T00:01:00Z" newId m.world)
      (redeemCall plainLibrary) twoRedemptions).map (fun P =>
        (P.returned? 0 firstUser, P.returned? 1 secondUser)) =
          some (some (.ok "ok"), some (.ok "invalid")) := by
    decide +kernel
  obtain ⟨P, hP, hreturned⟩ := Option.map_eq_some_iff.mp hrun
  obtain ⟨hfirst, hsecond⟩ := Prod.mk.inj hreturned
  have hreachable : Pool.Reachable (bindSemantics (ℕ × RedeemArgs)) (redeemCall plainLibrary)
      sharedCodeDb P :=
    Pool.steps_of_follow (fun _ _ _ _ _ _ hact => BindCall.effect_of_act hact) hP
  have hok := Pool.returned_of_returned? hfirst
  exact ⟨P, hreachable, hok, Pool.returned_of_returned? hsecond,
    (bind_codes_single_use hreachable).1 0 firstUser hok⟩

end Runs

end ImBridge
