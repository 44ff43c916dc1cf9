import ImBridge.Bridge.Errors
import ImBridge.Interleaving.Schedule
import ImBridge.Interleaving.Serial
import ImBridge.Relational.Table

/-!
# Logins and their rate limit

A login reads whether the username is locked, compares the password with the stored hash, and
records a failure: three steps, between which other logins run. The tenth failure in a window of
fifteen minutes locks the username for as long.

Logins that do not overlap check at most ten wrong passwords before the lock. Logins that run side
by side all read the lock before any of them records its failure, and then any number of passwords
is checked.

No statement fails here, unless the row that it has to read is gone, and the clock does not advance
past the window: a time fifteen minutes before one reading is not after another reading, and a time
fifteen minutes after one reading is after every other one.

## Main definitions

* `AccountRow`, `LoginLimitRow`, `LoginDb`: the tables `accounts` and `login_rate_limits`
* `Login.authenticate`: a login
* `LoginWindow`, `loginSemantics`: the readings of the clock, and the effects of the calls
* `isWrongCheck`, `endsPeriod`: the steps that are counted, and those that end a period
* `LoginBound`: at most ten wrong passwords are checked in a period
* `LoginTriple`: what a part of a login needs and leaves behind

## Main results

* `login_bound_serial`: logins that do not overlap keep to the bound
* `eleven_wrong_passwords`: logins side by side do not
-/

namespace ImBridge

open Interleaving Relational

/-! ## The tables -/

structure AccountRow where
  id : String
  username : String
  displayName : String
  passwordHash : String
  isSystemAdmin : ℤ
  disabledAt : Option String
  legacyStHandle : Option String
  deriving DecidableEq

structure Account where
  id : String
  username : String
  displayName : String
  isSystemAdmin : Bool
  disabledAt : Option String
  legacyStHandle : Option String
  deriving DecidableEq

def AccountRow.intoAccount (r : AccountRow) : Account where
  id := r.id
  username := r.username
  displayName := r.displayName
  isSystemAdmin := r.isSystemAdmin != 0
  disabledAt := r.disabledAt
  legacyStHandle := r.legacyStHandle

structure LoginLimitRow where
  key : String
  failures : ℤ
  windowStart : String
  lockedUntil : Option String
  deriving DecidableEq

/-- The primary key `key`. -/
def LoginLimitRow.Clash (r s : LoginLimitRow) : Prop := r.key = s.key

instance : DecidableRel LoginLimitRow.Clash := fun r s =>
  inferInstanceAs (Decidable (r.key = s.key))

structure LoginDb where
  accounts : List AccountRow
  limits : Table LoginLimitRow LoginLimitRow.Clash
  deriving DecidableEq

namespace LoginDb

/-- The row of the username in `login_rate_limits`. -/
def limit? (db : LoginDb) (key : String) : Option LoginLimitRow :=
  db.limits.rows.find? (·.key == key)

/-- The update of a failure on a row that is there. Each column is set from the old row. -/
def failAgain (now windowCutoff : String) : Table.Change LoginLimitRow LoginLimitRow.Clash where
  set r :=
    { r with
      failures := if r.windowStart < windowCutoff then 1 else r.failures + 1
      windowStart := if r.windowStart < windowCutoff then now else r.windowStart
      lockedUntil := r.lockedUntil.filter fun lockedUntil => ¬ lockedUntil ≤ now }
  left _ _ := Iff.rfl
  right _ _ := Iff.rfl

/-- `SET locked_until = ?`. -/
def setLockedUntil (lockedUntil : String) : Table.Change LoginLimitRow LoginLimitRow.Clash where
  set r := { r with lockedUntil := some lockedUntil }
  left _ _ := Iff.rfl
  right _ _ := Iff.rfl

/-- The first failure is inserted, a later one counted. -/
def upsertFailure (db : LoginDb) (key now windowCutoff : String) : LoginDb :=
  match db.limits.insert? { key, failures := 1, windowStart := now, lockedUntil := none } with
  | some limits => { db with limits }
  | none => { db with limits := db.limits.update (·.key == key) (failAgain now windowCutoff) }

def lock (db : LoginDb) (key lockedUntil : String) : LoginDb :=
  { db with limits := db.limits.update (·.key == key) (setLockedUntil lockedUntil) }

def clear (db : LoginDb) (key : String) : LoginDb :=
  { db with limits := db.limits.delete (·.key == key) }

end LoginDb

/-! ## Calls -/

inductive LoginStatement
  | selectLockedUntil (key : String)
  | selectAccount (username : String)
  | upsertFailure (key now windowCutoff : String)
  | selectFailures (key : String)
  | updateLockedUntil (key lockedUntil : String)
  | deleteLimit (key : String)
  deriving DecidableEq

@[reducible] def LoginStatement.Result : LoginStatement → Type
  | selectLockedUntil _ => Option (Option String)
  | selectAccount _ => Option AccountRow
  | upsertFailure .. => Unit
  | selectFailures _ => ℤ
  | updateLockedUntil .. => Unit
  | deleteLimit _ => Unit

/-- The calls on the surroundings: statements, the slow work on passwords, and the clock. -/
inductive LoginCall
  | sql (s : LoginStatement)
  | hashPassword (password : String)
  | verifyPassword (password hash : String)
  | nowRfc3339
  | rfc3339Before (minutes : ℕ)
  | rfc3339After (minutes : ℕ)
  deriving DecidableEq

/-- The replies; a time that is computed from the clock may have no text. -/
@[reducible] def LoginCall.Reply : LoginCall → Type
  | sql s => AppResult s.Result
  | hashPassword _ => AppResult String
  | verifyPassword .. => AppResult Bool
  | nowRfc3339 => String
  | rfc3339Before _ => Option String
  | rfc3339After _ => Option String

abbrev loginCalls : Signature := ⟨LoginCall, LoginCall.Reply⟩

/-! ## A login -/

abbrev LoginTask (α : Type) := Fallible loginCalls AppError α

namespace Login

/-- Makes the call and returns its reply. -/
def ask (c : LoginCall) : Program loginCalls c.Reply := Program.perform (σ := loginCalls) c

/-- Runs the statement, and stops if it fails. -/
def sql (s : LoginStatement) : LoginTask s.Result := ExceptT.mk (ask (.sql s))

def usernameIsValid (username : String) : Bool :=
  (1 ≤ username.toList.length && username.toList.length ≤ 64) &&
    username.toList.all fun c => c.isAlphanum || c == '_' || c == '-' || c == '.'

def checkLoginRate (username : String) : LoginTask Unit := do
  match ← sql (.selectLockedUntil username) with
  | some (some lockedUntil) =>
    if (← ask .nowRfc3339) < lockedUntil then throw (.tooMany "login temporarily locked")
  | _ => pure ()

/-- The lock of the tenth failure. -/
def lockUsername (username now : String) : LoginTask Unit := do
  let lockedUntil ← ask (.rfc3339After 15)
  sql (.updateLockedUntil username (lockedUntil.getD now))

def recordLoginFailure (username : String) : LoginTask Unit := do
  let now ← ask .nowRfc3339
  let windowCutoff ← ask (.rfc3339Before 15)
  sql (.upsertFailure username now (windowCutoff.getD now))
  let failures ← sql (.selectFailures username)
  if failures ≥ 10 then lockUsername username now

def clearLoginRate (username : String) : LoginTask Unit := sql (.deleteLimit username)

/-- The failure is recorded, and the login refused. -/
def refuse (username : String) : LoginTask Account := do
  recordLoginFailure username
  throw (.unauthorized "invalid credentials")

/-- The slow work is done also for a login that is refused whatever the password is. -/
def probe (password : String) : LoginTask Account := do
  let _ ← (ExceptT.mk (ask (.hashPassword password)) : LoginTask String)
  throw (.unauthorized "invalid credentials")

/-- The password is compared with the hash of the account. -/
def verify (username password : String) (row : AccountRow) : LoginTask Account := do
  if row.disabledAt.isSome then refuse username
  else
    let matched ← (ExceptT.mk (ask (.verifyPassword password row.passwordHash)) : LoginTask Bool)
    if matched then
      clearLoginRate username
      return row.intoAccount
    else refuse username

def authenticate (username password : String) : LoginTask Account := do
  if !usernameIsValid username || (utf8 password).length > 1024 then
    probe "invalid-password-probe"
  else
    checkLoginRate username
    match ← sql (.selectAccount username) with
    | none => probe password
    | some row => verify username password row

end Login

/-! ## What calls do -/

/-- The readings of a clock that does not advance past the window, and the times fifteen minutes
before and after them. -/
structure LoginWindow where
  isNow : String → Prop
  isCutoff : String → Prop
  isLock : String → Prop
  not_lt_cutoff : ∀ now cutoff, isNow now → isCutoff cutoff → ¬ now < cutoff
  lt_lock : ∀ now lockedUntil, isNow now → isLock lockedUntil → now < lockedUntil

/-- What a statement returns and does. Failures are fetched from one row, which has to be there. -/
def LoginStatement.exec (db : LoginDb) : (s : LoginStatement) → AppResult s.Result × LoginDb
  | selectLockedUntil key => (.ok ((db.limit? key).map (·.lockedUntil)), db)
  | selectAccount username => (.ok (db.accounts.find? (·.username == username)), db)
  | upsertFailure key now windowCutoff => (.ok (), db.upsertFailure key now windowCutoff)
  | selectFailures key => ((db.limit? key).elim (.error .database) fun row => .ok row.failures, db)
  | updateLockedUntil key lockedUntil => (.ok (), db.lock key lockedUntil)
  | deleteLimit key => (.ok (), db.clear key)

/-- What a call may reply and do, with the given comparison of passwords. -/
def LoginCall.Effect (matchesHash : String → String → AppResult Bool) (window : LoginWindow)
    (db : LoginDb) : (c : LoginCall) → c.Reply → LoginDb → Prop
  | sql s, r, db' => s.exec db = (r, db')
  | hashPassword _, _, db' => db' = db
  | verifyPassword password hash, r, db' => r = matchesHash password hash ∧ db' = db
  | nowRfc3339, r, db' => window.isNow r ∧ db' = db
  | rfc3339Before _, r, db' => (∃ cutoff, r = some cutoff ∧ window.isCutoff cutoff) ∧ db' = db
  | rfc3339After _, r, db' =>
      (∃ lockedUntil, r = some lockedUntil ∧ window.isLock lockedUntil) ∧ db' = db

/-- The runs of logins side by side. -/
def loginSemantics (matchesHash : String → String → AppResult Bool) (window : LoginWindow)
    (A : Type) : Semantics loginCalls A LoginDb where
  effect _ m c r db := c.Effect matchesHash window m.world r db
  drift _ _ := False

/-! ## Periods -/

section Periods

variable {A : Type}

/-- A wrong password was compared with the stored hash. -/
def isWrongCheck (e : Event loginCalls A) : Bool :=
  match e with
  | ⟨_, .verifyPassword .., .ok false⟩ => true
  | _ => false

/-- A login succeeded, or the username was locked. -/
def endsPeriod (e : Event loginCalls A) : Bool :=
  match e with
  | ⟨_, .sql (.deleteLimit _), .ok _⟩ => true
  | ⟨_, .sql (.updateLockedUntil ..), .ok _⟩ => true
  | _ => false

/-- At most ten wrong passwords are checked from one successful login, or from the start, to the
next lock. -/
def LoginBound (trace : List (Event loginCalls A)) : Prop :=
  ∀ before period after, trace = before ++ period ++ after →
    (∀ e ∈ period, endsPeriod e = false) → period.countP isWrongCheck ≤ 10

/-- The wrong passwords of a period, after one more step. -/
def tally (n : ℕ) (e : Event loginCalls A) : ℕ :=
  if endsPeriod e then 0 else if isWrongCheck e then n + 1 else n

/-- The wrong passwords that were checked in the current period. -/
def wrongChecks (trace : List (Event loginCalls A)) : ℕ := trace.foldl tally 0

theorem wrongChecks_concat (trace : List (Event loginCalls A)) (e : Event loginCalls A) :
    wrongChecks (trace ++ [e]) = tally (wrongChecks trace) e := by
  rw [wrongChecks, List.foldl_append]
  rfl

theorem countP_le_wrongChecks (before : List (Event loginCalls A))
    {period : List (Event loginCalls A)} (hperiod : ∀ e ∈ period, endsPeriod e = false) :
    period.countP isWrongCheck ≤ wrongChecks (before ++ period) := by
  induction period using List.reverseRecOn with
  | nil => exact Nat.zero_le _
  | append_singleton period e ih =>
    have hle := ih fun e' he' => hperiod e' (List.mem_append_left _ he')
    rw [← List.append_assoc, wrongChecks_concat, tally, hperiod e (by simp), List.countP_append,
      List.countP_singleton]
    cases isWrongCheck e with
    | true | false => simpa using hle

theorem loginBound_nil : LoginBound ([] : List (Event loginCalls A)) := by
  intro before period after hsplit _
  simp only [List.nil_eq, List.append_eq_nil_iff] at hsplit
  rw [hsplit.1.2]
  exact Nat.zero_le _

/-- One more step, with the count of the current period. -/
theorem LoginBound.concat {trace : List (Event loginCalls A)} {e : Event loginCalls A}
    (h : LoginBound trace) (hcount : wrongChecks (trace ++ [e]) ≤ 10) :
    LoginBound (trace ++ [e]) := by
  intro before period after hsplit hperiod
  rcases List.eq_nil_or_concat after with rfl | ⟨after, e', rfl⟩
  · rw [List.append_nil] at hsplit
    rw [hsplit] at hcount
    exact (countP_le_wrongChecks before hperiod).trans hcount
  · rw [List.concat_eq_append, ← List.append_assoc] at hsplit
    exact h before period after (List.append_inj_left' hsplit rfl) hperiod

end Periods

/-! ## The row of a username -/

variable {now windowCutoff : String}

namespace LoginDb

variable {db : LoginDb} {key : String}

theorem pins_key (key : String) : Table.Pins LoginLimitRow.Clash (·.key == key) := by
  intro r s hr hs
  simp only [beq_iff_eq] at hr hs
  exact hr.trans hs.symm

theorem limit?_clear : (db.clear key).limit? key = none := by
  rw [limit?, clear, Table.find?_delete (pins_key key), Option.filter_eq_none_iff]
  intro r hr
  simpa using List.find?_some hr

theorem limit?_lock (lockedUntil : String) : (db.lock key lockedUntil).limit? key =
    (db.limit? key).map fun r => { r with lockedUntil := some lockedUntil } := by
  rw [limit?, lock, Table.find?_update fun _ => rfl, limit?]
  refine Option.map_congr fun r hr => ?_
  simp only [Table.Change.on, List.find?_some hr, if_true]
  rfl

/-- The first failure of a username. -/
theorem limit?_upsertFailure_none (h : db.limit? key = none) :
    (db.upsertFailure key now windowCutoff).limit? key =
      some { key, failures := 1, windowStart := now, lockedUntil := none } := by
  unfold upsertFailure
  split
  · rename_i limits hinsert
    rw [limit?, (Table.insert?_eq_some hinsert).1, List.find?_append,
      show db.limits.rows.find? _ = _ from h]
    simp
  · rename_i hinsert
    obtain ⟨s, hs, hclash⟩ := Table.insert?_eq_none hinsert
    exact absurd (beq_iff_eq.mpr hclash) (List.find?_eq_none.mp h s hs)

/-- A further failure. -/
theorem limit?_upsertFailure_some {r : LoginLimitRow} (h : db.limit? key = some r) :
    (db.upsertFailure key now windowCutoff).limit? key =
      some ((failAgain now windowCutoff).set r) := by
  have hkey : r.key = key := by simpa using List.find?_some h
  unfold upsertFailure
  split
  · rename_i limits hinsert
    exact absurd hkey ((Table.insert?_eq_some hinsert).2 r (List.mem_of_find?_eq_some h))
  · rw [limit?, Table.find?_update fun _ => rfl, show db.limits.rows.find? _ = _ from h]
    simp [Table.Change.on, hkey]

end LoginDb

/-! ## A login that is not disturbed -/

section Undisturbed

variable (window : LoginWindow) (username : String)

/-- A password may be checked, with `n` wrong ones before it: the failures are counted in the
window, and are fewer than ten; or the lock that the tenth one led to has expired. -/
inductive LoginDb.Ready : ℕ → LoginDb → Prop
  | fresh {db : LoginDb} (h : db.limit? username = none) : Ready 0 db
  | counted {db : LoginDb} (row : LoginLimitRow) (n : ℕ) (h : db.limit? username = some row)
      (hlock : row.lockedUntil = none) (hn : (n : ℤ) ≤ row.failures) (hlt : row.failures < 10)
      (hnow : window.isNow row.windowStart) : Ready n db
  | expired {db : LoginDb} (row : LoginLimitRow) (lockedUntil : String)
      (h : db.limit? username = some row) (hlock : row.lockedUntil = some lockedUntil)
      (hge : 10 ≤ row.failures) (hold : ∀ now, window.isNow now → lockedUntil ≤ now) : Ready 0 db

/-- The username is locked throughout the window. -/
def LoginDb.Locked (db : LoginDb) : Prop :=
  ∃ row lockedUntil, db.limit? username = some row ∧ row.lockedUntil = some lockedUntil ∧
    window.isLock lockedUntil

/-- One failure may not be recorded yet. -/
def LoginDb.Owed (n : ℕ) (db : LoginDb) : Prop := ∃ n₀, db.Ready window username n₀ ∧ n ≤ n₀ + 1

/-- All failures are recorded; ten of them call for a lock. -/
def LoginDb.Recorded (n : ℕ) (db : LoginDb) : Prop :=
  ∃ row, db.limit? username = some row ∧ (n : ℤ) ≤ row.failures ∧
    (row.failures < 10 → row.lockedUntil = none ∧ window.isNow row.windowStart)

/-- Between two logins. -/
def LoginDb.Between (n : ℕ) (db : LoginDb) : Prop :=
  db.Ready window username n ∨ db.Locked window username

variable {window username} {db : LoginDb} {n : ℕ}

theorem LoginDb.Ready.le_nine (h : db.Ready window username n) : n ≤ 9 := by
  cases h with
  | fresh | expired => exact Nat.zero_le _
  | counted row _ _ _ hn hlt => omega

/-- A failure is recorded. -/
theorem LoginDb.Owed.upsertFailure (h : db.Owed window username n) (hnow : window.isNow now)
    (hcutoff : window.isCutoff windowCutoff) :
    (db.upsertFailure username now windowCutoff).Recorded window username n := by
  obtain ⟨n₀, hready, hn⟩ := h
  cases hready with
  | fresh hnone =>
    refine ⟨_, LoginDb.limit?_upsertFailure_none hnone, ?_, fun _ => ⟨rfl, hnow⟩⟩
    simp only
    omega
  | counted row _ hrow hlock hn₀ hlt hstart =>
    refine ⟨_, LoginDb.limit?_upsertFailure_some hrow, ?_, fun _ => ?_⟩
    · -- the window has not passed, so the failure is counted
      simp only [LoginDb.failAgain, if_neg (window.not_lt_cutoff _ _ hstart hcutoff)]
      omega
    · simp only [LoginDb.failAgain, if_neg (window.not_lt_cutoff _ _ hstart hcutoff), hlock]
      exact ⟨rfl, hstart⟩
  | expired row lockedUntil hrow hlock hge hold =>
    refine ⟨_, LoginDb.limit?_upsertFailure_some hrow, ?_, fun hlt => ?_⟩
    · simp only [LoginDb.failAgain]
      split <;> omega
    · -- a window that goes on has had its ten failures
      by_cases hpassed : row.windowStart < windowCutoff
      · simp only [LoginDb.failAgain, if_pos hpassed, hlock]
        exact ⟨by simp [Option.filter, hold now hnow], hnow⟩
      · simp only [LoginDb.failAgain, if_neg hpassed] at hlt
        omega

/-- Only a username that is not locked is ready for a further password. -/
theorem LoginDb.Between.ready (h : db.Between window username n) {locked : Option (Option String)}
    (hlocked : locked = (db.limit? username).map (·.lockedUntil))
    (hopen : ∀ lockedUntil, locked = some (some lockedUntil) → ¬ window.isLock lockedUntil) :
    db.Ready window username n := by
  rcases h with hready | ⟨row, lockedUntil, hrow, hlock, hlocks⟩
  · exact hready
  · rw [hrow, Option.map_some, hlock] at hlocked
    exact absurd hlocks (hopen lockedUntil hlocked)

variable {A : Type} {m : Moment loginCalls A LoginDb} {R R' : ℕ → LoginDb → Prop}

/-- The bound has held so far, and `R` holds of the wrong passwords of the current period. -/
structure LoginState (R : ℕ → LoginDb → Prop) (m : Moment loginCalls A LoginDb) : Prop where
  bound : LoginBound m.trace
  count : wrongChecks m.trace ≤ 10
  rel : R (wrongChecks m.trace) m.world

/-- The bound holds so far. -/
abbrev BoundSoFar (m : Moment loginCalls A LoginDb) : Prop := LoginBound m.trace

variable (matchesHash : String → String → AppResult Bool) (t : A) {α β : Type}

variable (window username) in
/-- **What a part of a login needs and leaves behind**, of the wrong passwords of the period and of
the tables: after success `Q`, and after an error what holds between two logins. -/
def LoginTriple (R : ℕ → LoginDb → Prop) (p : LoginTask α) (Q : α → ℕ → LoginDb → Prop) : Prop :=
  ∀ m, LoginState R m → Keeps (loginSemantics matchesHash window A) t BoundSoFar
    (fun r m' => Fallible.onResult (fun a => LoginState (Q a) m')
      (fun _ => LoginState (LoginDb.Between window username) m') r) p.run m

variable {matchesHash t} {p : LoginTask α} {Q : α → ℕ → LoginDb → Prop}

theorem LoginTriple.bind {f : α → LoginTask β} {Q' : β → ℕ → LoginDb → Prop}
    (hp : LoginTriple window username matchesHash t R p Q)
    (hf : ∀ a, LoginTriple window username matchesHash t (Q a) (f a) Q') :
    LoginTriple window username matchesHash t R (p >>= f) Q' :=
  fun m h => Keeps.tryBind (fun a => LoginState (Q a)) (hp m h) hf

theorem LoginTriple.given (hp : LoginTriple window username matchesHash t R p Q)
    (h : ∀ n db, R' n db → R n db) : LoginTriple window username matchesHash t R' p Q :=
  fun m hm => hp m ⟨hm.bound, hm.count, h _ _ hm.rel⟩

theorem LoginTriple.pure {a : α} (h : ∀ n db, R n db → Q a n db) :
    LoginTriple window username matchesHash t R (pure a) Q :=
  fun _ hm => ⟨hm.bound, hm.count, h _ _ hm.rel⟩

theorem LoginTriple.throw {e : AppError} (h : ∀ n db, R n db → db.Between window username n) :
    LoginTriple window username matchesHash t R (throw e) Q :=
  fun _ hm => ⟨hm.bound, hm.count, h _ _ hm.rel⟩

/-- **One call.** -/
theorem LoginTriple.call {c : LoginCall} {g : c.Reply → AppResult α}
    (hp : p.run = .call c fun r => .ret (g r))
    (h : ∀ n db r db', n ≤ 10 → R n db → c.Effect matchesHash window db r db' →
      tally n (⟨t, c, r⟩ : Event loginCalls A) ≤ 10 ∧
      Fallible.onResult (fun a => Q a (tally n (⟨t, c, r⟩ : Event loginCalls A)) db')
        (fun _ => db'.Between window username (tally n (⟨t, c, r⟩ : Event loginCalls A))) (g r)) :
    LoginTriple window username matchesHash t R p Q := by
  intro m hm
  rw [hp]
  intro r w he
  obtain ⟨hle, hrel⟩ := h _ _ r w hm.count hm.rel he
  rw [← wrongChecks_concat] at hle hrel
  have hbound : LoginBound (m.trace ++ [⟨t, c, r⟩]) := hm.bound.concat hle
  refine ⟨hbound, ?_⟩
  show Fallible.onResult _ _ (g r)
  cases hr : g r with
  | ok a =>
    rw [hr] at hrel
    exact ⟨hbound, hle, hrel⟩
  | error e =>
    rw [hr] at hrel
    exact ⟨hbound, hle, hrel⟩

/-- **The check of the lock.** A username that is locked does not pass it. -/
theorem triple_checkLoginRate :
    LoginTriple window username matchesHash t (LoginDb.Between window username)
      (Login.checkLoginRate username) fun _ => LoginDb.Ready window username := by
  refine .bind (Q := fun locked n db => db.Between window username n ∧
    locked = (db.limit? username).map (·.lockedUntil)) (.call rfl ?_) fun locked => ?_
  · rintro n db r _ hn hR ⟨⟩
    exact ⟨hn, hR, rfl⟩
  · match locked with
    | none => exact .pure fun n db h => h.1.ready h.2 nofun
    | some none => exact .pure fun n db h => h.1.ready h.2 nofun
    | some (some lockedUntil) =>
      refine .bind (Q := fun now n db => window.isNow now ∧ db.Between window username n ∧
        some (some lockedUntil) = (db.limit? username).map (·.lockedUntil)) (.call rfl ?_)
        fun now => ?_
      · rintro n db r _ hn hR ⟨hnow, rfl⟩
        exact ⟨hn, hnow, hR⟩
      · split
        · exact .throw fun n db h => h.2.1
        · rename_i hpassed
          refine .pure fun n db h => h.2.1.ready h.2.2 fun lockedUntil' heq hlocks => ?_
          cases heq
          exact hpassed (window.lt_lock now lockedUntil h.1 hlocks)

/-- The lock, which ends the period. -/
theorem triple_lockUsername {now : String} :
    LoginTriple window username matchesHash t (fun _ db => ∃ row, db.limit? username = some row)
      (Login.lockUsername username now) fun _ => LoginDb.Between window username := by
  refine .bind (Q := fun lockedUntil _ db => (∃ u, lockedUntil = some u ∧ window.isLock u) ∧
    ∃ row, db.limit? username = some row) (.call rfl ?_) fun lockedUntil => .call rfl ?_
  · rintro n db r _ hn hR ⟨hlock, rfl⟩
    exact ⟨hn, hlock, hR⟩
  · rintro n db r _ hn ⟨⟨u, rfl, hlock⟩, row, hrow⟩ ⟨⟩
    have hlocked : (db.lock username u).Locked window username :=
      ⟨_, u, by rw [LoginDb.limit?_lock, hrow, Option.map_some], rfl, hlock⟩
    exact ⟨Nat.zero_le _, .inr hlocked⟩

/-- **The record of a failure**, which locks the username at the tenth one. -/
theorem triple_recordLoginFailure :
    LoginTriple window username matchesHash t (LoginDb.Owed window username)
      (Login.recordLoginFailure username) fun _ => LoginDb.Between window username := by
  refine .bind (Q := fun now n db => window.isNow now ∧ db.Owed window username n) (.call rfl ?_)
    fun now => ?_
  · rintro n db r _ hn hR ⟨hnow, rfl⟩
    exact ⟨hn, hnow, hR⟩
  refine .bind (Q := fun windowCutoff n db => (∃ cutoff, windowCutoff = some cutoff ∧
    window.isCutoff cutoff) ∧ window.isNow now ∧ db.Owed window username n) (.call rfl ?_)
    fun windowCutoff => ?_
  · rintro n db r _ hn hR ⟨hcutoff, rfl⟩
    exact ⟨hn, hcutoff, hR⟩
  refine .bind (Q := fun _ => LoginDb.Recorded window username) (.call rfl ?_) fun _ => ?_
  · rintro n db r _ hn ⟨⟨cutoff, rfl, hcutoff⟩, hnow, howed⟩ ⟨⟩
    exact ⟨hn, howed.upsertFailure hnow hcutoff⟩
  refine .bind (Q := fun failures n db => db.Recorded window username n ∧
    (db.limit? username).map (·.failures) = some failures) (.call rfl ?_) fun failures => ?_
  · intro n db r db' hn hR he
    obtain ⟨row, hrow, -⟩ := id hR
    simp only [LoginCall.Effect, LoginStatement.exec, hrow, Option.elim_some] at he
    cases he
    exact ⟨hn, hR, congrArg (Option.map (·.failures)) hrow⟩
  split
  · refine triple_lockUsername.given ?_
    rintro n db ⟨⟨row, hrow, -⟩, -⟩
    exact ⟨row, hrow⟩
  · rename_i hfew
    refine .pure ?_
    rintro n db ⟨⟨row, hrow, hn, hopen⟩, hfailures⟩
    have hfailures' : row.failures = failures := by simpa [hrow] using hfailures
    -- fewer than ten: the next password may be checked
    have hlt : row.failures < 10 := by
      rw [hfailures']
      exact Int.not_le.mp hfew
    exact .inl (.counted row n hrow (hopen hlt).1 hn hlt (hopen hlt).2)

theorem triple_refuse :
    LoginTriple window username matchesHash t (LoginDb.Owed window username)
      (Login.refuse username) fun _ => LoginDb.Between window username :=
  triple_recordLoginFailure.bind fun _ => .throw fun _ _ h => h

theorem triple_probe (password : String) :
    LoginTriple window username matchesHash t (LoginDb.Between window username)
      (Login.probe password) fun _ => LoginDb.Between window username := by
  refine .bind (Q := fun _ => LoginDb.Between window username) (.call rfl ?_)
    fun _ => .throw fun _ _ h => h
  rintro n db r _ hn hR rfl
  cases r <;> exact ⟨hn, hR⟩

/-- **The comparison of the password**: a wrong one is one more failure that is not recorded yet. -/
theorem triple_verify (password : String) (row : AccountRow) :
    LoginTriple window username matchesHash t (LoginDb.Ready window username)
      (Login.verify username password row) fun _ => LoginDb.Between window username := by
  unfold Login.verify
  split
  · exact triple_refuse.given fun n db hready => ⟨n, hready, Nat.le_succ n⟩
  · refine .bind (Q := fun matched => if matched then LoginDb.Ready window username
      else LoginDb.Owed window username) (.call rfl ?_) fun matched => ?_
    · rintro n db r _ hn hR ⟨-, rfl⟩
      match r with
      | .ok true => exact ⟨hn, hR⟩
      | .ok false => exact ⟨Nat.succ_le_succ hR.le_nine, n, hR, Nat.le_refl _⟩
      | .error e => exact ⟨hn, .inl hR⟩
    · cases matched with
      | false => exact triple_refuse
      | true =>
        refine .bind (Q := fun _ => LoginDb.Between window username) (.call rfl ?_)
          fun _ => .pure fun _ _ h => h
        rintro n db r _ hn hR ⟨⟩
        exact ⟨Nat.zero_le _, .inl (.fresh LoginDb.limit?_clear)⟩

/-- **A login on its own**: it keeps to the bound at every step. -/
theorem triple_authenticate (password : String) :
    LoginTriple window username matchesHash t (LoginDb.Between window username)
      (Login.authenticate username password) fun _ => LoginDb.Between window username := by
  unfold Login.authenticate
  split
  · exact triple_probe _
  · refine triple_checkLoginRate.bind fun _ => ?_
    refine .bind (Q := fun _ => LoginDb.Ready window username) (.call rfl ?_) fun row => ?_
    · rintro n db r _ hn hR ⟨⟩
      exact ⟨hn, hR⟩
    · cases row with
      | none => exact (triple_probe password).given fun _ _ => .inl
      | some row => exact triple_verify password row

end Undisturbed

/-! ## Logins of one username -/

section Runs

variable {matchesHash : String → String → AppResult Bool} {window : LoginWindow} {username : String}
  {db : LoginDb}

/-- Logins of one username, side by side; each has its password. -/
abbrev LoginPool := Pool loginCalls LoginDb fun _ : String => AppResult Account

/-- A login as a task of a pool. -/
def loginCall (username password : String) : Program loginCalls (AppResult Account) :=
  (Login.authenticate username password).run

/-- The username has had a successful login last, or its lock has expired. -/
def LoginDb.StartsPeriod (window : LoginWindow) (username : String) (db : LoginDb) : Prop :=
  db.limit? username = none ∨ ∃ row lockedUntil, db.limit? username = some row ∧
    row.lockedUntil = some lockedUntil ∧ 10 ≤ row.failures ∧
      ∀ now, window.isNow now → lockedUntil ≤ now

theorem LoginDb.StartsPeriod.ready (h : db.StartsPeriod window username) :
    db.Ready window username 0 := by
  rcases h with hnone | ⟨row, lockedUntil, hrow, hlock, hge, hold⟩
  · exact .fresh hnone
  · exact .expired row lockedUntil hrow hlock hge hold

/-- **Logins that do not overlap keep to the bound**: in each of their runs at most ten wrong
passwords are checked in a period. -/
theorem login_bound_serial {P : LoginPool} (hstart : db.StartsPeriod window username)
    (h : Pool.SerialReachable (loginSemantics matchesHash window (ℕ × String)) (loginCall username)
      db P) : LoginBound P.moment.trace := by
  refine Pool.SerialReachable.good BoundSoFar
    (LoginState (LoginDb.Between window username)) h ?_ ?_ loginBound_nil ?_
  · exact fun w w' hdrift => hdrift
  · refine fun t m _ hidle => (triple_authenticate t.2 m hidle).imp fun r m' hpost => ?_
    cases r <;> exact hpost
  · exact ⟨loginBound_nil, Nat.zero_le _, .inl hstart.ready⟩

/-! ## Eleven wrong passwords -/

/-- A window in which the clock stands still. -/
def stillWindow : LoginWindow where
  isNow now := now = "2026-01-01T12:00:00Z"
  isCutoff cutoff := cutoff = "2026-01-01T11:45:00Z"
  isLock lockedUntil := lockedUntil = "2026-01-01T12:15:00Z"
  not_lt_cutoff := by
    rintro _ _ rfl rfl
    decide
  lt_lock := by
    rintro _ _ rfl rfl
    decide

/-- A hash that is the password itself. -/
def plainHash (password hash : String) : AppResult Bool := .ok (password == hash)

/-- The effect of a call while the clock stands still. -/
def LoginCall.act (c : LoginCall) (db : LoginDb) : c.Reply × LoginDb :=
  match c with
  | .sql s => s.exec db
  | .hashPassword password => (.ok password, db)
  | .verifyPassword password hash => (plainHash password hash, db)
  | .nowRfc3339 => ("2026-01-01T12:00:00Z", db)
  | .rfc3339Before _ => (some "2026-01-01T11:45:00Z", db)
  | .rfc3339After _ => (some "2026-01-01T12:15:00Z", db)

def aliceRow : AccountRow :=
  { id := "1", username := "alice", displayName := "Alice", passwordHash := "secret"
    isSystemAdmin := 0, disabledAt := none, legacyStHandle := none }

/-- One account, and no failures. -/
def aliceDb : LoginDb := ⟨[aliceRow], .empty⟩

theorem LoginCall.effect_act (c : LoginCall) (db : LoginDb) :
    c.Effect plainHash stillWindow db (c.act db).1 (c.act db).2 := by
  match c with
  | .sql _ | .hashPassword _ => exact rfl
  | .verifyPassword .. => exact ⟨rfl, rfl⟩
  | .nowRfc3339 => exact ⟨rfl, rfl⟩
  | .rfc3339Before _ | .rfc3339After _ => exact ⟨⟨_, rfl, rfl⟩, rfl⟩

/-- Eleven logins with a wrong password read the lock, and then check their passwords. -/
def elevenLogins : List (Move String Unit) :=
  List.replicate 11 (.spawn "guess") ++
    (List.range 3).flatMap fun _ => (List.range 11).map fun i => .exec i ()

/-- **Logins side by side check more than ten wrong passwords**: eleven of them read the lock before
any of them records its failure. -/
theorem eleven_wrong_passwords : ∃ P : LoginPool,
    aliceDb.StartsPeriod stillWindow "alice" ∧
      Pool.Reachable (loginSemantics plainHash stillWindow (ℕ × String)) (loginCall "alice")
        aliceDb P ∧
        ¬ LoginBound P.moment.trace := by
  have hrun : ((Pool.start aliceDb).follow
      (fun (_ : Unit) _ m (c : LoginCall) => some (c.act m.world))
      (loginCall "alice") elevenLogins).map (fun P =>
        (P.moment.trace.all fun e => !endsPeriod e, P.moment.trace.countP isWrongCheck)) =
          some (true, 11) := by
    decide +kernel
  obtain ⟨P, hP, hcounts⟩ := Option.map_eq_some_iff.mp hrun
  obtain ⟨hall, hcount⟩ := Prod.mk.inj hcounts
  refine ⟨P, .inl rfl, ?_, fun hbound => ?_⟩
  · refine Pool.steps_of_follow (fun _ t m c r w hact => ?_) hP
    have heffect := LoginCall.effect_act c m.world
    rw [Option.some.inj hact] at heffect
    exact heffect
  · have hle := hbound [] P.moment.trace [] (by simp) fun e he => by
      simpa using List.all_eq_true.mp hall e he
    omega

/-- Eleven logins one after the other lock the username. -/
theorem login_bound_serial_eleven : ∃ P : LoginPool,
    aliceDb.StartsPeriod stillWindow "alice" ∧
      Pool.SerialReachable (loginSemantics plainHash stillWindow (ℕ × String)) (loginCall "alice")
        aliceDb P ∧
      (P.moment.world.limit? "alice").map (fun row => (row.failures, row.lockedUntil)) =
        some (10, some "2026-01-01T12:15:00Z") ∧
      LoginBound P.moment.trace := by
  obtain ⟨P, hP, hworld, -⟩ := Pool.exists_serialReachable_runs
    (loginSemantics plainHash stillWindow (ℕ × String)) (loginCall "alice")
    (fun (c : LoginCall) db => c.act db) (fun _ _ m c => LoginCall.effect_act c m.world) aliceDb
    (List.replicate 11 "guess")
  refine ⟨P, .inl rfl, hP, ?_, login_bound_serial (.inl rfl) hP⟩
  rw [hworld]
  decide +kernel

end Runs

end ImBridge
