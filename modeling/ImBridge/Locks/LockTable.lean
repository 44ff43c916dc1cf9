import ImBridge.Interleaving.Pool

/-!
# The table of locks

A lock for each key, made when it is asked for. The table keeps one reference to each lock. Everyone
who waits for a lock, holds it or is about to drop it has a reference too, so an entry to whose lock
there is only one reference is idle and may go: after some time, or when its place is needed. The
entries are changed only by the one who has the mutex of the table; the references are dropped at
any time, and counted one lock after the other.

## Main definitions

* `LockWorld`: the entries, the mutex of the table, the references outside of it, and the clock
* `LockCall`, `lockSemantics`: the steps of the callers, down to the single count
* `LockTable.acquire`, `LockTable.dropGuard`, `LockTable.prune`: the table
* `LockJob`, `LockTable.body`: callers that acquire a lock and drop it later, that prune the table,
  or that inspect it
-/

namespace ImBridge

open Interleaving

/-- What a caller does: it asks for the lock of a key and drops it later, or it prunes or inspects
the table. -/
inductive LockJob
  | hold (key : String)
  | prune
  | len
  | contains (key : String)
  | activeCount
  deriving DecidableEq

abbrev LockAgent := ℕ × LockJob

/-! ## The table and the references -/

/-- An entry of the table. A lock is known by its address. -/
structure LockEntry where
  lock : ℕ
  lastUsed : ℕ
  deriving DecidableEq

/-- What the owner of a reference does with it: it waits for the lock, holds it, or drops the
reference. -/
inductive RefStage
  | waiting
  | holding
  | leaving
  deriving DecidableEq

/-- A reference to a lock outside of the table. -/
structure LockRef where
  agent : LockAgent
  lock : ℕ
  stage : RefStage
  deriving DecidableEq

/-- The entries, who has the mutex of the table, the references outside of it, and the time. -/
structure LockWorld where
  entries : List (String × LockEntry)
  owner : Option LockAgent
  refs : List LockRef
  clock : ℕ

namespace LockWorld

/-- No entries, and no references. -/
def empty (clock : ℕ) : LockWorld := ⟨[], none, [], clock⟩

/-- The number of references to a lock, the one of the table included. -/
def strongCount (w : LockWorld) (lock : ℕ) : ℕ :=
  w.entries.countP (·.2.lock == lock) + w.refs.countP (·.lock == lock)

/-- Sets what the agent does with its reference. -/
def setStage (w : LockWorld) (t : LockAgent) (stage : RefStage) : LockWorld :=
  { w with refs := w.refs.map fun r => if r.agent = t then { r with stage } else r }

def setLastUsed (w : LockWorld) (key : String) (now : ℕ) : LockWorld :=
  { w with entries := w.entries.map fun e =>
      if e.1 = key then (e.1, { e.2 with lastUsed := now }) else e }

end LockWorld

/-! ## Calls -/

/-- How the wait for a mutex ends: it is granted, or the caller is dropped. -/
inductive WaitEnd
  | granted
  | cancelled
  deriving DecidableEq

/-- The steps of the callers. -/
inductive LockCall
  | lockEntries
  | unlockEntries
  | instantNow
  | keys
  | containsKey (key : String)
  | len
  | strongCount (key : String)
  | lastUsed (key : String)
  | remove (key : String)
  | orInsert (key : String) (now : ℕ)
  | setLastUsed (key : String) (now : ℕ)
  | cloneLock (key : String)
  | lockOwned
  | unlock
  | dropRef

@[reducible] def LockCall.Reply : LockCall → Type
  | lockEntries => WaitEnd
  | unlockEntries => Unit
  | instantNow => ℕ
  | keys => List String
  | containsKey _ => Bool
  | len => ℕ
  | strongCount _ => ℕ
  | lastUsed _ => ℕ
  | remove _ => Unit
  | orInsert .. => Unit
  | setLastUsed .. => Unit
  | cloneLock _ => Unit
  | lockOwned => WaitEnd
  | unlock => Unit
  | dropRef => Unit

abbrev lockCalls : Signature := ⟨LockCall, LockCall.Reply⟩

/-- What a call may reply and do. The entries come in any order, a new lock has an address that is
not in use, and a lock is granted when nobody holds it, in any order. Nothing here keeps a caller
without the mutex of the table from the entries. -/
def LockCall.Effect (t : LockAgent) (w : LockWorld) :
    (c : LockCall) → c.Reply → LockWorld → Prop
  | lockEntries, .granted, w' => w.owner = none ∧ w' = { w with owner := some t }
  | lockEntries, .cancelled, w' => w' = w
  | unlockEntries, _, w' => w' = { w with owner := none }
  | instantNow, n, w' => n = w.clock ∧ w' = w
  | keys, ks, w' => ks.Perm (w.entries.map Prod.fst) ∧ w' = w
  | containsKey key, b, w' => b = (w.entries.lookup key).isSome ∧ w' = w
  | len, n, w' => n = w.entries.length ∧ w' = w
  | strongCount key, n, w' =>
      n = ((w.entries.lookup key).map fun e => w.strongCount e.lock).getD 0 ∧ w' = w
  | lastUsed key, n, w' => n = ((w.entries.lookup key).map (·.lastUsed)).getD 0 ∧ w' = w
  | remove key, _, w' => w' = { w with entries := w.entries.filter (·.1 != key) }
  | orInsert key now, _, w' =>
      if (w.entries.lookup key).isSome then w' = w
      else ∃ lock, (∀ e ∈ w.entries, e.2.lock ≠ lock) ∧ (∀ r ∈ w.refs, r.lock ≠ lock) ∧
        w' = { w with entries := w.entries ++ [(key, ⟨lock, now⟩)] }
  | setLastUsed key now, _, w' => w' = w.setLastUsed key now
  | cloneLock key, _, w' => ∃ e, w.entries.lookup key = some e ∧
      w' = { w with refs := w.refs ++ [⟨t, e.lock, .waiting⟩] }
  | lockOwned, .granted, w' => ∃ r ∈ w.refs, r.agent = t ∧
      (∀ r' ∈ w.refs, r'.stage = .holding → r'.lock ≠ r.lock) ∧ w' = w.setStage t .holding
  | lockOwned, .cancelled, w' => w' = w.setStage t .leaving
  | unlock, _, w' => w' = w.setStage t .leaving
  | dropRef, _, w' => w' = { w with refs := w.refs.filter (·.agent != t) }

/-- Time passes. -/
def lockSemantics : Semantics lockCalls LockAgent LockWorld where
  effect t m c r w := c.Effect t m.world r w
  drift w w' := ∃ clock, w.clock ≤ clock ∧ w' = { w with clock }

abbrev LockTask (α : Type) := Program lockCalls α

/-! ## The table -/

structure LockTable where
  capacity : ℕ
  ttl : ℕ

/-- How a request for a lock ends. -/
inductive AcquireEnd
  | guard
  | atCapacity
  | cancelled
  deriving DecidableEq

namespace LockTable

/-- Makes the call and returns its reply. -/
def ask (c : LockCall) : LockTask c.Reply := Program.perform (σ := lockCalls) c

variable (self : LockTable)

/-- Removes the entry if it is idle and has not been asked for in a while. -/
def expire (now : ℕ) (key : String) : LockTask Unit := do
  let count ← ask (.strongCount key)
  if 1 < count then return ()
  else
    let lastUsed ← ask (.lastUsed key)
    if now - lastUsed < self.ttl then return () else ask (.remove key)

def retain (now : ℕ) : LockTask Unit := do
  let keys ← ask .keys
  keys.forM (self.expire now)

/-- The better of the best idle entry so far and the next one, the first one of several. -/
def olderIdle (best : Option (String × ℕ)) (key : String) : LockTask (Option (String × ℕ)) := do
  let count ← ask (.strongCount key)
  if count = 1 then
    let lastUsed ← ask (.lastUsed key)
    match best with
    | none => return some (key, lastUsed)
    | some (oldest, least) =>
      return if lastUsed < least then some (key, lastUsed) else some (oldest, least)
  else return best

/-- The idle entry that was last asked for at the earliest time. -/
def oldestIdle : LockTask (Option (String × ℕ)) := do
  let keys ← ask .keys
  keys.foldlM olderIdle none

/-- Evicts an idle entry if the table is full, and says whether there is room for the key. -/
def makeRoom (key : String) : LockTask Bool := do
  let found ← ask (.containsKey key)
  if found then return true
  else
    let len ← ask .len
    if len < self.capacity then return true
    else
      match ← oldestIdle with
      | none => return false
      | some (victim, _) => do
        ask (.remove victim)
        return true

/-- The entry of the key, with a new reference to its lock. -/
def claim (key : String) (now : ℕ) : LockTask Unit := do
  ask (.orInsert key now)
  ask (.setLastUsed key now)
  ask (.cloneLock key)

/-- Waits for the lock. A caller that is dropped while it waits drops its reference. -/
def lockOwned : LockTask AcquireEnd := do
  match ← ask .lockOwned with
  | .granted => return .guard
  | .cancelled => do
    ask .dropRef
    return .cancelled

/-- What is done with the mutex of the table. -/
def acquireLocked (key : String) : LockTask AcquireEnd := do
  let now ← ask .instantNow
  self.retain now
  let room ← self.makeRoom key
  if room then
    claim key now
    ask .unlockEntries
    lockOwned
  else
    ask .unlockEntries
    return .atCapacity

def acquire (key : String) : LockTask AcquireEnd :=
  if self.capacity = 0 then return .atCapacity
  else do
    match ← ask .lockEntries with
    | .granted => self.acquireLocked key
    | .cancelled => return .cancelled

/-- Unlocks, and then drops the reference. -/
def dropGuard : LockTask Unit := do
  ask .unlock
  ask .dropRef

/-- A task that has the mutex of the table, unless its caller is dropped before it gets it. -/
def withEntries {α : Type} (task : LockTask α) : LockTask (Option α) := do
  match ← ask .lockEntries with
  | .granted =>
    let a ← task
    ask .unlockEntries
    return some a
  | .cancelled => return none

def len : LockTask (Option ℕ) := withEntries (ask .len)

def contains (key : String) : LockTask (Option Bool) := withEntries (ask (.containsKey key))

/-- The number of entries among the given ones that are in use. -/
def countActive (keys : List String) : LockTask ℕ :=
  keys.foldlM (fun n key => do
    let count ← ask (.strongCount key)
    return if 1 < count then n + 1 else n) 0

def activeCount : LockTask (Option ℕ) :=
  withEntries do
    let keys ← ask .keys
    countActive keys

def prune : LockTask (Option ℕ) :=
  withEntries do
    let now ← ask .instantNow
    let before ← ask .len
    self.retain now
    let after ← ask .len
    return before - after

/-- Acquires the lock, and drops the guard some time later. -/
def hold (key : String) : LockTask AcquireEnd := do
  match ← self.acquire key with
  | .guard => do
    dropGuard
    return .guard
  | other => return other

end LockTable

@[reducible] def LockJob.Out : LockJob → Type
  | hold _ => AcquireEnd
  | prune => Option ℕ
  | len => Option ℕ
  | contains _ => Option Bool
  | activeCount => Option ℕ

def LockTable.body (self : LockTable) : (j : LockJob) → LockTask j.Out
  | .hold key => self.hold key
  | .prune => self.prune
  | .len => LockTable.len
  | .contains key => LockTable.contains key
  | .activeCount => LockTable.activeCount

abbrev LockPool := Pool lockCalls LockWorld LockJob.Out

end ImBridge
