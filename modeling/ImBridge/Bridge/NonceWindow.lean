import ImBridge.Bridge.ConnectorHmac
import ImBridge.Sequential

/-!
# Replay protection

The check of a signature remembers the nonces of the requests it has accepted, and a nonce may be
forgotten once its time is behind the window in which requests are accepted at all. Forgetting is
safe: the bound below which nonces are pruned only moves forward with the clock, so that a request
whose nonce is no longer known is refused for its time.

## Main definitions

* `NonceCheck`: a check that works on the set of nonces; what it changes there stays if it fails
* `verifyIn`: `verify` as such a check
* `NonceEvent`, `visits`: a run of checks and prunings on one set

## Main results

* `run_verifyIn`: the check in place and `verify` agree
* `Guarded.step`: a request that was accepted stays guarded, by its nonce or by its time
* `accepted_once`: no request is accepted twice, and a check that fails changes nothing
-/

namespace ImBridge

namespace ConnectorHmac

/-! ## The check in place -/

/-- A check that works on the nonces seen so far. What it has changed is kept when it fails. -/
abbrev NonceCheck (α : Type) : Type := ExceptT ConnectorHmacError (StateM MemoryNonceSet) α

namespace NonceCheck

variable {α β : Type}

/-- The outcome of a check, and the nonces after it. -/
def runIn (check : NonceCheck α) (seen : MemoryNonceSet) :
    Except ConnectorHmacError α × MemoryNonceSet := StateT.run (ExceptT.run check) seen

/-- A part of the check that does not look at the nonces. -/
def pureCheck (x : Except ConnectorHmacError α) : NonceCheck α := ExceptT.mk (pure x)

theorem runIn_pureCheck_bind (x : Except ConnectorHmacError α) (f : α → NonceCheck β)
    (seen : MemoryNonceSet) :
    runIn (pureCheck x >>= f) seen =
      match x with
      | .ok a => runIn (f a) seen
      | .error e => (.error e, seen) := by
  cases x <;> rfl

end NonceCheck

open NonceCheck

namespace MemoryNonceSet

/-- `insertIfFresh` on the set itself. -/
def insertIfFreshIn (nonce : String) (ts : ℤ) : NonceCheck Unit := do
  let self ← get
  if self.contains nonce then throw .nonceReplay
  else set (⟨(nonce, ts) :: self.inner⟩ : MemoryNonceSet)

def pruneOlderThan (self : MemoryNonceSet) (minTs : ℤ) : MemoryNonceSet :=
  ⟨self.inner.filter fun entry => decide (minTs ≤ entry.2)⟩

end MemoryNonceSet

/-- `verify` on the set itself. -/
def verifyIn (lib : Primitives) (key : Bytes) (req : ConnectorHmacRequest) (providedHex : String)
    (nowUnix : ℤ) : NonceCheck Unit := do
  pureCheck (ensure (req.contentType == allowedContentType) .mediaType)
  pureCheck (ensure (pathIsLegal req.path) .invalidPath)
  let _ ← pureCheck (normalizeQuery req.query)
  pureCheck (ensure (nonceIsValid req.nonce) .invalidNonce)
  pureCheck (ensure (decide ((req.timestampUnix - nowUnix).natAbs ≤ maxSkewSecs)) .timestampSkew)
  let seenNonces ← get
  pureCheck (ensure (!seenNonces.contains req.nonce) .nonceReplay)
  let canonical ← pureCheck (canonicalString lib req)
  let expected ← pureCheck (sign lib key canonical)
  pureCheck (ensure (toAsciiLowercase providedHex == expected) .signatureMismatch)
  MemoryNonceSet.insertIfFreshIn req.nonce req.timestampUnix

/-- What a check on a copy of the nonces comes to on the set itself. -/
def inPlace (seen : MemoryNonceSet) :
    Except ConnectorHmacError MemoryNonceSet → Except ConnectorHmacError Unit × MemoryNonceSet
  | .ok seen' => (.ok (), seen')
  | .error e => (.error e, seen)

theorem runIn_insertIfFreshIn (nonce : String) (ts : ℤ) (seen : MemoryNonceSet) :
    runIn (MemoryNonceSet.insertIfFreshIn nonce ts) seen =
      inPlace seen (seen.insertIfFresh nonce ts) := by
  change runIn (if seen.contains nonce then throw .nonceReplay
    else set (⟨(nonce, ts) :: seen.inner⟩ : MemoryNonceSet)) seen = _
  unfold MemoryNonceSet.insertIfFresh
  split
  · rfl
  · rfl

variable {seen : MemoryNonceSet}

/-- Each part of the check in place goes with the same part on a copy. -/
theorem runIn_pureCheck_bind_eq {α : Type} (x : Except ConnectorHmacError α)
    {f : α → NonceCheck Unit} {g : α → Except ConnectorHmacError MemoryNonceSet}
    (h : ∀ a, runIn (f a) seen = inPlace seen (g a)) :
    runIn (pureCheck x >>= f) seen = inPlace seen (x >>= g) := by
  rw [runIn_pureCheck_bind]
  cases x with
  | ok a => exact h a
  | error e => rfl

/-- The check in place does what `verify` does on a copy. -/
theorem run_verifyIn (lib : Primitives) (key : Bytes) (req : ConnectorHmacRequest)
    (providedHex : String) (nowUnix : ℤ) (seen : MemoryNonceSet) :
    runIn (verifyIn lib key req providedHex nowUnix) seen =
      inPlace seen (verify lib key req providedHex nowUnix seen) := by
  unfold verifyIn verify
  refine runIn_pureCheck_bind_eq _ fun _ => runIn_pureCheck_bind_eq _ fun _ =>
    runIn_pureCheck_bind_eq _ fun _ => runIn_pureCheck_bind_eq _ fun _ =>
    runIn_pureCheck_bind_eq _ fun _ => ?_
  -- the nonces are read here, and nothing has changed them yet
  show runIn (pureCheck (ensure (!seen.contains req.nonce) .nonceReplay) >>= _) seen = _
  refine runIn_pureCheck_bind_eq _ fun _ => runIn_pureCheck_bind_eq _ fun _ =>
    runIn_pureCheck_bind_eq _ fun _ => runIn_pureCheck_bind_eq _ fun _ => ?_
  exact runIn_insertIfFreshIn req.nonce req.timestampUnix seen

variable {lib : Primitives}

/-- What an accepted request tells: its time is in the window, its nonce was not known, and it is
known afterwards. -/
theorem verify_eq_ok {key : Bytes} {req : ConnectorHmacRequest} {providedHex : String} {nowUnix : ℤ}
    {seen seen' : MemoryNonceSet} (h : verify lib key req providedHex nowUnix seen = .ok seen') :
    (req.timestampUnix - nowUnix).natAbs ≤ maxSkewSecs ∧ seen.contains req.nonce = false ∧
      seen' = ⟨(req.nonce, req.timestampUnix) :: seen.inner⟩ := by
  simp only [verify, ensure_bind_eq_ok] at h
  obtain ⟨-, -, h⟩ := h
  obtain ⟨_, -, h⟩ := exists_of_bind_eq_ok h
  simp only [ensure_bind_eq_ok] at h
  obtain ⟨-, hskew, hfresh, h⟩ := h
  obtain ⟨_, -, h⟩ := exists_of_bind_eq_ok h
  obtain ⟨_, -, h⟩ := exists_of_bind_eq_ok h
  obtain ⟨-, h⟩ := ensure_bind_eq_ok.mp h
  have hnew : seen.contains req.nonce = false := by simpa using hfresh
  rw [MemoryNonceSet.insertIfFresh, hnew] at h
  exact ⟨of_decide_eq_true hskew, hnew, (Except.ok.inj h).symm⟩

/-! ## Runs -/

/-- A call on the set of nonces, at the time that the caller reads. -/
inductive NonceEvent
  | verify (key : Bytes) (req : ConnectorHmacRequest) (providedHex : String) (nowUnix : ℤ)
  | prune (nowUnix : ℤ)

namespace NonceEvent

def nowUnix : NonceEvent → ℤ
  | .verify _ _ _ nowUnix => nowUnix
  | .prune nowUnix => nowUnix

/-- The outcome of the call, and the nonces after it. -/
def run (lib : Primitives) (seen : MemoryNonceSet) :
    NonceEvent → Except ConnectorHmacError Unit × MemoryNonceSet
  | .verify key req providedHex nowUnix => runIn (verifyIn lib key req providedHex nowUnix) seen
  | .prune nowUnix => (.ok (), seen.pruneOlderThan (nowUnix - maxSkewSecs))

end NonceEvent

/-- A call of a run: what it was, what came out of it, and the nonces around it. -/
structure Visit where
  event : NonceEvent
  before : MemoryNonceSet
  outcome : Except ConnectorHmacError Unit
  after : MemoryNonceSet

/-- The nonce and the time of the request, if the call has accepted one. -/
def Visit.accepted (visit : Visit) : Option (String × ℤ) :=
  match visit.event, visit.outcome with
  | .verify _ req _ _, .ok _ => some (req.nonce, req.timestampUnix)
  | _, _ => none

/-- The calls of a run, each on the nonces that the one before has left. -/
def visits (lib : Primitives) : List NonceEvent → MemoryNonceSet → List Visit
  | [], _ => []
  | event :: events, seen =>
    let (outcome, seen') := event.run lib seen
    ⟨event, seen, outcome, seen'⟩ :: visits lib events seen'

/-! ## What a run keeps -/

/-- A request with this nonce and this time is not accepted from now on: its nonce is known, or its
time is behind the window. -/
def Guarded (nowUnix : ℤ) (seen : MemoryNonceSet) (request : String × ℤ) : Prop :=
  request ∈ seen.inner ∨ request.2 < nowUnix - maxSkewSecs

variable {request : String × ℤ}

theorem Guarded.mono {nowUnix later : ℤ} (h : Guarded nowUnix seen request)
    (hle : nowUnix ≤ later) : Guarded later seen request := by
  rcases h with hmem | hold
  · exact .inl hmem
  · right
    omega

theorem mem_pruneOlderThan {minTs : ℤ} :
    request ∈ (seen.pruneOlderThan minTs).inner ↔ request ∈ seen.inner ∧ minTs ≤ request.2 := by
  simp [MemoryNonceSet.pruneOlderThan]

theorem contains_of_mem (h : request ∈ seen.inner) : seen.contains request.1 = true :=
  List.any_eq_true.mpr ⟨request, h, beq_self_eq_true _⟩

/-- The outcomes of a call: a request is accepted, a check fails, or old nonces are pruned. -/
theorem NonceEvent.run_cases (lib : Primitives) (event : NonceEvent) (seen : MemoryNonceSet) :
    (∃ key req providedHex, event = .verify key req providedHex event.nowUnix ∧
      (req.timestampUnix - event.nowUnix).natAbs ≤ maxSkewSecs ∧
      seen.contains req.nonce = false ∧
      event.run lib seen = (.ok (), ⟨(req.nonce, req.timestampUnix) :: seen.inner⟩)) ∨
    (∃ e, event.run lib seen = (.error e, seen)) ∨ (event = .prune event.nowUnix ∧
      event.run lib seen = (.ok (), seen.pruneOlderThan (event.nowUnix - maxSkewSecs))) := by
  cases event with
  | prune nowUnix => exact .inr (.inr ⟨rfl, rfl⟩)
  | verify key req providedHex nowUnix =>
    have hrun := run_verifyIn lib key req providedHex nowUnix seen
    cases hverify : ConnectorHmac.verify lib key req providedHex nowUnix seen with
    | error e =>
      rw [hverify] at hrun
      exact .inr (.inl ⟨e, hrun⟩)
    | ok seen' =>
      obtain ⟨hskew, hnew, rfl⟩ := verify_eq_ok hverify
      rw [hverify] at hrun
      exact .inl ⟨key, req, providedHex, rfl, hskew, hnew, hrun⟩

variable {event : NonceEvent} (h : Guarded event.nowUnix seen request)
include h

/-- A request that is guarded stays so: only pruning drops a nonce, and by then the time of the
request is behind the window. -/
theorem Guarded.step :
    Guarded event.nowUnix (event.run lib seen).2 request := by
  rcases event.run_cases lib seen with ⟨key, req, providedHex, -, -, -, hrun⟩ | ⟨e, hrun⟩ |
    ⟨-, hrun⟩
  · rw [hrun]
    exact h.imp_left (List.mem_cons_of_mem _)
  · rw [hrun]
    exact h
  · rw [hrun]
    rcases h with hmem | hold
    · by_cases hkept : event.nowUnix - maxSkewSecs ≤ request.2
      · exact .inl (mem_pruneOlderThan.mpr ⟨hmem, hkept⟩)
      · exact .inr (not_le.mp hkept)
    · exact .inr hold

/-- A call does not accept a request that is guarded. -/
theorem Guarded.accepted_ne :
    (Visit.mk event seen (event.run lib seen).1 (event.run lib seen).2).accepted ≠
      some request := by
  rcases event.run_cases lib seen with ⟨key, req, providedHex, hevent, hskew, hnew, hrun⟩ |
    ⟨e, hrun⟩ | ⟨hevent, hrun⟩
  · rw [hevent, ← hevent, hrun]
    rw [hevent]
    intro haccepted
    cases haccepted
    rcases h with hmem | hold
    · exact absurd (contains_of_mem hmem) (by simp [hnew])
    · simp only at hold
      omega
  · rw [hrun]
    cases event <;> simp [Visit.accepted]
  · rw [hevent]
    simp [Visit.accepted]

omit h

theorem visits_cons (lib : Primitives) (event : NonceEvent) (events : List NonceEvent)
    (seen : MemoryNonceSet) :
    visits lib (event :: events) seen =
      ⟨event, seen, (event.run lib seen).1, (event.run lib seen).2⟩ ::
        visits lib events (event.run lib seen).2 := rfl

/-- A run of calls that come no earlier does not accept a request that is guarded. -/
theorem Guarded.notMem {events : List NonceEvent} {nowUnix : ℤ} (h : Guarded nowUnix seen request)
    (htimes : (nowUnix :: events.map NonceEvent.nowUnix).Pairwise (· ≤ ·)) :
    request ∉ (visits lib events seen).filterMap Visit.accepted := by
  induction events generalizing nowUnix seen with
  | nil => simp [visits]
  | cons event events ih =>
    obtain ⟨hfirst, htimes⟩ := List.pairwise_cons.mp htimes
    have hnow : Guarded event.nowUnix seen request := h.mono (hfirst _ (by simp))
    have hnext : Guarded event.nowUnix (event.run lib seen).2 request := hnow.step
    have hrest := ih hnext htimes
    rw [visits_cons, List.filterMap_cons]
    split
    · exact hrest
    · rename_i other haccepted
      rw [List.mem_cons]
      rintro (rfl | hmem)
      · exact hnow.accepted_ne haccepted
      · exact hrest hmem

/-- After a request was accepted, it is guarded. -/
theorem guarded_of_accepted {event : NonceEvent}
    (h : (Visit.mk event seen (event.run lib seen).1 (event.run lib seen).2).accepted =
      some request) : Guarded event.nowUnix (event.run lib seen).2 request := by
  rcases event.run_cases lib seen with ⟨key, req, providedHex, hevent, -, -, hrun⟩ |
    ⟨e, hrun⟩ | ⟨hevent, -⟩
  · rw [hrun] at h ⊢
    rw [hevent] at h
    cases h
    exact .inl List.mem_cons_self
  · rw [hrun] at h
    cases event <;> cases h
  · rw [hevent] at h
    cases h

/-- **No request is accepted twice.** In a run of checks and prunings whose clock does not go back,
no nonce is accepted twice with the same time, and a check that fails leaves the nonces as they
were. -/
theorem accepted_once (lib : Primitives) (events : List NonceEvent)
    (htimes : (events.map NonceEvent.nowUnix).Pairwise (· ≤ ·)) (seen : MemoryNonceSet) :
    ((visits lib events seen).filterMap Visit.accepted).Nodup ∧
      ∀ visit ∈ visits lib events seen, ∀ e, visit.outcome = .error e →
        visit.after = visit.before := by
  induction events generalizing seen with
  | nil => exact ⟨List.nodup_nil, nofun⟩
  | cons event events ih =>
    obtain ⟨hnodup, hfailed⟩ := ih (List.pairwise_cons.mp htimes).2 (event.run lib seen).2
    rw [visits_cons]
    constructor
    · rw [List.filterMap_cons]
      split
      · exact hnodup
      · rename_i request haccepted
        exact List.nodup_cons.mpr ⟨(guarded_of_accepted haccepted).notMem htimes, hnodup⟩
    · intro visit hvisit e he
      rcases List.mem_cons.mp hvisit with rfl | hvisit
      · -- the outcome of the first call itself
        rcases event.run_cases lib seen with ⟨_, _, _, -, -, -, hrun⟩ | ⟨_, hrun⟩ | ⟨-, hrun⟩
        · rw [hrun] at he
          cases he
        · rw [hrun]
        · rw [hrun] at he
          cases he
      · exact hfailed visit hvisit e he

/-- A request that was made at the time 100. -/
def timedRequest : ConnectorHmacRequest :=
  ⟨"POST", "/a", "", 100, "nonce-01", allowedContentType, []⟩

/-- The request from ahead of the clock, again at the edge of the window after a pruning, and again
after its nonce was forgotten. -/
def replayedRequest : List NonceEvent :=
  [.verify [1] timedRequest "MAC" 70, .prune 130, .verify [1] timedRequest "MAC" 130, .prune 131,
    .verify [1] timedRequest "MAC" 131]

theorem accepted_once_replayed :
    ((visits .plain replayedRequest ⟨[]⟩).map Visit.outcome =
        [.ok (), .ok (), .error .nonceReplay, .ok (), .error .timestampSkew]) ∧
      ((visits .plain replayedRequest ⟨[]⟩).filterMap Visit.accepted).Nodup :=
  ⟨by decide +kernel, (accepted_once .plain replayedRequest (by decide) ⟨[]⟩).1⟩

end ConnectorHmac

end ImBridge
