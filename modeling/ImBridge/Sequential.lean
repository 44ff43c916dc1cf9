import ImBridge.Domain.JsonText
import ImBridge.System

/-!
# One task on its own

A task that no other task disturbs: statements do not fail for reasons outside the tables, the
vault keeps what was put into it, and every other reply is chosen by the surroundings, which may
look at all that has happened so far.

## Main definitions

* `settle`: the effect of a call to which the surroundings would reply so
* `Surroundings`, `Surroundings.handle`: replies that depend on the calls made so far
* `Surroundings.run`: the run of a task

## Main results

* `settle_effect`: these runs are runs of the bridge's semantics
-/

namespace ImBridge

open Interleaving

/-- A call as it takes effect when the surroundings would reply `r`. The tables answer for
themselves, and so does the vault unless it fails. -/
def settle (w : World) : (c : Call) → c.Reply → c.Reply × World
  | .sql s, _ => ((s.exec w.ledger).1, { w with ledger := (s.exec w.ledger).2 })
  | .vaultPut _ _ plaintext, .ok secretId => (.ok secretId, w.store secretId plaintext)
  | .vaultGet secretId, .ok _ =>
    (match w.vault secretId with
      | some plaintext => .ok plaintext
      | none => .error (.internal "secret not found"), w)
  | _, r => (r, w)

/-- Such a call is one of the bridge's semantics, as long as the vault names a new secret. -/
theorem settle_effect {w : World} {c : Call} {r : c.Reply}
    (hfresh : ∀ scope kind plaintext secretId, c = .vaultPut scope kind plaintext →
      HEq r (Except.ok secretId : AppResult String) → w.vault secretId = none) :
    Effect w c (settle w c r).1 (settle w c r).2 := by
  cases c with
  | sql s => exact .inl ⟨rfl, rfl⟩
  | vaultPut scope kind plaintext =>
    cases r with
    | ok secretId => exact ⟨hfresh scope kind plaintext secretId rfl HEq.rfl, rfl⟩
    | error e => rfl
  | vaultGet secretId =>
    cases r with
    | ok b =>
      refine ⟨rfl, fun b' hb' => ?_⟩
      simp only [settle] at hb'
      split at hb'
      · rename_i plaintext hp
        rw [hp, Except.ok.inj hb']
      · cases hb'
    | error e => exact ⟨rfl, fun b hb => by cases hb⟩
  | http request =>
    simp only [Effect, settle]
    split
    · rename_i operationId _
      exact ⟨w.connector operationId, by simp [World.deliver]⟩
    · trivial
  | _ => rfl

/-- The key of zeros. -/
def zeroDek : Dek := ⟨List.replicate 32 0, rfl⟩

/-- The nonce of zeros. -/
def zeroNonce : Nonce := ⟨List.replicate 24 0, rfl⟩

/-- Surroundings in which nothing works except the database: the clock stands still, and every call
that can fail does. -/
def refuse : (c : Call) → c.Reply
  | .sql _ => .error .other
  | .nowRfc3339 => "2026-01-01T00:00:00Z"
  | .rfc3339After _ => none
  | .nowUnixMs => 0
  | .unixTimestamp => 0
  | .newId => "id"
  | .randomDek => zeroDek
  | .randomNonce => zeroNonce
  | .connectorNonce => "nonce"
  | .vaultPut .. => .error .database
  | .vaultGet _ => .error .database
  | .ensureSession => .error refused
  | .invalidateSession => ()
  | .http _ => .error ()
  | .journalLookup _ => .error .database
  | .invoke .. => ()
  | .backend c =>
    match c with
    | .probe => .error refused
    | .listCharacters => .error refused
    | .snapshot _ => .error refused
    | .generationSettings => .error refused
    | .streamGenerate _ => .error refused
    | .createChat _ => .error refused
    | .commit _ => .error refused
  | .assertGenerationFence => .error "poller ownership registry unavailable"
  | .assertCommitFence => .error "poller ownership registry unavailable"
  | .currentLifecycle => .starting
  | .loadChannel .. => .error .database
  | .selectChat .. => .error .database
  | .lockLocator _ => .error ()
  | .generationPermit => .error ()
  | .emitDone _ => .error ()
where
  refused : StBridgeError :=
    { code := .stConnectFailed, stage := .connect, safeMessage := "", retryable := true,
      commitState := .notStarted }

theorem refuse_effect (w : World) (c : Call) :
    Effect w c (settle w c (refuse c)).1 (settle w c (refuse c)).2 := by
  refine settle_effect fun scope kind plaintext secretId hc hr => ?_
  subst hc
  cases hr

/-- Surroundings in which the vault works too, with room for one secret. -/
def supply (w : World) : (c : Call) → c.Reply
  | .vaultPut .. => if w.vault "secret-1" = none then .ok "secret-1" else .error .database
  | .vaultGet _ => .ok []
  | c => refuse c

theorem supply_effect (w : World) (c : Call) :
    Effect w c (settle w c (supply w c)).1 (settle w c (supply w c)).2 := by
  refine settle_effect fun scope kind plaintext secretId hc hr => ?_
  subst hc
  simp only [supply] at hr
  split at hr
  · cases hr
    assumption
  · cases hr

/-- Surroundings in which the Connector answers requests so, and applies every mutation. -/
def serve (answer : ConnectorRequest → HttpResponse) (c : Call) (w : World) : c.Reply × World :=
  match c with
  | .ensureSession => (.ok ("csrf", "cookie"), w)
  | .unixTimestamp => (5, w)
  | .http request =>
    (.ok (answer request), match request.mutates with
      | some operationId => w.deliver operationId .applied
      | none => w)
  | c => settle w c (supply w c)

theorem serve_effect (answer : ConnectorRequest → HttpResponse) (w : World) (c : Call) :
    Effect w c (serve answer c w).1 (serve answer c w).2 := by
  cases c with
  | ensureSession => rfl
  | unixTimestamp => rfl
  | http request =>
    cases hmutates : request.mutates with
    | some operationId => simp only [Effect, serve, hmutates]; exact ⟨.applied, rfl⟩
    | none => simp only [Effect, serve, hmutates]
  | _ => exact supply_effect w _

/-- A body in which the Connector says that it is ready to write test chats, and what has become
of a write. -/
def readyBody (status : String) : Json :=
  .object [("version", .string "1"), ("handle", .string "user"), ("profile", .string "default"),
    ("mode", .string "test_write"), ("scopes", .array [.string "test_chat"]),
    ("snapshot", .bool true), ("integrityEnabled", .bool true), ("typedMutations", .bool true),
    ("integrityRotation", .bool true), ("operationReplay", .bool true),
    ("durableWrite", .bool true),
    ("handshakeAtUnix", .int 1), ("expiresAtUnix", .int 10), ("status", .string status),
    ("newSha256", .string "0123456789abcdef0123456789abcdef0123456789abcdef0123456789abcdef"),
    ("newIntegrity", .string "integrity"), ("byteLength", .int 1), ("messageCount", .int 1)]

/-- An answer with this body. -/
def HttpResponse.ofJson (status : ℕ) (body : Json) : HttpResponse :=
  ⟨status, some "application/json", none, [some (utf8 body.text)]⟩

def readyAnswer : HttpResponse := .ofJson 200 (readyBody "applied")

/-- Mutations are answered so, and everything else by a Connector that is ready. -/
def answering (response : HttpResponse) (request : ConnectorRequest) : HttpResponse :=
  if request.mutation then response else readyAnswer

theorem answering_of_mutates {response : HttpResponse} {request : ConnectorRequest} {id : String}
    (h : request.mutates = some id) : answering response request = response := by
  refine if_pos ?_
  by_contra hne
  rw [ConnectorRequest.mutates, if_neg hne] at h
  cases h

/-- Libraries for examples: texts and bytes are not hashed or encrypted, and nothing is encoded. -/
def Primitives.plain : Primitives where
  sha256Hex _ := "hash"
  hmacSha256Hex _ _ := "mac"
  sealPayload _ _ _ plaintext := some plaintext
  openPayload _ _ _ ciphertext := some ciphertext
  parseJson _ := none
  renderJson _ := []
  encodeMutation _ := none
  encodePayload _ := none
  decodePayload _ := none
  encodeResult _ := some "result"

/-- Libraries for examples, which read the texts of these values. -/
def Primitives.reading (known : List Json) : Primitives :=
  { Primitives.plain with parseJson := fun bytes => known.find? fun v => utf8 v.text == bytes }

theorem parseJson_reading (v : Json) (known : List Json) :
    (Primitives.reading (v :: known)).parseJson (utf8 v.text) = some v := by
  simp [Primitives.reading]

def readyLibrary : Primitives := .reading [readyBody "applied"]

/-- The replies of the surroundings, given all that has happened so far. -/
def Surroundings := Moment bridgeCalls Unit World → (c : Call) → c.Reply

namespace Surroundings

/-- The call as it takes effect in these surroundings. -/
def handle (E : Surroundings) (c : Call) (m : Moment bridgeCalls Unit World) :
    c.Reply × Moment bridgeCalls Unit World :=
  let out := settle m.world c (E m c)
  (out.1, m.after () c out.1 out.2)

/-- The run of a task from the moment `m`. -/
def run {α : Type} (E : Surroundings) (p : BridgeTask α) (m : Moment bridgeCalls Unit World) :
    α × Moment bridgeCalls Unit World :=
  p.interpret E.handle m

variable {α β : Type} (E : Surroundings) (m : Moment bridgeCalls Unit World)

theorem run_ask (c : Call) : E.run (ask c) m = E.handle c m := rfl

theorem run_bind (p : BridgeTask α) (f : α → BridgeTask β) :
    E.run (p >>= f) m = E.run (f (E.run p m).1) (E.run p m).2 := by
  unfold run
  rw [Program.interpret_bind]

end Surroundings

end ImBridge
