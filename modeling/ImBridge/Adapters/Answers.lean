import ImBridge.Adapters.Connector

/-!
# What an answer of the Connector says about a write

The verdict of the client on a write is assembled by four layers. Here it is read off the answer
itself: the client concludes that a write was not applied only from an answer that says so, in its
status, in a recognised `error` object, or by a client error that no recognised `error` object
contradicts.

## Main definitions

* `HttpResponse.wholeBody`: the body of an answer that could be read to its end
* `statedStatus`: the `status` that a JSON body states
* `HttpResponse.SaysNotApplied`: the answer says that the write was not applied
* `ConcludesNotApplied`: the client concludes so

## Main results

* `saysNotApplied_of_verdict`: the client concludes so only from an answer that says so
-/

namespace ImBridge

/-- The body of an answer that could be read to its end. -/
def HttpResponse.wholeBody (response : HttpResponse) : Option Bytes :=
  if response.contentLength.any (maxConnectorBodyBytes < ·) then none
  else (readChunks response.chunks []).toOption

/-- The `status` that a JSON body states, by name or in the first place. -/
def statedStatus : Json → Option String
  | .object fields =>
    match fields.filter fun field => ["status"].contains field.1 with
    | [(_, .string s)] => some s
    | _ => none
  | .array (.string s :: _) => some s
  | _ => none

/-- **The answer says that the write was not applied.** -/
def HttpResponse.SaysNotApplied (lib : Primitives) (response : HttpResponse) : Prop :=
  ∃ bytes, response.wholeBody = some bytes ∧
    if isSuccess response.status then
      ∃ v s, lib.parseJson bytes = some v ∧ statedStatus v = some s ∧
        (s = "not_applied" ∨ s = "failed")
    else
      statedCommitState lib response.contentType (some bytes) = some .notApplied ∨
        (isClientError response.status ∧
          statedCommitState lib response.contentType (some bytes) = none)

/-- The client concludes that the write was not applied. -/
def ConcludesNotApplied : StResult StCommitResult → Prop
  | .ok result => result.status = .notApplied
  | .error error => error.commitState = .notApplied

/-! ## Decoded bodies -/

variable {v : Json}

theorem statedStatus_of_member (count : ℕ) {s : String}
    (h : ((v.member ["status"] 0 count).bind (Json.required Json.asStr)) = some s) :
    statedStatus v = some s := by
  cases v with
  | object fields =>
    simp only [Json.member, statedStatus] at h ⊢
    split at h
    · cases h
    · rename_i name value hfields
      rw [hfields]
      cases value <;> simp_all [Json.required, Json.asStr]
    · cases h
  | array elems =>
    simp only [Json.member] at h
    split at h
    · cases elems with
      | nil => simp [Json.required] at h
      | cons x xs =>
        have hx : Json.asStr x = some s := h
        cases x <;> simp_all [Json.asStr, statedStatus]
    · cases h
  | _ => cases h

theorem statedStatus_of_commitWire {wire : CommitWire} (h : CommitWire.decode v = some wire) :
    statedStatus v = some wire.status := by
  refine statedStatus_of_member 5 ?_
  simp only [CommitWire.decode, Option.pure_def, Option.bind_eq_bind, Option.bind_eq_some_iff,
    Option.some.injEq] at h ⊢
  obtain ⟨a, ha, s, hs, -, -, -, -, -, -, -, -, -, -, -, -, -, -, -, -, rfl⟩ := h
  exact ⟨a, ha, hs⟩

theorem statedStatus_of_createWire {wire : CreateWire} (h : CreateWire.decode v = some wire) :
    statedStatus v = some wire.status := by
  refine statedStatus_of_member 6 ?_
  simp only [CreateWire.decode, Option.pure_def, Option.bind_eq_bind, Option.bind_eq_some_iff,
    Option.some.injEq] at h ⊢
  obtain ⟨a, ha, s, hs, -, -, -, -, -, -, -, -, -, -, -, -, -, -, -, -, -, -, -, -, rfl⟩ := h
  exact ⟨a, ha, hs⟩

theorem not_http_of_readChunks {chunks : List (Option Bytes)} {body : Bytes}
    {failure : StFailureFacts} (h : readChunks chunks body = .error failure) :
    ∀ status contentType body, failure ≠ .http status contentType body := by
  induction chunks generalizing body with
  | nil => cases h
  | cons chunk chunks ih =>
    cases chunk with
    | none =>
      cases h
      exact fun _ _ _ hf => by cases hf
    | some chunk =>
      unfold readChunks at h
      split_ifs at h
      · cases h
        exact fun _ _ _ hf => by cases hf
      · exact ih h

namespace ConnectorClient

variable (lib : Primitives)

/-- A decoded answer counts as not applied only by its status. -/
theorem statedStatus_of_result {command : BackendCommand}
    (h : ConcludesNotApplied (result lib command v)) :
    ∃ s, statedStatus v = some s ∧ (s = "not_applied" ∨ s = "failed") := by
  cases command with
  | createChat command =>
    simp only [result, createResult] at h
    split at h
    · cases h
    · rename_i wire hwire
      refine ⟨wire.status, statedStatus_of_createWire hwire, ?_⟩
      by_contra hother
      rw [if_neg hother] at h
      split_ifs at h
      · cases h
      · cases h
      all_goals
        split at h
        · cases h
        · split_ifs at h <;> cases h
  | commit command =>
    simp only [result, commitResult] at h
    split at h
    · cases h
    · rename_i wire hwire
      refine ⟨wire.status, statedStatus_of_commitWire hwire, ?_⟩
      split at h
      · cases h
      · rename_i status hstatus
        split_ifs at h
        · cases h
        · have hna : status = .notApplied := h
          subst hna
          unfold commitStatusOf at hstatus
          split at hstatus <;> simp_all

/-- The failures to read an answer leave the outcome of a write open; what was read to its end is
judged by the status. -/
theorem answer_cases (order : ConnectorOrder) (response : HttpResponse) :
    (∃ failure, (∀ status contentType body, failure ≠ .http status contentType body) ∧
      answer lib order response = .error
        (unknownOrNotApplied lib order.stage order.operationId order.mutation failure)) ∨
    ∃ bytes, response.wholeBody = some bytes ∧ answer lib order response =
      if isSuccess response.status then
        match lib.parseJson bytes with
        | some value => .ok value
        | none =>
          .error (if order.mutation then unknownCommit lib
            (order.operationId.getD "unknown-operation")
            else invalidPayload lib order.stage order.operationId .notStarted)
      else .error (mapStError lib (connectorFacts order.stage order.operationId
        (if order.mutation then if isClientError response.status then .notApplied else .unknown
          else .notStarted) (.http response.status response.contentType (some bytes)))) := by
  unfold answer HttpResponse.wholeBody
  by_cases hlength : response.contentLength.any (maxConnectorBodyBytes < ·)
  · refine .inl ⟨.control .stCommitPayloadTooLarge, (fun _ _ _ h => by cases h), ?_⟩
    rw [if_pos hlength]
  · rw [if_neg hlength, if_neg hlength]
    cases hbytes : readChunks response.chunks [] with
    | error failure => exact .inl ⟨failure, not_http_of_readChunks hbytes, rfl⟩
    | ok bytes => exact .inr ⟨bytes, rfl, rfl⟩

theorem wholeBody_of_answer {order : ConnectorOrder} {response : HttpResponse}
    (h : answer lib order response = .ok v) :
    ∃ bytes, response.wholeBody = some bytes ∧ isSuccess response.status ∧
      lib.parseJson bytes = some v := by
  rcases answer_cases lib order response with ⟨failure, -, heq⟩ | ⟨bytes, hbytes, heq⟩
  · rw [heq] at h
    cases h
  · rw [heq] at h
    by_cases hsuccess : isSuccess response.status
    · rw [if_pos hsuccess] at h
      split at h
      · rename_i value hvalue
        cases h
        exact ⟨bytes, hbytes, hsuccess, hvalue⟩
      · cases h
    · rw [if_neg hsuccess] at h
      cases h

/-- A rejected write counts as not applied only by what the answer says. -/
theorem saysNotApplied_of_answer {order : ConnectorOrder} {response : HttpResponse}
    {error : StBridgeError} (hmutation : order.mutation = true) (hstage : order.stage = .commit)
    (h : answer lib order response = .error error) (hstate : error.commitState = .notApplied) :
    response.SaysNotApplied lib := by
  rcases answer_cases lib order response with ⟨failure, hfailure, heq⟩ | ⟨bytes, hbytes, heq⟩
  · rw [heq] at h
    cases h
    rw [unknownOrNotApplied, commitState_mapStError_of_not_http lib hfailure,
      if_pos hmutation] at hstate
    cases hstate
  · refine ⟨bytes, hbytes, ?_⟩
    rw [heq] at h
    by_cases hsuccess : isSuccess response.status
    · rw [if_pos hsuccess] at h
      split at h
      · cases h
      · cases h
        rw [if_pos hmutation] at hstate
        cases hstate
    · rw [if_neg hsuccess] at h ⊢
      cases h
      rw [if_pos hmutation] at hstate
      -- the commit state is the stated one, or the one chosen by the class of the status
      by_cases hzero : response.status = 0
      · simp [mapStError, connectorFacts, mapHttp, mapped, hzero, isClientError] at hstate
      · have hstated : (mapHttp lib (connectorFacts order.stage order.operationId
            (if isClientError response.status then .notApplied else .unknown)
            (.http response.status response.contentType (some bytes))) response.status
            response.contentType (some bytes)).commitState =
            (statedCommitState lib response.contentType (some bytes)).getD
              (if isClientError response.status then .notApplied else .unknown) :=
          commitState_mapHttp lib hstage hzero (by simp [connectorFacts, isClientError])
        rw [mapStError] at hstate
        simp only [connectorFacts] at hstate hstated
        rw [hstated] at hstate
        cases hcommit : statedCommitState lib response.contentType (some bytes) with
        | some state => rw [hcommit] at hstate; exact .inl (congrArg some hstate)
        | none =>
          rw [hcommit, Option.getD_none] at hstate
          refine .inr ⟨?_, rfl⟩
          by_contra hclient
          rw [if_neg hclient] at hstate
          cases hstate

/-- **The client concludes that a write was not applied only from an answer that says so.** -/
theorem saysNotApplied_of_verdict {command : BackendCommand} {sent : Except Unit HttpResponse}
    (h : ConcludesNotApplied (verdict lib command sent)) :
    ∃ response, sent = .ok response ∧ response.SaysNotApplied lib := by
  cases sent with
  | error e =>
    -- no answer leaves the outcome open
    have hunknown : (mapStError lib (connectorFacts (order lib command).stage
        (order lib command).operationId (if (order lib command).mutation then .unknown
          else .notStarted) .connectorUnavailable)).commitState = .notApplied := h
    rw [commitState_mapStError_of_not_http lib (fun _ _ _ hf => by cases hf),
      mutation_order] at hunknown
    cases hunknown
  | ok response =>
    refine ⟨response, rfl, ?_⟩
    have hv : verdict lib command (.ok response) =
      (answer lib (order lib command) response).bind (result lib command) := rfl
    rw [hv] at h
    cases hanswer : answer lib (order lib command) response with
    | error error =>
      rw [hanswer] at h
      exact saysNotApplied_of_answer lib (mutation_order lib command) (stage_order lib command)
        hanswer h
    | ok v =>
      rw [hanswer] at h
      obtain ⟨bytes, hbytes, hsuccess, hparse⟩ := wholeBody_of_answer lib hanswer
      obtain ⟨s, hs, hsays⟩ := statedStatus_of_result lib h
      refine ⟨bytes, hbytes, ?_⟩
      rw [if_pos hsuccess]
      exact ⟨v, s, hparse, hs, hsays⟩

end ConnectorClient

end ImBridge
