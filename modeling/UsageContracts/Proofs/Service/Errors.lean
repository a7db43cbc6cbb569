import Mathlib.Tactic.Common
import UsageContracts.Service.Respond

/-!
# Replies that tell errors

An error is told as an object with the phrase of the status and with details.  Replies to
faulty input, to unexpected faults and to refused questions of other origins have bodies of
their own, and every other reply with the status of an error tells it in this way.
-/

namespace UsageContracts

namespace Reply

/-- Whether the body of a reply tells an error by the phrase of its status and by details,
and tells nothing else. -/
def TellsError (reply : Reply) : Prop :=
  ∃ detail : Json,
    reply.body =
      .json (.object [member "error" (.text (phrase reply.status)), member "detail" detail])

theorem refused_tellsError (status : Nat) (detail : Text) : (refused status detail).TellsError :=
  ⟨.text detail, rfl⟩

theorem TellsError.body_ne_text {reply : Reply} (tells : reply.TellsError) (content : Text) :
    reply.body ≠ .text content := by
  rcases tells with ⟨detail, body_eq⟩
  rw [body_eq]
  exact ReplyBody.noConfusion

end Reply

namespace Service

variable {service : Service} {request : Request}

/-- Whether a request asks beforehand what pages of other origins may do. -/
def asksBeforehand (service : Service) (request : Request) : Bool :=
  service.origins.isSome && (request.header? "origin").isSome &&
    request.method == "OPTIONS" && (request.header? "access-control-request-method").isSome

/-- Whether the input that a request brings along for its resource has a fault. -/
inductive HasFaultyInput (service : Service) (request : Request) (fault : InputFault) : Prop
  | intro {resource : Resource} :
      Resource.at? request.path = some resource → resource.isUsedBy request.method = true →
      service.content resource request = .error (.input (.fault fault)) →
      HasFaultyInput service request fault

/-! ## Kinds of replies -/

/-- What a reply to a request is, by its status: an answer, or a refusal that tells the
error, or the description of a fault in the input, or no more than that something
unexpected has happened. -/
inductive IsReply (service : Service) (request : Request) (reply : Reply) : Prop
  | answer : reply.status = 200 → IsReply service request reply
  | refusal : reply.status ∈ [400, 404, 405] → reply.TellsError → IsReply service request reply
  | input {fault : InputFault} : reply.status = 422 → service.HasFaultyInput request fault →
      reply.body = .json (.object [member "detail" (.list [fault.description])]) →
      IsReply service request reply
  | unexpected {message : Text} : reply.status = 500 → service.answer request = .error message →
      reply.body =
        .json (.object [member "error" (.text "Internal server error"), member "detail" .null]) →
      IsReply service request reply

namespace IsReply

variable {reply : Reply}

theorem refused {status : Nat} (isRefusal : status ∈ [400, 404, 405]) (detail : Text) :
    IsReply service request (.refused status detail) :=
  .refusal isRefusal (Reply.refused_tellsError status detail)

/-- Headers do not matter. -/
theorem withHeaders (isReply : IsReply service request reply)
    (headers : List (HeaderName × Text)) : IsReply service request { reply with headers } := by
  cases isReply with
  | answer status_eq => exact .answer status_eq
  | refusal status_mem tells => exact .refusal status_mem tells
  | input status_eq isFaulty body_eq => exact .input status_eq isFaulty body_eq
  | unexpected status_eq answer_eq body_eq => exact .unexpected status_eq answer_eq body_eq

theorem tellsError_iff (isReply : IsReply service request reply) (failed : 400 ≤ reply.status) :
    reply.TellsError ↔ reply.status ≠ 422 ∧ reply.status ≠ 500 := by
  cases isReply with
  | answer status_eq => omega
  | refusal status_mem tells =>
      refine iff_of_true tells ?_
      have others : ∀ status ∈ [400, 404, 405], status ≠ 422 ∧ status ≠ 500 := by
        decide
      exact others reply.status status_mem
  | input status_eq _ body_eq =>
      refine iff_of_false ?_ fun others => others.1 status_eq
      rintro ⟨detail, shape_eq⟩
      rw [body_eq] at shape_eq
      cases shape_eq
  | unexpected status_eq _ body_eq =>
      refine iff_of_false ?_ fun others => others.2 status_eq
      rintro ⟨detail, shape_eq⟩
      rw [body_eq, status_eq] at shape_eq
      -- The wording differs from the phrase in letter case.
      have phrase_ne : ("Internal server error" : Text) ≠ Reply.phrase 500 := by
        decide
      simp only [ReplyBody.json.injEq, Json.object.injEq, List.cons.injEq, member, Prod.mk.injEq,
        Json.text.injEq] at shape_eq
      exact phrase_ne shape_eq.1.2

theorem body_of_input (isReply : IsReply service request reply) (status_eq : reply.status = 422) :
    ∃ fault, service.HasFaultyInput request fault ∧
      reply.body = .json (.object [member "detail" (.list [fault.description])]) := by
  cases isReply with
  | input _ isFaulty body_eq => exact ⟨_, isFaulty, body_eq⟩
  | refusal status_mem _ => simp [status_eq] at status_mem
  | answer other_eq => simp [status_eq] at other_eq
  | unexpected other_eq => simp [status_eq] at other_eq

theorem body_of_unexpected (isReply : IsReply service request reply)
    (status_eq : reply.status = 500) :
    (∃ message, service.answer request = .error message) ∧
      reply.body = .json (.object
        [member "error" (.text "Internal server error"), member "detail" .null]) := by
  cases isReply with
  | unexpected _ answer_eq body_eq => exact ⟨⟨_, answer_eq⟩, body_eq⟩
  | refusal status_mem _ => simp [status_eq] at status_mem
  | answer other_eq => simp [status_eq] at other_eq
  | input other_eq => simp [status_eq] at other_eq

end IsReply

/-! ## Replies of the service -/

theorem faultReply_isReply {resource : Resource} {fault : ServiceFault} {reply : LoggedReply}
    (found : Resource.at? request.path = some resource)
    (isUsed : resource.isUsedBy request.method = true)
    (content_eq : service.content resource request = .error fault)
    (reply_eq : faultReply fault = .ok reply) : IsReply service request reply.1 := by
  cases fault with
  | input error =>
      cases error with
      | broken =>
          cases reply_eq
          exact .refused (by simp) _
      | undecoded fault => cases reply_eq
      | fault fault =>
          simp only [faultReply, inputReply] at reply_eq
          split at reply_eq
          · cases reply_eq
          · split at reply_eq <;> cases reply_eq
            exact .input rfl ⟨found, isUsed, content_eq⟩ rfl
  | document fault =>
      simp only [faultReply] at reply_eq
      split at reply_eq <;> cases reply_eq
      exact .refused (by simp) _
  | pattern fault =>
      cases reply_eq
      exact .refused (by simp) _

theorem answer_isReply {reply : LoggedReply} (reply_eq : service.answer request = .ok reply) :
    IsReply service request reply.1 := by
  unfold answer at reply_eq
  split at reply_eq
  · cases reply_eq
    exact .refused (by simp) _
  · next resource found =>
      split at reply_eq
      · next isUsed =>
          split at reply_eq
          · cases reply_eq
            exact .answer rfl
          · next content_eq => exact faultReply_isReply found isUsed content_eq reply_eq
      · cases reply_eq
        exact (IsReply.refused (by simp) _).withHeaders _

theorem answerWith_isReply (notDebugging : service.isDebugging = false)
    (headers : List (HeaderName × Text)) :
    IsReply service request (service.answerWith request headers).1 := by
  unfold answerWith
  split
  · next answer_eq => exact (answer_isReply answer_eq).withHeaders _
  · next answer_eq =>
      simp only [unexpectedReply, notDebugging]
      exact .unexpected rfl answer_eq rfl

/-- A request that asks beforehand is replied to in plain text. -/
theorem fullReply_cases (notDebugging : service.isDebugging = false) (request : Request) :
    (service.asksBeforehand request = true ∧
        ∃ content, (service.fullReply request).1.body = .text content) ∨
      service.asksBeforehand request = false ∧
        IsReply service request (service.fullReply request).1 := by
  unfold fullReply asksBeforehand
  cases service.origins with
  | none => exact .inr ⟨rfl, answerWith_isReply notDebugging _⟩
  | some origins =>
      cases request.header? "origin" with
      | none => exact .inr ⟨rfl, answerWith_isReply notDebugging _⟩
      | some origin =>
          cases request.method == "OPTIONS" with
          | false => exact .inr ⟨rfl, answerWith_isReply notDebugging _⟩
          | true =>
              cases request.header? "access-control-request-method" with
              | none => exact .inr ⟨rfl, answerWith_isReply notDebugging _⟩
              | some method => exact .inl ⟨rfl, _, rfl⟩

theorem asksBeforehand_of_head (isHead : request.method = "HEAD") :
    service.asksBeforehand request = false := by
  have notOptions : (request.method == "OPTIONS") = false := by
    rw [isHead]
    decide
  simp [asksBeforehand, notOptions]

/-- A reply with the status of an error tells the error, unless the request asks for the
head of a reply only or asks beforehand, its input is faulty, or something unexpected has
happened.  Then there is no body, one in plain text, a description of the fault, or one that
does not give the phrase of the status. -/
theorem error_told_iff (notDebugging : service.isDebugging = false)
    (failed : 400 ≤ (service.respond request).1.status) :
    ((service.respond request).1.TellsError ↔
      request.method ≠ "HEAD" ∧ service.asksBeforehand request = false ∧
        (service.respond request).1.status ≠ 422 ∧ (service.respond request).1.status ≠ 500) ∧
    (request.method = "HEAD" → (service.respond request).1.body = .nothing) ∧
    (service.asksBeforehand request = true →
      ∃ content, (service.respond request).1.body = .text content) ∧
    (request.method ≠ "HEAD" → service.asksBeforehand request = false →
      ((service.respond request).1.status = 422 →
        ∃ fault, service.HasFaultyInput request fault ∧
          (service.respond request).1.body =
            .json (.object [member "detail" (.list [fault.description])])) ∧
      ((service.respond request).1.status = 500 →
        (∃ message, service.answer request = .error message) ∧
          (service.respond request).1.body =
            .json (.object
              [member "error" (.text "Internal server error"), member "detail" .null]))) := by
  by_cases isHead : request.method = "HEAD"
  · have body_eq : (service.respond request).1.body = .nothing := by
      simp only [respond, if_pos isHead]
    refine ⟨iff_of_false ?_ fun others => others.1 isHead, fun _ => body_eq, ?_,
      fun notHead => (notHead isHead).elim⟩
    · rintro ⟨detail, shape_eq⟩
      rw [body_eq] at shape_eq
      cases shape_eq
    · intro beforehand
      cases (asksBeforehand_of_head isHead).symm.trans beforehand
  · have respond_eq : (service.respond request).1 = (service.fullReply request).1 := by
      simp only [respond, if_neg isHead]
    rw [respond_eq] at failed ⊢
    rcases fullReply_cases notDebugging request with
      ⟨beforehand, content, body_eq⟩ | ⟨notBeforehand, isReply⟩
    · refine ⟨iff_of_false (fun tells => tells.body_ne_text content body_eq) ?_,
        fun head => (isHead head).elim, fun _ => ⟨content, body_eq⟩, ?_⟩
      · rintro ⟨-, notBeforehand, -⟩
        cases beforehand.symm.trans notBeforehand
      · intro _ notBeforehand
        cases beforehand.symm.trans notBeforehand
    · refine ⟨?_, fun head => (isHead head).elim, ?_,
        fun _ _ => ⟨isReply.body_of_input, isReply.body_of_unexpected⟩⟩
      · simp [isReply.tellsError_iff failed, isHead, notBeforehand]
      · intro beforehand
        cases beforehand.symm.trans notBeforehand

/-- A request for an example that does not name its pattern. -/
def namelessRequest : Request where
  method := "POST"
  path := Resource.exampleDocument.path

/-- A request for the example of a pattern that is none. -/
def strangeRequest : Request :=
  { namelessRequest with query := [("pattern", "SELL")] }

theorem namelessRequest_error_untold :
    400 ≤ (({} : Service).respond namelessRequest).1.status ∧
      ¬ (({} : Service).respond namelessRequest).1.TellsError := by
  have reply_eq : (({} : Service).respond namelessRequest).1.status = 422 := by
    decide
  constructor
  · omega
  · rintro ⟨detail, shape_eq⟩
    cases shape_eq

theorem strangeRequest_error_told :
    ({} : Service).isDebugging = false ∧ 400 ≤ (({} : Service).respond strangeRequest).1.status ∧
      (({} : Service).respond strangeRequest).1.TellsError := by
  have status_eq : (({} : Service).respond strangeRequest).1.status = 400 := by
    decide +kernel
  have failed : 400 ≤ (({} : Service).respond strangeRequest).1.status := by
    omega
  refine ⟨rfl, failed, (error_told_iff rfl failed).1.mpr ⟨?_, rfl, ?_, ?_⟩⟩
  · decide
  · omega
  · omega

end Service

end UsageContracts
