import StartOnReady.Handler.Basic
import StartOnReady.Keyed
import StartOnReady.Service.Client

/-!
# The classes of failures

What is made of a failed call.  `ControlPlaneError.kind` is the class of an error and
`Failure.kind` the one that a failure belongs to; `kind_classifyAs` says that the operation, the
application and the words of the failure have no part in it.  `tells_classifyAs` says what they do
have a part in.
-/

namespace StartOnReady

/-! ### Kinds of errors -/

/-- The kinds of errors.  The one for all other errors of the service keeps the code. -/
inductive ErrorKind where
  | notFound
  | permissionDenied
  | conflict
  | invalidRequest
  | transport
  | service (code : String)
  | missingResponseField
  deriving DecidableEq, Repr

namespace ControlPlaneError

def kind : ControlPlaneError → ErrorKind
  | notFound _ => .notFound
  | permissionDenied _ _ => .permissionDenied
  | conflict _ _ => .conflict
  | invalidRequest _ => .invalidRequest
  | transport _ => .transport
  | service code _ => .service code
  | missingResponseField _ => .missingResponseField

theorem isRetryable_iff (error : ControlPlaneError) :
    error.isRetryable = true ↔
      error.kind = .transport ∨ ∃ code, error.kind = .service code ∧
        ("Throttl".toList <:+: code.toList ∨ code = "LimitExceededException") := by
  cases error with
  | service code message => simp [isRetryable, kind, Text.contains_iff]
  | _ => simp [isRetryable, kind]

end ControlPlaneError

namespace Service

variable {operation : Operation} {app : ApplicationRef} {message : String}

/-! ### Codes -/

/-- The codes that have a kind of their own. -/
def listedKinds : List (String × ErrorKind) := [
  ("ResourceNotFoundException", .notFound),
  ("AccessDeniedException", .permissionDenied),
  ("UnrecognizedClientException", .permissionDenied),
  ("ResourceInUseException", .conflict),
  ("ConcurrentModificationException", .conflict),
  ("InvalidArgumentException", .invalidRequest),
  ("InvalidRequestException", .invalidRequest),
  ("InvalidApplicationConfigurationException", .invalidRequest),
  ("ValidationException", .invalidRequest)]

/-- The kind of a code; any other code is kept. -/
def kindOfCode (code : String) : ErrorKind :=
  (Keyed.find? code listedKinds).getD (.service code)

theorem kindOfCode_of_not_listed {code : String} (other : code ∉ listedKinds.map Prod.fst) :
    kindOfCode code = .service code := by
  rw [kindOfCode, (Keyed.find?_eq_none_iff).2 other, Option.getD_none]

theorem kindOfCode_of_listed {code : String} (listed : code ∈ listedKinds.map Prod.fst) :
    kindOfCode code ∈ [.notFound, .permissionDenied, .conflict, .invalidRequest] := by
  have kinds : ∀ entry ∈ listedKinds,
      entry.2 ∈ [.notFound, .permissionDenied, .conflict, .invalidRequest] := by decide
  cases found : Keyed.find? code listedKinds with
  | none => exact absurd listed (Keyed.find?_eq_none_iff.1 found)
  | some kind =>
    rw [kindOfCode, found]
    exact kinds _ (Keyed.mem_of_find? found)

theorem kindOfCode_ne_of_response (code : String) :
    kindOfCode code ≠ .transport ∧ kindOfCode code ≠ .missingResponseField := by
  by_cases listed : code ∈ listedKinds.map Prod.fst
  · have kind := kindOfCode_of_listed listed
    constructor <;>
      · intro other
        rw [other] at kind
        revert kind
        decide
  · rw [kindOfCode_of_not_listed listed]
    exact ⟨nofun, nofun⟩

theorem kindOfCode_eq_service_iff {code kept : String} :
    kindOfCode code = .service kept ↔ code ∉ listedKinds.map Prod.fst ∧ kept = code := by
  by_cases listed : code ∈ listedKinds.map Prod.fst
  · have kind := kindOfCode_of_listed listed
    refine iff_of_false (fun same => ?_) (fun h => h.1 listed)
    rw [same] at kind
    simp at kind
  · rw [kindOfCode_of_not_listed listed]
    simp [listed, @eq_comm _ kept]

/-! ### Kinds of failures -/

/-- The kind of a failure. -/
def Failure.kind : Failure → ErrorKind
  | notBuilt => .invalidRequest
  | notDelivered | timedOut => .transport
  | refused none => .service "Unknown"
  | refused (some code) => kindOfCode code

theorem Failure.kind_refused_ne (code : Option String) :
    (refused code).kind ≠ .transport ∧ (refused code).kind ≠ .missingResponseField := by
  cases code with
  | none => exact ⟨nofun, nofun⟩
  | some code => exact kindOfCode_ne_of_response code

theorem Failure.kind_eq_transport_iff (failure : Failure) :
    failure.kind = .transport ↔ failure = .timedOut ∨ failure = .notDelivered := by
  cases failure with
  | notBuilt | notDelivered | timedOut => simp [kind]
  | refused code => simp [(kind_refused_ne code).1]

theorem kind_ofCode (operation : Operation) (app : ApplicationRef) (code message : String) :
    (Failure.ofCode operation app code message).kind = kindOfCode code := by
  by_cases listed : code ∈ listedKinds.map Prod.fst
  · simp only [listedKinds, List.map_cons, List.map_nil, List.mem_cons, List.not_mem_nil,
      or_false] at listed
    rcases listed with rfl | rfl | rfl | rfl | rfl | rfl | rfl | rfl | rfl <;> rfl
  · rw [kindOfCode_of_not_listed listed]
    simp only [listedKinds, List.map_cons, List.map_nil, List.mem_cons, List.not_mem_nil,
      or_false, not_or] at listed
    simp [Failure.ofCode, listed, ControlPlaneError.kind]

/-- The kind of an error is that of the failure, whatever was asked of which application and
whatever the failure is described by. -/
theorem kind_classifyAs (operation : Operation) (app : ApplicationRef) (failure : Failure)
    (message : String) : (failure.classifyAs operation app message).kind = failure.kind := by
  cases failure with
  | notBuilt | notDelivered | timedOut => rfl
  | refused code =>
    cases code with
    | none => rfl
    | some code => exact kind_ofCode operation app code message

theorem isRetryable_classifyAs_iff (operation : Operation) (app : ApplicationRef)
    (failure : Failure) (message : String) :
    (failure.classifyAs operation app message).isRetryable = true ↔
      failure = .timedOut ∨ failure = .notDelivered ∨
        ∃ code, failure = .refused (some code) ∧ code ∉ listedKinds.map Prod.fst ∧
          ("Throttl".toList <:+: code.toList ∨ code = "LimitExceededException") := by
  rw [ControlPlaneError.isRetryable_iff, kind_classifyAs]
  cases failure with
  | notBuilt | notDelivered | timedOut => simp [Failure.kind]
  | refused code =>
    cases code with
    | none =>
      have unknown : ¬ "Throttl".toList <:+: "Unknown".toList := by
        rw [← Text.contains_iff]
        decide
      simpa [Failure.kind] using unknown
    | some code =>
      have unsent := (kindOfCode_ne_of_response code).1
      simp only [Failure.kind, unsent, kindOfCode_eq_service_iff, false_or, reduceCtorEq,
        Failure.refused.injEq, Option.some.injEq]
      constructor
      · rintro ⟨_, ⟨other, rfl⟩, marked⟩
        exact ⟨_, rfl, other, marked⟩
      · rintro ⟨_, rfl, other, marked⟩
        exact ⟨_, ⟨other, rfl⟩, marked⟩

/-! ### What errors tell -/

/-- Whether an error tells of a call: the application that was asked for, the operation that was
tried, and the words for the failure. -/
def Tells (operation : Operation) (app : ApplicationRef) (message : String) :
    ControlPlaneError → Prop
  | .notFound application => application = app.display
  | .permissionDenied tried text => tried = operation.name ∧ text = message
  | .conflict application text => application = app.display ∧ text = message
  | .invalidRequest text | .transport text | .service _ text => text = message
  | .missingResponseField _ => False

theorem Tells.eq_service {error : ControlPlaneError} (tells : Tells operation app message error)
    {code : String} (kind : error.kind = .service code) : error = .service code message := by
  cases error with
  | service code' text =>
    cases kind
    exact congrArg _ tells
  | _ => cases kind

theorem tells_ite {p : Prop} [Decidable p] {error other : ControlPlaneError}
    (here : Tells operation app message error) (there : Tells operation app message other) :
    Tells operation app message (if p then error else other) := by
  by_cases holds : p
  · rwa [if_pos holds]
  · rwa [if_neg holds]

theorem tells_classifyAs (operation : Operation) (app : ApplicationRef) (failure : Failure)
    (message : String) : Tells operation app message (failure.classifyAs operation app message) := by
  cases failure with
  | notBuilt | notDelivered | timedOut => exact rfl
  | refused code =>
    exact tells_ite rfl (tells_ite ⟨rfl, rfl⟩ (tells_ite ⟨rfl, rfl⟩ (tells_ite rfl rfl)))

/-! ### Failures with a response -/

/-- The code that is taken from a response.  A success that cannot be read gives none. -/
def Response.extractedCode? (operation : Operation) (response : Response) : Option String :=
  if response.isSuccess then none else response.errorCode? operation

theorem readDelivery_answered_eq_error {response : Response} {failure : Failure}
    (failed : readDelivery operation (.answered response) = .error failure) :
    failure = .refused (response.extractedCode? operation) := by
  unfold readDelivery at failed
  unfold Response.extractedCode?
  cases success : response.isSuccess with
  | false => simpa [success, @eq_comm _ failure] using failed
  | true =>
    cases body : response.object? operation.success with
    | none => simpa [success, body, @eq_comm _ failure] using failed
    | some item => simp [success, body] at failed

/-- Whatever failed, whatever was asked of which application, and however the failure is described:
its class decides first, and with a response the code that is taken from it decides alone.  Only
failures without a response and a few codes of the service make an error that a later call could
avoid. -/
theorem classifyAs_taxonomy (operation : Operation) (app : ApplicationRef) (failure : Failure)
    (message : String) :
    let error := failure.classifyAs operation app message
    (error.kind = .transport ↔ failure = .timedOut ∨ failure = .notDelivered) ∧
    (failure = .notBuilt → error = .invalidRequest message) ∧
    (failure = .refused none → error = .service "Unknown" message) ∧
    (∀ code, failure = .refused (some code) → error.kind = kindOfCode code ∧
      (code ∉ listedKinds.map Prod.fst → error = .service code message)) ∧
    (∀ code, failure = .refused code →
      error.kind ≠ .transport ∧ error.kind ≠ .missingResponseField) ∧
    (∀ response, readDelivery operation (.answered response) = .error failure →
      failure = .refused (response.extractedCode? operation) ∧
      ∀ operation' app' message' response' failure',
        readDelivery operation' (.answered response') = .error failure' →
        response'.extractedCode? operation' = response.extractedCode? operation →
        (failure'.classifyAs operation' app' message').kind = error.kind) ∧
    (∀ application, error = .notFound application → application = app.display) ∧
    (∀ application text, error = .conflict application text → application = app.display) ∧
    (∀ tried text, error = .permissionDenied tried text → tried = operation.name) ∧
    (error.isRetryable = true ↔
      error.kind = .transport ∨ ∃ code, error.kind = .service code ∧
        ("Throttl".toList <:+: code.toList ∨ code = "LimitExceededException")) ∧
    (error.isRetryable = true ↔
      failure = .timedOut ∨ failure = .notDelivered ∨
        ∃ code, failure = .refused (some code) ∧ code ∉ listedKinds.map Prod.fst ∧
          ("Throttl".toList <:+: code.toList ∨ code = "LimitExceededException")) ∧
    (HandlerError.controlPlane error).message = error.message := by
  intro error
  have kind : error.kind = failure.kind := kind_classifyAs operation app failure message
  have tells : Tells operation app message error := tells_classifyAs operation app failure message
  refine ⟨?_, ?_, ?_, ?_, ?_, ?_, ?_, ?_, ?_, error.isRetryable_iff,
    isRetryable_classifyAs_iff operation app failure message, rfl⟩
  · rw [kind]
    exact failure.kind_eq_transport_iff
  · rintro rfl
    rfl
  · rintro rfl
    rfl
  · rintro code rfl
    exact ⟨kind, fun other => tells.eq_service (kind.trans (kindOfCode_of_not_listed other))⟩
  · rintro code rfl
    rw [kind]
    exact Failure.kind_refused_ne code
  · intro response failed
    have extracted := readDelivery_answered_eq_error failed
    refine ⟨extracted, ?_⟩
    intro operation' app' message' response' failure' failed' same
    rw [kind_classifyAs, kind, readDelivery_answered_eq_error failed', same, ← extracted]
  · intro application same
    rw [same] at tells
    exact tells
  · intro application text same
    rw [same] at tells
    exact tells.1
  · intro tried text same
    rw [same] at tells
    exact tells.1

/-- A response of one status that names its code in a header. -/
def throttledByHeader : Response :=
  ⟨400, [("X-Amzn-ErrorType", "ThrottlingException:http://internal/")], ""⟩

/-- A response of another status that names the same code in its body. -/
def throttledByBody : Response :=
  ⟨503, [], "\x7b\"__type\":\"com.amazon#ThrottlingException\",\"message\":\"Rate exceeded\"\x7d"⟩

theorem classifyAs_taxonomy_of_throttled :
    let app : ApplicationRef := ⟨"us-east-1", "orders"⟩
    let throttled := Failure.refused (some "ThrottlingException")
    throttled.classifyAs .describe app "slow" = .service "ThrottlingException" "slow" ∧
    (throttled.classifyAs .describe app "slow").kind ≠ .transport ∧
    throttled = .refused (throttledByHeader.extractedCode? .describe) ∧
    (throttled.classifyAs .start ⟨"eu-west-1", "clicks"⟩ "later").kind =
      (throttled.classifyAs .describe app "slow").kind ∧
    (throttled.classifyAs .describe app "slow").isRetryable = true ∧
    Failure.notBuilt.classifyAs .start app "no" = .invalidRequest "no" ∧
    (Failure.refused none).classifyAs .start app "no" = .service "Unknown" "no" ∧
    "orders (us-east-1)" = app.display ∧
    "clicks (eu-west-1)" = ApplicationRef.display ⟨"eu-west-1", "clicks"⟩ ∧
    "StartApplication" = Operation.start.name := by
  intro app throttled
  have header : readDelivery .describe (.answered throttledByHeader) = .error throttled := by
    have status : throttledByHeader.isSuccess = false := by decide
    have code : throttledByHeader.errorCode? .describe = some "ThrottlingException" := by
      decide +kernel
    simp [readDelivery, status, code, throttled]
  have body : readDelivery .start (.answered throttledByBody) = .error throttled := by
    have status : throttledByBody.isSuccess = false := by decide
    have code : throttledByBody.errorCode? .start = some "ThrottlingException" := by
      decide +kernel
    simp [readDelivery, status, code, throttled]
  have same : throttledByBody.extractedCode? .start =
      throttledByHeader.extractedCode? .describe := by
    decide +kernel
  have other : "ThrottlingException" ∉ listedKinds.map Prod.fst := by decide
  have marked : "Throttl".toList <:+: "ThrottlingException".toList := by
    rw [← Text.contains_iff]
    decide
  have slow := classifyAs_taxonomy .describe app throttled "slow"
  have unbuilt := classifyAs_taxonomy .start app .notBuilt "no"
  have silent := classifyAs_taxonomy .start app (.refused none) "no"
  have absent := classifyAs_taxonomy .start app (.refused (some "ResourceNotFoundException")) "no"
  have busy := classifyAs_taxonomy .start ⟨"eu-west-1", "clicks"⟩
    (.refused (some "ResourceInUseException")) "no"
  have denied := classifyAs_taxonomy .start app (.refused (some "AccessDeniedException")) "no"
  obtain ⟨-, -, -, kept, answered, responses, -, -, -, -, again, -⟩ := slow
  obtain ⟨extracted, alike⟩ := responses throttledByHeader header
  refine ⟨(kept _ rfl).2 other, (answered _ rfl).1, extracted, ?_, ?_, ?_, ?_, ?_, ?_, ?_⟩
  · exact alike .start _ "later" throttledByBody throttled body same
  · exact again.2 (Or.inr (Or.inr ⟨_, rfl, other, Or.inl marked⟩))
  · exact unbuilt.2.1 rfl
  · exact silent.2.2.1 rfl
  · exact absent.2.2.2.2.2.2.1 _ rfl
  · exact busy.2.2.2.2.2.2.2.1 _ "no" rfl
  · exact denied.2.2.2.2.2.2.2.2.1 _ "no" rfl

end Service

end StartOnReady
