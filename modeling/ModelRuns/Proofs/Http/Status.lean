import ModelRuns.Http.Client

namespace ModelRuns

/-!
# Refused requests

A response whose status is no success refuses the request, and the failure of the request
should say with which status.  A download looks at the status of a response and never at
what stands in a refusal.  All other requests about resources read the response as a
document first and look at the status behind that.  So a refusal that is no document, such
as the page of a proxy that cannot reach the service, is reported as a response that cannot
be read, and its status is lost.
-/

/-! ## What a response says -/

/-- The document of a response, if its body is one. -/
def HttpResponse.document? (response : HttpResponse) : Option Json :=
  (decodeUtf8? response.body).bind fun text => (Json.read text).toOption

/-- A failure is one of a resource or kind, and begins with a status. -/
def Failure.NamesStatus (label : String) (status : Nat) (failure : Failure) : Prop :=
  ∃ rest, failure = .remote label ("HTTP " ++ toString status ++ rest)

theorem namesStatus_refused (label : String) (status : Nat) (message : String) :
    (refused label status message).NamesStatus label status :=
  ⟨": " ++ message, by rw [refused, String.append_assoc]⟩

/-- The failure of a response that cannot be read. -/
def unreadable (label : String) : Failure :=
  .api ("invalid response for " ++ label ++ ": error decoding response body")

theorem not_namesStatus_unreadable (label : String) (status : Nat) :
    ¬ (unreadable label).NamesStatus label status := by
  rintro ⟨_, impossible⟩
  cases impossible

/-! ## Reading a refusal -/

namespace ApiRequest

/-- What failures of a request are about: the kind of a new resource, else the resource.
An upload of a report is about none. -/
def label? : ApiRequest → Option String
  | .create creation => some creation.kind.text
  | .get id _ => some id.text
  | .update id _ => some id.text
  | .download id => some id.text
  | .uploadReport _ _ => none

/-- Whether the response is wanted as it is and not as a document. -/
def wantsText : ApiRequest → Bool
  | .download _ => true
  | _ => false

/-- The failure that a refusal is reported as. -/
def refusal (request : ApiRequest) (label : String) (response : HttpResponse) : Failure :=
  if request.wantsText then refused label response.status "download failed"
  else match response.document? with
    | some document => refused label response.status (failureMessage document)
    | none => unreadable label

end ApiRequest

theorem readResource_of_refused {response : HttpResponse} (label : String)
    (failed : isSuccess response.status = false) :
    readResource label response = .error (match response.document? with
      | some document => refused label response.status (failureMessage document)
      | none => unreadable label) := by
  rw [readResource, ← HttpResponse.document?]
  cases response.document? with
  | none => rfl
  | some document => simp only [failed, Bool.false_eq_true, if_false]

theorem readDownload_of_refused {response : HttpResponse} (label : String)
    (failed : isSuccess response.status = false) :
    readDownload label response = .error (refused label response.status "download failed") := by
  simp only [readDownload, failed, Bool.false_eq_true, if_false]

namespace ApiRequest

variable {request : ApiRequest} {label : String} {response : HttpResponse}

theorem interpret_of_refused (labelled : request.label? = some label)
    (failed : isSuccess response.status = false) :
    request.interpret response = request.fail (request.refusal label response) := by
  cases request with
  | create creation =>
    cases labelled
    exact readResource_of_refused _ failed
  | get id query =>
    cases labelled
    exact readResource_of_refused _ failed
  | update id changes =>
    cases labelled
    exact readResource_of_refused _ failed
  | download id =>
    cases labelled
    exact readDownload_of_refused _ failed
  | uploadReport url report => cases labelled

/-- A refusal keeps its status exactly if it is a document or none is wanted. -/
theorem namesStatus_refusal_iff :
    (request.refusal label response).NamesStatus label response.status ↔
      request.wantsText = true ∨ response.document?.isSome = true := by
  unfold refusal
  split
  next wanted => exact iff_of_true (namesStatus_refused _ _ _) (.inl wanted)
  next unwanted =>
    cases response.document? with
    | some document => exact iff_of_true (namesStatus_refused _ _ _) (.inr rfl)
    | none =>
      refine iff_of_false (not_namesStatus_unreadable _ _) ?_
      rintro (wanted | impossible)
      · exact unwanted wanted
      · cases impossible

end ApiRequest

/-! ## Asking over a connection -/

namespace ApiSettings

variable {m : Type → Type} [Monad m] [LawfulMonad m] {settings : ApiSettings}
  {checkFile : Path → m (Except Failure Unit)} {send : HttpRequest → m (Option HttpResponse)}
  {request : ApiRequest} {message : HttpRequest} {response : HttpResponse}

/-- A request whose message is answered ends with what the response says. -/
theorem answer_of_response (made : settings.message request = .ok message)
    (ready : ∀ file fields, message.body = .form file fields → checkFile file = pure (.ok ()))
    (reachable : message.url.isReachable = true)
    (responds : send message = pure (some response)) :
    settings.answer checkFile send request = pure (request.interpret response) := by
  unfold answer
  cases body : message.body with
  | form file fields => simp [made, body, ready file fields body, reachable, responds]
  | empty => simp [made, body, reachable, responds]
  | document held => simp [made, body, reachable, responds]

/-- A refused request fails.  Its failure names the resource, or the kind of a new one, and
begins with the status exactly if the request is a download or the response holds a
document; otherwise the failure is that of an unreadable response. -/
theorem answer_keepsStatus_iff {label : String} (made : settings.message request = .ok message)
    (ready : ∀ file fields, message.body = .form file fields → checkFile file = pure (.ok ()))
    (reachable : message.url.isReachable = true)
    (responds : send message = pure (some response))
    (labelled : request.label? = some label) (failed : isSuccess response.status = false) :
    ∃ failure, settings.answer checkFile send request = pure (request.fail failure) ∧
      (failure.NamesStatus label response.status ↔
        request.wantsText = true ∨ response.document?.isSome = true) ∧
      (request.wantsText = false → response.document? = none → failure = unreadable label) := by
  refine ⟨request.refusal label response, ?_, ApiRequest.namesStatus_refusal_iff, ?_⟩
  · rw [answer_of_response made ready reachable responds,
      ApiRequest.interpret_of_refused labelled failed]
  · intro unwanted undocumented
    rw [ApiRequest.refusal, undocumented, unwanted]
    rfl

/-! ## The page of a proxy -/

/-- A service on the own machine. -/
def nearby : ApiSettings where
  baseUrl := "http://[::1]/andromeda/"
  username := "alice"
  apiKey := "k3y"
  pollIntervalMs := 10
  maxPolls := 3
  uploadUrl := none

/-- The address of the first model there. -/
def nearbyModel : Url where
  scheme := "http"
  authority := some ⟨Url.noUser, "[::1]", none⟩
  path := "/andromeda/model/000000000000000000000001"
  query := some "username=alice&api_key=k3y"
  fragment := none

/-- The refusal of a proxy that cannot reach the service: a page that begins with
`<html>`. -/
def proxyPage : HttpResponse := ⟨502, [], encodeUtf8 "<html>Bad Gateway</html>"⟩

/-- The status 502 of the page is lost. -/
theorem answer_keepsStatus_iff_proxyPage :
    nearby.message (.get ⟨.model, "000000000000000000000001"⟩ none) =
      .ok ⟨.get, nearbyModel, .empty⟩ ∧
    nearbyModel.isReachable = true ∧ isSuccess proxyPage.status = false ∧
    nearby.answer (m := Id) (fun _ => .ok ()) (fun _ => some proxyPage)
        (.get ⟨.model, "000000000000000000000001"⟩ none) =
      .error (unreadable "model/000000000000000000000001") ∧
    ¬ (unreadable "model/000000000000000000000001").NamesStatus
      "model/000000000000000000000001" proxyPage.status := by
  have addressed : nearby.url "model/000000000000000000000001" none = .ok nearbyModel := by
    have found : (nearby.url "model/000000000000000000000001" none).toOption =
        some nearbyModel := by decide +kernel
    cases read : nearby.url "model/000000000000000000000001" none with
    | error failure => simp [read, Except.toOption] at found
    | ok url => simpa [read, Except.toOption] using found
  have made : nearby.message (.get ⟨.model, "000000000000000000000001"⟩ none) =
      .ok ⟨.get, nearbyModel, .empty⟩ := by
    have named : ResourceId.text ⟨.model, "000000000000000000000001"⟩ =
        "model/000000000000000000000001" := by decide
    have sent : nearbyModel.withoutUser = nearbyModel := by decide +kernel
    rw [message, named, addressed]
    exact congrArg (fun url => (.ok ⟨.get, url, .empty⟩ : Except Failure HttpRequest)) sent
  have reachable : nearbyModel.isReachable = true := by decide +kernel
  have undocumented : proxyPage.document? = none := by decide +kernel
  have kept : ∃ failure, nearby.answer (m := Id) (fun _ => .ok ()) (fun _ => some proxyPage)
        (.get ⟨.model, "000000000000000000000001"⟩ none) = .error failure ∧
      (failure.NamesStatus "model/000000000000000000000001" proxyPage.status ↔
        false = true ∨ proxyPage.document?.isSome = true) ∧
      (false = false → proxyPage.document? = none →
        failure = unreadable "model/000000000000000000000001") :=
    answer_keepsStatus_iff made nofun reachable rfl (by decide) rfl
  obtain ⟨failure, answered, named, lost⟩ := kept
  cases lost rfl undocumented
  refine ⟨made, reachable, rfl, answered, ?_⟩
  rw [named, undocumented]
  decide

end ApiSettings

end ModelRuns
