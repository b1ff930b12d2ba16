import ClassOutline.Proofs.RequestLog
import ClassOutline.Proofs.UntouchedFiles

/-!
# Methods that the root path refuses

The root path answers `GET` alone. Four other methods are refused with the message of the service, which is in the
body and in a warning of the log. All methods besides are refused as well, but by a fixed answer without that message,
and the log does not take it for an error. No file is looked at in either case.
-/
namespace ClassOutline.Service.Http

open Catalog Config Log Outline Program

private theorem ignoresFiles_encode (text : RawText) : IgnoresFiles (encode text) := by
  rw [encode]
  split
  · exact .pure _
  · exact .fail _

private theorem ignoresFiles_bodyText (host : Host) (document : Json) : IgnoresFiles (bodyText host document) :=
  .bind .settings fun s => .bind (.layOut host s document) ignoresFiles_encode

private theorem ignoresFiles_errorAnswer (host : Host) (status : Nat) (allow : Option String) (message : RawText) :
    IgnoresFiles (errorAnswer host status allow message) :=
  .bind (ignoresFiles_bodyText host _) fun _ => .pure _

private theorem ignoresFiles_handle {host : Host} {request : Request} (h : IgnoresFiles (answer host request)) :
    IgnoresFiles (handle host request) :=
  .bind (.log host _) fun _ => .bind h fun _ => .bind (.log host _) fun _ => .pure _

/-- What is done about a request, with whatever is read from files. -/
theorem handle_congr {host : Host} {request : Request} {read : Reader} {schedule : List Nat}
    (h : answer { host with read := read, schedule := schedule } request = answer host request) :
    handle { host with read := read, schedule := schedule } request = handle host request := by
  rw [handle, h]
  rfl

private theorem value_errorAnswer_of_fault {w : Workspace} {fault : IntegerFault} (h : w.inUse = .error fault)
    (host : Host)
    (status : Nat) (allow : Option String) (message : RawText) :
    (errorAnswer host status allow message w).value = .error (.badInteger fault) := by
  have hsettings : (Program.settings w).value = .error (.badInteger fault) := by rw [settings_apply, h]; rfl
  rw [errorAnswer, value_map, bodyText, bind_of_error hsettings]
  rfl

/-! ### The log -/

private theorem records_bind_eq_nil {α β : Type} {p : Program α} {f : α → Program β} {w : Workspace}
    (hp : (p w).records = [])
    (hf : ∀ a v, (f a v).records = []) : ((p >>= f) w).records = [] := by
  rcases bind_cases p f w with ⟨_, _, hrun⟩ | ⟨a, _, hrun⟩
  · rw [hrun]
    exact hp
  · rw [hrun, Run.records_append, hf]
    exact (List.append_nil _).trans hp

private theorem records_settings (w : Workspace) : (Program.settings w).records = [] := by
  rw [settings_apply]
  rfl

private theorem records_bodyText (host : Host) (document : Json) (w : Workspace) :
    (bodyText host document w).records = [] := by
  refine records_bind_eq_nil (records_settings w) fun s v => records_bind_eq_nil ?_ fun text v => ?_
  · rw [layOut_apply]
    rfl
  · rw [encode_apply]
    rfl

private theorem records_errorAnswer (host : Host) (status : Nat) (allow : Option String) (message : RawText)
    (w : Workspace) :
    (errorAnswer host status allow message w).records = [] :=
  records_bind_eq_nil (records_bodyText host _ w) fun _ _ => rfl

/-- An answer without records of its own leaves those of the service. -/
theorem records_handle_of_silent {host : Host} {request : Request} {w : Workspace} {a : Answer}
    (hvalue : (answer host request w).value = .ok a) (hsilent : (answer host request w).records = []) :
    (handle host request w).records =
      [requestRecord request, responseRecord host a].filter w.logging.isEnabled := by
  have hlogging := (works_answer host request).logging w
  have hlast : ((do Program.log host (responseRecord host a); return a.response : Program Response)
      (answer host request w).workspace).records = [responseRecord host a].filter w.logging.isEnabled := by
    rw [bind_of_ok (a := ()) rfl, Run.records_append]
    change (Program.log host (responseRecord host a) _).records ++ [] = _
    rw [records_log_eq_filter, hlogging, List.append_nil]
  rw [handle, bind_of_ok (a := ()) rfl, Run.records_append]
  change (Program.log host (requestRecord request) w).records ++ ((answer host request >>= _) w).records = _
  rw [records_log_eq_filter, bind_of_ok hvalue, Run.records_append, hlast]
  change _ ++ ((answer host request w).records ++ _) = _
  rw [hsilent, List.nil_append, ← List.filter_append]
  rfl

/-! ### The answer -/

/-- A request is refused with a document, and the log has a record of the request and a report of the response. -/
def RefusedWith (host : Host) (request : Request) (w : Workspace) (document : Json)
    (report : Response → Record) : Prop :=
  ∃ response, (handle host request w).value = .ok response ∧ response.status = 405 ∧ response.allow = some "GET" ∧
    response.contentType = some "application/json" ∧ Json.read? response.body = some document ∧
    (handle host request w).records = [.of .info "php_outline.main" (requestText (request.client.getD "unknown")
      (request.namedPath?.getD "none") (.ofPublic request.wantsPublic)), report response].filter w.logging.isEnabled

private theorem requestRecord_eq (request : Request) :
    requestRecord request = .of .info "php_outline.main" (requestText (request.client.getD "unknown")
      (request.namedPath?.getD "none") (.ofPublic request.wantsPublic)) := by
  rw [requestRecord, target?_eq_namedPath?, filter_eq_ofPublic]
  rfl

private theorem refusedWith_of_answer {host : Host} {request : Request} {w : Workspace} {body length : String}
    {error : Option RawText}
    (hvalue : (answer host request w).value = .ok ⟨json 405 (some "GET") body, length, error⟩)
    (hsilent : (answer host request w).records = []) {document : Json} (hread : Json.read? body = some document)
    {report : Response → Record} (hreport : responseRecord host ⟨json 405 (some "GET") body, length, error⟩ =
      report (json 405 (some "GET") body)) : RefusedWith host request w document report := by
  refine ⟨json 405 (some "GET") body, ?_, rfl, rfl, rfl, hread, ?_⟩
  · rw [value_handle_eq_answer, hvalue]
    rfl
  · rw [records_handle_of_silent hvalue hsilent, hreport, requestRecord_eq]

/-- The warning about an error. -/
def errorReport (host : Host) (request : Request) (message : String) (response : Response) : Record :=
  .of .warning "php_outline.main"
    s!"[HTTP] Error Response: status={response.status}, error=\"{message}\", {metrics host request response}"

/-- The record of a response that is no error. -/
def plainReport (host : Host) (request : Request) (response : Response) : Record :=
  .of .info "php_outline.main" s!"[HTTP] Response: status={response.status}, {metrics host request response}"

section Refused

variable {host : Host} (hframework : host.framework.Documented) {request : Request} (hroot : request.AtRoot)
  {w : Workspace}

include hframework hroot

section Listed

variable (hmethod : request.method ∈ ["POST", "PUT", "PATCH", "DELETE"])

include hmethod

private theorem answer_of_listed :
    answer host request = errorAnswer host 405 (some "GET") "Only GET requests are supported" := by
  rw [answer_of_route (hframework.refusal request hroot hmethod)]
  rfl

private theorem refusedWith_message {s : Settings} (hs : w.inUse = .ok s) {format : Json.Format}
    (hformat : Json.Format.indented? host.room s.jsonIndent = .ok format) :
    RefusedWith host request w (.object [("error", .string "Only GET requests are supported")])
      (errorReport host request "Only GET requests are supported") := by
  have hanswer := answer_of_listed hframework hroot hmethod
  have hroute := hframework.refusal request hroot hmethod
  obtain ⟨body, hsent, hread⟩ := sent_of_encodable (layout_of_ok hformat _) (encodable_errorJson
    (by rw [indented_of_ok hformat]; rfl) (RawText.encodable_raw "Only GET requests are supported"))
  apply refusedWith_of_answer
  · rw [hanswer, value_errorAnswer hs, hsent]
    rfl
  · rw [hanswer]
    exact records_errorAnswer host 405 (some "GET") "Only GET requests are supported" w
  · exact hread
  · simp only [errorReport, metrics, declaredLength, hroute, responseRecord, RawText.shown_raw]
    rfl

private theorem value_handle_of_fault {fault : Fault}
    (h : ∀ message : String, (errorAnswer host 405 (some "GET") message w).value = .error fault) :
    (handle host request w).value = .error fault := by
  rw [value_handle_eq_answer, answer_of_listed hframework hroot hmethod, h]
  rfl

end Listed

section Unlisted

variable (hget : request.method ≠ "GET") (hmethod : request.method ∉ ["POST", "PUT", "PATCH", "DELETE"])

include hget hmethod

private theorem refusedWith_notAllowed :
    RefusedWith host request w (.object [("detail", .string "Method Not Allowed")]) (plainReport host request) := by
  obtain ⟨body, length, hown, hread⟩ := hframework.unlisted request hroot hget hmethod
  have hanswer := answer_of_own hown
  have hvalue : (answer host request w).value = .ok ⟨json 405 (some "GET") body, length, none⟩ := by
    rw [hanswer]
    rfl
  apply refusedWith_of_answer hvalue
  · rw [hanswer]
    rfl
  · exact hread
  · rw [plainReport, metrics, declaredLength, hown]
    rfl

end Unlisted

/-- No file has a part in what is done about a method other than `GET`. -/
theorem ignoresFiles_of_refused (hget : request.method ≠ "GET") : IgnoresFiles (handle host request) := by
  apply ignoresFiles_handle
  by_cases hmethod : request.method ∈ ["POST", "PUT", "PATCH", "DELETE"]
  · rw [answer_of_listed hframework hroot hmethod]
    exact ignoresFiles_errorAnswer host 405 (some "GET") _
  · obtain ⟨body, length, hown, _⟩ := hframework.unlisted request hroot hget hmethod
    rw [answer_of_own hown]
    exact .pure _

/-- Nobody reads a file for a method other than `GET`. -/
theorem handle_with_reader (hget : request.method ≠ "GET") (read : Reader) (schedule : List Nat) :
    handle { host with read := read, schedule := schedule } request = handle host request := by
  apply handle_congr
  by_cases hmethod : request.method ∈ ["POST", "PUT", "PATCH", "DELETE"]
  · rw [answer_of_listed hframework hroot hmethod]
    have hother : ({ host with read := read, schedule := schedule } : Host).framework.Documented := hframework
    exact answer_of_listed hother hroot hmethod
  · obtain ⟨body, length, hown, _⟩ := hframework.unlisted request hroot hget hmethod
    rw [answer_of_own hown]
    have hother : ({ host with read := read, schedule := schedule } : Host).framework request =
      .own (json 405 (some "GET") body) length := hown
    exact answer_of_own hother

end Refused

/-- A method other than `GET` gets the message of the service exactly if it is one of four, as far as there are settings
to lay it out with. Any other is refused without the message, and the log has no warning. Nobody looks at a file or
reads one. -/
theorem refused_with_message_if_listed (host : Host) (hframework : host.framework.Documented) (request : Request)
    (hroot : request.AtRoot) (hget : request.method ≠ "GET") :
    IgnoresFiles (handle host request) ∧
    (∀ read schedule, handle { host with read := read, schedule := schedule } request = handle host request) ∧
    ∀ w : Workspace,
      (request.method ∈ ["POST", "PUT", "PATCH", "DELETE"] →
        (∀ s format, w.inUse = .ok s → Json.Format.indented? host.room s.jsonIndent = .ok format →
          RefusedWith host request w (.object [("error", .string "Only GET requests are supported")])
            (errorReport host request "Only GET requests are supported")) ∧
        (∀ s fault, w.inUse = .ok s → Json.Format.indented? host.room s.jsonIndent = .error fault →
          (handle host request w).value = .error (.layout fault)) ∧
        ∀ fault, w.inUse = .error fault → (handle host request w).value = .error (.badInteger fault)) ∧
      (request.method ∉ ["POST", "PUT", "PATCH", "DELETE"] →
        RefusedWith host request w (.object [("detail", .string "Method Not Allowed")])
          (plainReport host request)) := by
  refine ⟨ignoresFiles_of_refused hframework hroot hget, handle_with_reader hframework hroot hget, fun w => ?_⟩
  refine ⟨fun hmethod => ⟨?_, ?_, ?_⟩, refusedWith_notAllowed hframework hroot hget⟩
  · intro s format hs hformat
    exact refusedWith_message hframework hroot hmethod hs hformat
  · intro s fault hs hfault
    apply value_handle_of_fault hframework hroot hmethod
    intro message
    rw [value_errorAnswer hs, sent_of_error (layout_of_error hfault _)]
    rfl
  · intro fault hfault
    apply value_handle_of_fault hframework hroot hmethod
    intro message
    exact value_errorAnswer_of_fault hfault host 405 (some "GET") message

theorem informed_refuses :
    (∃ response, (handle plainHost { posted with method := "PATCH" } informed).value = .ok response ∧
      response.status = 405 ∧ response.allow = some "GET" ∧
      Json.read? response.body = some (.object [("error", .string "Only GET requests are supported")]) ∧
      (handle plainHost { posted with method := "PATCH" } informed).records =
        [.of .info "php_outline.main" "[HTTP] Request from unknown: path=none, filter=ALL",
          errorReport plainHost { posted with method := "PATCH" } "Only GET requests are supported" response]) ∧
    ∃ response, (handle plainHost { posted with method := "OPTIONS" } informed).value = .ok response ∧
      response.status = 405 ∧ response.allow = some "GET" ∧
      Json.read? response.body = some (.object [("detail", .string "Method Not Allowed")]) ∧
      (handle plainHost { posted with method := "OPTIONS" } informed).records =
        [.of .info "php_outline.main" "[HTTP] Request from unknown: path=none, filter=ALL",
          plainReport plainHost { posted with method := "OPTIONS" } response] := by
  have hpatch := (refused_with_message_if_listed plainHost documented_plainHost { posted with method := "PATCH" }
    (.inl rfl) (by decide)).2.2 informed
  have hoptions := (refused_with_message_if_listed plainHost documented_plainHost { posted with method := "OPTIONS" }
    (.inl rfl) (by decide)).2.2 informed
  obtain ⟨response, hvalue, hstatus, hallow, _, hbody, hrecords⟩ :=
    (hpatch.1 (by decide)).1 (withIndent 2) (.indented 2) rfl rfl
  obtain ⟨other, hvalue', hstatus', hallow', _, hbody', hrecords'⟩ := hoptions.2 (by decide)
  exact ⟨⟨response, hvalue, hstatus, hallow, hbody, hrecords⟩,
    ⟨other, hvalue', hstatus', hallow', hbody', hrecords'⟩⟩

end ClassOutline.Service.Http
