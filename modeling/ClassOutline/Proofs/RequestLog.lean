import ClassOutline.Proofs.TransportAgreement
import Mathlib.Data.List.Induction

/-!
# The log of a request

A request leaves two records of the service: one of what is asked for, before anything is done about it, and one of
the response, which is a warning if the service refused the request. Between them stand only records of the work on
files. This holds of every framework, wherever it sends the requests and whatever it answers by itself.
-/
namespace ClassOutline.Catalog

open Files Log Outline

/-! ### Who speaks during the work on files -/

def IsWorkRecord (r : Record) : Prop :=
  r.logger = readerLogger ∨ r.logger = catalogLogger

private theorem isWorkRecord_outlineContent (read : Reader) (filter : Filter) (path : Path) (content : ByteArray) :
    ∀ r ∈ (outlineContent read filter path content).records, IsWorkRecord r := by
  have hfailure (failure : ReadFailure) : IsWorkRecord (failure.record path) := by
    cases failure <;> exact .inr rfl
  intro r hr
  rw [outlineContent] at hr
  split at hr
  · rw [List.mem_singleton.mp hr]
    exact .inl rfl
  · rename_i failure _
    rcases List.mem_append.mp hr with hr | hr
    · split at hr
      · cases hr
      · rw [List.mem_singleton.mp hr]
        exact .inl rfl
    · rw [List.mem_singleton.mp hr]
      exact hfailure failure

private theorem isWorkRecord_outlineAll (method : Method) (files : List FoundFile) :
    ∀ r ∈ (Site.outlineAll method files).records, IsWorkRecord r := by
  intro r hr
  -- However the files are shared out, what is done is the work on them.
  have hdone : ∃ x ∈ files.map (Site.outlineFound method), r ∈ x.records := by
    simp only [Site.outlineAll] at hr
    obtain ⟨x, hx, hrx⟩ := List.mem_flatMap.mp hr
    refine ⟨x, ?_, hrx⟩
    split at hx
    · rename_i hmany
      exact (Pool.order_perm (by omega) _ _).mem_iff.mp hx
    · exact hx
  obtain ⟨x, hx, hrx⟩ := hdone
  obtain ⟨file, _, rfl⟩ := List.mem_map.mp hx
  exact isWorkRecord_outlineContent _ _ _ _ r hrx

private theorem isWorkRecord_ofFile {site : Site} {method : Method} {path : Path} {logged : Logged Catalog}
    (h : site.ofFile method path = .ok logged) : ∀ r ∈ logged.records, IsWorkRecord r := by
  simp only [Site.ofFile] at h
  split at h
  · cases h
  · cases h
  · cases h
  · cases h
    exact isWorkRecord_outlineContent _ _ _ _

private theorem isWorkRecord_ofDirectory {site : Site} {method : Method} {path : Path} {logged : Logged Catalog}
    (h : site.ofDirectory method path = .ok logged) : ∀ r ∈ logged.records, IsWorkRecord r := by
  simp only [Site.ofDirectory] at h
  split at h
  · cases h
  · cases h
  · cases h
  · split at h
    · cases h
    · cases h
      intro r hr
      rcases List.mem_cons.mp hr with rfl | hr
      · exact .inr rfl
      · exact isWorkRecord_outlineAll _ _ r hr

private theorem isWorkRecord_ofPath {site : Site} {method : Method} {path : Path} {logged : Logged Catalog}
    (h : site.ofPath method path = .ok logged) : ∀ r ∈ logged.records, IsWorkRecord r := by
  rw [Site.ofPath] at h
  split at h
  · cases h
  · exact isWorkRecord_ofDirectory h
  · exact isWorkRecord_ofFile h

end ClassOutline.Catalog

namespace ClassOutline.Service

open Catalog Config Log Outline

namespace Program

variable {α β : Type}

/-- A program that leaves logging as it is set up, and logs only the records of the work on files. -/
structure Works (p : Program α) : Prop where
  logging : ∀ w, (p w).workspace.logging = w.logging
  records : ∀ w, ∀ r ∈ (p w).records, IsWorkRecord r

theorem Works.pure (a : α) : Works (Pure.pure a : Program α) :=
  ⟨fun _ => rfl, fun _ _ h => absurd h List.not_mem_nil⟩

theorem Works.fail (fault : Fault) : Works (Program.fail fault : Program α) :=
  ⟨fun _ => rfl, fun _ _ h => absurd h List.not_mem_nil⟩

theorem Works.settings : Works Program.settings := by
  constructor
  · intro w
    rw [settings_apply]
  · intro w r h
    rw [settings_apply] at h
    exact absurd h List.not_mem_nil

theorem Works.bind {p : Program α} {f : α → Program β} (hp : Works p) (hf : ∀ a, Works (f a)) :
    Works (p >>= f) := by
  constructor
  · intro w
    rcases bind_cases p f w with ⟨fault, _, hrun⟩ | ⟨a, _, hrun⟩
    · rw [hrun]
      exact hp.logging w
    · rw [hrun]
      exact ((hf a).logging _).trans (hp.logging w)
  · intro w r hr
    rcases bind_cases p f w with ⟨fault, _, hrun⟩ | ⟨a, _, hrun⟩
    · rw [hrun] at hr
      exact hp.records w r hr
    · rw [hrun, Run.records_append] at hr
      rcases List.mem_append.mp hr with hr | hr
      · exact hp.records w r hr
      · exact (hf a).records _ r hr

theorem Works.log (host : Host) {r : Record} (h : IsWorkRecord r) : Works (Program.log host r) := by
  constructor
  · intro w
    rfl
  · intro w r' hr'
    rw [records_log] at hr'
    split at hr'
    · rw [List.mem_singleton.mp hr']
      exact h
    · exact absurd hr' List.not_mem_nil

theorem Works.logAll (host : Host) {rs : List Record} (h : ∀ r ∈ rs, IsWorkRecord r) :
    Works (Program.logAll host rs) := by
  induction rs with
  | nil => exact .pure ()
  | cons r rest ih =>
    have hrest : ∀ r ∈ rest, IsWorkRecord r := fun r' hr' => h r' (List.mem_cons_of_mem _ hr')
    exact .bind (.log host (h r List.mem_cons_self)) fun _ => ih hrest

theorem Works.layOut (host : Host) (s : Settings) (document : Json) : Works (Program.layOut host s document) := by
  rw [Program.layOut]
  split
  · exact .pure _
  · exact .fail _

theorem Works.catalog (host : Host) {result : Catalog.Result}
    (h : ∀ logged, result = .ok logged → ∀ r ∈ logged.records, IsWorkRecord r) :
    Works (Program.catalog host result) := by
  cases result with
  | error fault => exact .pure _
  | ok logged => exact .bind (.logAll host (h logged rfl)) fun _ => .pure _

theorem Works.outlinePath (host : Host) (s : Settings) (filter : Filter) (path : RawText) :
    Works (Program.outlinePath host s filter path) := by
  -- Which files there are depends on the workspace, so each workspace has a program of its own.
  have hrecords (w : Workspace) : ∀ logged, w.site.ofPath (host.method s filter) (.ofText path) = .ok logged →
      ∀ r ∈ logged.records, IsWorkRecord r := fun _ => isWorkRecord_ofPath
  constructor
  · intro w
    rw [Program.outlinePath]
    exact (Works.catalog host (hrecords w)).logging w
  · intro w
    rw [Program.outlinePath]
    exact (Works.catalog host (hrecords w)).records w

end Program

namespace Http

open Program

private theorem works_encode (text : RawText) : Works (encode text) := by
  rw [encode]
  split
  · exact .pure _
  · exact .fail _

private theorem works_bodyText (host : Host) (document : Json) : Works (bodyText host document) :=
  .bind .settings fun s => .bind (.layOut host s document) works_encode

private theorem works_errorAnswer (host : Host) (status : Nat) (allow : Option String) (message : RawText) :
    Works (errorAnswer host status allow message) :=
  .bind (works_bodyText host _) fun _ => .pure _

private theorem works_catalogAnswer (host : Host) (request : Request) : Works (catalogAnswer host request) := by
  rw [catalogAnswer]
  split
  · exact works_errorAnswer host 400 none missingPath
  · refine .bind .settings fun s => .bind (.outlinePath host s _ _) fun result => ?_
    cases result with
    | error fault => exact works_errorAnswer host 400 none fault.message
    | ok catalog => exact .bind (works_bodyText host _) fun _ => .pure _

theorem works_answer (host : Host) (request : Request) : Works (answer host request) := by
  rw [answer]
  split
  · rename_i route _
    cases route with
    | catalog => exact works_catalogAnswer host request
    | refusal => exact works_errorAnswer host 405 (some "GET") getOnly
    | health => exact .pure _
  · exact .pure _

/-! ### What a request asks for -/

def lastValue? (query : List (String × String)) (name : String) : Option String :=
  ((query.filter fun p => p.1 = name).getLast?).map Prod.snd

/-- The path that a request names, if it names one and not the empty one. -/
def Request.namedPath? (r : Request) : Option String :=
  match lastValue? r.query "path" with
  | none => none
  | some path => if path = "" then none else some path

def Request.wantsPublic (r : Request) : Bool :=
  flagValue (lastValue? r.query "public")

private theorem parameter?_eq_lastValue? (r : Request) (name : String) :
    r.parameter? name = lastValue? r.query name := by
  obtain ⟨method, path, query, client⟩ := r
  change query.reverse.lookup name = lastValue? query name
  induction query using List.reverseRecOn with
  | nil => rfl
  | append_singleton query p ih =>
    obtain ⟨key, value⟩ := p
    rw [List.reverse_append, List.reverse_singleton, List.singleton_append, List.lookup_cons, lastValue?,
      List.filter_append]
    by_cases h : key = name
    · simp [h]
    · have hfiltered : [(key, value)].filter (fun p => p.1 = name) = [] := by simp [h]
      have hname : (name == key) = false := beq_false_of_ne fun h' => h h'.symm
      rw [hfiltered, List.append_nil, hname]
      exact ih

theorem target?_eq_namedPath? (r : Request) : r.target? = r.namedPath? := by
  rw [Request.target?, Request.namedPath?, parameter?_eq_lastValue?]
  cases lastValue? r.query "path" with
  | none => rfl
  | some path => by_cases h : path = "" <;> simp [Option.filter, h]

theorem filter_eq_ofPublic (r : Request) : r.filter = .ofPublic r.wantsPublic := by
  rw [Request.filter, filterOfFlag, parameter?_eq_lastValue?]
  rfl

/-! ### What it gets -/

/-- A request is refused with a status and a message. -/
inductive Refuses (host : Host) (w : Workspace) (request : Request) : Nat → RawText → Prop
  | noPath (hroute : host.framework request = .route .catalog) (hnone : request.namedPath? = none) :
      Refuses host w request 400 "Missing 'path' query parameter"
  | noCatalog {s : Settings} {path : String} {fault : PathFault} (hroute : host.framework request = .route .catalog)
      (hpath : request.namedPath? = some path) (hsettings : w.inUse = .ok s)
      (houtcome : w.outcome host.read s host.schedule request.wantsPublic path = .error fault) :
      Refuses host w request 400 fault.message
  | notGet (hroute : host.framework request = .route .refusal) :
      Refuses host w request 405 "Only GET requests are supported"

/-- A response to somebody who asks for the catalog of a path, if they name one. -/
def Serves (host : Host) (w : Workspace) (isPublic : Bool) (response : Response) : Option String → Prop
  | none => response.status = 400 ∧ Json.read? response.body = some (errorJson "Missing 'path' query parameter")
  | some path => ∃ s, w.inUse = .ok s ∧
      response.status = statusOf (w.outcome host.read s host.schedule isPublic path) ∧
      Json.read? response.body = some (catalogJson (w.outcome host.read s host.schedule isPublic path))

/-- An answer that reports an error does so in its body as well. -/
structure Answer.Reports (a : Answer) (status : Nat) (message : RawText) : Prop where
  status : a.response.status = status
  error : a.error = some message
  body : Json.read? a.response.body = some (errorJson message)
  length : a.length = toString a.response.body.utf8ByteSize

private theorem inUse_of_settings_bind {α : Type} {f : Settings → Program α} {w : Workspace} {a : α}
    (h : ((Program.settings >>= f) w).value = .ok a) : ∃ s, w.inUse = .ok s := by
  cases hinUse : w.inUse with
  | ok s => exact ⟨s, rfl⟩
  | error fault =>
    have hvalue : (Program.settings w).value = .error (.badInteger fault) := by rw [settings_apply, hinUse]; rfl
    rw [bind_of_error hvalue] at h
    cases h

private theorem reports_errorAnswer {host : Host} {status : Nat} {allow : Option String} {message : RawText}
    {w : Workspace}
    {a : Answer} (h : (errorAnswer host status allow message w).value = .ok a) : a.Reports status message := by
  have hsettings : ∃ s, w.inUse = .ok s := by
    rcases bind_cases (bodyText host (errorJson message))
      (fun body => Pure.pure (Answer.of (json status allow body) (some message))) w with
      ⟨fault, _, hrun⟩ | ⟨body, hbody, _⟩
    · rw [errorAnswer, hrun] at h
      cases h
    · exact inUse_of_settings_bind hbody
  obtain ⟨s, hs⟩ := hsettings
  rw [value_errorAnswer hs] at h
  obtain ⟨body, hsent, rfl⟩ := exists_of_map_eq_ok h
  exact ⟨rfl, rfl, read?_sent hsent, rfl⟩

private theorem catalogAnswer_of_none {host : Host} {request : Request} (h : request.namedPath? = none) :
    catalogAnswer host request = errorAnswer host 400 none "Missing 'path' query parameter" := by
  rw [catalogAnswer, target?_eq_namedPath?, h]
  rfl

/-- What the answer to a request for the catalog of a path tells. -/
structure Answer.TellsOutcome (a : Answer) (outcome : Except PathFault Catalog) : Prop where
  status : a.response.status = statusOf outcome
  error : a.error = errorOf outcome
  body : Json.read? a.response.body = some (catalogJson outcome)
  length : a.length = toString a.response.body.utf8ByteSize

private theorem catalogAnswer_of_some {host : Host} {request : Request} {w : Workspace} {path : String} {a : Answer}
    (hpath : request.namedPath? = some path) (hvalue : (catalogAnswer host request w).value = .ok a) :
    ∃ s, w.inUse = .ok s ∧ a.TellsOutcome (w.outcome host.read s host.schedule request.wantsPublic path) := by
  have htarget : request.target? = some path := by rw [target?_eq_namedPath?, hpath]
  have hsettings : ∃ s, w.inUse = .ok s := by
    rw [catalogAnswer, htarget] at hvalue
    exact inUse_of_settings_bind hvalue
  obtain ⟨s, hs⟩ := hsettings
  refine ⟨s, hs, ?_⟩
  rw [value_catalogAnswer hs host htarget (filter_eq_ofPublic request)] at hvalue
  generalize w.outcome host.read s host.schedule request.wantsPublic path = outcome at hvalue ⊢
  obtain ⟨body, hsent, rfl⟩ := exists_of_map_eq_ok hvalue
  exact ⟨rfl, rfl, read?_sent hsent, rfl⟩

theorem Refuses.reports {host : Host} {w : Workspace} {request : Request} {status : Nat} {message : RawText}
    (h : Refuses host w request status message) {a : Answer} (hvalue : (answer host request w).value = .ok a) :
    a.Reports status message := by
  cases h with
  | noPath hroute hnone =>
    rw [answer_of_route hroute, Route.answer, catalogAnswer_of_none hnone] at hvalue
    exact reports_errorAnswer hvalue
  | noCatalog hroute hpath hsettings houtcome =>
    rw [answer_of_route hroute] at hvalue
    obtain ⟨s, hs, htells⟩ := catalogAnswer_of_some hpath hvalue
    cases hsettings.symm.trans hs
    rw [houtcome] at htells
    exact ⟨htells.status, htells.error, htells.body, htells.length⟩
  | notGet hroute =>
    rw [answer_of_route hroute] at hvalue
    exact reports_errorAnswer hvalue

theorem Refuses.status {host : Host} {w : Workspace} {request : Request} {status : Nat} {message : RawText}
    (h : Refuses host w request status message) : status = 400 ∨ status = 405 := by
  cases h with
  | noPath => exact .inl rfl
  | noCatalog => exact .inl rfl
  | notGet => exact .inr rfl

private theorem serves_answer {host : Host} {w : Workspace} {request : Request}
    (hroute : host.framework request = .route .catalog) {a : Answer}
    (hvalue : (answer host request w).value = .ok a) :
    Serves host w request.wantsPublic a.response request.namedPath? := by
  rw [answer_of_route hroute] at hvalue
  cases hpath : request.namedPath? with
  | none =>
    rw [Route.answer, catalogAnswer_of_none hpath] at hvalue
    have hreports := reports_errorAnswer hvalue
    exact ⟨hreports.status, hreports.body⟩
  | some path =>
    obtain ⟨s, hs, htells⟩ := catalogAnswer_of_some hpath hvalue
    exact ⟨s, hs, htells.status, htells.body⟩

/-- The length that a response declares. -/
def declaredLength (host : Host) (request : Request) (response : Response) : String :=
  match host.framework request with
  | .route _ => toString response.body.utf8ByteSize
  | .own _ length => length

private theorem exists_fault_of_errorOf {outcome : Except PathFault Catalog} {message : RawText}
    (h : errorOf outcome = some message) : ∃ fault, outcome = .error fault ∧ fault.message = message := by
  cases outcome with
  | error fault => exact ⟨fault, rfl, Option.some.inj h⟩
  | ok catalog => cases h

/-- An answer declares its length, and only a request that is refused gets an error. -/
theorem refused_of_answer {host : Host} {w : Workspace} {request : Request} {a : Answer}
    (hvalue : (answer host request w).value = .ok a) :
    a.length = declaredLength host request a.response ∧
      (a.error = none ∨ ∃ status message, Refuses host w request status message) := by
  rw [declaredLength]
  cases hroute : host.framework request with
  | own response length =>
    rw [answer_of_own hroute] at hvalue
    cases hvalue
    exact ⟨rfl, .inl rfl⟩
  | route route =>
    rw [answer_of_route hroute] at hvalue
    cases route with
    | health =>
      cases hvalue
      exact ⟨rfl, .inl rfl⟩
    | refusal => exact ⟨(reports_errorAnswer hvalue).length, .inr ⟨405, _, .notGet hroute⟩⟩
    | catalog =>
      cases hpath : request.namedPath? with
      | none =>
        rw [Route.answer, catalogAnswer_of_none hpath] at hvalue
        exact ⟨(reports_errorAnswer hvalue).length, .inr ⟨400, _, .noPath hroute hpath⟩⟩
      | some path =>
        obtain ⟨s, hs, htells⟩ := catalogAnswer_of_some hpath hvalue
        refine ⟨htells.length, ?_⟩
        cases herror : a.error with
        | none => exact .inl rfl
        | some message =>
          obtain ⟨fault, houtcome, _⟩ := exists_fault_of_errorOf (htells.error.symm.trans herror)
          exact .inr ⟨400, _, .noCatalog hroute hpath hs houtcome⟩

/-! ### What the log says -/

private theorem isEnabled_of_info {w : Workspace} (h : w.logging.level ≤ Level.info.number) {r : Record}
    (hr : Level.info.number ≤ r.level) : w.logging.isEnabled r = true := by
  have hpositive : 0 < Level.info.number := by decide
  simp only [Setup.isEnabled, Bool.and_eq_true, decide_eq_true_eq]
  omega

private theorem info_le_responseRecord (host : Host) (a : Answer) :
    Level.info.number ≤ (responseRecord host a).level := by
  rw [responseRecord]
  split
  · exact (by decide : Level.info.number ≤ Level.warning.number)
  · exact Int.le_refl _

/-- The records of the service stand around those of the work that it does. -/
theorem records_handle {host : Host} {request : Request} {w : Workspace}
    (hlevel : w.logging.level ≤ Level.info.number) {a : Answer} (hvalue : (answer host request w).value = .ok a) :
    (handle host request w).records =
      requestRecord request :: ((answer host request w).records ++ [responseRecord host a]) := by
  have hkept : (answer host request w).workspace.logging.level ≤ Level.info.number := by
    rw [(works_answer host request).logging w]
    exact hlevel
  have hfirst : w.logging.isEnabled (requestRecord request) = true := isEnabled_of_info hlevel (Int.le_refl _)
  rw [handle, records_log_bind host _ _ hfirst, bind_of_ok hvalue, Run.records_append,
    records_log_bind host _ _ (isEnabled_of_info hkept (info_le_responseRecord host a))]
  rfl

def requestText (client path : String) (filter : Filter) : String :=
  s!"[HTTP] Request from {client}: path={path}, filter={filter.label}"

def metrics (host : Host) (request : Request) (response : Response) : String :=
  s!"tokens={declaredLength host request response}, memory={host.memory}, duration={host.duration}"

/-- With a level that lets them through, the log has one record of the request and one of the response, and between them
none of the service. The first names the path and the filter that the response is for. The second is a warning with
the status and the error of the response if the request was refused, and otherwise no warning. -/
theorem request_and_response_logged (host : Host) (request : Request) (w : Workspace)
    (hlevel : w.logging.level ≤ Level.info.number) (response : Response)
    (hvalue : (handle host request w).value = .ok response) :
    ∃ between last,
      (handle host request w).records =
        .of .info "php_outline.main" (requestText (request.client.getD "unknown") (request.namedPath?.getD "none")
          (.ofPublic request.wantsPublic)) :: (between ++ [last]) ∧
      (∀ r ∈ between, r.logger ≠ "php_outline.main") ∧
      (host.framework request = .route .catalog →
        Serves host w request.wantsPublic response request.namedPath?) ∧
      (∀ status message, Refuses host w request status message →
        (status = 400 ∨ status = 405) ∧ response.status = status ∧
        Json.read? response.body = some (.object [("error", .string message)]) ∧
        last = .of .warning "php_outline.main"
          s!"[HTTP] Error Response: status={status}, error=\"{message.shown}\", {metrics host request response}") ∧
      ((∀ status message, ¬Refuses host w request status message) →
        last = .of .info "php_outline.main"
          s!"[HTTP] Response: status={response.status}, {metrics host request response}") := by
  rw [value_handle_eq_answer] at hvalue
  obtain ⟨a, hanswer, rfl⟩ := exists_of_map_eq_ok hvalue
  obtain ⟨hlength, herror⟩ := refused_of_answer hanswer
  refine ⟨(answer host request w).records, responseRecord host a, ?_, ?_, ?_, ?_, ?_⟩
  · rw [records_handle hlevel hanswer, requestRecord, target?_eq_namedPath?, filter_eq_ofPublic]
    rfl
  · intro r hr
    rcases (works_answer host request).records w r hr with h | h <;> rw [h] <;> decide
  · intro hroute
    exact serves_answer hroute hanswer
  · intro status message hrefuses
    have hreports := hrefuses.reports hanswer
    refine ⟨hrefuses.status, hreports.status, hreports.body, ?_⟩
    rw [responseRecord, hreports.error, hreports.status, hlength]
    rfl
  · intro hserved
    have hnone : a.error = none :=
      herror.resolve_right fun ⟨status, message, hrefuses⟩ => hserved status message hrefuses
    rw [responseRecord, hnone, hlength]
    rfl

/-- One file, and a log that gets what it should. -/
def informed : Workspace :=
  { oneFile "a.php" 2 with logging := ⟨Level.info.number, []⟩ }

def repeatedPath : Request :=
  ⟨"GET", "/", [("path", "b.php"), ("public", "no"), ("path", "a.php")], some "10.0.0.1"⟩

def posted : Request :=
  ⟨"POST", "/", [("path", "a.php"), ("path", "")], none⟩

def elsewhere : Request :=
  ⟨"GET", "/docs", [], none⟩

private theorem namedPath?_repeatedPath : repeatedPath.namedPath? = some "a.php" := by decide

private theorem wantsPublic_repeatedPath : repeatedPath.wantsPublic = false := by decide

private theorem outcome_informed : informed.outcome plainHost.read (withIndent 2) plainHost.schedule false "a.php" =
    .ok ⟨[("/a.php", .failed "é")]⟩ :=
  outcome_oneFile 2

private theorem not_refuses_repeatedPath (status : Nat) (message : RawText) :
    ¬Refuses plainHost informed repeatedPath status message := by
  intro h
  cases h with
  | noPath _ hnone =>
    rw [namedPath?_repeatedPath] at hnone
    cases hnone
  | noCatalog _ hpath hsettings houtcome =>
    cases namedPath?_repeatedPath.symm.trans hpath
    cases hsettings
    rw [wantsPublic_repeatedPath] at houtcome
    cases outcome_informed.symm.trans houtcome
  | notGet hroute => exact absurd hroute (by decide)

private theorem not_refuses_elsewhere (status : Nat) (message : RawText) :
    ¬Refuses plainHost informed elsewhere status message := by
  have hown : ∀ route, plainHost.framework elsewhere ≠ .route route := by
    intro route
    cases route <;> decide
  intro h
  cases h with
  | noPath hroute => exact hown _ hroute
  | noCatalog hroute => exact hown _ hroute
  | notGet hroute => exact hown _ hroute

private theorem sent_plainHost {document : Json} (h : (document.render (.indented 2)).Encodable) :
    ∃ body, sent plainHost (withIndent 2) document = .ok body := by
  have hformat : Json.Format.indented? plainHost.room (withIndent 2).jsonIndent = .ok (.indented 2) := rfl
  obtain ⟨body, hsent, _⟩ := sent_of_encodable (layout_of_ok hformat document) h
  exact ⟨body, hsent⟩

theorem informed_log :
    informed.logging.level ≤ Level.info.number ∧
    (∃ response between last, (handle plainHost repeatedPath informed).value = .ok response ∧
      (handle plainHost repeatedPath informed).records = .of .info "php_outline.main"
        "[HTTP] Request from 10.0.0.1: path=a.php, filter=ALL" :: (between ++ [last]) ∧
      response.status = 200 ∧ Json.read? response.body = some oneFileJson ∧
      last = .of .info "php_outline.main"
        s!"[HTTP] Response: status={response.status}, {metrics plainHost repeatedPath response}") ∧
    (∃ response between last, (handle plainHost posted informed).value = .ok response ∧
      (handle plainHost posted informed).records = .of .info "php_outline.main"
        "[HTTP] Request from unknown: path=none, filter=ALL" :: (between ++ [last]) ∧
      response.status = 405 ∧
      last = .of .warning "php_outline.main"
        s!"[HTTP] Error Response: status=405, error=\"{getOnly}\", {metrics plainHost posted response}") ∧
    ∃ between last, (handle plainHost elsewhere informed).records = .of .info "php_outline.main"
        "[HTTP] Request from unknown: path=none, filter=ALL" :: (between ++ [last]) ∧
      last = .of .info "php_outline.main" "[HTTP] Response: status=404, tokens=0, memory=, duration=" := by
  have hlevel : informed.logging.level ≤ Level.info.number := Int.le_refl _
  have hsettings : informed.inUse = .ok (withIndent 2) := rfl
  refine ⟨hlevel, ?_, ?_, ?_⟩
  · have hasks : repeatedPath.AsksFor "a.php" false := ⟨rfl, rfl, by decide, by decide⟩
    have hvalue := value_handle hsettings documented_plainHost (by decide) hasks
    obtain ⟨body, hsent⟩ := sent_plainHost encodable_oneFileJson
    rw [outcome_informed, catalogJson_oneFile, hsent] at hvalue
    obtain ⟨between, last, hrecords, _, hserves, _, hlast⟩ :=
      request_and_response_logged plainHost repeatedPath informed hlevel _ hvalue
    rw [namedPath?_repeatedPath, wantsPublic_repeatedPath] at hserves
    obtain ⟨s, hs, _, hbody⟩ := hserves rfl
    cases hsettings.symm.trans hs
    rw [outcome_informed] at hbody
    exact ⟨_, between, last, hvalue, hrecords, rfl, hbody, hlast not_refuses_repeatedPath⟩
  · have hroute : plainHost.framework posted = .route .refusal := by decide
    have hvalue := value_handle_eq_answer plainHost posted informed
    obtain ⟨body, hsent⟩ := sent_plainHost (encodable_errorJson rfl (RawText.encodable_raw getOnly))
    rw [answer_of_route hroute, Route.answer, value_errorAnswer hsettings, hsent] at hvalue
    obtain ⟨between, last, hrecords, _, _, hrefused, _⟩ :=
      request_and_response_logged plainHost posted informed hlevel _ hvalue
    obtain ⟨_, hstatus, _, hlast⟩ := hrefused _ _ (.notGet hroute)
    exact ⟨_, between, last, hvalue, hrecords, hstatus, hlast⟩
  · obtain ⟨between, last, hrecords, _, _, _, hlast⟩ :=
      request_and_response_logged plainHost elsewhere informed hlevel ⟨404, none, none, ""⟩ rfl
    exact ⟨between, last, hrecords, hlast not_refuses_elsewhere⟩

end Http

end ClassOutline.Service
