import ClassOutline.Service.Program

/-!
The service over HTTP.

A route answers with the catalog of the path that a query names, one refuses other methods, and one says that the
service is up. Every request and every response is logged, whoever answers.
-/
namespace ClassOutline.Service.Http

open Catalog Config Log Outline

def logger : String := "php_outline.main"

/-- A response, with the length that it declares and the message of the error that it reports. -/
structure Answer where
  response : Response
  length : String
  error : Option RawText

def missingPath : String := "Missing 'path' query parameter"

def getOnly : String := "Only GET requests are supported"

def json (status : Nat) (allow : Option String) (body : String) : Response :=
  ⟨status, allow, some "application/json", body⟩

/-- An answer that declares the length of its body. -/
def Answer.of (response : Response) (error : Option RawText) : Answer :=
  ⟨response, toString response.body.utf8ByteSize, error⟩

/-- A text that is to be sent in UTF-8. -/
def encode (text : RawText) : Program String :=
  match text.utf8? with
  | .ok body => return body
  | .error message => Program.fail (.unwritable message)

/-- The text of a document in the layout of the settings in use. -/
def bodyText (host : Host) (document : Json) : Program String := do
  let settings ← Program.settings
  let text ← Program.layOut host settings document
  encode text

def errorAnswer (host : Host) (status : Nat) (allow : Option String) (message : RawText) : Program Answer := do
  let body ← bodyText host (errorJson message)
  return .of (json status allow body) (some message)

def catalogAnswer (host : Host) (request : Request) : Program Answer :=
  match request.target? with
  | none => errorAnswer host 400 none missingPath
  | some path => do
    let settings ← Program.settings
    match ← Program.outlinePath host settings request.filter path with
    | .error fault => errorAnswer host 400 none fault.message
    | .ok catalog =>
      let body ← bodyText host catalog.toJson
      return .of (json 200 none body) none

def healthy : Response :=
  json 200 none "\x7b\"status\":\"healthy\"\x7d"

def Route.answer (host : Host) (request : Request) : Route → Program Answer
  | catalog => catalogAnswer host request
  | refusal => errorAnswer host 405 (some "GET") getOnly
  | health => return .of healthy none

/-- The answer to a request. The framework reports no error when it answers by itself. -/
def answer (host : Host) (request : Request) : Program Answer :=
  match host.framework request with
  | .route route => route.answer host request
  | .own response length => return ⟨response, length, none⟩

def requestRecord (r : Request) : Record :=
  let client := r.client.getD "unknown"
  let target := r.target?.getD "none"
  .of .info logger s!"[HTTP] Request from {client}: path={target}, filter={r.filter.label}"

def responseRecord (host : Host) (a : Answer) : Record :=
  let status := a.response.status
  let metrics := s!"tokens={a.length}, memory={host.memory}, duration={host.duration}"
  match a.error with
  | some message =>
    .of .warning logger s!"[HTTP] Error Response: status={status}, error=\"{message.shown}\", {metrics}"
  | none => .of .info logger s!"[HTTP] Response: status={status}, {metrics}"

/-- Handle a request, with a record before and a record after it. -/
def handle (host : Host) (request : Request) : Program Response := do
  Program.log host (requestRecord request)
  let a ← answer host request
  Program.log host (responseRecord host a)
  return a.response

def title : String := "PHP Outline"

/-- Start the service: set up logging for the output and say so. -/
def start (host : Host) : Program Unit := do
  let settings ← Program.settings
  Program.setUpLogging host settings.logLevel .output
  Program.log host (.of .info logger s!"Starting PHP outline service (log_level={settings.logLevel})")

end ClassOutline.Service.Http
