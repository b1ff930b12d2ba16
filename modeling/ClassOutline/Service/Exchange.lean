import ClassOutline.Outline.Filter
import ClassOutline.Text.Basic
import ClassOutline.Text.Case

/-!
Requests and responses over HTTP.

The service is one part of an application. A framework stands in front of it, which calls one of the routes of the
service or answers by itself: at paths that the service does not have, for methods that no route takes, and at the paths
of pages that it adds.
-/
namespace ClassOutline.Service

open Outline

def trueWords : List String := ["1", "true", "on", "yes"]

/-- Whether a flag is on, without regard to case and to blanks around it. -/
def flagValue (value : Option String) : Bool :=
  trueWords.contains (String.ofList (Text.lower (Text.trim (value.getD "").toList)))

def filterOfFlag (value : Option String) : Filter :=
  .ofPublic (flagValue value)

namespace Http

structure Request where
  method : String
  path : String
  /-- The parameters of the query, decoded and in order. -/
  query : List (String × String)
  client : Option String
  deriving DecidableEq, Repr

structure Response where
  status : Nat
  allow : Option String
  contentType : Option String
  body : String
  deriving DecidableEq, Repr

/-- The last value of a parameter. -/
def Request.parameter? (r : Request) (name : String) : Option String :=
  r.query.reverse.lookup name

/-- The path that a request asks for; an empty one counts as none. -/
def Request.target? (r : Request) : Option String :=
  (r.parameter? "path").filter fun p => !p.isEmpty

def Request.filter (r : Request) : Filter :=
  filterOfFlag (r.parameter? "public")

/-- Methods that the service refuses at the root path with a message of its own. -/
def refusedMethods : List String := ["POST", "PUT", "PATCH", "DELETE"]

/-- What the service offers: a catalog and its refusals at the root path, and a word on its health elsewhere. -/
inductive Route where
  | catalog
  | refusal
  | health
  deriving DecidableEq, Repr

/-- What becomes of a request. -/
inductive Dispatch where
  | route (r : Route)
  /-- The framework answers by itself, with the length that it declares. -/
  | own (response : Response) (length : String)
  deriving DecidableEq, Repr

abbrev Framework := Request → Dispatch

end Http

end ClassOutline.Service
