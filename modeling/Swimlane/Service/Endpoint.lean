/-!
# Endpoints

What a service can be asked for, and by which paths.

- `Service.Endpoint`: what can be asked for.
- `Service.Route`: what a path leads to; besides the endpoints there are the outline of the service
  and pages about it for a person.
- `Service.Route.find?`: the route of a path.
-/

namespace Swimlane.Service

/-- What can be asked for. -/
inductive Endpoint where
  | describe
  | parse
  | draw
  | current
  | edit
  | dismiss
  deriving DecidableEq, Repr

namespace Endpoint

/-- The path of an endpoint. -/
def path : Endpoint → String
  | describe => "/api/syntax"
  | parse => "/api/parse"
  | draw => "/api/diagram"
  | current => "/api/session"
  | edit => "/api/session/source"
  | dismiss => "/api/session/error"

/-- The method of an endpoint. -/
def method : Endpoint → String
  | describe => "GET"
  | parse => "POST"
  | draw => "POST"
  | current => "GET"
  | edit => "PUT"
  | dismiss => "DELETE"

/-- All endpoints. -/
def all : List Endpoint := [describe, parse, draw, current, edit, dismiss]

/-- Whether an endpoint is about a text. -/
def takesText : Endpoint → Bool
  | parse => true
  | draw => true
  | edit => true
  | _ => false

end Endpoint

/-- What a path leads to. -/
inductive Route where
  | endpoint (e : Endpoint)
  | outline
  | page
  deriving DecidableEq, Repr

namespace Route

/-- All routes by their paths. -/
def all : List (String × Route) :=
  [("/openapi.json", outline), ("/docs", page), ("/docs/oauth2-redirect", page),
    ("/redoc", page)] ++ Endpoint.all.map fun e => (e.path, endpoint e)

/-- The method of a route. -/
def method : Route → String
  | endpoint e => e.method
  | outline => "GET"
  | page => "GET"

/-- The route of a path, behind which a line may end. -/
def at? (path : String) : Option Route :=
  (all.find? fun r => path = r.1 || path = r.1 ++ "\n").map (·.2)

/-- The route of a path, which may end with slashes. -/
def find? (path : String) : Option Route :=
  let bare := (path.toList.reverse.dropWhile (· = '/')).reverse
  (at? path).or (at? (String.ofList bare))

end Route

end Swimlane.Service
