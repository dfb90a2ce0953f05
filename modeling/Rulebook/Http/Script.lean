import Rulebook.Http.Client

/-!
# Scripted backends

A script says for each method and path which replies are given in turn; the last one is given
again and again. A request outside the script is answered with status 404. Scripts are backends
that are easy to write down, for rehearsals and for examples.
-/

namespace Rulebook

/-- The replies to requests with a method and a path. -/
structure Route where
  method : String
  path : String
  replies : List Reply
deriving DecidableEq, Repr, Inhabited

/-- The response to a request outside the script. -/
def missingRoute : Response :=
  ⟨404, [("content-type", "application/json")], bodyOf (.obj [("message", .str "Not Found")])⟩

namespace Route

/-- The route is the one for the method and the path of a request. -/
def serves (route : Route) (request : Request) : Bool :=
  route.method == request.method &&
    route.path == String.ofList (Text.cutAt '?' request.url.target).1

/-- The next reply of a route, and the route without it unless it is the last one. -/
def next (route : Route) : Reply × Route :=
  match route.replies with
  | [] => (.response missingRoute, route)
  | [reply] => (reply, route)
  | reply :: later => (reply, { route with replies := later })

/-- The reply of the first route that serves a request. -/
def answer (request : Request) : List Route → Reply × List Route
  | [] => (.response missingRoute, [])
  | route :: routes =>
      if route.serves request then
        let (reply, route) := route.next
        (reply, route :: routes)
      else
        let (reply, routes) := answer request routes
        (reply, route :: routes)

end Route

end Rulebook
