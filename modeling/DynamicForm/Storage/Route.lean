import DynamicForm.Json.Writer
import DynamicForm.Storage.Exchange

/-!
# Routes

A storage that answers every request at a place in the same way, to try a client out. A request
that no route takes is answered by saying so.

- `Route.respond` is the way in which routes respond.
-/

namespace DynamicForm.Storage

/-- A place, by method and decoded path, and the response there. -/
structure Route where
  method : String
  path : String
  response : Response

namespace Route

/-- The response at places without a route. -/
def notFound : Response :=
  .answered 404 (Text.utf8Bytes (Json.write (.record [("message", .text "Not found")])).toList)

/-- Whether a route takes a request. -/
def takes (r : Route) (sent : Dispatch) : Bool :=
  r.method == sent.method.name && r.path == sent.url.decodedPath

/-- The response of the first route that takes a request. -/
def respond (routes : List Route) (sent : Dispatch) : Response :=
  ((routes.find? (takes · sent)).map (·.response)).getD notFound

end Route

end DynamicForm.Storage
