import DynamicForm.Backend.Message

/-!
# Requests from other origins

A browser names the origin of the page that sends a request, and asks beforehand whether a page may
send it. Pages of allowed origins may send every request, with credentials.

- `Origins.preflight?` answers the question of a browser.
- `Origins.headersFor` are the headers that every other response to a page gets.
-/

namespace DynamicForm.Backend

/-- The origins that are allowed; a star stands for all. -/
structure Origins where
  allowed : List String

namespace Origins

def allows (o : Origins) (origin : String) : Bool :=
  o.allowed.contains "*" || o.allowed.contains origin

/-- The methods that pages may use. -/
def methods : List String := ["DELETE", "GET", "HEAD", "OPTIONS", "PATCH", "POST", "PUT", "QUERY"]

/-- The headers that tell a browser what a page may see. -/
def headersFor (o : Origins) (origin : String) : Headers :=
  ("access-control-allow-credentials", "true") ::
    if o.allows origin then [("access-control-allow-origin", origin)] else []

/-- What is refused. No page of a public network may reach a private one. -/
def refusals (o : Origins) (origin method : String) (isPrivate : Bool) : List String :=
  (if o.allows origin then [] else ["origin"]) ++
    (if methods.contains method then [] else ["method"]) ++
    if isPrivate then ["private-network"] else []

/-- The response to the question of a browser, if the request is one. -/
def preflight? (o : Origins) (r : Request) : Option Response :=
  match r.method, r.header? "origin", r.header? "access-control-request-method" with
  | "OPTIONS", some origin, some method =>
    let isPrivate := (r.header? "access-control-request-private-network").isSome
    match o.refusals origin method isPrivate with
    | [] => some { status := 200, body := .text "OK", headers := o.headersFor origin }
    | refused =>
      some {
        status := 400
        body := .text ("Disallowed CORS " ++ String.intercalate ", " refused)
        headers := o.headersFor origin }
  | _, _, _ => none

/-- Adds the headers for a page to a response. -/
def complete (o : Origins) (r : Request) (response : Response) : Response :=
  match r.header? "origin" with
  | some origin => { response with headers := response.headers ++ o.headersFor origin }
  | none => response

end Origins

end DynamicForm.Backend
