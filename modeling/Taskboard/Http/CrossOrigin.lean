import Taskboard.Http.Message

/-! Requests from pages of other origins. Any origin may ask for anything, with credentials; a browser
    that asks beforehand (`isPreflight`) is told so, unless it names a method that is not known or means
    to reach into a private network. -/

namespace Taskboard
namespace Http
namespace CrossOrigin

/-- The methods that may be used. -/
def methods : List String := ["DELETE", "GET", "HEAD", "OPTIONS", "PATCH", "POST", "PUT", "QUERY"]

/-- The header that says which headers of a request a response depends on. -/
def vary (names : List String) : String × String := ("vary", ", ".intercalate names)

/-- What is said to an origin that is let in. -/
def grant (origin : String) : List (String × String) :=
  [("access-control-allow-origin", origin), ("access-control-allow-credentials", "true")]

/-- What is refused to a browser that asks beforehand. -/
def refusals (r : Request) (method : String) : List String :=
  (if method ∈ methods then [] else ["method"]) ++
    (if (r.header? "access-control-request-private-network").isSome then ["private-network"] else [])

/-- The answer to a browser that asks beforehand. -/
def preflight (r : Request) (origin method : String) : Response :=
  let verdict := match refusals r method with
    | [] => Response.plain 200 "OK"
    | refused => Response.plain 400 ("Disallowed CORS " ++ ", ".intercalate refused)
  verdict.withHeaders <|
    [("access-control-allow-methods", ", ".intercalate methods), ("access-control-max-age", "600"),
      vary ["Origin", "Access-Control-Request-Method", "Access-Control-Request-Headers",
        "Access-Control-Request-Private-Network"]] ++
    grant origin ++
    match r.header? "access-control-request-headers" with
    | some names => [("access-control-allow-headers", names)]
    | none => []

/-- The origin and the method that a browser asks for beforehand, if the request is such a question. -/
def asked? (r : Request) : Option (String × String) :=
  if r.method = "OPTIONS" then
    match r.header? "origin", r.header? "access-control-request-method" with
    | some origin, some method => some (origin, method)
    | _, _ => none
  else none

/-- The response to a request that is no question beforehand, as another origin may see it. -/
def exposed (r : Request) (response : Response) : Response :=
  response.withHeaders <| vary ["Origin"] ::
    match r.header? "origin" with
    | some origin => grant origin
    | none => []

end CrossOrigin
end Http
end Taskboard
