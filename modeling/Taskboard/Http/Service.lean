import Taskboard.Http.CrossOrigin
import Taskboard.Http.Query
import Taskboard.Http.Url
import Taskboard.Log
import Taskboard.Report.Document
import Taskboard.Report.Table
import Taskboard.Task.Store

/-! The service. It shows the board, and what it shows is itself: every request is a task, which runs
    while the request is answered and has finished when the answer is there, whatever that is.

    From the inside outwards: `answer` finds the route of a request and serves it; `settle` makes a
    response of a fault in a value; `CrossOrigin` looks at requests from other origins; `handle` keeps
    the task of the request and makes a response of any fault that is left. -/

namespace Taskboard
namespace Http

/-! ### Routes -/

inductive Route where
  | tasks
  | health
  | docs
  /-- Where a sign-in from the page `docs` comes back to. -/
  | docsSignedIn
  | redoc
  | schema
deriving DecidableEq

namespace Route

def all : List Route := [.tasks, .health, .docs, .docsSignedIn, .redoc, .schema]

def path : Route → String
  | .tasks => "/user_tasks"
  | .health => "/health"
  | .docs => "/docs"
  | .docsSignedIn => "/docs/oauth2-redirect"
  | .redoc => "/redoc"
  | .schema => "/openapi.json"

/-- The methods that a route is served for. -/
def methods : Route → List String
  | .tasks | .health => ["GET"]
  | .docs | .docsSignedIn | .redoc | .schema => ["GET", "HEAD"]

/-- Whether a path leads to a route. A line feed behind it does not matter. -/
def leadsTo (path : List Char) (r : Route) : Bool :=
  path = r.path.toList || path = r.path.toList ++ ['\n']

/-- The route that a path leads to. -/
def ofPath? (path : List Char) : Option Route := all.find? (leadsTo path)

/-- Whether requests to a path are no tasks. -/
def untracked (path : List Char) : Bool :=
  [health, docs, redoc, schema].any fun r => path = r.path.toList

end Route

/-! ### Serving -/

/-- The version of the service. -/
def version : String := "0.1.0"

def notFound : Response := .json 404 [("detail", .string "Not Found")]

def methodNotAllowed (r : Route) : Response :=
  (Response.json 405 [("detail", .string "Method Not Allowed")]).withHeaders
    [("allow", ", ".intercalate r.methods)]

def healthy : Response := .json 200 [("status", .string "ok"), ("version", .string version)]

/-- A page of documentation. -/
def page (type : String) : Response := ⟨200, [Response.contentType type], .page⟩

/-- The same request at another path. -/
def redirect (path : List Char) (query : String) : Response :=
  let url := origin ++ String.ofList (compose (String.ofList path) query)
  ⟨307, [("location", String.ofList (Percent.encode url))], .text ""⟩

/-- Whether the JSON document is wanted instead of the table; `none` if that is not said properly. -/
def wantsJson? (ps : Parameters) : Option Bool :=
  match ps.last? "json" with
  | some word => truth? word
  | none => some false

/-- Shows the board. The parameters are looked at before the board is. -/
def showTasks (settings : Settings) (capture : Except Fault Snapshot) (ps : Parameters) :
    Except Fault Response :=
  match wantsJson? ps with
  | none =>
    .ok ⟨422, [Response.contentType "application/json"],
      .issues [⟨.boolText, [.field "query", .field "json"]⟩]⟩
  | some asJson =>
    match Filter.parse (ps.all "user_task_ids") with
    | .error e => .error (Fault.value e.message)
    | .ok ids =>
      match capture with
      | .error f => .error f
      | .ok s =>
        if asJson then
          (s.document? settings.jsonVersion ids).map fun text =>
            ⟨200, [Response.contentType "application/json"], .text text⟩
        else (s.table? ids).map (Response.plain 200)

/-- Serves a route. -/
def serve (settings : Settings) (capture : Except Fault Snapshot) (r : Request) :
    Route → Except Fault Response
  | .tasks => showTasks settings capture (Parameters.ofQuery r.query)
  | .health => .ok healthy
  | .docs | .docsSignedIn | .redoc => .ok (page "text/html; charset=utf-8")
  | .schema => .ok (page "application/json")

/-- Answers a request: by its route; or, where the path leads to one without the slashes at its end, by
    sending the client there. -/
def answer (settings : Settings) (capture : Except Fault Snapshot) (r : Request) :
    Except Fault Response :=
  let path := r.path.toList
  match Route.ofPath? path with
  | some route =>
    if r.method ∈ route.methods then serve settings capture r route else .ok (methodNotAllowed route)
  | none =>
    let shorter := Text.trimEnd (· = '/') path
    match Route.ofPath? shorter with
    | some _ => .ok (redirect shorter r.query)
    | none => .ok notFound

/-- A fault in a value is the client's. -/
def settle : Except Fault Response → Except Fault Response
  | .error f =>
    if f.family = .value then
      .ok (.json 400 [("error", .string "Bad Request"), ("detail", .string f.text)])
    else .error f
  | .ok response => .ok response

/-- Answers a request that may come from another origin. -/
def respond (settings : Settings) (capture : Except Fault Snapshot) (r : Request) :
    Except Fault Response :=
  match CrossOrigin.asked? r with
  | some (origin, method) => .ok (CrossOrigin.preflight r origin method)
  | none => (settle (answer settings capture r)).map (CrossOrigin.exposed r)

/-! ### Tracking -/

/-- The logger of the service. -/
def loggerName : String := "taskstate.api"

/-- What comes with a request from outside: the identifier of its task, the time in nanoseconds, and a
    fault if the board cannot be looked at meanwhile. -/
structure Visit where
  id : Uuid
  now : Int
  trouble : Option Fault := none

/-- What came of a request. -/
structure Exchange where
  store : Store
  response : Response
  events : List Event
  /-- The fault that was answered by status 500, and goes on to whoever runs the service. -/
  reraised : Option Fault

/-- The task that a request is. -/
def Request.task (r : Request) (visit : Visit) : Record :=
  ⟨visit.id, r.target, r.client.getD "unknown", Store.millis visit.now⟩

/-- The board as a request finds it. -/
def Visit.capture (visit : Visit) (s : Store) : Except Fault Snapshot :=
  match visit.trouble with
  | some f => .error f
  | none => .ok s.snapshot

def completionEvent (id : Uuid) : Event :=
  ⟨.debug, loggerName, "User task " ++ id.text ++ " completed.", none⟩

def faultEvent (path : String) (f : Fault) : Event :=
  ⟨.error, loggerName, "Unhandled error on " ++ path, some f⟩

def serverError (path : String) (f : Fault) : Response :=
  .json 500 [("error", .string "Internal Server Error"), ("detail", .string f.text),
    ("path", .string path)]

/-- Makes a response of any fault that is left. -/
def conclude (r : Request) (store : Store) (events : List Event) : Except Fault Response → Exchange
  | .ok response => ⟨store, response, events, none⟩
  | .error f =>
    let path := String.ofList r.url.path
    ⟨store, serverError path f, events ++ [faultEvent path f], some f⟩

/-- Handles a request: starts its task, answers, and finishes the task. -/
def handle (settings : Settings) (visit : Visit) (r : Request) (store : Store) : Exchange :=
  if Route.untracked r.url.path then
    conclude r store [] (respond settings (visit.capture store) r)
  else
    let running := store.start (r.task visit)
    conclude r (running.complete visit.id).1 [completionEvent visit.id]
      (respond settings (visit.capture running) r)

/-! ### Running the service -/

def startEvents (store : Store) : List Event :=
  [⟨.info, loggerName, "Starting up...", none⟩,
   ⟨.info, loggerName, "Task manager ready (max completed tasks: " ++ toString store.bound ++ ").",
     none⟩]

def stopEvents : List Event := [⟨.info, loggerName, "Shutting down...", none⟩]

end Http
end Taskboard
