import Taskboard.Issue
import Taskboard.Json.Writer

/-! Requests and responses. -/

namespace Taskboard
namespace Http

structure Request where
  method : String := "GET"
  /-- The path, with percent coding already undone. -/
  path : String
  /-- The query as it was sent. -/
  query : String := ""
  client : Option String := none
  headers : List (String × String) := []

/-- The value of the first header of a name, which is compared without regard to case. -/
def Request.header? (r : Request) (name : String) : Option String :=
  (r.headers.find? fun h => h.1.toList.map Char.toLower = name.toList).map (·.2)

inductive Body where
  | text (s : String)
  /-- What is wrong with the parameters of a request. -/
  | issues (is : List Issue)
  /-- A page of documentation. -/
  | page
deriving DecidableEq

structure Response where
  status : Nat
  headers : List (String × String)
  body : Body
deriving DecidableEq

namespace Response

/-- The header of a content type. -/
def contentType (type : String) : String × String := ("content-type", type)

def json (status : Nat) (members : List (String × Json.Value)) : Response :=
  ⟨status, [contentType "application/json"], .text (Json.Value.object members).text⟩

def plain (status : Nat) (text : String) : Response :=
  ⟨status, [contentType "text/plain; charset=utf-8"], .text text⟩

/-- The response with more headers. -/
def withHeaders (r : Response) (headers : List (String × String)) : Response :=
  { r with headers := r.headers ++ headers }

end Response
end Http
end Taskboard
