import Taskboard.Http.Message
import Taskboard.Text.Percent

/-! The URL of a request. It is put together from the path, in which `?`, `#` and the backslash are percent
    coded and which gets a `/` in front if it has none, and the query, and then taken apart again: tabs
    and ends of line vanish, the first `#` begins a fragment, and the first `?` in front of that the
    query. -/

namespace Taskboard
namespace Http

/-- The scheme and host of every URL. -/
def origin : String := "http://testserver"

/-- A character of a path as it stands in a URL. -/
def coded (c : Char) : List Char :=
  if c = '?' then "%3F".toList
  else if c = '#' then "%23".toList
  else if c = '\\' then "%5C".toList
  else [c]

/-- A path, with a query behind it unless that is empty. -/
def join (path query : List Char) : List Char :=
  if query = [] then path else path ++ '?' :: query

/-- A path with a `/` in front, unless it is empty. -/
def rooted : List Char → List Char
  | [] => []
  | '/' :: s => '/' :: s
  | s => '/' :: s

/-- The URL of a path and a query, without scheme and host. -/
def compose (path query : String) : List Char :=
  join (rooted (path.toList.flatMap coded)) query.toList

structure Url where
  path : List Char
  query : List Char
deriving DecidableEq

namespace Url

/-- Whether a character vanishes from a URL. -/
def vanishes (c : Char) : Bool := c = '\t' || c = '\r' || c = '\n'

/-- Takes a URL apart. -/
def split (s : List Char) : Url :=
  let (path, query) := ((s.filter fun c => !vanishes c).takeWhile (· ≠ '#')).span (· ≠ '?')
  ⟨path, query.drop 1⟩

end Url

def Request.url (r : Request) : Url := Url.split (compose r.path r.query)

/-- What a request is recorded under: the path of its URL, and the query if there is one. -/
def Request.target (r : Request) : String :=
  String.ofList (join r.url.path r.url.query)

end Http
end Taskboard
