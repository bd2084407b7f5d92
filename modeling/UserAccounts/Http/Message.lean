/-
# Requests and responses

A request has a method, a target, headers and a body. Header names are compared
without case, and of several headers of one name the first counts. A response has
a status, perhaps the type of its body, perhaps the methods that would have been
allowed, and a body.

Key definitions: `Request`, `Request.path`, `Request.header?`, `Response`.
-/
import UserAccounts.Json.Value
import UserAccounts.Text.Utf8

namespace UserAccounts.Http

structure Request where
  method : String
  target : String
  headers : List (String × String)
  body : Bytes

def isSchemeChar (c : Char) : Bool :=
  c.isAlphanum || c == '+' || c == '-' || c == '.'

/-- A target without its scheme and authority, if it names them (`http://host/path`). -/
def withoutAuthority (target : List Char) : List Char :=
  match target.dropWhile isSchemeChar with
  | ':' :: '/' :: '/' :: rest => rest.dropWhile fun c => c != '/' && c != '?' && c != '#'
  | _ => target

/-- The path of the target: what stands before the query, and behind the authority if there is
one. -/
def Request.path (r : Request) : String :=
  String.ofList ((withoutAuthority r.target.toList).takeWhile fun c => c != '?' && c != '#')

/-- The value of the first header with this name, which is given in lower case. -/
def Request.header? (r : Request) (name : String) : Option String :=
  (r.headers.find? fun h => h.1.toList.map Char.toLower == name.toList).map (·.2)

structure Response where
  status : Nat
  contentType : Option String := none
  allow : Option String := none
  body : String := ""
deriving DecidableEq, Repr

def Response.json (status : Nat) (body : Json.Value) : Response :=
  { status, contentType := some "application/json", body := body.toText }

end UserAccounts.Http
