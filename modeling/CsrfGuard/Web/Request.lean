import CsrfGuard.Text.Capital

/-!
# Requests and what a client keeps

A request names a method and a path and carries parameters in its query and, for most methods, in
its form. It is kept as the client sent it; `Request.method` and `Request.path` are what a site goes
by. A client keeps a cookie from one request to the next; the server can read in it what it wrote
into it before.
-/

namespace CsrfGuard.Web

/-- A request as the client sent it, with everything decoded. -/
structure Request where
  host : String
  /-- The method in the spelling of the client. -/
  sentMethod : String
  /-- The path in the spelling of the client; it may be empty or lack its first slash. -/
  sentPath : String
  query : List (String × String)
  form : List (String × String)
  deriving Repr, DecidableEq

namespace Request

def method (request : Request) : String := Text.inCapitals request.sentMethod

/-- The path of a request, which starts with exactly one slash. -/
def path (request : Request) : String :=
  String.ofList ('/' :: request.sentPath.toList.dropWhile (· = '/'))

/-- The path by which a request finds its way on a site: the path, unless none was sent at all. -/
def routedPath (request : Request) : String :=
  if request.sentPath = "" then "" else request.path

/-- Whether the client wants an answer without a body. It must say so in exactly this spelling. -/
def wantsHeadOnly (request : Request) : Bool := request.sentMethod = "HEAD"

/-- Whether the parameters in the form count: for every method but `GET`. -/
def formCounts (request : Request) : Bool :=
  request.method ≠ "GET"

/-- The value of a parameter: its first value in the query, also if it is empty, and else its first
value in the form. -/
def parameter? (request : Request) (name : String) : Option String :=
  match request.query.lookup name with
  | some value => some value
  | none => if request.formCounts then request.form.lookup name else none

end Request

/-- What a client keeps for a site. -/
structure Cookie where
  sessionId : Option String
  /-- The amounts that the client has transferred, first to last. -/
  transfers : List Nat
  deriving Repr, DecidableEq

namespace Cookie

/-- The cookie of a client that has none. -/
def empty : Cookie := ⟨none, []⟩

end Cookie

end CsrfGuard.Web
