import CsrfGuard.Web.Address

/-!
# What is found at a path

The demonstration site has a route for each of its pages and one for static files. What a request
finds depends on its path and method: a route, the notice that the route does not answer the method,
nothing at all, or the path that it should be sent to instead. A client is sent elsewhere when its
path leads to a route only after pairs of slashes in it have been made one, or when it sent no path.
-/

namespace CsrfGuard.Demo

open Web

/-- What there is to ask for. -/
inductive Route where
  | index
  | transfer
  | done
  | history
  | health
  /-- A file in the folder of static files, of which this site has none. -/
  | staticFile
  deriving Repr, DecidableEq

namespace Route

/-- The routes with a path of their own, and their names. -/
def paths : List (Route × String × String) :=
  [(index, "index", "/"), (transfer, "transfer", "/transfer"), (done, "done", "/done"),
    (history, "history", "/history"), (health, "health", "/health")]

/-- The methods that a route answers: transfers are posted, all else is read. -/
def methods : Route → List String
  | transfer => ["POST", "OPTIONS"]
  | _ => Address.readingMethods

def answers (route : Route) (method : String) : Bool := route.methods.contains method

/-- Whether a path names a file in the folder of static files: a name follows the folder that does
not start with another slash and has no line feed in it but perhaps as its first character. -/
def isStaticFile (path : String) : Bool :=
  let folder := "/static/".toList
  folder.isPrefixOf path.toList &&
    match path.toList.drop folder.length with
    | [] => false
    | first :: rest => first ≠ '/' && !rest.contains '\n'

def ofPath? (path : String) : Option Route :=
  match paths.find? (·.2.2 = path) with
  | some (route, _) => some route
  | none => if isStaticFile path then some staticFile else none

end Route

def endpoints : List Endpoint :=
  Address.staticFiles ::
    Route.paths.map fun (route, name, path) => ⟨name, .page path, route.methods⟩

/-- A path in which each pair of slashes, counted from the left, is one slash. -/
def mergeSlashes : List Char → List Char
  | '/' :: '/' :: rest => '/' :: mergeSlashes rest
  | c :: rest => c :: mergeSlashes rest
  | [] => []

/-- What a request finds. -/
inductive Finding where
  | route (route : Route)
  /-- A route that does not answer the method. -/
  | methodNotAllowed
  /-- A path to ask for instead. -/
  | elsewhere (path : String)
  | nothing
  deriving Repr, DecidableEq

namespace Finding

def frontPath : String := "/"

def withoutPath (method : String) : Finding :=
  if Route.index.answers method then elsewhere frontPath else nothing

/-- What is found at a path to which no route leads as it is. -/
def afterMerging (path method : String) : Finding :=
  let merged := String.ofList (mergeSlashes path.toList)
  match Route.ofPath? merged with
  | some found => if found.answers method then elsewhere merged else methodNotAllowed
  | none => nothing

/-- What is found at a path by a method. -/
def find (path method : String) : Finding :=
  if path = "" then withoutPath method
  else
    match Route.ofPath? path with
    | some found => if found.answers method then route found else methodNotAllowed
    | none => afterMerging path method

end Finding

end CsrfGuard.Demo
