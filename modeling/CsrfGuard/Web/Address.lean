import CsrfGuard.Error
import CsrfGuard.Text.Percent

/-!
# Addresses of endpoints

A site has named endpoints, each a page or a folder of files. The address of an endpoint is built
from its name and values by name. Four values are about the address as a whole: its anchor, the
method it is asked for with, the scheme, and whether the host is named. A folder takes the name of
the file out of the others, and the rest form the query in their order. Values that are missing are
left out.
-/

namespace CsrfGuard.Web

/-- Where an endpoint is found. -/
inductive Place where
  | page (path : String)
  /-- At every path below a folder, whose own path ends with a slash. -/
  | folder (path : String)
  deriving Repr, DecidableEq

/-- A place with a name. -/
structure Endpoint where
  name : String
  place : Place
  methods : List String
  deriving Repr, DecidableEq

/-- A value that an address is built with. -/
inductive AddressValue where
  | text (value : String)
  | number (value : Int)
  | flag (value : Bool)
  deriving Repr, DecidableEq

namespace AddressValue

def written : AddressValue → String
  | text value => value
  | number value => toString value
  | flag value => if value then "True" else "False"

/-- Whether a value says yes: all do but the empty text, zero and no. -/
def saysYes : AddressValue → Bool
  | text value => value ≠ ""
  | number value => value ≠ 0
  | flag value => value

end AddressValue

namespace Address

/-- Values by name; each name is there once. -/
abbrev Values := List (String × Option AddressValue)

/-- The name of the endpoint itself, which is no name for a value. -/
def endpointKey : String := "endpoint"

def anchorKey : String := "_anchor"

def methodKey : String := "_method"

def schemeKey : String := "_scheme"

/-- The value that says whether the host is named. -/
def hostKey : String := "_external"

/-- The values that are about the address as a whole. -/
def wholeKeys : List String := [anchorKey, methodKey, schemeKey, hostKey]

/-- The value that names a file in a folder. -/
def fileKey : String := "filename"

/-- The methods that a page answers when it is only read. -/
def readingMethods : List String := ["GET", "HEAD", "OPTIONS"]

/-- The folder of static files that every site has. -/
def staticFiles : Endpoint := ⟨"static", .folder "/static/", readingMethods⟩

/-- A value by its name, if it is not missing. -/
def value? (values : Values) (name : String) : Option AddressValue := (values.lookup name).join

def query (values : Values) : List Char :=
  Text.Percent.query Text.Percent.queryMarks <|
    values.filterMap fun entry => entry.2.map fun value => (entry.1, value.written)

/-- A path with a query, if the query is not empty. -/
def withQuery (path query : List Char) : List Char :=
  if query = [] then path else path ++ '?' :: query

/-- The address of a place: path and query. -/
def ofPlace (values : Values) : Place → Option (List Char)
  | .page path => some (withQuery path.toList (query values))
  | .folder path =>
      (value? values fileKey).map fun file =>
        withQuery (path.toList ++ Text.Percent.escape Text.Percent.pathMarks file.written.toList)
          (query (values.filter (·.1 ≠ fileKey)))

def plainScheme : String := "http"

/-- What stands before the path when the host is named. Of the schemes that can be asked for, the
secure ones come to one and all others to the plain one; a scheme that says no is left out. -/
def origin (scheme : Option AddressValue) (host : String) : String :=
  match scheme with
  | none => plainScheme ++ "://" ++ host
  | some scheme =>
      if scheme = .text "https" ∨ scheme = .text "wss" then "https://" ++ host
      else if scheme.saysYes then plainScheme ++ "://" ++ host
      else "//" ++ host

/-- Whether the host is named: as the values say, and else exactly if they name a scheme. -/
def namesHost (values : Values) : Bool :=
  match value? values hostKey with
  | some value => value.saysYes
  | none => (value? values schemeKey).isSome

/-- An endpoint by its name. One dot in front of the name is passed over: it stands for the part of
the site that a request belongs to, and the sites here have no parts. -/
def endpoint? (endpoints : List Endpoint) (name : String) : Option Endpoint :=
  let full := if name.toList.head? = some '.' then String.ofList (name.toList.drop 1) else name
  endpoints.find? (·.name = full)

/-- Whether an endpoint answers the method that values name, if they name one. -/
def answersMethod (values : Values) (endpoint : Endpoint) : Bool :=
  (value? values methodKey).all fun method => endpoint.methods.any (.text · = method)

/-- An address with an anchor, if there is one, be it empty. Only a text can be an anchor. -/
def withAnchor (address : String) : Option AddressValue → Except GuardError String
  | none => .ok address
  | some (.text anchor) =>
      .ok (address ++ String.ofList
        ('#' :: Text.Percent.escape Text.Percent.anchorMarks anchor.toList))
  | some _ => .error .anchorNotText

/-- The address of an endpoint on a host. It cannot be built if there is no endpoint of the name, if
the endpoint does not answer the method, or if it is a folder and no file is named. -/
def build (endpoints : List Endpoint) (host name : String) (values : Values) :
    Except GuardError String :=
  if values.any (·.1 = endpointKey) then .error .endpointNamedTwice
  else if (value? values schemeKey).isSome && !namesHost values then .error .schemeWithoutHost
  else
    let rest := values.filter fun entry => !wholeKeys.contains entry.1
    let endpoint := (endpoint? endpoints name).filter (answersMethod values)
    match endpoint.bind fun endpoint => ofPlace rest endpoint.place with
    | none => .error (.addressNotBuildable name)
    | some address =>
        let start := if namesHost values then origin (value? values schemeKey) host else ""
        withAnchor (start ++ String.ofList address) (value? values anchorKey)

/-- The address on a host of a path, with the query of a request. -/
def onHost (host path : String) (pairs : List (String × String)) : String :=
  plainScheme ++ "://" ++ host ++ String.ofList
    (withQuery (Text.Percent.escape Text.Percent.pathMarks path.toList)
      (Text.Percent.query [] pairs))

end Address

end CsrfGuard.Web
