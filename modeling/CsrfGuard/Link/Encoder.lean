import CsrfGuard.Error
import CsrfGuard.Link

/-!
# Encoders of outgoing URLs

An answer leaves through an encoder, which has the last word on every URL the answer holds: one
function for links and forms, one for redirects. `withNonce` lays a nonce over an encoder: what the
encoder below makes of a URL is tagged with the nonce. Layers may be laid over layers. An encoder
also has attributes; the topmost layer answers for its own nonce and parameter and hands every other
name down.
-/

namespace CsrfGuard

/-- The value of an attribute of an encoder whose lowest layer has values in `α`. -/
inductive Encoder.Attribute (α : Type) where
  | nonce (value : Option String)
  /-- The parameter of a layer, if it has a name. -/
  | param (name : Option String)
  | own (value : α)
  deriving Repr, DecidableEq

/-- An encoder of outgoing URLs. Either function may fail on a URL. -/
structure Encoder (α : Type) where
  /-- What becomes of a URL in a link or form. -/
  encodeUrl : Option String → Except GuardError (Option String)
  /-- What becomes of a URL to which the client is redirected. -/
  encodeRedirectUrl : Option String → Except GuardError (Option String)
  /-- The attribute of a name, if there is one. -/
  lookup? : String → Option (Encoder.Attribute α)

namespace Encoder

variable {α : Type}

/-- The encoder that leaves every URL as it is. -/
def plain : Encoder α where
  encodeUrl := .ok
  encodeRedirectUrl := .ok
  lookup? := fun _ => none

/-- A text appended to a URL, which must be there. -/
def appendTo (suffix : String) : Option String → Except GuardError (Option String)
  | some url => .ok (some (url ++ suffix))
  | none => .error .urlMissing

/-- The encoder that appends a text of its own, one to links and one to redirects, and has the
listed attributes. -/
def withSuffix (suffix redirectSuffix : String) (attributes : List (String × α)) : Encoder α where
  encodeUrl := appendTo suffix
  encodeRedirectUrl := appendTo redirectSuffix
  lookup? := fun name => (attributes.lookup name).map .own

/-- The attribute of a name, or the failure that there is none. -/
def lookup (encoder : Encoder α) (name : String) : Except GuardError (Attribute α) :=
  match encoder.lookup? name with
  | some value => .ok value
  | none => .error (.attributeMissing name)

def withNonce (inner : Encoder α) (nonce param : Option String) : Encoder α where
  encodeUrl := fun url => (inner.encodeUrl url).map (Link.tag (Link.paramText param) nonce)
  encodeRedirectUrl := fun url =>
    (inner.encodeRedirectUrl url).map (Link.tag (Link.paramText param) nonce)
  lookup? := fun name =>
    if name = "nonce" then some (.nonce nonce)
    else if name = "param" then some (.param param)
    else inner.lookup? name

/-- Nonces laid over an encoder one after the other, each with its parameter, the first
innermost. -/
def withNonces (base : Encoder α) (layers : List (Option String × Option String)) :
    Encoder α :=
  layers.foldl (fun inner layer => inner.withNonce layer.1 layer.2) base

end Encoder

end CsrfGuard
