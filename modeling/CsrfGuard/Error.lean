import CsrfGuard.Text.Quoted

/-!
# What can go wrong

One constructor for each cause of failure, with what is needed to word it. `GuardError.message` is
the only place where causes are put into words; a cause whose wording no reader relies on has none.
-/

namespace CsrfGuard

/-- The causes of failure. -/
inductive GuardError where
  | capacityTooSmall
  | nonceTooShort
  | wrongNonceLength (actual expected : Nat)
  | sourceFailed (reason : String)
  /-- A request carried no nonce that its session knows. -/
  | rejected (path : String) (status : Int)
  /-- A nonce cache was asked for without a session to keep it in. -/
  | sessionMissing
  /-- The session of a client cannot be written because there is no key to sign it with. -/
  | cookieNotWritable
  /-- No layer of a response has the attribute. -/
  | attributeMissing (name : String)
  /-- A text that should be an integer is none. -/
  | notAnInteger (text : String)
  | integerTooLong
  /-- A value that should be an integer is neither a number nor a text. -/
  | notANumber
  | unknownLevel (name : String)
  | durationOutOfRange
  /-- No address can be built for the endpoint with the values given. -/
  | addressNotBuildable (endpoint : String)
  | endpointNamedTwice
  | schemeWithoutHost
  | anchorNotText
  | statusEmpty
  /-- A URL is missing where an encoder has to append to it. -/
  | urlMissing
  | lineBreakInHeader
  | guardMissing
  deriving Repr, DecidableEq

namespace GuardError

/-- How much of a text is shown in the message about a failed integer. -/
def shownIntegerText : Nat := 200

/-- The wording of a failure, for the causes that have one. -/
def message : GuardError → Option String
  | capacityTooSmall => some "Nonce cache capacity must be at least 1"
  | nonceTooShort => some "Nonce length must be at least one byte"
  | wrongNonceLength actual expected =>
      some ("Random source returned " ++ toString actual ++ " bytes, expected " ++
        toString expected)
  | sourceFailed reason => some reason
  | rejected path _ => some ("CSRF nonce rejected for " ++ path)
  | notAnInteger text =>
      some ("invalid literal for int() with base 10: " ++ Text.quotedUpTo shownIntegerText text)
  | unknownLevel name => some ("Unknown level: " ++ Text.quoted name)
  | schemeWithoutHost => some "When specifying '_scheme', '_external' must be True."
  | statusEmpty => some "Empty status argument"
  | lineBreakInHeader => some "Header values must not contain newline characters."
  | _ => none

end GuardError

end CsrfGuard
