import Holabrain.Cloud.Json

/-!
# The exception hierarchy

`DollinError` and its subclasses are what the client raises; the coordinator turns them
into Home Assistant's own errors.  An `except` clause is modelled by the predicate of the
class it names, so that the order of the clauses matters as it does in the source.
-/

namespace Holabrain

/-- Every error raised by aiodollin, by its most specific class. -/
inductive DollinError
  | authError (message : String)
  /-- Carries the two numbers its message shows the difference of. -/
  | sessionTakeoverError (cooldown waited : ℚ)
  | tokenExpiredError (message : String)
  | credentialsRejectedError (message : String)
  | networkError (message : String)
  | apiError (message : String) (code : Option Json)
  | rateLimitError (message : String) (code : Option Json)
  deriving DecidableEq

namespace DollinError

/-- `except AuthError`. -/
def isAuthError : DollinError → Bool
  | authError _ | sessionTakeoverError .. | tokenExpiredError _ | credentialsRejectedError _ =>
      true
  | networkError _ | apiError .. | rateLimitError .. => false

/-- `except SessionTakeoverError`. -/
def isSessionTakeover : DollinError → Bool
  | sessionTakeoverError .. => true
  | _ => false

/-- `except TokenExpiredError`. -/
def isTokenExpired : DollinError → Bool
  | tokenExpiredError _ => true
  | _ => false

/-- `except CredentialsRejectedError`. -/
def isCredentialsRejected : DollinError → Bool
  | credentialsRejectedError _ => true
  | _ => false

/-- `except RateLimitError`. -/
def isRateLimit : DollinError → Bool
  | rateLimitError .. => true
  | _ => false

/-- `str(err)`. -/
def message : DollinError → String
  | authError m | tokenExpiredError m | credentialsRejectedError m | networkError m => m
  | sessionTakeoverError cooldown waited =>
      "the account session is in use by another client; retrying in " ++
        toString (truncate (cooldown - waited)) ++ "s"
  | apiError m code | rateLimitError m code => match code with
      | some code => m ++ " (code " ++ code.pyStr ++ ")"
      | none => m

end DollinError

/-- Anything the modelled code can raise. -/
inductive Exn
  | dollin (err : DollinError)
  /-- A built-in Python exception, by its class name. -/
  | builtin (name : String)
  /-- An `OSError` of the push connection's files or TLS context. -/
  | osError
  | configEntryAuthFailed (message : String)
  | configEntryNotReady (message : String)
  | updateFailed (message : String)
  /-- A `ServiceValidationError`, by its translation key. -/
  | serviceValidation (translationKey : String)
  deriving DecidableEq

end Holabrain
