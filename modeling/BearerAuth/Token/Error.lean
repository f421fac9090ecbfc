import BearerAuth.Store.Error

/-!
# Failures of tokens

Why a token is not issued, not accepted or not renewed, and why settings make no
token engine. Expiry is kept apart from everything else that is wrong with a
token, because a renewal or a new login helps against it.
-/

namespace BearerAuth

/-- Why a token is refused or not made. -/
inductive TokenError where
  | invalidToken
  | claimsInvalid
  | unexpectedSigningMethod
  | missingUsername
  | missingRole
  | tokenExpired
  | refreshTokenExpired
  | store (why : StoreError)
  | timeOutOfRange
  deriving DecidableEq, Repr

namespace TokenError

/-- Whether the failure is one of time. -/
def isExpired : TokenError → Bool
  | tokenExpired => true
  | refreshTokenExpired => true
  | _ => false

/-- The short name of the kind of failure. -/
def kind : TokenError → String
  | invalidToken => "invalid_token"
  | claimsInvalid => "claims_invalid"
  | unexpectedSigningMethod => "unexpected_signing_method"
  | missingUsername => "missing_username"
  | missingRole => "missing_role"
  | tokenExpired => "token_expired"
  | refreshTokenExpired => "refresh_token_expired"
  | store why => why.kind
  | timeOutOfRange => "time_out_of_range"

/-- The wording of the error. -/
def message : TokenError → String
  | invalidToken => "token is invalid"
  | claimsInvalid => "invalid claims"
  | unexpectedSigningMethod => "unexpected signing method"
  | missingUsername => "username missing in token"
  | missingRole => "role missing in token"
  | tokenExpired => "token is expired"
  | refreshTokenExpired => "refresh token is expired, cannot do refresh, please log in again"
  | store why => why.message
  | timeOutOfRange => "token timestamp out of range"

/-- The wordings of what caused the error, nearest first. -/
def causes : TokenError → List String
  | store why => why.causes
  | _ => []

end TokenError

/-- Why settings make no token engine. -/
inductive SettingsError where
  | missingAccessSecret
  | missingRefreshSecret
  | missingTokenLifetime
  | invalidTokenLifetime
  | invalidRefreshTtl
  | invalidRefreshAbsoluteTtl
  | missingStore
  deriving DecidableEq, Repr

/-- The wording of the error. -/
def SettingsError.message : SettingsError → String
  | .missingAccessSecret => "access token secret not provided"
  | .missingRefreshSecret => "refresh token secret not provided"
  | .missingTokenLifetime => "token lifetime not provided"
  | .invalidTokenLifetime => "token lifetime is out of range"
  | .invalidRefreshTtl => "refresh token lifetime must be positive and in range"
  | .invalidRefreshAbsoluteTtl => "refresh token absolute lifetime must be positive and in range"
  | .missingStore => "store must be provided"

end BearerAuth
