import BearerAuth.Store.Record
import BearerAuth.Time.Instant
import BearerAuth.Token.Signed

/-!
# Issuing, verifying and renewing tokens

Access tokens and refresh tokens are signed under a secret of their own each. An
access token is short-lived; with a refresh token it can be renewed, also when
it has expired.

- `AccessClaims.identity`, `RefreshClaims.identity`: whom claims identify.
- `Settings`, `Engine.ofSettings`: what an engine needs, checked once.
- `Engine.issueAccess`, `Engine.issueRefresh`: tokens for a user.
- `Engine.verify`: whom a token identifies.
- `Engine.renew`: a new access token for an old one and a refresh token.
-/

namespace BearerAuth

open Time

/-- The two kinds of token. -/
inductive TokenKind where
  | access
  | refresh
  deriving DecidableEq, Repr

/-- Whether the second expiry of refresh tokens counts. It is always written. -/
inductive CeilingPolicy where
  | unenforced
  | enforced
  deriving DecidableEq, Repr

/-- The issuer of all access tokens. -/
def issuer : String := "tokenward"

/-- The claim read as the role if the schema has no column for it. -/
def defaultRoleClaim : String := "role"

/-- The longest lifetime of a token: a hundred years of 365 days. -/
def longestLifetime : Span := .ofDays 36500

/-- What an engine needs. -/
structure Settings where
  accessSecret : Option String := none
  refreshSecret : Option String := none
  tokenLifetime : Option Span := none
  refreshTtl : Span := .ofDays 3
  refreshAbsoluteTtl : Span := .ofDays 15
  ceiling : CeilingPolicy := .unenforced
  schema : Option Schema := none

/-- Checked settings. -/
structure Engine where
  accessSecret : String
  refreshSecret : String
  tokenLifetime : Span
  refreshTtl : Span
  refreshAbsoluteTtl : Span
  ceiling : CeilingPolicy
  schema : Schema

/-- Whom a token identifies. Only access tokens know a role. -/
structure Identity where
  username : String
  role : Option String
  deriving DecidableEq, Repr

/-- A renewed access token and whose it is. -/
structure Renewal where
  accessToken : String
  username : String
  deriving DecidableEq, Repr

/-- Whether a span is positive and not too long. -/
def isLifetime (s : Span) : Bool :=
  0 < s.nanoseconds && s.nanoseconds ≤ longestLifetime.nanoseconds

/-! ## Identities -/

/-- The claim that names the user. -/
def Schema.keyClaim (s : Schema) : String :=
  (s.claim? s.username).getD usernameColumn

/-- The claim that gives the role. -/
def Schema.roleClaim (s : Schema) : String :=
  ((s.column? roleColumn).bind s.claim?).getD defaultRoleClaim

/-- Whom the claims of an access token identify. -/
def AccessClaims.identity (s : Schema) (c : AccessClaims) : Except TokenError Identity :=
  match c.fields.get? s.keyClaim with
  | none => .error .missingUsername
  | some username =>
    match c.fields.get? s.roleClaim with
    | none => .error .missingRole
    | some role => .ok { username, role := some role }

/-- Whom the claims of a refresh token identify. -/
def RefreshClaims.identity (c : RefreshClaims) : Except TokenError Identity :=
  if !c.valid then .error .invalidToken
  else
    match c.username with
    | none => .error .missingUsername
    | some username => .ok { username, role := none }

/-! ## Engines -/

namespace Engine

/-- The engine with the settings. A secret without characters counts as none,
and so does a lifetime that is not positive. -/
def ofSettings (s : Settings) : Except SettingsError Engine :=
  match s.accessSecret.filter (· ≠ "") with
  | none => .error .missingAccessSecret
  | some accessSecret =>
    match s.refreshSecret.filter (· ≠ "") with
    | none => .error .missingRefreshSecret
    | some refreshSecret =>
      match s.tokenLifetime.filter (0 < ·.nanoseconds) with
      | none => .error .missingTokenLifetime
      | some tokenLifetime =>
        if longestLifetime.nanoseconds < tokenLifetime.nanoseconds then .error .invalidTokenLifetime
        else if !isLifetime s.refreshTtl then .error .invalidRefreshTtl
        else if !isLifetime s.refreshAbsoluteTtl then .error .invalidRefreshAbsoluteTtl
        else
          match s.schema with
          | none => .error .missingStore
          | some schema =>
            .ok { accessSecret, refreshSecret, tokenLifetime, refreshTtl := s.refreshTtl
                  refreshAbsoluteTtl := s.refreshAbsoluteTtl, ceiling := s.ceiling, schema }

/-- The whole seconds of the instant `span` after `now`. -/
def expirySecond (now : Instant) (span : Span) : Except TokenError Int64 :=
  match now.after? span with
  | none => .error .timeOutOfRange
  | some t => .ok (.ofInt t.seconds)

/-- Signs the claims of an access token. -/
def writeAccess (e : Engine) (c : AccessClaims) : String :=
  Signed.write e.accessSecret c.toJson

/-- Signs the claims of a refresh token. -/
def writeRefresh (e : Engine) (c : RefreshClaims) : String :=
  Signed.write e.refreshSecret c.toJson

/-- An access token for the user with the record. -/
def accessFor (e : Engine) (now : Instant) (record : Fields) : Except TokenError String := do
  let expiry ← expirySecond now e.tokenLifetime
  .ok (e.writeAccess { issuer, expiry, refreshedAt := none, fields := e.schema.claims record })

/-- An access token for the user that a login has found, if it has found one. -/
def issueAccess (e : Engine) (now : Instant) (login : Except StoreError Fields) :
    Except TokenError String :=
  match login with
  | .error why => .error (.store why)
  | .ok record => e.accessFor now record

/-- A refresh token for a user at an address. -/
def issueRefresh (e : Engine) (now : Instant) (username address : String) :
    Except TokenError String := do
  let expiry ← expirySecond now e.refreshTtl
  let absoluteExpiry ← expirySecond now e.refreshAbsoluteTtl
  .ok (e.writeRefresh
    { username := some username, address, issuedAt := .ofInt now.seconds, expiry, absoluteExpiry
      valid := true })

/-- The claims of an access token that is signed and not expired. -/
def readAccess (e : Engine) (now : Instant) (token : String) : Except TokenError AccessClaims :=
  match Signed.verify AccessClaims.ofJson? e.accessSecret now.seconds token with
  | .error why => .error why
  | .ok c => if c.expiry.toInt < now.seconds then .error .tokenExpired else .ok c

/-- The claims of a refresh token that is signed and not expired. -/
def readRefresh (e : Engine) (now : Instant) (token : String) : Except TokenError RefreshClaims :=
  match Signed.verify RefreshClaims.ofJson? e.refreshSecret now.seconds token with
  | .error why => .error why
  | .ok c =>
    if c.expiry.toInt < now.seconds then .error .tokenExpired
    else if e.ceiling = .enforced ∧ c.absoluteExpiry.toInt < now.seconds then .error .tokenExpired
    else .ok c

/-- Whom a token of a kind identifies. -/
def verify (e : Engine) (now : Instant) (kind : TokenKind) (token : String) :
    Except TokenError Identity :=
  match kind with
  | .access =>
    match e.readAccess now token with
    | .error why => .error why
    | .ok c => c.identity e.schema
  | .refresh =>
    match e.readRefresh now token with
    | .error why => .error why
    | .ok c => c.identity

/-- The claims again, with a fresh expiry and the time of the renewal, in a new
token. -/
def restamp (e : Engine) (now : Instant) (c : AccessClaims) : Except TokenError String := do
  let expiry ← expirySecond now e.tokenLifetime
  if Text.Range.int64.holds now.nanoseconds then
    .ok (e.writeAccess { c with issuer, expiry, refreshedAt := some (.ofInt now.nanoseconds) })
  else .error .timeOutOfRange

/-- The claims of the access token that is to be renewed, expired or not. -/
def renewable (e : Engine) (now : Instant) (access : String) : Except TokenError AccessClaims :=
  match e.readAccess now access with
  | .ok c => .ok c
  | .error .tokenExpired => Signed.recover AccessClaims.ofJson? access
  | .error why => .error why

/-- A new access token for an old one, expired or not, and a refresh token. -/
def renew (e : Engine) (now : Instant) (access refresh : String) : Except TokenError Renewal :=
  match e.verify now .refresh refresh with
  | .error .tokenExpired => .error .refreshTokenExpired
  | .error why => .error why
  | .ok _ => do
    let c ← e.renewable now access
    let who ← c.identity e.schema
    let accessToken ← e.restamp now c
    .ok { accessToken, username := who.username }

end Engine

end BearerAuth
