import ShadowPanel.Middlewares.Auth

namespace ShadowPanel.Api

open Auth Middlewares Repositories

/-! The route `POST /api/auth/logout` of `internal/api/auth/logout/handler.go`. -/

def equalFold (left right : List Char) : Bool := left.map Char.toLower == right.map Char.toLower

def extractBearerToken (request : Request) : String :=
  match request.authorization.toList.splitOn ' ' with
  | [scheme, token] =>
    if equalFold scheme "bearer".toList then String.ofList token else queryOrCookie request
  | _ => queryOrCookie request

theorem extractBearerToken_eq (request : Request) :
    extractBearerToken request = extractToken request := by
  have lower : "bearer".toList.map Char.toLower = "bearer".toList := by decide
  unfold extractBearerToken
  split
  next scheme token parts => simp only [extractToken, parts, equalFold, lower, beq_iff_eq]
  next parts =>
    unfold extractToken
    split
    next found => exact absurd found (parts _ _)
    next => rfl

def defaultRevocationTTL : Int := 30 * 24 * 60 * 60

section

variable (setup : Setup) (panel : Panel cacheDriver userDriver)

def revocationTTL (bearer : String) : Int :=
  match setup.authService.validateToken panel.now bearer with
  | none => defaultRevocationTTL
  | some claims =>
    match claims.expiration with
    | none => defaultRevocationTTL
    | some expiration =>
      let remaining := expiration - panel.now
      if remaining ≤ 0 then 0 else remaining

def revokeBearer (request : Request) : Cache cacheDriver :=
  let bearer := extractBearerToken request
  if bearer = "" then panel.cache
  else
    CacheRevocation.revoke panel.cache panel.now (tokenIdentifier setup.sha256 bearer)
      (revocationTTL setup panel bearer)

/-- The route is served behind the authentication; a session is answered with
the status 204. -/
def logout (request : Request) : Passage × Panel cacheDriver userDriver :=
  let passage := middleware setup panel false request
  let admitted := { panel with cache := afterMiddleware setup panel request }
  match passage with
  | .session session => (.session session,
      { admitted with cache := revokeBearer setup admitted request })
  | passage => (passage, admitted)

variable {setup panel}

theorem logout_of_session (admitted : middleware setup panel false request = .session session) :
    logout setup panel request = (.session session, { panel with
      cache := CacheRevocation.revoke (afterMiddleware setup panel request) panel.now
        (tokenIdentifier setup.sha256 (extractToken request))
        (revocationTTL setup panel (extractToken request)) }) := by
  have present := (middleware_eq_session.mp admitted).1
  simp only [logout, admitted, revokeBearer, extractBearerToken_eq, if_neg present]
  rfl

theorem logout_of_refused
    (refused : ∀ session, middleware setup panel false request ≠ .session session) :
    logout setup panel request = (middleware setup panel false request,
      { panel with cache := afterMiddleware setup panel request }) := by
  unfold logout
  cases passage : middleware setup panel false request with
  | anonymous | refused error => rfl
  | session session => exact absurd passage (refused session)

theorem logout_eq_session (done : (logout setup panel request).1 = .session session) :
    middleware setup panel false request = .session session := by
  cases passage : middleware setup panel false request with
  | session found => rwa [logout_of_session passage] at done
  | _ => rwa [logout_of_refused (by simp [passage]), passage] at done

end

end ShadowPanel.Api
