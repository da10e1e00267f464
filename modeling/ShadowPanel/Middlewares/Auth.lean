import ShadowPanel.Application.Panel
import ShadowPanel.Data.Texts

namespace ShadowPanel.Middlewares

open Auth Data Domain Filters Repositories

/-! The authentication of `internal/api/middlewares/auth.go`. -/

inductive AuthError where
  | missingAuthToken
  | invalidPATFormat
  | invalidPATID
  | patNotFound
  | invalidPAT
  | unsupportedPATType
  | userNotFoundForPAT
  | invalidOrExpiredToken
  | invalidTokenSubject
  | userNotFound
  | tokenRevoked

def AuthError.message : AuthError → String
  | .missingAuthToken => "missing authentication token"
  | .invalidPATFormat => "invalid personal access token format"
  | .invalidPATID => "invalid personal access token ID"
  | .patNotFound => "personal access token not found"
  | .invalidPAT => "invalid personal access token"
  | .unsupportedPATType => "unsupported personal access token type"
  | .userNotFoundForPAT => "user not found for personal access token"
  | .invalidOrExpiredToken => "invalid or expired token"
  | .invalidTokenSubject => "invalid token subject"
  | .userNotFound => "user not found"
  | .tokenRevoked => "token has been revoked"

structure Request where
  authorization : String
  queryToken : String
  cookieToken : String

def bearerRequest (bearer : String) : Request where
  authorization := ""
  queryToken := bearer
  cookieToken := ""

def queryOrCookie (request : Request) : String :=
  if request.queryToken ≠ "" then request.queryToken else request.cookieToken

def extractToken (request : Request) : String :=
  match request.authorization.toList.splitOn ' ' with
  | [scheme, token] =>
    if scheme.map Char.toLower = "bearer".toList then String.ofList token
    else queryOrCookie request
  | _ => queryOrCookie request

inductive TokenType where
  | unknown
  | personalAccess
  | userAuth
  deriving DecidableEq

def hasTextPrefix (text start : String) : Bool := start.toList.isPrefixOf text.toList

def detectTokenType (token : String) : TokenType :=
  if hasTextPrefix token "v4.local." || hasTextPrefix token "v4.public." ||
      hasTextPrefix token "eyJ" then
    .userAuth
  else
    match cut '|' token.toList with
    | some (idPart, _) => if isNumeric idPart then .personalAccess else .unknown
    | none => .unknown

section

variable (setup : Setup) (panel : Panel cacheDriver userDriver)

def processPersonalAccessToken (token : String) : Except AuthError Session :=
  match cut '|' token.toList with
  | none => .error .invalidPATFormat
  | some (idPart, tokenPart) =>
    match atoi idPart with
    | none => .error .invalidPATID
    | some id =>
      if id ≤ 0 then .error .invalidPATID
      else
        match panel.tokens.findByID id.toNat with
        | none => .error .patNotFound
        | some row =>
          if row.token ≠ setup.sha256 (String.ofList tokenPart) then .error .invalidPAT
          else if row.tokenableType ≠ .user then .error .unsupportedPATType
          else
            match panel.findUser setup (findUserByIDs [row.tokenableID]) with
            | none => .error .userNotFoundForPAT
            | some user => .ok (.ofUser user (some row))

def subjectLogin (subject : String) : Option String :=
  if hasTextPrefix subject subjectPrefix then
    let login := String.ofList (subject.toList.drop subjectPrefix.toList.length)
    if login = "" then none else some login
  else none

def processUserAuthToken (token : String) : Except AuthError Session :=
  match setup.authService.validateToken panel.now token with
  | none => .error .invalidOrExpiredToken
  | some claims =>
    match subjectLogin claims.subject with
    | none => .error .invalidTokenSubject
    | some login =>
      match panel.findUser setup (findUserByLogins [login]) with
      | none => .error .userNotFound
      | some user => .ok (.ofUser user none)

def identify (token : String) : Except AuthError Session :=
  match detectTokenType token with
  | .userAuth => processUserAuthToken setup panel token
  | .personalAccess => processPersonalAccessToken setup panel token
  | .unknown => .error .invalidOrExpiredToken

inductive Passage where
  | session (session : Session)
  | anonymous
  | refused (error : AuthError)

def isRevoked (token : String) : Bool :=
  CacheRevocation.isRevoked panel.cache panel.now (tokenIdentifier setup.sha256 token)

def middleware (optional : Bool) (request : Request) : Passage :=
  let token := extractToken request
  if token = "" then
    if optional then .anonymous else .refused .missingAuthToken
  else
    match identify setup panel token with
    | .error error =>
      if optional && detectTokenType token ≠ .unknown then .anonymous else .refused error
    | .ok session =>
      if isRevoked setup panel token then
        if optional then .anonymous else .refused .tokenRevoked
      else .session session

def afterMiddleware (request : Request) : Cache cacheDriver :=
  match identify setup panel (extractToken request) with
  | .error _ => panel.cache
  | .ok _ =>
    panel.cache.afterGet panel.now
      (revocationKeyPrefix ++ tokenIdentifier setup.sha256 (extractToken request))

variable {setup panel}

theorem processPersonalAccessToken_eq_ok
    (done : processPersonalAccessToken setup panel token = .ok session) :
    ∃ idPart tokenPart id row user, cut '|' token.toList = some (idPart, tokenPart) ∧
      atoi idPart = some id ∧ 0 < id ∧ panel.tokens.findByID id.toNat = some row ∧
      row.token = setup.sha256 (String.ofList tokenPart) ∧ row.tokenableType = .user ∧
      panel.findUser setup (findUserByIDs [row.tokenableID]) = some user ∧
      session = .ofUser user (some row) := by
  unfold processPersonalAccessToken at done
  split at done
  · cases done
  next idPart tokenPart parts =>
    split at done
    · cases done
    next id number =>
      split at done
      · cases done
      next positive =>
        split at done
        · cases done
        next row stored =>
          split at done
          · cases done
          next digest =>
            split at done
            · cases done
            next owner =>
              split at done
              · cases done
              next user found =>
                cases done
                exact ⟨idPart, tokenPart, id, row, user, parts, number, Int.not_le.mp positive,
                  stored, Decidable.not_not.mp digest, Decidable.not_not.mp owner, found, rfl⟩

theorem processUserAuthToken_eq_ok (done : processUserAuthToken setup panel token = .ok session) :
    ∃ claims login user, setup.authService.validateToken panel.now token = some claims ∧
      subjectLogin claims.subject = some login ∧
      panel.findUser setup (findUserByLogins [login]) = some user ∧
      session = .ofUser user none := by
  unfold processUserAuthToken at done
  split at done
  · cases done
  next claims valid =>
    split at done
    · cases done
    next login named =>
      split at done
      · cases done
      next user found =>
        cases done
        exact ⟨claims, login, user, valid, named, found, rfl⟩

theorem middleware_eq_session {optional : Bool} :
    middleware setup panel optional request = .session session ↔
      extractToken request ≠ "" ∧
        identify setup panel (extractToken request) = .ok session ∧
        isRevoked setup panel (extractToken request) = false := by
  unfold middleware
  by_cases missing : extractToken request = ""
  · cases optional <;> simp [missing]
  · cases identified : identify setup panel (extractToken request) with
    | error error =>
      simp only [missing, if_false, identified]
      split <;> simp
    | ok found =>
      cases revoked : isRevoked setup panel (extractToken request) with
      | false => simp [missing, identified, revoked]
      | true => cases optional <;> simp [missing, identified, revoked]

theorem subjectLogin_createSubjectFromLogin (login : String) :
    subjectLogin (createSubjectFromLogin login) = if login = "" then none else some login := by
  have dropped : (createSubjectFromLogin login).toList.drop subjectPrefix.toList.length =
      login.toList := by
    simp [createSubjectFromLogin]
  have begins : hasTextPrefix (createSubjectFromLogin login) subjectPrefix = true := by
    simp [hasTextPrefix, createSubjectFromLogin]
  simp only [subjectLogin, begins, if_true, dropped, String.ofList_toList]

end

end ShadowPanel.Middlewares
