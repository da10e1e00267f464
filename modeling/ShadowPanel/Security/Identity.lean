import ShadowPanel.Application.Events

namespace ShadowPanel.Security

open Api Auth Data Domain Filters Middlewares Repositories Services

/-! Whose session a signed token becomes.  The token names a login, which is
looked up again at every request. -/

variable {cacheDriver : Cache.Driver} {userDriver : UserDriver}
variable (setup : Setup)

def OnlyFinds (id : Nat) (login : String) (panel : Panel cacheDriver userDriver) : Prop :=
  ∀ row ∈ panel.users.rows, userDriver.same row.login (setup.toLower login) = true → row.id = id

def KeepsLogin (id : Nat) (login : String) (panel : Panel cacheDriver userDriver) :
    Panel.Event cacheDriver → Prop
  | .saveUser user =>
    userDriver.same (setup.toLower user.login) (setup.toLower login) = true →
      panel.users.target { user with login := setup.toLower user.login } = id
  | _ => True

variable {setup}

theorem OnlyFinds.congr {id : Nat} {login : String} (only : OnlyFinds setup id login panel)
    (same : other.users = panel.users) :
    OnlyFinds setup id login other := by
  intro row member
  rw [same] at member
  exact only row member

theorem logout_users (panel : Panel cacheDriver userDriver) (request : Request) :
    (logout setup panel request).2.users = panel.users := by
  unfold logout
  cases middleware setup panel false request <;> rfl

theorem OnlyFinds.step {id : Nat} {login : String} (panel : Panel cacheDriver userDriver)
    (event : Panel.Event cacheDriver) (kept : KeepsLogin setup id login panel event)
    (only : OnlyFinds setup id login panel) :
    OnlyFinds setup id login (panel.step setup event) := by
  cases event with
  | saveUser user =>
    intro row member matching
    cases panel.users.mem_of_save member with
    | inl saved =>
      subst saved
      exact kept matching
    | inr stored => exact only row stored matching
  | deleteUser other =>
    intro row member
    exact only row (List.mem_filter.mp member).1
  | logout request => exact only.congr (logout_users panel request)
  | login tokenID input => exact only
  | _ => exact only.congr rfl

theorem identify_of_claims (read : setup.authService.claims token = some claims)
    (identified : identify setup panel token = .ok session) :
    processUserAuthToken setup panel token = .ok session := by
  unfold identify at identified
  split at identified
  · exact identified
  · obtain ⟨idPart, secret, _, _, _, parts, _⟩ := processPersonalAccessToken_eq_ok identified
    have piped : '|' ∈ token.toList := by simp [eq_append_of_cut parts]
    rw [setup.authService.claims_pipe token piped] at read
    cases read
  · cases identified

theorem session_of_generated {panel : Panel cacheDriver userDriver}
    (generated : setup.authService.generateTokenForUser issuing tokenID user duration = some token)
    (identified : identify setup panel token = .ok session) :
    session.user ∈ panel.users.rows ∧
      userDriver.same session.user.login (setup.toLower user.login) = true := by
  have read := setup.authService.claims_sign _ _ generated
  obtain ⟨claims, login, found, valid, named, looked, rfl⟩ :=
    processUserAuthToken_eq_ok (identify_of_claims read identified)
  have again := (setup.authService.validateToken_eq_some panel.now |>.mp valid).1
  cases read.symm.trans again
  have names : user.login = login := by
    rw [AuthService.claimsForUser, subjectLogin_createSubjectFromLogin] at named
    split at named
    · cases named
    · exact Option.some.inj named
  subst names
  exact UserService.findOne_login setup.toLower panel.users looked

variable (setup) in
/-- A token becomes a session of the user it was issued to, or none, when nobody
else is stored under the user's login then or saved under it later. -/
theorem issued_token_keeps_user (panel : Panel cacheDriver userDriver) (tokenID : String)
    (input : LoginInput) (user : User) (token : String)
    (issued : login setup panel tokenID input = .ok (user, token))
    (only : OnlyFinds setup user.id user.login panel) (events : List (Panel.Event cacheDriver))
    (kept : Along (Panel.step setup) (KeepsLogin setup user.id user.login) panel events)
    (optional : Bool) (request : Request) (presented : extractToken request = token)
    (session : Session)
    (accepted : middleware setup (panel.run setup events) optional request = .session session) :
    session.user.id = user.id := by
  obtain ⟨_, identified, _⟩ := middleware_eq_session.mp accepted
  rw [presented] at identified
  obtain ⟨stored, matching⟩ := session_of_generated (login_eq_ok issued).2 identified
  exact kept.invariant OnlyFinds.step only session.user stored matching

def aliceClaims : Claims := ⟨"token", "user:login:alice", some 86400⟩

def oneToken : AuthService where
  format := .jwt
  claims := fun text => if text = "eyJ.alice" then some aliceClaims else none
  sign := fun claims => if claims = aliceClaims then some "eyJ.alice" else none
  claims_sign := by
    intro signed token written
    split at written
    next same =>
      cases written
      simp [same]
    next => cases written
  claims_pipe := by
    intro text piped
    refine if_neg ?_
    intro same
    rw [same] at piped
    exact absurd piped (by decide)

def aliceSetup : Setup := { Setup.plain with authService := oneToken }

def alice : User := ⟨1, "alice", "alice@example.com", "password"⟩

def aliceLogin : LoginInput := ⟨"alice", "", "password", ""⟩

def alicePanel : Panel .inMemory .sqlite where
  now := 0
  cache := .empty
  users := ⟨[alice], 1⟩
  tokens := ⟨[]⟩

theorem issued_token_keeps_user_alice : middleware aliceSetup (alicePanel.run aliceSetup
      [.saveUser ⟨0, "bob", "bob@example.com", "other"⟩, .wait 60]) false
      (bearerRequest "eyJ.alice") = .session (.ofUser alice none) ∧
    (Session.ofUser alice none).user.id = 1 :=
  ⟨rfl, issued_token_keeps_user aliceSetup alicePanel "token" aliceLogin alice "eyJ.alice" rfl
    (by simp [OnlyFinds, alicePanel])
    [.saveUser ⟨0, "bob", "bob@example.com", "other"⟩, .wait 60]
    ⟨fun same => absurd same (by decide), trivial, trivial⟩ false (bearerRequest "eyJ.alice")
    rfl (.ofUser alice none) rfl⟩

theorem alice_token_becomes_other :
    login aliceSetup alicePanel "token" aliceLogin = .ok (alice, "eyJ.alice") ∧
      middleware aliceSetup (alicePanel.run aliceSetup
        [.deleteUser 1, .saveUser ⟨0, "alice", "new@example.com", "other"⟩]) false
        (bearerRequest "eyJ.alice") =
          .session (.ofUser ⟨2, "alice", "new@example.com", "other"⟩ none) :=
  ⟨rfl, rfl⟩

end ShadowPanel.Security
