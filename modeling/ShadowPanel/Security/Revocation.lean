import ShadowPanel.Application.Events

namespace ShadowPanel.Security

open Api Auth Data Domain Middlewares Repositories

/-! What a logout takes away: the credential, however the request carries it. -/

inductive Credential where
  | personalAccess (id : Nat) (digest : String)
  | signed (claims : Claims)

def Credential.expiration : Credential → Option Int
  | .personalAccess _ _ => none
  | .signed claims => claims.expiration

variable {cacheDriver : Cache.Driver} {userDriver : UserDriver}
variable (setup : Setup)

def Authenticates (panel : Panel cacheDriver userDriver) (bearer : String) : Credential → Prop
  | .personalAccess id digest => ∃ session row, identify setup panel bearer = .ok session ∧
      session.token = some row ∧ row.id = id ∧ row.token = digest
  | .signed claims => ∃ session, identify setup panel bearer = .ok session ∧
      session.token = none ∧ setup.authService.claims bearer = some claims

def Issued (bearer : String) : Credential → Prop
  | .personalAccess id _ => ∃ secret, bearer = toString id ++ "|" ++ secret
  | .signed claims => setup.authService.sign claims = some bearer

variable {setup}

private theorem identify_personalAccess (identified : identify setup panel bearer = .ok session)
    (held : session.token = some row) :
    ∃ idPart secret, cut '|' bearer.toList = some (idPart, secret) ∧
      row.token = setup.sha256 (String.ofList secret) := by
  unfold identify at identified
  split at identified
  · obtain ⟨_, _, _, _, _, _, rfl⟩ := processUserAuthToken_eq_ok identified
    cases held
  · obtain ⟨idPart, secret, _, found, _, parts, _, _, _, digest, _, _, rfl⟩ :=
      processPersonalAccessToken_eq_ok identified
    cases held
    exact ⟨idPart, secret, parts, digest⟩
  · cases identified

private theorem identify_signed (identified : identify setup panel bearer = .ok session)
    (held : session.token = none) :
    ∃ claims, setup.authService.validateToken panel.now bearer = some claims := by
  unfold identify at identified
  split at identified
  · obtain ⟨claims, _, _, valid, _⟩ := processUserAuthToken_eq_ok identified
    exact ⟨claims, valid⟩
  · obtain ⟨_, _, _, _, _, _, _, _, _, _, _, _, rfl⟩ :=
      processPersonalAccessToken_eq_ok identified
    cases held
  · cases identified

theorem Authenticates.validateToken
    (authentic : Authenticates setup panel bearer (.signed claims)) :
    setup.authService.validateToken panel.now bearer = some claims ∧
      claims.isLive setup.authService.format panel.now = true := by
  obtain ⟨session, identified, held, read⟩ := authentic
  obtain ⟨validated, valid⟩ := identify_signed identified held
  obtain ⟨readAgain, live⟩ := setup.authService.validateToken_eq_some panel.now |>.mp valid
  cases read.symm.trans readAgain
  exact ⟨valid, live⟩

private theorem pipe_not_mem_toString (id : Nat) : '|' ∉ (toString id).toList := by
  intro member
  rw [Nat.toString_eq_ofList_toDigits, String.toList_ofList] at member
  have digit := Nat.isDigit_of_mem_toDigits (by decide) (by decide) member
  exact absurd digit (by decide)

private theorem cut_issued (id : Nat) (secret : String) :
    cut '|' (toString id ++ "|" ++ secret).toList = some ((toString id).toList, secret.toList) := by
  have text : (toString id ++ "|" ++ secret).toList =
      (toString id).toList ++ '|' :: secret.toList := by
    simp
  rw [text, cut_append (pipe_not_mem_toString id)]

theorem Authenticates.digest {id : Nat} {digest : String}
    (authentic : Authenticates setup panel (toString id ++ "|" ++ secret)
      (.personalAccess id digest)) : setup.sha256 secret = digest := by
  obtain ⟨session, row, identified, held, _, rfl⟩ := authentic
  obtain ⟨idPart, found, parts, stored⟩ := identify_personalAccess identified held
  rw [cut_issued] at parts
  cases parts
  simpa using stored.symm

theorem Issued.unique (injective : Function.Injective setup.sha256)
    (issued : Issued setup bearer credential) (otherIssued : Issued setup other credential)
    (authentic : Authenticates setup first bearer credential)
    (otherAuthentic : Authenticates setup second other credential) : bearer = other := by
  cases credential with
  | personalAccess id digest =>
    obtain ⟨secret, rfl⟩ := issued
    obtain ⟨otherSecret, rfl⟩ := otherIssued
    rw [injective (authentic.digest.trans otherAuthentic.digest.symm)]
  | signed claims => exact Option.some.inj (Eq.trans (Eq.symm issued) otherIssued)

variable (setup) in
def revocationKey (bearer : String) : String :=
  revocationKeyPrefix ++ tokenIdentifier setup.sha256 bearer

variable (setup) in
def Denied (bearer : String) (deadline : Int) (panel : Panel cacheDriver userDriver) : Prop :=
  panel.now ≤ deadline →
    panel.cache.KeepsUntil (revocationKey setup bearer) (fun _ => True) deadline

/-- The rest of the program leaves the entries of the denylist until they expire. -/
def KeepsDenylist (panel : Panel cacheDriver userDriver) : Panel.Event cacheDriver → Prop
  | .cache cache => ∀ identifier item,
      panel.cache.item (revocationKeyPrefix ++ identifier) = some item →
      item.isExpired panel.now = false →
      cache.item (revocationKeyPrefix ++ identifier) = some item
  | _ => True

private theorem slot_revocationKey_ne (injective : Function.Injective setup.sha256)
    (separates : cacheDriver.Separates setup.sha256) (different : bearer ≠ other) :
    cacheDriver.slot (revocationKey setup bearer) ≠
      cacheDriver.slot (revocationKey setup other) := by
  intro same
  rw [Cache.Driver.slot_inj] at same
  simp only [revocationKey, String.toList_append, List.map_append,
    List.append_cancel_left_eq] at same
  exact different (injective (separates bearer other same))

theorem Denied.isRevoked (denied : Denied setup bearer deadline panel)
    (early : panel.now ≤ deadline) : isRevoked setup panel bearer = true := by
  obtain ⟨value, found, _⟩ := (denied early).exists_get early
  exact Option.isSome_of_mem found

theorem keepsUntil_afterMiddleware (kept : panel.cache.KeepsUntil key property deadline)
    (early : panel.now ≤ deadline) (request : Request) :
    (afterMiddleware setup panel request).KeepsUntil key property deadline := by
  unfold afterMiddleware
  split
  · exact kept
  · exact kept.afterGet early

@[simp] theorem logout_now (panel : Panel cacheDriver userDriver) (request : Request) :
    (logout setup panel request).2.now = panel.now := by
  unfold logout
  cases middleware setup panel false request <;> rfl

theorem Denied.logout (injective : Function.Injective setup.sha256)
    (separates : cacheDriver.Separates setup.sha256) {panel : Panel cacheDriver userDriver}
    (denied : Denied setup bearer deadline panel) (request : Request) :
    Denied setup bearer deadline (Api.logout setup panel request).2 := by
  intro early
  rw [logout_now] at early
  have kept : (afterMiddleware setup panel request).KeepsUntil (revocationKey setup bearer)
      (fun _ => True) deadline := keepsUntil_afterMiddleware (denied early) early request
  cases passage : middleware setup panel false request with
  | session session =>
    obtain ⟨_, _, unrevoked⟩ := middleware_eq_session.mp passage
    have different : extractToken request ≠ bearer := by
      intro same
      rw [same, denied.isRevoked early] at unrevoked
      cases unrevoked
    rw [logout_of_session passage]
    unfold CacheRevocation.revoke
    split
    · exact kept
    · exact kept.congr (Cache.item_set_of_ne (slot_revocationKey_ne injective separates different))
  | _ =>
    rw [logout_of_refused (by simp [passage])]
    exact kept

theorem Denied.step (injective : Function.Injective setup.sha256)
    (separates : cacheDriver.Separates setup.sha256) (panel : Panel cacheDriver userDriver)
    (event : Panel.Event cacheDriver) (kept : KeepsDenylist panel event)
    (denied : Denied setup bearer deadline panel) :
    Denied setup bearer deadline (panel.step setup event) := by
  cases event with
  | wait seconds =>
    intro early
    have before : panel.now ≤ deadline := by
      simp only [Panel.step] at early
      omega
    exact denied before
  | request request =>
    intro early
    exact keepsUntil_afterMiddleware (denied early) early request
  | logout request => exact denied.logout injective separates request
  | cache cache =>
    intro early
    obtain ⟨item, found, holds, live⟩ := denied early
    exact ⟨item, kept _ item found (live _ early), holds, live⟩
  | _ => exact denied

private theorem revocationTTL_covers (authentic : Authenticates setup panel bearer credential)
    (issued : Issued setup bearer credential)
    (unexpired : ∀ expiration, credential.expiration = some expiration → later ≤ expiration)
    (within : credential.expiration = none → later ≤ panel.now + defaultRevocationTTL) :
    later ≤ panel.now + revocationTTL setup panel bearer := by
  cases credential with
  | personalAccess id digest =>
    obtain ⟨secret, rfl⟩ := issued
    have unread :
        setup.authService.validateToken panel.now (toString id ++ "|" ++ secret) = none := by
      simp [AuthService.validateToken, setup.authService.claims_pipe]
    simp only [revocationTTL, unread]
    exact within rfl
  | signed claims =>
    have valid := authentic.validateToken.1
    cases expires : claims.expiration with
    | none => simpa [revocationTTL, valid, expires] using within expires
    | some expiration =>
      have covered := unexpired expiration expires
      simp only [revocationTTL, valid, expires]
      omega

theorem Authenticates.identify (authentic : Authenticates setup panel bearer credential) :
    ∃ session, identify setup panel bearer = .ok session := by
  cases credential with
  | personalAccess id digest =>
    obtain ⟨session, _, identified, _⟩ := authentic
    exact ⟨session, identified⟩
  | signed claims =>
    obtain ⟨session, identified, _⟩ := authentic
    exact ⟨session, identified⟩

private theorem Authenticates.le_expiration
    (authentic : Authenticates setup panel bearer credential)
    (expires : credential.expiration = some expiration) : panel.now ≤ expiration := by
  cases credential with
  | personalAccess id digest => cases expires
  | signed claims => exact Claims.le_of_isLive authentic.validateToken.2 expires

private theorem denied_logout (done : (logout setup panel request).1 = .session session)
    (after : panel.now < deadline)
    (covered : deadline ≤ panel.now + revocationTTL setup panel (extractToken request)) :
    Denied setup (extractToken request) deadline (logout setup panel request).2 := by
  intro _
  have positive : 0 < revocationTTL setup panel (extractToken request) := by omega
  rw [logout_of_session (logout_eq_session done)]
  unfold CacheRevocation.revoke
  rw [if_neg (Int.not_le.mpr positive)]
  exact Cache.keepsUntil_set trivial covered

/-- After a logout no request gets a session from the text in which the same
credential was handed out, while the credential lasts and, when it has no
expiration of its own, for the thirty days of the entry. -/
theorem logout_denies_credential (injective : Function.Injective setup.sha256)
    (separates : cacheDriver.Separates setup.sha256) (panel : Panel cacheDriver userDriver)
    (request : Request) (credential : Credential) (session : Session)
    (authentic : Authenticates setup panel (extractToken request) credential)
    (issued : Issued setup (extractToken request) credential)
    (done : (logout setup panel request).1 = .session session)
    (events : List (Panel.Event cacheDriver))
    (kept : Along (Panel.step setup) KeepsDenylist (logout setup panel request).2 events)
    (later : panel.now < ((logout setup panel request).2.run setup events).now)
    (within : credential.expiration = none →
      ((logout setup panel request).2.run setup events).now ≤ panel.now + defaultRevocationTTL)
    (next : Request)
    (nextAuthentic : Authenticates setup ((logout setup panel request).2.run setup events)
      (extractToken next) credential) (nextIssued : Issued setup (extractToken next) credential)
    (optional : Bool) :
    middleware setup ((logout setup panel request).2.run setup events) optional next =
      if optional then .anonymous else .refused .tokenRevoked := by
  have same : extractToken request = extractToken next :=
    issued.unique injective nextIssued authentic nextAuthentic
  have present : extractToken request ≠ "" :=
    (middleware_eq_session.mp (logout_eq_session done)).1
  have covered := revocationTTL_covers authentic issued
    (fun _ expires => nextAuthentic.le_expiration expires) within
  have denied := kept.invariant (Denied.step injective separates) (denied_logout done later covered)
  obtain ⟨found, identified⟩ := nextAuthentic.identify
  rw [same] at present denied
  simp only [middleware, if_neg present, identified]
  exact if_pos (denied.isRevoked (Int.le_refl _))

def tokenOwner : User := ⟨1, "alice", "alice@example.com", "password"⟩

def heldToken : PersonalAccessToken := ⟨13, .user, 1, "secret"⟩

def tokenPanel : Panel .inMemory .inMemory where
  now := 0
  cache := .empty
  users := ⟨[tokenOwner], 1⟩
  tokens := ⟨[heldToken]⟩

def heldRequest : Request := bearerRequest "13|secret"

theorem heldRequest_authenticates (users : panel.users = tokenPanel.users)
    (tokens : panel.tokens = tokenPanel.tokens) :
    Authenticates Setup.plain panel (extractToken heldRequest) (.personalAccess 13 "secret") := by
  obtain ⟨now, cache, _, _⟩ := panel
  cases users
  cases tokens
  exact ⟨.ofUser tokenOwner (some heldToken), heldToken, rfl, rfl, rfl, rfl⟩

theorem logout_denies_credential_heldToken :
    middleware Setup.plain ((logout Setup.plain tokenPanel heldRequest).2.run Setup.plain
      [.wait 60]) false heldRequest = .refused .tokenRevoked :=
  logout_denies_credential Function.injective_id (Cache.Driver.separates_inMemory _)
    tokenPanel heldRequest (.personalAccess 13 "secret") (.ofUser tokenOwner (some heldToken))
    (heldRequest_authenticates rfl rfl) ⟨"secret", rfl⟩ rfl [.wait 60] ⟨trivial, trivial⟩
    (by decide) (fun _ => by decide) heldRequest (heldRequest_authenticates rfl rfl)
    ⟨"secret", rfl⟩ false

theorem heldToken_returns : (logout Setup.plain tokenPanel heldRequest).1 =
      .session (.ofUser tokenOwner (some heldToken)) ∧
    Authenticates Setup.plain tokenPanel (extractToken heldRequest) (.personalAccess 13 "secret") ∧
    Authenticates Setup.plain ((logout Setup.plain tokenPanel heldRequest).2.run Setup.plain
      [.wait 2592001]) (extractToken heldRequest) (.personalAccess 13 "secret") ∧
    middleware Setup.plain ((logout Setup.plain tokenPanel heldRequest).2.run Setup.plain
      [.wait 2592001]) false heldRequest = .session (.ofUser tokenOwner (some heldToken)) :=
  ⟨rfl, heldRequest_authenticates rfl rfl, heldRequest_authenticates rfl rfl, rfl⟩

-- The denylist holds texts: the number of the token may be written in another way.
example : middleware Setup.plain (logout Setup.plain tokenPanel heldRequest).2 false
  (bearerRequest "013|secret") = .session (.ofUser tokenOwner (some heldToken)) := rfl

end ShadowPanel.Security
