import ShadowPanel.Auth.Revocation
import ShadowPanel.Enrollment.SetupKey
import ShadowPanel.Middlewares.LoginRateLimit
import ShadowPanel.Repositories.Cached.Calls

namespace ShadowPanel.Repositories.Cached

open Data Domain PersonalAccessTokenRepository List

/-! The cached repositories share the cache with the token denylist, the
counters of failed logins and the setup key.  On the Redis driver none of their
calls leaves its own key prefix. -/

variable {digests : Digests}

def AllOwned (keyPrefix : String) (operations : List Operation) : Prop :=
  ∀ operation ∈ operations, operation.Owned keyPrefix

section

variable {keyPrefix : String} {first second : List Operation}

@[simp] theorem allOwned_nil : AllOwned keyPrefix [] :=
  fun _ member => nomatch member

@[simp] theorem allOwned_cons : AllOwned keyPrefix (operation :: first) ↔
    operation.Owned keyPrefix ∧ AllOwned keyPrefix first := by
  simp [AllOwned]

@[simp] theorem allOwned_append : AllOwned keyPrefix (first ++ second) ↔
    AllOwned keyPrefix first ∧ AllOwned keyPrefix second := by
  simp only [AllOwned, mem_append, or_imp, forall_and]

@[simp] theorem allOwned_ite [Decidable condition] :
    AllOwned keyPrefix (if condition then first else second) ↔
      (condition → AllOwned keyPrefix first) ∧ (¬condition → AllOwned keyPrefix second) := by
  split <;> simp_all

@[simp] theorem owned_invalidate_buildKey (operation : String) (params : List Param) :
    (Operation.invalidate (buildKey digests keyPrefix operation params)).Owned keyPrefix :=
  ownKey_buildKey digests keyPrefix operation params

@[simp] theorem allOwned_readThrough (operation : String) (params : List Param)
    (loaded : Option Json) :
    AllOwned keyPrefix (readThrough (buildKey digests keyPrefix operation params) loaded) := by
  have own := ownKey_buildKey digests keyPrefix operation params
  simp [readThrough, Operation.Owned, own]

theorem allOwned_invalidateText {key : String → String} (own : ∀ text, OwnKey keyPrefix (key text))
    (text : String) :
    AllOwned keyPrefix (invalidateText key text) := by
  simp [invalidateText, Operation.Owned, own]

end

private theorem UserRepository.allOwned_invalidateIdentity (user : Identity) :
    AllOwned "user" (invalidateIdentity digests user) := by
  simp [invalidateIdentity, key, allOwned_invalidateText, ownKey_buildKey]

private theorem PersonalAccessTokenRepository.allOwned_token (token : String) :
    AllOwned "pat" (invalidateText (tokenKey digests) token) := by
  refine allOwned_invalidateText ?_ token
  intro text
  exact ownKey_buildKey digests "pat" "token" _

private theorem NodeRepository.allOwned_invalidateCredentials (node : Credentials) :
    AllOwned "node" (invalidateCredentials digests node) := by
  simp [invalidateCredentials, key, allOwned_invalidateText, ownKey_buildKey]

private theorem RBACKey.ownKey_text (key : RBACKey) : OwnKey "rbac" (key.text digests) := by
  cases key <;> exact ownKey_buildKey digests "rbac" _ _

private theorem allOwned_patterns : AllOwned "user" [.invalidatePattern "user:find*"] ∧
    AllOwned "pat" [.invalidatePattern "pat:id:*", .invalidatePattern "pat:find:*"] ∧
    AllOwned "node" [.invalidatePattern "node:find*"] ∧
    AllOwned "games" [.invalidatePattern "games:*"] ∧
    AllOwned "gamemods" [.invalidatePattern "gamemods:*"] ∧
    AllOwned "rbac" [.invalidatePattern (buildPattern "rbac" "role"),
      .invalidatePattern (buildPattern "rbac" "roles")] := by
  simp only [allOwned_cons, allOwned_nil, and_true]
  exact ⟨⟨"user:find", by decide, by decide, by decide⟩,
    ⟨⟨"pat:id:", by decide, by decide, by decide⟩, ⟨"pat:find:", by decide, by decide, by decide⟩⟩,
    ⟨"node:find", by decide, by decide, by decide⟩,
    ⟨"games:", by decide, by decide, by decide⟩,
    ⟨"gamemods:", by decide, by decide, by decide⟩,
    ⟨"rbac:role:", by decide, by decide, by decide⟩,
    ⟨"rbac:roles:", by decide, by decide, by decide⟩⟩

private theorem Call.allOwned (call : Call) :
    AllOwned call.repository.keyPrefix (call.operations digests) := by
  obtain ⟨users, tokens, nodes, games, gameMods, roles⟩ := allOwned_patterns
  simp only [allOwned_cons, allOwned_nil, and_true] at tokens roles
  cases call <;> simp only [operations, repository, Repository.keyPrefix]
  case userFindAll => exact allOwned_nil
  case userFind filter order pagination loaded =>
    simp only [UserRepository.find, UserRepository.key]
    split
    · exact allOwned_nil
    · split
      · exact allOwned_nil
      · split <;> simp
  case userSave user saved =>
    simp [UserRepository.save, UserRepository.allOwned_invalidateIdentity, users]
  case userDelete id found deleted =>
    have identities : AllOwned "user" (UserRepository.invalidateUserCache digests found) := by
      unfold UserRepository.invalidateUserCache
      split
      · exact UserRepository.allOwned_invalidateIdentity _
      · exact allOwned_nil
    simp [UserRepository.delete, UserRepository.key, identities, users]
  case tokenFind filter order pagination loaded =>
    simp only [find, key, tokenKey]
    split
    · exact allOwned_nil
    · split
      · exact allOwned_nil
      · split <;> simp
  case tokenSave token saved =>
    simp [save, allOwned_token, tokens]
  case tokenDelete id found deleted =>
    simp only [delete]
    split
    · split <;> simp [allOwned_token, key, tokens]
    · exact allOwned_nil
  case tokenUpdateLastUsedAt id change updated =>
    simp [updateLastUsedAt, key, Operation.Owned, ownKey_buildKey]
  case nodeFindAll order pagination loaded => exact allOwned_readThrough _ _ _
  case nodeFind filter order pagination loaded =>
    simp only [NodeRepository.find, NodeRepository.key]
    split <;> simp
  case nodeSave node saved =>
    simp [NodeRepository.save, NodeRepository.allOwned_invalidateCredentials, nodes]
  case nodeDelete found deleted =>
    simp only [NodeRepository.delete]
    split
    · split <;> simp [NodeRepository.allOwned_invalidateCredentials, nodes]
    · exact allOwned_nil
  case nodeUpdateGDaemonAPIToken found hashedToken updated =>
    simp [NodeRepository.updateGDaemonAPIToken, NodeRepository.key, nodes]
  case gameFindAll order pagination loaded => exact allOwned_readThrough _ _ _
  case gameFind codes order pagination loaded =>
    simp only [GameRepository.find, GameRepository.key]
    split <;> simp
  case gameWrite written =>
    simp [GameRepository.write, GameRepository.invalidateAllGameCache, games]
  case gameModFindAll order pagination loaded =>
    simp [GameModRepository.findAll, GameModRepository.key]
  case gameModFind filter order pagination loaded =>
    simp only [GameModRepository.find, GameModRepository.key]
    split <;> simp
  case gameModWrite written =>
    simp [GameModRepository.write, GameModRepository.invalidateAllGameModCache, gameMods]
  case rbacGetRoles loaded => exact allOwned_readThrough _ _ _
  case rbacSaveRole saved => simp [RBACRepository.saveRole, RBACRepository.key, roles]
  case rbacRead key loaded =>
    simp [RBACRepository.read, readThrough, Operation.Owned, key.ownKey_text]
  case rbacWrite call written =>
    rw [RBACRepository.write]
    split
    · intro operation member
      obtain ⟨key, _, rfl⟩ := mem_map.mp member
      exact key.ownKey_text
    · exact allOwned_nil

structure Made where
  call : Call
  now : Int
  stop : Nat

variable {driver : Cache.Driver}

section

variable (digests) (ttl : Repository → Int)

def Made.run (cache : Cache driver) (made : Made) : Cache driver :=
  ((made.call.operations digests).take made.stop).foldl
    (Wrapper.apply (ttl made.call.repository) made.now) cache

def runCalls (cache : Cache driver) (calls : List Made) : Cache driver :=
  calls.foldl (Made.run digests ttl) cache

end

def Call.invalidatesPattern (digests : Digests) (call : Call) : Bool :=
  (call.operations digests).any Operation.isPattern

/-- The keys of the denylist, of the failed logins and of the setup key. -/
def IsMark (key : String) : Prop :=
  (∃ identifier, key = Auth.revocationKeyPrefix ++ identifier) ∨
    (∃ suffix, key = Middlewares.loginRateLimitKeyPrefix ++ suffix) ∨
    key = Enrollment.setupKeyCacheKey

variable {ttl : Repository → Int} {key : String}

private theorem Made.item_run (cache : Cache driver) {made : Made}
    (outside : Outside driver made.call.repository.keyPrefix key)
    (supported : driver = .redis ∨ made.call.invalidatesPattern digests = false) :
    (made.run digests ttl cache).item key = cache.item key := by
  refine item_foldl_apply ?_ outside ?_
  · intro operation member
    exact made.call.allOwned operation (mem_of_mem_take member)
  · refine supported.imp_right ?_
    intro silent operation member
    exact Bool.eq_false_iff.mpr
      (any_eq_false.mp silent operation (mem_of_mem_take member))

private theorem outside_of_letters (ownBegins : keyPrefix.toList = own :: ownRest)
    (otherBegins : key.toList = other :: otherRest) (ownLetter : own.isLower = true)
    (otherLetter : other.isLower = true) (different : own ≠ other) :
    Outside driver keyPrefix key := by
  intro text isOwn same
  obtain ⟨rest, spelled⟩ := isOwn
  rw [Cache.Driver.slot_inj, ← spelled, String.toList_append, ownBegins, otherBegins] at same
  exact different (driver.fold_letters ownLetter otherLetter (cons.inj same).1)

private theorem outside_of_isMark (mark : IsMark key) (repository : Repository) :
    Outside driver repository.keyPrefix key := by
  have begins : ∃ first rest, key.toList = first :: rest ∧ (first = 'a' ∨ first = 'd') := by
    obtain ⟨identifier, rfl⟩ | ⟨suffix, rfl⟩ | rfl := mark
    · exact ⟨'a', _, by rw [String.toList_append]; rfl, .inl rfl⟩
    · exact ⟨'a', _, by rw [String.toList_append]; rfl, .inl rfl⟩
    · exact ⟨'d', _, rfl, .inr rfl⟩
  obtain ⟨first, rest, begins, letter⟩ := begins
  have isLetter : first.isLower = true := by
    cases letter with
    | inl same => exact same ▸ rfl
    | inr same => exact same ▸ rfl
  have own : ∃ letter rest, repository.keyPrefix.toList = letter :: rest ∧
      letter.isLower = true ∧ letter ≠ 'a' ∧ letter ≠ 'd' := by
    cases repository <;> exact ⟨_, _, rfl, by decide, by decide, by decide⟩
  obtain ⟨ownLetter, ownRest, ownBegins, ownIsLetter, notA, notD⟩ := own
  refine outside_of_letters ownBegins begins ownIsLetter isLetter ?_
  cases letter with
  | inl same => exact same ▸ notA
  | inr same => exact same ▸ notD

def revokedToken (driver : Cache.Driver) : Cache driver :=
  Auth.CacheRevocation.revoke Cache.empty 0 "token" 3600

def sampleDigests : Digests where
  sha256 := id
  hashParams := fun _ => ""

def savedUser : Made where
  call := .userSave ⟨7, "alice", "alice@example.com"⟩ true
  now := 5
  stop := 4

/-- Where the driver can delete by pattern, or no call has to, every call
leaves the entries outside its prefix as they were, and the marks of the other
components last as long as they would have without the calls. -/
theorem calls_keep_outside (digests : Digests) (ttl : Repository → Int) (cache : Cache driver)
    (calls : List Made)
    (supported : driver = .redis ∨ ∀ made ∈ calls, made.call.invalidatesPattern digests = false) :
    (∀ before made after key, calls = before ++ made :: after →
      Outside driver made.call.repository.keyPrefix key →
      (runCalls digests ttl cache (before ++ [made])).item key =
        (runCalls digests ttl cache before).item key) ∧
      ∀ key, IsMark key → ∀ now,
        (runCalls digests ttl cache calls).get now key = cache.get now key := by
  constructor
  · intro before made after key split outside
    rw [runCalls, foldl_append]
    refine Made.item_run _ outside (supported.imp_right ?_)
    intro silent
    exact silent made (by simp [split])
  · intro key mark now
    refine Cache.get_congr ?_
    induction calls generalizing cache with
    | nil => rfl
    | cons made rest ih =>
      refine (ih (made.run digests ttl cache) ?_).trans
        (made.item_run cache (outside_of_isMark mark _) ?_)
      · exact supported.imp_right fun silent other member => silent other (by simp [member])
      · exact supported.imp_right fun silent => silent made (by simp)

theorem calls_keep_outside_revoked :
    (runCalls sampleDigests (fun _ => 60) (revokedToken .redis) [savedUser]).get 10
      (Auth.revocationKeyPrefix ++ "token") = some (.bool true) := by
  rw [(calls_keep_outside sampleDigests (fun _ => 60) (revokedToken .redis) [savedUser]
    (.inl rfl)).2 _ (.inl ⟨"token", rfl⟩)]
  rfl

theorem savedUser_clears_revoked :
    ¬OwnKey savedUser.call.repository.keyPrefix (Auth.revocationKeyPrefix ++ "token") ∧
      (revokedToken .inMemory).get 10 (Auth.revocationKeyPrefix ++ "token") = some (.bool true) ∧
      (runCalls sampleDigests (fun _ => 60) (revokedToken .inMemory) [savedUser]).get 10
        (Auth.revocationKeyPrefix ++ "token") = none :=
  ⟨by decide, rfl, rfl⟩

end ShadowPanel.Repositories.Cached
