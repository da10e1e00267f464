import ShadowPanel.Rbac.Decision
import ShadowPanel.Repositories.RbacRows

namespace ShadowPanel.Rbac

open Data Domain Repositories

/-! The permission cache of `internal/rbac/cache.go`.  Times and durations are
nanoseconds. -/

structure CacheKey where
  entityType : EntityType
  entityID : Nat
  deriving DecidableEq

structure CacheEntry where
  permissions : PermissionMap
  expiresAt : Int

def CacheEntry.isExpired (entry : CacheEntry) (now : Int) : Bool := entry.expiresAt < now

structure PermissionCache where
  ttl : Int
  cache : CacheKey → Option CacheEntry

namespace PermissionCache

def new (ttl : Int) : PermissionCache where
  ttl := ttl
  cache := fun _ => none

section

variable (cache : PermissionCache)

def get (key : CacheKey) (now : Int) : Option PermissionMap :=
  if cache.ttl = 0 then
    none
  else
    match cache.cache key with
    | none => none
    | some entry => if entry.isExpired now then none else some entry.permissions

def set (key : CacheKey) (permissions : PermissionMap) (now : Int) : PermissionCache :=
  if cache.ttl = 0 then
    cache
  else
    { cache with
      cache := fun other =>
        if other = key then some ⟨permissions, now + cache.ttl⟩ else cache.cache other }

def delete (key : CacheKey) : PermissionCache :=
  { cache with cache := fun other => if other = key then none else cache.cache other }

def cleanup (now : Int) : PermissionCache :=
  { cache with
    cache := fun key => (cache.cache key).filter fun entry => !entry.isExpired now }

end

end PermissionCache

/-! What the surroundings decide: which repository calls fail, in which order
rows come back, how long a step takes and whether a transaction commits. -/

inductive Call where
  | getRoles
  | getRolesForEntity
  | getPermissions (entityID : Nat) (entityType : EntityType)
  | clearRolesForEntity
  | assignRolesForEntity
  | revoke
  | allow
  | forbid
  deriving DecidableEq

inductive Failure where
  | repository (call : Call)
  | transaction
  | invalidRoleName (name : String)
  | nilPointer
  | withMessage (message : String) (cause : Failure)

abbrev RowOrder := LayeredOrder Permission RestrictedRole

structure Read where
  wait : Nat
  delay : Nat
  order : RowOrder
  fails : Call → Bool

def Read.Steady (read : Read) : Prop := ∀ call, read.fails call = false

structure Attempt where
  fails : Call → Bool
  roleOrder : Reordering Role
  checks : Nat → Read
  commits : Bool

def attemptCall {α : Type} (fails : Call → Bool) (call : Call) (value : α) : Except Failure α :=
  if fails call then .error (.repository call) else .ok value

/-! The service.  `now` is the clock that the cache reads. -/

structure RBAC (driver : Driver) where
  repo : RBACRepository driver
  cache : PermissionCache
  now : Int

def userKey (userID : Nat) : CacheKey where
  entityType := .user
  entityID := userID

def layersFor (repo : RBACRepository driver) (userID : Nat) : Layers Permission RestrictedRole where
  first := repo.permissionRows userID .user
  groups := repo.roleRows userID .user
  members := fun role => repo.permissionRows role.id .role
  admits := admits

def appendRolePermissions (repo : RBACRepository driver) (read : Read) :
    List RestrictedRole → List Permission → Except Failure (List Permission)
  | [], userPermissions => .ok userPermissions
  | role :: roles, userPermissions =>
    match attemptCall read.fails (.getPermissions role.id .role)
        ((read.order.members role).apply (repo.permissionRows role.id .role)) with
    | .error failure =>
      .error (.withMessage "failed to get permissions for role" failure)
    | .ok rolePermissions =>
      appendRolePermissions repo read roles
        (userPermissions ++ rolePermissions.filter (admits role))

def loadPermissions (repo : RBACRepository driver) (userID : Nat) (read : Read) :
    Except Failure PermissionMap :=
  match attemptCall read.fails (.getPermissions userID .user)
      (read.order.first.apply (repo.permissionRows userID .user)) with
  | .error failure =>
    .error (.withMessage "failed to get all permissions for user" failure)
  | .ok userPermissions =>
    match attemptCall read.fails .getRolesForEntity
        (read.order.groups.apply (repo.roleRows userID .user)) with
    | .error failure => .error (.withMessage "failed to get roles for user" failure)
    | .ok roles =>
      match appendRolePermissions repo read roles userPermissions with
      | .error failure => .error failure
      | .ok permissions => .ok (groupByAbilityName permissions)

namespace RBAC

section

variable (rbac : RBAC driver)

def getAllPermissionsForUser (userID : Nat) (read : Read) :
    Except Failure PermissionMap × RBAC driver :=
  let asked := { rbac with now := rbac.now + read.wait }
  match asked.cache.get (userKey userID) asked.now with
  | some permissions => (.ok permissions, asked)
  | none =>
    let loaded := { asked with now := asked.now + read.delay }
    match loadPermissions rbac.repo userID read with
    | .error failure => (.error failure, loaded)
    | .ok permissions =>
      (.ok permissions,
        { loaded with
          cache := loaded.cache.set (userKey userID) permissions loaded.now })

def query (userID : Nat) (read : Read) (decision : PermissionMap → Except Failure Bool) :
    Except Failure Bool × RBAC driver :=
  match rbac.getAllPermissionsForUser userID read with
  | (.error failure, after) =>
    (.error (.withMessage "get permissions for user" failure), after)
  | (.ok permissions, after) => (decision permissions, after)

def can (userID : Nat) (abilities : List AbilityName) (read : Read) :
    Except Failure Bool × RBAC driver :=
  rbac.query userID read fun permissions =>
    .ok (decideEach globalVerdict permissions abilities)

def canOneOf (userID : Nat) (abilities : List AbilityName) (read : Read) :
    Except Failure Bool × RBAC driver :=
  rbac.query userID read fun permissions => .ok (decideOneOf permissions abilities)

def canForEntity (userID : Nat) (entityType : EntityType) (entityID : Nat)
    (abilities : List AbilityName) (read : Read) : Except Failure Bool × RBAC driver :=
  rbac.query userID read fun permissions =>
    .ok (decideEach (entityVerdict entityType entityID) permissions abilities)

def canAnyForEntity (userID : Nat) (entityType : EntityType) (entityID : Nat)
    (abilities : List AbilityName) (read : Read) : Except Failure Bool × RBAC driver :=
  rbac.query userID read fun permissions =>
    match decideAny entityType entityID permissions abilities with
    | none => .error .nilPointer
    | some allowed => .ok allowed

def getRoles (userID : Nat) (read : Read) : Except Failure (List String) :=
  match attemptCall read.fails .getRolesForEntity
      (read.order.groups.apply (rbac.repo.roleRows userID .user)) with
  | .error failure => .error (.withMessage "failed to get roles for user" failure)
  | .ok roles => .ok (roles.map fun role => role.name)

end

/-- `tm.Do`: a failed body or commit takes back what was written to the
tables, and only that. -/
def transaction (rbac : RBAC driver) (commits : Bool)
    (body : RBAC driver → Except Failure Unit × RBAC driver) : Except Failure Unit × RBAC driver :=
  match body rbac with
  | (.error failure, after) => (.error failure, { after with repo := rbac.repo })
  | (.ok (), after) =>
    if commits then
      (.ok (), after)
    else
      (.error .transaction, { after with repo := rbac.repo })

def write (rbac : RBAC driver) (fails : Call → Bool) (call : Call) (message : String)
    (change : RBACRepository driver → RBACRepository driver) : Except Failure (RBAC driver) :=
  match attemptCall fails call (change rbac.repo) with
  | .error failure => .error (.withMessage message failure)
  | .ok repo => .ok { rbac with repo := repo }

def forget (rbac : RBAC driver) (userID : Nat) : RBAC driver :=
  { rbac with cache := rbac.cache.delete (userKey userID) }

def rolesByName (roles : List Role) : String → Option Role :=
  roles.foldl (fun byName role name => if name = role.name then some role else byName name)
    fun _ => none

def restrictedRoles (byName : String → Option Role) :
    List String → Except Failure (List RestrictedRole)
  | [] => .ok []
  | roleName :: rest =>
    match byName roleName with
    | none => .error (.invalidRoleName roleName)
    | some role =>
      match restrictedRoles byName rest with
      | .error failure => .error failure
      | .ok roles => .ok (newRestrictedRoleFromRole role :: roles)

/-- The inner `setRolesToUser`.  The cache entry of the user is left as it is. -/
def setRolesInTransaction (userID : Nat) (roleNames : List String) (attempt : Attempt)
    (rbac : RBAC driver) : Except Failure Unit × RBAC driver :=
  match attemptCall attempt.fails .getRoles (attempt.roleOrder.apply rbac.repo.roles) with
  | .error failure => (.error (.withMessage "failed to get roles" failure), rbac)
  | .ok roles =>
    match restrictedRoles (rolesByName roles) roleNames with
    | .error failure => (.error failure, rbac)
    | .ok restricted =>
      match rbac.write attempt.fails .clearRolesForEntity
          "failed to clear roles for user"
          (·.clearRolesForEntity userID .user) with
      | .error failure => (.error failure, rbac)
      | .ok cleared =>
        match cleared.write attempt.fails .assignRolesForEntity
            "failed to assign roles to user"
            (·.assignRolesForEntity userID .user restricted) with
        | .error failure => (.error failure, cleared)
        | .ok assigned => (.ok (), assigned)

def setRolesToUser (rbac : RBAC driver) (userID : Nat) (roleNames : List String)
    (attempt : Attempt) : Except Failure Unit × RBAC driver :=
  rbac.transaction attempt.commits (setRolesInTransaction userID roleNames attempt)

def allowInTransaction (userID : Nat) (abilities : List Ability) (attempt : Attempt)
    (rbac : RBAC driver) : Except Failure Unit × RBAC driver :=
  match rbac.write attempt.fails .revoke "failed to revoke abilities for user"
      (·.revoke userID .user abilities) with
  | .error failure => (.error failure, rbac)
  | .ok revoked =>
    match revoked.write attempt.fails .allow "failed to allow abilities for user"
        (·.allow userID .user abilities) with
    | .error failure => (.error failure, revoked)
    | .ok allowed => (.ok (), allowed.forget userID)

def allowUserAbilitiesForEntity (rbac : RBAC driver) (userID entityID : Nat)
    (entityType : EntityType) (abilityNames : List AbilityName) (attempt : Attempt) :
    Except Failure Unit × RBAC driver :=
  rbac.transaction attempt.commits
    (allowInTransaction userID (abilitiesForEntity abilityNames entityID entityType) attempt)

def collectForbidAbilities (userID entityID : Nat) (entityType : EntityType) (checks : Nat → Read) :
    List Ability → Nat → RBAC driver →
      Except Failure (List Ability) × RBAC driver
  | [], _, rbac => (.ok [], rbac)
  | ability :: rest, index, rbac =>
    match rbac.canForEntity userID entityType entityID [ability.name]
        (checks index) with
    | (.error failure, after) =>
      (.error (.withMessage "failed to check abilities for user" failure), after)
    | (.ok can, after) =>
      match collectForbidAbilities userID entityID entityType checks rest
          (index + 1) after with
      | (.error failure, last) => (.error failure, last)
      | (.ok forbidAbilities, last) =>
        (.ok (if can then ability :: forbidAbilities else forbidAbilities), last)

def forbidCollected (userID : Nat) (attempt : Attempt) :
    Except Failure (List Ability) × RBAC driver → Except Failure Unit × RBAC driver
  | (.error failure, checked) => (.error failure, checked)
  | (.ok [], checked) => (.ok (), checked)
  | (.ok forbidAbilities, checked) =>
    match checked.write attempt.fails .forbid "failed to forbid abilities for user"
        (·.forbid userID .user forbidAbilities) with
    | .error failure => (.error failure, checked)
    | .ok forbidden => (.ok (), forbidden.forget userID)

def revokeOrForbidInTransaction (userID entityID : Nat) (entityType : EntityType)
    (abilities : List Ability) (attempt : Attempt) (rbac : RBAC driver) :
    Except Failure Unit × RBAC driver :=
  match rbac.write attempt.fails .revoke "failed to revoke abilities for user"
      (·.revoke userID .user abilities) with
  | .error failure => (.error failure, rbac)
  | .ok revoked =>
    forbidCollected userID attempt
      (collectForbidAbilities userID entityID entityType attempt.checks abilities 0
        (revoked.forget userID))

def revokeOrForbidUserAbilitiesForEntity (rbac : RBAC driver) (userID entityID : Nat)
    (entityType : EntityType) (abilityNames : List AbilityName) (attempt : Attempt) :
    Except Failure Unit × RBAC driver :=
  rbac.transaction attempt.commits
    (revokeOrForbidInTransaction userID entityID entityType
      (abilitiesForEntity abilityNames entityID entityType) attempt)

end RBAC

end ShadowPanel.Rbac
