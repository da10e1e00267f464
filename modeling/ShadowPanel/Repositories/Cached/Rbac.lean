import ShadowPanel.Data.CacheAsideSettled
import ShadowPanel.Repositories.RbacRows

namespace ShadowPanel.Repositories.Cached

open Data Data.CacheAside Domain RBACRepository

/-! The cached `RBACRepository` of `internal/repositories/cached/rbac.go`, over
the tables as their database shows them.  A key stands for the text that
`BuildKey` makes of it. -/

inductive RBACKey where
  | roles (entityID : Nat) (entityType : EntityType)
  | permissions (entityID : Nat) (entityType : EntityType)
  deriving DecidableEq

inductive RBACRows where
  | roles (rows : List RestrictedRole)
  | permissions (rows : List Permission)

inductive RBACCall where
  | assignRolesForEntity (entityID : Nat) (entityType : EntityType)
      (roles : List RestrictedRole)
  | clearRolesForEntity (entityID : Nat) (entityType : EntityType)
  | allow (entityID : Nat) (entityType : EntityType) (abilities : List Ability)
  | forbid (entityID : Nat) (entityType : EntityType) (abilities : List Ability)
  | revoke (entityID : Nat) (entityType : EntityType) (abilities : List Ability)

def invalidateEntityCache (entityID : Nat) (entityType : EntityType) : List RBACKey :=
  [.roles entityID entityType, .permissions entityID entityType]

def invalidatePermissionCache (entityID : Nat) (entityType : EntityType) : List RBACKey :=
  [.permissions entityID entityType]

namespace RBACCall

def inner : RBACCall → RBACRepository driver → RBACRepository driver
  | .assignRolesForEntity entityID entityType roles, store =>
    store.assignRolesForEntity entityID entityType roles
  | .clearRolesForEntity entityID entityType, store =>
    store.clearRolesForEntity entityID entityType
  | .allow entityID entityType abilities, store => store.allow entityID entityType abilities
  | .forbid entityID entityType abilities, store =>
    store.forbid entityID entityType abilities
  | .revoke entityID entityType abilities, store =>
    store.revoke entityID entityType abilities

def invalidated : RBACCall → List RBACKey
  | .assignRolesForEntity entityID entityType _ => invalidateEntityCache entityID entityType
  | .clearRolesForEntity entityID entityType => invalidateEntityCache entityID entityType
  | .allow entityID entityType _ => invalidatePermissionCache entityID entityType
  | .forbid entityID entityType _ => invalidatePermissionCache entityID entityType
  | .revoke entityID entityType _ => invalidatePermissionCache entityID entityType

def changed : RBACCall → RBACKey
  | .assignRolesForEntity entityID entityType _ => .roles entityID entityType
  | .clearRolesForEntity entityID entityType => .roles entityID entityType
  | .allow entityID entityType _ => .permissions entityID entityType
  | .forbid entityID entityType _ => .permissions entityID entityType
  | .revoke entityID entityType _ => .permissions entityID entityType

theorem changed_mem_invalidated (call : RBACCall) : call.changed ∈ call.invalidated := by
  cases call <;> simp [changed, invalidated, invalidateEntityCache, invalidatePermissionCache]

end RBACCall

/-- What `GetRolesForEntity` and `GetPermissions` of the repository underneath
may return, in any order of the rows. -/
def Reads (store : RBACRepository driver) : RBACKey → RBACRows → Prop
  | .roles entityID entityType, .roles rows =>
    rows.Perm (store.roleRows entityID entityType)
  | .permissions entityID entityType, .permissions rows =>
    rows.Perm (store.permissionRows entityID entityType)
  | _, _ => False

theorem reads_congr {left right : RBACRepository driver}
    (roles : ∀ entityID entityType, key = .roles entityID entityType →
      left.roleRows entityID entityType = right.roleRows entityID entityType)
    (permissions : ∀ entityID entityType, key = .permissions entityID entityType →
      left.permissionRows entityID entityType = right.permissionRows entityID entityType)
    (rows : RBACRows) : Reads left key rows ↔ Reads right key rows := by
  cases key with
  | roles entityID entityType =>
    cases rows <;> simp [Reads, roles entityID entityType rfl]
  | permissions entityID entityType =>
    cases rows <;> simp [Reads, permissions entityID entityType rfl]

theorem RBACCall.frame (call : RBACCall) (store : RBACRepository driver)
    (apart : key ≠ call.changed) (rows : RBACRows) :
    Reads (call.inner store) key rows ↔ Reads store key rows := by
  have granting : ∀ entityID entityType abilities forbidden,
      key ≠ .permissions entityID entityType →
      (Reads (store.applyAbilities entityID entityType abilities forbidden) key rows ↔
        Reads store key rows) := by
    intro entityID entityType abilities forbidden different
    refine reads_congr (fun _ _ _ => roleRows_applyAbilities) ?_ rows
    intro otherID otherType same
    apply permissionRows_applyAbilities_of_ne
    rintro ⟨rfl, rfl⟩
    exact different same
  cases call with
  | assignRolesForEntity entityID entityType roles =>
    refine reads_congr ?_ (fun _ _ _ => rows_assignRolesForEntity.1) rows
    intro otherID otherType same
    apply rows_assignRolesForEntity.2
    rintro ⟨rfl, rfl⟩
    exact apart same
  | clearRolesForEntity entityID entityType =>
    refine reads_congr ?_ (fun _ _ _ => ?_) rows
    · intro otherID otherType same
      apply roleRows_clearRolesForEntity_of_ne
      rintro ⟨rfl, rfl⟩
      exact apart same
    · rfl
  | allow entityID entityType abilities => exact granting _ _ _ false apart
  | forbid entityID entityType abilities => exact granting _ _ _ true apart
  | revoke entityID entityType abilities =>
    refine reads_congr (fun _ _ _ => ?_) ?_ rows
    · rfl
    intro otherID otherType same
    apply permissionRows_revoke_of_ne
    rintro ⟨rfl, rfl⟩
    exact apart same

def rbacBackend (driver : Driver) : Backend (RBACRepository driver) RBACKey RBACRows RBACCall where
  Reads := Reads
  apply := RBACCall.inner
  changed := fun call => [call.changed]
  invalidated := RBACCall.invalidated
  frame := by
    intro call store key apart
    exact call.frame store (by simpa using apart)
  covered := by
    intro call key changed
    rw [List.mem_singleton.mp changed]
    exact call.changed_mem_invalidated

abbrev RBACStep (driver : Driver) := Step (RBACRepository driver) RBACKey RBACRows RBACCall

def undelayed (reader : Nat) (key : RBACKey) (refused : Bool) (rows : RBACRows) :
    List (RBACStep driver) :=
  [.read reader key none, .lookup reader refused, .load reader rows, .store reader false,
    .reread reader false]

def serverGrant : RBACRepository .sql :=
  .ofRows [] [] [⟨1, "game-server-start", none, some 5, some .server, false, none, none⟩]
    [⟨1, 1, some 7, some .user, false, none, none⟩] (by decide)

def revokeStart : RBACCall := .revoke 7 .user [createAbilityForEntity "game-server-start" 5 .server]

def overlappedRevoke : List (RBACStep .sql) :=
  [.start, .write 0 revokeStart, .invalidate 0,
    .read 1 (.permissions 7 .user) none, .lookup 1 false,
    .load 1 (.permissions (serverGrant.permissionRows 7 .user)), .store 1 false,
    .reread 1 false, .commit 0 (revokeStart.inner serverGrant)]

def separateRevoke : List (RBACStep .sql) :=
  [.read 1 (.permissions 7 .user) none, .lookup 1 false,
    .load 1 (.permissions (serverGrant.permissionRows 7 .user)), .store 1 false,
    .reread 1 false, .start, .write 0 revokeStart, .invalidate 0,
    .commit 0 (revokeStart.inner serverGrant)]

theorem merged_revokeStart (key : RBACKey) : (key ∉ [revokeStart.changed] →
    (rbacBackend .sql).Same (revokeStart.inner serverGrant) serverGrant key) ∧
    (key ∈ [revokeStart.changed] → key ∉ [] → (rbacBackend .sql).Same
      (revokeStart.inner serverGrant) (revokeStart.inner serverGrant) key) := by
  refine ⟨?_, fun _ _ _ => Iff.rfl⟩
  intro apart
  exact revokeStart.frame serverGrant (by simpa using apart)

/-- Once the transactions of a clean run have finished, what every later
reading returns is what is committed, and an undelayed reading returns. -/
theorem clean_run_reads_committed (store : RBACRepository driver) (steps : List (RBACStep driver))
    (admitted : (rbacBackend driver).Along (rbacBackend driver).Admitted (State.initial store)
      steps) (clean : (rbacBackend driver).Along State.Clean (State.initial store) steps)
    (finished : ∀ id, ((rbacBackend driver).run (State.initial store) steps).sessions id = none)
    (later : List (RBACStep driver)) (reads : ∀ step ∈ later, step.isWrite = false)
    (admittedLater : (rbacBackend driver).Along (rbacBackend driver).Admitted
      ((rbacBackend driver).run (State.initial store) steps) later) :
    let state := (rbacBackend driver).run (State.initial store) steps
    let last := (rbacBackend driver).run state later
    (∀ reader reading rows, state.readings reader = none →
      last.readings reader = some reading → reading.phase = .returned rows →
        Reads state.committed reading.key rows) ∧
      ∀ reader key refused rows, last.readings reader = none →
        Reads state.committed key rows →
        ∃ result, ((rbacBackend driver).run last
            (undelayed reader key refused rows)).readings reader =
            some ⟨key, none, .returned result⟩ ∧
          Reads state.committed key result := by
  intro state last
  have coherent : (rbacBackend driver).Coherent state :=
    (Backend.Coherent.initial store).run admitted clean
  have settled := (Backend.Settled.of_finished coherent finished).run reads admittedLater
  refine ⟨settled.returned, ?_⟩
  intro reader key refused rows idle loaded
  exact settled.alone idle loaded refused

theorem clean_run_reads_committed_separateRevoke : ∃ result, ((rbacBackend .sql).run
      ((rbacBackend .sql).run (State.initial serverGrant) separateRevoke)
      (undelayed 2 (.permissions 7 .user) false (.permissions []))).readings 2 =
      some ⟨.permissions 7 .user, none, .returned result⟩ ∧
    Reads (revokeStart.inner serverGrant) (.permissions 7 .user) result := by
  refine (clean_run_reads_committed serverGrant separateRevoke ?_ ?_ ?_ [] ?_ ?_).2
    2 (.permissions 7 .user) false (.permissions []) rfl ?_
  · refine ⟨trivial, trivial, ?_, trivial, trivial, trivial, trivial, trivial, ?_, trivial⟩
    · intro reading present
      cases present
      exact List.Perm.refl _
    · intro session opened
      cases opened
      exact merged_revokeStart
  · refine ⟨trivial, trivial, ?_, trivial, trivial, trivial, trivial, ?_, trivial, trivial⟩
    · intro reading present id session opened
      cases opened
    · intro session opened key first reader reading copy present loaded
      cases reader with
      | zero => cases present
      | succ reader =>
        cases reader with
        | zero =>
          cases present
          cases loaded
        | succ reader => cases present
  · intro id
    cases id <;> rfl
  · intro step member
    cases member
  · trivial
  · exact List.Perm.refl []

theorem overlappedRevoke_reads_revoked :
    (rbacBackend .sql).Along (rbacBackend .sql).Admitted (State.initial serverGrant)
        overlappedRevoke ∧
      (∀ id, ((rbacBackend .sql).run (State.initial serverGrant)
        overlappedRevoke).sessions id = none) ∧
      ((rbacBackend .sql).run ((rbacBackend .sql).run (State.initial serverGrant) overlappedRevoke)
          (undelayed 2 (.permissions 7 .user) false (.permissions []))).readings 2 =
        some ⟨.permissions 7 .user, none,
          .returned (.permissions (serverGrant.permissionRows 7 .user))⟩ ∧
      ¬Reads ((rbacBackend .sql).run (State.initial serverGrant)
          overlappedRevoke).committed (.permissions 7 .user)
        (.permissions (serverGrant.permissionRows 7 .user)) := by
  refine ⟨?_, ?_, ?_, ?_⟩
  · refine ⟨trivial, trivial, trivial, trivial, trivial, ?_, trivial, trivial, ?_, trivial⟩
    · intro reading present
      cases present
      exact List.Perm.refl _
    · intro session opened key
      cases opened
      exact merged_revokeStart key
  · intro id
    cases id <;> rfl
  · rfl
  · intro reads
    have length := List.Perm.length_eq reads
    cases length

end ShadowPanel.Repositories.Cached
