import ShadowPanel.Data.Runs
import ShadowPanel.Repositories.Cached.Coherence
import ShadowPanel.Repositories.Users

namespace ShadowPanel.Repositories.Cached

open Data Domain Filters List

/-! The cached `UserRepository` of `internal/repositories/cached/user.go`, with
what its calls return. -/

inductive UserField where
  | id (value : Nat)
  | login (value : String)
  | email (value : String)

namespace UserField

def filter : UserField → FindUser
  | .id value => findUserByIDs [value]
  | .login value => findUserByLogins [value]
  | .email value => findUserByEmails [value]

def finds (driver : UserDriver) (field : UserField) (user : User) : Bool :=
  UserRepository.isFound driver field.filter user

/-- The user has the value in the field, as it is spelled, and it is not empty. -/
def Names (user : User) : UserField → Prop
  | .id value => user.id = value ∧ value ≠ 0
  | .login value => user.login = value ∧ value ≠ ""
  | .email value => user.email = value ∧ value ≠ ""

def keyParts (digests : Digests) : UserField → String × String
  | .id value => ("id", toString value)
  | .login value => ("login", digests.hashParams [.text value])
  | .email value => ("email", digests.hashParams [.text value])

def key (digests : Digests) : UserField → String
  | .id value => UserRepository.key digests "id" [.uint value]
  | .login value => UserRepository.key digests "login" [.text value]
  | .email value => UserRepository.key digests "email" [.text value]

theorem key_eq (digests : Digests) (field : UserField) : field.key digests =
    "user" ++ ":" ++ (field.keyParts digests).1 ++ ":" ++ (field.keyParts digests).2 := by
  cases field <;> rfl

theorem keyParts_injective {digests : Digests} (apart : Function.Injective digests.hashParams) :
    Function.Injective (keyParts digests) := by
  intro left right same
  cases left with
  | id value =>
    cases right with
    | id other =>
      have numbers := toString_nat_injective (congrArg Prod.snd same)
      rw [numbers]
    | login | email => simp [keyParts] at same
  | login value =>
    cases right with
    | login other =>
      have texts := apart (congrArg Prod.snd same)
      simpa using texts
    | id | email => simp [keyParts] at same
  | email value =>
    cases right with
    | email other =>
      have texts := apart (congrArg Prod.snd same)
      simpa using texts
    | id | login => simp [keyParts] at same

end UserField

structure UserQuery where
  filter : Option FindUser
  order : Option (List Sorting)
  pagination : Option Pagination

namespace UserQuery

def field (query : UserQuery) : Option UserField :=
  match query.filter with
  | none => none
  | some filter =>
    if query.order.isSome || isPaginated query.pagination || filter.filterCount != 1 then none
    else
      match filter.ids, filter.logins, filter.emails with
      | [id], _, _ => some (.id id)
      | _, [login], _ => some (.login login)
      | _, _, [email] => some (.email email)
      | _, _, _ => none

theorem find_eq_field (digests : Digests) (query : UserQuery) (loaded : Option Json) :
    UserRepository.find digests query.filter query.order query.pagination loaded =
      match query.field with
      | some field => readThrough (field.key digests) loaded
      | none => [] := by
  obtain ⟨filter, order, pagination⟩ := query
  cases filter with
  | none => rfl
  | some filter =>
    obtain ⟨ids, logins, emails⟩ := filter
    simp only [UserRepository.find, field]
    split
    next uncached => rfl
    next cached =>
      split
      · rfl
      · simp [UserField.key]
      · simp [UserField.key]
      · simp_all

variable {database : UserDriver} (sorted : Sorted User)

def rows (store : UserRepository database) (query : UserQuery) : List User :=
  store.findSorted sorted query.filter (query.order.getD []) query.pagination

theorem rows_of_field {store : UserRepository database} {query : UserQuery} {field : UserField}
    (found : query.field = some field) :
    query.rows sorted store = applyPagination query.pagination (store.find field.filter) := by
  obtain ⟨filter, order, pagination⟩ := query
  cases filter with
  | none => cases found
  | some filter =>
    obtain ⟨ids, logins, emails⟩ := filter
    simp only [UserQuery.field, Option.ite_none_left_eq_some, Bool.not_eq_true,
      Bool.or_eq_false_iff, Option.isSome_eq_false_iff, Option.isNone_iff_eq_none] at found
    obtain ⟨⟨⟨unordered, _⟩, single⟩, found⟩ := found
    subst unordered
    have alone : FindUser.filterCount ⟨ids, logins, emails⟩ = 1 := by simpa using single
    split at found
    · cases found
      cases logins <;> cases emails <;> simp [FindUser.filterCount, filterKinds] at alone
      rfl
    · cases found
      cases ids <;> cases emails <;> simp [FindUser.filterCount, filterKinds] at alone
      rfl
    · cases found
      cases ids <;> cases logins <;> simp [FindUser.filterCount, filterKinds] at alone
      rfl
    · cases found

end UserQuery

variable {database : UserDriver} (digests : Digests) (sorted : Sorted User)
variable (codec : JsonCodec (List User))

/-- The cached lookups: by a field, and with a pagination that takes at most the
rows of the default page. -/
def userLookup : Lookup (UserRepository database) (UserField × Option Pagination) User where
  rows store query := applyPagination query.2 (store.find query.1.filter)
  key query := query.1.key digests
  canonical query := (query.1, none)
  codec := codec

theorem userLookup_separates (apart : Function.Injective digests.hashParams) :
    (userLookup digests codec : Lookup (UserRepository database) _ _).Separates .redis := by
  intro left right same
  have sameKey : left.1.key digests = right.1.key digests := eq_of_slot_redis same
  rw [UserField.key_eq, UserField.key_eq] at sameKey
  have free (field : UserField) : ':' ∉ (field.keyParts digests).1.toList := by
    cases field <;> simp [UserField.keyParts]
  obtain ⟨sameOperation, sameRest⟩ := key_injective (free left.1) (free right.1) sameKey
  have sameField := UserField.keyParts_injective apart (Prod.ext sameOperation sameRest)
  simp only [userLookup, sameField]

variable (ttl : Int)

def findUsers (state : Caching .redis (UserRepository database)) (query : UserQuery) (pause : Nat) :
    Caching .redis (UserRepository database) × Option (List User) :=
  match query.field with
  | some field => (userLookup digests codec).read ttl state (field, query.pagination) pause
  | none => ({ state with now := state.now + pause }, some (query.rows sorted state.store))

/-- `lastInsertID` is what MySQL reports for a user that was saved without an
identifier. -/
inductive UserCall where
  | wait (seconds : Nat)
  | find (query : UserQuery) (pause : Nat)
  | save (user : User) (lastInsertID : Nat)
  | delete (id : Nat) (findFails : Bool)

namespace UserCall

def identity (user : User) : UserRepository.Identity := ⟨user.id, user.login, user.email⟩

def savedID (store : UserRepository database) (user : User) (lastInsertID : Nat) : Nat :=
  if user.id ≠ 0 then user.id
  else
    match database with
    | .mysql _ => lastInsertID
    | _ => store.target user

def target (store : UserRepository database) : UserCall → Option Nat
  | .save user _ => if store.isRefused user then none else some (store.target user)
  | .delete id _ => some id
  | .wait _ | .find _ _ => none

def inner (store : UserRepository database) : UserCall → UserRepository database
  | .save user _ => (store.save user).1
  | .delete id _ => store.delete id
  | .wait _ | .find _ _ => store

def previous (store : UserRepository database) (id : Nat) (findFails : Bool) :
    Option (List UserRepository.Identity) :=
  if findFails then none else some ((store.find (findUserByIDs [id])).map identity)

def removals (store : UserRepository database) : UserCall → List Operation
  | .save user lastInsertID =>
    UserRepository.save digests (identity { user with id := savedID store user lastInsertID })
      (store.save user).2.isSome
  | .delete id findFails =>
    UserRepository.delete digests id (previous store id findFails) true
  | .wait _ | .find _ _ => []

end UserCall

section

variable (state : Caching .redis (UserRepository database))

def userStep : UserCall → Caching .redis (UserRepository database)
  | .wait seconds => { state with now := state.now + seconds }
  | .find query pause => (findUsers digests sorted codec ttl state query pause).1
  | call =>
    { state with
      cache := (call.removals digests state.store).foldl (Wrapper.apply ttl state.now) state.cache
      store := call.inner state.store }

def UserField.Uncached (field : UserField) : Prop :=
  state.cache.get state.now (field.key digests) = none

/-- Every field that finds the written row, as it was or as it becomes, is taken
out of the cache or is not there. -/
def UserCall.Drops (call : UserCall) : Prop :=
  ∀ (field : UserField) (user : User), call.target state.store = some user.id →
    user ∈ state.store.rows ∨ user ∈ (call.inner state.store).rows →
    field.finds database user = true → field.Uncached digests state ∨
      ∃ operation ∈ call.removals digests state.store, operation.Removes .redis (field.key digests)

/-- What each call may meet.  A cached lookup asks for all that its field finds.  A
field that finds the row that is to be written is not in the cache, or the call takes
care of it: a `Save` of the values in the new row under the id that it is given, a
`Delete` of the id and of the values in the old row. -/
def UserCall.Safe : UserCall → Prop
  | .wait _ => True
  | .find query _ => ∀ field, query.field = some field →
      (userLookup digests codec).Plain state.store (field, query.pagination)
  | .save user lastInsertID => state.store.isRefused user = false →
    ∀ (field : UserField) (row : User), row.id = state.store.target user →
      row ∈ state.store.rows ∨ row = { user with id := state.store.target user } →
      field.finds database row = true →
      field.Names { user with id := savedID state.store user lastInsertID } ∨
        field.Uncached digests state
  | .delete id findFails => ∀ (field : UserField), ∀ row ∈ state.store.rows, row.id = id →
    field.finds database row = true →
      field = .id id ∨ findFails = false ∧ field.Names row ∨ field.Uncached digests state

end

namespace UserCall

variable {digests codec} {store : UserRepository database}

@[simp] theorem all_isRemoval_invalidateIdentity (user : UserRepository.Identity) :
    (UserRepository.invalidateIdentity digests user).all Operation.isRemoval = true := by
  unfold UserRepository.invalidateIdentity
  split <;> simp [Operation.isRemoval]

theorem all_isRemoval_removals (call : UserCall) :
    (call.removals digests store).all Operation.isRemoval = true := by
  cases call with
  | wait | find => rfl
  | save user lastInsertID =>
    simp only [removals, UserRepository.save]
    split
    · simp [Operation.isRemoval]
    · rfl
  | delete id findFails =>
    simp only [removals, UserRepository.delete, UserRepository.invalidateUserCache, if_true]
    split <;> simp [Operation.isRemoval]

theorem removes_names {field : UserField} (named : field.Names user) :
    ∃ operation ∈ UserRepository.invalidateIdentity digests (identity user),
      operation.Removes .redis (field.key digests) := by
  refine ⟨.invalidate (field.key digests), ?_, rfl⟩
  cases field with
  | id value | login value | email value =>
    obtain ⟨rfl, given⟩ := named
    simp [UserRepository.invalidateIdentity, invalidateText, identity, UserField.key, given]

theorem Safe.drops {call : UserCall}
    (ordered : state.store.rows.Pairwise fun earlier later => earlier.id < later.id)
    (safe : call.Safe digests codec state) : call.Drops digests state := by
  intro field written target stored found
  cases call with
  | wait | find => cases target
  | save user lastInsertID =>
    cases refused : state.store.isRefused user with
    | true => simp [UserCall.target, refused] at target
    | false =>
      have own : written.id = state.store.target user := by
        simpa [UserCall.target, refused] using target.symm
      have row :
          written ∈ state.store.rows ∨ written = { user with id := state.store.target user } :=
        stored.elim .inl fun after => (Repositories.UserRepository.mem_of_save _ after).symm
      refine (safe refused field written own row found).symm.imp_right fun named => ?_
      obtain ⟨operation, member, removes⟩ := removes_names named
      refine ⟨operation, ?_, removes⟩
      simp only [removals, Repositories.UserRepository.save, refused, UserRepository.save]
      exact mem_append_left _ member
  | delete id findFails =>
    have before : written ∈ state.store.rows := by
      rcases stored with before | after
      · exact before
      · exact (mem_filter.mp after).1
    have own : written.id = id := (Option.some.inj target).symm
    rcases safe field written before own found with rfl | ⟨rfl, named⟩ | uncached
    · exact .inr ⟨.invalidate _, mem_cons_self, rfl⟩
    · obtain ⟨operation, member, removes⟩ := removes_names named
      refine .inr ⟨operation, ?_, removes⟩
      have only : state.store.find (findUserByIDs [id]) = [written] :=
        filter_eq_singleton ordered before (by simp [UserRepository.isFound, findUserByIDs, own])
          (by simp +contextual [UserRepository.isFound, findUserByIDs, own])
      simp only [removals, previous, only, UserRepository.delete,
        UserRepository.invalidateUserCache]
      exact mem_append_left _ (mem_cons_of_mem _ member)
    · exact .inl uncached

theorem ordered_inner (ordered : store.rows.Pairwise fun earlier later => earlier.id < later.id)
    (call : UserCall) :
    (call.inner store).rows.Pairwise fun earlier later => earlier.id < later.id := by
  cases call with
  | wait | find => exact ordered
  | save user lastInsertID =>
    simp only [inner, Repositories.UserRepository.save]
    split
    · split <;> exact ordered
    · exact pairwise_place ordered
  | delete id findFails => exact ordered.filter _

theorem differIn_inner (call : UserCall) :
    DifferIn (fun user => call.target store = some user.id) store.rows (call.inner store).rows := by
  cases call with
  | wait | find => exact .refl _ _
  | save user lastInsertID =>
    simp only [inner, target, Repositories.UserRepository.save]
    split
    · split <;> exact .refl _ _
    · apply (differIn_place User.id { user with id := store.target user } store.rows).mono
      intro row same
      exact congrArg some same.symm
  | delete id findFails =>
    apply (differIn_filter (fun user : User => user.id != id) store.rows).mono
    intro row dropped
    have same : row.id = id := by simpa using dropped
    exact congrArg some same.symm

theorem Drops.coherent {call : UserCall} {state : Caching .redis (UserRepository database)}
    {ttl : Int} (drops : call.Drops digests state)
    (coherent : (userLookup digests codec).Coherent state) :
    (userLookup digests codec).Coherent
      { state with
        cache := (call.removals digests state.store).foldl (Wrapper.apply ttl state.now) state.cache
        store := call.inner state.store } := by
  apply coherent.write call.all_isRemoval_removals
  intro query
  cases call.differIn_inner.same_or_selected (UserRepository.isFound database query.1.filter) with
  | inl same => exact .inl same
  | inr written =>
    obtain ⟨user, target, stored, finds⟩ := written
    exact .inr (drops query.1 user target stored finds)

end UserCall

structure UsersServed (state : Caching .redis (UserRepository database)) : Prop where
  ordered : state.store.rows.Pairwise fun earlier later => earlier.id < later.id
  coherent : (userLookup digests codec).Coherent state

section

variable {digests sorted codec ttl} {state : Caching .redis (UserRepository database)}

theorem UsersServed.step (served : UsersServed digests codec state)
    (apart : Function.Injective digests.hashParams) (call : UserCall)
    (safe : call.Safe digests codec state) :
    UsersServed digests codec (userStep digests sorted codec ttl state call) := by
  have written := safe.drops served.ordered
  cases call with
  | wait seconds => exact ⟨served.ordered, served.coherent.later seconds⟩
  | find query pause =>
    simp only [userStep, findUsers]
    cases cached : query.field with
    | none => exact ⟨served.ordered, served.coherent.later pause⟩
    | some field =>
      exact ⟨served.ordered,
        served.coherent.read (userLookup_separates digests codec apart) (safe field cached)⟩
  | save user lastInsertID | delete id findFails =>
    exact ⟨UserCall.ordered_inner served.ordered _, written.coherent served.coherent⟩

end

def userCodec : JsonCodec User :=
  .through (.pair .natural <| .pair .text <| .pair .text .text)
    (fun user => (user.id, user.login, user.email, user.password))
    (fun (id, login, email, password) => ⟨id, login, email, password⟩)
    (fun _ => rfl)

def sampleUser (login password : String) : User where
  id := 1
  login := login
  email := "alice@example.com"
  password := password

def onlyUser : Caching .redis (UserRepository .inMemory) where
  now := 0
  cache := Cache.empty
  store := ⟨[sampleUser "alice" "first"], 1⟩

def loginQuery (login : String) : UserQuery where
  filter := some (findUserByLogins [login])
  order := none
  pagination := none

def renamedUser : Caching .redis (UserRepository .inMemory) :=
  run (userStep tellingDigests (fun _ => .kept) userCodec.list 300) onlyUser
    [.find (loginQuery "alice") 0, .save (sampleUser "bob" "first") 0]

theorem replaced_login_still_found :
    (findUsers tellingDigests (fun _ => .kept) userCodec.list 300 renamedUser
        (loginQuery "alice") 0).2 = some [sampleUser "alice" "first"] ∧
      renamedUser.store.rows = [sampleUser "bob" "first"] ∧
      (loginQuery "alice").rows (fun _ => .kept) renamedUser.store = [] := by
  decide +kernel

section

variable {digests sorted codec ttl} {state : Caching .redis (UserRepository database)}

/-- After safe calls `Find` returns what the repository underneath would, unless
what it stores expires before it is read back. -/
theorem find_returns_stored_users (apart : Function.Injective digests.hashParams)
    (ordered : state.store.rows.Pairwise fun earlier later => earlier.id < later.id)
    (start : ∀ field : UserField, state.cache.get state.now (field.key digests) = none)
    {calls : List UserCall} {reached : Caching .redis (UserRepository database)}
    (reaches : run (userStep digests sorted codec ttl) state calls = reached)
    (safe : Along (userStep digests sorted codec ttl) (UserCall.Safe digests codec) state calls)
    (query : UserQuery) (pause : Nat)
    (asked : UserCall.Safe digests codec reached (.find query pause)) :
    (∀ users, (findUsers digests sorted codec ttl reached query pause).2 = some users →
        users = query.rows sorted reached.store) ∧
      ((∀ field, query.field = some field →
          (userLookup digests codec).Lasts ttl reached (field, query.pagination) pause) →
        (findUsers digests sorted codec ttl reached query pause).2 =
          some (query.rows sorted reached.store)) := by
  have separates : (userLookup digests codec : Lookup (UserRepository database) _ _).Separates
      .redis := userLookup_separates digests codec apart
  have served : UsersServed digests codec reached := by
    rw [← reaches]
    exact safe.invariant (fun _ call admitted served => served.step apart call admitted)
      ⟨ordered, Lookup.coherent_of_empty fun query => start query.1⟩
  cases cached : query.field with
  | none =>
    have direct : (findUsers digests sorted codec ttl reached query pause).2 =
        some (query.rows sorted reached.store) := by
      simp only [findUsers, cached]
    refine ⟨?_, fun _ => direct⟩
    intro users returned
    exact Option.some.inj (returned.symm.trans direct)
  | some field =>
    have through : (findUsers digests sorted codec ttl reached query pause).2 =
        ((userLookup digests codec).read ttl reached (field, query.pagination) pause).2 := by
      simp only [findUsers, cached]
    rw [through, UserQuery.rows_of_field sorted cached]
    constructor
    · intro users returned
      exact served.coherent.eq_of_read separates (asked field cached) returned
    · intro lasts
      exact served.coherent.read_eq separates (asked field cached) (lasts field rfl)

end

theorem find_returns_stored_users_password :
    (findUsers tellingDigests (fun _ => .kept) userCodec.list 300
        (run (userStep tellingDigests (fun _ => .kept) userCodec.list 300) onlyUser
          [.find (loginQuery "alice") 0, .save (sampleUser "alice" "second") 0])
        (loginQuery "alice") 0).2 = some [sampleUser "alice" "second"] := by
  refine (find_returns_stored_users tellingDigests_apart (pairwise_singleton _ _) (fun _ => rfl) rfl
    ?safe _ 0 ?asked).2 ?lasts
  case safe =>
    refine ⟨fun _ _ => rfl, ?_, trivial⟩
    intro _ field row _ stored found
    have only : row.id = 1 ∧ row.login = "alice" ∧ row.email = "alice@example.com" := by
      rcases stored with before | rfl
      · rw [mem_singleton.mp before]
        exact ⟨rfl, rfl, rfl⟩
      · exact ⟨rfl, rfl, rfl⟩
    obtain ⟨rowID, rowLogin, rowEmail⟩ := only
    left
    cases field with
    | id value =>
      have same : 1 = value := by simpa [UserField.finds, UserField.filter, findUserByIDs,
        UserRepository.isFound, rowID] using found
      exact ⟨same, by simp [← same]⟩
    | login value =>
      have same : "alice" = value := by simpa [UserField.finds, UserField.filter, findUserByLogins,
        UserRepository.isFound, rowLogin, UserDriver.same, UserDriver.fold] using found
      exact ⟨same, by simp [← same]⟩
    | email value =>
      have same : "alice@example.com" = value := by simpa [UserField.finds, UserField.filter,
        findUserByEmails, UserRepository.isFound, rowEmail, UserDriver.same,
        UserDriver.fold] using found
      exact ⟨same, by simp [← same]⟩
  case asked =>
    intro field _
    rfl
  case lasts =>
    intro field _
    exact Lookup.lasts_at_once _ _ _ _

end ShadowPanel.Repositories.Cached
