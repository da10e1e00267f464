import ShadowPanel.Data.Texts
import ShadowPanel.Repositories.Cached.Rbac
import ShadowPanel.Repositories.Cached.Wrapper

namespace ShadowPanel.Repositories.Cached

open Data Domain Filters

variable (digests : Digests)

/-! What each call of the cached repositories does to the cache when the
repository underneath answers as given: the operations, in their order, up to
the first that fails. -/

def readThrough (key : String) (loaded : Option Json) : List Operation :=
  [.getOrSet key loaded, .getTyped key]

def isPaginated (pagination : Option Pagination) : Bool :=
  pagination.any fun pagination => 1 < pagination.limit || 0 < pagination.offset

def invalidateText (key : String → String) (text : String) : List Operation :=
  if text ≠ "" then [.invalidate (key text)] else []

namespace UserRepository

def key (operation : String) (params : List Param) : String :=
  buildKey digests "user" operation params

structure Identity where
  id : Nat
  login : String
  email : String

def find (filter : Option FindUser) (order : Option (List Sorting)) (pagination : Option Pagination)
    (loaded : Option Json) : List Operation :=
  match filter with
  | none => []
  | some filter =>
    if order.isSome || isPaginated pagination || filter.filterCount != 1 then []
    else
      match filter.ids, filter.logins, filter.emails with
      | [id], _, _ => readThrough (key digests "id" [.uint id]) loaded
      | _, [login], _ => readThrough (key digests "login" [.text login]) loaded
      | _, _, [email] => readThrough (key digests "email" [.text email]) loaded
      | _, _, _ => []

def invalidateIdentity (user : Identity) : List Operation :=
  (if user.id ≠ 0 then [.invalidate (key digests "id" [.uint user.id])] else []) ++
    invalidateText (fun login => key digests "login" [.text login]) user.login ++
    invalidateText (fun email => key digests "email" [.text email]) user.email

def save (user : Identity) (saved : Bool) : List Operation :=
  if saved then
    invalidateIdentity digests user ++ [.invalidatePattern "user:find*"]
  else []

def invalidateUserCache (found : Option (List Identity)) : List Operation :=
  match found with
  | some (user :: _) => invalidateIdentity digests user
  | _ => []

def delete (id : Nat) (found : Option (List Identity)) (deleted : Bool) : List Operation :=
  if deleted then
    [.invalidate (key digests "id" [.uint id])] ++ invalidateUserCache digests found ++
      [.invalidatePattern "user:find*"]
  else []

end UserRepository

namespace PersonalAccessTokenRepository

def key (operation : String) (params : List Param) : String :=
  buildKey digests "pat" operation params

def tokenKey (token : String) : String := key digests "token" [.text (digests.sha256 token)]

def find (filter : Option FindPersonalAccessToken) (order : List Sorting)
    (pagination : Option Pagination) (loaded : Option Json) : List Operation :=
  match filter with
  | none => []
  | some filter =>
    if 0 < order.length || isPaginated pagination || 1 < filter.filterCount then []
    else
      match filter.ids, filter.tokens with
      | [id], _ => readThrough (key digests "id" [.uint id]) loaded
      | _, [token] => readThrough (tokenKey digests token) loaded
      | _, _ => []

def save (token : String) (saved : Bool) : List Operation :=
  if saved then
    invalidateText (tokenKey digests) token ++
      [.invalidatePattern "pat:id:*", .invalidatePattern "pat:find:*"]
  else []

def delete (id : Nat) (found : Option (List String)) (deleted : Bool) : List Operation :=
  if deleted then
    (match found with
      | some (token :: _) => invalidateText (tokenKey digests) token
      | _ => []) ++
      [.invalidate (key digests "id" [.uint id]), .invalidatePattern "pat:find:*"]
  else []

def updateLastUsedAt (id : Nat) (change : Json → Option Json) (updated : Bool) : List Operation :=
  if updated then [.update (key digests "id" [.uint id]) change] else []

end PersonalAccessTokenRepository

namespace NodeRepository

def key (operation : String) (params : List Param) : String :=
  buildKey digests "node" operation params

structure Credentials where
  gdaemonAPIKey : String
  gdaemonAPIToken : Option String

def findAll (order : Option (List Sorting)) (pagination : Option Pagination)
    (loaded : Option Json) : List Operation :=
  readThrough (key digests "findall" [.order order, .pagination pagination]) loaded

def find (filter : Option FindNode) (order : Option (List Sorting)) (pagination : Option Pagination)
    (loaded : Option Json) : List Operation :=
  match filter.bind FindNode.gDaemonAPIKey, filter.bind FindNode.gDaemonAPIToken with
  | some apiKey, _ => readThrough (key digests "apikey" [.text apiKey]) loaded
  | none, some apiToken => readThrough (key digests "apitoken" [.text apiToken]) loaded
  | none, none =>
    readThrough (key digests "find" [.findNode filter, .order order, .pagination pagination]) loaded

def invalidateCredentials (node : Credentials) : List Operation :=
  invalidateText (fun apiKey => key digests "apikey" [.text apiKey]) node.gdaemonAPIKey ++
    invalidateText (fun apiToken => key digests "apitoken" [.text apiToken])
      (node.gdaemonAPIToken.getD "")

def save (node : Credentials) (saved : Bool) : List Operation :=
  if saved then
    invalidateCredentials digests node ++ [.invalidatePattern "node:find*"]
  else []

def delete (found : Option (List Credentials)) (deleted : Bool) : List Operation :=
  if deleted then
    (match found with
      | some (node :: _) => invalidateCredentials digests node
      | _ => []) ++ [.invalidatePattern "node:find*"]
  else []

def updateGDaemonAPIToken (found : Option (List Credentials)) (hashedToken : String)
    (updated : Bool) : List Operation :=
  let oldToken :=
    match found with
    | some (node :: _) => node.gdaemonAPIToken.getD ""
    | _ => ""
  if updated then
    (if oldToken ≠ "" ∧ oldToken ≠ hashedToken then
      [.invalidate (key digests "apitoken" [.text oldToken])]
    else []) ++
      [.invalidate (key digests "apitoken" [.text hashedToken]), .invalidatePattern "node:find*"]
  else []

end NodeRepository

namespace GameRepository

def key (operation : String) (params : List Param) : String :=
  buildKey digests "games" operation params

def findAll (order : Option (List Sorting)) (pagination : Option Pagination)
    (loaded : Option Json) : List Operation :=
  readThrough (key digests "all" [.order order, .pagination pagination]) loaded

def find (codes : Option (List String)) (order : List Sorting) (pagination : Option Pagination)
    (loaded : Option Json) : List Operation :=
  match codes with
  | none => []
  | some codes =>
    if 0 < order.length || isPaginated pagination then []
    else if 0 < codes.length then
      readThrough (key digests "codes" [.texts codes]) loaded
    else []

def invalidateAllGameCache : List Operation := [.invalidatePattern "games:*"]

def write (written : Bool) : List Operation := if written then invalidateAllGameCache else []

end GameRepository

namespace GameModRepository

def key (operation : String) (params : List Param) : String :=
  buildKey digests "gamemods" operation params

def isSortedOtherwise : List Sorting → Bool
  | [sorting] => sorting.field != "name"
  | _ => false

def findAll (order : List Sorting) (pagination : Option Pagination) (loaded : Option Json) :
    List Operation :=
  if 1 < order.length || isSortedOtherwise order || isPaginated pagination then []
  else readThrough (key digests "all" [.order order, .pagination pagination]) loaded

def find (filter : Option FindGameMod) (order : List Sorting) (pagination : Option Pagination)
    (loaded : Option Json) : List Operation :=
  match filter with
  | none => []
  | some filter =>
    if 1 < filter.filterCount || isSortedOtherwise order || isPaginated pagination then []
    else if 0 < filter.gameCodes.length then
      readThrough
        (key digests "gamecodes" [.texts filter.gameCodes, .findGameMod filter,
          .order order, .pagination pagination]) loaded
    else []

def invalidateAllGameModCache : List Operation := [.invalidatePattern "gamemods:*"]

def write (written : Bool) : List Operation := if written then invalidateAllGameModCache else []

end GameModRepository

def RBACKey.text : RBACKey → String
  | .roles entityID entityType =>
    buildKey digests "rbac" "roles" [.text (entityType ++ "_" ++ toString entityID)]
  | .permissions entityID entityType =>
    buildKey digests "rbac" "permissions" [.text (entityType ++ "_" ++ toString entityID)]

namespace RBACRepository

def key (operation : String) (params : List Param) : String :=
  buildKey digests "rbac" operation params

def getRoles (loaded : Option Json) : List Operation :=
  readThrough (key digests "roles" [.text "all"]) loaded

def saveRole (saved : Bool) : List Operation :=
  if saved then
    [.invalidate (key digests "roles" [.text "all"]),
      .invalidatePattern (buildPattern "rbac" "role"),
      .invalidatePattern (buildPattern "rbac" "roles")]
  else []

def read (key : RBACKey) (loaded : Option Json) : List Operation :=
  readThrough (key.text digests) loaded

def write (call : RBACCall) (written : Bool) : List Operation :=
  if written then call.invalidated.map fun key => .invalidate (key.text digests) else []

end RBACRepository

inductive Repository where
  | user
  | personalAccessToken
  | node
  | game
  | gameMod
  | rbac

def Repository.keyPrefix : Repository → String
  | .user => "user"
  | .personalAccessToken => "pat"
  | .node => "node"
  | .game => "games"
  | .gameMod => "gamemods"
  | .rbac => "rbac"

inductive Call where
  | userFindAll
  | userFind (filter : Option FindUser) (order : Option (List Sorting))
      (pagination : Option Pagination) (loaded : Option Json)
  | userSave (user : UserRepository.Identity) (saved : Bool)
  | userDelete (id : Nat) (found : Option (List UserRepository.Identity)) (deleted : Bool)
  | tokenFind (filter : Option FindPersonalAccessToken)
      (order : List Sorting) (pagination : Option Pagination) (loaded : Option Json)
  | tokenSave (token : String) (saved : Bool)
  | tokenDelete (id : Nat) (found : Option (List String)) (deleted : Bool)
  | tokenUpdateLastUsedAt (id : Nat) (change : Json → Option Json) (updated : Bool)
  | nodeFindAll (order : Option (List Sorting)) (pagination : Option Pagination)
      (loaded : Option Json)
  | nodeFind (filter : Option FindNode) (order : Option (List Sorting))
      (pagination : Option Pagination) (loaded : Option Json)
  | nodeSave (node : NodeRepository.Credentials) (saved : Bool)
  | nodeDelete (found : Option (List NodeRepository.Credentials)) (deleted : Bool)
  | nodeUpdateGDaemonAPIToken (found : Option (List NodeRepository.Credentials))
      (hashedToken : String) (updated : Bool)
  | gameFindAll (order : Option (List Sorting)) (pagination : Option Pagination)
      (loaded : Option Json)
  | gameFind (codes : Option (List String)) (order : List Sorting)
      (pagination : Option Pagination) (loaded : Option Json)
  | gameWrite (written : Bool)
  | gameModFindAll (order : List Sorting) (pagination : Option Pagination)
      (loaded : Option Json)
  | gameModFind (filter : Option FindGameMod) (order : List Sorting)
      (pagination : Option Pagination) (loaded : Option Json)
  | gameModWrite (written : Bool)
  | rbacGetRoles (loaded : Option Json)
  | rbacSaveRole (saved : Bool)
  | rbacRead (key : RBACKey) (loaded : Option Json)
  | rbacWrite (call : RBACCall) (written : Bool)

namespace Call

def repository : Call → Repository
  | .userFindAll => .user
  | .userFind _ _ _ _ => .user
  | .userSave _ _ => .user
  | .userDelete _ _ _ => .user
  | .tokenFind _ _ _ _ => .personalAccessToken
  | .tokenSave _ _ => .personalAccessToken
  | .tokenDelete _ _ _ => .personalAccessToken
  | .tokenUpdateLastUsedAt _ _ _ => .personalAccessToken
  | .nodeFindAll _ _ _ => .node
  | .nodeFind _ _ _ _ => .node
  | .nodeSave _ _ => .node
  | .nodeDelete _ _ => .node
  | .nodeUpdateGDaemonAPIToken _ _ _ => .node
  | .gameFindAll _ _ _ => .game
  | .gameFind _ _ _ _ => .game
  | .gameWrite _ => .game
  | .gameModFindAll _ _ _ => .gameMod
  | .gameModFind _ _ _ _ => .gameMod
  | .gameModWrite _ => .gameMod
  | .rbacGetRoles _ => .rbac
  | .rbacSaveRole _ => .rbac
  | .rbacRead _ _ => .rbac
  | .rbacWrite _ _ => .rbac

def operations : Call → List Operation
  | .userFindAll => []
  | .userFind filter order pagination loaded =>
    UserRepository.find digests filter order pagination loaded
  | .userSave user saved => UserRepository.save digests user saved
  | .userDelete id found deleted => UserRepository.delete digests id found deleted
  | .tokenFind filter order pagination loaded =>
    PersonalAccessTokenRepository.find digests filter order pagination loaded
  | .tokenSave token saved => PersonalAccessTokenRepository.save digests token saved
  | .tokenDelete id found deleted =>
    PersonalAccessTokenRepository.delete digests id found deleted
  | .tokenUpdateLastUsedAt id change updated =>
    PersonalAccessTokenRepository.updateLastUsedAt digests id change updated
  | .nodeFindAll order pagination loaded =>
    NodeRepository.findAll digests order pagination loaded
  | .nodeFind filter order pagination loaded =>
    NodeRepository.find digests filter order pagination loaded
  | .nodeSave node saved => NodeRepository.save digests node saved
  | .nodeDelete found deleted => NodeRepository.delete digests found deleted
  | .nodeUpdateGDaemonAPIToken found hashedToken updated =>
    NodeRepository.updateGDaemonAPIToken digests found hashedToken updated
  | .gameFindAll order pagination loaded =>
    GameRepository.findAll digests order pagination loaded
  | .gameFind codes order pagination loaded =>
    GameRepository.find digests codes order pagination loaded
  | .gameWrite written => GameRepository.write written
  | .gameModFindAll order pagination loaded =>
    GameModRepository.findAll digests order pagination loaded
  | .gameModFind filter order pagination loaded =>
    GameModRepository.find digests filter order pagination loaded
  | .gameModWrite written => GameModRepository.write written
  | .rbacGetRoles loaded => RBACRepository.getRoles digests loaded
  | .rbacSaveRole saved => RBACRepository.saveRole digests saved
  | .rbacRead key loaded => RBACRepository.read digests key loaded
  | .rbacWrite call written => RBACRepository.write digests call written

end Call

end ShadowPanel.Repositories.Cached
