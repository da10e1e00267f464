import ShadowPanel.Cache.Drivers
import ShadowPanel.Repositories.PluginStorage

namespace ShadowPanel.Plugin

open ShadowPanel.Cache (Driver)
open Data Domain Filters Repositories

/-! The cache and the storage that plugins get, of `internal/plugin/hostlibrary/cache.go` and
`internal/plugin/hostlibrary/storage.go`. -/

/-- `gameap.EntityType`; a number that it does not know is taken as unspecified. -/
inductive ProtoEntityType where
  | unspecified
  | user
  | node
  | clientCertificate
  | game
  | gameMod
  | server
  | role
  deriving DecidableEq

def protoToEntityType : ProtoEntityType → EntityType
  | .unspecified => ""
  | .user => .user
  | .node => .node
  | .clientCertificate => .clientCertificate
  | .game => .game
  | .gameMod => .gameMod
  | .server => .server
  | .role => .role

def entityTypeFromProto (entityType : Option ProtoEntityType) : Option String :=
  match entityType with
  | none | some .unspecified => none
  | some entityType => some (protoToEntityType entityType)

def entityTypeToProtoPtr (entityType : Option String) : Option ProtoEntityType :=
  entityType.bind fun entityType =>
    [.unspecified, .user, .node, .clientCertificate, .game, .gameMod, .server, .role].find?
      fun proto => protoToEntityType proto == entityType

inductive HostRequest where
  | cacheGet (key : String)
  | cacheSet (key : String) (value : Payload) (ttlSeconds : Int)
  | cacheDelete (key : String)
  | storageGet (key : String) (entityType : Option ProtoEntityType) (entityID : Option Nat)
  | storageSet (key : String) (entityType : Option ProtoEntityType) (entityID : Option Nat)
      (payload : Payload)
  | storageDelete (key : String) (entityType : Option ProtoEntityType) (entityID : Option Nat)
  | storageList (keyStart : Option String) (entityType : Option ProtoEntityType)
      (entityID : Option Nat)

structure StorageEntry where
  key : String
  entityType : Option ProtoEntityType
  entityID : Option Nat
  payload : Payload
  deriving DecidableEq

inductive HostResponse where
  | got (found : Option Payload)
  | set (error : Option String)
  | deleted (success : Bool)
  | listed (entries : List StorageEntry)
  | failed (error : String)
  deriving DecidableEq

structure HostState (driver : Driver) where
  cache : Cache driver
  storage : PluginStorageRepository

/-- One call of a plugin, at its time; `fault` is the error that the cache or the repository
answers with. -/
structure HostCall where
  pluginID : Nat
  now : Int
  fault : Option String
  request : HostRequest

def keyPrefix : String := "plugin:"

def prefixedKey (key : String) : String := keyPrefix ++ key

/-- The type assertion of `Get`: the drivers that write JSON give a text back, and only the
one in memory gives the bytes. -/
def cachedBytes : Driver → Json → Option Payload
  | .inMemory, .string text => some text
  | _, _ => none

def cacheGet (state : HostState driver) (now : Int) (key : String) : Option Payload :=
  (state.cache.get now (prefixedKey key)).bind (cachedBytes driver)

def entryFilter (pluginID : Nat) (key : String) (entityType : Option ProtoEntityType)
    (entityID : Option Nat) : FindPluginStorage where
  ids := []
  pluginIDs := [pluginID]
  keys := [key]
  entityPairs := [(entityTypeFromProto entityType, entityID)]

def listFilter (pluginID : Nat) (entityType : Option ProtoEntityType) (entityID : Option Nat) :
    FindPluginStorage where
  ids := []
  pluginIDs := [pluginID]
  keys := []
  entityPairs :=
    if entityType.isSome || entityID.isSome then [(entityTypeFromProto entityType, entityID)]
    else []

def storageEntry (entry : PluginStorageEntry) : StorageEntry where
  key := entry.key
  entityType := entityTypeToProtoPtr entry.entityType
  entityID := entry.entityID
  payload := entry.payload

def serve (pluginID : Nat) (now : Int) (state : HostState driver) :
    HostRequest → HostState driver × HostResponse
  | .cacheGet key =>
    ({ state with cache := state.cache.afterGet now (prefixedKey key) },
      .got (cacheGet state now key))
  | .cacheSet key value ttlSeconds =>
    ({ state with cache := state.cache.set now (prefixedKey key) (.string value) ttlSeconds },
      .set none)
  | .cacheDelete key =>
    ({ state with cache := state.cache.delete (prefixedKey key) }, .deleted true)
  | .storageGet key entityType entityID =>
    (state, .got ((state.storage.find (entryFilter pluginID key entityType entityID)
      (some ⟨1, 0⟩)).head?.map PluginStorageEntry.payload))
  | .storageSet key entityType entityID payload =>
    ({ state with
      storage := state.storage.save now
        ⟨pluginID, key, entityTypeFromProto entityType, entityID⟩ payload }, .set none)
  | .storageDelete key entityType entityID =>
    ({ state with
      storage := state.storage.deleteByFilter (entryFilter pluginID key entityType entityID) },
      .deleted true)
  | .storageList keyStart entityType entityID =>
    (state, .listed (((state.storage.find (listFilter pluginID entityType entityID) none).filter
      fun entry => keyStart.all fun start => start.toList.isPrefixOf entry.key.toList).map
        storageEntry))

def refuse (error : String) : HostRequest → HostResponse
  | .cacheSet _ _ _ | .storageSet _ _ _ _ => .set (some error)
  | .cacheDelete _ => .deleted false
  | _ => .failed error

def hostStep (call : HostCall) (state : HostState driver) : HostState driver × HostResponse :=
  match call.fault with
  | some error => (state, refuse error call.request)
  | none => serve call.pluginID call.now state call.request

end ShadowPanel.Plugin
