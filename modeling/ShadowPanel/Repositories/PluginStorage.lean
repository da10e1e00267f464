import ShadowPanel.Filters

namespace ShadowPanel.Repositories

open Filters List

/-! The storage of plugins, as in `internal/repositories/inmemory/plugin_storage.go`. -/

/-- Bytes, kept as the base64 text that JSON writes them with. -/
abbrev Payload := List Char

structure StorageAddress where
  pluginID : Nat
  key : String
  entityType : Option String
  entityID : Option Nat
  deriving DecidableEq

structure PluginStorageEntry extends StorageAddress where
  id : Nat
  payload : Payload
  createdAt : Option Int
  updatedAt : Option Int

/-- The key of the index by entity, in which a missing type or identifier is the zero value. -/
def entityKey (entityType : Option String) (entityID : Option Nat) : String × Nat :=
  (entityType.getD "", entityID.getD 0)

structure FindPluginStorage where
  ids : List Nat
  pluginIDs : List Nat
  keys : List String
  entityPairs : List (Option String × Option Nat)

/-- The rows are kept in the order of their identifiers, which is the order in which `Find`
returns them. -/
structure PluginStorageRepository where
  rows : List PluginStorageEntry
  nextID : Nat
  ordered : rows.Pairwise fun earlier later => earlier.id < later.id
  given : ∀ row ∈ rows, row.id ≤ nextID
  distinct : (rows.map PluginStorageEntry.toStorageAddress).Nodup

namespace PluginStorageRepository

def empty : PluginStorageRepository where
  rows := []
  nextID := 0
  ordered := .nil
  given := fun _ member => absurd member not_mem_nil
  distinct := .nil

variable (store : PluginStorageRepository)

def isFound (filter : FindPluginStorage) (row : PluginStorageEntry) : Bool :=
  (filter.ids.isEmpty || filter.ids.contains row.id) &&
    (filter.pluginIDs.isEmpty || filter.pluginIDs.contains row.pluginID) &&
    (filter.keys.isEmpty || filter.keys.contains row.key) &&
    (filter.entityPairs.isEmpty || filter.entityPairs.any fun pair =>
      entityKey row.entityType row.entityID == entityKey pair.1 pair.2)

def find (filter : FindPluginStorage) (pagination : Option Pagination) : List PluginStorageEntry :=
  applyPagination pagination (store.rows.filter (isFound filter))

def overwrite (now : Int) (address : StorageAddress) (payload : Payload)
    (row : PluginStorageEntry) : PluginStorageEntry :=
  if row.toStorageAddress = address then { row with payload := payload, updatedAt := some now }
  else row

def newEntry (now : Int) (id : Nat) (address : StorageAddress) (payload : Payload) :
    PluginStorageEntry :=
  { address with id := id, payload := payload, createdAt := some now, updatedAt := some now }

def hasAddress (address : StorageAddress) (rows : List PluginStorageEntry) : Bool :=
  rows.any fun row => row.toStorageAddress == address

def savedRows (now : Int) (id : Nat) (address : StorageAddress) (payload : Payload)
    (rows : List PluginStorageEntry) : List PluginStorageEntry :=
  if hasAddress address rows then rows.map (overwrite now address payload)
  else rows ++ [newEntry now id address payload]

variable (now : Int)

@[simp]
theorem id_overwrite (address : StorageAddress) (payload : Payload) (row : PluginStorageEntry) :
    (overwrite now address payload row).id = row.id := by
  unfold overwrite
  split <;> rfl

theorem address_overwrite (now : Int) (address : StorageAddress) (payload : Payload)
    (row : PluginStorageEntry) :
    (overwrite now address payload row).toStorageAddress = row.toStorageAddress := by
  unfold overwrite
  split <;> rfl

variable {store}

theorem ordered_savedRows (address : StorageAddress) (payload : Payload) :
    (savedRows now (store.nextID + 1) address payload store.rows).Pairwise
      fun earlier later => earlier.id < later.id := by
  unfold savedRows
  split
  · rw [pairwise_map]
    simpa using store.ordered
  · rw [pairwise_append]
    refine ⟨store.ordered, pairwise_singleton _ _, ?_⟩
    intro earlier member later new
    rw [mem_singleton.mp new]
    exact Nat.lt_succ_of_le (store.given earlier member)

theorem given_savedRows (address : StorageAddress) (payload : Payload) :
    ∀ row ∈ savedRows now (store.nextID + 1) address payload store.rows,
      row.id ≤ if hasAddress address store.rows then store.nextID else store.nextID + 1 := by
  intro row member
  unfold savedRows at member
  split at member
  next held =>
    obtain ⟨old, oldMember, rfl⟩ := mem_map.mp member
    simpa [held] using store.given old oldMember
  next fresh =>
    rw [if_neg fresh]
    cases mem_append.mp member with
    | inl old => exact Nat.le_succ_of_le (store.given row old)
    | inr new =>
      rw [mem_singleton.mp new]
      exact Nat.le_refl _

theorem distinct_savedRows (id : Nat) (address : StorageAddress) (payload : Payload) :
    ((savedRows now id address payload store.rows).map
      PluginStorageEntry.toStorageAddress).Nodup := by
  unfold savedRows
  split
  · rw [map_map]
    have same : PluginStorageEntry.toStorageAddress ∘ overwrite now address payload =
        PluginStorageEntry.toStorageAddress := funext (address_overwrite now address payload)
    rw [same]
    exact store.distinct
  next fresh =>
    rw [map_append, nodup_append]
    refine ⟨store.distinct, by simp, ?_⟩
    intro left leftMember right rightMember equal
    obtain ⟨row, rowMember, rfl⟩ := mem_map.mp leftMember
    have isNew : right = address := mem_singleton.mp rightMember
    apply fresh
    exact any_eq_true.mpr ⟨row, rowMember, by simpa using equal.trans isNew⟩

variable (store)

def save (now : Int) (address : StorageAddress) (payload : Payload) : PluginStorageRepository where
  rows := savedRows now (store.nextID + 1) address payload store.rows
  nextID := if hasAddress address store.rows then store.nextID else store.nextID + 1
  ordered := ordered_savedRows now address payload
  given := given_savedRows now address payload
  distinct := distinct_savedRows now (store.nextID + 1) address payload

def deleteByFilter (filter : FindPluginStorage) : PluginStorageRepository where
  rows := store.rows.filter fun row => !isFound filter row
  nextID := store.nextID
  ordered := store.ordered.sublist filter_sublist
  given := fun row member => store.given row (mem_filter.mp member).1
  distinct := store.distinct.sublist (filter_sublist.map _)

end PluginStorageRepository

end ShadowPanel.Repositories
