import ShadowPanel.Data.Runs
import ShadowPanel.Plugin.Isolation

namespace ShadowPanel.Plugin

open ShadowPanel.Cache (Driver)
open Data Repositories
open ShadowPanel.Repositories.PluginStorageRepository (isFound overwrite newEntry hasAddress
  savedRows address_overwrite)

/-! What the stores of plugins answer, beside what was last set in them. -/

section

abbrev Ledger := StorageAddress → Option Payload

def HostCall.address (call : HostCall) (key : String) (entityType : Option ProtoEntityType)
    (entityID : Option Nat) : StorageAddress :=
  ⟨call.pluginID, key, entityTypeFromProto entityType, entityID⟩

section

variable (ledger : Ledger)

def Ledger.note (call : HostCall) : Ledger :=
  match call.request with
  | .storageSet key entityType entityID payload =>
    Function.update ledger (call.address key entityType entityID) (some payload)
  | .storageDelete key entityType entityID =>
    Function.update ledger (call.address key entityType entityID) none
  | _ => ledger

def HostCall.step (state : HostState driver) (call : HostCall) : HostState driver :=
  (serve call.pluginID call.now state call.request).1

def lookup (rows : List PluginStorageEntry) (address : StorageAddress) : Option Payload :=
  (rows.find? fun row => row.toStorageAddress == address).map PluginStorageEntry.payload

def Records (state : HostState driver) : Prop :=
  ∀ address, lookup state.storage.rows address = ledger address

/-- The call leaves in the storage what the ledger has after it, and a `Get` answers what the
ledger has for exactly its key, type and identifier. -/
def Exact (state : HostState driver) (call : HostCall) : Prop :=
  Records (ledger.note call) (call.step state) ∧
    ∀ key entityType entityID, call.request = .storageGet key entityType entityID →
      (serve call.pluginID call.now state call.request).2 =
        .got (ledger (call.address key entityType entityID))

def SameIndex (one other : StorageAddress) : Prop :=
  one.pluginID = other.pluginID ∧ one.key = other.key ∧
    entityKey one.entityType one.entityID = entityKey other.entityType other.entityID

def Ledger.Alone (asked : StorageAddress) : Prop :=
  ∀ address, ledger address ≠ none → SameIndex address asked → address = asked

def Unconfused (call : HostCall) : Prop :=
  match call.request with
  | .storageGet key entityType entityID | .storageDelete key entityType entityID =>
    ledger.Alone (call.address key entityType entityID)
  | _ => True

end

theorem lookup_ne_none (member : row ∈ rows) :
    lookup rows row.toStorageAddress ≠ none := by
  rw [lookup, Ne, Option.map_eq_none_iff, List.find?_eq_none]
  intro missing
  exact missing row member (beq_self_eq_true _)

theorem lookup_savedRows (now : Int) (id : Nat) (payload : Payload) :
    lookup (savedRows now id asked payload rows) address =
      Function.update (lookup rows) asked (some payload) address := by
  unfold savedRows lookup
  split
  next held =>
    have kept : (fun row : PluginStorageEntry => row.toStorageAddress == address) ∘
        overwrite now asked payload = fun row => row.toStorageAddress == address :=
      funext fun row => congrArg (· == address) (address_overwrite now asked payload row)
    rw [List.find?_map, kept]
    cases found : rows.find? fun row => row.toStorageAddress == address with
    | none =>
      obtain ⟨row, member, same⟩ := List.any_eq_true.mp held
      have other : address ≠ asked := by
        rintro rfl
        exact List.find?_eq_none.mp found row member same
      simp [Function.update_of_ne other, found]
    | some row =>
      have own : row.toStorageAddress = address := by simpa using List.find?_some found
      by_cases same : address = asked
      · simp [same, overwrite, own]
      · simp [found, overwrite, own, same]
  next fresh =>
    by_cases same : address = asked
    · have missing : rows.find? (fun row => row.toStorageAddress == asked) = none := by
        rw [List.find?_eq_none]
        intro row member equal
        exact fresh (List.any_eq_true.mpr ⟨row, member, equal⟩)
      simp [same, missing, newEntry]
    · simp [Function.update_of_ne same, newEntry, Ne.symm same]

theorem isFound_entryFilter (call : HostCall) (row : PluginStorageEntry) :
    isFound (entryFilter call.pluginID key entityType entityID) row = true ↔
      SameIndex row.toStorageAddress (call.address key entityType entityID) := by
  simp [isFound, entryFilter, SameIndex, HostCall.address, and_assoc]

theorem isFound_eq (records : Records ledger state) {call : HostCall}
    (alone : ledger.Alone (call.address key entityType entityID)) :
    ∀ row ∈ state.storage.rows, isFound (entryFilter call.pluginID key entityType entityID) row =
      (row.toStorageAddress == call.address key entityType entityID) := by
  intro row member
  rw [Bool.eq_iff_iff, isFound_entryFilter, beq_iff_eq]
  constructor
  · apply alone
    rw [← records]
    exact lookup_ne_none member
  · intro same
    rw [same]
    exact ⟨rfl, rfl, rfl⟩

theorem lookup_delete {found : PluginStorageEntry → Bool}
    (exact : ∀ row ∈ rows, found row = (row.toStorageAddress == asked)) :
    lookup (rows.filter fun row => !found row) address =
      Function.update (lookup rows) asked none address := by
  have kept : rows.filter (fun row => !found row) =
      rows.filter fun row => !(row.toStorageAddress == asked) :=
    List.filter_congr fun row member => congrArg (!·) (exact row member)
  rw [kept, lookup, List.find?_filter]
  by_cases same : address = asked
  · simp [same]
  · rw [Function.update_of_ne same]
    congr 2
    funext row
    by_cases own : row.toStorageAddress = address
    · simp [own, same]
    · simp [own]

theorem exact_of_records (records : Records ledger state) (unconfused : Unconfused ledger call) :
    Exact ledger state call := by
  have table : lookup state.storage.rows = ledger := funext records
  unfold Exact HostCall.step Ledger.note
  cases asks : call.request with
  | storageSet key entityType entityID payload =>
    refine ⟨fun address => ?_, fun _ _ _ other => by cases other⟩
    rw [← table]
    exact lookup_savedRows ..
  | storageDelete key entityType entityID =>
    rw [Unconfused, asks] at unconfused
    refine ⟨fun address => ?_, fun _ _ _ other => by cases other⟩
    rw [← table]
    exact lookup_delete (isFound_eq records unconfused)
  | storageGet key entityType entityID =>
    rw [Unconfused, asks] at unconfused
    refine ⟨records, ?_⟩
    intro _ _ _ same
    cases same
    have found := List.filter_congr (isFound_eq records unconfused)
    rw [← records, lookup, ← List.head?_filter, ← found]
    simp [serve, PluginStorageRepository.find, Filters.applyPagination, List.head?_take]
  | _ => exact ⟨records, fun _ _ _ other => by cases other⟩

theorem run_records (records : Records ledger state)
    (along : Along Ledger.note Unconfused ledger calls) :
    Records (run Ledger.note ledger calls) (run HostCall.step state calls) := by
  induction calls generalizing ledger state with
  | nil => exact records
  | cons first rest ih => exact ih (exact_of_records records along.1).1 along.2

/-- The storage answers and deletes exactly as long as no plugin has an entry without an
identifier beside one with the identifier zero that it reads or deletes. -/
theorem storage_exact_of_unconfused (cache : Cache driver) (calls : List HostCall) (call : HostCall)
    (along : Along Ledger.note Unconfused (fun _ => none) (calls ++ [call])) :
    Exact (run Ledger.note (fun _ => none) calls) (run HostCall.step ⟨cache, .empty⟩ calls)
      call := by
  obtain ⟨earlier, last, _⟩ := along_append.mp along
  have initially : Records (fun _ => none) (HostState.mk cache .empty) := fun _ => rfl
  exact exact_of_records (run_records initially earlier) last

def setEntry (entityID : Option Nat) : HostCall :=
  ⟨1, 0, none, .storageSet "motd" (some .server) entityID ['a']⟩

def getEntry (entityID : Option Nat) : HostCall :=
  ⟨1, 0, none, .storageGet "motd" (some .server) entityID⟩

theorem storage_exact_of_unconfused_motd :
    Exact (run Ledger.note (fun _ => none) [setEntry (some 7)])
      (run HostCall.step ⟨(.empty : Cache .inMemory), .empty⟩ [setEntry (some 7)])
      (getEntry (some 7)) := by
  apply storage_exact_of_unconfused
  refine ⟨trivial, ?_, trivial⟩
  intro address stored _
  by_contra other
  exact stored (dif_neg other)

theorem zero_found_for_absent : ¬Exact (run Ledger.note (fun _ => none) [setEntry (some 0)])
    (run HostCall.step ⟨(.empty : Cache .inMemory), .empty⟩ [setEntry (some 0)])
    (getEntry none) := by
  intro exact
  have answer := exact.2 "motd" (some .server) none rfl
  revert answer
  decide

end

section

inductive CacheCall where
  | get (key : String)
  | set (key : String) (value : Payload) (ttlSeconds : Int)
  | delete (key : String)

def CacheCall.request : CacheCall → HostRequest
  | .get key => .cacheGet key
  | .set key value ttlSeconds => .cacheSet key value ttlSeconds
  | .delete key => .cacheDelete key

def cacheAnswers (pluginID : Nat) (state : HostState driver) :
    List (Int × CacheCall) → List HostResponse
  | [] => []
  | (now, call) :: rest =>
    let next := serve pluginID now state call.request
    next.2 :: cacheAnswers pluginID next.1 rest

abbrev Held := String → Option (Payload × Option Int)

def Held.after (held : Held) (now : Int) : CacheCall → Held
  | .get _ => held
  | .set key value ttlSeconds => Function.update held key
      (some (value, if 0 < ttlSeconds then some (now + ttlSeconds) else none))
  | .delete key => Function.update held key none

def Held.found (held : Held) (now : Int) (key : String) : Option Payload :=
  match held key with
  | none => none
  | some (value, none) => some value
  | some (value, some expiration) => if expiration < now then none else some value

/-- No `Get` asks for a key that is set and has not expired. -/
def NeverFound (held : Held) : List (Int × CacheCall) → Prop
  | [] => True
  | (now, call) :: rest =>
    (∀ key, call = .get key → held.found now key = none) ∧ NeverFound (held.after now call) rest

structure Holds (held : Held) (cache : Cache .inMemory) : Prop where
  item : ∀ key, cache.item (prefixedKey key) =
    (held key).map fun entry => ⟨.string entry.1, entry.2⟩

variable (holds : Holds held cache)
include holds

theorem Holds.get (now : Int) (key : String) :
    (cache.get now (prefixedKey key)).bind (cachedBytes .inMemory) = held.found now key := by
  rw [Cache.get, holds.item, Held.found]
  cases held key with
  | none => rfl
  | some entry =>
    obtain ⟨value, _ | expiration⟩ := entry
    · rfl
    · by_cases expired : expiration < now
      · simp [Cache.Item.isExpired, expired]
      · simp [Cache.Item.isExpired, expired, cachedBytes]

theorem Holds.after (pluginID : Nat) (storage : PluginStorageRepository) (now : Int)
    (call : CacheCall) :
    Holds (held.after now call) (serve pluginID now ⟨cache, storage⟩ call.request).1.cache := by
  refine ⟨fun key => ?_⟩
  cases call with
  | get asked => exact (congrArg (Cache.item · _) (afterGet_inMemory cache)).trans (holds.item key)
  | set asked value ttlSeconds =>
    by_cases same : asked = key
    · subst same
      exact Cache.item_set_self.trans (by simp [Held.after])
    · rw [Held.after, Function.update_of_ne (Ne.symm same), ← holds.item]
      exact Cache.item_set_of_ne (slot_prefixedKey_ne same)
  | delete asked =>
    by_cases same : asked = key
    · subst same
      exact (Cache.item_delete_self rfl).trans (by simp [Held.after])
    · rw [Held.after, Function.update_of_ne (Ne.symm same), ← holds.item]
      exact Cache.item_delete_of_ne (slot_prefixedKey_ne same)

theorem cacheAnswers_alike (pluginID : Nat) (storage other : PluginStorageRepository)
    (redis : Cache .redis) (calls : List (Int × CacheCall)) :
    cacheAnswers pluginID ⟨redis, other⟩ calls = cacheAnswers pluginID ⟨cache, storage⟩ calls ↔
      NeverFound held calls := by
  induction calls generalizing held cache storage redis other with
  | nil => exact iff_of_true rfl trivial
  | cons first rest ih =>
    obtain ⟨now, call⟩ := first
    rw [cacheAnswers, cacheAnswers, List.cons.injEq]
    refine and_congr ?_ (ih (holds.after pluginID storage now call) _ _ _)
    cases call with
    | get key =>
      change HostResponse.got ((redis.get now (prefixedKey key)).bind (cachedBytes .redis)) =
        .got ((cache.get now (prefixedKey key)).bind (cachedBytes .inMemory)) ↔ _
      have blind : (redis.get now (prefixedKey key)).bind (cachedBytes .redis) = none := by
        cases redis.get now (prefixedKey key) <;> rfl
      rw [blind, holds.get]
      simp [eq_comm]
    | set | delete => exact iff_of_true rfl nofun

omit holds in
/-- Over Redis the service answers as over the cache in memory exactly when no `Get` has a value
to find: what comes back from Redis is a text and not bytes, and counts as missing. -/
theorem redis_answers_iff_neverFound (pluginID : Nat) (calls : List (Int × CacheCall)) :
    cacheAnswers pluginID ⟨(.empty : Cache .redis), .empty⟩ calls =
        cacheAnswers pluginID ⟨(.empty : Cache .inMemory), .empty⟩ calls ↔
      NeverFound (fun _ => none) calls :=
  cacheAnswers_alike ⟨fun _ => rfl⟩ ..

omit holds in
theorem redis_loses_value :
    cacheAnswers 1 ⟨(.empty : Cache .redis), .empty⟩ [(0, .set "k" ['A'] 60), (0, .get "k")] ≠
      cacheAnswers 1 ⟨(.empty : Cache .inMemory), .empty⟩
        [(0, .set "k" ['A'] 60), (0, .get "k")] := by
  decide

end

end ShadowPanel.Plugin
