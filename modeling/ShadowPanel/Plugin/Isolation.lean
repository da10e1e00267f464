import ShadowPanel.Data.Unwinding
import ShadowPanel.Plugin.Stores

namespace ShadowPanel.Plugin

open ShadowPanel.Cache (Driver)
open Data Domain Filters Repositories
open ShadowPanel.Repositories.PluginStorageRepository (isFound overwrite newEntry hasAddress
  savedRows)

variable {driver : Driver}

/-! What one plugin notices of another one. -/

section

variable {pluginID other : Nat} {rows others : List PluginStorageEntry}

def unnumbered (row : PluginStorageEntry) : PluginStorageEntry := { row with id := 0 }

def own (pluginID : Nat) (rows : List PluginStorageEntry) : List PluginStorageEntry :=
  (rows.filter fun row => row.pluginID == pluginID).map unnumbered

@[simp] theorem own_append (rows others : List PluginStorageEntry) :
    own pluginID (rows ++ others) = own pluginID rows ++ own pluginID others := by
  simp [own]

private theorem filter_isFound (noIDs : filter.ids = []) (ofPlugin : filter.pluginIDs = [pluginID])
    (rows : List PluginStorageEntry) :
    (rows.filter (isFound filter)).map unnumbered =
      (own pluginID rows).filter (isFound filter) := by
  rw [own, List.filter_map, List.filter_filter]
  apply congrArg
  apply List.filter_congr
  intro row _
  by_cases owned : row.pluginID = pluginID
  · simp [isFound, noIDs, unnumbered, owned]
  · simp [isFound, ofPlugin, owned]

private theorem overwrite_unnumbered (now : Int) (address : StorageAddress) (payload : Payload)
    (row : PluginStorageEntry) :
    unnumbered (overwrite now address payload row) =
      overwrite now address payload (unnumbered row) := by
  unfold overwrite
  split
  next same => rw [if_pos (show (unnumbered row).toStorageAddress = address from same)]; rfl
  next different =>
    rw [if_neg (show ¬(unnumbered row).toStorageAddress = address from different)]

private theorem overwrite_of_ne (different : row.pluginID ≠ address.pluginID) :
    overwrite now address payload row = row := by
  rw [overwrite, if_neg]
  rintro rfl
  exact different rfl

theorem own_map_overwrite (now : Int) (address : StorageAddress) (payload : Payload)
    (rows : List PluginStorageEntry) :
    own pluginID (rows.map (overwrite now address payload)) =
      (own pluginID rows).map (overwrite now address payload) := by
  induction rows with
  | nil => rfl
  | cons row rest ih =>
    have same : (overwrite now address payload row).pluginID = row.pluginID :=
      congrArg StorageAddress.pluginID
        (PluginStorageRepository.address_overwrite now address payload row)
    simp only [own, List.map_cons, List.filter_cons, same] at ih ⊢
    split
    · rw [List.map_cons, List.map_cons, List.map_cons, ih, overwrite_unnumbered]
    · exact ih

private theorem hasAddress_own (mine : address.pluginID = pluginID) :
    hasAddress address (own pluginID rows) = hasAddress address rows := by
  rw [Bool.eq_iff_iff]
  simp only [hasAddress, List.any_eq_true, beq_iff_eq, own, List.mem_map, List.mem_filter]
  constructor
  · rintro ⟨_, ⟨row, ⟨member, _⟩, rfl⟩, same⟩
    exact ⟨row, member, same⟩
  · rintro ⟨row, member, same⟩
    have owned : row.pluginID = pluginID := by
      rw [← mine, ← same]
    exact ⟨unnumbered row, ⟨row, ⟨member, owned⟩, rfl⟩, same⟩

private theorem own_savedRows (now : Int) (id : Nat) (payload : Payload)
    (mine : address.pluginID = pluginID) (rows : List PluginStorageEntry) :
    own pluginID (savedRows now id address payload rows) =
      savedRows now 0 address payload (own pluginID rows) := by
  unfold savedRows
  rw [hasAddress_own mine]
  split
  · exact own_map_overwrite now address payload rows
  · rw [own_append]
    apply congrArg
    simp [own, newEntry, mine, unnumbered]

theorem own_savedRows_other (now : Int) (id : Nat) (payload : Payload)
    (different : address.pluginID ≠ pluginID) (rows : List PluginStorageEntry) :
    own pluginID (savedRows now id address payload rows) = own pluginID rows := by
  unfold savedRows
  split
  · rw [own_map_overwrite]
    rw [← List.map_id (own pluginID rows), List.map_map]
    apply List.map_congr_left
    intro row member
    obtain ⟨stored, selected, rfl⟩ := List.mem_map.mp member
    have owned : stored.pluginID = pluginID := by
      simpa using (List.mem_filter.mp selected).2
    apply overwrite_of_ne
    intro same
    exact different (same.symm.trans owned)
  · simp [own, newEntry, different]

private theorem own_delete (noIDs : filter.ids = []) (rows : List PluginStorageEntry) :
    own pluginID (rows.filter fun row => !isFound filter row) =
      (own pluginID rows).filter fun row => !isFound filter row := by
  have same : ∀ row, isFound filter (unnumbered row) = isFound filter row := by
    intro row
    simp [isFound, noIDs, unnumbered]
  rw [own, own, List.filter_map, List.filter_filter, List.filter_filter]
  apply congrArg
  apply List.filter_congr
  intro row _
  simp only [Function.comp_apply, same, Bool.and_comm]

private theorem own_delete_other (ofOther : filter.pluginIDs = [other])
    (different : other ≠ pluginID) (rows : List PluginStorageEntry) :
    own pluginID (rows.filter fun row => !isFound filter row) = own pluginID rows := by
  rw [own, List.filter_filter]
  apply congrArg
  apply List.filter_congr
  intro row _
  by_cases owned : row.pluginID = pluginID
  · simp [isFound, ofOther, owned, different.symm]
  · simp [owned]

end

section

variable {one other : Cache driver} {now : Int} {key read : String}

private theorem item_set_congr (same : one.item read = other.item read) :
    (one.set now key value expiration).item read =
      (other.set now key value expiration).item read := by
  by_cases equal : driver.slot key = driver.slot read
  · rw [← Cache.item_of_slot_eq equal, ← Cache.item_of_slot_eq equal, Cache.item_set_self,
      Cache.item_set_self]
  · rw [Cache.item_set_of_ne equal, Cache.item_set_of_ne equal, same]

private theorem item_delete_congr (same : one.item read = other.item read) :
    (one.delete key).item read = (other.delete key).item read := by
  by_cases equal : driver.slot key = driver.slot read
  · rw [Cache.item_delete_self equal, Cache.item_delete_self equal]
  · rw [Cache.item_delete_of_ne equal, Cache.item_delete_of_ne equal, same]

@[simp] theorem afterGet_inMemory (cache : Cache .inMemory) : cache.afterGet now key = cache := by
  unfold Cache.afterGet
  split
  · rfl
  · simp [Driver.dropsExpired]

theorem slot_prefixedKey_ne (different : key ≠ read) :
    Driver.inMemory.slot (prefixedKey key) ≠ Driver.inMemory.slot (prefixedKey read) := by
  intro same
  have texts := Cache.Driver.slot_inj.mp same
  simp only [Driver.fold, List.map_id_fun, prefixedKey, String.toList_append] at texts
  exact different (String.toList_inj.mp (List.append_cancel_left texts))

end

def HostRequest.writtenKey : HostRequest → Option String
  | .cacheSet key _ _ | .cacheDelete key => some key
  | _ => none

def HostRequest.readKey : HostRequest → Option String
  | .cacheGet key => some key
  | _ => none

section

variable (p q : Nat) (mayWrite mayRead : String → Prop)

structure KeysWithin (call : HostCall) : Prop where
  written : call.pluginID = p → ∀ key, call.request.writtenKey = some key → mayWrite key
  read : call.pluginID = q → ∀ key, call.request.readKey = some key → mayRead key

def isOf (pluginID : Nat) (call : HostCall) : Bool := call.pluginID == pluginID

/-- Whatever the two and the other plugins call, over these keys of the cache, the results of
`q` are those it gets when `p` calls nothing. -/
def HostIsolated (driver : Driver) : Prop :=
  ∀ (state : HostState driver) (calls : List HostCall),
    (∀ call ∈ calls, KeysWithin p q mayWrite mayRead call) →
      observations hostStep (isOf q) calls state =
        observations hostStep (isOf q) (calls.filter fun call => !isOf p call) state

structure Alike (one other : HostState driver) : Prop where
  storage : own q one.storage.rows = own q other.storage.rows
  cache : driver = .inMemory → ∀ key, mayRead key →
    one.cache.item (prefixedKey key) = other.cache.item (prefixedKey key)

variable {p q} {mayWrite mayRead} {one other : HostState driver} {call : HostCall}

theorem hostStep_of_fault (fault : call.fault = some error) (state : HostState driver) :
    hostStep call state = (state, refuse error call.request) := by
  rw [hostStep, fault]

theorem hostStep_of_none (fault : call.fault = none) (state : HostState driver) :
    hostStep call state = serve call.pluginID call.now state call.request := by
  rw [hostStep, fault]

private theorem alike_of_hidden (different : p ≠ q)
    (disjoint : driver = .inMemory → ∀ key, mayWrite key → ¬mayRead key)
    (within : KeysWithin p q mayWrite mayRead call) (hidden : isOf p call = true)
    (alike : Alike q mayRead one other) : Alike q mayRead (hostStep call one).1 other := by
  have byP : call.pluginID = p := by simpa [isOf] using hidden
  cases fault : call.fault with
  | some error =>
    rw [hostStep_of_fault fault]
    exact alike
  | none =>
    rw [hostStep_of_none fault, byP]
    cases requested : call.request with
    | cacheGet key =>
      refine ⟨alike.storage, ?_⟩
      rintro rfl read reads
      change (one.cache.afterGet _ _).item _ = _
      simpa using alike.cache rfl read reads
    | cacheSet key value ttlSeconds =>
      refine ⟨alike.storage, ?_⟩
      rintro rfl read reads
      have writes := within.written byP key (by rw [requested]; rfl)
      have apart : key ≠ read := fun same => disjoint rfl key writes (same ▸ reads)
      exact (Cache.item_set_of_ne (slot_prefixedKey_ne apart)).trans (alike.cache rfl read reads)
    | cacheDelete key =>
      refine ⟨alike.storage, ?_⟩
      rintro rfl read reads
      have writes := within.written byP key (by rw [requested]; rfl)
      have apart : key ≠ read := fun same => disjoint rfl key writes (same ▸ reads)
      exact (Cache.item_delete_of_ne (slot_prefixedKey_ne apart)).trans (alike.cache rfl read reads)
    | storageGet key entityType entityID | storageList keyStart entityType entityID => exact alike
    | storageSet key entityType entityID payload =>
      exact ⟨(own_savedRows_other _ _ _ different _).trans alike.storage, alike.cache⟩
    | storageDelete key entityType entityID =>
      exact ⟨(own_delete_other rfl different _).trans alike.storage, alike.cache⟩

private theorem alike_of_both (alike : Alike q mayRead one other) :
    Alike q mayRead (hostStep call one).1 (hostStep call other).1 := by
  cases fault : call.fault with
  | some error =>
    rw [hostStep_of_fault fault, hostStep_of_fault fault]
    exact alike
  | none =>
    rw [hostStep_of_none fault, hostStep_of_none fault]
    cases call.request with
    | cacheGet key =>
      refine ⟨alike.storage, ?_⟩
      rintro rfl read reads
      change (one.cache.afterGet _ _).item _ = (other.cache.afterGet _ _).item _
      simpa using alike.cache rfl read reads
    | cacheSet key value ttlSeconds =>
      exact ⟨alike.storage, fun inMemory read reads =>
        item_set_congr (alike.cache inMemory read reads)⟩
    | cacheDelete key =>
      exact ⟨alike.storage, fun inMemory read reads =>
        item_delete_congr (alike.cache inMemory read reads)⟩
    | storageGet key entityType entityID | storageList keyStart entityType entityID => exact alike
    | storageSet key entityType entityID payload =>
      refine ⟨?_, alike.cache⟩
      by_cases mine : call.pluginID = q
      · exact (own_savedRows _ _ _ mine _).trans
          ((congrArg _ alike.storage).trans (own_savedRows _ _ _ mine _).symm)
      · exact (own_savedRows_other _ _ _ mine _).trans
          (alike.storage.trans (own_savedRows_other _ _ _ mine _).symm)
    | storageDelete key entityType entityID =>
      refine ⟨?_, alike.cache⟩
      exact (own_delete rfl _).trans ((congrArg _ alike.storage).trans (own_delete rfl _).symm)

private theorem find_alike (alike : Alike q mayRead one other) (noIDs : filter.ids = [])
    (ofPlugin : filter.pluginIDs = [q]) :
    (one.storage.rows.filter (isFound filter)).map unnumbered =
      (other.storage.rows.filter (isFound filter)).map unnumbered := by
  rw [filter_isFound noIDs ofPlugin, filter_isFound noIDs ofPlugin, alike.storage]

private theorem cacheGet_of_ne (written : driver ≠ .inMemory) (state : HostState driver) (now : Int)
    (key : String) : cacheGet state now key = none := by
  unfold cacheGet
  cases state.cache.get now (prefixedKey key) with
  | none => rfl
  | some value =>
    cases driver with
    | inMemory => exact absurd rfl written
    | _ => rfl

private theorem cacheGet_alike (alike : Alike q mayRead one other) (reads : mayRead key)
    (now : Int) :
    cacheGet one now key = cacheGet other now key := by
  by_cases inMemory : driver = .inMemory
  · unfold cacheGet
    rw [Cache.get_congr (alike.cache inMemory key reads)]
  · rw [cacheGet_of_ne inMemory, cacheGet_of_ne inMemory]

private theorem first_payload (rows : List PluginStorageEntry) :
    (applyPagination (some ⟨1, 0⟩) rows).head?.map PluginStorageEntry.payload =
      (rows.map unnumbered).head?.map PluginStorageEntry.payload := by
  cases rows <;> rfl

private theorem listed_entries (select : String → Bool) (rows : List PluginStorageEntry) :
    (rows.filter fun row => select row.key).map storageEntry =
      ((rows.map unnumbered).filter fun row => select row.key).map storageEntry := by
  rw [List.filter_map, List.map_map]
  rfl

private theorem response_alike (within : KeysWithin p q mayWrite mayRead call)
    (observed : isOf q call = true) (alike : Alike q mayRead one other) :
    (hostStep call one).2 = (hostStep call other).2 := by
  have byQ : call.pluginID = q := by simpa [isOf] using observed
  cases fault : call.fault with
  | some error => rw [hostStep_of_fault fault, hostStep_of_fault fault]
  | none =>
    rw [hostStep_of_none fault, hostStep_of_none fault, byQ]
    cases requested : call.request with
    | cacheGet key =>
      have reads := within.read byQ key (by rw [requested]; rfl)
      exact congrArg HostResponse.got (cacheGet_alike alike reads call.now)
    | storageGet key entityType entityID =>
      apply congrArg HostResponse.got
      rw [PluginStorageRepository.find, PluginStorageRepository.find, first_payload,
        first_payload, find_alike alike rfl rfl]
    | storageList keyStart entityType entityID =>
      let begins := fun key : String => keyStart.all fun start =>
        start.toList.isPrefixOf key.toList
      apply congrArg HostResponse.listed
      rw [PluginStorageRepository.find, PluginStorageRepository.find, applyPagination,
        applyPagination]
      refine (listed_entries begins _).trans (Eq.trans ?_ (listed_entries begins _).symm)
      rw [find_alike alike rfl rfl]
    | _ => rfl

private theorem unwinding_hostStep (different : p ≠ q)
    (disjoint : driver = .inMemory → ∀ key, mayWrite key → ¬mayRead key) :
    Unwinding (hostStep : HostCall → HostState driver → _) (KeysWithin p q mayWrite mayRead)
      (isOf p) (isOf q)
      (Alike q mayRead) where
  hides := fun _ _ _ within hidden alike => alike_of_hidden different disjoint within hidden alike
  follows := fun _ _ _ _ _ alike => alike_of_both alike
  shows := fun _ _ _ within observed alike => response_alike within observed alike

end

def writeThenRead (p q : Nat) (key : String) : List HostCall :=
  [⟨p, 0, none, .cacheSet key [] 0⟩, ⟨q, 0, none, .cacheGet key⟩]

def emptyHost : HostState .inMemory where
  cache := .empty
  storage := .empty

theorem observations_writeThenRead (different : p ≠ q) (key : String) :
    observations hostStep (isOf q) (writeThenRead p q key) emptyHost = [.got (some [])] := by
  have seen : (emptyHost.cache.set 0 (prefixedKey key) (.string []) 0).get 0 (prefixedKey key) =
      some (.string []) := Cache.get_set_now
  have notQ : isOf q ⟨p, 0, none, .cacheSet key [] 0⟩ = false := by simpa [isOf] using different
  have byQ : isOf q ⟨q, 0, none, .cacheGet key⟩ = true := by simp [isOf]
  simp only [writeThenRead, observations, notQ, byQ, hostStep, serve, cacheGet, seen]
  rfl

theorem observations_read (different : p ≠ q) (key : String) :
    observations hostStep (isOf q)
      ((writeThenRead p q key).filter fun call => !isOf p call) emptyHost = [.got none] := by
  have byP : isOf p ⟨p, 0, none, .cacheSet key [] 0⟩ = true := by simp [isOf]
  have notP : isOf p ⟨q, 0, none, .cacheGet key⟩ = false := by simpa [isOf] using different.symm
  have byQ : isOf q ⟨q, 0, none, .cacheGet key⟩ = true := by simp [isOf]
  have kept : (writeThenRead p q key).filter (fun call => !isOf p call) =
      [⟨q, 0, none, .cacheGet key⟩] := by
    simp [writeThenRead, byP, notP]
  simp only [kept, observations, byQ]
  rfl

private theorem keysWithin_writeThenRead (different : p ≠ q) (writes : mayWrite key)
    (reads : mayRead key) :
    ∀ call ∈ writeThenRead p q key, KeysWithin p q mayWrite mayRead call := by
  refine List.forall_mem_cons.mpr ⟨⟨?_, ?_⟩, List.forall_mem_singleton.mpr ⟨?_, ?_⟩⟩
  · intro _ written same
    cases same
    exact writes
  · intro byQ
    exact absurd byQ different
  · intro byP
    exact absurd byP different.symm
  · intro _ read same
    cases same
    exact reads

theorem hostIsolated_iff_disjoint (driver : Driver) (p q : Nat) (mayWrite mayRead : String → Prop)
    (different : p ≠ q) :
    HostIsolated p q mayWrite mayRead driver ↔
      (driver = .inMemory → ∀ key, mayWrite key → ¬mayRead key) := by
  constructor
  · intro isolated inMemory key writes reads
    subst inMemory
    have same := isolated emptyHost _ (keysWithin_writeThenRead different writes reads)
    rw [observations_writeThenRead different, observations_read different] at same
    cases same
  · intro disjoint state calls within
    have apart : ∀ call, isOf q call = true → isOf p call = false := by
      intro call byQ
      simp only [isOf, beq_iff_eq, beq_eq_false_iff_ne] at byQ ⊢
      rw [byQ]
      exact different.symm
    exact (unwinding_hostStep different disjoint).observations_eq apart calls within
      ⟨rfl, fun _ _ _ => rfl⟩

theorem hostIsolated_sessions_tokens :
    HostIsolated 1 2 (· = "session") (· = "token") .inMemory := by
  refine (hostIsolated_iff_disjoint .inMemory 1 2 _ _ (by decide)).mpr ?_
  intro _ key writes reads
  exact absurd (writes.symm.trans reads) (by decide)

theorem token_of_plugin_read_by_another :
    observations hostStep (isOf 2) (writeThenRead 1 2 "token") emptyHost = [.got (some [])] ∧
      observations hostStep (isOf 2)
        ((writeThenRead 1 2 "token").filter fun call => !isOf 1 call) emptyHost = [.got none] :=
  ⟨observations_writeThenRead (by decide) _, observations_read (by decide) _⟩

end ShadowPanel.Plugin
