import ShadowPanel.Data.Keyed
import ShadowPanel.Domain.Servers
import ShadowPanel.Filters

namespace ShadowPanel.Repositories

open Data Domain Filters List

/-! The store of game servers, as in `internal/repositories/inmemory/servers.go`. -/

structure ServerRepository where
  rows : List Server
  nextID : Nat
  ordered : rows.Pairwise fun earlier later => earlier.id < later.id
  numbered : ∀ row ∈ rows, row.id ≠ 0

structure ServerStatusUpdate where
  id : Nat
  processActive : Bool
  lastProcessCheck : Int

namespace ServerRepository

def empty : ServerRepository where
  rows := []
  nextID := 0
  ordered := .nil
  numbered := by simp

variable (store : ServerRepository)

def get (id : Nat) : Option Server := store.rows.find? fun row => row.id == id

def isFound (filter : FindServer) (row : Server) : Bool :=
  (filter.ids.isEmpty || filter.ids.contains row.id) &&
    (filter.dsIDs.isEmpty || filter.dsIDs.contains row.dsID) &&
    (filter.withDeleted || row.deletedAt.isNone)

def find (filter : FindServer) (pagination : Option Pagination) : List Server :=
  applyPagination pagination (store.rows.filter (isFound filter))

def idFor (server : Server) : Nat := if server.id = 0 then store.nextID + 1 else server.id

def written (now : Int) (server : Server) : Server :=
  { server with
    id := store.idFor server
    createdAt := if server.id = 0 && server.createdAt.isNone then some now else server.createdAt
    updatedAt := some now }

variable {store}

theorem idFor_ne_zero (server : Server) : store.idFor server ≠ 0 := by
  unfold idFor
  split
  · exact Nat.succ_ne_zero _
  next given => exact given

variable (store)

def save (now : Int) (server : Server) : ServerRepository where
  rows := place Server.id (store.written now server) store.rows
  nextID := if server.id = 0 then store.nextID + 1 else store.nextID
  ordered := pairwise_place store.ordered
  numbered := forall_mem_place (idFor_ne_zero server) store.numbered

def saveRow (server : Server) : ServerRepository where
  rows := place Server.id { server with id := store.idFor server } store.rows
  nextID := if server.id = 0 then store.nextID + 1 else store.nextID
  ordered := pairwise_place store.ordered
  numbered := forall_mem_place (idFor_ne_zero server) store.numbered

def saveBulk (servers : List Server) : ServerRepository := servers.foldl saveRow store

/-- A report about a server of another node is passed over. -/
def checked (now : Int) (nodeID : Nat) (status : ServerStatusUpdate) (row : Server) : Server :=
  if row.id = status.id ∧ row.dsID = nodeID then
    { row with
      processActive := status.processActive
      lastProcessCheck := some status.lastProcessCheck
      updatedAt := some now }
  else row

@[simp] theorem id_checked (now : Int) (nodeID : Nat) (status : ServerStatusUpdate) (row : Server) :
    (checked now nodeID status row).id = row.id := by
  unfold checked
  split <;> rfl

def updateServerStatus (now : Int) (nodeID : Nat) (status : ServerStatusUpdate) :
    ServerRepository where
  rows := store.rows.map (checked now nodeID status)
  nextID := store.nextID
  ordered := pairwise_map (id_checked now nodeID status) store.ordered
  numbered := by
    refine forall_mem_map.mpr fun row member => ?_
    simpa using store.numbered row member

def updateServerStatuses (now : Int) (nodeID : Nat) (statuses : List ServerStatusUpdate) :
    ServerRepository :=
  statuses.foldl (fun store status => store.updateServerStatus now nodeID status) store

variable {store} {id : Nat} {now : Int} {server : Server}

theorem distinct : (store.rows.map Server.id).Nodup := nodup_of_ordered store.ordered

theorem mem_of_get (found : store.get id = some server) : server ∈ store.rows ∧ server.id = id :=
  ⟨mem_of_find?_eq_some found, by simpa using find?_some found⟩

theorem find_byIDs : store.find (findServerByIDs [id]) none =
    ((store.get id).filter fun row => row.deletedAt.isNone).toList := by
  have selected : store.rows.filter (isFound (findServerByIDs [id])) =
      ((store.get id).filter (isFound (findServerByIDs [id]))).toList := by
    refine filter_of_key distinct ?_
    intro row matched
    simp only [isFound, findServerByIDs, Bool.and_eq_true] at matched
    simpa using matched.1.1
  rw [find, applyPagination, selected]
  cases found : store.get id with
  | none => rfl
  | some row =>
    have same : row.id = id := (mem_of_get found).2
    simp [Option.filter, isFound, findServerByIDs, same]

theorem rows_saveRow (given : server.id ≠ 0) :
    (store.saveRow server).rows = place Server.id server store.rows := by
  have same : { server with id := store.idFor server } = server := by simp [idFor, given]
  change place Server.id { server with id := store.idFor server } store.rows = _
  rw [same]

theorem written_of_get (found : store.get id = some server) (status : ServerInstalledStatus) :
    store.written now { server with installed := status } =
      { server with installed := status, updatedAt := some now } := by
  have given : server.id ≠ 0 := store.numbered server (mem_of_get found).1
  simp [written, idFor, given]

theorem replaced_save (now : Int) (found : store.get id = some server)
    (status : ServerInstalledStatus) :
    Replaced server { server with installed := status, updatedAt := some now } store.rows
      (store.save now { server with installed := status }).rows := by
  rw [← written_of_get found]
  refine replaced_place _ store.ordered (mem_of_get found).1 ?_
  rw [written_of_get found]

theorem filterMap_updateServerStatuses
    (blind : ∀ status row, view (checked now nodeID status row) = view row)
    (statuses : List ServerStatusUpdate) :
    (store.updateServerStatuses now nodeID statuses).rows.filterMap view =
      store.rows.filterMap view := by
  induction statuses generalizing store with
  | nil => rfl
  | cons status rest ih =>
    have first : (store.updateServerStatus now nodeID status).rows.filterMap view =
        store.rows.filterMap view := by
      rw [updateServerStatus, filterMap_map]
      exact congrArg (filterMap · store.rows) (funext (blind status))
    exact ih.trans first

end ServerRepository

/-! The settings of servers, as in `internal/repositories/inmemory/server_settings.go`. -/

structure ServerSettingRepository where
  rows : List ServerSetting
  nextID : Nat

namespace ServerSettingRepository

def empty : ServerSettingRepository where
  rows := []
  nextID := 0

variable (store : ServerSettingRepository)

def find (serverID : Nat) (name : String) : List ServerSetting :=
  store.rows.filter fun row => row.serverID == serverID && row.name == name

def findByServer (serverID : Nat) : List ServerSetting :=
  store.rows.filter fun row => row.serverID == serverID

def save (setting : ServerSetting) : ServerSettingRepository :=
  if setting.id = 0 then
    { rows := place ServerSetting.id { setting with id := store.nextID + 1 } store.rows
      nextID := store.nextID + 1 }
  else { store with rows := place ServerSetting.id setting store.rows }

structure Numbered : Prop where
  ordered : store.rows.Pairwise fun earlier later => earlier.id < later.id
  given : ∀ row ∈ store.rows, row.id ≠ 0 ∧ row.id ≤ store.nextID

variable {store} {setting row : ServerSetting}

theorem numbered_empty : empty.Numbered := ⟨.nil, fun _ member => absurd member not_mem_nil⟩

theorem numbered_save (numbered : store.Numbered)
    (known : setting.id = 0 ∨ setting.id ≤ store.nextID) : (store.save setting).Numbered := by
  unfold save
  split
  next =>
    refine ⟨pairwise_place numbered.ordered, forall_mem_place ?_ ?_⟩
    · exact ⟨Nat.succ_ne_zero _, Nat.le_refl _⟩
    · intro other old
      obtain ⟨positive, bound⟩ := numbered.given other old
      exact ⟨positive, Nat.le_succ_of_le bound⟩
  next kept =>
    refine ⟨pairwise_place numbered.ordered, forall_mem_place ?_ numbered.given⟩
    exact ⟨kept, known.resolve_left kept⟩

theorem mem_save_of_ne (numbered : store.Numbered) (member : row ∈ store.rows)
    (different : setting.id ≠ row.id) : row ∈ (store.save setting).rows := by
  have bound := (numbered.given row member).2
  unfold save
  split
  · exact mem_place_of_ne member (Nat.ne_of_gt (Nat.lt_succ_of_le bound))
  · exact mem_place_of_ne member different

theorem nextID_le_save (store : ServerSettingRepository) (setting : ServerSetting) :
    store.nextID ≤ (store.save setting).nextID := by
  unfold save
  split
  · exact Nat.le_succ _
  · exact Nat.le_refl _

theorem mem_save_self (kept : setting.id ≠ 0) : setting ∈ (store.save setting).rows := by
  rw [save, if_neg kept]
  exact mem_place_self ServerSetting.id setting store.rows

theorem Numbered.eq_of_id (numbered : store.Numbered) (member : row ∈ store.rows)
    (otherMember : other ∈ store.rows) (same : row.id = other.id) : row = other := by
  exact eq_of_key_eq (nodup_of_ordered numbered.ordered) member otherMember same

end ServerSettingRepository

end ShadowPanel.Repositories
