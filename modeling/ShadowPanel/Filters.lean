import ShadowPanel.Data.Reordering
import ShadowPanel.Domain.Rbac
import ShadowPanel.Domain.Tasks

namespace ShadowPanel.Filters

open Data Domain

universe u

/-! The filters of `internal/filters`. -/

structure Sorting where
  field : String
  direction : String

structure Pagination where
  limit : Nat
  offset : Nat

def defaultLimit : Nat := 20

section

variable {α : Type u}

abbrev Sorted (α : Type u) := List Sorting → Reordering α

def sortRows (sorted : Sorted α) (order : List Sorting) (rows : List α) : List α :=
  if order.isEmpty then rows else (sorted order).apply rows

def applyPagination (pagination : Option Pagination) (rows : List α) : List α :=
  match pagination with
  | none => rows
  | some pagination =>
    (rows.drop pagination.offset).take
      (if pagination.limit = 0 then defaultLimit else pagination.limit)

theorem mem_of_mem_applyPagination (member : row ∈ applyPagination pagination rows) :
    row ∈ rows := by
  cases pagination with
  | none => exact member
  | some pagination => exact List.mem_of_mem_drop (List.mem_of_mem_take member)

theorem mem_sortRows : row ∈ sortRows sorted order rows ↔ row ∈ rows := by
  unfold sortRows
  split
  · rfl
  · exact ((sorted order).perm rows).mem_iff

end

def filterKinds (used : List Bool) : Nat := used.count true

structure FindUser where
  ids : List Nat
  logins : List String
  emails : List String

def FindUser.filterCount (filter : FindUser) : Nat :=
  filterKinds [0 < filter.ids.length, 0 < filter.logins.length, 0 < filter.emails.length]

def findUserByIDs (ids : List Nat) : FindUser where
  ids := ids
  logins := []
  emails := []

def findUserByLogins (logins : List String) : FindUser where
  ids := []
  logins := logins
  emails := []

def findUserByEmails (emails : List String) : FindUser where
  ids := []
  logins := []
  emails := emails

structure FindPersonalAccessToken where
  ids : List Nat
  tokens : List String
  tokenableTypes : List EntityType
  tokenableIDs : List Nat

def FindPersonalAccessToken.filterCount (filter : FindPersonalAccessToken) : Nat :=
  filterKinds [0 < filter.ids.length, 0 < filter.tokens.length,
    0 < filter.tokenableTypes.length, 0 < filter.tokenableIDs.length]

structure FindNode where
  ids : List Nat
  gDaemonAPIKey : Option String
  gDaemonAPIToken : Option String
  withDeleted : Bool

structure FindGameMod where
  ids : List Nat
  names : List String
  gameCodes : List String

def FindGameMod.filterCount (filter : FindGameMod) : Nat :=
  filterKinds [0 < filter.ids.length, 0 < filter.names.length, 0 < filter.gameCodes.length]

def findGameModByGameCodes (codes : List String) : FindGameMod where
  ids := []
  names := []
  gameCodes := codes

structure FindGame where codes : List String

def findGameByCodes (codes : List String) : FindGame where
  codes := codes

/-- A server that is not given, among those asked for, selects nothing. -/
structure FindDaemonTask where
  ids : List Nat
  dedicatedServerIDs : List Nat
  serverIDs : List (Option Nat)
  tasks : List DaemonTaskType
  statuses : List DaemonTaskStatus

def findDaemonTaskByIDs (ids : List Nat) : FindDaemonTask where
  ids := ids
  dedicatedServerIDs := []
  serverIDs := []
  tasks := []
  statuses := []

structure FindServer where
  ids : List Nat
  dsIDs : List Nat
  withDeleted : Bool

def findServerByIDs (ids : List Nat) : FindServer where
  ids := ids
  dsIDs := []
  withDeleted := false

def findServerByNodeIDs (nodeIDs : List Nat) : FindServer where
  ids := []
  dsIDs := nodeIDs
  withDeleted := false

end ShadowPanel.Filters
