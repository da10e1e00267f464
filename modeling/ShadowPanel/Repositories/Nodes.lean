import ShadowPanel.Data.Keyed
import ShadowPanel.Domain.Nodes
import ShadowPanel.Filters

namespace ShadowPanel.Repositories

open Data Domain Filters

/-! The store of nodes, as in `internal/repositories/inmemory/nodes.go`. -/

structure NodeRepository where rows : List Node

namespace NodeRepository

variable (store : NodeRepository)

def isFound (filter : FindNode) (node : Node) : Bool :=
  (filter.ids.isEmpty || filter.ids.contains node.id) &&
    (filter.withDeleted || node.deletedAt.isNone) &&
    filter.gDaemonAPIKey.all (node.gdaemonAPIKey == ·) &&
    filter.gDaemonAPIToken.all fun token => node.gdaemonAPIToken == some token

def find (sorted : Sorted Node) (filter : Option FindNode) (order : List Sorting)
    (pagination : Option Pagination) : List Node :=
  applyPagination pagination
    (sortRows sorted order (store.rows.filter (isFound (filter.getD ⟨[], none, none, false⟩))))

def findAll (sorted : Sorted Node) (order : List Sorting) (pagination : Option Pagination) :
    List Node :=
  applyPagination pagination
    (sortRows sorted order (store.rows.filter fun node => node.deletedAt.isNone))

theorem credentials_of_isFound (found : isFound filter node = true) :
    (∀ apiKey, filter.gDaemonAPIKey = some apiKey → node.gdaemonAPIKey = apiKey) ∧
      ∀ apiToken, filter.gDaemonAPIToken = some apiToken →
        node.gdaemonAPIToken = some apiToken := by
  simp only [isFound, Bool.and_eq_true] at found
  obtain ⟨⟨_, byKey⟩, byToken⟩ := found
  constructor
  · intro apiKey asked
    simpa [asked] using byKey
  · intro apiToken asked
    simpa [asked] using byToken

def saved (now : Int) (fresh : Nat) (node : Node) : Node :=
  { node with
    id := if node.id = 0 then fresh else node.id
    createdAt := if node.id = 0 && node.createdAt.isNone then some now else node.createdAt
    updatedAt := some now }

def save (now : Int) (fresh : Nat) (node : Node) : NodeRepository where
  rows := place Node.id (saved now fresh node) store.rows

def delete (id : Nat) : NodeRepository where
  rows := store.rows.filter fun node => node.id != id

def updateGDaemonAPIToken (nodeID : Nat) (hashedToken : String) (updatedAt : Int) :
    NodeRepository where
  rows := store.rows.map fun node =>
    if node.id = nodeID then
      { node with gdaemonAPIToken := some hashedToken, updatedAt := some updatedAt }
    else node

end NodeRepository

end ShadowPanel.Repositories
