import ShadowPanel.Domain.Users
import ShadowPanel.Filters

namespace ShadowPanel.Repositories

open Domain Filters List

/-! The store of personal access tokens, as in
`internal/repositories/inmemory/personal_access_tokens.go`, with the time that a
token was last used. -/

structure StoredToken extends PersonalAccessToken where
  lastUsedAt : Option Int
  deriving DecidableEq

structure TokenTable where rows : List StoredToken

namespace TokenTable

variable (table : TokenTable)

def find (id : Nat) (pagination : Option Pagination) : List StoredToken :=
  applyPagination pagination (table.rows.filter fun row => row.id == id)

def delete (id : Nat) : TokenTable where
  rows := table.rows.filter fun row => row.id != id

def updateLastUsedAt (id : Nat) (lastUsedAt : Int) : TokenTable where
  rows := table.rows.map fun row =>
    if row.id = id then { row with lastUsedAt := some lastUsedAt } else row

def Lacks (id : Nat) : Prop := ∀ row ∈ table.rows, row.id ≠ id

variable {table} {id : Nat}

theorem Lacks.find (lacks : table.Lacks id) (pagination : Option Pagination) :
    table.find id pagination = [] := by
  have none : table.rows.filter (fun row => row.id == id) = [] := by
    rw [filter_eq_nil_iff]
    intro row member
    simpa using lacks row member
  rw [TokenTable.find, none, eq_nil_iff_forall_not_mem]
  intro row member
  cases mem_of_mem_applyPagination member

theorem lacks_delete : (table.delete id).Lacks id := by
  intro row member
  simpa using (mem_filter.mp member).2

theorem Lacks.delete (lacks : table.Lacks id) (other : Nat) : (table.delete other).Lacks id := by
  intro row member
  exact lacks row (mem_filter.mp member).1

theorem Lacks.updateLastUsedAt (lacks : table.Lacks id) (other : Nat) (lastUsedAt : Int) :
    (table.updateLastUsedAt other lastUsedAt).Lacks id := by
  intro row member
  obtain ⟨old, oldMember, rfl⟩ := mem_map.mp member
  split
  · exact lacks old oldMember
  · exact lacks old oldMember

end TokenTable

end ShadowPanel.Repositories
