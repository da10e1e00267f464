import ShadowPanel.Domain.Games
import ShadowPanel.Repositories.Users

namespace ShadowPanel.Repositories

open Data Domain Filters List

/-! The stores of games and of their mods, as in `internal/repositories/inmemory/games.go` and
`internal/repositories/inmemory/game_mods.go`.  Codes and names are compared as the database
compares them. -/

@[ext] structure GameRepository (driver : UserDriver) where
  rows : List Game
  distinct : (rows.map fun row => driver.fold row.code).Nodup

namespace GameRepository

def isFound (driver : UserDriver) (filter : FindGame) (row : Game) : Bool :=
  filter.codes.isEmpty || filter.codes.any (driver.same row.code)

def overwrite (driver : UserDriver) (game row : Game) : Game :=
  if driver.same row.code game.code then { game with code := row.code } else row

@[simp] theorem code_overwrite (game row : Game) : (overwrite driver game row).code = row.code := by
  unfold overwrite
  split <;> rfl

def savedRows (driver : UserDriver) (game : Game) (rows : List Game) : List Game :=
  if rows.any fun row => driver.same row.code game.code then rows.map (overwrite driver game)
  else rows ++ [game]

theorem distinct_savedRows {rows : List Game} (game : Game)
    (distinct : (rows.map fun row => driver.fold row.code).Nodup) :
    ((savedRows driver game rows).map fun row => driver.fold row.code).Nodup := by
  unfold savedRows
  split
  · rw [map_map]
    have same : (fun row : Game => driver.fold row.code) ∘ overwrite driver game =
        fun row => driver.fold row.code := by
      funext row
      exact congrArg driver.fold (code_overwrite game row)
    rw [same]
    exact distinct
  next fresh =>
    rw [map_append, nodup_append]
    refine ⟨distinct, by simp, ?_⟩
    intro left leftMember right rightMember equal
    obtain ⟨row, member, rfl⟩ := mem_map.mp leftMember
    have isNew : right = driver.fold game.code := mem_singleton.mp rightMember
    apply fresh
    exact any_eq_true.mpr ⟨row, member, by simpa [UserDriver.same] using equal.trans isNew⟩

variable (store : GameRepository driver)

def find (filter : FindGame) : List Game := store.rows.filter (isFound driver filter)

def get (code : String) : Option Game := store.rows.find? fun row => driver.same row.code code

def save (game : Game) : GameRepository driver where
  rows := savedRows driver game store.rows
  distinct := distinct_savedRows game store.distinct

variable {store}

theorem same_of_get (found : store.get code = some game) : driver.same game.code code = true := by
  have met := find?_some found
  exact met

theorem find_byCode : store.find (findGameByCodes [code]) = (store.get code).toList := by
  have select : isFound driver (findGameByCodes [code]) = fun row => driver.same row.code code := by
    funext row
    simp [isFound, findGameByCodes]
  have own : ∀ row : Game, driver.same row.code code = true →
      driver.fold row.code = driver.fold code := by
    intro row found
    exact beq_iff_eq.mp found
  rw [find, select, filter_of_key store.distinct own]
  change ((store.get code).filter _).toList = _
  cases found : store.get code with
  | none => rfl
  | some row =>
    simp [same_of_get found]

theorem get_congr (same : driver.same left right = true) : store.get left = store.get right := by
  apply congrArg (find? · store.rows)
  funext row
  simp only [UserDriver.same] at same ⊢
  rw [beq_iff_eq.mp same]

theorem rows_save_of_get (found : (store.get game.code).isSome) :
    (store.save game).rows = store.rows.map (overwrite driver game) := by
  obtain ⟨row, isRow⟩ := Option.isSome_iff_exists.mp found
  change savedRows driver game store.rows = _
  rw [savedRows, if_pos]
  exact any_eq_true.mpr ⟨row, mem_of_find?_eq_some isRow, same_of_get isRow⟩

theorem get_save (found : store.get game.code = some old) :
    (store.save game).get code =
      if driver.same game.code code then some { game with code := old.code }
      else store.get code := by
  have keeps : (fun row : Game => driver.same row.code code) ∘ overwrite driver game =
      fun row => driver.same row.code code := by
    funext row
    simp
  rw [get, rows_save_of_get (by simp [found]), find?_map, keeps]
  change (store.get code).map (overwrite driver game) = _
  split
  next same =>
    rw [← get_congr same, found, Option.map_some, overwrite, if_pos (same_of_get found)]
  next different =>
    cases other : store.get code with
    | none => rfl
    | some row =>
      have apart : ¬driver.same row.code game.code = true := by
        intro equal
        have own := same_of_get other
        apply different
        simp only [UserDriver.same, beq_iff_eq] at equal own ⊢
        exact equal.symm.trans own
      rw [Option.map_some, overwrite, if_neg apart]

theorem save_save (found : (store.get game.code).isSome) :
    (store.save game).save game = store.save game := by
  obtain ⟨old, isOld⟩ := Option.isSome_iff_exists.mp found
  have again : ((store.save game).get game.code).isSome := by
    rw [get_save isOld]
    split
    · rfl
    · exact found
  apply GameRepository.ext
  rw [rows_save_of_get again, rows_save_of_get found, map_map]
  apply map_congr_left
  intro row _
  by_cases same : driver.same row.code game.code = true
  · simp [overwrite, same]
  · simp [overwrite, same]

end GameRepository

@[ext] structure GameModRepository (driver : UserDriver) where
  rows : List GameMod
  nextID : Nat
  ordered : rows.Pairwise fun earlier later => earlier.id < later.id
  numbered : ∀ row ∈ rows, row.id ≠ 0

namespace GameModRepository

def isFound (driver : UserDriver) (filter : FindGameMod) (row : GameMod) : Bool :=
  (filter.ids.isEmpty || filter.ids.contains row.id) &&
    (filter.gameCodes.isEmpty || filter.gameCodes.any (driver.same row.gameCode)) &&
    (filter.names.isEmpty || filter.names.any (driver.same row.name))

variable (store : GameModRepository driver)

def find (filter : FindGameMod) : List GameMod := store.rows.filter (isFound driver filter)

def idFor (mod : GameMod) : Nat := if mod.id = 0 then store.nextID + 1 else mod.id

def save (mod : GameMod) : GameModRepository driver where
  rows := place GameMod.id { mod with id := store.idFor mod } store.rows
  nextID := if mod.id = 0 then store.nextID + 1 else store.nextID
  ordered := pairwise_place store.ordered
  numbered := by
    refine forall_mem_place ?_ store.numbered
    change store.idFor mod ≠ 0
    unfold idFor
    split
    · exact Nat.succ_ne_zero _
    next given => exact given

end GameModRepository

end ShadowPanel.Repositories
