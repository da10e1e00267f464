import ShadowPanel.Services.Games

namespace ShadowPanel.Games

open Data Domain Filters Repositories Services GameRepository Reordering List

/-! The import of a game's own export. -/

variable {driver : UserDriver}

def settled (gameCode : String) (mod : GameMod) : GameMod :=
  { mod with
    gameCode := gameCode
    fastRcon := some (mod.fastRcon.getD [])
    vars := some (mod.vars.getD []) }

def unidentified (gameCode : String) (mod : GameMod) : GameMod :=
  { settled gameCode mod with id := 0 }

@[simp] theorem getD_filled {α : Type} (entries : List α) : (filled entries).getD [] = entries := by
  cases entries <;> rfl

private theorem toDomainGameMod_new (gameCode : String) (mod : GameMod) :
    (newGameExportModFromDomain mod).toDomainGameMod gameCode = unidentified gameCode mod := by
  simp only [GameExportMod.toDomainGameMod, newGameExportModFromDomain, getD_filled, map_map]
  have sameRcon : ((fun entry : GameExportModFastRcon =>
      (⟨entry.info, entry.command⟩ : GameModFastRcon)) ∘
        fun entry : GameModFastRcon => ⟨entry.info, entry.command⟩) = id := rfl
  have sameVar : ((fun entry : GameExportModVar =>
      (⟨entry.var, entry.default, entry.info, entry.adminVar⟩ : GameModVar)) ∘
        fun entry : GameModVar => ⟨entry.var, entry.default, entry.info, entry.adminVar⟩) = id :=
    rfl
  rw [sameRcon, sameVar, map_id, map_id]
  rfl

theorem newGameExportModFromDomain_settled (gameCode : String) (mod : GameMod) :
    newGameExportModFromDomain (settled gameCode mod) = newGameExportModFromDomain mod := rfl

section

variable {orders : ImportOrders} {gameCode : String} {store : GameModRepository driver}
  {result : ImportResult}

theorem mem_findExisting {row : GameMod} : row ∈ store.find (findExisting gameCode name) ↔
    row ∈ store.rows ∧ driver.same row.gameCode gameCode = true ∧
      driver.same row.name name = true := by
  simp [GameModRepository.find, GameModRepository.isFound, findExisting]

theorem importMod_of_found (mod : GameMod) {existing : GameMod} {rest : List GameMod}
    (found : (orders.mods mod.name).apply (store.find (findExisting gameCode mod.name)) =
      existing :: rest) :
    (importMod orders gameCode (store, result) mod).1 = store.save (mergedMod existing mod) := by
  rw [importMod, found]

theorem rows_save (given : mod.id ≠ 0) :
    (store.save mod).rows = place GameMod.id mod store.rows := by
  have same : { mod with id := store.idFor mod } = mod := by
    simp [GameModRepository.idFor, given]
  change place GameMod.id { mod with id := store.idFor mod } store.rows = _
  rw [same]

private theorem nextID_save (given : mod.id ≠ 0) :
    (store.save mod).nextID = store.nextID := if_neg given

def NamesApart (driver : UserDriver) (gameCode : String) (rows : List GameMod) : Prop :=
  ∀ left ∈ rows, ∀ right ∈ rows, driver.same left.gameCode gameCode = true →
    driver.same right.gameCode gameCode = true → driver.same left.name right.name = true →
      left.id = right.id

theorem same_self (text : String) : driver.same text text = true := beq_self_eq_true _

theorem same_comm {left right : String} (same : driver.same left right = true) :
    driver.same right left = true := by
  simp only [UserDriver.same, beq_iff_eq] at same ⊢
  exact same.symm

theorem same_trans {left middle right : String} (first : driver.same left middle = true)
    (second : driver.same middle right = true) : driver.same left right = true := by
  simp only [UserDriver.same, beq_iff_eq] at first second ⊢
  exact first.trans second

def settleSome (driver : UserDriver) (gameCode : String) (select : GameMod → Bool) (row : GameMod) :
    GameMod :=
  if driver.same row.gameCode gameCode && select row then settled gameCode row else row

section

variable {select : GameMod → Bool}

@[simp] theorem id_settleSome : (settleSome driver gameCode select row).id = row.id := by
  unfold settleSome
  split <;> rfl

@[simp] theorem name_settleSome : (settleSome driver gameCode select row).name = row.name := by
  unfold settleSome
  split <;> rfl

@[simp]
theorem metadata_settleSome : (settleSome driver gameCode select row).metadata = row.metadata := by
  unfold settleSome
  split <;> rfl

@[simp]
theorem same_settleSome : driver.same (settleSome driver gameCode select row).gameCode gameCode =
    driver.same row.gameCode gameCode := by
  unfold settleSome
  split
  next both => exact (same_self gameCode).trans (Bool.and_eq_true_iff.mp both).1.symm
  next => rfl

@[simp] theorem settleSome_none : settleSome driver gameCode (fun _ => false) = id := by
  funext row
  simp [settleSome]

end

variable {rows : List GameMod} {select : GameMod → Bool}

section

variable (ordered : rows.Pairwise fun earlier later => earlier.id < later.id)

include ordered

theorem eq_of_id {left right : GameMod} (leftMember : left ∈ rows) (rightMember : right ∈ rows)
    (same : left.id = right.id) : left = right :=
  eq_of_key_eq (nodup_of_ordered ordered) leftMember rightMember same

private theorem importMod_settles (orders : ImportOrders) (result : ImportResult)
    (apart : NamesApart driver gameCode rows)
    (held : store.rows = rows.map (settleSome driver gameCode select)) {mod : GameMod}
    (member : mod ∈ rows) (own : driver.same mod.gameCode gameCode = true) :
    (importMod orders gameCode (store, result) (unidentified gameCode mod)).1.rows =
        rows.map (settleSome driver gameCode fun row => mod.id == row.id || select row) ∧
      (importMod orders gameCode (store, result) (unidentified gameCode mod)).1.nextID =
        store.nextID := by
  have stored : settleSome driver gameCode select mod ∈ store.rows :=
    held ▸ mem_map_of_mem member
  have found : settleSome driver gameCode select mod ∈
      store.find (findExisting gameCode mod.name) := by
    simpa [mem_findExisting] using ⟨stored, own, same_self _⟩
  obtain ⟨existing, rest, first, isFound⟩ := (orders.mods mod.name).apply_eq_cons found
  obtain ⟨existingMember, existingOwn, existingName⟩ := mem_findExisting.mp isFound
  obtain ⟨row, rowMember, rfl⟩ := mem_map.mp (held ▸ existingMember)
  have same : row = mod := eq_of_id ordered rowMember member
    (apart row rowMember mod member (by simpa using existingOwn) own (by simpa using existingName))
  subst same
  have saved : mergedMod (settleSome driver gameCode select row) (unidentified gameCode row) =
      settled gameCode row := by
    simp [mergedMod, unidentified, settled]
  have given : (settled gameCode row).id ≠ 0 := by
    simpa [settled] using store.numbered _ stored
  have storeOrdered := store.ordered
  rw [held] at storeOrdered
  have isHeld : ∃ old ∈ rows.map (settleSome driver gameCode select),
      old.id = (settled gameCode row).id := ⟨_, mem_map_of_mem member, id_settleSome⟩
  rw [importMod_of_found (unidentified gameCode row) first, saved, rows_save given,
    nextID_save given, held,
    place_eq_map storeOrdered isHeld, map_map]
  refine ⟨map_congr_left ?_, rfl⟩
  intro other otherMember
  change (if (settleSome driver gameCode select other).id = row.id then settled gameCode row
    else settleSome driver gameCode select other) = _
  rw [id_settleSome]
  by_cases isRow : other.id = row.id
  · rw [eq_of_id ordered otherMember member isRow]
    simp [settleSome, own]
  · rw [if_neg isRow]
    simp [settleSome, Ne.symm isRow]

private theorem foldl_importMod_settles (apart : NamesApart driver gameCode rows)
    (held : store.rows = rows.map (settleSome driver gameCode select)) {mods : List GameMod}
    (within : ∀ mod ∈ mods, mod ∈ rows ∧ driver.same mod.gameCode gameCode = true) :
    ((mods.map (unidentified gameCode)).foldl (importMod orders gameCode) (store, result)).1.rows =
        rows.map (settleSome driver gameCode fun row =>
          mods.any (fun mod => mod.id == row.id) || select row) ∧
      ((mods.map (unidentified gameCode)).foldl (importMod orders gameCode)
          (store, result)).1.nextID = store.nextID := by
  induction mods generalizing store result select with
  | nil => exact ⟨by simpa using held, rfl⟩
  | cons mod rest ih =>
    obtain ⟨⟨member, own⟩, later⟩ := forall_mem_cons.mp within
    obtain ⟨rowsFirst, nextFirst⟩ := importMod_settles ordered orders result apart held member own
    refine ⟨(ih rowsFirst later).1.trans ?_, (ih rowsFirst later).2.trans nextFirst⟩
    apply congrArg (map · rows)
    apply congrArg (settleSome driver gameCode)
    funext row
    rw [any_cons, Bool.or_left_comm, Bool.or_assoc]

end

def Represented (gameCode : String) (rows : List GameMod) (store : GameModRepository driver) :
    Prop :=
  ∀ mod ∈ rows, driver.same mod.gameCode gameCode = true →
    ∃ row ∈ store.rows, row.id = mod.id ∧ driver.same row.name mod.name = true ∧
      driver.same row.gameCode gameCode = true

theorem Represented.found (represented : Represented gameCode rows store) (member : mod ∈ rows)
    (own : driver.same mod.gameCode gameCode = true) (same : driver.same mod.name name = true) :
    ∃ row ∈ store.find (findExisting gameCode name), row.id = mod.id := by
  obtain ⟨row, rowMember, isMod, sameName, sameGame⟩ := represented mod member own
  exact ⟨row, mem_findExisting.mpr ⟨rowMember, sameGame, same_trans sameName same⟩, isMod⟩

theorem Represented.save (represented : Represented gameCode rows store)
    (isExisting : existing ∈ store.find (findExisting gameCode mod.name)) :
    Represented gameCode rows (store.save (mergedMod existing (unidentified gameCode mod))) := by
  obtain ⟨existingMember, _, existingName⟩ := mem_findExisting.mp isExisting
  have given : (mergedMod existing (unidentified gameCode mod)).id ≠ 0 :=
    store.numbered existing existingMember
  intro other otherMember otherOwn
  obtain ⟨row, rowMember, isOther, sameName, sameGame⟩ := represented other otherMember otherOwn
  rw [rows_save given]
  by_cases overwritten : existing.id = row.id
  · have isRow : existing = row := eq_of_id store.ordered existingMember rowMember overwritten
    subst isRow
    exact ⟨_, mem_place_self _ _ _, isOther, same_trans (same_comm existingName) sameName,
      same_self gameCode⟩
  · exact ⟨row, mem_place_of_ne rowMember overwritten, isOther, sameName, sameGame⟩

def confusing (left right : GameMod) : ImportOrders where
  commands := .kept
  games := .kept
  mods name :=
    if name = right.name then .front fun row => row.id == left.id
    else .front fun row => row.id != left.id

section

variable {left right : GameMod} (leftMember : left ∈ rows) (rightMember : right ∈ rows)
  (leftOwn : driver.same left.gameCode gameCode = true)
  (rightOwn : driver.same right.gameCode gameCode = true)
  (alike : driver.same left.name right.name = true) (different : left.id ≠ right.id)

def Renamed (left right : GameMod) (store : GameModRepository driver) : Prop :=
  ∃ row ∈ store.rows, row.id = left.id ∧ row.name = right.name

include leftMember leftOwn alike in
private theorem importMod_right (represented : Represented gameCode rows store) :
    Represented gameCode rows (importMod (confusing left right) gameCode (store, result)
        (unidentified gameCode right)).1 ∧
      Renamed left right (importMod (confusing left right) gameCode (store, result)
        (unidentified gameCode right)).1 := by
  obtain ⟨row, found, isLeft⟩ := represented.found leftMember leftOwn alike
  obtain ⟨existing, rest, first, isFound, selected⟩ :=
    front_eq_cons (fun row : GameMod => row.id == left.id) found (by simpa using isLeft)
  have order : (confusing left right).mods (unidentified gameCode right).name =
      .front fun row => row.id == left.id := if_pos rfl
  have taken : ((confusing left right).mods (unidentified gameCode right).name).apply
      (store.find (findExisting gameCode (unidentified gameCode right).name)) =
        existing :: rest := by
    rw [order]
    exact first
  rw [importMod_of_found _ taken]
  refine ⟨represented.save isFound, ?_⟩
  have given : (mergedMod existing (unidentified gameCode right)).id ≠ 0 :=
    store.numbered existing (mem_findExisting.mp isFound).1
  rw [Renamed, rows_save given]
  exact ⟨_, mem_place_self _ _ _, beq_iff_eq.mp selected, rfl⟩

include leftMember rightMember rightOwn alike different in
private theorem importMod_other (ordered : rows.Pairwise fun earlier later => earlier.id < later.id)
    (represented : Represented gameCode rows store) {mod : GameMod} (member : mod ∈ rows)
    (own : driver.same mod.gameCode gameCode = true) (other : mod.name ≠ right.name) :
    Represented gameCode rows (importMod (confusing left right) gameCode (store, result)
        (unidentified gameCode mod)).1 ∧
      (Renamed left right store →
        Renamed left right (importMod (confusing left right) gameCode (store, result)
          (unidentified gameCode mod)).1) := by
  have elsewhere : ∃ row ∈ store.find (findExisting gameCode mod.name), row.id ≠ left.id := by
    by_cases isLeft : mod.id = left.id
    · have same : mod = left := eq_of_id ordered member leftMember isLeft
      obtain ⟨row, found, isRight⟩ :=
        represented.found rightMember rightOwn (same_comm alike)
      exact ⟨row, same ▸ found, isRight ▸ different.symm⟩
    · obtain ⟨row, found, isMod⟩ := represented.found member own (same_self mod.name)
      exact ⟨row, found, isMod ▸ isLeft⟩
  obtain ⟨row, found, apart⟩ := elsewhere
  obtain ⟨existing, rest, first, isFound, selected⟩ :=
    front_eq_cons (fun row : GameMod => row.id != left.id) found (by simpa using apart)
  have order : (confusing left right).mods (unidentified gameCode mod).name =
      .front fun row => row.id != left.id := if_neg other
  have taken : ((confusing left right).mods (unidentified gameCode mod).name).apply
      (store.find (findExisting gameCode (unidentified gameCode mod).name)) = existing :: rest := by
    rw [order]
    exact first
  rw [importMod_of_found _ taken]
  refine ⟨represented.save isFound, ?_⟩
  intro ⟨renamed, renamedMember, isLeft, name⟩
  have given : (mergedMod existing (unidentified gameCode mod)).id ≠ 0 :=
    store.numbered existing (mem_findExisting.mp isFound).1
  rw [Renamed, rows_save given]
  refine ⟨renamed, mem_place_of_ne renamedMember ?_, isLeft, name⟩
  rw [isLeft]
  exact bne_iff_ne.mp selected

variable (result) in
include leftMember rightMember leftOwn rightOwn alike different in
private theorem foldl_importMod_renames
    (ordered : rows.Pairwise fun earlier later => earlier.id < later.id)
    (represented : Represented gameCode rows store) {mods : List GameMod}
    (within : ∀ mod ∈ mods, mod ∈ rows ∧ driver.same mod.gameCode gameCode = true)
    (names : ∀ mod ∈ mods, mod.name = right.name → mod = right)
    (reached : right ∈ mods ∨ Renamed left right store) :
    Renamed left right ((mods.map (unidentified gameCode)).foldl
      (importMod (confusing left right) gameCode) (store, result)).1 := by
  induction mods generalizing store result with
  | nil =>
    cases reached with
    | inl member => cases member
    | inr renamed => exact renamed
  | cons mod rest ih =>
    obtain ⟨⟨member, own⟩, later⟩ := forall_mem_cons.mp within
    obtain ⟨firstName, laterNames⟩ := forall_mem_cons.mp names
    by_cases isRight : mod.name = right.name
    · have same := firstName isRight
      subst same
      obtain ⟨still, renamed⟩ := importMod_right leftMember leftOwn alike represented
      exact ih _ still later laterNames (.inr renamed)
    · obtain ⟨still, keeps⟩ := importMod_other leftMember rightMember rightOwn alike
        different ordered represented member own isRight
      refine ih _ still later laterNames ?_
      cases reached with
      | inr renamed => exact .inr (keeps renamed)
      | inl among =>
        cases mem_cons.mp among with
        | inl isMod => exact absurd (congrArg GameMod.name isMod.symm) isRight
        | inr inRest => exact .inl inRest

end

end

def carried (driver : UserDriver) (mod : GameMod) : Nat × String × GameExportMod :=
  (mod.id, driver.fold mod.gameCode, newGameExportModFromDomain mod)

structure KeepsGame (code : String) (before after : GameStore driver) : Prop where
  game : (after.games.get code).map newGameExportGame =
    (before.games.get code).map newGameExportGame
  mods : after.mods.rows.map (carried driver) = before.mods.rows.map (carried driver)
  otherGames : ∀ other, driver.same other code = false →
    after.games.get other = before.games.get other
  otherMods : after.mods.rows.filter (fun mod => !driver.same mod.gameCode code) =
    before.mods.rows.filter fun mod => !driver.same mod.gameCode code

def RoundTrips (state : GameStore driver) (code : String) (exported : GameExport) : Prop :=
  ∀ (orders : ImportOrders) (opts : Option ImportOptions), ImportOptions.isEmpty opts = true →
    ∃ after result, importGame orders state (some exported) opts = .ok (after, result) ∧
      KeepsGame code state after ∧
      ∀ again : ImportOrders, ∃ second,
        importGame again after (some exported) opts = .ok (after, second)

section

variable {state : GameStore driver}

private theorem exists_of_exportToStruct
    (done : exportToStruct exportOrders exportedAt version state code = .ok exported) :
    ∃ game, state.games.get code = some game ∧
      exported = newGameExportFromDomain exportedAt version game
        (exportOrders.mods.apply (state.mods.find (findGameModByGameCodes [code]))) := by
  unfold exportToStruct at done
  split at done
  · cases done
  · rw [find_byCode, apply_toList] at done
    cases found : state.games.get code with
    | none => rw [found] at done; cases done
    | some game =>
      rw [found] at done
      exact ⟨game, rfl, (Except.ok.inj done).symm⟩

def enabledGame (game : Game) : Game := { game with enabled := 1 }

theorem importGame_newGameExport {orders : ImportOrders} {game : Game} {mods : List GameMod}
    (valid : (newGameExportFromDomain exportedAt version game mods).Valid)
    (empty : ImportOptions.isEmpty opts = true) :
    importGame orders state (some (newGameExportFromDomain exportedAt version game mods)) opts =
      .ok (saveImport orders state (enabledGame game) (mods.map (unidentified game.code))) := by
  rw [importGame_of_valid valid empty]
  change Except.ok (saveImport orders state (enabledGame game)
    ((mods.map newGameExportModFromDomain).map (GameExportMod.toDomainGameMod game.code))) = _
  have back : GameExportMod.toDomainGameMod game.code ∘ newGameExportModFromDomain =
      unidentified game.code := funext (toDomainGameMod_new game.code)
  rw [map_map, back]

theorem saveImport_of_stored {orders : ImportOrders} {game old : Game} {mods : List GameMod}
    (stored : state.games.get game.code = some old) (metadata : old.metadata = game.metadata) :
    saveImport orders state (enabledGame game) mods =
      saveMerged orders state (enabledGame game) mods := by
  have merged : mergedGame (orders.games.apply
      (state.games.find (findGameByCodes [game.code]))) (enabledGame game) = enabledGame game := by
    rw [find_byCode, apply_toList, stored]
    change { enabledGame game with metadata := mergeMetadata old.metadata game.metadata } = _
    rw [metadata, mergeMetadata_self]
    rfl
  exact congrArg (saveMerged orders state · mods) merged

private theorem saveMerged_settles {orders : ImportOrders} {game : Game} {rows mods : List GameMod}
    {select : GameMod → Bool} (ordered : rows.Pairwise fun earlier later => earlier.id < later.id)
    (apart : NamesApart driver game.code rows)
    (held : state.mods.rows = rows.map (settleSome driver game.code select))
    (within : ∀ mod, mod ∈ mods ↔ mod ∈ rows ∧ driver.same mod.gameCode game.code = true) :
    (saveMerged orders state (enabledGame game) (mods.map (unidentified game.code))).1.mods.rows =
        rows.map (settleSome driver game.code fun _ => true) ∧
      (saveMerged orders state (enabledGame game)
        (mods.map (unidentified game.code))).1.mods.nextID = state.mods.nextID := by
  obtain ⟨rowsAfter, nextAfter⟩ :=
    foldl_importMod_settles ordered apart held fun mod => (within mod).mp
  refine ⟨rowsAfter.trans (map_congr_left ?_), nextAfter⟩
  intro row member
  by_cases own : driver.same row.gameCode game.code = true
  · have among : mods.any (fun mod => mod.id == row.id) = true :=
      any_eq_true.mpr ⟨row, (within row).mpr ⟨member, own⟩, by simp⟩
    simp [settleSome, among]
  · simp [settleSome, own]

end

private theorem keepsGame_of_settled {before after : GameStore driver} {code : String} {game : Game}
    (found : before.games.get code = some game)
    (games : after.games = before.games.save (enabledGame game))
    (mods : after.mods.rows = before.mods.rows.map (settleSome driver game.code fun _ => true)) :
    KeepsGame code before after := by
  have own : driver.same game.code code = true := same_of_get found
  have stored : before.games.get (enabledGame game).code = some game :=
    (get_congr own).trans found
  refine ⟨?_, ?_, ?_, ?_⟩
  · rw [games, get_save stored, found]
    change Option.map _ (if driver.same game.code code = true then _ else _) = _
    rw [if_pos own]
    rfl
  · rw [mods, map_map]
    apply map_congr_left
    intro row _
    change carried driver (settleSome driver game.code _ row) = _
    unfold settleSome
    split
    next both =>
      have same := beq_iff_eq.mp (Bool.and_eq_true_iff.mp both).1
      simp only [carried, newGameExportModFromDomain_settled]
      change (row.id, driver.fold game.code, _) = _
      rw [← same]
    next => rfl
  · intro other apart
    rw [games, get_save stored]
    have different : ¬driver.same game.code other = true := by
      intro same
      rw [same_trans (same_comm same) own] at apart
      cases apart
    exact if_neg different
  · rw [mods, filter_map]
    have codes : ∀ text, driver.same text game.code = driver.same text code := by
      intro text
      simp only [UserDriver.same] at own ⊢
      rw [beq_iff_eq.mp own]
    have keeps : (fun mod : GameMod => !driver.same mod.gameCode code) ∘
        settleSome driver game.code (fun _ => true) =
          fun mod => !driver.same mod.gameCode code := by
      funext mod
      simp only [Function.comp_apply, ← codes, same_settleSome]
    rw [keeps]
    refine (map_congr_left ?_).trans (map_id _)
    intro row member
    have unselected := (mem_filter.mp member).2
    rw [settleSome, codes, if_neg]
    · rfl
    · intro both
      rw [(Bool.and_eq_true_iff.mp both).1] at unselected
      cases unselected

private theorem same_congr {left right : String} (same : driver.same left right = true)
    (text : String) :
    driver.same text left = driver.same text right := by
  simp only [UserDriver.same] at same ⊢
  rw [beq_iff_eq.mp same]

section

variable {state : GameStore driver}

private theorem distinct_names
    (valid : (newGameExportFromDomain exportedAt version game mods).Valid) :
    (mods.map GameMod.name).Nodup := by
  have names := valid.names
  change ((mods.map newGameExportModFromDomain).map GameExportMod.name).Nodup at names
  rw [map_map] at names
  exact names

private theorem roundTrips_of_namesApart (found : state.games.get code = some game)
    (valid : (newGameExportFromDomain exportedAt version game mods).Valid)
    (within : ∀ mod, mod ∈ mods ↔ mod ∈ state.mods.rows ∧ driver.same mod.gameCode game.code = true)
    (apart : NamesApart driver game.code state.mods.rows) :
    RoundTrips state code (newGameExportFromDomain exportedAt version game mods) := by
  intro orders opts empty
  have stored : state.games.get game.code = some game :=
    (get_congr (same_of_get found)).trans found
  have start : state.mods.rows =
      state.mods.rows.map (settleSome driver game.code fun _ => false) := by
    simp
  obtain ⟨rows, nextID⟩ := saveMerged_settles state.mods.ordered apart start within
  refine ⟨(saveMerged orders state (enabledGame game) (mods.map (unidentified game.code))).1,
    (saveMerged orders state (enabledGame game) (mods.map (unidentified game.code))).2, ?_,
    keepsGame_of_settled found rfl rows, ?_⟩
  · rw [importGame_newGameExport valid empty, saveImport_of_stored stored rfl]
  · intro again
    have storedAfter : (saveMerged orders state (enabledGame game)
        (mods.map (unidentified game.code))).1.games.get game.code = some (enabledGame game) := by
      change (state.games.save (enabledGame game)).get game.code = _
      rw [get_save (show state.games.get (enabledGame game).code = _ from stored)]
      exact if_pos (same_self game.code)
    obtain ⟨rowsAgain, nextAgain⟩ := saveMerged_settles state.mods.ordered apart rows within
    rw [importGame_newGameExport valid empty, saveImport_of_stored storedAfter rfl]
    refine ⟨_, congrArg Except.ok (Prod.ext ?_ rfl)⟩
    apply GameStore.ext
    · exact save_save (Option.isSome_iff_exists.mpr ⟨game, stored⟩)
    · exact GameModRepository.ext (rowsAgain.trans rows.symm) nextAgain

private theorem namesApart_of_roundTrips (found : state.games.get code = some game)
    (valid : (newGameExportFromDomain exportedAt version game mods).Valid)
    (within : ∀ mod, mod ∈ mods ↔ mod ∈ state.mods.rows ∧ driver.same mod.gameCode game.code = true)
    (roundTrips : RoundTrips state code (newGameExportFromDomain exportedAt version game mods)) :
    NamesApart driver game.code state.mods.rows := by
  intro left leftMember right rightMember leftOwn rightOwn alike
  apply Classical.byContradiction
  intro different
  have stored : state.games.get game.code = some game :=
    (get_congr (same_of_get found)).trans found
  have isRight : ∀ mod ∈ mods, mod.name = right.name → mod = right := fun mod member same =>
    eq_of_key_eq (distinct_names valid) member ((within right).mpr ⟨rightMember, rightOwn⟩) same
  have represented : Represented game.code state.mods.rows state.mods :=
    fun mod member own => ⟨mod, member, rfl, same_self mod.name, own⟩
  have renamed := foldl_importMod_renames ⟨enabledGame game, [], []⟩ leftMember rightMember leftOwn
    rightOwn alike different state.mods.ordered represented (fun mod => (within mod).mp) isRight
    (.inl ((within right).mpr ⟨rightMember, rightOwn⟩))
  obtain ⟨after, result, imported, keeps, _⟩ := roundTrips (confusing left right) none rfl
  rw [importGame_newGameExport valid rfl, saveImport_of_stored stored rfl] at imported
  obtain ⟨row, member, isLeft, name⟩ := renamed
  have kept : carried driver row ∈ state.mods.rows.map (carried driver) := by
    rw [← keeps.mods, ← (Prod.mk.inj (Except.ok.inj imported)).1]
    exact mem_map_of_mem member
  obtain ⟨mod, modMember, same⟩ := mem_map.mp kept
  have ids : mod.id = row.id := congrArg (fun told => told.1) same
  have names : mod.name = row.name := congrArg (fun told => told.2.2.name) same
  have isMod : mod = left := eq_of_id state.mods.ordered modMember leftMember (ids.trans isLeft)
  subst isMod
  have equal := isRight mod ((within mod).mpr ⟨leftMember, leftOwn⟩) (names.trans name)
  exact different (congrArg GameMod.id equal)

end

theorem roundTrips_iff_namesApart (driver : UserDriver) (state : GameStore driver) (code : String)
    (exported : GameExport) (exportOrders : ExportOrders) (exportedAt version : String)
    (commands : Reordering LimitedText)
    (done : exportToStruct exportOrders exportedAt version state code = .ok exported)
    (valid : exported.validate commands = .ok ()) :
    RoundTrips state code exported ↔ NamesApart driver code state.mods.rows := by
  have accepted := GameExport.validate_eq_ok_iff.mp valid
  obtain ⟨game, found, rfl⟩ := exists_of_exportToStruct done
  have codes := same_congr (same_of_get found)
  have within : ∀ mod, mod ∈ exportOrders.mods.apply
      (state.mods.find (findGameModByGameCodes [code])) ↔
        mod ∈ state.mods.rows ∧ driver.same mod.gameCode game.code = true := by
    intro mod
    rw [codes]
    simp [GameModRepository.find, GameModRepository.isFound, findGameModByGameCodes]
  have apart : NamesApart driver game.code state.mods.rows ↔
      NamesApart driver code state.mods.rows := by
    simp only [NamesApart, codes]
  rw [← apart]
  exact ⟨namesApart_of_roundTrips found accepted within,
    roundTrips_of_namesApart found accepted within⟩

def foldCase (text : String) : String := String.ofList (text.toList.map Char.toLower)

def plainGame (code name : String) : Game :=
  { (default : Game) with
    code, name
    engine := "GoldSource"
    engineVersion := "1"
    steamAppIDLinux := some 90 }

def plainMod (id : Nat) (gameCode name : String) : GameMod :=
  { (default : GameMod) with
    id, gameCode, name
    vars := some [⟨"maxplayers", "32", "", false⟩]
    startCmdLinux := some "./hlds_run" }

private theorem distinct_single (game : Game) :
    ([game].map fun row => (UserDriver.mysql foldCase).fold row.code).Nodup :=
  pairwise_singleton _ _

private theorem ordered_two (first second : String) :
    [plainMod 1 "cs" first, plainMod 2 "cs" second].Pairwise
      fun earlier later => earlier.id < later.id :=
  .cons (fun _ member => mem_singleton.mp member ▸ Nat.lt_succ_self 1)
    (pairwise_singleton _ _)

private theorem numbered_two (first second : String) :
    ∀ row ∈ [plainMod 1 "cs" first, plainMod 2 "cs" second], row.id ≠ 0 := by
  intro row member
  cases mem_cons.mp member with
  | inl isFirst => exact isFirst ▸ Nat.one_ne_zero
  | inr later => exact mem_singleton.mp later ▸ Nat.succ_ne_zero 1

def twoMods (first second : String) : GameStore (.mysql foldCase) where
  games := ⟨[plainGame "cs" "Counter-Strike"], distinct_single _⟩
  mods :=
    { rows := [plainMod 1 "cs" first, plainMod 2 "cs" second]
      nextID := 2
      ordered := ordered_two first second
      numbered := numbered_two first second }

def exportOfTwo (first second : String) : GameExport :=
  newGameExportFromDomain "" "" (plainGame "cs" "Counter-Strike")
    [plainMod 1 "cs" first, plainMod 2 "cs" second]

theorem roundTrips_classic_deathmatch :
    RoundTrips (twoMods "Classic" "Deathmatch") "cs" (exportOfTwo "Classic" "Deathmatch") :=
  (roundTrips_iff_namesApart (.mysql foldCase) (twoMods "Classic" "Deathmatch") "cs" _
    ⟨.kept, .kept⟩ "" "" .kept rfl rfl).mpr (by unfold NamesApart; decide)

def keptOrders : ImportOrders where
  commands := .kept
  games := .kept
  mods _ := .kept

def namesAfter {driver : UserDriver} (imported : Except String (GameStore driver × ImportResult)) :
    List (Nat × String) :=
  match imported with
  | .error _ => []
  | .ok (state, _) => state.mods.rows.map fun mod => (mod.id, mod.name)

theorem classic_renamed_by_import :
    exportToStruct ⟨.kept, .kept⟩ "" "" (twoMods "Classic" "classic") "cs" =
        .ok (exportOfTwo "Classic" "classic") ∧
      (exportOfTwo "Classic" "classic").validate .kept = .ok () ∧
      namesAfter (importGame keptOrders (twoMods "Classic" "classic")
        (some (exportOfTwo "Classic" "classic")) none) = [(1, "classic"), (2, "classic")] ∧
      ¬RoundTrips (twoMods "Classic" "classic") "cs" (exportOfTwo "Classic" "classic") := by
  have names : namesAfter (importGame keptOrders (twoMods "Classic" "classic")
      (some (exportOfTwo "Classic" "classic")) none) = [(1, "classic"), (2, "classic")] := by
    decide +kernel
  refine ⟨rfl, rfl, names, ?_⟩
  intro roundTrips
  obtain ⟨after, result, imported, keeps, _⟩ := roundTrips keptOrders none rfl
  rw [imported] at names
  have told := congrArg (map fun told : Nat × String × GameExportMod => (told.1, told.2.2.name))
    keeps.mods
  rw [map_map] at told
  have before : [(1, "classic"), (2, "classic")] = [(1, "Classic"), (2, "classic")] :=
    names.symm.trans told
  exact absurd before (by decide)

end ShadowPanel.Games
