import ShadowPanel.Api.ServerSettings

namespace ShadowPanel.Servers

open Api Data Domain Repositories ServerSettingRepository List

/-! What a user who is no administrator can change of a server's settings. -/

def AdminOnly (gameMod : GameMod) (name : String) : Prop :=
  ∃ gmVar ∈ gameMod.vars.getD [], gmVar.var = name ∧ gmVar.adminVar = true

def OpenToAll (gameMod : GameMod) (name : String) : Prop :=
  name = Api.autostartSettingKey ∨ name = updateBeforeStartSettingKey ∨
    ∃ gmVar ∈ gameMod.vars.getD [], gmVar.var = name ∧ gmVar.adminVar = false

private theorem allowVars_apply (vars : List GameModVar) (allowed : AllowedSettings) (name : String)
    (unreserved : ∀ metadata, allowed name = some metadata → metadata.adminVar = false) :
    (∀ metadata, vars.foldl (allowVar false) allowed name = some metadata →
        metadata.adminVar = false) ∧
      ((vars.foldl (allowVar false) allowed name).isSome = true ↔
        (allowed name).isSome = true ∨
          ∃ gmVar ∈ vars, gmVar.var = name ∧ gmVar.adminVar = false) := by
  induction vars generalizing allowed with
  | nil => simpa using unreserved
  | cons gmVar rest ih =>
    rw [foldl_cons]
    cases admin : gmVar.adminVar with
    | true =>
      have skipped : allowVar false allowed gmVar = allowed := by simp [allowVar, admin]
      rw [skipped]
      refine ⟨(ih allowed unreserved).1, (ih allowed unreserved).2.trans ?_⟩
      simp [admin]
    | false =>
      have set : allowVar false allowed gmVar = allowed.set ⟨gmVar.var, false⟩ := by
        simp [allowVar, admin]
      have stillUnreserved : ∀ metadata,
          allowed.set ⟨gmVar.var, false⟩ name = some metadata → metadata.adminVar = false := by
        intro metadata found
        unfold AllowedSettings.set at found
        split at found
        · cases found
          rfl
        · exact unreserved metadata found
      rw [set]
      refine ⟨(ih _ stillUnreserved).1, (ih _ stillUnreserved).2.trans ?_⟩
      unfold AllowedSettings.set
      by_cases same : name = gmVar.var
      · simp [same, admin]
      · simp [same, Ne.symm same]

theorem isSaved_iff (gameMod : GameMod) (entry : SettingInput) :
    isSaved false (buildAllowedSettings gameMod false) entry = true ↔
      OpenToAll gameMod entry.name := by
  have builtInUnreserved : ∀ metadata, builtInSettings entry.name = some metadata →
      metadata.adminVar = false := by
    intro metadata found
    unfold builtInSettings AllowedSettings.set at found
    split at found
    · cases found
      rfl
    · split at found
      · cases found
        rfl
      · contradiction
  have builtIn : (builtInSettings entry.name).isSome = true ↔
      entry.name = Api.autostartSettingKey ∨ entry.name = updateBeforeStartSettingKey := by
    unfold builtInSettings AllowedSettings.set
    by_cases update : entry.name = updateBeforeStartSettingKey
    · simp [update]
    · rw [if_neg update]
      by_cases autostart : entry.name = Api.autostartSettingKey
      · simp [autostart]
      · simp [update]
  obtain ⟨unreserved, names⟩ := allowVars_apply (gameMod.vars.getD []) builtInSettings entry.name
    builtInUnreserved
  rw [OpenToAll, ← or_assoc, ← builtIn, ← names, isSaved, buildAllowedSettings]
  split
  next missing => simp [missing]
  next metadata found => simp [found, unreserved metadata found]

private theorem nodup_toSettingsMap (inputs : List SettingInput) :
    ((toSettingsMap inputs).map SettingInput.name).Nodup := by
  have kept : ∀ (rest entries : List SettingInput), (entries.map SettingInput.name).Nodup →
      ((rest.foldl (fun entries input => assign SettingInput.name input entries) entries).map
        SettingInput.name).Nodup := by
    intro rest
    induction rest with
    | nil => exact fun _ distinct => distinct
    | cons input rest ih => exact fun _ distinct => ih _ (nodup_assign distinct)
  exact kept inputs [] .nil

section

variable {calls : SettingsCalls} {server : Server} {isAdmin : Bool} {allowed : AllowedSettings}
  {existing : String → Option ServerSetting} {store : ServerSettingRepository}

def Registered (existing : String → Option ServerSetting) (store : ServerSettingRepository) :
    Prop :=
  ∀ name old, existing name = some old → old.id ≠ 0 ∧ old.id ≤ store.nextID

theorem id_settingToSave (known : Registered existing store) (entry : SettingInput) :
    (settingToSave server existing entry).id = 0 ∨
      (settingToSave server existing entry).id ≤ store.nextID := by
  unfold settingToSave
  cases found : existing entry.name with
  | none => exact .inl rfl
  | some old => exact .inr (known entry.name old found).2

theorem Registered.save (known : Registered existing store) (setting : ServerSetting) :
    Registered existing (store.save setting) := by
  intro name old found
  obtain ⟨positive, bound⟩ := known name old found
  exact ⟨positive, Nat.le_trans bound (nextID_le_save store setting)⟩

def Spares (server : Server) (isAdmin : Bool) (allowed : AllowedSettings)
    (existing : String → Option ServerSetting) (row : ServerSetting) (entry : SettingInput) :
    Prop :=
  isSaved isAdmin allowed entry = true → (settingToSave server existing entry).id = row.id →
    settingToSave server existing entry = row

private theorem mem_save_of_spares (numbered : store.Numbered) (member : row ∈ store.rows)
    (saved : isSaved isAdmin allowed entry = true)
    (spares : Spares server isAdmin allowed existing row entry) :
    row ∈ (store.save (settingToSave server existing entry)).rows := by
  by_cases same : (settingToSave server existing entry).id = row.id
  · rw [spares saved same]
    exact mem_save_self (numbered.given row member).1
  · exact mem_save_of_ne numbered member same

theorem numbered_saveEach (numbered : store.Numbered) (known : Registered existing store) :
    (saveEach calls server isAdmin allowed existing entries store).2.Numbered ∧
      Registered existing (saveEach calls server isAdmin allowed existing entries store).2 := by
  induction entries generalizing store with
  | nil => exact ⟨numbered, known⟩
  | cons entry rest ih =>
    unfold saveEach
    split
    · split
      · exact ⟨numbered, known⟩
      · exact ih (numbered_save numbered (id_settingToSave known entry)) (known.save _)
    · exact ih numbered known

theorem mem_saveEach (numbered : store.Numbered) (known : Registered existing store)
    (member : row ∈ store.rows)
    (spared : ∀ entry ∈ entries, Spares server isAdmin allowed existing row entry) :
    row ∈ (saveEach calls server isAdmin allowed existing entries store).2.rows := by
  induction entries generalizing store with
  | nil => exact member
  | cons entry rest ih =>
    obtain ⟨first, later⟩ := forall_mem_cons.mp spared
    unfold saveEach
    split
    next saved =>
      split
      · exact member
      · exact ih (numbered_save numbered (id_settingToSave known entry)) (known.save _)
          (mem_save_of_spares numbered member saved first) later
    next => exact ih numbered known member later

private theorem saveEach_append (works : ∀ name, calls.save name = .ok ())
    (before after : List SettingInput) (store : ServerSettingRepository) :
    saveEach calls server isAdmin allowed existing (before ++ after) store =
      saveEach calls server isAdmin allowed existing after
        (saveEach calls server isAdmin allowed existing before store).2 := by
  induction before generalizing store with
  | nil => rfl
  | cons entry rest ih =>
    rw [cons_append, saveEach, saveEach, works]
    split
    · exact ih _
    · exact ih _

end

private theorem admitSettings_eq_ok (admitted : admitSettings calls body = .ok (inputs, isAdmin)) :
    calls.isAdmin = .ok isAdmin ∧ body = .ok inputs ∧ validateSettings inputs = .ok () := by
  unfold admitSettings at admitted
  split at admitted
  · contradiction
  split at admitted
  · contradiction
  split at admitted
  · contradiction
  split at admitted
  · contradiction
  next isAdminAnswer =>
  split at admitted
  · contradiction
  split at admitted
  · contradiction
  split at admitted
  · contradiction
  next valid =>
  cases admitted
  exact ⟨isAdminAnswer, rfl, valid⟩

theorem putServerSettings_of_admitted
    (admitted : admitSettings calls body = .ok (inputs, isAdmin)) :
    (putServerSettings calls server gameMod body store).2 =
      (saveSettings calls server gameMod inputs isAdmin store).2 := by
  unfold putServerSettings
  rw [admitted]
  dsimp only
  rcases saveSettings calls server gameMod inputs isAdmin store with ⟨_ | _, _⟩ <;> rfl

section

theorem mem_of_existingSetting (found : existingSetting store serverID name = some row) :
    row ∈ store.rows ∧ row.serverID = serverID ∧ row.name = name := by
  have listed := mem_reverse.mp (mem_of_find?_eq_some found)
  obtain ⟨member, own⟩ := mem_filter.mp listed
  exact ⟨member, by simpa using own, by simpa using find?_some found⟩

theorem registered_existingSetting (numbered : store.Numbered) (serverID : Nat) :
    Registered (existingSetting store serverID) store := by
  intro name old found
  exact numbered.given old (mem_of_existingSetting found).1

theorem settingToSave_of_existing (found : existingSetting store server.id entry.name = some row) :
    settingToSave server (existingSetting store server.id) entry =
      { row with value := newServerSettingValue entry.value } := by
  obtain ⟨_, own, named⟩ := mem_of_existingSetting found
  simp [settingToSave, found, own, named]

end

def KeepsAdminOnly (gameMod : GameMod) (before after : ServerSettingRepository) : Prop :=
  ∀ row ∈ before.rows, AdminOnly gameMod row.name → row ∈ after.rows

/-- Under a name that is both for administrators and open to all, the request sends the value
that the server's setting has already. -/
def SendsNothingNew (server : Server) (gameMod : GameMod) (body : Except String (List SettingInput))
    (store : ServerSettingRepository) : Prop :=
  ∀ inputs, body = .ok inputs → validateSettings inputs = .ok () →
    ∀ entry ∈ toSettingsMap inputs, AdminOnly gameMod entry.name →
      OpenToAll gameMod entry.name →
        ∀ row, existingSetting store server.id entry.name = some row →
          newServerSettingValue entry.value = row.value

section

private theorem spares_of_sendsNothingNew (numbered : store.Numbered)
    (nothing : SendsNothingNew server gameMod body store) (decoded : body = .ok inputs)
    (valid : validateSettings inputs = .ok ()) (sent : entry ∈ toSettingsMap inputs)
    (member : row ∈ store.rows) (admin : AdminOnly gameMod row.name) :
    Spares server false (buildAllowedSettings gameMod false) (existingSetting store server.id)
      row entry := by
  intro saved same
  cases found : existingSetting store server.id entry.name with
  | none =>
    simp only [settingToSave, found] at same
    exact absurd same.symm (numbered.given row member).1
  | some old =>
    rw [settingToSave_of_existing found] at same ⊢
    obtain ⟨oldMember, _, named⟩ := mem_of_existingSetting found
    have isRow : old = row := numbered.eq_of_id oldMember member same
    subst isRow
    rw [named] at admin
    rw [nothing inputs decoded valid entry sent admin ((isSaved_iff gameMod entry).mp saved)
      old found]

private theorem keeps_of_sendsNothingNew (numbered : store.Numbered)
    (nothing : SendsNothingNew server gameMod body store) (calls : SettingsCalls)
    (user : calls.isAdmin ≠ .ok true) :
    KeepsAdminOnly gameMod store (putServerSettings calls server (some gameMod) body store).2 := by
  intro row member admin
  cases admitted : admitSettings calls body with
  | error error =>
    rw [putServerSettings, admitted]
    exact member
  | ok checked =>
    obtain ⟨inputs, isAdmin⟩ := checked
    obtain ⟨asked, decoded, valid⟩ := admitSettings_eq_ok admitted
    have notAdmin : isAdmin = false := by
      cases isAdmin with
      | false => rfl
      | true => exact absurd asked user
    subst notAdmin
    rw [putServerSettings_of_admitted admitted]
    unfold saveSettings
    split
    · exact member
    · exact member
    next other =>
      cases other
      split
      · exact member
      · refine mem_saveEach numbered (registered_existingSetting numbered server.id) member ?_
        intro entry listed
        exact spares_of_sendsNothingNew numbered nothing decoded valid
          ((calls.order.perm _).mem_iff.mp listed) member admin

def undisturbedCalls : SettingsCalls where
  authenticated := true
  serverID := .ok 1
  findUserServer := .ok ()
  isAdmin := .ok false
  abilities := .ok ()
  findGameMod := .ok ()
  findSettings := .ok ()
  order := .kept
  save := fun _ => .ok ()

private theorem putServerSettings_undisturbed (decoded : body = .ok inputs)
    (valid : validateSettings inputs = .ok ()) :
    (putServerSettings undisturbedCalls server (some gameMod) body store).2 =
      (saveEach undisturbedCalls server false (buildAllowedSettings gameMod false)
        (existingSetting store server.id) (toSettingsMap inputs) store).2 := by
  have admitted : admitSettings undisturbedCalls body = .ok (inputs, false) := by
    rw [decoded]
    simp [admitSettings, undisturbedCalls, valid]
  rw [putServerSettings_of_admitted admitted]
  rfl

private theorem mem_saveEach_of_existing (numbered : store.Numbered)
    (sent : entry ∈ toSettingsMap inputs) (everyone : OpenToAll gameMod entry.name)
    (found : existingSetting store server.id entry.name = some row) :
    { row with value := newServerSettingValue entry.value } ∈
      (saveEach undisturbedCalls server false (buildAllowedSettings gameMod false)
        (existingSetting store server.id) (toSettingsMap inputs) store).2.rows := by
  obtain ⟨before, after, split⟩ := append_of_mem sent
  have known := registered_existingSetting numbered server.id
  obtain ⟨numberedBefore, knownBefore⟩ := numbered_saveEach numbered known
  obtain ⟨member, _, named⟩ := mem_of_existingSetting found
  rw [split, saveEach_append (fun _ => rfl), saveEach,
    if_pos ((isSaved_iff gameMod entry).mpr everyone)]
  have isKept := settingToSave_of_existing found
  refine mem_saveEach (numbered_save numberedBefore
    (id_settingToSave knownBefore entry)) (knownBefore.save _) ?_ ?_
  · rw [isKept]
    exact mem_save_self (numbered.given row member).1
  · intro later listed _ same
    cases foundLater : existingSetting store server.id later.name with
    | none =>
      simp only [settingToSave, foundLater] at same
      exact absurd same.symm (numbered.given row member).1
    | some other =>
      rw [settingToSave_of_existing foundLater] at same
      obtain ⟨otherMember, _, otherNamed⟩ := mem_of_existingSetting foundLater
      have isRow : other = row := numbered.eq_of_id otherMember member same
      have sameName : later.name = entry.name := by
        rw [← otherNamed, isRow, named]
      have distinct := nodup_toSettingsMap inputs
      rw [split, map_append, nodup_append] at distinct
      have fresh := (nodup_cons.mp distinct.2.1).1
      exact absurd (sameName ▸ mem_map_of_mem listed) fresh

end

theorem keepsAdminOnly_iff_sendsNothingNew (server : Server) (gameMod : GameMod)
    (body : Except String (List SettingInput)) (store : ServerSettingRepository)
    (numbered : store.Numbered) :
    (∀ calls : SettingsCalls, calls.isAdmin ≠ .ok true →
      KeepsAdminOnly gameMod store (putServerSettings calls server (some gameMod) body store).2) ↔
      SendsNothingNew server gameMod body store := by
  constructor
  · intro keeps inputs decoded valid entry sent admin everyone row found
    obtain ⟨member, _, named⟩ := mem_of_existingSetting found
    have kept := keeps undisturbedCalls (by simp [undisturbedCalls]) row member (named ▸ admin)
    rw [putServerSettings_undisturbed decoded valid] at kept
    have written := mem_saveEach_of_existing numbered sent everyone found
    have known := registered_existingSetting numbered server.id
    have same := (numbered_saveEach numbered known).1.eq_of_id written kept rfl
    rw [← same]
  · intro nothing calls user
    exact keeps_of_sendsNothingNew numbered nothing calls user

def modWith (name : String) : GameMod :=
  { (default : GameMod) with
    id := 4
    gameCode := "cstrike"
    name := "Classic"
    vars := some [⟨name, "", "", true⟩] }

def oneSetting (name : String) : ServerSettingRepository where
  rows := [⟨1, name, 1, .bool false⟩]
  nextID := 1

theorem numbered_oneSetting (name : String) : (oneSetting name).Numbered := by
  refine ⟨pairwise_singleton _ _, ?_⟩
  intro row member
  rw [mem_singleton.mp member]
  exact ⟨Nat.one_ne_zero, Nat.le_refl 1⟩

def serverOne : Server := { (default : Server) with id := 1 }

def switchOn (name : String) : Except String (List SettingInput) := .ok [⟨name, .bool true⟩]

theorem keepsAdminOnly_iff_sendsNothingNew_tickrate :
    KeepsAdminOnly (modWith "tickrate") (oneSetting "tickrate")
      (putServerSettings undisturbedCalls serverOne (some (modWith "tickrate"))
        (switchOn "tickrate") (oneSetting "tickrate")).2 := by
  refine (keepsAdminOnly_iff_sendsNothingNew serverOne (modWith "tickrate") (switchOn "tickrate")
    (oneSetting "tickrate") (numbered_oneSetting "tickrate")).mpr ?_ undisturbedCalls
    (by simp [undisturbedCalls])
  intro inputs decoded _ entry sent _ everyone
  cases decoded
  have named : entry = ⟨"tickrate", .bool true⟩ := mem_singleton.mp sent
  rw [named] at everyone
  rcases everyone with autostart | update | ⟨gmVar, member, _, reserved⟩
  · exact absurd autostart (by decide)
  · exact absurd update (by decide)
  · rw [mem_singleton.mp member] at reserved
    contradiction

theorem autostart_changed_by_user :
    (oneSetting Api.autostartSettingKey).Numbered ∧ undisturbedCalls.isAdmin = .ok false ∧
      ¬KeepsAdminOnly (modWith Api.autostartSettingKey) (oneSetting Api.autostartSettingKey)
        (putServerSettings undisturbedCalls serverOne (some (modWith Api.autostartSettingKey))
          (switchOn Api.autostartSettingKey) (oneSetting Api.autostartSettingKey)).2 := by
  refine ⟨numbered_oneSetting _, rfl, ?_⟩
  intro keeps
  have kept := keeps ⟨1, Api.autostartSettingKey, 1, .bool false⟩ (mem_singleton.mpr rfl)
    ⟨⟨Api.autostartSettingKey, "", "", true⟩, mem_singleton.mpr rfl, rfl, rfl⟩
  revert kept
  decide

end ShadowPanel.Servers
