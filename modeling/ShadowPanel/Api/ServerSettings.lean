import ShadowPanel.Api.Errors
import ShadowPanel.Domain.Games
import ShadowPanel.Repositories.Servers

namespace ShadowPanel.Api

open Data Domain Repositories

/-! The settings that a user sends for a server, of
`internal/api/serversettings/putserversettings`. -/

structure SettingInput where
  name : String
  value : AnyValue

def validateSettings (inputs : List SettingInput) : Except HandlerError Unit :=
  if inputs.any fun setting => setting.name == "" then
    .error (.validation "setting name is required")
  else .ok ()

/-- The map is kept as its entries; the last value of a name wins. -/
def toSettingsMap (inputs : List SettingInput) : List SettingInput :=
  inputs.foldl (fun entries input => assign SettingInput.name input entries) []

def autostartSettingKey : String := "autostart"

def updateBeforeStartSettingKey : String := "update_before_start"

structure SettingMetadata where
  name : String
  adminVar : Bool

abbrev AllowedSettings := String → Option SettingMetadata

def AllowedSettings.set (allowed : AllowedSettings) (metadata : SettingMetadata) :
    AllowedSettings :=
  fun name => if name = metadata.name then some metadata else allowed name

def builtInSettings : AllowedSettings :=
  AllowedSettings.set (AllowedSettings.set (fun _ => none) ⟨autostartSettingKey, false⟩)
    ⟨updateBeforeStartSettingKey, false⟩

def allowVar (isAdmin : Bool) (allowed : AllowedSettings) (gmVar : GameModVar) : AllowedSettings :=
  if gmVar.adminVar && !isAdmin then allowed
  else allowed.set ⟨gmVar.var, gmVar.adminVar⟩

def buildAllowedSettings (gameMod : GameMod) (isAdmin : Bool) : AllowedSettings :=
  (gameMod.vars.getD []).foldl (allowVar isAdmin) builtInSettings

def existingSetting (store : ServerSettingRepository) (serverID : Nat) (name : String) :
    Option ServerSetting :=
  (store.findByServer serverID).reverse.find? fun row => row.name == name

/-- What a request meets: the order in which the map is gone through, and the calls that
fail. -/
structure SettingsCalls where
  authenticated : Bool
  serverID : Except String Nat
  findUserServer : Except HandlerError Unit
  isAdmin : Except String Bool
  abilities : Except HandlerError Unit
  findGameMod : Except String Unit
  findSettings : Except String Unit
  order : Reordering SettingInput
  save : String → Except String Unit

section

variable (calls : SettingsCalls) (server : Server) (isAdmin : Bool) (allowed : AllowedSettings)
  (existing : String → Option ServerSetting)

def settingToSave (entry : SettingInput) : ServerSetting where
  id := (existing entry.name).elim 0 ServerSetting.id
  name := entry.name
  serverID := server.id
  value := newServerSettingValue entry.value

def isSaved (entry : SettingInput) : Bool :=
  match allowed entry.name with
  | none => false
  | some metadata => !(metadata.adminVar && !isAdmin)

def saveEach : List SettingInput → ServerSettingRepository →
    Except HandlerError Unit × ServerSettingRepository
  | [], store => (.ok (), store)
  | entry :: rest, store =>
    if isSaved isAdmin allowed entry then
      match calls.save entry.name with
      | .error text =>
        (.error (.withMessage
          (if (existing entry.name).isSome then "failed to update setting"
            else "failed to create setting") (.internal text)), store)
      | .ok () => saveEach rest (store.save (settingToSave server existing entry))
    else saveEach rest store

end

def saveSettings (calls : SettingsCalls) (server : Server) (gameMod : Option GameMod)
    (inputs : List SettingInput) (isAdmin : Bool) (store : ServerSettingRepository) :
    Except HandlerError Unit × ServerSettingRepository :=
  match calls.findGameMod, gameMod with
  | .error text, _ => (.error (.withMessage "failed to find game mod" (.internal text)), store)
  | .ok (), none => (.error ⟨404, "game mod not found"⟩, store)
  | .ok (), some gameMod =>
    match calls.findSettings with
    | .error text =>
      (.error (.withMessage "failed to find server settings" (.internal text)), store)
    | .ok () =>
      saveEach calls server isAdmin (buildAllowedSettings gameMod isAdmin)
        (existingSetting store server.id) (calls.order.apply (toSettingsMap inputs)) store

def admitSettings (calls : SettingsCalls) (body : Except String (List SettingInput)) :
    Except HandlerError (List SettingInput × Bool) :=
  if !calls.authenticated then .error ⟨401, "user not authenticated"⟩
  else
    match calls.serverID with
    | .error text => .error (.wrap 400 (.withMessage "invalid server id" (.internal text)))
    | .ok _ =>
      match calls.findUserServer with
      | .error error => .error error
      | .ok _ =>
        match calls.isAdmin with
        | .error text =>
          .error (.withMessage "failed to check admin permissions" (.internal text))
        | .ok isAdmin =>
          match calls.abilities with
          | .error error => .error error
          | .ok _ =>
            match body with
            | .error text =>
              .error (.wrap 400 (.withMessage "failed to read request body" (.internal text)))
            | .ok inputs =>
              match validateSettings inputs with
              | .error error => .error (.wrap 400 error)
              | .ok _ => .ok (inputs, isAdmin)

/-- `server` is the one that the finder finds, `gameMod` the mod that the repository holds
under the server's number of it, and `body` what the body decodes to. -/
def putServerSettings (calls : SettingsCalls) (server : Server) (gameMod : Option GameMod)
    (body : Except String (List SettingInput)) (store : ServerSettingRepository) :
    Except HandlerError Unit × ServerSettingRepository :=
  match admitSettings calls body with
  | .error error => (.error error, store)
  | .ok (inputs, isAdmin) =>
    match saveSettings calls server gameMod inputs isAdmin store with
    | (.error error, after) => (.error (.withMessage "failed to save settings" error), after)
    | (.ok (), after) => (.ok (), after)

end ShadowPanel.Api
