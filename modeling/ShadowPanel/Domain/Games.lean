import ShadowPanel.Data.Json

namespace ShadowPanel.Domain

open Data

/-! Games and their mods, of `internal/domain/game.go` and `internal/domain/game_mod.go`. -/

/-- `map[string]any`, where `none` is the nil map. -/
abbrev Metadata := Option (String → Option Json)

structure Game where
  code : String
  name : String
  engine : String
  engineVersion : String
  steamAppIDLinux : Option Nat
  steamAppIDWindows : Option Nat
  steamAppSetConfig : Option String
  remoteRepositoryLinux : Option String
  remoteRepositoryWindows : Option String
  localRepositoryLinux : Option String
  localRepositoryWindows : Option String
  enabled : Int
  metadata : Metadata
  deriving Inhabited

structure GameModFastRcon where
  info : String
  command : String

structure GameModVar where
  var : String
  default : String
  info : String
  adminVar : Bool

/-- Of the two lists `none` is the nil one. -/
structure GameMod where
  id : Nat
  gameCode : String
  name : String
  fastRcon : Option (List GameModFastRcon)
  vars : Option (List GameModVar)
  remoteRepositoryLinux : Option String
  remoteRepositoryWindows : Option String
  localRepositoryLinux : Option String
  localRepositoryWindows : Option String
  startCmdLinux : Option String
  startCmdWindows : Option String
  kickCmd : Option String
  banCmd : Option String
  chnameCmd : Option String
  srestartCmd : Option String
  chmapCmd : Option String
  sendmsgCmd : Option String
  passwdCmd : Option String
  metadata : Metadata
  deriving Inhabited

/-- `mergeMetadata`, of both importers: the copy of `updated` goes over that of `existing`. -/
def mergeMetadata (existing updated : Metadata) : Metadata :=
  match existing, updated with
  | none, updated => updated
  | existing, none => existing
  | some existing, some updated => some fun key => (updated key).or (existing key)

@[simp]
theorem mergeMetadata_self (metadata : Metadata) : mergeMetadata metadata metadata = metadata := by
  cases metadata with
  | none => rfl
  | some entries =>
    apply congrArg some
    funext key
    cases entries key <;> rfl

end ShadowPanel.Domain
