namespace ShadowPanel.Domain

/-! The records of `internal/domain/node.go`.  The hardware notes, the login of
the old daemon and the scripts of a node are left out: no modelled function
reads them.  Times are seconds. -/

inductive NodeOS where
  | linux
  | windows
  | macOS
  | other
  deriving DecidableEq

inductive NodePreferInstallMethod where
  | auto
  | copy
  | download
  | script
  | steam
  | node
  deriving DecidableEq

structure Node where
  id : Nat
  enabled : Bool
  name : String
  os : NodeOS
  location : String
  provider : Option String
  ips : List String
  workPath : String
  steamcmdPath : Option String
  gdaemonHost : String
  gdaemonPort : Int
  gdaemonAPIKey : String
  gdaemonAPIToken : Option String
  gdaemonServerCert : String
  clientCertificateID : Nat
  preferInstallMethod : NodePreferInstallMethod
  createdAt : Option Int
  updatedAt : Option Int
  deletedAt : Option Int
  deriving DecidableEq

end ShadowPanel.Domain
