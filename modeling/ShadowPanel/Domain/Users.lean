import ShadowPanel.Domain.Rbac

namespace ShadowPanel.Domain

/-! The records of `internal/domain/user.go` and `internal/domain/auth.go`.
Names, remember tokens and times are left out: no modelled function reads
them. -/

structure User where
  id : Nat
  login : String
  email : String
  password : String
  deriving DecidableEq

/-- `token` is the digest of the secret. -/
structure PersonalAccessToken where
  id : Nat
  tokenableType : EntityType
  tokenableID : Nat
  token : String
  deriving DecidableEq

end ShadowPanel.Domain
