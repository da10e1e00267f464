import ShadowPanel.Cache.Drivers

namespace ShadowPanel.Auth

open Data

/-! The token denylist of `pkg/auth/revocation.go` and `revocation_cache.go`. -/

def revocationKeyPrefix : String := "auth:revoked:"

def tokenIdentifier (sha256 : String → String) (rawBearer : String) : String := sha256 rawBearer

namespace CacheRevocation

variable (cache : Cache driver) (now : Int)

def revoke (identifier : String) (ttl : Int) : Cache driver :=
  if ttl ≤ 0 then cache
  else cache.set now (revocationKeyPrefix ++ identifier) (.bool true) ttl

def isRevoked (identifier : String) : Bool :=
  (cache.get now (revocationKeyPrefix ++ identifier)).isSome

end CacheRevocation

end ShadowPanel.Auth
