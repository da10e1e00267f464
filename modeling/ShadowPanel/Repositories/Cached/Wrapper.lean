import ShadowPanel.Cache.Drivers
import ShadowPanel.Filters

namespace ShadowPanel.Repositories.Cached

open Data Filters Cache

/-! The cache wrapper of `internal/repositories/cached/wrapper.go`. -/

inductive Param where
  | uint (value : Nat)
  | text (value : String)
  | texts (values : List String)
  | order (value : Option (List Sorting))
  | pagination (value : Option Pagination)
  | findNode (value : Option FindNode)
  | findGameMod (value : FindGameMod)

/-- The digests that go into keys: `sha256` of a text and of the encoded
parameters, both in hexadecimal. -/
structure Digests where
  sha256 : String → String
  hashParams : List Param → String

variable (digests : Digests)

def buildKey (keyPrefix operation : String) (params : List Param) : String :=
  match params with
  | [] => keyPrefix ++ ":" ++ operation
  | [.uint value] =>
    if operation = "id" then
      keyPrefix ++ ":" ++ operation ++ ":" ++ toString value
    else
      keyPrefix ++ ":" ++ operation ++ ":" ++ digests.hashParams [.uint value]
  | params => keyPrefix ++ ":" ++ operation ++ ":" ++ digests.hashParams params

def buildPattern (keyPrefix operation : String) : String := keyPrefix ++ ":" ++ operation ++ ":*"

inductive Operation where
  | getOrSet (key : String) (loaded : Option Json)
  | getTyped (key : String)
  | update (key : String) (change : Json → Option Json)
  | invalidate (key : String)
  | invalidatePattern (pattern : String)

namespace Wrapper

variable (ttl now : Int) (cache : Cache driver)

/-- A stored null counts as a miss; without a loaded value the loader failed. -/
def getOrSet (key : String) (loaded : Option Json) : Cache driver :=
  let looked := cache.afterGet now key
  match cache.get now key, loaded with
  | some .null, some value => looked.set now key value ttl
  | some _, _ => looked
  | none, some value => looked.set now key value ttl
  | none, none => looked

def update (key : String) (change : Json → Option Json) : Cache driver :=
  let looked := cache.afterGet now key
  match (cache.get now key).bind change with
  | some value => looked.set now key value ttl
  | none => looked

/-- Only the Redis driver can delete by pattern. -/
def invalidatePattern (pattern : String) : Cache driver :=
  match driver with
  | .redis => cache.deletePattern pattern
  | _ => cache.clear

def apply : Operation → Cache driver
  | .getOrSet key loaded => getOrSet ttl now cache key loaded
  | .getTyped key => cache.afterGet now key
  | .update key change => update ttl now cache key change
  | .invalidate key => cache.delete key
  | .invalidatePattern pattern => invalidatePattern cache pattern

end Wrapper

def OwnKey (keyPrefix key : String) : Prop := (keyPrefix ++ ":").toList <+: key.toList

instance (keyPrefix key : String) : Decidable (OwnKey keyPrefix key) :=
  inferInstanceAs (Decidable ((keyPrefix ++ ":").toList <+: key.toList))

def Operation.Owned (keyPrefix : String) : Operation → Prop
  | .getOrSet key _ => OwnKey keyPrefix key
  | .getTyped key => OwnKey keyPrefix key
  | .update key _ => OwnKey keyPrefix key
  | .invalidate key => OwnKey keyPrefix key
  | .invalidatePattern pattern => ∃ literal : String, pattern = literal ++ "*" ∧
      Glob.Plain literal.toList ∧ OwnKey keyPrefix literal

def Operation.isPattern : Operation → Bool
  | .invalidatePattern _ => true
  | _ => false

theorem ownKey_buildKey (keyPrefix operation : String) (params : List Param) :
    OwnKey keyPrefix (buildKey digests keyPrefix operation params) := by
  unfold buildKey
  split
  · simp [OwnKey]
  · split <;> simp [OwnKey]
  · simp [OwnKey]

def Outside (driver : Cache.Driver) (keyPrefix key : String) : Prop :=
  ∀ own, OwnKey keyPrefix own → driver.slot own ≠ driver.slot key

theorem outside_iff (exact : ∀ char, driver.fold char = char) (keyPrefix key : String) :
    Outside driver keyPrefix key ↔ ¬OwnKey keyPrefix key := by
  constructor
  · intro outside own
    exact outside key own rfl
  · intro apart own isOwn same
    have fold : driver.fold = id := funext exact
    have equal : own = key := by
      simpa [Cache.Driver.slot_inj, fold, String.toList_inj] using same
    exact apart (equal ▸ isOwn)

section

variable {digests} {cache : Cache driver}
theorem accepts_literal (plain : Glob.Plain literal.toList) (key : String) :
    Glob.accepts (Cache.Driver.redis.buildKey (literal ++ "*")).toList
        (Cache.Driver.redis.slot key) = true ↔
      literal.toList <+: key.toList := by
  have whole : Glob.Plain (Cache.Driver.redisKeyPrefix ++ literal).toList := by
    intro char member
    rw [String.toList_append, List.mem_append] at member
    cases member with
    | inl fixed => exact (by decide : Glob.Plain Cache.Driver.redisKeyPrefix.toList) _ fixed
    | inr inLiteral => exact plain char inLiteral
  have spelled : (Cache.Driver.redis.buildKey (literal ++ "*")).toList =
      (Cache.Driver.redisKeyPrefix ++ literal).toList ++ ['*'] := by
    simp [Cache.Driver.buildKey]
  have slot : Cache.Driver.redis.slot key = (Cache.Driver.redisKeyPrefix ++ key).toList := by
    simp [Cache.Driver.slot, Cache.Driver.buildKey, Cache.Driver.fold]
  rw [spelled, slot, Glob.accepts_append_star whole, String.toList_append, String.toList_append]
  exact List.prefix_append_right_inj _

theorem item_deletePattern {cache : Cache .redis}
    (owned : (Operation.invalidatePattern pattern).Owned keyPrefix)
    (outside : Outside .redis keyPrefix key) :
    (cache.deletePattern pattern).item key = cache.item key := by
  obtain ⟨literal, rfl, plain, own⟩ := owned
  have refused : Glob.accepts (Cache.Driver.redis.buildKey (literal ++ "*")).toList
      (Cache.Driver.redis.slot key) = false := by
    rw [Bool.eq_false_iff]
    intro accepted
    have begins := (accepts_literal plain key).mp accepted
    exact ((outside_iff (fun _ => rfl) keyPrefix key).mp outside) (own.trans begins)
  simp only [item, deletePattern, refused, Bool.false_eq_true, if_false]

theorem item_apply (owned : operation.Owned keyPrefix) (outside : Outside driver keyPrefix key)
    (supported : driver = .redis ∨ operation.isPattern = false) :
    (Wrapper.apply ttl now cache operation).item key = cache.item key := by
  cases operation with
  | getOrSet own loaded =>
    have apart := outside own owned
    simp only [Wrapper.apply, Wrapper.getOrSet]
    split <;> simp only [item_set_of_ne apart, item_afterGet_of_ne apart]
  | getTyped own => exact item_afterGet_of_ne (outside own owned)
  | update own change =>
    have apart := outside own owned
    simp only [Wrapper.apply, Wrapper.update]
    split <;> simp only [item_set_of_ne apart, item_afterGet_of_ne apart]
  | invalidate own => exact item_delete_of_ne (outside own owned)
  | invalidatePattern pattern =>
    cases supported with
    | inl redis =>
      subst redis
      exact item_deletePattern owned outside
    | inr silent => cases silent

theorem item_foldl_apply {operations : List Operation}
    (owned : ∀ operation ∈ operations, operation.Owned keyPrefix)
    (outside : Outside driver keyPrefix key)
    (supported : driver = .redis ∨ ∀ operation ∈ operations, operation.isPattern = false) :
    (operations.foldl (Wrapper.apply ttl now) cache).item key = cache.item key := by
  induction operations generalizing cache with
  | nil => rfl
  | cons operation rest ih =>
    refine (ih (fun other member => owned other (by simp [member]))
      (supported.imp_right fun silent other member => silent other (by simp [member]))).trans
      (item_apply (owned operation (by simp)) outside ?_)
    exact supported.imp_right fun silent => silent operation (by simp)

end

end ShadowPanel.Repositories.Cached
