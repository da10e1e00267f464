import Mathlib.Logic.Equiv.List
import Mathlib.Tactic.DeriveEncodable
import ShadowPanel.Data.JsonCodec
import ShadowPanel.Repositories.Cached.Calls

namespace ShadowPanel.Repositories.Cached

open Data Cache

universe u v w

/-! Repositories whose rows are read through the cache, one call after another. -/

variable {driver : Cache.Driver} {Store : Type u} {Query : Type v} {Row : Type w}

structure Caching (driver : Cache.Driver) (Store : Type u) where
  now : Int
  cache : Cache driver
  store : Store

/-- The lookups of a repository: the rows that the repository underneath has,
and the key they are cached under.  The entry of a key stands for the rows of
one lookup, the canonical one. -/
structure Lookup (Store : Type u) (Query : Type v) (Row : Type w) where
  rows : Store → Query → List Row
  key : Query → String
  canonical : Query → Query
  codec : JsonCodec (List Row)

namespace Lookup

variable (lookup : Lookup Store Query Row) (ttl : Int)

section

variable (state : Caching driver Store)

def filled (query : Query) : Cache driver :=
  Wrapper.getOrSet ttl state.now state.cache (lookup.key query)
    (some (lookup.codec.encode (lookup.rows state.store query)))

/-- The state after a lookup, and what it returns; `none` is an error.  Some
time passes between the `GetOrSet` and the `GetTyped`. -/
def read (query : Query) (pause : Nat) : Caching driver Store × Option (List Row) :=
  ({ state with
      now := state.now + pause
      cache := (lookup.filled ttl state query).afterGet (state.now + pause) (lookup.key query) },
    ((lookup.filled ttl state query).get (state.now + pause) (lookup.key query)).bind
      lookup.codec.decode)

def Separates (driver : Cache.Driver) : Prop :=
  ∀ left right, driver.slot (lookup.key left) = driver.slot (lookup.key right) →
    lookup.canonical left = lookup.canonical right

def Coherent : Prop :=
  ∀ query value, state.cache.get state.now (lookup.key query) = some value →
    lookup.codec.decode value = some (lookup.rows state.store (lookup.canonical query))

def Plain (store : Store) (query : Query) : Prop :=
  lookup.rows store query = lookup.rows store (lookup.canonical query)

def Lasts (query : Query) (pause : Nat) : Prop :=
  (lookup.filled ttl state query).get (state.now + pause) (lookup.key query) ≠ none

end

end Lookup

theorem Wrapper.get_getOrSet {cache : Cache driver} (later : now ≤ time)
    (hit : (Wrapper.getOrSet ttl now cache key loaded).get time other = some found) :
    driver.slot key = driver.slot other ∧ loaded = some found ∨
      cache.get time other = some found := by
  have looked {value : Json}
      (hit : ((cache.afterGet now key).set now key value ttl).get time other = some found) :
      driver.slot key = driver.slot other ∧ value = found ∨ cache.get time other = some found := by
    cases get_set hit with
    | inl stored => exact .inl ⟨stored.1, stored.2.symm⟩
    | inr kept => exact .inr ((get_afterGet later).symm.trans kept)
  unfold getOrSet at hit
  split at hit
  · exact (looked hit).imp_left fun stored => ⟨stored.1, congrArg some stored.2⟩
  · exact .inr ((get_afterGet later).symm.trans hit)
  · exact (looked hit).imp_left fun stored => ⟨stored.1, congrArg some stored.2⟩
  · exact .inr ((get_afterGet later).symm.trans hit)

theorem Lookup.lasts_at_once (lookup : Lookup Store Query Row) (ttl : Int)
    (state : Caching driver Store) (query : Query) : lookup.Lasts ttl state query 0 := by
  unfold Lookup.Lasts Lookup.filled Wrapper.getOrSet
  split
  · simp
  next found _ => simp [get_afterGet (Int.le_refl _), found]
  · simp
  next absent => cases absent

section

variable {lookup : Lookup Store Query Row} {ttl : Int} {state : Caching driver Store}
variable {query : Query} {pause : Nat}

theorem Lookup.coherent_of_empty
    (start : ∀ query, state.cache.get state.now (lookup.key query) = none) :
    lookup.Coherent state := by
  intro query value hit
  rw [start query] at hit
  cases hit

variable (coherent : lookup.Coherent state)

include coherent

theorem Lookup.Coherent.later (seconds : Nat) :
    lookup.Coherent { state with now := state.now + seconds } := by
  intro query value hit
  exact coherent query value (get_of_later (by simp only; omega) hit)

variable (separates : lookup.Separates driver) (plain : lookup.Plain state.store query)

include separates plain

theorem Lookup.Coherent.decode_filled (later : state.now ≤ time)
    (hit : (lookup.filled ttl state query).get time (lookup.key asked) = some value) :
    lookup.codec.decode value = some (lookup.rows state.store (lookup.canonical asked)) := by
  cases Wrapper.get_getOrSet later hit with
  | inl stored =>
    obtain ⟨same, loaded⟩ := stored
    rw [← Option.some.inj loaded, lookup.codec.decode_encode, plain, separates query asked same]
  | inr kept => exact coherent asked value (get_of_later later kept)

theorem Lookup.Coherent.read : lookup.Coherent (lookup.read ttl state query pause).1 := by
  intro asked value hit
  have kept : (lookup.filled ttl state query).get (state.now + pause) (lookup.key asked) =
      some value := (get_afterGet (Int.le_refl _)).symm.trans hit
  exact coherent.decode_filled separates plain (by omega) kept

theorem Lookup.Coherent.read_eq (lasts : lookup.Lasts ttl state query pause) :
    (lookup.read ttl state query pause).2 = some (lookup.rows state.store query) := by
  obtain ⟨value, hit⟩ := Option.ne_none_iff_exists'.mp lasts
  simp only [Lookup.read, hit, Option.bind_some]
  rw [coherent.decode_filled separates plain (by omega) hit, ← plain]

theorem Lookup.Coherent.eq_of_read {rows : List Row}
    (returned : (lookup.read ttl state query pause).2 = some rows) :
    rows = lookup.rows state.store query := by
  have lasts : lookup.Lasts ttl state query pause := by
    intro gone
    simp [Lookup.read, gone] at returned
  rw [coherent.read_eq separates plain lasts] at returned
  exact (Option.some.inj returned).symm

end

def Operation.isRemoval : Operation → Bool
  | .invalidate _ | .invalidatePattern _ => true
  | _ => false

@[simp] theorem all_isRemoval_invalidateText (key : String → String) (text : String) :
    (invalidateText key text).all Operation.isRemoval = true := by
  unfold invalidateText
  split <;> rfl

/-- The entries that it takes away, where a pattern can be deleted. -/
def Operation.Removes (driver : Cache.Driver) (key : String) : Operation → Prop
  | .invalidate own => driver.slot own = driver.slot key
  | .invalidatePattern pattern =>
    Glob.accepts (driver.buildKey pattern).toList (driver.slot key) = true
  | _ => False

theorem key_injective (free : ':' ∉ operation.toList) (otherFree : ':' ∉ other.toList)
    (same : keyPrefix ++ ":" ++ operation ++ ":" ++ rest =
      keyPrefix ++ ":" ++ other ++ ":" ++ otherRest) : operation = other ∧ rest = otherRest := by
  have spelled : operation.toList ++ ':' :: rest.toList =
      other.toList ++ ':' :: otherRest.toList := by
    simpa [← String.toList_inj] using same
  obtain ⟨sameOperation, sameRest⟩ := cut_injective free otherFree spelled
  exact ⟨String.toList_inj.mp sameOperation, String.toList_inj.mp sameRest⟩

theorem eq_of_slot_redis (same : Cache.Driver.redis.slot left = Cache.Driver.redis.slot right) :
    left = right := by
  simpa [Cache.Driver.slot_inj, Cache.Driver.fold, String.toList_inj] using same

section

instance encodableChar : Encodable Char := .ofLeftInverse Char.toNat Char.ofNat Char.ofNat_toNat

instance encodableString : Encodable String :=
  .ofLeftInverse String.toList String.ofList fun _ => String.ofList_toList

deriving instance Encodable for Filters.Sorting

deriving instance Encodable for Filters.Pagination

deriving instance Encodable for Filters.FindNode

deriving instance Encodable for Filters.FindGameMod

deriving instance Encodable for Param

def tellingDigests : Digests where
  sha256 := id
  hashParams
    | [.text value] => "text " ++ value
    | params => "number " ++ toString (Encodable.encode params)

theorem tellingDigests_apart : Function.Injective tellingDigests.hashParams := by
  intro left right same
  simp only [tellingDigests] at same
  split at same
  · split at same
    · rw [(String.append_right_inj _).mp same]
    · simp [← String.toList_inj] at same
  · split at same
    · simp [← String.toList_inj] at same
    · exact Encodable.encode_injective
        (toString_nat_injective ((String.append_right_inj _).mp same))

end

theorem Wrapper.get_of_removal {cache : Cache driver} (removal : operation.isRemoval = true)
    (hit : (Wrapper.apply ttl now cache operation).get time key = some found) :
    cache.get time key = some found := by
  cases operation with
  | getOrSet | getTyped | update => cases removal
  | invalidate own => exact (get_delete hit).2
  | invalidatePattern pattern =>
    cases driver with
    | redis => exact (get_deletePattern hit).2
    | _ => exact get_clear hit

theorem Wrapper.get_removals {cache : Cache .redis} {operations : List Operation}
    (removals : operations.all Operation.isRemoval = true)
    (hit : (operations.foldl (Wrapper.apply ttl now) cache).get time key = some found) :
    cache.get time key = some found ∧ ∀ operation ∈ operations, ¬ operation.Removes .redis key := by
  induction operations generalizing cache with
  | nil => exact ⟨hit, by simp⟩
  | cons operation rest ih =>
    rw [List.all_cons, Bool.and_eq_true] at removals
    obtain ⟨removal, laterRemovals⟩ := removals
    obtain ⟨earlier, others⟩ := ih laterRemovals hit
    have kept : cache.get time key = some found ∧ ¬ operation.Removes .redis key := by
      cases operation with
      | invalidate own =>
        obtain ⟨apart, kept⟩ := get_delete earlier
        exact ⟨kept, apart⟩
      | invalidatePattern pattern =>
        obtain ⟨refused, kept⟩ := get_deletePattern earlier
        exact ⟨kept, by simp [Operation.Removes, refused]⟩
      | getOrSet | getTyped | update => cases removal
    refine ⟨kept.1, ?_⟩
    intro other member
    cases List.mem_cons.mp member with
    | inl same => exact same ▸ kept.2
    | inr later => exact others other later

theorem Lookup.Coherent.write {lookup : Lookup Store Query Row} {state : Caching .redis Store}
    {operations : List Operation} (coherent : lookup.Coherent state)
    (removals : operations.all Operation.isRemoval = true)
    (covered : ∀ query, lookup.rows store (lookup.canonical query) =
      lookup.rows state.store (lookup.canonical query) ∨
      state.cache.get state.now (lookup.key query) = none ∨
      ∃ operation ∈ operations, operation.Removes .redis (lookup.key query)) :
    lookup.Coherent
      { state with
        cache := operations.foldl (Wrapper.apply ttl state.now) state.cache
        store := store } := by
  intro query value hit
  obtain ⟨kept, unremoved⟩ := Wrapper.get_removals removals hit
  rcases covered query with same | absent | removed
  · rw [same]
    exact coherent query value kept
  · rw [absent] at kept
    cases kept
  · obtain ⟨operation, member, removes⟩ := removed
    exact absurd removes (unremoved operation member)

end ShadowPanel.Repositories.Cached
