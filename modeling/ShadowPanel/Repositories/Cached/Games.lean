import ShadowPanel.Data.Runs
import ShadowPanel.Domain.Games
import ShadowPanel.Repositories.Cached.Coherence

namespace ShadowPanel.Repositories.Cached

open Data Domain Filters List

universe u v w

/-! The cached `GameRepository` of `internal/repositories/cached/games.go`, with
what its calls return. -/

/-- The repository underneath.  A write that fails leaves it as it is. -/
structure InnerGames (Store : Type u) (Row : Type v) (Fault : Type w) where
  findAll : Store → Option (List Sorting) → Option Pagination → List Row
  find : Store → Option (List String) → List Sorting → Option Pagination → List Row
  save : Store → Row → Except Fault Store
  delete : Store → String → Except Fault Store

inductive GameQuery where
  | all (order : Option (List Sorting)) (pagination : Option Pagination)
  | find (codes : Option (List String)) (order : List Sorting) (pagination : Option Pagination)

inductive CachedGames where
  | all (order : Option (List Sorting)) (pagination : Option Pagination)
  | codes (values : List String) (pagination : Option Pagination)

namespace CachedGames

def query : CachedGames → GameQuery
  | .all order pagination => .all order pagination
  | .codes values pagination => .find (some values) [] pagination

def keyParts : CachedGames → String × List Param
  | .all order pagination => ("all", [.order order, .pagination pagination])
  | .codes values _ => ("codes", [.texts values])

def key (digests : Digests) (cached : CachedGames) : String :=
  GameRepository.key digests cached.keyParts.1 cached.keyParts.2

theorem key_eq (digests : Digests) (cached : CachedGames) : cached.key digests =
    "games:" ++ (cached.keyParts.1 ++ ":" ++ digests.hashParams cached.keyParts.2) := by
  cases cached <;> simp [key, keyParts, GameRepository.key, buildKey, ← String.toList_inj]

/-- The lookup that the entry of a key stands for, once a page is chosen for every
list of codes. -/
def canonical (page : List String → Option Pagination) : CachedGames → CachedGames
  | .all order pagination => .all order pagination
  | .codes values _ => .codes values (page values)

end CachedGames

namespace GameQuery

def cached : GameQuery → Option CachedGames
  | .all order pagination => some (.all order pagination)
  | .find none _ _ => none
  | .find (some codes) order pagination =>
    if 0 < order.length || isPaginated pagination then none
    else if 0 < codes.length then some (.codes codes pagination)
    else none

theorem query_of_cached {cached : CachedGames} (found : query.cached = some cached) :
    cached.query = query := by
  cases query with
  | all order pagination =>
    cases found
    rfl
  | find codes order pagination =>
    cases codes with
    | none => cases found
    | some codes =>
      cases order with
      | nil =>
        simp only [GameQuery.cached] at found
        split at found
        · cases found
        · split at found <;> cases found
          rfl
      | cons => simp [GameQuery.cached] at found

theorem find_eq_cached (digests : Digests) (codes : Option (List String)) (order : List Sorting)
    (pagination : Option Pagination) (loaded : Option Json) :
    GameRepository.find digests codes order pagination loaded =
      match (GameQuery.find codes order pagination).cached with
    | some cached => readThrough (cached.key digests) loaded | none => [] := by
  cases codes with
  | none => rfl
  | some codes =>
    simp only [GameRepository.find, GameQuery.cached]
    split
    · rfl
    · split <;> rfl

variable {Store : Type u} {Row : Type v} {Fault : Type w}

def rows (inner : InnerGames Store Row Fault) (store : Store) : GameQuery → List Row
  | .all order pagination => inner.findAll store order pagination
  | .find codes order pagination => inner.find store codes order pagination

end GameQuery

inductive GameCall (Row : Type v) where
  | wait (seconds : Nat)
  | read (query : GameQuery) (pause : Nat)
  | save (game : Row)
  | delete (code : String)

def BareGame := { game : Game // game.metadata = none }

def bareGameCodec : JsonCodec BareGame :=
  .through
    (.pair .text <| .pair .text <| .pair .text <| .pair .text <|
      .pair (.optional .natural) <| .pair (.optional .natural) <| .pair (.optional .text) <|
      .pair (.optional .text) <| .pair (.optional .text) <| .pair (.optional .text) <|
      .pair (.optional .text) .integer)
    (fun game => (game.1.code, game.1.name, game.1.engine, game.1.engineVersion,
      game.1.steamAppIDLinux, game.1.steamAppIDWindows, game.1.steamAppSetConfig,
      game.1.remoteRepositoryLinux, game.1.remoteRepositoryWindows, game.1.localRepositoryLinux,
      game.1.localRepositoryWindows, game.1.enabled))
    (fun (code, name, engine, engineVersion, appLinux, appWindows, setConfig, remoteLinux,
        remoteWindows, localLinux, localWindows, enabled) =>
      ⟨⟨code, name, engine, engineVersion, appLinux, appWindows, setConfig, remoteLinux,
        remoteWindows, localLinux, localWindows, enabled, none⟩, rfl⟩)
    (fun game => Subtype.ext
      (congrArg (fun metadata => { game.1 with metadata := metadata }) game.2.symm))

def inMemoryGames (sorted : Sorted BareGame) : InnerGames (List BareGame) BareGame Empty where
  findAll rows order pagination := applyPagination pagination (sortRows sorted (order.getD []) rows)
  find rows codes order pagination :=
    applyPagination pagination (sortRows sorted order (rows.filter fun row =>
      codes.all fun codes => codes.isEmpty || codes.contains row.1.code))
  save rows game := .ok (rows.filter (fun row => row.1.code != game.1.code) ++ [game])
  delete rows code := .ok (rows.filter fun row => row.1.code != code)

def bareGame (code : String) : BareGame :=
  ⟨⟨code, code, "source", "1", none, none, none, none, none, none, none, 1, none⟩, rfl⟩

def unsorted : Sorted BareGame := fun _ => .kept

def twoGames : Caching .redis (List BareGame) where
  now := 0
  cache := Cache.empty
  store := [bareGame "a", bareGame "b"]

def bothCodes (pagination : Option Pagination) : GameQuery := .find (some ["a", "b"]) [] pagination

section

variable {driver : Cache.Driver} {Store : Type u} {Row : Type v} {Fault : Type w}
variable (digests : Digests) (inner : InnerGames Store Row Fault)
variable (codec : JsonCodec (List Row)) (page : List String → Option Pagination)

def gameLookup : Lookup Store CachedGames Row where
  rows store cached := cached.query.rows inner store
  key := CachedGames.key digests
  canonical := CachedGames.canonical page
  codec := codec

variable (ttl : Int) (state : Caching driver Store)

def gameRead (query : GameQuery) (pause : Nat) : Caching driver Store × Option (List Row) :=
  match query.cached with
  | some cached => (gameLookup digests inner codec page).read ttl state cached pause
  | none => ({ state with now := state.now + pause }, some (query.rows inner state.store))

def gameWrite (written : Except Fault Store) : Except Fault (Caching driver Store) :=
  written.map fun store =>
    { state with
      cache := (GameRepository.write true).foldl (Wrapper.apply ttl state.now) state.cache
      store := store }

def gameSave (game : Row) : Except Fault (Caching driver Store) :=
  gameWrite ttl state (inner.save state.store game)

def gameDelete (code : String) : Except Fault (Caching driver Store) :=
  gameWrite ttl state (inner.delete state.store code)

def gameStep : GameCall Row → Caching driver Store
  | .wait seconds => { state with now := state.now + seconds }
  | .read query pause => (gameRead digests inner codec page ttl state query pause).1
  | .save game => (gameSave inner ttl state game).toOption.getD state
  | .delete code => (gameDelete inner ttl state code).toOption.getD state

namespace GameCall

/-- A cached lookup asks for the page that its codes are cached with, and reads back
what it met or stored before that expires. -/
def Safe : GameCall Row → Prop
  | .read query pause => ∀ cached, query.cached = some cached →
      (gameLookup digests inner codec page).Plain state.store cached ∧
        (gameLookup digests inner codec page).Lasts ttl state cached pause
  | .wait _ | .save _ | .delete _ => True

def Returns : GameCall Row → Prop
  | .wait _ => True
  | .read query pause =>
    (gameRead digests inner codec page ttl state query pause).2 =
        some (query.rows inner state.store) ∧
      (gameRead digests inner codec page ttl state query pause).1.store = state.store
  | .save game =>
    (gameSave inner ttl state game).map Caching.store = inner.save state.store game
  | .delete code =>
    (gameDelete inner ttl state code).map Caching.store = inner.delete state.store code

end GameCall

def Digests.Apart (driver : Cache.Driver) : Prop :=
  ∀ left right, (digests.hashParams left).toList.map driver.fold =
    (digests.hashParams right).toList.map driver.fold → left = right

theorem gameLookup_separates (apart : digests.Apart driver) :
    (gameLookup digests inner codec page).Separates driver := by
  intro left right same
  have sameKey : (left.key digests).toList.map driver.fold =
      (right.key digests).toList.map driver.fold := Cache.Driver.slot_inj.mp same
  have letters : driver.fold 'a' ≠ driver.fold 'c' := fun equal =>
    absurd (driver.fold_letters rfl rfl equal) (by decide)
  simp only [CachedGames.key_eq, String.toList_append, map_append,
    append_cancel_left_eq] at sameKey
  cases left with
  | all order pagination =>
    cases right with
    | all other otherPagination =>
      have params := apart _ _ (append_cancel_left sameKey)
      simp only [CachedGames.keyParts, cons.injEq, Param.order.injEq,
        Param.pagination.injEq] at params
      rw [params.1, params.2.1]
    | codes => simp [CachedGames.keyParts, letters] at sameKey
  | codes values pagination =>
    cases right with
    | all => simp [CachedGames.keyParts, letters.symm] at sameKey
    | codes other otherPagination =>
      have params := apart _ _ (append_cancel_left sameKey)
      simp only [CachedGames.keyParts, cons.injEq, Param.texts.injEq] at params
      exact congrArg (fun values => CachedGames.codes values (page values)) params.1

variable {digests inner codec page state}

theorem Wrapper.get_invalidatePattern {cache : Cache driver} (literal : String)
    (plain : Glob.Plain literal.toList) (begins : literal.toList <+: key.toList) :
    (Wrapper.invalidatePattern cache (literal ++ "*")).get time key = none := by
  cases driver with
  | redis =>
    simp [invalidatePattern, Cache.get, Cache.item, Cache.deletePattern,
      (accepts_literal plain key).mpr begins]
  | inMemory => rfl
  | mysql collation | postgreSQL =>
    simp [invalidatePattern, Cache.get, Cache.item, Cache.clear, Cache.Driver.clears,
      Cache.Driver.slot, Cache.Driver.buildKey]

theorem get_write_eq_none (cached : CachedGames) (time : Int) :
    ((GameRepository.write true).foldl (Wrapper.apply ttl state.now) state.cache).get time
      (cached.key digests) = none := by
  apply Wrapper.get_invalidatePattern "games:" (by decide)
  rw [CachedGames.key_eq, String.toList_append]
  exact prefix_append _ _

variable {ttl}

theorem GameCall.returns_of_coherent (apart : digests.Apart driver) (call : GameCall Row)
    (safe : call.Safe digests inner codec page ttl state)
    (coherent : (gameLookup digests inner codec page).Coherent state) :
    (gameLookup digests inner codec page).Coherent
        (gameStep digests inner codec page ttl state call) ∧
      call.Returns digests inner codec page ttl state := by
  have separates := gameLookup_separates digests inner codec page apart
  have written (outcome : Except Fault Store) :
      (gameLookup digests inner codec page).Coherent
          ((gameWrite ttl state outcome).toOption.getD state) ∧
        (gameWrite ttl state outcome).map Caching.store = outcome := by
    cases outcome with
    | error fault => exact ⟨coherent, rfl⟩
    | ok store =>
      exact ⟨Lookup.coherent_of_empty fun cached => get_write_eq_none ttl cached _, rfl⟩
  cases call with
  | wait seconds => exact ⟨coherent.later seconds, trivial⟩
  | save game => exact written (inner.save state.store game)
  | delete code => exact written (inner.delete state.store code)
  | read query pause =>
    cases found : query.cached with
    | none =>
      simp only [gameStep, Returns, gameRead, found, and_self]
      exact ⟨coherent.later pause, trivial⟩
    | some cached =>
      obtain ⟨plain, lasts⟩ := safe cached found
      simp only [gameStep, Returns, gameRead, found]
      refine ⟨coherent.read separates plain, ?_, rfl⟩
      rw [coherent.read_eq separates plain lasts, ← GameQuery.query_of_cached found]
      rfl

theorem calls_return_inner_games (apart : digests.Apart driver)
    (start : ∀ cached : CachedGames, state.cache.get state.now (cached.key digests) = none)
    {calls : List (GameCall Row)}
    (safe : Along (gameStep digests inner codec page ttl)
      (GameCall.Safe digests inner codec page ttl) state calls) :
    Along (gameStep digests inner codec page ttl)
      (GameCall.Returns digests inner codec page ttl) state calls := by
  have coherent : (gameLookup digests inner codec page).Coherent state :=
    Lookup.coherent_of_empty start
  refine safe.imp_of_invariant _ ?_ coherent
  intro state call admitted sound
  exact call.returns_of_coherent apart admitted sound

end

theorem calls_return_inner_games_deleted :
    Along (gameStep tellingDigests (inMemoryGames unsorted) bareGameCodec.list (fun _ => none) 300)
      (GameCall.Returns tellingDigests (inMemoryGames unsorted) bareGameCodec.list
        (fun _ => none) 300)
      twoGames [.read (bothCodes none) 0, .delete "a", .read (bothCodes none) 0] := by
  refine calls_return_inner_games ?apart (fun _ => rfl) ⟨?first, trivial, ?second, trivial⟩
  case apart =>
    intro left right same
    exact tellingDigests_apart (String.toList_inj.mp (by simpa [Cache.Driver.fold] using same))
  all_goals
    intro cached found
    cases found
    exact ⟨rfl, Lookup.lasts_at_once _ _ _ _⟩

def codesDigests : Digests where
  sha256 := id
  hashParams
    | [.texts codes] => ",".intercalate codes
    | _ => ""

def sampleRead (ttl : Int) (state : Caching .redis (List BareGame)) (query : GameQuery)
    (pause : Nat) : Caching .redis (List BareGame) × Option (List BareGame) :=
  gameRead codesDigests (inMemoryGames unsorted) bareGameCodec.list (fun _ => none) ttl state query
    pause

theorem short_page_is_returned :
    ((sampleRead 300 (sampleRead 300 twoGames (bothCodes (some ⟨1, 0⟩)) 0).1
        (bothCodes none) 0).2.map fun rows => rows.map fun row => row.1.code) = some ["a"] ∧
      ((bothCodes none).rows (inMemoryGames unsorted) twoGames.store).map (fun row => row.1.code) =
        ["a", "b"] ∧
      ((sampleRead 1 twoGames (bothCodes none) 2).2.map fun rows =>
        rows.map fun row => row.1.code) = none := by
  decide +kernel

end ShadowPanel.Repositories.Cached
