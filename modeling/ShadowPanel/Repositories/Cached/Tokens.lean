import ShadowPanel.Data.Interleaving
import ShadowPanel.Repositories.Cached.Coherence
import ShadowPanel.Repositories.Tokens

namespace ShadowPanel.Repositories.Cached

open Data Domain Filters Pool Wrapper List

/-! The cached `PersonalAccessTokenRepository` of
`internal/repositories/cached/personal_access_token.go`: calls that concern one
token, one operation on the repository underneath or on the cache at a time. -/

inductive TokenFind where
  | looking
  | missed
  | loaded (rows : List StoredToken)
  | settled
  | finished (answer : Option (List StoredToken))

inductive TokenDelete where
  | looking
  | found (tokens : Option (List String))
  | dropping (operations : List Operation)
  | finished (deleted : Bool)

inductive TokenUse where
  | updating
  | reading
  | writing (token : StoredToken)
  | finished

inductive TokenCall where
  | find (pagination : Option Pagination) (stage : TokenFind)
  | delete (stage : TokenDelete)
  | updateLastUsedAt (lastUsedAt : Int) (stage : TokenUse)

structure Turn where
  seconds : Nat
  fails : Bool

variable {driver : Cache.Driver}
variable (digests : Digests) (codec : JsonCodec (List StoredToken)) (ttl : Int) (id : Nat)

def tokenIDKey : String := PersonalAccessTokenRepository.key digests "id" [.uint id]

namespace TokenCall

def cached (state : Caching driver TokenTable) : Option (List StoredToken) :=
  (state.cache.get state.now (tokenIDKey digests id)).bind codec.decode

/-- A stored null counts as a miss, and so does a failing cache. -/
def isHit (state : Caching driver TokenTable) (fails : Bool) : Bool :=
  match state.cache.get state.now (tokenIDKey digests id) with
  | none | some .null => false
  | some _ => !fails

def operate (fails : Bool) (state : Caching driver TokenTable) :
    TokenCall → Caching driver TokenTable
  | .find _ .looking | .find _ .settled | .updateLastUsedAt _ .reading =>
    { state with cache := state.cache.afterGet state.now (tokenIDKey digests id) }
  | .find _ (.loaded rows) =>
    if fails then state
    else
      { state with
        cache := state.cache.set state.now (tokenIDKey digests id) (codec.encode rows) ttl }
  | .updateLastUsedAt _ (.writing token) =>
    if fails then state
    else
      { state with
        cache := state.cache.set state.now (tokenIDKey digests id) (codec.encode [token]) ttl }
  | .delete (.found _) => if fails then state else { state with store := state.store.delete id }
  | .updateLastUsedAt lastUsedAt .updating =>
    if fails then state
    else { state with store := state.store.updateLastUsedAt id lastUsedAt }
  | .delete (.dropping (operation :: _)) =>
    if fails then state
    else { state with cache := Wrapper.apply ttl state.now state.cache operation }
  | _ => state

def advance (fails : Bool) (state : Caching driver TokenTable) : TokenCall → TokenCall
  | .find pagination .looking =>
    .find pagination (if isHit digests id state fails then .settled else .missed)
  | .find pagination .missed =>
    .find pagination (if fails then .finished none else .loaded (state.store.find id pagination))
  | .find pagination (.loaded _) => .find pagination .settled
  | .find pagination .settled =>
    .find pagination (.finished (if fails then none else cached digests codec id state))
  | .delete .looking =>
    .delete (.found
      (if fails then none else some ((state.store.find id none).map fun row => row.token)))
  | .delete (.found tokens) =>
    .delete (if fails then .finished false
      else .dropping (PersonalAccessTokenRepository.delete digests id tokens true))
  | .delete (.dropping []) => .delete (.finished true)
  | .delete (.dropping (_ :: rest)) =>
    .delete (if fails then .finished false else .dropping rest)
  | .updateLastUsedAt lastUsedAt .updating =>
    .updateLastUsedAt lastUsedAt (if fails then .finished else .reading)
  | .updateLastUsedAt lastUsedAt .reading =>
    .updateLastUsedAt lastUsedAt (match fails, cached digests codec id state with
      | false, some [token] => .writing { token with lastUsedAt := some lastUsedAt }
      | _, _ => .finished)
  | .updateLastUsedAt lastUsedAt (.writing _) => .updateLastUsedAt lastUsedAt .finished
  | call => call

def act (turn : Turn) (state : Caching driver TokenTable) (call : TokenCall) :
    Caching driver TokenTable × TokenCall :=
  (operate digests codec ttl id turn.fails { state with now := state.now + turn.seconds } call,
    advance digests codec id turn.fails { state with now := state.now + turn.seconds } call)

def holds : TokenCall → Bool
  | .find _ (.loaded rows) => !rows.isEmpty
  | .updateLastUsedAt _ (.writing _) => true
  | _ => false

def Unheld (turn : Turn) (_ : Caching driver TokenTable) (others : List TokenCall) :
    TokenCall → Prop
  | .delete (.dropping (.invalidate key :: _)) =>
    turn.fails = false → key = tokenIDKey digests id → others.all (!·.holds) = true
  | _ => True

end TokenCall

instance (turn : Turn) (state : Caching driver TokenTable) (others : List TokenCall)
    (call : TokenCall) : Decidable (call.Unheld digests id turn state others) := by
  unfold TokenCall.Unheld
  split <;> infer_instance

namespace TokenCall

def Proper : TokenCall → Prop
  | .delete (.dropping operations) => operations.all Operation.isRemoval = true
  | _ => True

def HasDeleted : TokenCall → Prop
  | .delete (.dropping _) | .delete (.finished true) => True
  | _ => False

def HasDropped : TokenCall → Prop
  | .delete (.dropping operations) => .invalidate (tokenIDKey digests id) ∉ operations
  | .delete (.finished true) => True
  | _ => False

def EntryEmpty (state : Caching driver TokenTable) : Prop :=
  ∀ time, state.now ≤ time → ∀ value,
    state.cache.get time (tokenIDKey digests id) = some value → codec.decode value = some []

structure Cleared (pool : Pool (Caching driver TokenTable) TokenCall) : Prop where
  proper : ∀ call ∈ pool.calls, call.Proper
  lacks : pool.shared.store.Lacks id
  entry : EntryEmpty digests codec id pool.shared
  idle : ∀ call ∈ pool.calls, call.holds = false

variable {digests codec ttl id} {state : Caching driver TokenTable} {call : TokenCall}
variable {fails : Bool}

@[simp] theorem now_operate (call : TokenCall) :
    (operate digests codec ttl id fails state call).now = state.now := by
  unfold operate
  split <;> (try split) <;> rfl

theorem lacks_operate (call : TokenCall) (lacks : state.store.Lacks id) :
    (operate digests codec ttl id fails state call).store.Lacks id := by
  unfold operate
  split <;> (try split) <;> first
    | exact lacks
    | exact lacks.delete id
    | exact lacks.updateLastUsedAt id _

section

variable (entry : EntryEmpty digests codec id state)

include entry

theorem EntryEmpty.later (seconds : Nat) :
    EntryEmpty digests codec id { state with now := state.now + seconds } := by
  intro time later
  exact entry time (by simp only at later; omega)

theorem EntryEmpty.cached (found : cached digests codec id state = some rows) : rows = [] := by
  obtain ⟨value, hit, decoded⟩ := Option.bind_eq_some_iff.mp found
  rw [entry state.now (Int.le_refl _) value hit] at decoded
  exact (Option.some.inj decoded).symm

theorem EntryEmpty.operate (proper : call.Proper) (idle : call.holds = false) :
    EntryEmpty digests codec id (operate digests codec ttl id fails state call) := by
  intro time later value hit
  rw [now_operate] at later
  have looked (hit : (state.cache.afterGet state.now (tokenIDKey digests id)).get time
      (tokenIDKey digests id) = some value) : codec.decode value = some [] :=
    entry time later value ((Cache.get_afterGet later).symm.trans hit)
  cases call with
  | find pagination stage =>
    cases stage with
    | looking | settled => exact looked hit
    | missed | finished => exact entry time later value hit
    | loaded rows =>
      have none : rows = [] := by simpa [holds] using idle
      subst none
      simp only [TokenCall.operate] at hit
      split at hit
      · exact entry time later value hit
      · cases Cache.get_set hit with
        | inl stored => rw [stored.2, codec.decode_encode]
        | inr kept => exact entry time later value kept
  | delete stage =>
    cases stage with
    | looking | finished => exact entry time later value hit
    | found tokens =>
      simp only [TokenCall.operate] at hit
      split at hit <;> exact entry time later value hit
    | dropping operations =>
      cases operations with
      | nil => exact entry time later value hit
      | cons operation rest =>
        have removal : operation.isRemoval = true :=
          (Bool.and_eq_true_iff.mp ((all_cons).symm.trans proper)).1
        simp only [TokenCall.operate] at hit
        split at hit
        · exact entry time later value hit
        · exact entry time later value (get_of_removal removal hit)
  | updateLastUsedAt lastUsedAt stage =>
    cases stage with
    | reading => exact looked hit
    | finished => exact entry time later value hit
    | writing token => cases idle
    | updating =>
      simp only [TokenCall.operate] at hit
      split at hit <;> exact entry time later value hit

end

theorem holds_advance (lacks : state.store.Lacks id) (entry : EntryEmpty digests codec id state)
    (idle : call.holds = false) : (advance digests codec id fails state call).holds = false := by
  cases call with
  | find pagination stage =>
    cases stage with
    | looking =>
      simp only [advance]
      split <;> rfl
    | missed =>
      simp only [advance, lacks.find]
      split <;> rfl
    | loaded | settled | finished => rfl
  | delete stage =>
    cases stage with
    | looking | found | finished => rfl
    | dropping operations => cases operations <;> rfl
  | updateLastUsedAt lastUsedAt stage =>
    cases stage with
    | updating =>
      simp only [advance]
      split <;> rfl
    | reading =>
      simp only [advance]
      split
      next token found => cases entry.cached found
      next => rfl
    | writing | finished => rfl

theorem Proper.advance (proper : call.Proper) :
    (advance digests codec id fails state call).Proper := by
  cases call with
  | find pagination stage => cases stage <;> trivial
  | updateLastUsedAt lastUsedAt stage => cases stage <;> trivial
  | delete stage =>
    cases stage with
    | looking | finished => trivial
    | found tokens =>
      cases fails with
      | true => trivial
      | false =>
        simp only [TokenCall.advance, PersonalAccessTokenRepository.delete, Proper, if_true]
        simp only [Bool.false_eq_true, if_false]
        split <;> simp [Operation.isRemoval]
    | dropping operations =>
      cases operations with
      | nil => trivial
      | cons operation rest =>
        cases fails with
        | true => trivial
        | false => exact (Bool.and_eq_true_iff.mp ((all_cons).symm.trans proper)).2

theorem hasDeleted_of_advance (deleted : (advance digests codec id fails state call).HasDeleted) :
    call.HasDeleted ∨ ∃ tokens, call = .delete (.found tokens) ∧ fails = false := by
  cases call with
  | find pagination stage => cases stage <;> cases deleted
  | updateLastUsedAt lastUsedAt stage => cases stage <;> cases deleted
  | delete stage =>
    cases stage with
    | looking => cases deleted
    | found tokens =>
      cases fails with
      | true => cases deleted
      | false => exact .inr ⟨tokens, rfl, rfl⟩
    | dropping operations => exact .inl trivial
    | finished done => exact .inl deleted

theorem hasDropped_of_advance
    (dropped : (advance digests codec id fails state call).HasDropped digests id) :
    call.HasDropped digests id ∨
      ∃ rest, call = .delete (.dropping (.invalidate (tokenIDKey digests id) :: rest)) ∧
        fails = false := by
  cases call with
  | find pagination stage => cases stage <;> cases dropped
  | updateLastUsedAt lastUsedAt stage => cases stage <;> cases dropped
  | delete stage =>
    cases stage with
    | looking => cases dropped
    | found tokens =>
      cases fails with
      | true => cases dropped
      | false =>
        refine absurd ?_ dropped
        simp [PersonalAccessTokenRepository.delete, tokenIDKey]
    | finished done => exact .inl dropped
    | dropping operations =>
      cases operations with
      | nil => exact .inl not_mem_nil
      | cons operation rest =>
        cases fails with
        | true => cases dropped
        | false =>
          by_cases own : operation = .invalidate (tokenIDKey digests id)
          · exact .inr ⟨rest, by rw [own], rfl⟩
          · refine .inl ?_
            intro member
            cases mem_cons.mp member with
            | inl same => exact own same.symm
            | inr later => exact dropped later

section

variable {before behind : List TokenCall} {turn : Turn}

theorem proper_act (proper : ∀ each ∈ before ++ call :: behind, each.Proper) :
    ∀ each ∈ before ++ (act digests codec ttl id turn state call).2 :: behind, each.Proper := by
  obtain ⟨others, own⟩ := forall_calls.mp proper
  exact forall_calls.mpr ⟨others, own.advance⟩

theorem Cleared.act (cleared : Cleared digests codec id ⟨state, before ++ call :: behind⟩) :
    Cleared digests codec id ⟨(act digests codec ttl id turn state call).1,
        before ++ (act digests codec ttl id turn state call).2 :: behind⟩ := by
  obtain ⟨proper, lacks, entry, idle⟩ := cleared
  obtain ⟨othersIdle, ownIdle⟩ := forall_calls.mp idle
  have later := entry.later turn.seconds
  exact {
    proper := proper_act proper
    lacks := lacks_operate call lacks
    entry := later.operate (forall_calls.mp proper).2 ownIdle
    idle := forall_calls.mpr ⟨othersIdle, holds_advance lacks later ownIdle⟩ }

theorem cleared_of_invalidate
    (call_eq : call = .delete (.dropping (.invalidate (tokenIDKey digests id) :: rest)))
    (works : turn.fails = false) (proper : ∀ each ∈ before ++ call :: behind, each.Proper)
    (lacks : state.store.Lacks id) (unheld : (before ++ behind).all (!·.holds) = true) :
    Cleared digests codec id ⟨(act digests codec ttl id turn state call).1,
        before ++ (act digests codec ttl id turn state call).2 :: behind⟩ where
  proper := proper_act proper
  lacks := lacks_operate call lacks
  entry := by
    intro time _ value hit
    simp only [TokenCall.act, call_eq, works] at hit
    exact absurd rfl (Cache.get_delete hit).1
  idle := by
    subst call_eq
    refine forall_calls.mpr ⟨?_, rfl⟩
    intro other member
    simpa using all_eq_true.mp unheld other member

variable (digests codec id) in
structure Deleting (pool : Pool (Caching driver TokenTable) TokenCall) : Prop where
  proper : ∀ call ∈ pool.calls, call.Proper
  deleted : ∀ call ∈ pool.calls, call.HasDeleted → pool.shared.store.Lacks id
  dropped : ∀ call ∈ pool.calls, call.HasDropped digests id → Cleared digests codec id pool

theorem Deleting.act (unheld : Unheld digests id turn state (before ++ behind) call)
    (deleting : Deleting digests codec id ⟨state, before ++ call :: behind⟩) :
    Deleting digests codec id ⟨(act digests codec ttl id turn state call).1,
        before ++ (act digests codec ttl id turn state call).2 :: behind⟩ := by
  obtain ⟨proper, deleted, dropped⟩ := deleting
  obtain ⟨othersDeleted, ownDeleted⟩ := forall_calls.mp deleted
  obtain ⟨othersDropped, ownDropped⟩ := forall_calls.mp dropped
  refine ⟨proper_act proper, forall_calls.mpr ⟨?_, ?_⟩, forall_calls.mpr ⟨?_, ?_⟩⟩
  · intro other beside hasDeleted
    exact lacks_operate call (othersDeleted other beside hasDeleted)
  · intro hasDeleted
    cases hasDeleted_of_advance hasDeleted with
    | inl already => exact lacks_operate call (ownDeleted already)
    | inr now =>
      obtain ⟨tokens, rfl, works⟩ := now
      simp only [TokenCall.act, operate, works, Bool.false_eq_true, if_false]
      exact TokenTable.lacks_delete
  · intro other beside hasDropped
    exact (othersDropped other beside hasDropped).act
  · intro hasDropped
    cases hasDropped_of_advance hasDropped with
    | inl already => exact (ownDropped already).act
    | inr now =>
      obtain ⟨rest, rfl, works⟩ := now
      exact cleared_of_invalidate rfl works proper (ownDeleted trivial) (unheld works rfl)

end

def IsNew : TokenCall → Prop
  | .find _ .looking | .delete .looking | .updateLastUsedAt _ .updating => True
  | _ => False

theorem deleting_of_new {pool : Pool (Caching driver TokenTable) TokenCall}
    (start : ∀ call ∈ pool.calls, call.IsNew) : Deleting digests codec id pool := by
  have idle (call : TokenCall) (new : call.IsNew) :
      call.Proper ∧ ¬ call.HasDeleted ∧ ¬ call.HasDropped digests id := by
    unfold IsNew at new
    split at new
    · exact ⟨trivial, not_false, not_false⟩
    · exact ⟨trivial, not_false, not_false⟩
    · exact ⟨trivial, not_false, not_false⟩
    · cases new
  constructor
  · intro call member
    exact (idle call (start call member)).1
  · intro call member hasDeleted
    exact absurd hasDeleted (idle call (start call member)).2.1
  · intro call member hasDropped
    exact absurd hasDropped (idle call (start call member)).2.2

def AnswersNothing : TokenCall → Prop
  | .find _ (.finished (some rows)) => rows = []
  | _ => True

theorem AnswersNothing.advance (entry : EntryEmpty digests codec id state)
    (nothing : call.AnswersNothing) :
    (advance digests codec id fails state call).AnswersNothing := by
  cases call with
  | updateLastUsedAt lastUsedAt stage => cases stage <;> trivial
  | delete stage =>
    cases stage with
    | looking | found | finished => trivial
    | dropping operations => cases operations <;> trivial
  | find pagination stage =>
    cases stage with
    | looking | missed =>
      simp only [TokenCall.advance]
      split <;> trivial
    | loaded rows => trivial
    | finished answer => exact nothing
    | settled =>
      simp only [TokenCall.advance]
      cases fails with
      | true => trivial
      | false =>
        cases found : TokenCall.cached digests codec id state with
        | none => trivial
        | some rows => exact entry.cached found

theorem Cleared.answers (cleared : Cleared digests codec id pool)
    (unheld : Along (Pool.step (TokenCall.act digests codec ttl id))
      (Pool.Admits (Unheld digests id)) pool events) {index : Nat}
    (starts : pool.calls[index]? = some call) (nothing : call.AnswersNothing) :
    ∃ last, (run (Pool.step (TokenCall.act digests codec ttl id)) pool events).calls[index]? =
      some last ∧
      last.AnswersNothing := by
  refine call_invariant _ ?_ ?_ unheld cleared starts nothing
  · intro turn state before call behind _ holds
    exact holds.act
  · intro turn state before call behind holds ownNothing
    exact ownNothing.advance (holds.entry.later turn.seconds)

end TokenCall

def TokenCall.answer : TokenCall → Option (Option (List StoredToken))
  | .find _ (.finished answer) => some answer
  | _ => none

def TokenCall.isFinished : TokenCall → Bool
  | .find _ (.finished _) | .delete (.finished _) | .updateLastUsedAt _ .finished => true
  | _ => false

def tokenCodec : JsonCodec StoredToken :=
  .through (.pair .natural <| .pair .text <| .pair .natural <| .pair .text <| .optional .integer)
    (fun row => (row.id, row.tokenableType, row.tokenableID, row.token, row.lastUsedAt))
    (fun (id, tokenableType, tokenableID, token, lastUsedAt) =>
      ⟨⟨id, tokenableType, tokenableID, token⟩, lastUsedAt⟩)
    (fun _ => rfl)

def sampleToken (lastUsedAt : Option Int) : StoredToken where
  id := 7
  tokenableType := "user"
  tokenableID := 1
  token := "digest"
  lastUsedAt := lastUsedAt

def beside (call : TokenCall) : Pool (Caching .redis TokenTable) TokenCall where
  shared := ⟨0, Cache.empty, ⟨[sampleToken none]⟩⟩
  calls := [call, .delete .looking, .find none .looking]

def turns (indices : List Nat) : List (Nat × Turn) := indices.map fun index => (index, ⟨0, false⟩)

def tokenStep : Pool (Caching .redis TokenTable) TokenCall → Nat × Turn →
    Pool (Caching .redis TokenTable) TokenCall :=
  Pool.step (TokenCall.act tellingDigests tokenCodec.list 300 7)

def overtakenFind : Pool (Caching .redis TokenTable) TokenCall :=
  run tokenStep (beside (.find none .looking)) (turns [0, 0, 1, 1, 1, 1, 1, 1, 0, 0])

theorem deleted_token_returns : overtakenFind.calls.map TokenCall.isFinished = [true, true, false] ∧
    overtakenFind.shared.store.rows = [] ∧
    (run tokenStep overtakenFind (turns [2, 2])).calls.map TokenCall.answer =
      [some (some [sampleToken none]), none, some (some [sampleToken none])] := by
  decide +kernel

section

open TokenCall

variable {digests codec ttl id}

/-- When no call has the token in hand at the moment that a `Delete` takes it out
of the cache, no `Find` that starts after the `Delete` returns it. -/
theorem deleted_token_not_found {pool : Pool (Caching driver TokenTable) TokenCall}
    (start : ∀ call ∈ pool.calls, call.IsNew) {first rest : List (Nat × Turn)}
    (unheld : Along (Pool.step (act digests codec ttl id)) (Pool.Admits (Unheld digests id)) pool
      (first ++ rest)) {between last : Pool (Caching driver TokenTable) TokenCall}
    (reaches : run (Pool.step (act digests codec ttl id)) pool first = between)
    (deleted : .delete (.finished true) ∈ between.calls) {index : Nat}
    {pagination : Option Pagination}
    (starts : between.calls[index]? = some (.find pagination .looking))
    (ends : run (Pool.step (act digests codec ttl id)) between rest = last)
    {rows : List StoredToken}
    (returned : last.calls[index]? = some (.find pagination (.finished (some rows)))) :
    rows = [] := by
  obtain ⟨alongFirst, alongRest⟩ := along_append.mp unheld
  rw [reaches] at alongRest
  have deleting : Deleting digests codec id between := by
    rw [← reaches]
    refine invariant _ alongFirst ?_ (deleting_of_new start)
    intro turn state before call behind admitted holds
    exact holds.act admitted
  have cleared : Cleared digests codec id between := deleting.dropped _ deleted trivial
  obtain ⟨final, found, nothing⟩ := cleared.answers alongRest starts trivial
  rw [ends, returned] at found
  cases found
  exact nothing

end

theorem deleted_token_not_found_inTurn : (run tokenStep (beside (.find none .looking))
      (turns [0, 0, 0, 0, 1, 1, 1, 1, 1, 1] ++ turns [2, 2, 2, 2])).calls.map
        TokenCall.answer = [some (some [sampleToken none]), none, some (some [])] ∧
    ∀ rows, (run tokenStep (run tokenStep (beside (.find none .looking))
        (turns [0, 0, 0, 0, 1, 1, 1, 1, 1, 1])) (turns [2, 2, 2, 2])).calls[2]? =
          some (.find none (.finished (some rows))) → rows = [] := by
  refine ⟨by decide +kernel, fun rows returned => ?_⟩
  refine deleted_token_not_found ?start ?unheld rfl ?deleted ?starts rfl returned
  case start =>
    intro call member
    simp only [beside, mem_cons, not_mem_nil, or_false] at member
    rcases member with rfl | rfl | rfl <;> trivial
  case unheld => decide +kernel
  case deleted => exact mem_cons_of_mem _ mem_cons_self
  case starts => rfl

end ShadowPanel.Repositories.Cached
