import Mathlib.Logic.Function.Basic

namespace ShadowPanel.Acme

open Function

/-! The two lockers of `internal/acme/locker`. Redis drops an entry when its time is over, and
the `InMemoryLocker` leaves it and looks at the clock. -/

inductive LockError where
  | ttlNotPositive | errLocked | alreadyReleased | errLockLost
  deriving DecidableEq

/-- The token of an entry is the number of the lock that set it. -/
structure LockEntry where
  token : Nat
  expiresAt : Int

structure Lock where
  key : String
  released : Bool

inductive LockerKind where
  | inMemory
  | redis

structure Locker where
  now : Int := 0
  entries : String → Option LockEntry := fun _ => none
  locks : List Lock := []

/-- Times to live are in milliseconds, the clock is in nanoseconds. -/
inductive LockCall where
  | acquire (key : String) (ttl : Int)
  | release (token : Nat)
  | refresh (token : Nat) (ttl : Int)
  | advance (elapsed : Nat)

def LockCall.token? : LockCall → Option Nat
  | .release token | .refresh token _ => some token
  | _ => none

namespace Locker

variable (locker : Locker)

def live (key : String) : Option LockEntry :=
  (locker.entries key).filter (locker.now < ·.expiresAt)

def purge : Locker := { locker with entries := locker.live }

def set (key : String) (entry : Option LockEntry) : Locker :=
  { locker with entries := update locker.entries key entry }

def holds (token : Nat) (lock : Lock) : Bool :=
  (locker.entries lock.key).any (·.token = token)

def expiry (ttl : Int) : Int := locker.now + ttl * 1000000

end Locker

namespace InMemoryLocker

variable (locker : Locker)

def acquire (key : String) (ttl : Int) : Locker × Option LockError :=
  if ttl ≤ 0 then (locker, some .ttlNotPositive)
  else if (locker.live key).isSome then (locker, some .errLocked)
  else
    let entry := ⟨locker.locks.length, locker.expiry ttl⟩
    ({ locker.set key (some entry) with locks := locker.locks ++ [⟨key, false⟩] }, none)

def drop (token : Nat) (lock : Lock) : Locker :=
  if locker.holds token lock then locker.set lock.key none else locker

def release (token : Nat) (lock : Lock) : Locker × Option LockError :=
  if lock.released then (locker, none)
  else
    let locks := locker.locks.set token { lock with released := true }
    ({ drop locker token lock with locks }, none)

def refresh (token : Nat) (ttl : Int) (lock : Lock) : Locker × Option LockError :=
  if lock.released then (locker, some .alreadyReleased)
  else if ttl ≤ 0 then (locker, some .ttlNotPositive)
  else if locker.holds token lock then
    (locker.set lock.key (some ⟨token, locker.expiry ttl⟩), none)
  else (locker, some .errLockLost)

end InMemoryLocker

namespace RedisLocker

variable (locker : Locker)

/-- `SET` with the mode `NX`, which answers `OK` when there was no such key. -/
def setNX (key : String) (entry : LockEntry) : Option Locker :=
  match locker.entries key with
  | some _ => none
  | none => some (locker.set key (some entry))

def acquire (key : String) (ttl : Int) : Locker × Option LockError :=
  if ttl ≤ 0 then (locker, some .ttlNotPositive)
  else
    match setNX locker key ⟨locker.locks.length, locker.expiry ttl⟩ with
    | none => (locker, some .errLocked)
    | some stored => ({ stored with locks := locker.locks ++ [⟨key, false⟩] }, none)

/-- The script compares the token with a `GET` of the key and deletes it. -/
def releaseScript (key : String) (token : Nat) : Locker :=
  match locker.entries key with
  | some entry => if entry.token = token then locker.set key none else locker
  | none => locker

def release (token : Nat) (lock : Lock) : Locker × Option LockError :=
  if lock.released then (locker, none)
  else
    let locks := locker.locks.set token { lock with released := true }
    ({ releaseScript locker lock.key token with locks }, none)

/-- The script compares the token and gives the entry a new time with `PEXPIRE`. -/
def refreshScript (key : String) (token : Nat) (ttl : Int) : Option Locker :=
  match locker.entries key with
  | some entry =>
    if entry.token = token then
      some (locker.set key (some { entry with expiresAt := locker.expiry ttl }))
    else none
  | none => none

def refresh (token : Nat) (ttl : Int) (lock : Lock) : Locker × Option LockError :=
  if lock.released then (locker, some .alreadyReleased)
  else if ttl ≤ 0 then (locker, some .ttlNotPositive)
  else
    match refreshScript locker lock.key token ttl with
    | some stored => (stored, none)
    | none => (locker, some .errLockLost)

end RedisLocker

namespace Locker

variable (locker : Locker)

def lockOf (token : Nat) (call : Lock → Locker × Option LockError) : Locker × Option LockError :=
  (locker.locks[token]?).elim (locker, none) call

/-- Redis drops what has expired, so that its commands find live entries only. -/
def call : LockerKind → LockCall → Locker × Option LockError
  | .inMemory, .acquire key ttl => InMemoryLocker.acquire locker key ttl
  | .inMemory, .release token => locker.lockOf token (InMemoryLocker.release locker token)
  | .inMemory, .refresh token ttl => locker.lockOf token (InMemoryLocker.refresh locker token ttl)
  | .inMemory, .advance elapsed => ({ locker with now := locker.now + elapsed }, none)
  | .redis, .acquire key ttl => RedisLocker.acquire locker key ttl
  | .redis, .release token => locker.lockOf token (RedisLocker.release locker token)
  | .redis, .refresh token ttl => locker.lockOf token (RedisLocker.refresh locker token ttl)
  | .redis, .advance elapsed => (purge { locker with now := locker.now + elapsed }, none)

def results (kind : LockerKind) : Locker → List LockCall → List (Option LockError)
  | _, [] => []
  | locker, call :: calls =>
    (locker.call kind call).2 :: results kind (locker.call kind call).1 calls

def Expired (token : Nat) (lock : Lock) : Prop :=
  ∃ entry, locker.entries lock.key = some entry ∧ entry.token = token ∧
    entry.expiresAt ≤ locker.now

/-- A call refreshes a lock that has expired and was not replaced. -/
def Revives : LockCall → Prop
  | .refresh token ttl => ∃ lock, locker.locks[token]? = some lock ∧ lock.released = false ∧
      0 < ttl ∧ locker.Expired token lock
  | _ => False

def NoneRevives : Locker → List LockCall → Prop
  | _, [] => True
  | locker, call :: calls =>
    ¬ locker.Revives call ∧ NoneRevives (locker.call .inMemory call).1 calls

variable {locker}

theorem purge_advance (elapsed : Nat) :
    ({ locker.purge with now := locker.now + elapsed } : Locker).purge =
      ({ locker with now := locker.now + elapsed } : Locker).purge := by
  simp only [purge, Locker.mk.injEq, true_and, and_true]
  funext key
  simp only [live, Option.filter_filter]
  congr
  grind

theorem purge_live (key : String) : locker.purge.live key = locker.live key := by
  simpa [purge] using congrArg (·.entries key) (locker.purge_advance 0)

theorem purge_set (key : String) (entry : Option LockEntry) :
    (locker.set key entry).purge =
      locker.purge.set key (entry.filter (locker.now < ·.expiresAt)) := by
  simp only [purge, set, Locker.mk.injEq, true_and, and_true]
  funext other
  simp only [live, update_apply]
  split <;> rfl

theorem purge_set_live (positive : ¬ ttl ≤ 0) (key : String) (token : Nat) :
    (locker.set key (some ⟨token, locker.expiry ttl⟩)).purge =
      locker.purge.set key (some ⟨token, locker.purge.expiry ttl⟩) := by
  rw [purge_set, Option.filter_some, if_pos (decide_eq_true _)]
  · rfl
  · simp only [expiry]
    omega

theorem Expired.holds (expired : locker.Expired token lock) :
    locker.holds token lock = true := by
  obtain ⟨entry, stored, own, -⟩ := expired
  simp [Locker.holds, stored, own]

theorem holds_purge (token : Nat) (lock : Lock) : locker.purge.holds token lock = true ↔
    locker.holds token lock = true ∧ ¬ locker.Expired token lock := by
  simp only [holds, purge, live, Expired]
  cases locker.entries lock.key with
  | none => simp
  | some entry => simp [Option.any_filter]; grind

theorem drop_purge (token : Nat) (lock : Lock) : InMemoryLocker.drop locker.purge token lock =
    (InMemoryLocker.drop locker token lock).purge := by
  have held := locker.holds_purge token lock
  unfold InMemoryLocker.drop
  by_cases expired : locker.Expired token lock
  · have gone : locker.purge.entries lock.key = none := by
      obtain ⟨entry, stored, -, ended⟩ := expired
      simp [purge, live, stored, Option.filter_some, Int.not_lt.mpr ended]
    have same : locker.purge.set lock.key none = locker.purge := by
      rw [set, ← gone, update_eq_self]
    rw [if_neg (fun holds => (held.mp holds).2 expired), apply_ite purge, purge_set,
      Option.filter_none, same, ite_self]
  · rw [if_congr (held.trans (and_iff_left expired)) rfl rfl, apply_ite purge, purge_set]
    rfl

theorem redis_acquire_eq (key : String) (ttl : Int) : RedisLocker.acquire locker key ttl =
    if ttl ≤ 0 then (locker, some .ttlNotPositive)
    else if (locker.entries key).isSome then (locker, some .errLocked)
    else
      let entry := ⟨locker.locks.length, locker.expiry ttl⟩
      ({ locker.set key (some entry) with locks := locker.locks ++ [⟨key, false⟩] }, none) := by
  unfold RedisLocker.acquire RedisLocker.setNX
  cases locker.entries key <;> rfl

@[simp]
theorem call_release (kind : LockerKind) (token : Nat) : locker.call kind (.release token) =
    locker.lockOf token (InMemoryLocker.release locker token) := by
  cases kind with
  | inMemory => rfl
  | redis =>
    refine congrArg (locker.lockOf token) (funext fun lock => ?_)
    unfold RedisLocker.release RedisLocker.releaseScript InMemoryLocker.release InMemoryLocker.drop
      holds
    cases locker.entries lock.key <;> simp

@[simp]
theorem call_refresh (kind : LockerKind) (token : Nat) (ttl : Int) :
    locker.call kind (.refresh token ttl) =
      locker.lockOf token (InMemoryLocker.refresh locker token ttl) := by
  cases kind with
  | inMemory => rfl
  | redis =>
    refine congrArg (locker.lockOf token) (funext fun lock => ?_)
    unfold RedisLocker.refresh RedisLocker.refreshScript InMemoryLocker.refresh holds
    cases locker.entries lock.key with
    | none => simp
    | some entry => by_cases own : entry.token = token <;> simp [own]

/-- On a store without what has expired, Redis answers as the other locker does, except to a call
that refreshes an expired lock. -/
theorem call_purge (call : LockCall) :
    ((locker.call .inMemory call).2 = (locker.purge.call .redis call).2 ↔ ¬ locker.Revives call) ∧
      (¬ locker.Revives call →
        (locker.purge.call .redis call).1 = (locker.call .inMemory call).1.purge) := by
  cases call with
  | acquire key ttl =>
    simp only [call, InMemoryLocker.acquire, redis_acquire_eq, Revives, not_false_iff, iff_true,
      true_imp_iff, show locker.purge.entries key = locker.live key from rfl]
    split
    next => exact ⟨rfl, rfl⟩
    next positive =>
      split
      next => exact ⟨rfl, rfl⟩
      next =>
        refine ⟨rfl, ?_⟩
        rw [show locker.purge.locks = locker.locks from rfl, ← purge_set_live positive]
        rfl
  | release token =>
    simp only [call_release, lockOf, Revives, not_false_iff, iff_true, true_imp_iff,
      show locker.purge.locks = locker.locks from rfl]
    cases locker.locks[token]? with
    | none => exact ⟨rfl, rfl⟩
    | some lock =>
      simp only [Option.elim_some, InMemoryLocker.release, drop_purge]
      split <;> exact ⟨rfl, rfl⟩
  | refresh token ttl =>
    simp only [call_refresh, lockOf, Revives,
      show locker.purge.locks = locker.locks from rfl]
    cases locker.locks[token]? with
    | none => simp
    | some lock =>
      have held := locker.holds_purge token lock
      simp only [Option.elim_some, InMemoryLocker.refresh, Option.some.injEq, exists_eq_left']
      split
      next released => simp [released]
      next unreleased =>
        split
        next none => simp [Int.not_lt.mpr none]
        next positive =>
          simp only [← purge_set_live positive, unreleased, Int.not_le.mp positive, true_and]
          by_cases expired : locker.Expired token lock
          · simp [expired, expired.holds, mt held.mp (not_and_not_right.mpr fun _ => expired)]
          · rw [if_congr (held.trans (and_iff_left expired)) rfl rfl]
            split <;> simp [expired]
  | advance elapsed => exact ⟨iff_of_true rfl id, fun _ => locker.purge_advance elapsed⟩

theorem results_purge (calls : List LockCall) :
    results .inMemory locker calls = results .redis locker.purge calls ↔
      NoneRevives locker calls := by
  induction calls generalizing locker with
  | nil => exact iff_of_true rfl trivial
  | cons call calls ih =>
    obtain ⟨same, step⟩ := locker.call_purge call
    rw [results, results, List.cons.injEq, NoneRevives, same]
    exact and_congr_right fun current => step current ▸ ih

def run (kind : LockerKind) (locker : Locker) (calls : List LockCall) : Locker :=
  calls.foldl (fun locker call => (locker.call kind call).1) locker

def Guards (key : String) (entry : LockEntry) (locker : Locker) : Prop :=
  entry.expiresAt ≤ locker.now ∨ locker.live key = some entry

theorem Guards.set (guards : Guards key entry locker)
    (apart : locker.live key = some entry → key ≠ changed) (value : Option LockEntry) :
    Guards key entry (locker.set changed value) := by
  refine guards.imp_right fun held => ?_
  have same := update_of_ne (apart held) value locker.entries
  exact (congrArg (Option.filter _) same).trans held

theorem ne_of_holds (foreign : some token ≠ some entry.token)
    (holds : locker.holds token lock = true) (held : locker.live key = some entry) :
    key ≠ lock.key := by
  rintro rfl
  have stored := (Option.filter_eq_some_iff.mp held).1
  simp [Locker.holds, stored, Ne.symm (mt (congrArg some) foreign)] at holds

theorem Guards.acquire (guards : Guards key entry locker) (kind : LockerKind) (other : String)
    (ttl : Int) : Guards key entry (locker.call kind (.acquire other ttl)).1 := by
  -- an entry that is live is in the way of both lockers
  have apart (free : ¬(locker.live other).isSome = true) :
      locker.live key = some entry → key ≠ other := by
    rintro held rfl
    simp [held] at free
  cases kind with
  | inMemory =>
    simp only [Locker.call, InMemoryLocker.acquire]
    repeat' split
    · exact guards
    · exact guards
    next free => exact guards.set (apart free) _
  | redis =>
    simp only [Locker.call, redis_acquire_eq]
    repeat' split
    · exact guards
    · exact guards
    next free => exact guards.set (apart (by simp_all [live])) _

theorem Guards.call (guards : Guards key entry locker) (kind : LockerKind) (call : LockCall)
    (foreign : call.token? ≠ some entry.token) : Guards key entry (locker.call kind call).1 := by
  cases call with
  | acquire other ttl => exact guards.acquire kind other ttl
  | release token | refresh token ttl =>
    simp only [call_release, call_refresh, lockOf]
    cases locker.locks[token]? with
    | none => exact guards
    | some lock =>
      -- the entry of a key changes only for the token it has
      simp only [Option.elim_some, InMemoryLocker.release, InMemoryLocker.refresh,
        InMemoryLocker.drop]
      repeat' split
      all_goals first | exact guards | exact guards.set (ne_of_holds foreign ‹_›) _
  | advance elapsed =>
    have later : Guards key entry { locker with now := locker.now + elapsed } := by
      simp only [Guards, live, Option.filter_eq_some_iff, decide_eq_true_eq] at guards ⊢
      grind
    cases kind with
    | inMemory => exact later
    | redis => exact later.imp_right (purge_live key).trans

theorem Guards.run (guards : Guards key entry locker) (kind : LockerKind) {calls : List LockCall}
    (foreign : ∀ call ∈ calls, call.token? ≠ some entry.token) :
    Guards key entry (locker.run kind calls) := by
  induction calls generalizing locker with
  | nil => exact guards
  | cons call calls ih =>
    exact ih (guards.call kind call (foreign call List.mem_cons_self)) fun other member =>
      foreign other (List.mem_cons_of_mem call member)

end Locker

/-- A held key is refused until its lock ends, if its holder neither releases nor refreshes it. -/
theorem held_key_refused (kind : LockerKind) (locker : Locker) (calls : List LockCall)
    (held : locker.live key = some entry) (foreign : ∀ call ∈ calls, call.token? ≠ some entry.token)
    (early : (locker.run kind calls).now < entry.expiresAt) (positive : 0 < ttl) :
    ((locker.run kind calls).call kind (.acquire key ttl)).2 = some .errLocked := by
  have held := (Locker.Guards.run (.inr held) kind foreign).resolve_left (Int.not_le.mpr early)
  have stored := (Option.filter_eq_some_iff.mp held).1
  cases kind with
  | inMemory =>
    rw [Locker.call, InMemoryLocker.acquire, if_neg (Int.not_le.mpr positive),
      if_pos (Option.isSome_of_eq_some held)]
  | redis =>
    rw [Locker.call, Locker.redis_acquire_eq, if_neg (Int.not_le.mpr positive),
      if_pos (Option.isSome_of_eq_some stored)]

theorem held_order_refused :
    let locker := Locker.run .redis {} [.acquire "order" 1]
    ((locker.run .redis [.advance 999999]).call .redis (.acquire "order" 1)).2 =
      some .errLocked :=
  held_key_refused .redis _ _ rfl (by simp [LockCall.token?]) (by decide) (by decide)

/-- The lockers answer alike exactly when no call refreshes a lock that has expired and was not
replaced. -/
theorem lockers_agree_iff (calls : List LockCall) :
    Locker.results .inMemory {} calls = Locker.results .redis {} calls ↔
      Locker.NoneRevives {} calls :=
  Locker.results_purge calls

theorem expired_lock_refreshed :
    let calls := [.acquire "order" 1, .advance 2000000, .refresh 0 1]
    Locker.results .inMemory {} calls = [none, none, none] ∧
      Locker.results .redis {} calls = [none, none, some .errLockLost] := by
  decide

end ShadowPanel.Acme
