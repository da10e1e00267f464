import ShadowPanel.Middlewares.LoginAttempt
import ShadowPanel.Security.LoginLimit

namespace ShadowPanel.Security

open Data Middlewares List

/-! How the failures of one address are counted when its requests run side by side. -/

variable {driver : Cache.Driver} {limiter : LoginRateLimit} {toLower sha256 : String → String}

def failedSince (start : Int) : Option (Nat × Int) → Bool
  | some (status, time) => status = 401 && start ≤ time
  | none => false

def pastIP : LoginStage → Bool
  | .readUsername | .writeUsername _ | .finished => true
  | _ => false

def recorded (start : Int) (attempt : LoginAttempt) : Bool :=
  pastIP attempt.stage && failedSince start attempt.answer

variable (limiter) in
def UndisturbedWrite (moment : Moment) (limiting : Limiting driver) (_ : List LoginAttempt)
    (attempt : LoginAttempt) : Prop :=
  match attempt.stage with
  | .writeIP count =>
    readCount limiting.cache (limiting.now + moment.seconds) (ipKey (attempt.ip limiter)) ≤ count
  | _ => True

instance (moment : Moment) (limiting : Limiting driver) (others : List LoginAttempt)
    (attempt : LoginAttempt) :
    Decidable (UndisturbedWrite limiter moment limiting others attempt) := by
  unfold UndisturbedWrite
  split <;> infer_instance

variable (limiter toLower sha256) in
def sideBySide (cache : Cache driver) (now : Int) (requests : List LoginRequest)
    (events : List (Nat × Moment)) : Pool (Limiting driver) LoginAttempt :=
  run (Pool.step (LoginAttempt.act limiter toLower sha256))
    ⟨⟨now, cache⟩, requests.map LoginAttempt.start⟩ events

section

variable {attempt : LoginAttempt} {cache : Cache driver} {now start deadline : Int}
variable {address : String} {count status : Nat}

theorem CountsUntil.operate (counts : CountsUntil cache (ipKey address) count deadline)
    (early : now ≤ deadline) (idle : ∀ read, attempt.stage ≠ .writeIP read) :
    CountsUntil (attempt.operate limiter toLower sha256 cache now) (ipKey address) count
      deadline := by
  have apart (name : String) : driver.slot (userKey sha256 name) ≠ driver.slot (ipKey address) :=
    (slot_ipKey_ne_userKey address name sha256).symm
  cases position : attempt.stage with
  | writeIP read => exact absurd position (idle read)
  | writeUsername read =>
    simp only [LoginAttempt.operate, position]
    exact counts.congr (Cache.item_set_of_ne (apart _))
  | resetUsername =>
    simp only [LoginAttempt.operate, position]
    exact counts.congr (Cache.item_delete_of_ne (apart _))
  | handle | finished =>
    simp only [LoginAttempt.operate, position]
    exact counts
  | checkIP | checkUsername | readIP | readUsername =>
    simp only [LoginAttempt.operate, position]
    split
    · exact counts.afterGet early
    · exact counts

theorem failedSince_iff :
    failedSince start answer = true ↔ ∃ time, start ≤ time ∧ answer = some (401, time) := by
  match answer with
  | none => simp [failedSince]
  | some (status, time) =>
    simp only [failedSince, Bool.and_eq_true, decide_eq_true_eq, Option.some.injEq, Prod.mk.injEq]
    constructor
    · intro ⟨refused, begun⟩
      exact ⟨time, begun, refused, rfl⟩
    · intro ⟨moment, begun, refused, same⟩
      exact ⟨refused, same ▸ begun⟩

variable (cache now status) in
theorem recorded_advance (named : attempt.ip limiter ≠ "")
    (reset : attempt.stage = .resetUsername → failedSince start attempt.answer = false)
    (idle : ∀ read, attempt.stage ≠ .writeIP read) :
    recorded start (attempt.advance limiter toLower sha256 cache now status) =
      recorded start attempt := by
  obtain ⟨request, stage, answer⟩ := attempt
  cases stage with
  | writeIP read => exact absurd rfl (idle read)
  | checkIP | checkUsername =>
    simp only [LoginAttempt.advance]
    split <;> simp [recorded, pastIP, failedSince]
  | handle =>
    by_cases failed : status = 401 <;>
    simp [LoginAttempt.advance, LoginAttempt.stageAfter, recorded, pastIP, failedSince, failed]
  | readIP => simp [LoginAttempt.advance, recorded, pastIP, named]
  | readUsername =>
    simp only [LoginAttempt.advance]
    split <;> rfl
  | resetUsername => simp [LoginAttempt.advance, recorded, reset rfl]
  | writeUsername read | finished => rfl

variable (limiter) in
structure Placed (address : String) (start now : Int) (attempt : LoginAttempt) : Prop where
  ip : attempt.ip limiter = address
  past : ∀ status time, attempt.answer = some (status, time) → time ≤ now
  reset : attempt.stage = .resetUsername → failedSince start attempt.answer = false

theorem Placed.later (placed : Placed limiter address start now attempt) (passed : now ≤ behind) :
    Placed limiter address start behind attempt where
  ip := placed.ip
  past := fun status time answered => Int.le_trans (placed.past status time answered) passed
  reset := placed.reset

variable (cache status) in
theorem Placed.advance (placed : Placed limiter address start now attempt) :
    Placed limiter address start now (attempt.advance limiter toLower sha256 cache now status) where
  ip := by
    rw [LoginAttempt.ip, LoginAttempt.request_advance]
    exact placed.ip
  past := by
    obtain ⟨request, stage, answer⟩ := attempt
    intro code time answered
    cases stage with
    | handle =>
      cases answered
      exact Int.le_refl now
    | checkIP | checkUsername =>
      simp only [LoginAttempt.advance] at answered
      split at answered
      · cases answered
        exact Int.le_refl now
      · exact placed.past code time answered
    | readIP | readUsername =>
      simp only [LoginAttempt.advance] at answered
      split at answered <;> exact placed.past code time answered
    | writeIP | writeUsername | resetUsername | finished => exact placed.past code time answered
  reset := by
    obtain ⟨request, stage, answer⟩ := attempt
    intro resetting
    cases stage with
    | handle =>
      by_cases failed : status = 401
      · simp [LoginAttempt.advance, LoginAttempt.stageAfter, failed] at resetting
      · simp [LoginAttempt.advance, failedSince, failed]
    | checkIP | checkUsername | readIP | readUsername =>
      simp only [LoginAttempt.advance] at resetting
      split at resetting <;> cases resetting
    | writeIP | writeUsername | resetUsername | finished => cases resetting

theorem Placed.start_le (placed : Placed limiter address start now attempt)
    (counted : recorded start attempt = true) : start ≤ now := by
  rw [recorded, Bool.and_eq_true, failedSince_iff] at counted
  obtain ⟨_, time, begun, answered⟩ := counted
  exact Int.le_trans begun (placed.past 401 time answered)

end

variable (limiter) in
def FailuresCounted (address : String) (start : Int) (pool : Pool (Limiting driver) LoginAttempt) :
    Prop :=
  pool.calls.countP (recorded start) = 0 ∨
    CountsUntil pool.shared.cache (ipKey address) (pool.calls.countP (recorded start))
      (start + limiter.window)

variable (limiter) in
structure Tracked (address : String) (start : Int) (pool : Pool (Limiting driver) LoginAttempt) :
    Prop where
  placed : ∀ attempt ∈ pool.calls, Placed limiter address start pool.shared.now attempt
  counted : pool.shared.now ≤ start + limiter.window → FailuresCounted limiter address start pool

section

variable {address : String} {start : Int} {moment : Moment} {limiting : Limiting driver}
variable {attempt : LoginAttempt} {before behind : List LoginAttempt}

theorem Tracked.reached (tracked : Tracked limiter address start pool)
    (later : pool.shared.now ≤ time) (within : time ≤ start + limiter.window) :
    pool.calls.countP (recorded start) ≤ readCount pool.shared.cache time (ipKey address) := by
  cases tracked.counted (Int.le_trans later within) with
  | inl none => omega
  | inr counts => exact CountsUntil.le_readCount counts within

variable (toLower sha256 moment) in
theorem Tracked.placed_act
    (tracked : Tracked limiter address start ⟨limiting, before ++ attempt :: behind⟩) :
    ∀ call ∈ before ++ (attempt.act limiter toLower sha256 moment limiting).2 :: behind,
      Placed limiter address start (limiting.now + moment.seconds) call := by
  have passed : limiting.now ≤ limiting.now + moment.seconds := by omega
  obtain ⟨others, own⟩ := Pool.forall_calls.mp tracked.placed
  refine Pool.forall_calls.mpr ⟨?_, ?_⟩
  · intro call member
    exact (others call member).later passed
  · exact (own.later passed).advance _ _

theorem Tracked.counted_idle (named : address ≠ "")
    (tracked : Tracked limiter address start ⟨limiting, before ++ attempt :: behind⟩)
    (idle : ∀ read, attempt.stage ≠ .writeIP read)
    (within : limiting.now + moment.seconds ≤ start + limiter.window) :
    FailuresCounted limiter address start ⟨(attempt.act limiter toLower sha256 moment limiting).1,
        before ++ (attempt.act limiter toLower sha256 moment limiting).2 :: behind⟩ := by
  have placed := tracked.placed attempt (by simp)
  have same : (before ++ (attempt.act limiter toLower sha256 moment limiting).2 :: behind).countP
      (recorded start) = (before ++ attempt :: behind).countP (recorded start) := by
    rw [Pool.countP_calls, Pool.countP_calls, LoginAttempt.act,
      recorded_advance _ _ _ (placed.ip.symm ▸ named) placed.reset idle]
  rw [FailuresCounted, same]
  cases tracked.counted (Int.le_trans (by simp only; omega) within) with
  | inl none => exact .inl none
  | inr counts => exact .inr (CountsUntil.operate counts within idle)

theorem Tracked.counted_write {read : Nat}
    (tracked : Tracked limiter address start ⟨limiting, before ++ attempt :: behind⟩)
    (writing : attempt.stage = .writeIP read)
    (fresh : readCount limiting.cache (limiting.now + moment.seconds) (ipKey address) ≤ read)
    (within : limiting.now + moment.seconds ≤ start + limiter.window) :
    FailuresCounted limiter address start ⟨(attempt.act limiter toLower sha256 moment limiting).1,
        before ++ (attempt.act limiter toLower sha256 moment limiting).2 :: behind⟩ := by
  by_cases begun : start ≤ limiting.now + moment.seconds
  · right
    have more : (before ++ (attempt.act limiter toLower sha256 moment limiting).2 ::
        behind).countP (recorded start) ≤
          (before ++ attempt :: behind).countP (recorded start) + 1 := by
      rw [Pool.countP_calls, Pool.countP_calls]
      have one := Bool.toNat_le
        (recorded start (attempt.act limiter toLower sha256 moment limiting).2)
      omega
    have reached : (before ++ attempt :: behind).countP (recorded start) ≤ read :=
      Nat.le_trans (tracked.reached (by simp only; omega) within) fresh
    have ip : attempt.ip limiter = address := (tracked.placed attempt (by simp)).ip
    have written : CountsUntil
        (writeCount limiter limiting.cache (limiting.now + moment.seconds) (ipKey address)
          (read + 1)) (ipKey address)
        ((before ++ attempt :: behind).countP (recorded start) + 1) (start + limiter.window) := by
      refine Cache.keepsUntil_set ?_ (by omega)
      rw [countOf_toString]
      omega
    simp only [LoginAttempt.act, LoginAttempt.operate, writing, ip] at more ⊢
    exact written.imp fun _ => Nat.le_trans more
  · left
    rw [countP_eq_zero]
    intro call member counted
    exact begun ((tracked.placed_act toLower sha256 moment call member).start_le counted)

theorem Tracked.act (named : address ≠ "")
    (admitted : UndisturbedWrite limiter moment limiting (before ++ behind) attempt)
    (tracked : Tracked limiter address start ⟨limiting, before ++ attempt :: behind⟩) :
    Tracked limiter address start ⟨(attempt.act limiter toLower sha256 moment limiting).1,
        before ++ (attempt.act limiter toLower sha256 moment limiting).2 :: behind⟩ where
  placed := tracked.placed_act toLower sha256 moment
  counted := by
    intro within
    by_cases writing : ∃ read, attempt.stage = .writeIP read
    · obtain ⟨read, writing⟩ := writing
      have fresh := admitted
      simp only [UndisturbedWrite, writing, (tracked.placed attempt (by simp)).ip] at fresh
      exact tracked.counted_write writing fresh within
    · exact tracked.counted_idle named (fun read writes => writing ⟨read, writes⟩) within

variable {cache : Cache driver} {now : Int} {requests : List LoginRequest}

theorem tracked_start (same : ∀ request ∈ requests, extractClientIP limiter request = address) :
    Tracked limiter address start ⟨⟨now, cache⟩, requests.map LoginAttempt.start⟩ where
  placed := by
    intro attempt member
    obtain ⟨request, listed, rfl⟩ := mem_map.mp member
    exact ⟨same request listed, by simp [LoginAttempt.start], by simp [LoginAttempt.start]⟩
  counted := by
    intro within
    left
    rw [countP_eq_zero]
    intro attempt member
    obtain ⟨request, listed, rfl⟩ := mem_map.mp member
    simp [recorded, pastIP, LoginAttempt.start]

variable (limiter toLower sha256 cache now requests start) in
/-- If no request writes the counter of the address after another has written it
since its own read, the counter holds all failures of the window, and the
address is refused once they are as many as the limit. -/
theorem parallel_failures_counted (events : List (Nat × Moment)) (named : address ≠ "")
    (same : ∀ request ∈ requests, extractClientIP limiter request = address)
    (along : Along (Pool.step (LoginAttempt.act limiter toLower sha256))
      (Pool.Admits (UndisturbedWrite limiter)) ⟨⟨now, cache⟩, requests.map LoginAttempt.start⟩
      events)
    (failed : ∀ attempt ∈
      (sideBySide limiter toLower sha256 cache now requests events).calls, attempt.stage =
      .finished ∧ ∃ time, start ≤ time ∧ attempt.answer = some (401, time)) {time : Int}
    (later : (sideBySide limiter toLower sha256 cache now requests events).shared.now ≤ time)
    (within : time ≤ start + limiter.window) :
    requests.length ≤
        readCount (sideBySide limiter toLower sha256 cache now requests events).shared.cache time
          (ipKey address) ∧
      (limiter.maxPerIP ≤ requests.length → ∀ username, shouldBlock limiter
          (sideBySide limiter toLower sha256 cache now requests events).shared.cache time sha256
          address username = some .limitedByIP) := by
  have tracked : Tracked limiter address start
      (sideBySide limiter toLower sha256 cache now requests events) := by
    refine Pool.invariant _ along ?_ (tracked_start same)
    intro moment limiting before attempt behind admitted tracked
    exact tracked.act named admitted
  have number : (sideBySide limiter toLower sha256 cache now requests events).calls.length =
      requests.length := by
    simp [sideBySide]
  have all : (sideBySide limiter toLower sha256 cache now requests events).calls.countP
      (recorded start) = requests.length := by
    rw [← number, countP_eq_length]
    intro attempt member
    obtain ⟨done, refused⟩ := failed attempt member
    simp [recorded, pastIP, done, failedSince_iff.mpr refused]
  have reached := tracked.reached later within
  rw [all] at reached
  refine ⟨reached, ?_⟩
  intro limit username
  have blocked : limiter.maxPerIP ≤
      readCount (sideBySide limiter toLower sha256 cache now requests events).shared.cache time
        (ipKey address) := Nat.le_trans limit reached
  simp [shouldBlock, isLimitedByIP, named, blocked]

def twoGuesses : List LoginRequest :=
  replicate 2 ⟨fun _ => "", "192.0.2.1:5000", guessBody, false⟩

def narrowLimit : LoginRateLimit := { defaultLoginRateLimit with maxPerIP := 2 }

def guessing (turns : List Nat) : Pool (Limiting .inMemory) LoginAttempt :=
  sideBySide narrowLimit id id .empty 0 twoGuesses (turns.map fun position => (position, ⟨0, 401⟩))

def oneByOne : List Nat := [0, 0, 0, 0, 0, 0, 0, 1, 1, 1, 1, 1, 1, 1]

theorem parallel_failures_counted_oneByOne :
    2 ≤ readCount (guessing oneByOne).shared.cache 60 (ipKey "192.0.2.1") ∧
      (2 ≤ 2 → ∀ username, shouldBlock narrowLimit (guessing oneByOne).shared.cache 60 id
        "192.0.2.1" username = some .limitedByIP) := by
  have refused : ∀ attempt ∈ (guessing oneByOne).calls,
      attempt.stage = .finished ∧ attempt.answer = some (401, 0) := by decide +kernel
  refine parallel_failures_counted narrowLimit id id 0 .empty 0 twoGuesses _ (by decide)
    (by decide +kernel) (by decide +kernel) ?_ (by decide +kernel) (by decide +kernel)
  intro attempt member
  obtain ⟨done, answered⟩ := refused attempt member
  exact ⟨done, 0, Int.le_refl 0, answered⟩

def overlapping : List Nat := [0, 0, 0, 0, 1, 1, 1, 1, 0, 1, 0, 0, 1, 1]

theorem overlapping_guesses_lose_failure : (∀ attempt ∈ (guessing overlapping).calls,
      attempt.stage = .finished ∧ attempt.answer = some (401, 0)) ∧
    readCount (guessing overlapping).shared.cache 0 (ipKey "192.0.2.1") = 1 ∧
    shouldBlock narrowLimit (guessing overlapping).shared.cache 0 id "192.0.2.1" "bob" = none := by
  decide +kernel

end

end ShadowPanel.Security
