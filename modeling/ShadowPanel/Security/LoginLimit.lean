import ShadowPanel.Api.LoginRoute
import ShadowPanel.Data.Runs

namespace ShadowPanel.Security

open Api Auth Data Domain Middlewares Repositories Cache List

/-! How many wrong passwords can be tried on one account. -/

section

variable {driver : Cache.Driver} {cache : Cache driver} {now : Int} {key other : String}
variable {count : Nat} {deadline : Int}

def CountsUntil (cache : Cache driver) (key : String) (count : Nat) (deadline : Int) : Prop :=
  cache.KeepsUntil key (fun value => count ≤ countOf value) deadline

theorem countOf_toString (count : Nat) : countOf (.number (toString count).toList) = count := by
  have digits : (toString count).toList = Nat.toDigits 10 count := by
    rw [Nat.toString_eq_ofList_toDigits, String.toList_ofList]
  have whole : (Nat.toDigits 10 count).takeWhile Char.isDigit = Nat.toDigits 10 count := by
    rw [takeWhile_eq_self_iff]
    intro character member
    exact Nat.isDigit_of_mem_toDigits (by decide) (by decide) member
  rw [countOf, digits, whole, Nat.ofDigitChars_ten_toDigits]

theorem CountsUntil.le_readCount (counts : CountsUntil cache key count deadline)
    (early : now ≤ deadline) : count ≤ readCount cache now key := by
  obtain ⟨value, found, enough⟩ := counts.exists_get early
  simpa only [readCount, found] using enough

theorem countsUntil_increment (reached : count ≤ readCount cache now key)
    (covered : deadline ≤ now + limiter.window) :
    CountsUntil (increment limiter cache now key) key (count + 1) deadline := by
  refine keepsUntil_set ?_ covered
  rw [countOf_toString]
  omega

theorem item_increment_of_ne (apart : driver.slot other ≠ driver.slot key) :
    (increment limiter cache now other).item key = cache.item key :=
  (item_set_of_ne apart).trans (item_afterGet_of_ne apart)

theorem slot_ipKey_ne_userKey (ip username : String) (sha256 : String → String) :
    driver.slot (ipKey ip) ≠ driver.slot (userKey sha256 username) := by
  intro same
  rw [Cache.Driver.slot_inj] at same
  simp only [ipKey, userKey, String.toList_append, map_append,
    append_cancel_left_eq] at same
  have first : driver.fold 'i' = driver.fold 'u' := by
    simpa using congrArg head? same
  exact absurd (driver.fold_letters (by decide) (by decide) first) (by decide)

end

variable {cacheDriver : Cache.Driver} {userDriver : UserDriver}
variable (setup : Setup) (limiter : LoginRateLimit)

def Targets (account : Nat) (panel : Panel cacheDriver userDriver) (request : LoginRequest) :
    Prop :=
  ∃ user, bodyUser setup panel (restoredBody request) = some user ∧ user.id = account

instance (account : Nat) (panel : Panel cacheDriver userDriver) (request : LoginRequest) :
    Decidable (Targets setup account panel request) :=
  match found : bodyUser setup panel (restoredBody request) with
  | none => .isFalse (by simp [Targets, found])
  | some user => decidable_of_iff (user.id = account) (by simp [Targets, found])

def CountsUnder (cacheDriver : Cache.Driver) (name : String) (request : LoginRequest) : Prop :=
  peekUsername setup.toLower request ≠ "" ∧
    cacheDriver.slot (userKey setup.sha256 (peekUsername setup.toLower request)) =
      cacheDriver.slot (userKey setup.sha256 name)

variable {setup limiter} {panel : Panel cacheDriver userDriver} {request : LoginRequest}
variable {name tokenID : String} {count : Nat} {deadline : Int}

theorem CountsUntil.afterShouldBlock {cache : Cache cacheDriver} {now : Int} {key : String}
    (counts : CountsUntil cache key count deadline) (early : now ≤ deadline)
    (ip username : String) :
    CountsUntil (afterShouldBlock limiter cache now setup.sha256 ip username) key count
      deadline := by
  have looked : CountsUntil (if ip ≠ "" then cache.afterGet now (ipKey ip) else cache) key count
      deadline := by
    split
    · exact counts.afterGet early
    · exact counts
  simp only [Middlewares.afterShouldBlock]
  split
  · exact looked
  · exact looked.afterGet early

theorem CountsUntil.recordFailure {cache : Cache cacheDriver} {now : Int}
    (counts : CountsUntil cache (userKey setup.sha256 name) count deadline) (early : now ≤ deadline)
    (covered : deadline ≤ now + limiter.window) (ip username : String) :
    CountsUntil (recordFailure limiter cache now setup.sha256 ip username)
      (userKey setup.sha256 name) count deadline := by
  have counted : CountsUntil (if ip ≠ "" then increment limiter cache now (ipKey ip) else cache)
      (userKey setup.sha256 name) count deadline := by
    split
    · exact counts.congr (item_increment_of_ne (slot_ipKey_ne_userKey ip name setup.sha256))
    · exact counts
  simp only [Middlewares.recordFailure]
  split
  · by_cases same : cacheDriver.slot (userKey setup.sha256 username) =
        cacheDriver.slot (userKey setup.sha256 name)
    · have own := counted.congr (item_of_slot_eq same)
      have more := countsUntil_increment (CountsUntil.le_readCount own early) covered
      exact (more.congr (item_of_slot_eq same.symm)).imp fun _ => Nat.le_of_succ_le
    · exact counted.congr (item_increment_of_ne same)
  · exact counted

theorem CountsUntil.afterResponse {cache : Cache cacheDriver} {now : Int}
    (counts : CountsUntil cache (userKey setup.sha256 name) count deadline) (early : now ≤ deadline)
    (covered : deadline ≤ now + limiter.window)
    (failed : CountsUnder setup cacheDriver name request → status ≠ 200) (ip : String) :
    CountsUntil (afterResponse limiter cache now setup.sha256 ip
      (peekUsername setup.toLower request) status) (userKey setup.sha256 name) count deadline := by
  unfold Middlewares.afterResponse
  split
  · exact counts.recordFailure early covered ip _
  · split
    next success =>
      split
      next named =>
        refine counts.congr (item_delete_of_ne ?_)
        intro same
        exact failed ⟨named, same⟩ success
      next => exact counts
    next => exact counts

private theorem countsUntil_recordFailure {cache : Cache cacheDriver}
    (under : CountsUnder setup cacheDriver name request)
    (reached : count = 0 ∨ CountsUntil cache (userKey setup.sha256 name) count now)
    (covered : deadline ≤ now + limiter.window) (ip : String) :
    CountsUntil (recordFailure limiter cache now setup.sha256 ip
      (peekUsername setup.toLower request)) (userKey setup.sha256 name) (count + 1) deadline := by
  obtain ⟨named, same⟩ := under
  simp only [Middlewares.recordFailure, if_pos named]
  refine (countsUntil_increment ?_ covered).congr (item_of_slot_eq same.symm)
  cases reached with
  | inl none => omega
  | inr counts =>
    have own : CountsUntil cache (userKey setup.sha256 (peekUsername setup.toLower request))
        count now := counts.congr (item_of_slot_eq same)
    split
    · refine CountsUntil.le_readCount (own.congr ?_) (Int.le_refl now)
      exact item_increment_of_ne (slot_ipKey_ne_userKey ip _ setup.sha256)
    · exact own.le_readCount (Int.le_refl now)

private theorem isLimitedByUsername_of_shouldBlock
    (unblocked : shouldBlock limiter cache now setup.sha256 ip username = none) :
    isLimitedByUsername limiter cache now setup.sha256 username = false := by
  unfold shouldBlock at unblocked
  split at unblocked
  · cases unblocked
  · split at unblocked
    · cases unblocked
    next free => exact Bool.eq_false_iff.mpr free

private theorem lt_maxPerUser (unblocked : isBlocked setup limiter panel request = none)
    (under : CountsUnder setup cacheDriver name request)
    (reached : count = 0 ∨ CountsUntil panel.cache (userKey setup.sha256 name) count panel.now) :
    count < limiter.maxPerUser := by
  obtain ⟨named, same⟩ := under
  have room := isLimitedByUsername_of_shouldBlock unblocked
  rw [isLimitedByUsername, decide_eq_true named, Bool.true_and, decide_eq_false_iff_not,
    Nat.not_le] at room
  cases reached with
  | inl none => omega
  | inr counts =>
    have own := counts.congr (item_of_slot_eq same)
    exact Nat.lt_of_le_of_lt (CountsUntil.le_readCount own (Int.le_refl _)) room

inductive LoginEvent where
  | wait (seconds : Nat)
  | attempt (tokenID : String) (request : LoginRequest)

structure Watched (cacheDriver : Cache.Driver) (userDriver : UserDriver) where
  panel : Panel cacheDriver userDriver
  checks : List Int

variable (setup limiter) in
def Watched.step (account : Nat) (watched : Watched cacheDriver userDriver) :
    LoginEvent → Watched cacheDriver userDriver
  | .wait seconds =>
    { watched with panel := { watched.panel with now := watched.panel.now + seconds } }
  | .attempt tokenID request =>
    { panel := (loginRoute setup limiter watched.panel tokenID request).2
      checks :=
        if isBlocked setup limiter watched.panel request = none ∧
            Targets setup account watched.panel request then
          watched.panel.now :: watched.checks
        else watched.checks }

variable (limiter) in
def windowCount (start : Int) (checks : List Int) : Nat :=
  checks.countP fun time => start ≤ time && time ≤ start + limiter.window

variable (setup) in
def WrongPassword (account : Nat) (watched : Watched cacheDriver userDriver) : LoginEvent → Prop
  | .wait _ => True
  | .attempt _ request => ∀ input user,
      decodeLogin (restoredBody request) = some input →
      checkedUser setup watched.panel input = .ok user → user.id = account →
      setup.verifyPassword user.password input.password = false

variable (setup) in
def CountedUnder (account : Nat) (name : String) (watched : Watched cacheDriver userDriver) :
    LoginEvent → Prop
  | .wait _ => True
  | .attempt tokenID request =>
    (Targets setup account watched.panel request → CountsUnder setup cacheDriver name request) ∧
    (CountsUnder setup cacheDriver name request →
      responseStatus (loginHandler setup watched.panel tokenID (restoredBody request)) ≠ 200)

private theorem status_of_targets (targets : Targets setup account watched.panel request)
    (wrong : WrongPassword setup account watched (.attempt tokenID request)) :
    responseStatus (loginHandler setup watched.panel tokenID (restoredBody request)) = 401 := by
  obtain ⟨user, found, own⟩ := targets
  obtain ⟨input, decoded, checked⟩ := bodyUser_eq_some.mp found
  rw [loginHandler_of_wrong decoded checked (wrong input user decoded checked own)]
  rfl

@[simp] theorem windowCount_cons (start time : Int) (checks : List Int) :
    windowCount limiter start (time :: checks) = windowCount limiter start checks +
      if start ≤ time ∧ time ≤ start + limiter.window then 1 else 0 := by
  simp [windowCount, countP_cons]

variable (setup limiter) in
/-- The counter of the name is as high as the checks in every window that is
still open, and no window has too many. -/
structure Limited (name : String) (watched : Watched cacheDriver userDriver) : Prop where
  past : ∀ time ∈ watched.checks, time ≤ watched.panel.now
  counted : ∀ start, 0 < windowCount limiter start watched.checks →
    watched.panel.now ≤ start + limiter.window →
    CountsUntil watched.panel.cache (userKey setup.sha256 name)
      (windowCount limiter start watched.checks) (start + limiter.window)
  bounded : ∀ start, windowCount limiter start watched.checks ≤ limiter.maxPerUser

section

variable {watched : Watched cacheDriver userDriver} {account : Nat} {start : Int}

section

variable (limited : Limited setup limiter name watched)

include limited

theorem Limited.start_le (some : 0 < windowCount limiter start watched.checks) :
    start ≤ watched.panel.now := by
  obtain ⟨time, member, inside⟩ := countP_pos_iff.mp some
  have after : start ≤ time := by simp at inside; exact inside.1
  exact Int.le_trans after (limited.past time member)

theorem Limited.reached (still : watched.panel.now ≤ start + limiter.window) :
    windowCount limiter start watched.checks = 0 ∨
      CountsUntil watched.panel.cache (userKey setup.sha256 name)
        (windowCount limiter start watched.checks) watched.panel.now := by
  cases Nat.eq_zero_or_pos (windowCount limiter start watched.checks) with
  | inl none => exact .inl none
  | inr some => exact .inr ((limited.counted start some still).earlier still)

private theorem Limited.unreached
    (failed : CountsUnder setup cacheDriver name request →
      responseStatus (loginHandler setup watched.panel tokenID (restoredBody request)) ≠ 200)
    (some : 0 < windowCount limiter start watched.checks)
    (still : watched.panel.now ≤ start + limiter.window) :
    CountsUntil (loginRoute setup limiter watched.panel tokenID request).2.cache
      (userKey setup.sha256 name) (windowCount limiter start watched.checks)
      (start + limiter.window) := by
  have begun := limited.start_le some
  have looked : CountsUntil
      (afterShouldBlock limiter watched.panel.cache watched.panel.now setup.sha256
        (extractClientIP limiter request) (peekUsername setup.toLower request))
      (userKey setup.sha256 name) (windowCount limiter start watched.checks)
      (start + limiter.window) :=
    (limited.counted start some still).afterShouldBlock still _ _
  cases blocked : isBlocked setup limiter watched.panel request with
  | some reason =>
    simp only [loginRoute, blocked]
    exact looked
  | none =>
    rw [loginRoute_of_unblocked blocked]
    exact looked.afterResponse still (by omega) failed _

private theorem Limited.counted_check
    (unblocked : isBlocked setup limiter watched.panel request = none)
    (under : CountsUnder setup cacheDriver name request)
    (failed : responseStatus (loginHandler setup watched.panel tokenID (restoredBody request)) =
      401) (begun : start ≤ watched.panel.now)
    (still : watched.panel.now ≤ start + limiter.window) :
    CountsUntil (loginRoute setup limiter watched.panel tokenID request).2.cache
      (userKey setup.sha256 name) (windowCount limiter start watched.checks + 1)
      (start + limiter.window) := by
  rw [loginRoute_of_unblocked unblocked, failed]
  refine countsUntil_recordFailure under ?_ (by omega) _
  cases limited.reached still with
  | inl none => exact .inl none
  | inr counts => exact .inr (counts.afterShouldBlock (Int.le_refl _) _ _)

theorem Limited.wait (seconds : Nat) :
    Limited setup limiter name (watched.step setup limiter account (.wait seconds)) where
  past := by
    intro time member
    have before := limited.past time member
    simp only [Watched.step]
    omega
  counted := by
    intro start some still
    simp only [Watched.step] at still
    exact limited.counted start some (by omega)
  bounded := limited.bounded

theorem Limited.attempt (wrong : WrongPassword setup account watched (.attempt tokenID request))
    (under : CountedUnder setup account name watched (.attempt tokenID request)) :
    Limited setup limiter name (watched.step setup limiter account (.attempt tokenID request)) := by
  by_cases check : isBlocked setup limiter watched.panel request = none ∧
      Targets setup account watched.panel request
  · have counts := under.1 check.2
    have failed := status_of_targets check.2 wrong
    simp only [Watched.step, if_pos check]
    constructor
    · intro time member
      rw [loginRoute_now]
      cases mem_cons.mp member with
      | inl same => exact Int.le_of_eq same
      | inr earlier => exact limited.past time earlier
    · intro start some still
      rw [loginRoute_now] at still
      rw [windowCount_cons] at some ⊢
      by_cases begun : start ≤ watched.panel.now
      · rw [if_pos ⟨begun, still⟩]
        exact limited.counted_check check.1 counts failed begun still
      · rw [if_neg fun inside => begun inside.1] at some
        exact absurd (limited.start_le some) begun
    · intro start
      rw [windowCount_cons]
      split
      next inside => exact lt_maxPerUser check.1 counts (limited.reached inside.2)
      next => exact limited.bounded start
  · simp only [Watched.step, if_neg check]
    refine ⟨?_, ?_, limited.bounded⟩
    · simpa using limited.past
    · intro start some still
      exact limited.unreached under.2 some (by simpa using still)

end

theorem Limited.step (watched : Watched cacheDriver userDriver) (event : LoginEvent)
    (admitted : WrongPassword setup account watched event ∧
      CountedUnder setup account name watched event)
    (limited : Limited setup limiter name watched) :
    Limited setup limiter name (watched.step setup limiter account event) := by
  cases event with
  | wait seconds => exact limited.wait seconds
  | attempt tokenID request => exact limited.attempt admitted.1 admitted.2

end

variable (setup limiter) in
/-- In no window are more wrong passwords compared than the limit, when every body
for the account is counted under one entry and nobody logs in under it. -/
theorem checks_within_window_le (account : Nat) (name : String)
    (panel : Panel cacheDriver userDriver) (events : List LoginEvent)
    (admitted : Along (Watched.step setup limiter account)
      (fun watched event => WrongPassword setup account watched event ∧
      CountedUnder setup account name watched event) ⟨panel, []⟩ events) (start : Int) :
    windowCount limiter start
      (Data.run (Watched.step setup limiter account) ⟨panel, []⟩ events).checks ≤
        limiter.maxPerUser := by
  have initially : Limited setup limiter name ⟨panel, []⟩ :=
    ⟨nofun, nofun, fun _ => Nat.zero_le _⟩
  exact (admitted.invariant Limited.step initially).bounded start

def guessedUser : User := ⟨1, "alice", "alice@example.com", "password"⟩

def guessPanel : Panel .inMemory .inMemory where
  now := 0
  cache := .empty
  users := ⟨[guessedUser], 1⟩
  tokens := ⟨[]⟩

def guessInput : LoginInput := ⟨"alice", "", "guess", ""⟩

def guessBody : List Char := "\x7b\"login\": \"alice\", \"password\": \"guess\"\x7d".toList

def guess (trailing : List Char) : LoginEvent :=
  .attempt "" ⟨fun _ => "", "192.0.2.1:5000", guessBody ++ trailing, false⟩

theorem wrongPassword_guess
    (decoded : decodeLogin ((guessBody ++ trailing).take loginRateLimitMaxBody) = some guessInput)
    (users : watched.panel.users = guessPanel.users) :
    WrongPassword .plain 1 watched (guess trailing) := by
  intro input user read checked _
  cases decoded.symm.trans read
  obtain ⟨_, found⟩ := checkedUser_eq_ok.mp checked
  have stored := (UserRepository.mem_of_findOne _ found).1
  rw [users] at stored
  cases mem_singleton.mp stored
  rfl

private theorem step_users (watched : Watched .inMemory .inMemory) (event : LoginEvent) :
    (watched.step .plain defaultLoginRateLimit 1 event).panel.users = watched.panel.users := by
  cases event with
  | wait seconds => rfl
  | attempt tokenID request =>
    simp only [Watched.step, loginRoute]
    cases isBlocked .plain defaultLoginRateLimit watched.panel request <;> rfl

theorem along_guesses
    (admitted : ∀ watched, watched.panel.users = guessPanel.users → condition watched event)
    (tries : Nat) {watched : Watched .inMemory .inMemory}
    (users : watched.panel.users = guessPanel.users) :
    Along (Watched.step .plain defaultLoginRateLimit 1) condition watched
      (replicate tries event) := by
  induction tries generalizing watched with
  | zero => trivial
  | succ tries ih =>
    exact ⟨admitted watched users, ih ((step_users watched event).trans users)⟩

private theorem countedUnder_guess (users : watched.panel.users = guessPanel.users) :
    CountedUnder .plain 1 "alice" watched (guess []) := by
  have decoded : decodeLogin ((guessBody ++ []).take loginRateLimitMaxBody) =
      some guessInput := by decide +kernel
  have peeked : peekUsername id ⟨fun _ => "", "192.0.2.1:5000", guessBody ++ [], false⟩ =
      "alice" := by decide +kernel
  have checked : checkedUser .plain watched.panel guessInput = .ok guessedUser := by
    rw [checkedUser_eq_ok, Panel.findUser, users]
    exact ⟨rfl, rfl⟩
  refine ⟨fun _ => ?_, fun _ => ?_⟩
  · simp only [CountsUnder, Setup.plain, peeked]
    exact ⟨by decide, trivial⟩
  · rw [restoredBody, loginHandler_of_wrong decoded checked rfl]
    decide

theorem checks_within_window_le_guess : windowCount defaultLoginRateLimit 0
    (Data.run (Watched.step .plain defaultLoginRateLimit 1) ⟨guessPanel, []⟩
      (replicate 7 (guess []))).checks ≤ 5 :=
  checks_within_window_le .plain defaultLoginRateLimit 1 "alice" guessPanel
    (replicate 7 (guess []))
    (along_guesses (fun _ users => ⟨wrongPassword_guess (by decide +kernel) users,
      countedUnder_guess users⟩) 7 rfl) 0

theorem trailing_guesses_exceed_limit :
    Along (Watched.step .plain defaultLoginRateLimit 1) (WrongPassword .plain 1)
        ⟨guessPanel, []⟩ (replicate 6 (guess ['x'])) ∧
      windowCount defaultLoginRateLimit 0
        (Data.run (Watched.step .plain defaultLoginRateLimit 1) ⟨guessPanel, []⟩
          (replicate 6 (guess ['x']))).checks = 6 ∧
      defaultLoginRateLimit.maxPerUser = 5 :=
  ⟨along_guesses (fun _ users => wrongPassword_guess (by decide +kernel) users) 6 rfl,
    by decide +kernel, rfl⟩

end ShadowPanel.Security
