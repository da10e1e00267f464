import ShadowPanel.Enrollment.Service

namespace ShadowPanel.Security

open Data Enrollment Repositories Pool List

/-! How often a setup key lets a node in. -/

variable {driver : Cache.Driver} {toLower sha256 : String → String} {envValue : String}

inductive SetupKeyEvent where
  | wait (seconds : Nat)
  | generate (key : String)
  | set (key : String) (expiration : Int)
  | invalidate
  | enroll (services : Services) (key : String) (input : EnrollInput)

def SetupKeyEvent.Renews (key : String) : SetupKeyEvent → Prop
  | .generate new => new = key
  | .set new _ => new = key
  | _ => False

variable (toLower sha256 envValue) in
def setupKeyStep (state : Enrolling driver) : SetupKeyEvent → Enrolling driver
  | .wait seconds => state.later seconds
  | .generate key => { state with cache := SetupKeyManager.generate state.cache state.now key }
  | .set key expiration =>
    { state with cache := SetupKeyManager.set state.cache state.now key expiration }
  | .invalidate => { state with cache := SetupKeyManager.invalidate envValue state.cache state.now }
  | .enroll services key input => (enroll toLower sha256 envValue services state key input).1

def Without (key : String) (cache : Cache driver) : Prop :=
  ∀ item, cache.item setupKeyCacheKey = some item →
    ∃ text, item.value = .string text ∧ text ≠ key.toList

section

variable {key : String} {cache : Cache driver} {now : Int}

theorem Without.get_eq_ok_iff (without : Without key cache) (named : key ≠ "") :
    SetupKeyManager.get envValue cache now = .ok key ↔
      key = envValue ∧ cache.get now setupKeyCacheKey = none := by
  cases found : cache.get now setupKeyCacheKey with
  | none =>
    by_cases configured : envValue = ""
    · simp [SetupKeyManager.get, SetupKeyManager.fallback, found, configured, named]
    · simp [SetupKeyManager.get, SetupKeyManager.fallback, found, configured, eq_comm]
  | some value =>
    have stored : ∃ text, value = .string text ∧ text ≠ key.toList := by
      unfold Cache.get at found
      split at found
      · cases found
      next item held =>
        split at found
        · cases found
        · cases found
          exact without item held
    obtain ⟨text, rfl, different⟩ := stored
    simp only [reduceCtorEq, and_false, iff_false]
    intro accepted
    cases text with
    | nil => simp [SetupKeyManager.get, found] at accepted
    | cons first rest =>
      simp only [SetupKeyManager.get, found, Except.ok.injEq] at accepted
      exact different (by rw [← accepted, String.toList_ofList])

theorem without_set (different : value ≠ key) :
    Without key (SetupKeyManager.set cache now value expiration) := by
  intro item found
  rw [SetupKeyManager.set, Cache.item_set_self] at found
  cases found
  exact ⟨value.toList, rfl, fun same => different (String.toList_inj.mp same)⟩

theorem without_invalidate (named : key ≠ "") :
    Without key (SetupKeyManager.invalidate envValue cache now) := by
  unfold SetupKeyManager.invalidate
  split
  · exact without_set named.symm
  · intro item found
    rw [Cache.item_delete_self rfl] at found
    cases found

theorem Without.afterValidate (without : Without key cache) (services : Services) :
    Without key (afterValidate services cache now) := by
  intro item found
  apply without item
  unfold Enrollment.afterValidate Cache.afterGet at found
  split at found
  · split at found
    · exact found
    · split at found
      · rw [Cache.item_delete_self rfl] at found
        cases found
      · exact found
  · exact found

theorem Without.step (without : Without key state.cache) (named : key ≠ "")
    (other : ¬ event.Renews key) :
    Without key (setupKeyStep toLower sha256 envValue state event).cache := by
  cases event with
  | wait seconds => exact without
  | generate new | set new expiration => exact without_set other
  | invalidate => exact without_invalidate named
  | enroll services asked input =>
    cases cache_enroll toLower sha256 envValue services state asked input with
    | inl looked =>
      rw [setupKeyStep, looked]
      exact without.afterValidate services
    | inr ended =>
      rw [setupKeyStep, ended, Enrollment.invalidate]
      split
      · exact without_invalidate named
      · exact without.afterValidate services

theorem Without.run {state : Enrolling driver} (without : Without key state.cache)
    (named : key ≠ "") (other : ∀ event ∈ events, ¬ event.Renews key) :
    Without key (run (setupKeyStep toLower sha256 envValue) state events).cache := by
  induction events generalizing state with
  | nil => exact without
  | cons event rest ih =>
    apply ih (without.step named (other event mem_cons_self))
    intro later member
    exact other later (mem_cons_of_mem _ member)

end

variable (toLower sha256 envValue) in
def Refused (state : Enrolling driver) (key : String) : Prop :=
  ∀ services input result, (enroll toLower sha256 envValue services state key input).2 ≠ .ok result

theorem refused_iff :
    Refused toLower sha256 envValue state key ↔
      SetupKeyManager.get envValue state.cache state.now ≠ .ok key := by
  constructor
  · intro refused accepted
    obtain ⟨result, enrolled⟩ := exists_enroll_eq_ok accepted
    exact refused .reliable ⟨"host", 0, "linux"⟩ result enrolled
  · intro unaccepted services input result enrolled
    exact unaccepted (validate_eq_ok.mp (of_enroll_eq_ok enrolled).1).2

variable (toLower sha256 envValue) in
def afterUse (services : Services) (state : Enrolling driver) (key : String) (input : EnrollInput)
    (events : List SetupKeyEvent) : Enrolling driver :=
  run (setupKeyStep toLower sha256 envValue)
    (enroll toLower sha256 envValue services state key input).1 events

variable (toLower sha256 envValue) in
/-- A key that has let a node in, and has been invalidated, is refused as long as
it is not the key of the environment or the cache holds an entry that has not
expired. -/
theorem used_key_refused_iff (state : Enrolling driver) (services : Services) (key : String)
    (input : EnrollInput) (events : List SetupKeyEvent) {result : EnrollResult}
    (used : (enroll toLower sha256 envValue services state key input).2 = .ok result)
    (invalidated : services.invalidates = true) (unrenewed : ∀ event ∈ events, ¬ event.Renews key) :
    Refused toLower sha256 envValue
        (afterUse toLower sha256 envValue services state key input events) key ↔
      key ≠ envValue ∨
        (afterUse toLower sha256 envValue services state key input events).cache.get
          (afterUse toLower sha256 envValue services state key input events).now
          setupKeyCacheKey ≠ none := by
  obtain ⟨valid, ended⟩ := of_enroll_eq_ok used
  have named : key ≠ "" := SetupKeyManager.ne_empty_of_get (validate_eq_ok.mp valid).2
  have first : Without key (enroll toLower sha256 envValue services state key input).1.cache := by
    rw [ended, Enrollment.invalidate, if_pos invalidated]
    exact without_invalidate named
  have without : Without key
      (afterUse toLower sha256 envValue services state key input events).cache :=
    first.run named unrenewed
  rw [refused_iff, Ne, without.get_eq_ok_iff named, not_and_or]

def unused : Enrolling .inMemory where
  now := 0
  cache := .empty
  clientCertificates := []
  nodes := ⟨[]⟩

def gameHost : EnrollInput := ⟨"node1.example.com", 31717, "linux"⟩

theorem used_key_refused_iff_generated :
    Refused id id "env-key" (afterUse id id "env-key" .reliable unused "env-key" gameHost
      [.generate "generated-key", .wait 3600]) "env-key" :=
  (used_key_refused_iff id id "env-key" unused .reliable "env-key" gameHost
    [.generate "generated-key", .wait 3600] (by rfl) rfl (by simp [SetupKeyEvent.Renews])).mpr
    (.inr (by decide +kernel))

theorem burned_key_returns :
    (∃ result, (enroll id id "env-key" .reliable unused "env-key" gameHost).2 = .ok result) ∧
    ∃ result, (enroll id id "env-key" .reliable (afterUse id id "env-key" .reliable unused
      "env-key" gameHost [.generate "generated-key", .wait 3601]) "env-key" gameHost).2 =
        .ok result :=
  ⟨⟨_, rfl⟩, ⟨_, rfl⟩⟩

def inFlight : EnrollStage → Bool
  | .findCertificate _ | .saveCertificate _ | .saveNode _ _ | .invalidate _ => true
  | .validate | .finished _ => false

def hasSucceeded : EnrollStage → Bool
  | .finished (.ok _) => true
  | _ => false

def hasRegistered : EnrollStage → Bool
  | .invalidate _ | .finished (.ok _) => true
  | _ => false

def isActive (call : EnrollCall) : Bool := inFlight call.stage || hasSucceeded call.stage

variable (envValue) in
def Exclusive (seconds : Nat) (state : Enrolling driver) (others : List EnrollCall)
    (call : EnrollCall) : Prop :=
  match call.stage with
  | .validate =>
    (SetupKeyManager.validate envValue state.cache (state.now + seconds) call.setupKey).isOk →
      ∀ other ∈ others, inFlight other.stage = false
  | .invalidate _ => call.services.invalidates = true
  | _ => True

instance (seconds : Nat) (state : Enrolling driver) (others : List EnrollCall) (call : EnrollCall) :
    Decidable (Exclusive envValue seconds state others call) := by
  unfold Exclusive
  split <;> infer_instance

variable (envValue) in
def Spent (key : String) (state : Enrolling driver) : Prop :=
  ∀ time, state.now ≤ time → SetupKeyManager.get envValue state.cache time ≠ .ok key

section

variable {key : String} {state : Enrolling driver} {call : EnrollCall} {seconds : Nat}

theorem Spent.later (spent : Spent envValue key state) (seconds : Nat) :
    Spent envValue key (state.later seconds) := by
  intro time behind
  refine spent time (Int.le_trans ?_ behind)
  simp only [Enrolling.later]
  omega

theorem spent_invalidate : Spent envValue key
    { state with cache := SetupKeyManager.invalidate envValue state.cache state.now } := by
  intro time _
  simp

theorem Spent.operate (spent : Spent envValue key state)
    (ends : ∀ result, call.stage = .invalidate result → call.services.invalidates = true) :
    Spent envValue key (call.operate toLower sha256 envValue state) := by
  cases position : call.stage with
  | validate =>
    simp only [EnrollCall.operate, position, afterValidate]
    split
    · intro time behind
      rw [SetupKeyManager.get_congr (Cache.get_afterGet behind)]
      exact spent time behind
    · exact spent
  | saveNode credentials certificateID =>
    simp only [EnrollCall.operate, position]
    split <;> exact spent
  | invalidate result =>
    simp only [EnrollCall.operate, position, Enrollment.invalidate, if_pos (ends result position)]
    exact spent_invalidate
  | findCertificate credentials | saveCertificate credentials | finished outcome =>
    simp only [EnrollCall.operate, position]
    exact spent

theorem active_of_nextStage
    (active : isActive { call with stage := call.nextStage envValue state } = true) :
    isActive call = true ∨
      call.stage = .validate ∧ SetupKeyManager.get envValue state.cache state.now =
        .ok call.setupKey := by
  obtain ⟨setupKey, input, services, stage⟩ := call
  cases stage with
  | validate =>
    right
    refine ⟨rfl, ?_⟩
    simp only [EnrollCall.nextStage] at active
    split at active
    · cases active
    next accepted => exact (validate_eq_ok.mp accepted).2
  | findCertificate | saveCertificate | saveNode | invalidate => exact .inl rfl
  | finished outcome => exact .inl active

theorem succeeded_of_nextStage (succeeded : hasSucceeded (call.nextStage envValue state) = true) :
    hasSucceeded call.stage = true ∨ ∃ result, call.stage = .invalidate result := by
  obtain ⟨setupKey, input, services, stage⟩ := call
  cases stage with
  | validate =>
    simp only [EnrollCall.nextStage] at succeeded
    split at succeeded
    · cases succeeded
    · split at succeeded <;> cases succeeded
  | findCertificate credentials =>
    simp only [EnrollCall.nextStage] at succeeded
    split at succeeded
    · split at succeeded
      · cases succeeded
      · split at succeeded <;> cases succeeded
    · cases succeeded
  | saveCertificate credentials | saveNode credentials certificateID =>
    simp only [EnrollCall.nextStage] at succeeded
    split at succeeded <;> cases succeeded
  | invalidate result => exact .inr ⟨result, rfl⟩
  | finished outcome => exact .inl succeeded

theorem length_rows_operate : (call.operate toLower sha256 envValue state).nodes.rows.length +
      (hasRegistered call.stage).toNat ≤
    state.nodes.rows.length + (hasRegistered (call.nextStage envValue state)).toNat := by
  obtain ⟨setupKey, input, services, stage⟩ := call
  cases stage with
  | validate | findCertificate | saveCertificate => exact Nat.le_add_right _ _
  | saveNode credentials certificateID =>
    simp only [EnrollCall.operate, EnrollCall.nextStage]
    cases services.nodeID with
    | none => exact Nat.le_refl _
    | some nodeID => exact length_place_le _ _ _
  | invalidate result | finished outcome => exact Nat.le_refl _

end

variable (envValue) in
structure SingleUse (key : String) (rows : Nat) (pool : Pool (Enrolling driver) EnrollCall) :
    Prop where
  keyed : ∀ call ∈ pool.calls, call.setupKey = key
  active : pool.calls.countP isActive ≤ 1
  spent : ∀ call ∈ pool.calls, hasSucceeded call.stage = true → Spent envValue key pool.shared
  stored : pool.shared.nodes.rows.length ≤
    rows + pool.calls.countP fun call => hasRegistered call.stage

section

variable {key : String} {rows seconds : Nat} {state : Enrolling driver} {call : EnrollCall}
variable {before behind : List EnrollCall}

theorem SingleUse.none_active
    (single : SingleUse envValue key rows ⟨state, before ++ call :: behind⟩)
    (admitted : Exclusive envValue seconds state (before ++ behind) call)
    (validating : call.stage = .validate)
    (accepted : SetupKeyManager.get envValue state.cache (state.now + seconds) =
      .ok call.setupKey) :
    (before ++ behind).countP isActive = 0 := by
  rw [Exclusive, validating] at admitted
  have idle := admitted (by rw [SetupKeyManager.validate_eq_ok.mpr accepted]; rfl)
  rw [countP_eq_zero]
  intro other member active
  rw [isActive, idle other member] at active
  have own : call.setupKey = key := (forall_calls.mp single.keyed).2
  have spent := (forall_calls.mp single.spent).1 other member active
  exact spent (state.now + seconds) (by simp only; omega) (own ▸ accepted)

theorem SingleUse.act (single : SingleUse envValue key rows ⟨state, before ++ call :: behind⟩)
    (admitted : Exclusive envValue seconds state (before ++ behind) call) :
    SingleUse envValue key rows
      ⟨(call.act toLower sha256 envValue seconds state).1,
        before ++ (call.act toLower sha256 envValue seconds state).2 :: behind⟩ where
  keyed := by
    obtain ⟨others, own⟩ := forall_calls.mp single.keyed
    exact forall_calls.mpr ⟨others, own⟩
  active := by
    have whole := single.active
    rw [countP_calls] at whole ⊢
    cases active : isActive (call.act toLower sha256 envValue seconds state).2 with
    | false => exact Nat.le_trans (Nat.le_add_right _ _) whole
    | true =>
      cases active_of_nextStage active with
      | inl already =>
        rw [already] at whole
        exact whole
      | inr entering =>
        rw [single.none_active admitted entering.1 entering.2]
        exact Nat.le_refl 1
  spent := by
    have ends : ∀ result, call.stage = .invalidate result → call.services.invalidates = true := by
      intro result ending
      rw [Exclusive, ending] at admitted
      exact admitted
    have kept (spent : Spent envValue key state) :
        Spent envValue key (call.act toLower sha256 envValue seconds state).1 :=
      (spent.later seconds).operate ends
    obtain ⟨others, own⟩ := forall_calls.mp single.spent
    refine forall_calls.mpr ⟨?_, ?_⟩
    · intro other member succeeded
      exact kept (others other member succeeded)
    · intro succeeded
      cases succeeded_of_nextStage succeeded with
      | inl already => exact kept (own already)
      | inr ending =>
        obtain ⟨result, ending⟩ := ending
        simp only [EnrollCall.act, EnrollCall.operate, ending, Enrollment.invalidate,
          if_pos (ends result ending)]
        exact spent_invalidate
  stored := by
    have whole := single.stored
    have gained : (call.act toLower sha256 envValue seconds state).1.nodes.rows.length +
        (hasRegistered call.stage).toNat ≤ state.nodes.rows.length +
          (hasRegistered (call.act toLower sha256 envValue seconds state).2.stage).toNat :=
      length_rows_operate
    rw [countP_calls] at whole ⊢
    simp only at whole ⊢
    omega

variable (toLower sha256 envValue) in
def enrollSideBySide (state : Enrolling driver) (key : String)
    (calls : List (EnrollInput × Services)) (events : List (Nat × Nat)) :
    Pool (Enrolling driver) EnrollCall :=
  run (Pool.step (EnrollCall.act toLower sha256 envValue))
    ⟨state, calls.map fun call => .start key call.1 call.2⟩ events

variable (toLower sha256 envValue) in
/-- If no call is accepted while another one is in flight, and no `Invalidate`
fails, one key lets at most one node in. -/
theorem one_enrollment_per_key (state : Enrolling driver) (key : String)
    (calls : List (EnrollInput × Services)) (events : List (Nat × Nat))
    (along : Along (Pool.step (EnrollCall.act toLower sha256 envValue))
      (Pool.Admits (Exclusive envValue)) ⟨state, calls.map fun call => .start key call.1 call.2⟩
      events) :
    ((enrollSideBySide toLower sha256 envValue state key calls events).calls.countP
        fun call => hasSucceeded call.stage) ≤ 1 ∧
      (enrollSideBySide toLower sha256 envValue state key calls events).shared.nodes.rows.length ≤
        state.nodes.rows.length + 1 := by
  have single : SingleUse envValue key state.nodes.rows.length
      (enrollSideBySide toLower sha256 envValue state key calls events) := by
    refine invariant _ along ?_ ?_
    · intro seconds state before call behind admitted single
      exact single.act admitted
    · refine ⟨?_, ?_, ?_, Nat.le_add_right _ _⟩
      · intro call member
        obtain ⟨asked, _, rfl⟩ := mem_map.mp member
        rfl
      · rw [countP_eq_zero.mpr]
        · exact Nat.zero_le 1
        · intro call member
          obtain ⟨asked, _, rfl⟩ := mem_map.mp member
          simp [isActive, EnrollCall.start, inFlight, hasSucceeded]
      · intro call member succeeded
        obtain ⟨asked, _, rfl⟩ := mem_map.mp member
        cases succeeded
  have bound := single.active
  constructor
  · refine Nat.le_trans (countP_mono_left ?_) bound
    intro call _ succeeded
    rw [isActive, succeeded, Bool.or_true]
  · refine Nat.le_trans single.stored (Nat.add_le_add_left (Nat.le_trans ?_ bound) _)
    refine countP_mono_left ?_
    intro call _ registered
    obtain ⟨setupKey, input, services, stage⟩ := call
    cases stage with
    | invalidate result => rfl
    | finished outcome =>
      cases outcome with
      | ok result => rfl
      | error error => cases registered
    | validate | findCertificate | saveCertificate | saveNode => cases registered

end

def oneTimeKey : Enrolling .inMemory :=
  { unused with cache := SetupKeyManager.set .empty 0 "one-time-key" 0 }

def twoHosts : List (EnrollInput × Services) :=
  [(gameHost, .reliable),
    (⟨"node2.example.com", 31717, "linux"⟩, { Services.reliable with nodeID := some 2 })]

def enrolling (turns : List Nat) : Pool (Enrolling .inMemory) EnrollCall :=
  enrollSideBySide id id "" oneTimeKey "one-time-key" twoHosts (turns.map fun turn => (turn, 0))

theorem one_enrollment_per_key_inTurn :
    ((enrolling [0, 0, 0, 0, 0, 1]).calls.countP fun call => hasSucceeded call.stage) ≤ 1 ∧
      (enrolling [0, 0, 0, 0, 0, 1]).shared.nodes.rows.length ≤ 0 + 1 :=
  one_enrollment_per_key id id "" oneTimeKey "one-time-key" twoHosts _ (by decide +kernel)

theorem overlapping_enrollments_both_succeed :
    ((enrolling [0, 1, 0, 0, 0, 0, 1, 1, 1]).calls.countP fun call => hasSucceeded call.stage) = 2 ∧
      (enrolling [0, 1, 0, 0, 0, 0, 1, 1, 1]).shared.nodes.rows.length = 2 := by
  decide +kernel

end ShadowPanel.Security
