import ShadowPanel.Cache.Drivers

namespace ShadowPanel.Enrollment

open Data

/-! The setup key of `internal/enrollment/setup_key.go`. -/

def setupKeyCacheKey : String := "daemon:setup_key"

def setupKeyTTL : Int := 3600

inductive SetupKeyError where
  | notConfigured
  | invalid

namespace SetupKeyManager

variable {driver : Cache.Driver} (envValue : String) (cache : Cache driver) (now : Int)

def fallback : Except SetupKeyError String :=
  if envValue ≠ "" then .ok envValue else .error .notConfigured

/-- An empty stored key marks a consumed one and hides the key of the
environment. -/
def get : Except SetupKeyError String :=
  match cache.get now setupKeyCacheKey with
  | some (.string []) => .error .notConfigured
  | some (.string key) => .ok (String.ofList key)
  | _ => fallback envValue

def validate (key : String) : Except SetupKeyError Unit :=
  match get envValue cache now with
  | .error error => .error error
  | .ok stored => if key = stored then .ok () else .error .invalid

def set (key : String) (expiration : Int) : Cache driver :=
  cache.set now setupKeyCacheKey (.string key.toList) expiration

/-- The key is random text of length 32, chosen by the caller here. -/
def generate (key : String) : Cache driver := set cache now key setupKeyTTL

def invalidate : Cache driver :=
  if envValue ≠ "" then cache.set now setupKeyCacheKey (.string []) 0
  else cache.delete setupKeyCacheKey

def delete : Cache driver := cache.delete setupKeyCacheKey

section

variable {envValue : String} {cache : Cache driver} {now time : Int} {key : String}

theorem validate_eq_ok :
    validate envValue cache now key = .ok () ↔ get envValue cache now = .ok key := by
  unfold validate
  split
  next error refused => simp [refused]
  next stored accepted =>
    by_cases same : key = stored
    · simp [same, accepted]
    · simp [same, accepted, Ne.symm same]

theorem ne_empty_of_get (accepted : get envValue cache now = .ok key) : key ≠ "" := by
  rintro rfl
  unfold get fallback at accepted
  split at accepted
  · cases accepted
  next text nonempty _ =>
    have empty := congrArg String.toList (Except.ok.inj accepted)
    rw [String.toList_ofList] at empty
    exact nonempty empty
  · split at accepted
    next configured => exact configured (Except.ok.inj accepted)
    next => cases accepted

theorem get_congr (same : left.get time setupKeyCacheKey = right.get time setupKeyCacheKey) :
    get envValue left time = get envValue right time := by
  simp only [get, same]

@[simp] theorem get_invalidate :
    get envValue (invalidate envValue cache now) time = .error .notConfigured := by
  unfold invalidate
  split
  · simp [get, Cache.get, Cache.Item.isExpired]
  next unset =>
    simp [get, Cache.get, Cache.item_delete_self, fallback, unset]

end

end SetupKeyManager

end ShadowPanel.Enrollment
