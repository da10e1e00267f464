import ShadowPanel.Data.Interleaving
import ShadowPanel.Middlewares.LoginRateLimit

namespace ShadowPanel.Middlewares

open Data

/-! The limiter's `Middleware` one cache operation at a time, for requests that
are served side by side. -/

inductive LoginStage where
  | checkIP
  | checkUsername
  | handle
  | readIP
  | writeIP (count : Nat)
  | readUsername
  | writeUsername (count : Nat)
  | resetUsername
  | finished
  deriving DecidableEq

structure LoginAttempt where
  request : LoginRequest
  stage : LoginStage
  answer : Option (Nat × Int)

def LoginAttempt.start (request : LoginRequest) : LoginAttempt where
  request := request
  stage := .checkIP
  answer := none

structure Limiting (driver : Cache.Driver) where
  now : Int
  cache : Cache driver

structure Moment where
  seconds : Nat
  status : Nat

variable (limiter : LoginRateLimit) (toLower sha256 : String → String)
variable {driver : Cache.Driver}

namespace LoginAttempt

variable (attempt : LoginAttempt)

def ip : String := extractClientIP limiter attempt.request

def username : String := peekUsername toLower attempt.request

def stageAfter (status : Nat) (username : String) : LoginStage :=
  if status = 401 then .readIP
  else if status = 200 then
    if username ≠ "" then .resetUsername else .finished
  else .finished

def operate (cache : Cache driver) (now : Int) : Cache driver :=
  match attempt.stage with
  | .checkIP | .readIP =>
    if attempt.ip limiter ≠ "" then cache.afterGet now (ipKey (attempt.ip limiter)) else cache
  | .checkUsername | .readUsername =>
    if attempt.username toLower ≠ "" then
      cache.afterGet now (userKey sha256 (attempt.username toLower))
    else cache
  | .writeIP count => writeCount limiter cache now (ipKey (attempt.ip limiter)) (count + 1)
  | .writeUsername count =>
    writeCount limiter cache now (userKey sha256 (attempt.username toLower)) (count + 1)
  | .resetUsername => cache.delete (userKey sha256 (attempt.username toLower))
  | .handle | .finished => cache

def advance (cache : Cache driver) (now : Int) (status : Nat) : LoginAttempt :=
  match attempt.stage with
  | .checkIP =>
    if isLimitedByIP limiter cache now (attempt.ip limiter) then
      { attempt with stage := .finished, answer := some (429, now) }
    else { attempt with stage := .checkUsername }
  | .checkUsername =>
    if isLimitedByUsername limiter cache now sha256 (attempt.username toLower) then
      { attempt with stage := .finished, answer := some (429, now) }
    else { attempt with stage := .handle }
  | .handle =>
    { attempt with
      stage := stageAfter status (attempt.username toLower)
      answer := some (status, now) }
  | .readIP =>
    if attempt.ip limiter ≠ "" then
      { attempt with stage := .writeIP (readCount cache now (ipKey (attempt.ip limiter))) }
    else { attempt with stage := .readUsername }
  | .writeIP _ => { attempt with stage := .readUsername }
  | .readUsername =>
    if attempt.username toLower ≠ "" then
      { attempt with
        stage := .writeUsername (readCount cache now (userKey sha256 (attempt.username toLower))) }
    else { attempt with stage := .finished }
  | .writeUsername _ | .resetUsername | .finished => { attempt with stage := .finished }

def act (moment : Moment) (limiting : Limiting driver) (attempt : LoginAttempt) :
    Limiting driver × LoginAttempt :=
  ({ now := limiting.now + moment.seconds
     cache := attempt.operate limiter toLower sha256 limiting.cache
      (limiting.now + moment.seconds) },
    attempt.advance limiter toLower sha256 limiting.cache (limiting.now + moment.seconds)
      moment.status)

@[simp] theorem request_advance (cache : Cache driver) (now : Int) (status : Nat) :
    (attempt.advance limiter toLower sha256 cache now status).request = attempt.request := by
  unfold advance
  split <;> (try split) <;> rfl

end LoginAttempt

end ShadowPanel.Middlewares
