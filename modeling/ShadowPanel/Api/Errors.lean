import ShadowPanel.Data.Programs

namespace ShadowPanel.Api

open Data Data.Program

/-! The errors of `pkg/api/error.go`, as a handler writes them. -/

structure HandlerError where
  status : Nat
  message : String

namespace HandlerError

def internal (message : String) : HandlerError := ⟨500, message⟩

def validation (message : String) : HandlerError := ⟨422, message⟩

def withMessage (text : String) (error : HandlerError) : HandlerError :=
  { error with message := text ++ ": " ++ error.message }

def wrap (status : Nat) (error : HandlerError) : HandlerError := { error with status := status }

end HandlerError

section

variable {Op : Type} {Answer : Op → Type} {α Known : Type}

def orFail (text : String) : Except String α → Program Op Answer HandlerError α
  | .error cause => throw (.withMessage text (.internal cause))
  | .ok value => pure value

def orThrow : Except HandlerError Unit → Program Op Answer HandlerError Unit
  | .error error => throw error
  | .ok _ => pure ()

def require (error : HandlerError) (holds : Bool) : Program Op Answer HandlerError Unit :=
  if holds then pure () else throw error

theorem silent_orFail (text : String) (answer : Except String α) :
    Silent rules (orFail text answer) := by
  cases answer with
  | ok value => exact .pure value
  | error cause => exact .throw _

theorem silent_orThrow (result : Except HandlerError Unit) : Silent rules (orThrow result) := by
  cases result with
  | ok _ => exact .pure ()
  | error error => exact .throw error

theorem silent_require (error : HandlerError) (holds : Bool) :
    Silent rules (require error holds) := by
  cases holds with
  | true => exact .pure ()
  | false => exact .throw error

end

end ShadowPanel.Api
