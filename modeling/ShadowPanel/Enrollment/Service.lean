import ShadowPanel.Data.Interleaving
import ShadowPanel.Enrollment.SetupKey
import ShadowPanel.Middlewares.LoginRateLimit
import ShadowPanel.Repositories.Nodes

namespace ShadowPanel.Enrollment

open Data Domain Repositories

/-! `Service.Enroll` of `internal/enrollment/service.go`, as a whole and one
cache or repository operation at a time. -/

def defaultPort : Int := 31717

def defaultWorkPath : String := "/srv/gameap"

def defaultSteamCMDPath : String := "/srv/gameap/steamcmd"

def rootCACert : String := "certs/root.crt"

/-- `ParseNodeOS` of `internal/domain/node.go`. -/
def parseNodeOS (toLower : String → String) (os : String) : NodeOS :=
  match (toLower (String.ofList (Middlewares.trimSpace os.toList))).toList with
  | [] => .other
  | 'l' :: _ => .linux
  | 'w' :: _ => .windows
  | name =>
    if ["ubu", "deb", "cen", "fed", "alm", "roc", "arc", "sus"].contains
        (String.ofList (name.take 3)) then .linux
    else if ["mac", "osx", "dar"].contains (String.ofList (name.take 3)) then .macOS
    else .other

structure EnrollInput where
  host : String
  port : Int
  os : String

structure EnrollResult where
  nodeID : Nat
  apiKey : String
  rootCertificate : String
  serverCertificate : String
  serverPrivateKey : String

inductive ClientCertificateError where
  | find
  | generate
  | fingerprint
  | save

inductive EnrollError where
  | cache
  | setupKey (error : SetupKeyError)
  | apiKey
  | serverCertificate
  | rootCertificate
  | clientCertificate (error : ClientCertificateError)
  | node

def SetupKeyError.message : SetupKeyError → String
  | .notConfigured => "daemon setup key is not configured"
  | .invalid => "invalid setup key"

def ClientCertificateError.message : ClientCertificateError → String
  | .find => "failed to find client certificates"
  | .generate => "failed to generate client certificate"
  | .fingerprint => "failed to fingerprint client certificate"
  | .save => "failed to save client certificate"

def EnrollError.message : EnrollError → String
  | .cache => "failed to get setup key from cache"
  | .setupKey error => error.message
  | .apiKey => "failed to generate API key"
  | .serverCertificate => "failed to generate server certificate"
  | .rootCertificate => "failed to get root certificate"
  | .clientCertificate error => "failed to get client certificate ID: " ++ error.message
  | .node => "failed to save node"

structure Services where
  validates : Bool
  apiKey : Option String
  serverCertificate : Option (String × String)
  rootCertificate : Option String
  findsCertificates : Bool
  clientCertificate : Option String
  fingerprints : Bool
  certificateID : Option Nat
  nodeID : Option Nat
  invalidates : Bool

structure Credentials where
  apiKey : String
  serverCertificate : String
  serverPrivateKey : String
  rootCertificate : String

structure Enrolling (driver : Cache.Driver) where
  now : Int
  cache : Cache driver
  clientCertificates : List Nat
  nodes : NodeRepository

variable {driver : Cache.Driver}
variable (toLower sha256 : String → String) (envValue : String)

def validate (services : Services) (cache : Cache driver) (now : Int) (setupKey : String) :
    Except EnrollError Unit :=
  if services.validates then
    (SetupKeyManager.validate envValue cache now setupKey).mapError .setupKey
  else .error .cache

def afterValidate (services : Services) (cache : Cache driver) (now : Int) : Cache driver :=
  if services.validates then cache.afterGet now setupKeyCacheKey else cache

def createCredentials (services : Services) : Except EnrollError Credentials :=
  match services.apiKey, services.serverCertificate, services.rootCertificate with
  | none, _, _ => .error .apiKey
  | some _, none, _ => .error .serverCertificate
  | some _, some _, none => .error .rootCertificate
  | some apiKey, some (certificate, privateKey), some root =>
    .ok ⟨apiKey, certificate, privateKey, root⟩

def createCertificate (services : Services) : Except EnrollError Unit :=
  if services.clientCertificate.isNone then .error (.clientCertificate .generate)
  else if services.fingerprints then .ok ()
  else .error (.clientCertificate .fingerprint)

def newNode (now : Int) (input : EnrollInput) (credentials : Credentials)
    (clientCertificateID : Nat) : Node where
  id := 0
  enabled := true
  name := input.host
  os := parseNodeOS toLower input.os
  location := "Unknown"
  provider := some "Unknown"
  ips := [input.host]
  workPath := defaultWorkPath
  steamcmdPath := some defaultSteamCMDPath
  gdaemonHost := input.host
  gdaemonPort := if input.port = 0 then defaultPort else input.port
  gdaemonAPIKey := sha256 credentials.apiKey
  gdaemonAPIToken := none
  gdaemonServerCert := rootCACert
  clientCertificateID := clientCertificateID
  preferInstallMethod := .auto
  createdAt := some now
  updatedAt := some now
  deletedAt := none

def resultOf (credentials : Credentials) (nodeID : Nat) : EnrollResult where
  nodeID := nodeID
  apiKey := credentials.apiKey
  rootCertificate := credentials.rootCertificate
  serverCertificate := credentials.serverCertificate
  serverPrivateKey := credentials.serverPrivateKey

def getOrCreateClientCertificateID (services : Services) (stored : List Nat) :
    List Nat × Except EnrollError Nat :=
  if services.findsCertificates then
    match stored with
    | id :: _ => (stored, .ok id)
    | [] =>
      match createCertificate services, services.certificateID with
      | .error error, _ => ([], .error error)
      | .ok (), none => ([], .error (.clientCertificate .save))
      | .ok (), some id => ([id], .ok id)
  else (stored, .error (.clientCertificate .find))

def invalidate (services : Services) (cache : Cache driver) (now : Int) : Cache driver :=
  if services.invalidates then SetupKeyManager.invalidate envValue cache now else cache

def enroll (services : Services) (state : Enrolling driver) (setupKey : String)
    (input : EnrollInput) : Enrolling driver × Except EnrollError EnrollResult :=
  match validate envValue services state.cache state.now setupKey with
  | .error error =>
    ({ state with cache := afterValidate services state.cache state.now }, .error error)
  | .ok () =>
    match createCredentials services with
    | .error error =>
      ({ state with cache := afterValidate services state.cache state.now }, .error error)
    | .ok credentials =>
      match getOrCreateClientCertificateID services state.clientCertificates with
      | (stored, .error error) =>
        ({ state with
            cache := afterValidate services state.cache state.now
            clientCertificates := stored },
          .error error)
      | (stored, .ok certificateID) =>
        match services.nodeID with
        | none =>
          ({ state with
              cache := afterValidate services state.cache state.now
              clientCertificates := stored },
            .error .node)
        | some nodeID =>
          ({ state with
              cache := invalidate envValue services
                (afterValidate services state.cache state.now) state.now
              clientCertificates := stored
              nodes := state.nodes.save state.now nodeID
                (newNode toLower sha256 state.now input credentials certificateID) },
            .ok (resultOf credentials nodeID))

section

variable {toLower sha256 envValue} {services : Services} {state : Enrolling driver}
variable {setupKey : String} {input : EnrollInput}

theorem validate_eq_ok : validate envValue services cache now setupKey = .ok () ↔
    services.validates = true ∧ SetupKeyManager.get envValue cache now = .ok setupKey := by
  rw [← SetupKeyManager.validate_eq_ok]
  unfold validate
  cases services.validates with
  | false => simp
  | true =>
    cases SetupKeyManager.validate envValue cache now setupKey with
    | error error =>
      constructor
      · intro accepted
        cases accepted
      · intro accepted
        cases accepted.2
    | ok _ =>
      constructor
      · intro _
        exact ⟨rfl, rfl⟩
      · intro _
        rfl

theorem of_enroll_eq_ok
    (accepted : (enroll toLower sha256 envValue services state setupKey input).2 = .ok result) :
    validate envValue services state.cache state.now setupKey = .ok () ∧
      (enroll toLower sha256 envValue services state setupKey input).1.cache =
        invalidate envValue services (afterValidate services state.cache state.now) state.now := by
  cases valid : validate envValue services state.cache state.now setupKey with
  | error error => simp [enroll, valid] at accepted
  | ok passed =>
    refine ⟨rfl, ?_⟩
    cases created : createCredentials services with
    | error error => simp [enroll, valid, created] at accepted
    | ok credentials =>
      cases found : getOrCreateClientCertificateID services state.clientCertificates with
      | mk stored outcome =>
        cases outcome with
        | error error => simp [enroll, valid, created, found] at accepted
        | ok certificateID =>
          cases saved : services.nodeID with
          | none => simp [enroll, valid, created, found, saved] at accepted
          | some nodeID => simp [enroll, valid, created, found, saved]

variable (toLower sha256 envValue services state setupKey input) in
theorem cache_enroll : (enroll toLower sha256 envValue services state setupKey input).1.cache =
      afterValidate services state.cache state.now ∨
    (enroll toLower sha256 envValue services state setupKey input).1.cache =
      invalidate envValue services (afterValidate services state.cache state.now) state.now := by
  unfold enroll
  split
  · exact .inl rfl
  · split
    · exact .inl rfl
    · split
      · exact .inl rfl
      · split
        · exact .inl rfl
        · exact .inr rfl

def Services.reliable : Services where
  validates := true
  apiKey := some "api key"
  serverCertificate := some ("certificate", "private key")
  rootCertificate := some "root"
  findsCertificates := true
  clientCertificate := some "client certificate"
  fingerprints := true
  certificateID := some 1
  nodeID := some 1
  invalidates := true

theorem exists_enroll_eq_ok
    (valid : SetupKeyManager.get envValue state.cache state.now = .ok setupKey) :
    ∃ result, (enroll toLower sha256 envValue .reliable state setupKey input).2 = .ok result := by
  have accepted : validate envValue .reliable state.cache state.now setupKey = .ok () :=
    validate_eq_ok.mpr ⟨rfl, valid⟩
  unfold enroll
  rw [accepted]
  simp only [createCredentials, Services.reliable, getOrCreateClientCertificateID,
    createCertificate]
  cases state.clientCertificates <;> simp

end

inductive EnrollStage where
  | validate
  | findCertificate (credentials : Credentials)
  | saveCertificate (credentials : Credentials)
  | saveNode (credentials : Credentials) (certificateID : Nat)
  | invalidate (result : EnrollResult)
  | finished (outcome : Except EnrollError EnrollResult)

structure EnrollCall where
  setupKey : String
  input : EnrollInput
  services : Services
  stage : EnrollStage

def EnrollCall.start (setupKey : String) (input : EnrollInput) (services : Services) :
    EnrollCall where
  setupKey := setupKey
  input := input
  services := services
  stage := .validate

namespace EnrollCall

variable (call : EnrollCall)

def operate (state : Enrolling driver) : Enrolling driver :=
  match call.stage with
  | .validate => { state with cache := afterValidate call.services state.cache state.now }
  | .saveCertificate _ =>
    { state with
      clientCertificates := state.clientCertificates ++ call.services.certificateID.toList }
  | .saveNode credentials certificateID =>
    match call.services.nodeID with
    | none => state
    | some nodeID =>
      { state with
        nodes := state.nodes.save state.now nodeID
          (newNode toLower sha256 state.now call.input credentials certificateID) }
  | .invalidate _ =>
    { state with cache := invalidate envValue call.services state.cache state.now }
  | .findCertificate _ | .finished _ => state

def nextStage (state : Enrolling driver) : EnrollStage :=
  match call.stage with
  | .validate =>
    match Enrollment.validate envValue call.services state.cache state.now call.setupKey with
    | .error error => .finished (.error error)
    | .ok () =>
      match createCredentials call.services with
      | .error error => .finished (.error error)
      | .ok credentials => .findCertificate credentials
  | .findCertificate credentials =>
    if call.services.findsCertificates then
      match state.clientCertificates with
      | id :: _ => .saveNode credentials id
      | [] =>
        match createCertificate call.services with
        | .error error => .finished (.error error)
        | .ok () => .saveCertificate credentials
    else .finished (.error (.clientCertificate .find))
  | .saveCertificate credentials =>
    match call.services.certificateID with
    | none => .finished (.error (.clientCertificate .save))
    | some id => .saveNode credentials id
  | .saveNode credentials _ =>
    match call.services.nodeID with
    | none => .finished (.error .node)
    | some nodeID => .invalidate (resultOf credentials nodeID)
  | .invalidate result => .finished (.ok result)
  | .finished outcome => .finished outcome

end EnrollCall

def Enrolling.later (state : Enrolling driver) (seconds : Nat) : Enrolling driver :=
  { state with now := state.now + seconds }

def EnrollCall.act (seconds : Nat) (state : Enrolling driver) (call : EnrollCall) :
    Enrolling driver × EnrollCall :=
  (call.operate toLower sha256 envValue (state.later seconds),
    { call with stage := call.nextStage envValue (state.later seconds) })

end ShadowPanel.Enrollment
