import ShadowPanel.Data.Interleaving

namespace ShadowPanel.Acme

open Data

/-! The certificates of panel instances, of `internal/acme/service.go`.  The instances share
the storage of the certificate and the lock for its key; each step of an instance is one call
of the storage, of the locker or of the ACME server. -/

universe u

/-- What `tlsCertificateFromResource` gives; the leaf is known by the end of its validity. -/
structure Certificate where
  leaf : Option Int

structure ServiceConfig (Resource : Type u) where
  parse : Resource → Option Certificate
  renewalThreshold : Int

/-- Where an instance is in `ensureCertificate`, `tickRenewal`, `obtain` or `renew`. -/
inductive Phase (Resource : Type u) where
  | idle
  | loading
  | obtaining (seen : Option Resource)
  | renewing (resource : Resource)
  | locked
  | ordered (resource : Resource)
  | saved (resource : Resource)
  | releasing
  deriving DecidableEq

structure Instance (Resource : Type u) where
  phase : Phase Resource
  currentCert : Option Certificate
  currentRes : Option Resource

structure Shared (Resource : Type u) where
  stored : Option Resource
  isLocked : Bool
  clock : Int

inductive Entry where
  | ensureCertificate
  | tickRenewal

/-- What a step meets: the time that has passed, what an idle instance begins, whether the call
fails, and the resource that the ACME server issues. -/
structure Input (Resource : Type u) where
  elapsed : Nat
  entry : Entry
  fails : Bool
  issued : Resource

variable {Resource : Type u}

namespace ServiceConfig

variable (cfg : ServiceConfig Resource)

def isFresh (now : Int) (cert : Certificate) : Bool :=
  match cert.leaf with
  | none => false
  | some notAfter => cfg.renewalThreshold < notAfter - now

def needsCertificate (now : Int) (stored : Option Resource) : Bool :=
  match stored with
  | none => true
  | some resource =>
    match cfg.parse resource with
    | none => true
    | some cert => !cfg.isFresh now cert

end ServiceConfig

namespace Instance

variable (self : Instance Resource)

def enter (phase : Phase Resource) : Instance Resource := { self with phase := phase }

def applyCertificate (resource : Resource) (cert : Certificate) : Instance Resource :=
  { self with currentCert := some cert, currentRes := some resource }

end Instance

variable (cfg : ServiceConfig Resource)

def tickRenewal (now : Int) (self : Instance Resource) : Instance Resource :=
  match self.currentCert with
  | none => self
  | some cert =>
    match cert.leaf with
    | none => self
    | some notAfter =>
      if cfg.renewalThreshold < notAfter - now then self
      else
        match self.currentRes with
        | none => self.enter (.obtaining none)
        | some resource => self.enter (.renewing resource)

def useLoaded (now : Int) (resource : Resource) (self : Instance Resource) : Instance Resource :=
  match cfg.parse resource with
  | none => self.enter (.obtaining (some resource))
  | some cert =>
    if cfg.isFresh now cert then (self.applyCertificate resource cert).enter .idle
    else self.enter (.obtaining (some resource))

def acquire (fails : Bool) (shared : Shared Resource) (self : Instance Resource) :
    Shared Resource × Instance Resource :=
  if fails || shared.isLocked then (shared, self.enter .idle)
  else ({ shared with isLocked := true }, self.enter .locked)

def act (input : Input Resource) (before : Shared Resource) (self : Instance Resource) :
    Shared Resource × Instance Resource :=
  let now := before.clock + input.elapsed
  let shared := { before with clock := now }
  match self.phase with
  | .idle =>
    match input.entry with
    | .tickRenewal => (shared, tickRenewal cfg now self)
    | .ensureCertificate =>
      if input.fails then (shared, self)
      else if shared.stored.isSome then (shared, self.enter .loading)
      else (shared, self.enter (.obtaining none))
  | .loading =>
    if input.fails then (shared, self.enter .idle)
    else
      match shared.stored with
      | none => (shared, self.enter .idle)
      | some resource => (shared, useLoaded cfg now resource self)
  | .obtaining _ => acquire input.fails shared self
  | .renewing _ => acquire input.fails shared self
  | .locked =>
    if input.fails then (shared, self.enter .releasing)
    else (shared, self.enter (.ordered input.issued))
  | .ordered resource =>
    if input.fails then (shared, self.enter .releasing)
    else ({ shared with stored := some resource }, self.enter (.saved resource))
  | .saved resource =>
    match cfg.parse resource with
    | none => (shared, self.enter .releasing)
    | some cert => (shared, (self.applyCertificate resource cert).enter .releasing)
  | .releasing => ({ shared with isLocked := false }, self.enter .idle)

end ShadowPanel.Acme
