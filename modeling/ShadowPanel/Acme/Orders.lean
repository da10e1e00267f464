import ShadowPanel.Acme.Service

namespace ShadowPanel.Acme

open Data Pool ServiceConfig List

universe u

variable {Resource : Type u} (cfg : ServiceConfig Resource)

/-! When the instances order certificates. -/

namespace Phase

def holdsLock : Phase Resource → Bool
  | .locked | .ordered _ | .saved _ | .releasing => true
  | _ => false

def isOrdering : Phase Resource → Bool
  | .locked | .ordered _ => true
  | _ => false

def decidedOn : Phase Resource → Option (Option Resource)
  | .obtaining seen => some seen
  | .renewing resource => some (some resource)
  | _ => none

end Phase

def OrderedInNeed (input : Input Resource) (shared : Shared Resource) (_ : List (Instance Resource))
    (self : Instance Resource) : Prop :=
  self.phase = .locked → cfg.needsCertificate (shared.clock + input.elapsed) shared.stored = true

def savesOrder (input : Input Resource) (self : Instance Resource) : Bool :=
  match self.phase with
  | .ordered _ => !input.fails
  | _ => false

/-- An instance that gets the lock finds in the storage what its decision was made on. -/
def Undisturbed (input : Input Resource) (shared : Shared Resource) (_ : List (Instance Resource))
    (self : Instance Resource) : Prop :=
  input.fails = false → shared.isLocked = false →
    ∀ seen ∈ self.phase.decidedOn, shared.stored = seen

instance [DecidableEq Resource] (input : Input Resource) (shared : Shared Resource)
    (others : List (Instance Resource)) (self : Instance Resource) :
    Decidable (OrderedInNeed cfg input shared others self) :=
  inferInstanceAs (Decidable (self.phase = .locked → _ = true))

instance [DecidableEq Resource] (input : Input Resource) (shared : Shared Resource)
    (others : List (Instance Resource)) (self : Instance Resource) :
    Decidable (Undisturbed input shared others self) :=
  inferInstanceAs (Decidable (_ = false → _ = false → ∀ seen ∈ self.phase.decidedOn, _ = seen))

def Instance.Consistent (self : Instance Resource) : Prop :=
  self.currentCert = self.currentRes.bind cfg.parse

structure Quiet (pool : Pool (Shared Resource) (Instance Resource)) : Prop where
  free : pool.shared.isLocked = false
  idle : ∀ self ∈ pool.calls, self.phase = .idle
  consistent : ∀ self ∈ pool.calls, self.Consistent cfg

variable {cfg}

theorem needsCertificate_of_parsed (parsed : cfg.parse resource = some cert) (now : Int) :
    cfg.needsCertificate now (some resource) = !cfg.isFresh now cert := by
  simp only [needsCertificate, parsed]

private theorem isFresh_of_later (order : now ≤ later) (fresh : cfg.isFresh later cert = true) :
    cfg.isFresh now cert = true := by
  unfold isFresh at fresh ⊢
  split at fresh
  · cases fresh
  · rw [decide_eq_true_eq] at fresh ⊢
    omega

theorem needsCertificate_of_earlier (order : now ≤ later)
    (needs : cfg.needsCertificate now stored = true) :
    cfg.needsCertificate later stored = true := by
  unfold needsCertificate at needs ⊢
  split at needs
  · rfl
  · split at needs
    · rfl
    next cert _ =>
      cases fresh : cfg.isFresh later cert with
      | false => rfl
      | true =>
        rw [isFresh_of_later order fresh] at needs
        cases needs

/-- The steps, by what they do to the lock and to the storage.  The clock of `shared` is the
time of the step. -/
inductive Moves (cfg : ServiceConfig Resource) (input : Input Resource) (shared : Shared Resource)
    (self : Instance Resource) : Shared Resource → Instance Resource → Prop
  | decides {moved : Instance Resource} (before : self.phase.holdsLock = false)
      (behind : moved.phase.holdsLock = false)
      (needed : ∀ seen ∈ moved.phase.decidedOn, cfg.needsCertificate shared.clock seen = true)
      (consistent : moved.Consistent cfg) : Moves cfg input shared self shared moved
  | acquires (seen : Option Resource) (decided : self.phase.decidedOn = some seen)
      (succeeds : input.fails = false) (free : shared.isLocked = false) :
      Moves cfg input shared self { shared with isLocked := true } (self.enter .locked)
  | orders (holds : self.phase = .locked) :
      Moves cfg input shared self shared (self.enter (.ordered input.issued))
  | saves {resource : Resource} (holds : self.phase = .ordered resource) :
      Moves cfg input shared self { shared with stored := some resource }
        (self.enter (.saved resource))
  | finishes {moved : Instance Resource} (before : self.phase.holdsLock = true)
      (other : savesOrder input self = false) (behind : moved.phase = .releasing)
      (consistent : moved.Consistent cfg) : Moves cfg input shared self shared moved
  | releases (holds : self.phase = .releasing) :
      Moves cfg input shared self { shared with isLocked := false } (self.enter .idle)

section

variable {input : Input Resource} {shared : Shared Resource}

theorem moves_idle (before : self.phase.holdsLock = false) (consistent : self.Consistent cfg) :
    Moves cfg input shared self shared (self.enter .idle) :=
  .decides before rfl (fun _ decided => nomatch decided) consistent

private theorem moves_tickRenewal (idle : self.phase = .idle) (consistent : self.Consistent cfg) :
    Moves cfg input shared self shared (tickRenewal cfg shared.clock self) := by
  have before : self.phase.holdsLock = false := by rw [idle]; rfl
  have stays : Moves cfg input shared self shared self :=
    .decides before before (fun _ decided => by rw [idle] at decided; cases decided) consistent
  unfold tickRenewal
  split
  · exact stays
  next cert current =>
    split
    · exact stays
    next notAfter leaf =>
      split
      · exact stays
      next near =>
        have stale : cfg.isFresh shared.clock cert = false := by
          unfold isFresh
          rw [leaf]
          exact decide_eq_false near
        split
        next absent =>
          rw [Instance.Consistent, absent, current] at consistent
          cases consistent
        next resource present =>
          have parsed : cfg.parse resource = some cert := by
            rw [Instance.Consistent, present, current] at consistent
            exact consistent.symm
          refine .decides before rfl ?_ consistent
          intro seen decided
          cases decided
          rw [needsCertificate_of_parsed parsed, stale]
          rfl

private theorem moves_useLoaded (loading : self.phase = .loading)
    (consistent : self.Consistent cfg) :
    Moves cfg input shared self shared (useLoaded cfg shared.clock resource self) := by
  have before : self.phase.holdsLock = false := by rw [loading]; rfl
  unfold useLoaded
  split
  next invalid =>
    refine .decides before rfl ?_ consistent
    intro seen decided
    cases decided
    rw [needsCertificate, invalid]
  next cert parsed =>
    split
    next fresh =>
      refine .decides before rfl ?_ parsed.symm
      intro seen decided
      cases decided
    next stale =>
      refine .decides before rfl ?_ consistent
      intro seen decided
      cases decided
      rw [needsCertificate_of_parsed parsed, Bool.not_eq_true', ← Bool.not_eq_true]
      exact stale

private theorem moves_acquire (decided : self.phase.decidedOn = some seen)
    (before : self.phase.holdsLock = false) (consistent : self.Consistent cfg) :
    Moves cfg input shared self (acquire input.fails shared self).1
      (acquire input.fails shared self).2 := by
  unfold acquire
  split
  · exact moves_idle before consistent
  next free =>
    rw [Bool.not_eq_true, Bool.or_eq_false_iff] at free
    exact .acquires _ decided free.1 free.2

theorem moves_act (input : Input Resource) (shared : Shared Resource)
    (consistent : self.Consistent cfg) :
    Moves cfg input { shared with clock := shared.clock + input.elapsed } self
      (act cfg input shared self).1 (act cfg input shared self).2 := by
  cases phase : self.phase with
  | idle =>
    have before : self.phase.holdsLock = false := by rw [phase]; rfl
    simp only [act, phase]
    cases input.entry with
    | tickRenewal => exact moves_tickRenewal phase consistent
    | ensureCertificate =>
      dsimp only
      split
      · exact .decides before before
          (fun _ decided => by rw [phase] at decided; cases decided) consistent
      · split
        · exact .decides before rfl (fun _ decided => nomatch decided) consistent
        · refine .decides before rfl ?_ consistent
          intro seen decided
          cases decided
          rfl
  | loading =>
    have before : self.phase.holdsLock = false := by rw [phase]; rfl
    simp only [act, phase]
    split
    · exact moves_idle before consistent
    · split
      · exact moves_idle before consistent
      · exact moves_useLoaded phase consistent
  | obtaining seen | renewing resource =>
    simp only [act, phase]
    exact moves_acquire (by rw [phase]; rfl) (by rw [phase]; rfl) consistent
  | locked =>
    simp only [act, phase]
    split
    · exact .finishes (by rw [phase]; rfl) (by rw [savesOrder, phase]) rfl consistent
    · exact .orders phase
  | ordered resource =>
    simp only [act, phase]
    split
    next failed =>
      exact .finishes (by rw [phase]; rfl) (by rw [savesOrder, phase, failed]; rfl) rfl
        consistent
    · exact .saves phase
  | saved resource =>
    have before : self.phase.holdsLock = true := by rw [phase]; rfl
    have other : savesOrder input self = false := by rw [savesOrder, phase]
    simp only [act, phase]
    split
    · exact .finishes before other rfl consistent
    next cert parsed => exact .finishes before other rfl parsed.symm
  | releasing =>
    simp only [act, phase]
    exact .releases phase

end

structure Knows (cfg : ServiceConfig Resource) (shared : Shared Resource)
    (each : Instance Resource) : Prop where
  consistent : each.Consistent cfg
  decided : ∀ seen ∈ each.phase.decidedOn, cfg.needsCertificate shared.clock seen = true
  locked : each.phase = .locked → cfg.needsCertificate shared.clock shared.stored = true

structure Sound (cfg : ServiceConfig Resource) (pool : Pool (Shared Resource) (Instance Resource)) :
    Prop where
  knows : ∀ self ∈ pool.calls, Knows cfg pool.shared self
  exclusive : pool.calls.countP (fun self => self.phase.holdsLock) = pool.shared.isLocked.toNat

theorem Knows.later {shared later : Shared Resource} (order : shared.clock ≤ later.clock)
    (same : self.phase.holdsLock = true → later.stored = shared.stored)
    (knows : Knows cfg shared self) : Knows cfg later self where
  consistent := knows.consistent
  decided := fun seen decided => needsCertificate_of_earlier order (knows.decided seen decided)
  locked := by
    intro locked
    rw [same (by rw [locked]; rfl)]
    exact needsCertificate_of_earlier order (knows.locked locked)

theorem Knows.of_ordered {shared : Shared Resource} (consistent : self.Consistent cfg)
    (decided : self.phase.decidedOn = none) (ordered : self.phase ≠ .locked) :
    Knows cfg shared self where
  consistent := consistent
  decided := by
    intro seen member
    rw [decided] at member
    cases member
  locked := fun locked => absurd locked ordered

private theorem Sound.of_quiet (quiet : Quiet cfg pool) : Sound cfg pool where
  knows := by
    intro self member
    have idle := quiet.idle self member
    apply Knows.of_ordered (quiet.consistent self member)
    · rw [idle]
      rfl
    · rw [idle]
      intro clash
      cases clash
  exclusive := by
    rw [quiet.free, Bool.toNat_false, countP_eq_zero]
    intro self member
    rw [quiet.idle self member]
    exact Bool.false_ne_true

section

variable {shared : Shared Resource}
variable {behind : List (Instance Resource)}

theorem Sound.others_outside (sound : Sound cfg ⟨shared, before ++ self :: behind⟩)
    (holds : self.phase.holdsLock = true) :
    shared.isLocked = true ∧ ∀ other ∈ before ++ behind, other.phase.holdsLock = false := by
  have exclusive := sound.exclusive
  rw [countP_calls, holds, Bool.toNat_true] at exclusive
  have locked : shared.isLocked = true := by
    cases free : shared.isLocked with
    | true => rfl
    | false =>
      rw [free, Bool.toNat_false] at exclusive
      omega
  refine ⟨locked, ?_⟩
  rw [locked, Bool.toNat_true] at exclusive
  have none : (before ++ behind).countP (fun self => self.phase.holdsLock) = 0 := by omega
  intro other member
  exact Bool.eq_false_iff.mpr (countP_eq_zero.mp none other member)

private theorem Sound.outside_of_free (sound : Sound cfg pool)
    (free : pool.shared.isLocked = false) :
    ∀ self ∈ pool.calls, self.phase.holdsLock = false := by
  have exclusive := sound.exclusive
  rw [free, Bool.toNat_false, countP_eq_zero] at exclusive
  intro self member
  exact Bool.eq_false_iff.mpr (exclusive self member)

private theorem exclusive_of_same {locked : Bool}
    (same : moved.phase.holdsLock = self.phase.holdsLock)
    (exclusive : (before ++ self :: behind).countP (fun self => self.phase.holdsLock) =
      locked.toNat) :
    (before ++ moved :: behind).countP (fun self => self.phase.holdsLock) = locked.toNat := by
  rw [countP_calls] at exclusive ⊢
  rw [same]
  exact exclusive

theorem Sound.after_act (sound : Sound cfg ⟨shared, before ++ self :: behind⟩)
    (undisturbed : Undisturbed input shared (before ++ behind) self) :
    Sound cfg ⟨(act cfg input shared self).1, before ++ (act cfg input shared self).2 ::
      behind⟩ := by
  obtain ⟨others, own⟩ := forall_calls.mp sound.knows
  have order : shared.clock ≤ shared.clock + input.elapsed := by omega
  have moves : Moves cfg input { shared with clock := shared.clock + input.elapsed } self
      (act cfg input shared self).1 (act cfg input shared self).2 :=
    moves_act _ _ own.consistent
  generalize act cfg input shared self = result at moves ⊢
  obtain ⟨later, moved⟩ := result
  cases moves with
  | decides outside outsideNext needed consistent =>
    refine ⟨forall_calls.mpr
      ⟨?_, consistent, needed, fun locked => by rw [locked] at outsideNext; cases outsideNext⟩,
      exclusive_of_same (outsideNext.trans outside.symm) sound.exclusive⟩
    exact fun other member => (others other member).later order (fun _ => rfl)
  | acquires seen decided succeeds free =>
    have stored : shared.stored = seen := undisturbed succeeds free seen decided
    have outside := sound.outside_of_free free
    refine ⟨forall_calls.mpr ⟨?_, own.consistent, (fun _ clash => nomatch clash), ?_⟩, ?_⟩
    · exact fun other member => (others other member).later order (fun _ => rfl)
    · intro _
      refine needsCertificate_of_earlier order ?_
      rw [stored]
      exact own.decided seen decided
    · have exclusive := sound.exclusive
      have released : self.phase.holdsLock = false := (forall_calls.mp outside).2
      rw [countP_calls, released, show shared.isLocked = false from free] at exclusive
      rw [countP_calls, show (before ++ behind).countP _ = 0 from exclusive]
      rfl
  | orders holds =>
    refine ⟨forall_calls.mpr
        ⟨?_, .of_ordered own.consistent rfl (fun clash => nomatch clash)⟩,
      exclusive_of_same (by rw [holds]; rfl) sound.exclusive⟩
    exact fun other member => (others other member).later order (fun _ => rfl)
  | saves holds =>
    obtain ⟨_, outside⟩ := sound.others_outside (by rw [holds]; rfl)
    refine ⟨forall_calls.mpr
        ⟨?_, .of_ordered own.consistent rfl (fun clash => nomatch clash)⟩,
      exclusive_of_same (by rw [holds]; rfl) sound.exclusive⟩
    intro other member
    apply (others other member).later order
    intro locked
    rw [outside other member] at locked
    cases locked
  | finishes holds _ releasing consistent =>
    refine ⟨forall_calls.mpr ⟨?_, .of_ordered consistent (by rw [releasing]; rfl) ?_⟩,
      exclusive_of_same (by rw [holds, releasing]; rfl) sound.exclusive⟩
    · exact fun other member => (others other member).later order (fun _ => rfl)
    · rw [releasing]
      exact fun clash => nomatch clash
  | releases holds =>
    obtain ⟨_, outside⟩ := sound.others_outside (by rw [holds]; rfl)
    refine ⟨forall_calls.mpr
        ⟨?_, .of_ordered own.consistent rfl (fun clash => nomatch clash)⟩,
      ?_⟩
    · exact fun other member => (others other member).later order (fun _ => rfl)
    · rw [countP_calls, countP_eq_zero.mpr
        (fun other member => Bool.eq_false_iff.mp (outside other member))]
      rfl

end

def Lasting (cfg : ServiceConfig Resource) (last : Int) (input : Input Resource)
    (shared : Shared Resource) (_ : List (Instance Resource)) (_ : Instance Resource) : Prop :=
  shared.clock + input.elapsed ≤ last ∧ cfg.needsCertificate last (some input.issued) = false

def Awaits (cfg : ServiceConfig Resource) (last : Int) (self : Instance Resource) : Prop :=
  ∀ resource, self.phase = .ordered resource → cfg.needsCertificate last (some resource) = false

structure Settled (cfg : ServiceConfig Resource) (last : Int)
    (pool : Pool (Shared Resource) (Instance Resource)) : Prop where
  sound : Sound cfg pool
  fresh : cfg.needsCertificate last pool.shared.stored = false
  done : ∀ self ∈ pool.calls, self.phase.isOrdering = false

theorem Phase.isOrdering_of_outside {phase : Phase Resource} (outside : phase.holdsLock = false) :
    phase.isOrdering = false := by
  cases phase with
  | idle | loading | obtaining | renewing | saved | releasing => rfl
  | locked | ordered => cases outside

private theorem savesOrder_of_done (done : self.phase.isOrdering = false) :
    savesOrder input self = false := by
  unfold savesOrder
  split
  next phase =>
    rw [phase] at done
    cases done
  · rfl

@[simp]
theorem act_clock (input : Input Resource) (shared : Shared Resource) (self : Instance Resource) :
    (act cfg input shared self).1.clock = shared.clock + input.elapsed := by
  simp only [act, acquire]
  repeat' split
  all_goals rfl

section

variable {shared : Shared Resource}
private theorem awaits_act (consistent : self.Consistent cfg)
    (lasting : Lasting cfg last input shared (before ++ behind) self) :
    Awaits cfg last (act cfg input shared self).2 := by
  have moves := moves_act input shared consistent
  generalize act cfg input shared self = result at moves ⊢
  obtain ⟨later, moved⟩ := result
  intro resource ordered
  cases moves with
  | decides _ outside =>
    rw [ordered] at outside
    cases outside
  | orders =>
    cases ordered
    exact lasting.2
  | finishes _ _ releasing => cases releasing.symm.trans ordered
  | _ => cases ordered

theorem Settled.after_act (settled : Settled cfg last ⟨shared, before ++ self :: behind⟩)
    (undisturbed : Undisturbed input shared (before ++ behind) self)
    (lasting : Lasting cfg last input shared (before ++ behind) self) :
    Settled cfg last ⟨(act cfg input shared self).1,
      before ++ (act cfg input shared self).2 :: behind⟩ := by
  have sound := settled.sound.after_act undisturbed
  obtain ⟨others, own⟩ := forall_calls.mp settled.done
  have knows := (forall_calls.mp settled.sound.knows).2
  have moves := moves_act input shared knows.consistent
  generalize act cfg input shared self = result at moves sound ⊢
  obtain ⟨later, moved⟩ := result
  cases moves with
  | decides _ outside =>
    exact ⟨sound, settled.fresh, forall_calls.mpr ⟨others, Phase.isOrdering_of_outside outside⟩⟩
  | acquires seen decided succeeds free =>
    -- the decision was made on the stored certificate, which is good
    have needed : cfg.needsCertificate last shared.stored = true := by
      rw [undisturbed succeeds free seen decided]
      refine needsCertificate_of_earlier ?_ (knows.decided seen decided)
      have order := lasting.1
      dsimp only
      omega
    rw [settled.fresh] at needed
    cases needed
  | orders holds =>
    rw [holds] at own
    cases own
  | saves holds =>
    rw [holds] at own
    cases own
  | finishes _ _ releasing =>
    exact ⟨sound, settled.fresh, forall_calls.mpr ⟨others, by rw [releasing]; rfl⟩⟩
  | releases => exact ⟨sound, settled.fresh, forall_calls.mpr ⟨others, rfl⟩⟩

private theorem settled_of_saves (sound : Sound cfg ⟨shared, before ++ self :: behind⟩)
    (awaits : Awaits cfg last self) (undisturbed : Undisturbed input shared (before ++ behind) self)
    (saves : savesOrder input self = true) :
    Settled cfg last ⟨(act cfg input shared self).1,
      before ++ (act cfg input shared self).2 :: behind⟩ := by
  have moved := sound.after_act undisturbed
  unfold savesOrder at saves
  split at saves
  next resource ordered =>
    have outside := (sound.others_outside (by rw [ordered]; rfl)).2
    have succeeds : input.fails = false := by simpa using saves
    simp only [act, ordered, succeeds] at moved ⊢
    refine ⟨moved, awaits resource ordered, forall_calls.mpr ⟨?_, rfl⟩⟩
    exact fun other member => Phase.isOrdering_of_outside (outside other member)
  · cases saves

end

private theorem clock_le_run (cfg : ServiceConfig Resource)
    (pool : Pool (Shared Resource) (Instance Resource)) (events : List (Nat × Input Resource)) :
    pool.shared.clock ≤ (run (Pool.step (act cfg)) pool events).shared.clock := by
  refine always (fun later : Pool (Shared Resource) (Instance Resource) =>
    pool.shared.clock ≤ later.shared.clock) ?_ (Int.le_refl _) events
  intro input shared before self behind order
  simp only [act_clock] at order ⊢
  omega

private theorem along_lasting
    (issued : ∀ event ∈ events,
      cfg.needsCertificate (run (Pool.step (act cfg)) pool events).shared.clock
      (some event.2.issued) = false) :
    Along (Pool.step (act cfg))
      (Pool.Admits (Lasting cfg (run (Pool.step (act cfg)) pool events).shared.clock))
      pool events := by
  apply along_of_each
  intro first event rest split
  have good := issued event (by rw [split]; simp)
  have later := clock_le_run cfg (step (act cfg) (run (step (act cfg)) pool first) event) rest
  have whole : run (step (act cfg)) pool events =
      run (step (act cfg)) (step (act cfg) (run (step (act cfg)) pool first) event)
        rest := by
    rw [split, run_append]
    rfl
  rw [← whole] at later
  unfold Pool.Admits
  split
  · trivial
  next self found =>
    refine ⟨?_, good⟩
    simpa [step, found] using later

def dailyConfig : ServiceConfig Int where
  parse := fun notAfter => some ⟨some notAfter⟩
  renewalThreshold := 30

def newInstance : Instance Int := { phase := .idle, currentCert := none, currentRes := none }

def newPair : Pool (Shared Int) (Instance Int) :=
  { shared := { stored := none, isLocked := false, clock := 0 }
    calls := [newInstance, newInstance] }

def ensureTurns (order : List Nat) : List (Nat × Input Int) :=
  order.map fun index =>
    (index, { elapsed := 0, entry := .ensureCertificate, fails := false, issued := 90 })

theorem quiet_newPair : Quiet dailyConfig newPair where
  free := rfl
  idle := by simp [newPair, newInstance]
  consistent := by simp [newPair, newInstance, Instance.Consistent]

/-- Every order is placed in need, and certificates that stay good are ordered once, when an
instance gets the lock only while the stored certificate is the one that it decided on. -/
theorem orderedInNeed_of_undisturbed (quiet : Quiet cfg pool)
    (undisturbed : Along (Pool.step (act cfg)) (Pool.Admits Undisturbed) pool events) :
    Along (Pool.step (act cfg)) (Pool.Admits (OrderedInNeed cfg)) pool events ∧
      ((∀ event ∈ events, cfg.needsCertificate
          (run (Pool.step (act cfg)) pool events).shared.clock (some event.2.issued) = false) →
        occurrences (Pool.step (act cfg)) (Pool.counts savesOrder) pool events ≤ 1) := by
  have sound : Sound cfg pool := .of_quiet quiet
  constructor
  · refine along_of_invariant (Sound cfg) ?_ undisturbed sound
    intro input shared before self behind admitted holds
    refine ⟨holds.after_act admitted, ?_⟩
    intro locked
    have order : shared.clock ≤ shared.clock + input.elapsed := by omega
    exact needsCertificate_of_earlier order ((forall_calls.mp holds.knows).2.locked locked)
  · intro issued
    have lasting := along_lasting issued
    generalize (run (step (act cfg)) pool events).shared.clock = last at lasting
    refine occurrences_le_one
      (fun pool => Sound cfg pool ∧ ∀ self ∈ pool.calls, Awaits cfg last self)
      (Settled cfg last) ?_ ?_ (along_and undisturbed lasting) ⟨sound, ?_⟩
    · intro input shared before self behind admitted holds
      obtain ⟨holds, awaits⟩ := holds
      obtain ⟨others, own⟩ := forall_calls.mp awaits
      cases saves : savesOrder input self with
      | true => exact .inr (settled_of_saves holds own admitted.1 saves)
      | false =>
        have consistent := (forall_calls.mp holds.knows).2.consistent
        exact .inl ⟨rfl, holds.after_act admitted.1,
          forall_calls.mpr ⟨others, awaits_act consistent admitted.2⟩⟩
    · intro input shared before self behind admitted settled
      exact ⟨savesOrder_of_done (forall_calls.mp settled.done).2,
        settled.after_act admitted.1 admitted.2⟩
    · intro self member resource ordered
      cases (quiet.idle self member).symm.trans ordered

theorem orderedInNeed_behind_lock :
    Along (Pool.step (act dailyConfig)) (Pool.Admits Undisturbed) newPair
        (ensureTurns [0, 1, 0, 1, 0, 0, 0, 0, 1, 1]) ∧
      Along (Pool.step (act dailyConfig)) (Pool.Admits (OrderedInNeed dailyConfig)) newPair
        (ensureTurns [0, 1, 0, 1, 0, 0, 0, 0, 1, 1]) ∧
      occurrences (Pool.step (act dailyConfig)) (Pool.counts savesOrder) newPair
        (ensureTurns [0, 1, 0, 1, 0, 0, 0, 0, 1, 1]) ≤ 1 :=
  have undisturbed : Along (step (act dailyConfig)) (Pool.Admits Undisturbed) newPair
      (ensureTurns [0, 1, 0, 1, 0, 0, 0, 0, 1, 1]) := by decide
  have both := orderedInNeed_of_undisturbed quiet_newPair undisturbed
  ⟨undisturbed, both.1, both.2 (by decide)⟩

theorem ordered_twice_after_stale_decision : Quiet dailyConfig newPair ∧
    ¬ Along (Pool.step (act dailyConfig)) (Pool.Admits (OrderedInNeed dailyConfig)) newPair
      (ensureTurns [0, 1, 0, 0, 0, 0, 0, 1, 1, 1]) ∧
    (run (Pool.step (act dailyConfig)) newPair
      (ensureTurns [0, 1, 0, 0, 0, 0, 0, 1])).shared.stored = some 90 ∧
    dailyConfig.needsCertificate 0 (some 90) = false ∧
    occurrences (Pool.step (act dailyConfig)) (Pool.counts savesOrder) newPair
      (ensureTurns [0, 1, 0, 0, 0, 0, 0, 1, 1, 1]) = 2 :=
  ⟨quiet_newPair, by decide, by decide, by decide, by decide⟩

end ShadowPanel.Acme
