import Mathlib.Logic.Function.Basic
import ShadowPanel.Data.Runs

namespace ShadowPanel.Transfers

open Data List

/-! A download from a node whose session is on another instance: that instance
writes the parts and a sentinel to the storage
(`internal/grpc/filetransfer/service.go`), and `downloadStreamRemote` of
`internal/daemon/file.go` polls for them.  Every step is one storage operation. -/

variable {α : Type}

structure DoneInfo where
  success : Bool
  totalParts : Nat
  error : String

/-- `UploadFile`: the parts that are still to be written, the number of the next
one, and the error that it ends with, empty for success. -/
structure Uploader (α : Type) where
  rest : List α
  next : Nat
  errMsg : String
  finished : Bool

inductive Dispatch where
  | running
  | looking
  | writing
  | finished

/-- Where the loop of the reader is; `waitForPartS3` is `lookPart` to `pause`. -/
inductive Stage where
  | lookPart
  | lookDone
  | readDone
  | pause
  | readPart
  | deletePart
  | ended
  | failed
  deriving DecidableEq

/-- `first` is the wait for part 0 before the stream is returned. -/
structure RemoteReader (α : Type) where
  first : Bool
  partNum : Nat
  delivered : List α
  stage : Stage

structure Remote (α : Type) where
  parts : Nat → Option α
  done : Option DoneInfo
  uploader : Uploader α
  dispatch : Dispatch
  errCh : Bool
  reader : RemoteReader α

inductive RemoteEvent where
  | upload
  | dispatch (succeeds : Bool)
  | read (cancelled : Bool)

namespace Remote

def start (parts : List α) (errMsg : String) : Remote α where
  parts := fun _ => none
  done := none
  uploader := ⟨parts, 0, errMsg, false⟩
  dispatch := .running
  errCh := false
  reader := ⟨true, 0, [], .lookPart⟩

variable (remote : Remote α)

def sentinel : DoneInfo where
  success := remote.uploader.errMsg == ""
  totalParts := remote.uploader.next
  error := remote.uploader.errMsg

def upload : Remote α :=
  match remote.uploader.rest with
  | part :: rest =>
    { remote with
      parts := Function.update remote.parts remote.uploader.next (some part)
      uploader := { remote.uploader with rest := rest, next := remote.uploader.next + 1 } }
  | [] =>
    if remote.uploader.finished then remote
    else
      { remote with
        done := some remote.sentinel
        uploader := { remote.uploader with finished := true } }

/-- A dispatch that fails reports on the channel; one that succeeds goes on to
`writeSentinelIfMissing`. -/
def dispatched (succeeds : Bool) : Remote α :=
  match remote.dispatch with
  | .running =>
    if succeeds then { remote with dispatch := .looking }
    else { remote with dispatch := .finished, errCh := true }
  | .looking =>
    { remote with dispatch := if remote.done.isSome then .finished else .writing }
  | .writing => { remote with done := some ⟨true, 0, ""⟩, dispatch := .finished }
  | .finished => remote

def goTo (stage : Stage) : Remote α :=
  { remote with reader := { remote.reader with stage := stage } }

def read (cancelled : Bool) : Remote α :=
  match remote.reader.stage with
  | .lookPart =>
    if remote.errCh then remote.goTo .failed
    else if (remote.parts remote.reader.partNum).isSome then
      if remote.reader.first then { remote with reader := { remote.reader with first := false } }
      else remote.goTo .readPart
    else remote.goTo .lookDone
  | .lookDone => remote.goTo (if remote.done.isSome then .readDone else .pause)
  | .readDone =>
    match remote.done with
    | none => remote.goTo .failed
    | some info => remote.goTo (if info.success then .ended else .failed)
  | .pause => remote.goTo (if cancelled || remote.errCh then .failed else .lookPart)
  | .readPart =>
    match remote.parts remote.reader.partNum with
    | none => remote.goTo .failed
    | some part =>
      { remote with
        reader :=
          { remote.reader with
            delivered := remote.reader.delivered ++ [part]
            stage := .deletePart } }
  | .deletePart =>
    { remote with
      parts := Function.update remote.parts remote.reader.partNum none
      reader :=
        { remote.reader with partNum := remote.reader.partNum + 1, stage := .lookPart } }
  | .ended | .failed => remote

def step : RemoteEvent → Remote α
  | .upload => remote.upload
  | .dispatch succeeds => remote.dispatched succeeds
  | .read cancelled => remote.read cancelled

def Faithful (parts : List α) (errMsg : String) : Prop :=
  remote.reader.stage = .ended → remote.reader.delivered = parts ∧ errMsg = ""

/-- When the reader reads a sentinel of success, the part that it waits for has
not been stored since it looked, the uploader has no part left and no error. -/
def Settled (remote : Remote α) : RemoteEvent → Prop
  | .read _ =>
    remote.reader.stage = .readDone → ∀ info ∈ remote.done, info.success = true →
      remote.parts remote.reader.partNum = none ∧ remote.uploader.rest = [] ∧
        remote.uploader.errMsg = ""
  | _ => True

instance (remote : Remote α) (event : RemoteEvent) :
    Decidable (Settled remote event) := by
  unfold Settled
  split <;> infer_instance

def taken : Nat := remote.reader.partNum + if remote.reader.stage = .deletePart then 1 else 0

/-- What is stored are the parts between those deleted by the reader and those
still to be written. -/
structure Sound (parts : List α) (errMsg : String) : Prop where
  rest : remote.uploader.rest = parts.drop remote.uploader.next
  within : remote.uploader.next ≤ parts.length
  outcome : remote.uploader.errMsg = errMsg
  stored : ∀ index, remote.parts index =
    if remote.reader.partNum ≤ index ∧ index < remote.uploader.next then parts[index]? else none
  behind : remote.taken ≤ remote.uploader.next
  found : remote.reader.stage = .readPart → remote.reader.partNum < remote.uploader.next
  delivered : remote.reader.delivered = parts.take remote.taken
  announced : remote.uploader.finished = true → remote.done.isSome = true

variable {remote} {parts : List α}

theorem sound_start (parts : List α) (errMsg : String) :
    (start parts errMsg).Sound parts errMsg where
  rest := rfl
  within := Nat.zero_le _
  outcome := rfl
  stored := by simp [start]
  behind := Nat.le_refl 0
  found := nofun
  delivered := rfl
  announced := nofun

theorem partNum_le_taken : remote.reader.partNum ≤ remote.taken := Nat.le_add_right _ _

theorem taken_of_ne (other : remote.reader.stage ≠ .deletePart) :
    remote.taken = remote.reader.partNum := by
  simp [taken, other]

section

variable (sound : remote.Sound parts errMsg)

include sound

theorem Sound.upload : remote.upload.Sound parts errMsg := by
  unfold Remote.upload
  cases written : remote.uploader.rest with
  | nil =>
    simp only
    split
    · exact sound
    · exact ⟨sound.rest, sound.within, sound.outcome, sound.stored, sound.behind, sound.found,
        sound.delivered, fun _ => rfl⟩
  | cons part rest =>
    have whole : parts.drop remote.uploader.next = part :: rest := sound.rest.symm.trans written
    have here : parts[remote.uploader.next]? = some part := by
      have first := congrArg (·[0]?) whole
      simpa using first
    have later : rest = parts.drop (remote.uploader.next + 1) := by
      rw [← tail_drop, whole, tail_cons]
    have less := (List.getElem?_eq_some_iff.mp here).1
    have reached : remote.reader.partNum ≤ remote.uploader.next :=
      Nat.le_trans partNum_le_taken sound.behind
    refine ⟨later, less, sound.outcome, ?_, Nat.le_succ_of_le sound.behind,
      fun stage => Nat.lt_succ_of_lt (sound.found stage), sound.delivered, sound.announced⟩
    intro index
    by_cases same : index = remote.uploader.next
    · subst same
      simp only [Function.update_self]
      rw [if_pos ⟨reached, Nat.lt_succ_self _⟩, here]
    · simp only [Function.update_of_ne same, sound.stored index]
      exact if_congr (by omega) rfl rfl

theorem Sound.dispatched (succeeds : Bool) : (remote.dispatched succeeds).Sound parts errMsg := by
  obtain ⟨rest, within, outcome, stored, behind, found, delivered, announced⟩ := sound
  unfold Remote.dispatched
  cases remote.dispatch with
  | running =>
    cases succeeds <;> exact ⟨rest, within, outcome, stored, behind, found, delivered, announced⟩
  | writing => exact ⟨rest, within, outcome, stored, behind, found, delivered, fun _ => rfl⟩
  | looking | finished =>
    exact ⟨rest, within, outcome, stored, behind, found, delivered, announced⟩

theorem Sound.goTo (before : remote.reader.stage ≠ .deletePart) (after : stage ≠ .deletePart)
    (found : stage = .readPart → remote.reader.partNum < remote.uploader.next) :
    (remote.goTo stage).Sound parts errMsg := by
  have same : (remote.goTo stage).taken = remote.taken :=
    (taken_of_ne after).trans (taken_of_ne before).symm
  exact ⟨sound.rest, sound.within, sound.outcome, sound.stored, same ▸ sound.behind, found,
    same ▸ sound.delivered, sound.announced⟩

theorem Sound.isSome_iff : (remote.parts remote.reader.partNum).isSome = true ↔
    remote.reader.partNum < remote.uploader.next := by
  rw [sound.stored]
  have within := sound.within
  by_cases written : remote.reader.partNum < remote.uploader.next
  · have known : remote.reader.partNum < parts.length := by omega
    simp [getElem?_eq_getElem known]
  · simp [written]

theorem Sound.read (cancelled : Bool) : (remote.read cancelled).Sound parts errMsg := by
  have stored := sound.isSome_iff
  unfold Remote.read
  cases stage : remote.reader.stage with
  | lookPart =>
    have before : remote.reader.stage ≠ .deletePart := by simp [stage]
    simp only
    split
    · exact sound.goTo before nofun nofun
    · split
      next isStored =>
        split
        · exact ⟨sound.rest, sound.within, sound.outcome, sound.stored, sound.behind,
            sound.found, sound.delivered, sound.announced⟩
        · exact sound.goTo before nofun fun _ => stored.mp isStored
      · exact sound.goTo before nofun nofun
  | lookDone | pause =>
    have before : remote.reader.stage ≠ .deletePart := by simp [stage]
    simp only
    split <;> exact sound.goTo before nofun nofun
  | readDone =>
    have before : remote.reader.stage ≠ .deletePart := by simp [stage]
    cases remote.done with
    | none => exact sound.goTo before nofun nofun
    | some info =>
      simp only
      split <;> exact sound.goTo before nofun nofun
  | readPart =>
    have before : remote.reader.stage ≠ .deletePart := by simp [stage]
    cases found : remote.parts remote.reader.partNum with
    | none => exact sound.goTo before nofun nofun
    | some part =>
      have written := sound.found stage
      have here : parts[remote.reader.partNum]? = some part := by
        rw [sound.stored, if_pos ⟨Nat.le_refl _, written⟩] at found
        exact found
      have delivered : remote.reader.delivered = parts.take remote.reader.partNum := by
        rw [sound.delivered, taken_of_ne before]
      refine ⟨sound.rest, sound.within, sound.outcome, sound.stored, written, nofun, ?_,
        sound.announced⟩
      simp only [taken, if_true, delivered, take_add_one, here, Option.toList_some]
  | deletePart =>
    have all : remote.taken = remote.reader.partNum + 1 := by simp [taken, stage]
    have behind := sound.behind
    have delivered := sound.delivered
    rw [all] at behind delivered
    refine ⟨sound.rest, sound.within, sound.outcome, ?_, behind, nofun, delivered, sound.announced⟩
    intro index
    by_cases same : index = remote.reader.partNum
    · subst same
      simp only [Function.update_self]
      exact (if_neg (by omega)).symm
    · simp only [Function.update_of_ne same, sound.stored index]
      exact if_congr (by omega) rfl rfl
  | ended | failed => exact sound

theorem Sound.step (event : RemoteEvent) : (remote.step event).Sound parts errMsg := by
  cases event with
  | upload => exact sound.upload
  | dispatch succeeds => exact sound.dispatched succeeds
  | read cancelled => exact sound.read cancelled

theorem Sound.run (events : List RemoteEvent) :
    (Data.run Remote.step remote events).Sound parts errMsg := by
  induction events generalizing remote with
  | nil => exact sound
  | cons event rest ih => exact ih (sound.step event)

end

@[simp] theorem reader_upload : remote.upload.reader = remote.reader := by
  unfold upload
  split
  · rfl
  · split <;> rfl

@[simp] theorem reader_dispatched (succeeds : Bool) :
    (remote.dispatched succeeds).reader = remote.reader := by
  unfold dispatched
  split
  · split <;> rfl
  all_goals rfl

theorem readDone_of_ended (going : remote.reader.stage ≠ .ended)
    (ended : (remote.read cancelled).reader.stage = .ended) :
    remote.reader.stage = .readDone ∧ ∃ info, remote.done = some info ∧ info.success = true := by
  unfold read at ended
  cases stage : remote.reader.stage with
  | lookPart | lookDone | pause =>
    simp only [goTo] at ended
    grind
  | readPart =>
    simp only [stage] at ended
    split at ended <;> cases ended
  | deletePart | failed =>
    simp only [stage] at ended
    cases ended
  | ended => exact absurd stage going
  | readDone =>
    refine ⟨rfl, ?_⟩
    simp only [stage, goTo] at ended
    cases done : remote.done with
    | none => simp [done] at ended
    | some info =>
      simp only [done] at ended
      refine ⟨info, rfl, ?_⟩
      cases success : info.success with
      | true => rfl
      | false => simp [success] at ended

theorem Sound.delivered_iff (sound : remote.Sound parts errMsg)
    (before : remote.reader.stage ≠ .deletePart) :
    remote.reader.delivered = parts ↔
      remote.parts remote.reader.partNum = none ∧ remote.uploader.rest = [] := by
  have reached : remote.reader.partNum ≤ remote.uploader.next :=
    Nat.le_trans partNum_le_taken sound.behind
  have within := sound.within
  have missing : remote.parts remote.reader.partNum = none ↔
      ¬remote.reader.partNum < remote.uploader.next := by
    rw [← sound.isSome_iff]
    cases remote.parts remote.reader.partNum <;> simp
  have all : parts.take remote.reader.partNum = parts ↔ parts.length ≤ remote.reader.partNum := by
    refine ⟨fun same => ?_, take_of_length_le⟩
    have length := congrArg length same
    rw [length_take] at length
    omega
  rw [sound.delivered, taken_of_ne before, missing, sound.rest, all, drop_eq_nil_iff]
  omega

theorem settled_iff_faithful (sound : remote.Sound parts errMsg)
    (faithful : remote.Faithful parts errMsg) (event : RemoteEvent) :
    Settled remote event ↔ (remote.step event).Faithful parts errMsg := by
  cases event with
  | upload =>
    refine iff_of_true trivial ?_
    simpa [Faithful, step] using faithful
  | dispatch succeeds =>
    refine iff_of_true trivial ?_
    simpa [Faithful, step] using faithful
  | read cancelled =>
    by_cases reads : remote.reader.stage = .readDone ∧
        ∃ info, remote.done = some info ∧ info.success = true
    · obtain ⟨stage, info, done, success⟩ := reads
      have before : remote.reader.stage ≠ .deletePart := by simp [stage]
      have all := sound.delivered_iff before
      have after : (remote.read cancelled).Faithful parts errMsg ↔
          remote.reader.delivered = parts ∧ errMsg = "" := by
        simp [Faithful, read, stage, done, success, goTo]
      simp only [step, Settled, after, all, stage, done, Option.mem_def, Option.some.injEq,
        forall_eq', success, forall_const, sound.outcome, and_assoc]
    · refine iff_of_true ?_ ?_
      · intro stage info done success
        exact absurd ⟨stage, info, done, success⟩ reads
      · intro ended
        by_cases already : remote.reader.stage = .ended
        · have same : remote.read cancelled = remote := by simp only [read, already]
          simp only [step, same]
          exact faithful already
        · exact absurd (readDone_of_ended already ended) reads

def Over (remote : Remote α) : Prop := remote.reader.stage = .ended ∨ remote.reader.stage = .failed

def turns (n : Nat) (remote : Remote α) : Nat :=
  match remote.reader.stage with
  | .lookPart => 3 * (n - remote.reader.partNum) + 3 + remote.reader.first.toNat
  | .lookDone => 2
  | .readDone => 1
  | .pause => 3 * (n - remote.reader.partNum) + 4 + remote.reader.first.toNat
  | .readPart => 3 * (n - remote.reader.partNum) + 2 + remote.reader.first.toNat
  | .deletePart => 3 * (n - remote.reader.partNum) + 1 + remote.reader.first.toNat
  | .ended | .failed => 0

theorem over_of_turns (none : remote.turns n = 0) : remote.Over := by
  unfold turns at none
  unfold Over
  cases stage : remote.reader.stage <;> simp [stage] at none ⊢

theorem Sound.turn (sound : remote.Sound parts errMsg) (announced : remote.done.isSome = true)
    (cancelled : Bool) :
    (remote.read cancelled).turns parts.length ≤ remote.turns parts.length - 1 := by
  have behind := sound.behind
  have within := sound.within
  unfold Remote.read
  cases stage : remote.reader.stage with
  | lookPart =>
    simp only
    split
    · simp [turns, Remote.goTo]
    · split
      · split
        next first =>
          simp only [turns, stage, first, Bool.toNat_true, Bool.toNat_false]
          omega
        · simp only [turns, Remote.goTo, stage]
          omega
      · simp only [turns, Remote.goTo, stage]
        omega
  | lookDone => simp [turns, Remote.goTo, stage, announced]
  | readDone =>
    cases remote.done with
    | none => simp [turns, Remote.goTo]
    | some info => cases success : info.success <;> simp [turns, Remote.goTo, success]
  | pause =>
    cases halted : cancelled || remote.errCh <;> simp [turns, Remote.goTo, stage]
  | readPart =>
    cases remote.parts remote.reader.partNum with
    | none => simp [turns, Remote.goTo]
    | some part =>
      simp only [turns, stage]
      omega
  | deletePart =>
    have more : remote.reader.partNum + 1 ≤ parts.length := by
      simp only [taken, stage, if_true] at behind
      omega
    simp only [turns, stage]
    omega
  | ended | failed => simp [turns, stage]

@[simp] theorem done_read (cancelled : Bool) : (remote.read cancelled).done = remote.done := by
  unfold read
  cases remote.reader.stage with
  | lookPart =>
    simp only
    split
    · rfl
    · split
      · split <;> rfl
      · rfl
  | readDone | readPart =>
    simp only
    split <;> rfl
  | lookDone | pause | deletePart | ended | failed => rfl

theorem done_step (announced : remote.done.isSome = true) (event : RemoteEvent) :
    (remote.step event).done.isSome = true := by
  cases event with
  | upload =>
    simp only [step, upload]
    split
    · exact announced
    · split
      · exact announced
      · rfl
  | dispatch succeeds =>
    simp only [step, dispatched]
    split
    · split <;> exact announced
    · exact announced
    · rfl
    · exact announced
  | read cancelled =>
    simpa [step] using announced

def isRead : RemoteEvent → Bool
  | .read _ => true
  | _ => false

theorem Sound.over_of_turns (sound : remote.Sound parts errMsg)
    (announced : remote.done.isSome = true)
    (enough : remote.turns parts.length ≤ later.countP isRead) :
    (Data.run Remote.step remote later).Over := by
  induction later generalizing remote with
  | nil => exact Remote.over_of_turns (Nat.le_zero.mp enough)
  | cons event rest ih =>
    refine ih (sound.step event) (done_step announced event) ?_
    cases event with
    | read cancelled =>
      have turn := sound.turn announced cancelled
      rw [countP_cons_of_pos rfl] at enough
      exact Nat.le_trans turn (by omega)
    | upload =>
      rw [countP_cons_of_neg Bool.false_ne_true] at enough
      simpa [turns, Remote.step] using enough
    | dispatch succeeds =>
      rw [countP_cons_of_neg Bool.false_ne_true] at enough
      simpa [turns, Remote.step] using enough

theorem turns_le (n : Nat) (remote : Remote α) : remote.turns n ≤ 3 * n + 5 := by
  have one := Bool.toNat_le remote.reader.first
  unfold turns
  split <;> omega

end Remote

/-- In every interleaving, the stream is faithful in all states just when every step
meets the condition; and once the uploader has written its sentinel the stream ends
within so many turns of the reader, with an error if the upload has failed. -/
theorem remote_stream_faithful_iff (parts : List α) (errMsg : String) (events : List RemoteEvent) :
    (Along Remote.step Remote.Settled (.start parts errMsg) events ↔
        ∀ first rest, events = first ++ rest →
          (run Remote.step (.start parts errMsg) first).Faithful parts errMsg) ∧
      ∀ first later, events = first ++ later →
        (run Remote.step (.start parts errMsg) first).uploader.finished = true →
        3 * parts.length + 5 ≤ later.countP Remote.isRead →
        (run Remote.step (.start parts errMsg) events).Over ∧
          (Along Remote.step Remote.Settled (.start parts errMsg) events → errMsg ≠ "" →
            (run Remote.step (.start parts errMsg) events).reader.stage = .failed) := by
  have sound := Remote.sound_start parts errMsg
  have condition : Along Remote.step Remote.Settled (.start parts errMsg) events ↔
      ∀ first rest, events = first ++ rest →
        (run Remote.step (.start parts errMsg) first).Faithful parts errMsg := by
    exact along_iff_always_of_sound (Remote.Sound · parts errMsg)
      (Remote.Faithful · parts errMsg) (fun _ event sound => sound.step event)
      (fun _ event sound faithful => Remote.settled_iff_faithful sound faithful event)
      sound nofun
  refine ⟨condition, ?_⟩
  intro first later split finished enough
  have ended : (run Remote.step (.start parts errMsg) events).Over := by
    rw [split, run_append]
    refine (sound.run first).over_of_turns ((sound.run first).announced finished) ?_
    exact Nat.le_trans (Remote.turns_le parts.length _) enough
  refine ⟨ended, ?_⟩
  intro along failure
  cases ended with
  | inl ended =>
    have faithful := condition.mp along events [] (append_nil events).symm
    exact absurd (faithful ended).2 failure
  | inr failed => exact failed

theorem remote_stream_faithful_iff_failure : (run Remote.step (.start ["part"] "reset")
    ([.upload, .upload] ++ replicate 8 (.read false))).reader.stage = .failed := by
  have whole := remote_stream_faithful_iff ["part"] "reset"
    ([.upload, .upload] ++ replicate 8 (.read false))
  exact (whole.2 [.upload, .upload] (replicate 8 (.read false)) rfl rfl (by decide)).2
    (by decide) (by decide)

theorem part_lost_between_looks : ¬(run Remote.step (.start ["part"] "")
    [.read false, .upload, .upload, .read false, .read false]).Faithful ["part"] "" := by
  intro faithful
  have delivered : (run Remote.step (.start ["part"] "")
      [.read false, .upload, .upload, .read false, .read false]).reader.delivered = [] := rfl
  exact absurd (delivered.symm.trans (faithful rfl).1) (by decide)

/-- Every part is delivered, in the storage or still to be written. -/
theorem part_kept (parts : List α) (errMsg : String) (events : List RemoteEvent) (index : Nat) :
    let remote : Remote α := run Remote.step (.start parts errMsg) events
    parts[index]? = (remote.reader.delivered[index]?.or (remote.parts index)).or
      (if index < remote.uploader.next then none
      else remote.uploader.rest[index - remote.uploader.next]?) := by
  intro remote
  have sound : remote.Sound parts errMsg := (Remote.sound_start parts errMsg).run events
  have taken : remote.reader.partNum ≤ remote.taken := Remote.partNum_le_taken
  rw [sound.delivered, sound.stored, sound.rest, getElem?_take, getElem?_drop]
  grind

end ShadowPanel.Transfers
