import ShadowPanel.Api.TaskStatus

namespace ShadowPanel.Tasks

open Api Data Data.Program Domain Filters Repositories Repositories.DaemonTaskRepository
open StreamState List

/-! A client that connects to the stream of a task while the task is reported on. -/

/-- How far a call has come: a connection has loaded the task, is registered and has told
its status, and a report has saved the task, found the client and published. -/
inductive Stage where
  | idle
  | loaded (status : DaemonTaskStatus)
  | joined (status : DaemonTaskStatus)
  | told (status : DaemonTaskStatus)
  | saved (status : DaemonTaskStatus)
  | found (status : DaemonTaskStatus)
  | published (status : DaemonTaskStatus)

namespace Stage

def status? : Stage → Option DaemonTaskStatus
  | .idle => none
  | .loaded status | .joined status | .told status | .saved status | .found status
  | .published status => some status

def isPending : Stage → Bool
  | .saved _ | .found _ => true
  | _ => false

def isJoined : Stage → Bool
  | .joined _ | .told _ => true
  | _ => false

def isTold : Stage → Bool
  | .told _ => true
  | _ => false

def register : Stage → Stage
  | .loaded status => .joined status
  | stage => stage

def send : Stage → Stage
  | .joined status => .told status
  | .found status => .published status
  | stage => stage

def look (subscribed : Bool) : Stage → Stage
  | .saved status | .published status => if subscribed then .found status else .published status
  | stage => stage

def MaySend (message : OutboundMessage) : Stage → Prop
  | .joined status | .found status => message.status? = some status
  | .told status => message.status? = some status ∨ message.status? = none
  | _ => False

end Stage

def streamRules (taskID : Nat) : Discipline Stage StreamOp StreamOp.Answer where
  allowed stage
    | .findWithOutput filter pagination =>
      stage = .idle ∧ filter = findDaemonTaskByIDs [taskID] ∧ pagination = some ⟨1, 0⟩
    | .register => ∃ status, stage = .loaded status
    | .send message => stage.MaySend message
    | .run => ∃ status, stage = .told status
    | .save task => stage = .idle ∧ task.id = taskID ∧ taskID ≠ 0
    | .subscribers => (∃ status, stage = .saved status) ∨ ∃ status, stage = .published status
    | _ => True
  possible
    | .find filter, .ok tasks => ∀ task ∈ tasks, isFound filter task = true ∧ task.id ≠ 0
    | _, _ => True
  learn stage
    | .findWithOutput _ _, .ok (task :: _) => .loaded task.status
    | .register, _ => stage.register
    | .send _, _ => stage.send
    | .save task, .ok _ => .saved task.status
    | .subscribers, subscribed => stage.look subscribed
    | _, _ => stage

abbrev StreamThread := Thread Stage StreamOp StreamOp.Answer HandlerError Unit

def streamAct (taskID : Nat) (input : StreamInput) (state : StreamState) (thread : StreamThread) :
    StreamState × StreamThread :=
  Thread.act (streamRules taskID) streamOp input (state.write input.written) thread

section

private theorem obeys_sendInitialState (ends : post (.ok ()) (.told task.status)) :
    (sendInitialState task).Obeys (streamRules taskID) post (.joined task.status) := by
  have completes : (if task.status.isTerminal then
      onStream (.send (.taskComplete task.id task.status none)) else pure ()).Obeys
        (streamRules taskID) post (.told task.status) := by
    split
    · exact ⟨.inl rfl, fun _ _ => ends⟩
    · exact ends
  refine ⟨rfl, ?_⟩
  intro _ _
  by_cases silent : task.output.getD "" ≠ ""
  · rw [if_pos silent]
    exact ⟨.inr rfl, fun _ _ => completes⟩
  · rw [if_neg silent]
    exact completes

private theorem obeys_join (task : DaemonTask) :
    (sendInitialState task >>= fun _ => onStream .run).Obeys (streamRules taskID)
      (fun _ stage => stage.isPending = false) (.joined task.status) := by
  refine obeys_andThen.mpr (obeys_sendInitialState ?_)
  exact ⟨⟨task.status, rfl⟩, fun _ _ => rfl⟩

private theorem obeys_taskStatus :
    (taskStatus taskID).Obeys (streamRules taskID) (fun _ stage => stage.isPending = false)
      .idle := by
  refine ⟨⟨rfl, rfl, rfl⟩, ?_⟩
  intro answer _
  cases answer with
  | error text => rfl
  | ok tasks =>
    cases tasks with
    | nil => rfl
    | cons task rest =>
      refine ⟨trivial, ?_⟩
      intro authorized _
      cases authorized with
      | error error => rfl
      | ok _ =>
        refine ⟨trivial, ?_⟩
        intro accepted _
        cases accepted with
        | error text => rfl
        | ok _ =>
          refine ⟨⟨task.status, rfl⟩, ?_⟩
          intro _ _
          exact obeys_join task

private theorem obeys_publish (told : message.status? = some status)
    (last : stage = .saved status ∨ stage = .published status)
    (ends : post (.ok ()) (.published status)) :
    (publish message).Obeys (streamRules taskID) post stage := by
  have looked (subscribed : Bool) : stage.look subscribed =
      if subscribed then .found status else .published status := by
    obtain rfl | rfl := last <;> rfl
  refine ⟨last.imp (fun same => ⟨status, same⟩) fun same => ⟨status, same⟩, ?_⟩
  intro subscribed _
  have learnt : (streamRules taskID).learn stage .subscribers subscribed =
      if subscribed then .found status else .published status := looked subscribed
  rw [learnt]
  cases subscribed with
  | true => exact ⟨told, fun _ _ => ends⟩
  | false => exact ends

private theorem obeys_publishReport {id : Nat} (same : task.status = status) (message : String) :
    (publishReport id task message).Obeys (streamRules taskID)
      (fun _ stage => stage.isPending = false) (.saved status) := by
  subst same
  refine obeys_andThen.mpr (obeys_publish rfl (.inl rfl) ?_)
  split
  · exact obeys_publish rfl (.inr rfl) rfl
  · rfl

private theorem obeys_reportTaskStatus (same : update.taskID = taskID) (message : String) :
    (reportTaskStatus update message).Obeys (streamRules taskID)
      (fun _ stage => stage.isPending = false) .idle := by
  refine ⟨trivial, ?_⟩
  intro answer possible
  cases answer with
  | error text => rfl
  | ok tasks =>
    cases tasks with
    | nil => rfl
    | cons task rest =>
      obtain ⟨found, given⟩ := possible task mem_cons_self
      have own : task.id = taskID := by
        simp only [isFound, findDaemonTaskByIDs, Bool.and_eq_true] at found
        simpa [same] using found.1.1.1.1
      refine ⟨⟨rfl, own, own ▸ given⟩, ?_⟩
      intro saved _
      cases saved with
      | error text => rfl
      | ok _ =>
        refine ⟨trivial, ?_⟩
        intro _ _
        exact obeys_publishReport rfl message

end

namespace StatusStream

variable (taskID : Nat) (state : StreamState)

def currentStatus : Option DaemonTaskStatus := (state.tasks.get taskID).map DaemonTask.status

def statuses : List DaemonTaskStatus :=
  (state.received ++ state.buffer).filterMap OutboundMessage.status?

def UpToDate : Prop := (statuses state).getLast? = currentStatus taskID state

variable {taskID state}

@[simp] theorem statuses_write (count : Nat) : statuses (state.write count) = statuses state := by
  unfold write
  split
  · simp only [statuses]
    rw [append_assoc, take_append_drop]
  · rfl

private theorem write_keeps (count : Nat) : (state.write count).tasks = state.tasks ∧
    (state.write count).registered = state.registered ∧
    (state.write count).running = state.running := by
  unfold write
  split <;> exact ⟨rfl, rfl, rfl⟩

theorem statuses_send (room : state.buffer.length < defaultSendBufferSize) :
    statuses (state.send message) = statuses state ++ message.status?.toList := by
  rw [send, if_pos room]
  cases status : message.status? <;> simp [status, statuses]

theorem send_keeps (message : OutboundMessage) : (state.send message).tasks = state.tasks ∧
    (state.send message).registered = state.registered ∧
    (state.send message).running = state.running := by
  unfold send
  split <;> exact ⟨rfl, rfl, rfl⟩

@[simp]
theorem currentStatus_send (taskID : Nat) (state : StreamState) (message : OutboundMessage) :
    currentStatus taskID (state.send message) = currentStatus taskID state := by
  rw [currentStatus, (send_keeps message).1, currentStatus]

private theorem upToDate_send (room : state.buffer.length < defaultSendBufferSize)
    (seen : some status = currentStatus taskID state) (told : message.status? = some status) :
    UpToDate taskID (state.send message) := by
  rw [UpToDate, statuses_send room, told, currentStatus_send, ← seen]
  exact getLast?_concat

private theorem upToDate_send_of_silent (room : state.buffer.length < defaultSendBufferSize)
    (silent : message.status? = none) (upToDate : UpToDate taskID state) :
    UpToDate taskID (state.send message) := by
  rw [UpToDate, statuses_send room, silent, currentStatus_send, Option.toList_none, append_nil]
  exact upToDate

private theorem get_of_findWithOutput {store : DaemonTaskRepository}
    (found : store.findWithOutput (findDaemonTaskByIDs [taskID]) (some ⟨1, 0⟩) = task :: rest) :
    store.get taskID = some task := by
  rw [findWithOutput, filter_of_ids rfl] at found
  have member : task ∈ ((store.get taskID).filter
      (isFound (findDaemonTaskByIDs [taskID]))).toList :=
    mem_of_mem_applyPagination (found ▸ mem_cons_self)
  rw [Option.mem_toList, Option.filter_eq_some_iff] at member
  exact member.1

private theorem currentStatus_save (own : task.id = taskID) (given : taskID ≠ 0) :
    currentStatus taskID { state with tasks := state.tasks.save now task } = some task.status := by
  have id : state.tasks.idFor task = taskID := (idFor_of_ne_zero (own ▸ given)).trans own
  rw [currentStatus, get_save, if_pos id.symm]
  rfl

end StatusStream

def inProgress (thread : StreamThread) : Bool :=
  match thread.rest with
  | .call _ _ => thread.known.status?.isSome
  | .done _ => false

/-- The task is saved only while no other call is between its load or its save and its
last message, and the client keeps room in its buffer. -/
def OpAlone (input : StreamInput) (state : StreamState) (others : List StreamThread) :
    StreamOp → Prop
  | .save _ => input.fault = none → ∀ other ∈ others, inProgress other = false
  | .send _ => state.buffer.length < defaultSendBufferSize
  | _ => True

instance (input : StreamInput) (state : StreamState) (others : List StreamThread) (op : StreamOp) :
    Decidable (OpAlone input state others op) := by
  unfold OpAlone
  split <;> infer_instance

def SavesAlone (input : StreamInput) (state : StreamState) (others : List StreamThread)
    (thread : StreamThread) : Prop :=
  match thread.rest with
  | .call op _ => OpAlone input (state.write input.written) others op
  | .done _ => True

instance (input : StreamInput) (state : StreamState) (others : List StreamThread)
    (thread : StreamThread) : Decidable (SavesAlone input state others thread) := by
  unfold SavesAlone
  split <;> infer_instance

open StatusStream

def Served (taskID : Nat) (state : StreamState) (calls : List StreamThread) : Prop :=
  UpToDate taskID state ∨ ∃ thread ∈ calls, thread.known.isPending = true

structure StreamSound (taskID : Nat) (state : StreamState) (calls : List StreamThread) : Prop where
  obeys : ∀ thread ∈ calls,
    thread.rest.Obeys (streamRules taskID) (fun _ stage => stage.isPending = false) thread.known
  current : ∀ thread ∈ calls, inProgress thread = true →
    thread.known.status? = currentStatus taskID state
  joined : state.running = true ∨ (∃ thread ∈ calls, thread.known.isJoined = true) →
    state.registered = true
  served : state.running = true ∨ (∃ thread ∈ calls, thread.known.isTold = true) →
    Served taskID state calls

section

theorem StreamSound.write (sound : StreamSound taskID state calls) (count : Nat) :
    StreamSound taskID (state.write count) calls := by
  obtain ⟨tasks, registered, running⟩ := write_keeps count
  obtain ⟨obeys, current, joined, served⟩ := sound
  have same : currentStatus taskID (state.write count) = currentStatus taskID state := by
    rw [currentStatus, tasks, currentStatus]
  refine ⟨obeys, same ▸ current, ?_, ?_⟩
  · rw [running, registered]
    exact joined
  · rw [running, Served, UpToDate, statuses_write, same]
    exact served

private theorem isJoined_of_isTold {stage : Stage} (told : stage.isTold = true) :
    stage.isJoined = true := by
  cases stage with
  | told status => rfl
  | _ => cases told

theorem seen_of_inProgress (moving : inProgress thread = true) :
    thread.known.status?.isSome = true := by
  obtain ⟨known, program⟩ := thread
  cases program with
  | done result => cases moving
  | call op next => exact moving

inductive Serves (taskID : Nat) (state : StreamState) (stage : Stage) (reached : StreamState)
    (moved : Stage) : Prop where
  | upToDate (holds : UpToDate taskID reached)
  | pending (isPending : moved.isPending = true)
  | keeps
      (asBefore : reached.running = true ∨ moved.isTold = true →
        state.running = true ∨ stage.isTold = true)
      (upToDate : UpToDate taskID state → UpToDate taskID reached)
      (pending : state.registered = true → stage.isPending = true → moved.isPending = true)

theorem StreamSound.advance (sound : StreamSound taskID state (before ++ thread :: rest))
    (obeys : moved.rest.Obeys (streamRules taskID) (fun _ stage => stage.isPending = false)
      moved.known)
    (others : ∀ other ∈ before ++ rest, inProgress other = true →
      currentStatus taskID reached = currentStatus taskID state)
    (current : inProgress moved = true → moved.known.status? = currentStatus taskID reached)
    (registered : state.registered = true → reached.registered = true)
    (joined : reached.running = true ∨ moved.known.isJoined = true →
      (state.running = true ∨ thread.known.isJoined = true) ∨ reached.registered = true)
    (serves : Serves taskID state thread.known reached moved.known) :
    StreamSound taskID reached (before ++ moved :: rest) := by
  obtain ⟨allObey, allCurrent, allJoined, allServed⟩ := sound
  simp only [Served, Pool.forall_calls, Pool.exists_calls] at allObey allCurrent allJoined allServed
  refine ⟨Pool.forall_calls.mpr ⟨allObey.1, obeys⟩, Pool.forall_calls.mpr ⟨?_, current⟩, ?_, ?_⟩
  · intro other member moving
    exact (allCurrent.1 other member moving).trans (others other member moving).symm
  · rw [Pool.exists_calls]
    rintro (running | otherJoined | own)
    · exact (joined (.inl running)).elim
        (fun early => registered (allJoined (early.imp_right .inr))) id
    · exact registered (allJoined (.inr (.inl otherJoined)))
    · exact (joined (.inr own)).elim (fun early => registered (allJoined (early.imp_right .inr))) id
  · rw [Served, Pool.exists_calls, Pool.exists_calls]
    intro holds
    cases serves with
    | upToDate upToDate => exact .inl upToDate
    | pending isPending => exact .inr (.inr isPending)
    | keeps asBefore upToDate pending =>
      have told : state.running = true ∨
          (∃ other ∈ before ++ rest, other.known.isTold = true) ∨ thread.known.isTold = true := by
        rcases holds with running | otherTold | own
        · exact (asBefore (.inl running)).imp_right .inr
        · exact .inr (.inl otherTold)
        · exact (asBefore (.inr own)).imp_right .inr
      have isRegistered := allJoined (told.imp_right (Or.imp
        (fun found => found.imp fun _ other => ⟨other.1, isJoined_of_isTold other.2⟩)
        isJoined_of_isTold))
      exact (allServed told).imp upToDate (Or.imp_right (pending isRegistered))

variable {op : StreamOp}
  {moved : op.Answer → Program StreamOp StreamOp.Answer HandlerError Unit}

theorem status_of_call
    (sound : StreamSound taskID state (before ++ ⟨known, .call op moved⟩ :: rest))
    (seen : known.status?.isSome = true) : known.status? = currentStatus taskID state :=
  (Pool.forall_calls.mp sound.current).2 seen

theorem StreamSound.stays
    (sound : StreamSound taskID state (before ++ ⟨known, .call op moved⟩ :: rest))
    (obeys : program.Obeys (streamRules taskID) (fun _ stage => stage.isPending = false) known) :
    StreamSound taskID state (before ++ ⟨known, program⟩ :: rest) :=
  sound.advance obeys (fun _ _ _ => rfl)
    (fun moving => status_of_call sound (seen_of_inProgress moving))
    id .inl (.keeps id id fun _ => id)

private theorem possible_streamOp (op : StreamOp) :
    (streamRules taskID).possible op (streamOp input state op).2 := by
  cases op with
  | find filter =>
    cases fault : input.fault with
    | some text => simp only [streamOp, StreamInput.answer, fault, streamRules]
    | none =>
      simp only [streamOp, StreamInput.answer, fault]
      intro task member
      obtain ⟨row, stored, found, rfl⟩ := mem_find member
      have given : row.id ≠ 0 := id_ne_zero_of_get stored
      exact ⟨found, given⟩
  | _ => trivial

section

theorem StreamSound.sends
    (sound : StreamSound taskID state (before ++ ⟨known, .call op moved⟩ :: rest))
    (room : state.buffer.length < defaultSendBufferSize) (allowed : known.MaySend message)
    (obeys : program.Obeys (streamRules taskID) (fun _ stage => stage.isPending = false)
      known.send) :
    StreamSound taskID (state.send message) (before ++ ⟨known.send, program⟩ :: rest) := by
  obtain ⟨_, registered, running⟩ := send_keeps message
  have unchanged := currentStatus_send taskID state message
  cases known with
  | joined status =>
    have seen := status_of_call sound rfl
    exact sound.advance obeys (fun _ _ _ => unchanged) (fun _ => seen.trans unchanged.symm)
      registered.trans (fun _ => .inl (.inr rfl)) (.upToDate (upToDate_send room seen allowed))
  | found status =>
    have seen := status_of_call sound rfl
    exact sound.advance obeys (fun _ _ _ => unchanged) (fun _ => seen.trans unchanged.symm)
      registered.trans (fun holds => .inl (holds.imp running.symm.trans nofun))
      (.upToDate (upToDate_send room seen allowed))
  | told status =>
    have seen := status_of_call sound rfl
    refine sound.advance obeys (fun _ _ _ => unchanged) (fun _ => seen.trans unchanged.symm)
      registered.trans (fun _ => .inl (.inr rfl)) ?_
    cases allowed with
    | inl told => exact .upToDate (upToDate_send room seen told)
    | inr silent =>
      exact .keeps (fun _ => .inr rfl) (upToDate_send_of_silent room silent) fun _ => id
  | _ => exact allowed.elim

theorem StreamSound.looks
    (sound : StreamSound taskID state (before ++ ⟨known, .call op moved⟩ :: rest))
    (last : known = .saved status ∨ known = .published status)
    (obeys : program.Obeys (streamRules taskID) (fun _ stage => stage.isPending = false)
      (known.look state.registered)) :
    StreamSound taskID state (before ++ ⟨known.look state.registered, program⟩ :: rest) := by
  have seen : some status = currentStatus taskID state := by
    obtain rfl | rfl := last <;> exact status_of_call sound rfl
  have looked : known.look state.registered =
      if state.registered then .found status else .published status := by
    obtain rfl | rfl := last <;> rfl
  rw [looked] at obeys ⊢
  cases registered : state.registered with
  | true =>
    rw [registered] at obeys
    exact sound.advance obeys (fun _ _ _ => rfl) (fun _ => seen) id
      (fun holds => .inl (holds.imp_right nofun)) (.pending rfl)
  | false =>
    rw [registered] at obeys
    refine sound.advance obeys (fun _ _ _ => rfl) (fun _ => seen) id
      (fun holds => .inl (holds.imp_right nofun)) (.keeps (Or.imp_right nofun) id ?_)
    intro isRegistered
    rw [registered] at isRegistered
    cases isRegistered

theorem StreamSound.loads
    (sound : StreamSound taskID state (before ++ ⟨.idle, .call op moved⟩ :: rest))
    (found : state.tasks.findWithOutput (findDaemonTaskByIDs [taskID]) (some ⟨1, 0⟩) =
      task :: others)
    (obeys : program.Obeys (streamRules taskID) (fun _ stage => stage.isPending = false)
      (.loaded task.status)) :
    StreamSound taskID state (before ++ ⟨.loaded task.status, program⟩ :: rest) := by
  have status : some task.status = currentStatus taskID state := by
    rw [currentStatus, get_of_findWithOutput found]
    rfl
  exact sound.advance obeys (fun _ _ _ => rfl) (fun _ => status) id
    (fun holds => .inl (holds.imp_right nofun)) (.keeps (Or.imp_right nofun) id nofun)

theorem StreamSound.saves
    (sound : StreamSound taskID state (before ++ ⟨.idle, .call op moved⟩ :: rest))
    (own : task.id = taskID) (given : taskID ≠ 0)
    (alone : ∀ other ∈ before ++ rest, inProgress other = false)
    (obeys : program.Obeys (streamRules taskID) (fun _ stage => stage.isPending = false)
      (.saved task.status)) :
    StreamSound taskID { state with tasks := state.tasks.save now task }
      (before ++ ⟨.saved task.status, program⟩ :: rest) := by
  refine sound.advance obeys ?_ (fun _ => (currentStatus_save own given).symm) id
    (fun holds => .inl (holds.imp_right nofun)) (.pending rfl)
  intro other member moving
  rw [alone other member] at moving
  cases moving

end

private theorem streamSound_call (alone : OpAlone input state (before ++ rest) op)
    (sound : StreamSound taskID state (before ++ ⟨known, .call op moved⟩ :: rest)) :
    StreamSound taskID (streamOp input state op).1 (before ++
        ⟨(streamRules taskID).learn known op (streamOp input state op).2,
          moved (streamOp input state op).2⟩ :: rest) := by
  have obeys := (Pool.forall_calls.mp sound.obeys).2
  have later := obeys.2 (streamOp input state op).2 (possible_streamOp op)
  have allowed := obeys.1
  cases op with
  | findWithOutput filter pagination =>
    obtain ⟨rfl, rfl, rfl⟩ : known = .idle ∧ filter = findDaemonTaskByIDs [taskID] ∧
      pagination = some ⟨1, 0⟩ := allowed
    cases fault : input.fault with
    | some text =>
      simp only [streamOp, StreamInput.answer, fault] at later ⊢
      exact sound.stays later
    | none =>
      simp only [streamOp, StreamInput.answer, fault] at later ⊢
      cases found : state.tasks.findWithOutput (findDaemonTaskByIDs [taskID]) (some ⟨1, 0⟩) with
      | nil =>
        rw [found] at later
        exact sound.stays later
      | cons task others =>
        rw [found] at later
        exact sound.loads found later
  | register =>
    obtain ⟨status, rfl⟩ : ∃ status, known = .loaded status := allowed
    have seen := status_of_call sound rfl
    exact sound.advance later (fun _ _ _ => rfl) (fun _ => seen) (fun _ => rfl) (fun _ => .inr rfl)
      (.keeps (Or.imp_right nofun) id nofun)
  | send message => exact sound.sends alone allowed later
  | run =>
    obtain ⟨status, rfl⟩ : ∃ status, known = .told status := allowed
    have seen := status_of_call sound rfl
    exact sound.advance later (fun _ _ _ => rfl) (fun _ => seen) id (fun _ => .inl (.inr rfl))
      (.keeps (fun _ => .inr rfl) id fun _ => id)
  | save task =>
    obtain ⟨rfl, own, given⟩ : known = .idle ∧ task.id = taskID ∧ taskID ≠ 0 := allowed
    cases fault : input.fault with
    | some text =>
      simp only [streamOp, StreamInput.answer, fault] at later ⊢
      exact sound.stays later
    | none =>
      simp only [streamOp, StreamInput.answer, fault] at later ⊢
      exact sound.saves own given (alone fault) later
  | subscribers =>
    obtain ⟨status, last⟩ : ∃ status, known = .saved status ∨ known = .published status :=
      allowed.elim (fun found => found.imp fun _ => .inl) (fun found => found.imp fun _ => .inr)
    exact sound.looks last later
  | _ => exact sound.stays later

private theorem streamSound_act (alone : SavesAlone input state (before ++ rest) thread)
    (sound : StreamSound taskID state (before ++ thread :: rest)) :
    StreamSound taskID (streamAct taskID input state thread).1
      (before ++ (streamAct taskID input state thread).2 :: rest) := by
  obtain ⟨known, program⟩ := thread
  cases program with
  | done result => exact sound.write input.written
  | call op next => exact streamSound_call alone (sound.write input.written)

end

def streamPool (taskID : Nat) (tasks : DaemonTaskRepository) (reports : List (Int × String)) :
    Pool StreamState StreamThread where
  shared := ⟨tasks, false, false, [], []⟩
  calls := ⟨.idle, taskStatus taskID⟩ ::
    reports.map fun report => ⟨.idle, reportTaskStatus ⟨taskID, report.1⟩ report.2⟩

private theorem streamSound_streamPool (taskID : Nat) (tasks : DaemonTaskRepository)
    (reports : List (Int × String)) :
    StreamSound taskID (streamPool taskID tasks reports).shared
      (streamPool taskID tasks reports).calls := by
  have idle : ∀ thread ∈ (streamPool taskID tasks reports).calls, thread.known = .idle := by
    refine forall_mem_cons.mpr ⟨rfl, ?_⟩
    intro thread member
    obtain ⟨report, _, rfl⟩ := mem_map.mp member
    rfl
  refine ⟨forall_mem_cons.mpr ⟨obeys_taskStatus, ?_⟩, ?_, ?_, ?_⟩
  · intro thread member
    obtain ⟨report, _, rfl⟩ := mem_map.mp member
    exact obeys_reportTaskStatus rfl report.2
  · intro thread member moving
    have seen := seen_of_inProgress moving
    rw [idle thread member] at seen
    cases seen
  · rintro (running | ⟨thread, member, joined⟩)
    · cases running
    · rw [idle thread member] at joined
      cases joined
  · rintro (running | ⟨thread, member, told⟩)
    · cases running
    · rw [idle thread member] at told
      cases told

def hasReturned (thread : StreamThread) : Bool :=
  match thread.rest with
  | .done _ => true
  | .call _ _ => false

/-- Once the client is connected, every call has returned and the buffer is drained, the
last status that it received is the one that the task ended with. -/
def EndsWithStatus (taskID : Nat) (pool : Pool StreamState StreamThread) : Prop :=
  pool.shared.running = true → pool.calls.all hasReturned = true → pool.shared.buffer = [] →
    ∀ status ∈ currentStatus taskID pool.shared, status.isTerminal = true →
      (pool.shared.received.filterMap OutboundMessage.status?).getLast? = some status

instance (taskID : Nat) (pool : Pool StreamState StreamThread) :
    Decidable (EndsWithStatus taskID pool) := by
  unfold EndsWithStatus
  infer_instance

private theorem StreamSound.endsWithStatus (sound : StreamSound taskID pool.shared pool.calls) :
    EndsWithStatus taskID pool := by
  intro running returned drained status ends _
  cases sound.served (.inl running) with
  | inl upToDate =>
    rw [UpToDate, statuses, drained, append_nil] at upToDate
    exact upToDate.trans ends
  | inr pending =>
    obtain ⟨thread, member, isPending⟩ := pending
    have finished := all_eq_true.mp returned thread member
    have obeys := sound.obeys thread member
    obtain ⟨known, program⟩ := thread
    cases program with
    | done result =>
      have settled : known.isPending = false := obeys
      rw [settled] at isPending
      cases isPending
    | call op next => cases finished

theorem endsWithStatus_of_savesAlone (taskID : Nat) (tasks : DaemonTaskRepository)
    (reports : List (Int × String)) (first rest : List (Nat × StreamInput))
    (along : Along (Pool.step (streamAct taskID)) (Pool.Admits SavesAlone)
      (streamPool taskID tasks reports) (first ++ rest)) :
    EndsWithStatus taskID
      (run (Pool.step (streamAct taskID)) (streamPool taskID tasks reports) first) := by
  have sound := Pool.invariant (fun pool => StreamSound taskID pool.shared pool.calls)
    (along_append.mp along).1 (fun _ _ _ _ _ alone holds => streamSound_act alone holds)
    (streamSound_streamPool taskID tasks reports)
  exact sound.endsWithStatus

def startingTask : DaemonTask :=
  ⟨0, none, none, none, 1, none, .serverStart, none, none, none, .working⟩

def oneTask : DaemonTaskRepository := DaemonTaskRepository.empty.save 0 startingTask

def smooth : StreamInput := ⟨10, none, .ok (), 64⟩

theorem endsWithStatus_of_savesAlone_afterConnecting : EndsWithStatus 1
    (run (Pool.step (streamAct 1)) (streamPool 1 oneTask [(4, "")])
      (replicate 6 (0, smooth) ++ replicate 8 (1, smooth))) :=
  endsWithStatus_of_savesAlone 1 oneTask [(4, "")]
    (replicate 6 (0, smooth) ++ replicate 8 (1, smooth)) [] (by decide)

theorem endsBeforeRegistering_not_endsWithStatus : ¬EndsWithStatus 1
    (run (Pool.step (streamAct 1)) (streamPool 1 oneTask [(4, "")])
      (replicate 3 (0, smooth) ++ replicate 5 (1, smooth) ++
        replicate 4 (0, smooth))) := by
  decide

end ShadowPanel.Tasks
