import ShadowPanel.Api.Servers
import Mathlib.Data.List.Induction

namespace ShadowPanel.Servers

open Api Data Data.Program Domain Filters Repositories Thread UpdateServerInput

/-! A daemon's status report beside an administrator's update of a server, each call of a
repository a step. -/

structure Meeting where
  order : Reordering Server
  session : Option Nat
  report : Except String (List BulkUpdateServerInput)
  configPusher : Bool
  serverID : Nat
  request : Except String UpdateServerInput

inductive Progress where
  | idle
  | loaded (rows : List Server)
  | saved
  deriving DecidableEq

def Progress.rows : Progress → List Server
  | .loaded rows => rows
  | .idle | .saved => []

structure ServerInput where
  now : Int
  fault : Option String
  nodeFound : Bool
  gameFound : Bool
  gameCode : Option String

def ServerInput.answer {α : Type} (input : ServerInput) (value : α) : Except String α :=
  match input.fault with
  | some text => .error text
  | none => .ok value

def ServerInput.stored (input : ServerInput) (before after : ServerRepository) : ServerRepository :=
  match input.fault with
  | some _ => before
  | none => after

def serverOp (input : ServerInput) (store : ServerRepository) :
    (op : ServerOp) → ServerRepository × op.Answer
  | .findServers filter => (store, input.answer (store.find filter none))
  | .findNodes _ => (store, input.answer input.nodeFound)
  | .findGames _ => (store, input.answer input.gameFound)
  | .findGameMods _ => (store, input.answer input.gameCode)
  | .save server => (input.stored store (store.save input.now server), input.answer ())
  | .saveBulk servers => (input.stored store (store.saveBulk servers), input.answer ())
  | .pushServerConfig _ => (store, ())

def usesServers : ServerOp → Bool
  | .findServers _ | .save _ | .saveBulk _ => true
  | _ => false

abbrev ServerThread := Thread Progress ServerOp ServerOp.Answer HandlerError Unit

def serverRules (allowed : Progress → ServerOp → Prop) :
    Discipline Progress ServerOp ServerOp.Answer where
  allowed := allowed
  possible
    | .findServers filter, .ok rows =>
      ∀ row ∈ rows, ServerRepository.isFound filter row = true ∧ row.id ≠ 0
    | _, _ => True
  learn progress
    | .findServers _, .ok rows => .loaded rows
    | .save _, .ok _ => .saved
    | _, _ => progress

def serverAct : ServerInput → ServerRepository → ServerThread → ServerRepository × ServerThread :=
  Thread.act (serverRules fun _ _ => True) serverOp

theorem obeys_serverAct (obeys : thread.rest.Obeys (serverRules allowed) post thread.known) :
    (serverAct input store thread).2.rest.Obeys (serverRules allowed) post
      (serverAct input store thread).2.known := by
  refine obeys_act ?_ obeys
  intro input store op
  cases op with
  | findServers filter =>
    cases fault : input.fault with
    | some text => simp only [serverOp, ServerInput.answer, fault, serverRules]
    | none =>
      simp only [serverOp, ServerInput.answer, fault]
      intro row member
      obtain ⟨stored, found⟩ := List.mem_filter.mp member
      exact ⟨found, store.numbered row stored⟩
  | _ => trivial

namespace Meeting

variable (meeting : Meeting)

def Updated (server : Server) : Prop :=
  ∃ input row, meeting.request = .ok input ∧ row.id = meeting.serverID ∧ row.id ≠ 0 ∧
    server = input.apply row

def Reported (progress : Progress) (servers : List Server) : Prop :=
  ∃ inputs, meeting.report = .ok inputs ∧
    servers = meeting.order.apply (updateServers progress.rows inputs)

def updateRules : Discipline Progress ServerOp ServerOp.Answer :=
  serverRules fun _ op =>
    match op with
    | .save server => meeting.Updated server
    | .saveBulk _ => False
    | _ => True

def reportRules : Discipline Progress ServerOp ServerOp.Answer :=
  serverRules fun progress op =>
    match op with
    | .save _ => False
    | .saveBulk servers => meeting.Reported progress servers
    | _ => True

def SavedOnSuccess : Except HandlerError Unit → Progress → Prop
  | .ok _, progress => progress = .saved
  | .error _, _ => True

variable {meeting}

private theorem silent_onServers (op : ServerOp) (other : usesServers op = false) :
    Silent meeting.updateRules (onServers op) := by
  intro known
  cases op with
  | findServers filter | save server | saveBulk servers => cases other
  | _ => exact ⟨trivial, fun _ _ => rfl⟩

private theorem silent_prepareUpdate (input : UpdateServerInput) (server : Server) :
    Silent meeting.updateRules (input.prepareUpdate server) := by
  refine Silent.bind ?_ fun _ => Silent.bind ?_ fun _ => ?_
  · unfold prepareNode
    split
    · refine (silent_onServers (.findNodes _) rfl).bind fun answer => ?_
      exact (silent_orFail _ answer).bind fun found => silent_require _ found
    · exact .pure ()
  · unfold prepareGame
    split
    · refine (silent_onServers (.findGames _) rfl).bind fun answer => ?_
      exact (silent_orFail _ answer).bind fun found => silent_require _ found
    · exact .pure ()
  · unfold prepareGameMod
    split
    · refine (silent_onServers (.findGameMods _) rfl).bind fun answer => ?_
      refine (silent_orFail _ answer).bind fun gameCode => ?_
      cases gameCode with
      | none => exact .throw _
      | some gameCode => exact silent_require _ _
    · exact .pure ()

private theorem obeys_putServer :
    (putServer meeting.configPusher meeting.serverID meeting.request).Obeys meeting.updateRules
      SavedOnSuccess .idle := by
  refine ⟨trivial, ?_⟩
  intro answer possible
  cases answer with
  | error text => trivial
  | ok rows =>
    cases rows with
    | nil => trivial
    | cons row rest =>
      obtain ⟨found, given⟩ := possible row List.mem_cons_self
      have own : row.id = meeting.serverID := by
        simp only [ServerRepository.isFound, findServerByIDs, Bool.and_eq_true] at found
        simpa using found.1.1
      cases body : meeting.request with
      | error text => trivial
      | ok input =>
        refine (silent_orThrow _).obeys_bind (fun _ => ?_) fun _ => trivial
        refine (silent_prepareUpdate input row).obeys_bind (fun _ => ?_) fun _ => trivial
        refine ⟨⟨input, row, body, own, given, rfl⟩, ?_⟩
        intro saved _
        cases saved with
        | error text => trivial
        | ok _ =>
          cases meeting.configPusher with
          | true => exact ⟨trivial, fun _ _ => rfl⟩
          | false => rfl

private theorem obeys_patchServers :
    (patchServers meeting.order meeting.session meeting.report).Obeys meeting.reportRules
      (fun _ _ => True) .idle := by
  cases meeting.session with
  | none => trivial
  | some nodeID =>
    cases body : meeting.report with
    | error text => trivial
    | ok inputs =>
      refine (silent_orThrow _).obeys_bind (fun _ => ?_) fun _ => trivial
      split
      · trivial
      · refine ⟨trivial, ?_⟩
        intro answer _
        cases answer with
        | error text => trivial
        | ok rows =>
          refine ⟨⟨inputs, body, rfl⟩, ?_⟩
          intro saved _
          cases saved with
          | error text | ok _ => trivial

end Meeting

def withoutStatus (row : Server) : Server :=
  { row with installed := .notInstalled, processActive := false, lastProcessCheck := none }

def OnlyStatuses (before after : ServerRepository) : Prop :=
  after.rows.map withoutStatus = before.rows.map withoutStatus

instance (before after : ServerRepository) : Decidable (OnlyStatuses before after) :=
  instDecidableEqList _ _

def reported (inputs : List BulkUpdateServerInput) (row : Server) : Server :=
  inputs.foldl (fun row input => if row.id = input.id then input.update row else row) row

def reportedInstalled (inputs : List BulkUpdateServerInput) (serverID : Nat) :
    Option ServerInstalledStatus :=
  (inputs.filterMap fun input =>
    if serverID = input.id then input.newInstalled else none).getLast?

section

variable {inputs : List BulkUpdateServerInput}

theorem updateServers_eq_map (rows : List Server) :
    updateServers rows inputs = rows.map (reported inputs) := by
  induction inputs generalizing rows with
  | nil => exact (List.map_id _).symm
  | cons input rest ih =>
    refine (ih _).trans ?_
    rw [List.map_map]
    rfl

@[simp]
theorem withoutStatus_reported : withoutStatus (reported inputs row) = withoutStatus row := by
  induction inputs generalizing row with
  | nil => rfl
  | cons input rest ih =>
    refine ih.trans ?_
    change withoutStatus (if row.id = input.id then input.update row else row) = _
    split <;> rfl

@[simp] theorem id_reported : (reported inputs row).id = row.id := by
  show (withoutStatus (reported inputs row)).id = _
  rw [withoutStatus_reported]
  rfl

@[simp] theorem installed_reported :
    (reported inputs row).installed = (reportedInstalled inputs row.id).getD row.installed := by
  induction inputs using List.reverseRecOn with
  | nil => rfl
  | append_singleton inputs input ih =>
    have last : reported (inputs ++ [input]) row =
        if (reported inputs row).id = input.id then input.update (reported inputs row)
        else reported inputs row := by
      rw [reported, List.foldl_append]
      rfl
    rw [last, id_reported, reportedInstalled]
    by_cases own : row.id = input.id
    · cases status : input.newInstalled with
      | none => simp [BulkUpdateServerInput.update, own, ih, reportedInstalled]
      | some status => simp [BulkUpdateServerInput.update, own, status]
    · simp [own, ih, reportedInstalled]

private theorem eq_of_withoutStatus (same : withoutStatus server = withoutStatus row) :
    server = { row with
      installed := server.installed
      processActive := server.processActive
      lastProcessCheck := server.lastProcessCheck } := by
  obtain ⟨⟩ := server
  simp only [withoutStatus, Server.mk.injEq] at same
  simp [same]

end

section

variable {store : ServerRepository} {id : Nat}

private theorem view_get (store : ServerRepository) (id : Nat) : (store.get id).map withoutStatus =
    (store.rows.map withoutStatus).find? fun row => row.id == id := by
  rw [List.find?_map]
  rfl

theorem OnlyStatuses.view (same : OnlyStatuses before after) (id : Nat) :
    (after.get id).map withoutStatus = (before.get id).map withoutStatus := by
  rw [view_get, view_get, same]

private theorem onlyStatuses_saveRow
    (same : (store.get server.id).map withoutStatus = some (withoutStatus server)) :
    OnlyStatuses store (store.saveRow server) := by
  obtain ⟨old, found, view⟩ := Option.map_eq_some_iff.mp same
  obtain ⟨member, own⟩ := ServerRepository.mem_of_get found
  have given : server.id ≠ 0 := own ▸ store.numbered old member
  have replaced : Replaced old server store.rows (store.saveRow server).rows := by
    rw [ServerRepository.rows_saveRow given]
    exact replaced_place _ store.ordered member own.symm
  have viewed := (replaced.filterMap_eq_iff (some ∘ withoutStatus)).mpr (congrArg some view.symm)
  rwa [List.filterMap_eq_map] at viewed

theorem onlyStatuses_saveBulk
    (same : ∀ server ∈ servers, (store.get server.id).map withoutStatus =
      some (withoutStatus server)) :
    OnlyStatuses store (store.saveBulk servers) := by
  induction servers generalizing store with
  | nil => rfl
  | cons server rest ih =>
    have first := onlyStatuses_saveRow (same server List.mem_cons_self)
    refine Eq.trans (ih ?_) first
    intro other member
    rw [first.view]
    exact same other (List.mem_cons_of_mem _ member)

private theorem get_saveBulk (given : ∀ server ∈ servers, server.id ≠ 0)
    (found : (store.saveBulk servers).get id = some row) :
    store.get id = some row ∨ row ∈ servers := by
  induction servers generalizing store with
  | nil => exact .inl found
  | cons server rest ih =>
    obtain ⟨first, later⟩ := List.forall_mem_cons.mp given
    cases ih later found with
    | inr member => exact .inr (List.mem_cons_of_mem _ member)
    | inl early =>
      rw [ServerRepository.get, ServerRepository.rows_saveRow first] at early
      by_cases own : server.id = id
      · subst own
        rw [find?_place_self] at early
        exact .inr (Option.some.inj early ▸ List.mem_cons_self)
      · rw [find?_place_of_ne _ own] at early
        exact .inl early

end

namespace Meeting

variable (meeting : Meeting)

def IsSet (store : ServerRepository) : Prop :=
  match meeting.request, store.get meeting.serverID with
  | .ok input, some row => input.apply row = row
  | _, _ => False

instance (store : ServerRepository) : Decidable (meeting.IsSet store) := by
  unfold IsSet
  split <;> infer_instance

def SameInstalled : Prop :=
  match meeting.report, meeting.request with
  | .ok inputs, .ok request =>
    ∀ status ∈ request.newInstalled, ∀ reported ∈ reportedInstalled inputs meeting.serverID,
      reported = status
  | _, _ => True

instance : Decidable meeting.SameInstalled := by
  unfold SameInstalled
  split <;> infer_instance

variable {meeting}

theorem isSet_iff : meeting.IsSet store ↔
    ∃ input row, meeting.request = .ok input ∧ store.get meeting.serverID = some row ∧
      input.apply row = row := by
  unfold IsSet
  split
  next input row body found => simp [body, found]
  next other =>
    refine iff_of_false id ?_
    intro holds
    obtain ⟨input, row, body, found, _⟩ := holds
    exact other input row body found

end Meeting

private theorem getD_getD (value : Option α) (default : α) :
    value.getD (value.getD default) = value.getD default := by
  cases value <;> rfl

private theorem orElse_orElse (value other : Option α) :
    (value <|> value <|> other) = (value <|> other) := by
  cases value <;> rfl

private theorem apply_apply (input : UpdateServerInput) (row : Server) :
    input.apply (input.apply row) = input.apply row := by
  simp only [apply, getD_getD, orElse_orElse]

private theorem apply_of_withoutStatus {input : UpdateServerInput} (same : input.apply row = row)
    (view : withoutStatus server = withoutStatus row)
    (installed : input.newInstalled.getD server.installed = server.installed) :
    input.apply server = server := by
  have applied : input.apply server =
      { input.apply row with
        installed := input.newInstalled.getD server.installed
        processActive := server.processActive
        lastProcessCheck := server.lastProcessCheck } := by
    rw [eq_of_withoutStatus view]
    rfl
  rw [applied, same, installed]
  exact (eq_of_withoutStatus view).symm

namespace Meeting

variable (meeting : Meeting)

/-- The rows that a report saves are still those that it loaded, and where the update
has saved, the report has no other status for its server. -/
def SavesFresh (input : ServerInput) (store : ServerRepository) (others : List ServerThread)
    (thread : ServerThread) : Prop :=
  match thread.rest with
  | .call (.saveBulk _) _ =>
    input.fault = none → ∀ row ∈ thread.known.rows, store.get row.id = some row ∧
      (row.id = meeting.serverID → (∃ other ∈ others, other.known = .saved) → meeting.SameInstalled)
  | _ => True

instance (input : ServerInput) (store : ServerRepository) (others : List ServerThread)
    (thread : ServerThread) : Decidable (meeting.SavesFresh input store others thread) := by
  unfold SavesFresh
  split <;> infer_instance

structure Sound (store : ServerRepository) (report update : ServerThread) : Prop where
  reportObeys : report.rest.Obeys meeting.reportRules (fun _ _ => True) report.known
  updateObeys : update.rest.Obeys meeting.updateRules SavedOnSuccess update.known
  isSet : update.known = .saved → meeting.IsSet store

variable {meeting} {store : ServerRepository} {report update : ServerThread}

private theorem isSet_save (updated : meeting.Updated server) (now : Int) :
    meeting.IsSet (store.save now server) := by
  obtain ⟨input, row, body, own, given, rfl⟩ := updated
  refine isSet_iff.mpr ⟨input, store.written now (input.apply row), body, ?_, ?_⟩
  · have id : (store.written now (input.apply row)).id = meeting.serverID :=
      (if_neg given).trans own
    rw [← id]
    exact find?_place_self Server.id _ _
  · exact congrArg (store.written now) (apply_apply input row)

theorem view_of_fresh (meeting : Meeting) (inputs : List BulkUpdateServerInput)
    (fresh : ∀ row ∈ rows, store.get row.id = some row) :
    ∀ server ∈ meeting.order.apply (updateServers rows inputs),
      (store.get server.id).map withoutStatus = some (withoutStatus server) := by
  intro server member
  rw [Reordering.mem_apply, updateServers_eq_map] at member
  obtain ⟨row, loaded, rfl⟩ := List.mem_map.mp member
  rw [id_reported, fresh row loaded, withoutStatus_reported]
  rfl

private theorem isSet_saveBulk (body : meeting.report = .ok inputs)
    (fresh : ∀ row ∈ rows, store.get row.id = some row)
    (agrees : ∀ row ∈ rows, row.id = meeting.serverID → meeting.SameInstalled)
    (isSet : meeting.IsSet store) :
    meeting.IsSet (store.saveBulk (meeting.order.apply (updateServers rows inputs))) := by
  obtain ⟨input, row, request, found, same⟩ := isSet_iff.mp isSet
  have views := view_of_fresh meeting inputs fresh
  have view := (onlyStatuses_saveBulk views).view meeting.serverID
  rw [found] at view
  obtain ⟨server, saved, view⟩ := Option.map_eq_some_iff.mp view
  refine isSet_iff.mpr ⟨input, server, request, saved, apply_of_withoutStatus same view ?_⟩
  have given : ∀ server ∈ meeting.order.apply (updateServers rows inputs), server.id ≠ 0 := by
    intro server member
    obtain ⟨old, stored, _⟩ := Option.map_eq_some_iff.mp (views server member)
    obtain ⟨oldMember, own⟩ := ServerRepository.mem_of_get stored
    exact own ▸ store.numbered old oldMember
  have kept : input.newInstalled.getD row.installed = row.installed :=
    congrArg Server.installed same
  cases get_saveBulk given saved with
  | inl old =>
    obtain rfl := Option.some.inj (found.symm.trans old)
    exact kept
  | inr member =>
    rw [Reordering.mem_apply, updateServers_eq_map] at member
    obtain ⟨old, loaded, rfl⟩ := List.mem_map.mp member
    have own : old.id = meeting.serverID :=
      id_reported.symm.trans (ServerRepository.mem_of_get saved).2
    have isOld : old = row := Option.some.inj ((fresh old loaded).symm.trans (own ▸ found))
    subst isOld
    rw [installed_reported, own]
    cases requested : input.newInstalled with
    | none => rfl
    | some status =>
      cases last : reportedInstalled inputs meeting.serverID with
      | none =>
        rw [requested] at kept
        exact kept
      | some reported =>
        have same := agrees old loaded own
        simp only [SameInstalled, body, request] at same
        exact (same _ requested reported last).symm

private theorem report_step (fresh : meeting.SavesFresh input store [update] report)
    (sound : meeting.Sound store report update) :
    OnlyStatuses store (serverAct input store report).1 ∧
      meeting.Sound (serverAct input store report).1 (serverAct input store report).2 update := by
  obtain ⟨reportObeys, updateObeys, isSet⟩ := sound
  suffices keeps : OnlyStatuses store (serverAct input store report).1 ∧
      (update.known = .saved → meeting.IsSet (serverAct input store report).1) from
    ⟨keeps.1, obeys_serverAct reportObeys, updateObeys, keeps.2⟩
  obtain ⟨known, program⟩ := report
  cases program with
  | done result => exact ⟨rfl, isSet⟩
  | call op next =>
    cases op with
    | save server => exact reportObeys.1.elim
    | saveBulk servers =>
      have allowed : meeting.Reported known servers := reportObeys.1
      obtain ⟨inputs, body, rfl⟩ := allowed
      cases fault : input.fault with
      | some text =>
        simp only [serverAct, act, serverOp, ServerInput.stored, fault]
        exact ⟨rfl, isSet⟩
      | none =>
        simp only [serverAct, act, serverOp, ServerInput.stored, fault]
        have rows := fresh fault
        refine ⟨onlyStatuses_saveBulk (view_of_fresh _ _ fun row member => (rows row member).1), ?_⟩
        intro saved
        exact isSet_saveBulk body (fun row member => (rows row member).1)
          (fun row member own => (rows row member).2 own ⟨update, List.mem_singleton_self _, saved⟩)
          (isSet saved)
    | _ => exact ⟨rfl, isSet⟩

private theorem update_step (input : ServerInput) (sound : meeting.Sound store report update) :
    meeting.Sound (serverAct input store update).1 report (serverAct input store update).2 := by
  obtain ⟨reportObeys, updateObeys, isSet⟩ := sound
  refine ⟨reportObeys, obeys_serverAct updateObeys, ?_⟩
  obtain ⟨known, program⟩ := update
  cases program with
  | done result => exact isSet
  | call op next =>
    cases op with
    | saveBulk servers => exact updateObeys.1.elim
    | save server =>
      have updated : meeting.Updated server := updateObeys.1
      cases fault : input.fault with
      | some text =>
        simp only [serverAct, act, serverOp, ServerInput.stored, ServerInput.answer, fault]
        exact isSet
      | none =>
        simp only [serverAct, act, serverOp, ServerInput.stored, fault]
        exact fun _ => isSet_save updated input.now
    | findServers filter =>
      cases fault : input.fault with
      | some text =>
        simp only [serverAct, act, serverOp, ServerInput.answer, fault]
        exact isSet
      | none =>
        simp only [serverAct, act, serverOp, ServerInput.answer, fault]
        intro saved
        cases saved
    | _ => exact isSet

variable (meeting)

def pool (store : ServerRepository) : Pool ServerRepository ServerThread where
  shared := store
  calls :=
    [⟨.idle, patchServers meeting.order meeting.session meeting.report⟩,
      ⟨.idle, putServer meeting.configPusher meeting.serverID meeting.request⟩]

def succeeded (thread : ServerThread) : Bool :=
  match thread.rest with
  | .done (.ok _) => true
  | _ => false

/-- A step of the report changes at most its fields, and once both have returned success,
every field that the request sets has its value. -/
def Respects (pool : Pool ServerRepository ServerThread) (event : Nat × ServerInput) : Prop :=
  (event.1 = 0 → OnlyStatuses pool.shared (pool.step serverAct event).shared) ∧
    ((pool.step serverAct event).calls.all succeeded = true →
      meeting.IsSet (pool.step serverAct event).shared)

instance (pool : Pool ServerRepository ServerThread) (event : Nat × ServerInput) :
    Decidable (meeting.Respects pool event) :=
  instDecidableAnd

def PoolSound (pool : Pool ServerRepository ServerThread) : Prop :=
  ∃ report update, pool.calls = [report, update] ∧ meeting.Sound pool.shared report update

variable {meeting}

private theorem Sound.isSet_of_succeeded (sound : meeting.Sound store report update)
    (returned : [report, update].all succeeded = true) : meeting.IsSet store := by
  have both := List.all_eq_true.mp returned update (List.mem_cons_of_mem _ List.mem_cons_self)
  obtain ⟨known, program⟩ := update
  match program with
  | .done (.ok _) => exact sound.isSet sound.updateObeys
  | .done (.error _) => cases both
  | .call _ _ => cases both

private theorem step_respects (pool : Pool ServerRepository ServerThread)
    (event : Nat × ServerInput) (fresh : Pool.Admits meeting.SavesFresh pool event)
    (sound : meeting.PoolSound pool) :
    meeting.PoolSound (pool.step serverAct event) ∧ meeting.Respects pool event := by
  obtain ⟨store, calls⟩ := pool
  obtain ⟨report, update, rfl, sound⟩ := sound
  match event with
  | (0, input) =>
    obtain ⟨only, next⟩ := report_step fresh sound
    exact ⟨⟨_, _, rfl, next⟩, fun _ => only, next.isSet_of_succeeded⟩
  | (1, input) =>
    have next := update_step input sound
    exact ⟨⟨_, _, rfl, next⟩, nofun, next.isSet_of_succeeded⟩
  | (place + 2, input) =>
    exact ⟨⟨_, _, rfl, sound⟩, nofun, sound.isSet_of_succeeded⟩

theorem respects_of_savesFresh (meeting : Meeting) (store : ServerRepository)
    (events : List (Nat × ServerInput))
    (along : Along (Pool.step serverAct) (Pool.Admits meeting.SavesFresh) (meeting.pool store)
      events) : Along (Pool.step serverAct) meeting.Respects (meeting.pool store) events := by
  refine along.imp_of_invariant _ step_respects ⟨_, _, rfl, ?_⟩
  exact ⟨obeys_patchServers, obeys_putServer, fun saved => nomatch saved⟩

end Meeting

def storedServer : Server :=
  { (default : Server) with
    id := 5, dsID := 2, name := "old", gameID := "cs", gameModID := 3, serverIP := "10.0.0.1",
    serverPort := 27015 }

def newName : UpdateServerInput :=
  { (default : UpdateServerInput) with
    name := "new"
    gameID := "cs"
    dsID := 2
    gameModID := 3
    serverIP := "10.0.0.1"
    serverPort := 27015 }

def renamedWhileReported : Meeting where
  order := .kept
  session := some 2
  report := .ok [⟨5, none, some true, some 100⟩]
  configPusher := false
  serverID := 5
  request := .ok newName

def storeOfOne : ServerRepository := ServerRepository.empty.saveRow storedServer

def atTime (now : Int) : ServerInput := ⟨now, none, true, true, some "cs"⟩

theorem respects_of_savesFresh_inTurn :
    Along (Pool.step serverAct) renamedWhileReported.Respects (renamedWhileReported.pool storeOfOne)
      [(1, atTime 10), (0, atTime 11), (0, atTime 12), (1, atTime 13)] :=
  Meeting.respects_of_savesFresh renamedWhileReported storeOfOne
    [(1, atTime 10), (0, atTime 11), (0, atTime 12), (1, atTime 13)] (by decide)

theorem renamed_between_load_and_save : ¬Along (Pool.step serverAct) renamedWhileReported.Respects
    (renamedWhileReported.pool storeOfOne)
    [(0, atTime 10), (1, atTime 11), (1, atTime 12), (0, atTime 13)] := by
  decide

end ShadowPanel.Servers
