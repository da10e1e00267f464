import ShadowPanel.Grpc.Registry
import ShadowPanel.Tasks.Handler

namespace ShadowPanel.Tasks

open Data Domain Filters Grpc Repositories Repositories.DaemonTaskRepository List

/-! The sweep of `internal/services/taskreaper/reaper.go`, over the tasks that
daemons left in the status `working`. -/

structure ReaperOptions where
  interval : Int
  staleThreshold : Int

def defaultInterval : Int := 60

def defaultStaleThreshold : Int := 600

def ReaperOptions.applyDefaults (opts : ReaperOptions) : ReaperOptions where
  interval := if opts.interval ≤ 0 then defaultInterval else opts.interval
  staleThreshold := if opts.staleThreshold ≤ 0 then defaultStaleThreshold else opts.staleThreshold

structure Reaper where
  opts : ReaperOptions
  interval_pos : 0 < opts.interval
  staleThreshold_pos : 0 < opts.staleThreshold

theorem pos_of_default {given : Int} (positive : 0 < fallback) :
    0 < if given ≤ 0 then fallback else given := by
  split
  · exact positive
  next above => exact Int.not_le.mp above

def newReaper (opts : ReaperOptions) : Reaper where
  opts := opts.applyDefaults
  interval_pos := pos_of_default (by decide)
  staleThreshold_pos := pos_of_default (by decide)

namespace Reaper

variable (reaper : Reaper) (registry : Registry) (now : Int)

def cutoff : Int := now - reaper.opts.staleThreshold

def isStale (task : DaemonTask) : Bool :=
  !task.updatedAt.any fun updated => reaper.cutoff now < updated

def isAbandoned (task : DaemonTask) : Bool :=
  !registry.isConnectedAnywhere task.dedicatedServerID && reaper.isStale now task

def allWorkingTasks (store : DaemonTaskRepository) : List DaemonTask :=
  store.find { findDaemonTaskByIDs [] with statuses := [.working] } none

def abandonedNodes (store : DaemonTaskRepository) : List Nat :=
  (((allWorkingTasks store).filter (reaper.isAbandoned registry now)).map
    DaemonTask.dedicatedServerID).eraseDups

def reconcileNode (clock : Nat → Int) (store : DaemonTaskRepository) (nodeID : Nat) :
    DaemonTaskRepository :=
  (reconcileWorkingTasks store (clock nodeID) nodeID []).1

/-- `clock` is the time at which the tasks of each node are reconciled, and `order`
the order in which the map is gone through. -/
def sweep (clock : Nat → Int) (order : Reordering Nat) (store : DaemonTaskRepository) :
    DaemonTaskRepository :=
  (order.apply (reaper.abandonedNodes registry now store)).foldl (reconcileNode clock) store

def Untouched (task : DaemonTask) : Prop :=
  ∀ updated ∈ task.updatedAt, updated + reaper.opts.staleThreshold ≤ now

structure OnlyAbandoned (before after : DaemonTaskRepository) : Prop where
  changed : ∀ id, (after.get id).map DaemonTask.status ≠ (before.get id).map DaemonTask.status →
    ∃ row, before.get id = some row ∧ row.status = .working ∧ reaper.Untouched now row ∧
      registry.isConnectedAnywhere row.dedicatedServerID = false
  younger : ∀ id row, before.get id = some row → ¬reaper.Untouched now row → after.get id = some row

/-- No node that is connected nowhere has a working task that is stale and one that
is younger. -/
def OfOneAge (store : DaemonTaskRepository) : Prop :=
  ∀ old ∈ store.rows, ∀ other ∈ store.rows,
    old.status = .working → other.status = .working →
    other.dedicatedServerID = old.dedicatedServerID →
    registry.isConnectedAnywhere old.dedicatedServerID = false →
    reaper.Untouched now old → reaper.Untouched now other

variable {reaper registry now} {clock : Nat → Int}

theorem isStale_iff : reaper.isStale now task = true ↔ reaper.Untouched now task := by
  unfold isStale Untouched cutoff
  cases task.updatedAt with
  | none => simp
  | some updated =>
    simp only [Option.any_some, Bool.not_eq_true', decide_eq_false_iff_not, Option.mem_some]
    constructor
    · intro before moment same
      omega
    · intro before
      have := before updated rfl
      omega

theorem mem_abandonedNodes : nodeID ∈ reaper.abandonedNodes registry now store ↔
    ∃ row ∈ store.rows, row.status = .working ∧ row.dedicatedServerID = nodeID ∧
      registry.isConnectedAnywhere nodeID = false ∧ reaper.Untouched now row := by
  simp only [abandonedNodes, mem_eraseDups, mem_map, mem_filter, allWorkingTasks,
    find, applyPagination]
  constructor
  · rintro ⟨_, ⟨⟨row, ⟨stored, matched⟩, rfl⟩, isAbandoned⟩, rfl⟩
    rw [Reaper.isAbandoned, Bool.and_eq_true, Bool.not_eq_true', isStale_iff] at isAbandoned
    exact ⟨row, stored, by simpa [isFound, findDaemonTaskByIDs] using matched, rfl, isAbandoned⟩
  · rintro ⟨row, stored, working, rfl, disconnected, untouched⟩
    refine ⟨withoutOutput row, ⟨⟨row, ⟨stored, ?_⟩, rfl⟩, ?_⟩, rfl⟩
    · simp [isFound, findDaemonTaskByIDs, working]
    · rw [Reaper.isAbandoned, Bool.and_eq_true, Bool.not_eq_true', isStale_iff]
      exact ⟨disconnected, untouched⟩

theorem get_foldl_reconcileNode (nodes : List Nat) (id : Nat) :
    (nodes.foldl (reconcileNode clock) store).get id = (store.get id).map fun row =>
        if row.status = .working ∧ row.dedicatedServerID ∈ nodes then
          abandoned (clock row.dedicatedServerID) row else row := by
  induction nodes generalizing store with
  | nil => simp
  | cons nodeID rest ih =>
    rw [foldl_cons, ih, reconcileNode, get_reconcileWorkingTasks, Option.map_map]
    refine congrArg (Option.map · (store.get id)) ?_
    funext row
    by_cases own : row.status = .working ∧ row.dedicatedServerID = nodeID
    · obtain ⟨working, rfl⟩ := own
      simp [working, abandoned]
    · have kept : ¬(row.status = .working ∧ row.dedicatedServerID = nodeID ∧ row.id ∉ []) :=
        fun marked => own ⟨marked.1, marked.2.1⟩
      rw [Function.comp_apply, if_neg kept]
      refine if_congr (and_congr_right fun working => ?_) rfl rfl
      have other : row.dedicatedServerID ≠ nodeID := fun same => own ⟨working, same⟩
      simp [other]

theorem get_sweep (order : Reordering Nat) (id : Nat) :
    (reaper.sweep registry now clock order store).get id = (store.get id).map fun row =>
        if row.status = .working ∧
            row.dedicatedServerID ∈ reaper.abandonedNodes registry now store then
          abandoned (clock row.dedicatedServerID) row else row := by
  simp [sweep, get_foldl_reconcileNode]

theorem untouched_of_mem_abandonedNodes (ofOneAge : reaper.OfOneAge registry now store) {id : Nat}
    (stored : store.get id = some row) (working : row.status = .working)
    (swept : row.dedicatedServerID ∈ reaper.abandonedNodes registry now store) :
    reaper.Untouched now row ∧ registry.isConnectedAnywhere row.dedicatedServerID = false := by
  obtain ⟨old, oldStored, oldWorking, same, disconnected, stale⟩ := mem_abandonedNodes.mp swept
  exact ⟨ofOneAge old oldStored row (mem_of_get stored).1 oldWorking working same.symm
    (same ▸ disconnected) stale, disconnected⟩

theorem sweep_onlyAbandoned_iff (reaper : Reaper) (registry : Registry) (now : Int)
    (clock : Nat → Int) (order : Reordering Nat) (store : DaemonTaskRepository) :
    reaper.OnlyAbandoned registry now store (reaper.sweep registry now clock order store) ↔
      reaper.OfOneAge registry now store := by
  constructor
  · intro holds old oldStored other otherStored oldWorking otherWorking same disconnected stale
    by_contra young
    have stored : store.get other.id = some other := get_of_mem otherStored
    have swept : other.dedicatedServerID ∈ reaper.abandonedNodes registry now store :=
      same ▸ mem_abandonedNodes.mpr ⟨old, oldStored, oldWorking, rfl, disconnected, stale⟩
    have kept := holds.younger other.id other stored young
    rw [get_sweep, stored, Option.map_some, if_pos ⟨otherWorking, swept⟩] at kept
    have error : DaemonTaskStatus.error = other.status :=
      congrArg DaemonTask.status (Option.some.inj kept)
    rw [otherWorking] at error
    cases error
  · intro ofOneAge
    constructor
    · intro id different
      rw [get_sweep] at different
      cases stored : store.get id with
      | none => simp [stored] at different
      | some row =>
        by_cases marked : row.status = .working ∧
            row.dedicatedServerID ∈ reaper.abandonedNodes registry now store
        · exact ⟨row, rfl, marked.1, untouched_of_mem_abandonedNodes ofOneAge stored marked.1
            marked.2⟩
        · simp [stored, marked] at different
    · intro id row stored young
      rw [get_sweep, stored, Option.map_some, if_neg]
      intro marked
      exact young (untouched_of_mem_abandonedNodes ofOneAge stored marked.1 marked.2).1

end Reaper

def twoAges : DaemonTaskRepository :=
  let task : DaemonTask :=
    { id := 0, runAftID := none, createdAt := some 100, updatedAt := none, dedicatedServerID := 7,
      serverID := some 5, task := .serverStart, data := none, cmd := none, output := none,
      status := .working }
  (DaemonTaskRepository.empty.save 300 task).save 980 task

theorem twoAges_not_onlyAbandoned :
    ¬(newReaper ⟨0, 0⟩).OnlyAbandoned (Registry.start "panel") 1000 twoAges
      ((newReaper ⟨0, 0⟩).sweep (Registry.start "panel") 1000 (fun _ => 1001) .kept twoAges) := by
  intro holds
  obtain ⟨row, stored, _, untouched, _⟩ := holds.changed 2 (by decide)
  have updated : row.updatedAt = some 980 := by
    have same : (twoAges.get 2).bind DaemonTask.updatedAt = some 980 := by decide
    rwa [stored] at same
  have old : (980 : Int) + 600 ≤ 1000 := untouched 980 updated
  omega

end ShadowPanel.Tasks
