import Steward.Store.Store

/-!
# Executor capacity

`requireExecutorCapacityTx` of `internal/store/sqlite/executor_capacity.go`: whether a worker's
current snapshot leaves room for one more assignment beside those that hold its capacity.
-/

namespace Steward

open Except

/-- A demand projected on the capacity a worker declares: a size it does not declare is counted as
a slot only. -/
def governingDemand (demand : ResourceDemand) (allocatable : AllocatableCapacity) : ResourceDemand :=
  { demand with
    cpuUnits := if allocatable.cpuUnits = 0 then 0 else demand.cpuUnits
    memoryMB := if allocatable.memoryMB = 0 then 0 else demand.memoryMB
    scratchMB := if allocatable.scratchMB = 0 then 0 else demand.scratchMB }

def ResourceDemand.validate (d : ResourceDemand) : Except Err Unit := do
  refuseWhen (d.minCPUClass ≠ .unset ∧ d.preferredCPUClass ≠ .unset ∧
      d.preferredCPUClass.rank < d.minCPUClass.rank)
    { text := "resource demand preferred cpu class " ++ quote d.preferredCPUClass.text ++
        " is below its minimum " ++ quote d.minCPUClass.text }
  refuseWhen (d.cpuUnits < 0 ∨ d.memoryMB < 0 ∨ d.scratchMB < 0)
    { text := "resource demand sizes must not be negative" }

def AllocatableCapacity.sized (a : AllocatableCapacity) : Bool :=
  0 < a.cpuUnits ∨ 0 < a.memoryMB ∨ 0 < a.scratchMB

namespace Store

variable (s : Store)

def capacityEvidence (workerID detail : String) : Err :=
  { text := "for worker " ++ quote workerID ++ ": " ++ detail, sentinel := some .executorCapacityEvidence }

def capacityExhausted (workerID detail : String) : Err :=
  { text := "on worker " ++ quote workerID ++ ": " ++ detail, sentinel := some .executorCapacity }

def usedCapacity (workerID : String) (allocatable : AllocatableCapacity) :
    List Assignment → Int × ResourceDemand → Except Err (Int × ResourceDemand)
  | [], used => .ok used
  | assignment :: rest, used =>
    if assignment.workerID ≠ workerID then usedCapacity workerID allocatable rest used
    else do
      let attempt ← s.loadAttempt assignment.attemptID
      if !assignmentOwnsExecutorCapacity attempt assignment then
        usedCapacity workerID allocatable rest used
      else
        match assignmentExecutorDemand attempt assignment with
        | none =>
          if allocatable.sized then
            .error (capacityEvidence workerID
              ("live assignment " ++ quote assignment.id ++ " has no frozen demand"))
          else usedCapacity workerID allocatable rest (used.1 + 1, used.2)
        | some demand =>
          let demand := governingDemand demand allocatable
          usedCapacity workerID allocatable rest (used.1 + 1,
              { used.2 with
                cpuUnits := used.2.cpuUnits + demand.cpuUnits
                memoryMB := used.2.memoryMB + demand.memoryMB
                scratchMB := used.2.scratchMB + demand.scratchMB })

def checkDemand (workerID : String) (inventory : WorkerInventory) :
    Option ResourceDemand → Except Err Unit
  | none =>
    refuseWhen (inventory.allocatable.sized ∨ inventory.cpuClass ≠ .unset)
      (capacityEvidence workerID "assignment demand is not frozen")
  | some demand => do
    match demand.validate with
    | .ok _ => .ok ()
    | .error e => .error (capacityEvidence workerID ("invalid assignment demand: " ++ e.text))
    refuseWhen (demand.minCPUClass ≠ .unset ∧
        (inventory.cpuClass = .unset ∨ inventory.cpuClass.rank < demand.minCPUClass.rank))
      (capacityExhausted workerID ("cpu class " ++ quote inventory.cpuClass.text ++ " is below minimum " ++
        quote demand.minCPUClass.text))

def requireExecutorCapacity (workerID : String) (now : Time) (expectedWorkerEpoch : String)
    (demand : Option ResourceDemand) : Except Err Unit :=
  match s.loadWorkerSnapshot workerID with
  | none => .error (capacityEvidence workerID "no worker snapshot")
  | some snapshot => do
    refuseWhen (expectedWorkerEpoch ≠ "" ∧ snapshot.workerEpoch ≠ expectedWorkerEpoch)
      (capacityEvidence workerID ("snapshot epoch " ++ quote snapshot.workerEpoch ++
        " replaced assignment epoch " ++ quote expectedWorkerEpoch))
    refuseWhen (now = 0 ∨ ¬now < snapshot.validUntil)
      (capacityEvidence workerID "snapshot is stale")
    let allocatable := snapshot.inventory.allocatable
    -- A fresh, explicit zero is a worker that governs nothing.
    if allocatable.executorSlots < 1 then .ok ()
    else do
      checkDemand workerID snapshot.inventory demand
      let used ← s.usedCapacity workerID allocatable s.assignments.rows (0, {})
      let asked := governingDemand (demand.getD {}) allocatable
      refuseWhen (allocatable.executorSlots ≤ used.1)
        (capacityExhausted workerID (toString used.1 ++ " of " ++ toString allocatable.executorSlots ++
          " slots reserved"))
      refuseWhen (allocatable.cpuUnits < used.2.cpuUnits + asked.cpuUnits)
        (capacityExhausted workerID ("cpu demand " ++ toString (used.2.cpuUnits + asked.cpuUnits) ++
          " exceeds " ++ toString allocatable.cpuUnits))
      refuseWhen (allocatable.memoryMB < used.2.memoryMB + asked.memoryMB)
        (capacityExhausted workerID ("memory demand " ++ toString (used.2.memoryMB + asked.memoryMB) ++
          " exceeds " ++ toString allocatable.memoryMB))
      refuseWhen (allocatable.scratchMB < used.2.scratchMB + asked.scratchMB)
        (capacityExhausted workerID ("scratch demand " ++ toString (used.2.scratchMB + asked.scratchMB) ++
          " exceeds " ++ toString allocatable.scratchMB))

end Store

end Steward
