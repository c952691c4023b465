import WchCh56x.Hspi.Scheduled
import WchCh56x.Memory.RamxReferences

/-!
# The driver, the task queue and their users

The driver with everything that can happen between and during its tasks: sends,
receive interrupts, tasks of other users and their own use of the RAMX pool.
-/

namespace WchCh56x.Hspi

open Memory InterruptQueue

structure Packet where
  hspiTaskArgs : Nat
  contents : HspiArgs
  deriving DecidableEq, Repr

structure HspiSystem where
  hspi : HspiScheduled
  /-- The tasks that began and are not yet cleaned up, the innermost first. -/
  running : List Task
  /-- The references into the RAMX pool that are not the driver's. -/
  userRefs : List Nat
  /-- What the sends that returned true accepted, in order. -/
  accepted : List Packet
  /-- What `_hspi_send` was called with, in order. -/
  handed : List Packet

inductive HspiAct where
  | send (buffer size customRegister : Nat)
  | interrupt (interrupt : HspiInterrupt)
  /-- `hydra_interrupt_queue_run` up to the call of the task's function. -/
  | beginTask (txToggle : Bool)
  /-- The rest of `hydra_interrupt_queue_run`. -/
  | endTask
  | freeAll
  | submit (task : Task)
  | userAlloc (numBlocks : Nat)
  | userTake (ptr : Nat)
  | userFree (ptr : Nat)

namespace HspiSystem

def pending (system : HspiSystem) : List Task :=
  system.running ++ system.hspi.taskQueue.tasks

def packetOf (hspi : HspiScheduled) (hspiTaskArgs : Nat) : Packet :=
  ⟨hspiTaskArgs, hspi.args hspiTaskArgs⟩

def step (config : HspiConfig) (system : HspiSystem) : HspiAct → Option HspiSystem
  | .send buffer size customRegister => do
      let (ret, hspiTaskArgs, hspi) ← hspiSend config system.hspi buffer size customRegister
      if ret then
        return { system with
          hspi := hspi
          accepted := system.accepted ++ [packetOf hspi hspiTaskArgs] }
      else
        return { system with hspi := hspi }
  | .interrupt interrupt => do
      let hspi ← hspiIrqHandler config system.hspi interrupt
      return { system with hspi := hspi }
  | .beginTask txToggle =>
      match system.hspi.taskQueue.peekNextTask with
      | none => some system
      | some task =>
          some { system with
            hspi := runTask { system.hspi with taskQueue := system.hspi.taskQueue.dropNextTask }
              txToggle task
            running := task :: system.running
            handed :=
              if task.task = .hspiSend then
                system.handed ++ [packetOf system.hspi task.args]
              else
                system.handed }
  | .endTask =>
      match system.running with
      | [] => some system
      | task :: rest => do
          let hspi ← cleanupTask system.hspi task
          return { system with hspi := hspi, running := rest }
  | .freeAll => do
      let hspi ← hydraInterruptQueueFreeAll system.hspi
      return { system with hspi := hspi }
  | .submit task =>
      some { system with
        hspi := { system.hspi with taskQueue := (system.hspi.taskQueue.setNextTask task).2 } }
  | .userAlloc numBlocks => do
      let (ret, ramxPool) ← ramxPoolAllocBlocks config.ramx system.hspi.ramxPool numBlocks
      return { system with
        hspi := { system.hspi with ramxPool := ramxPool }
        userRefs := ret :: system.userRefs }
  | .userTake ptr => do
      let ramxPool ← ramxTakeOwnership system.hspi.ramxPool ptr
      return { system with
        hspi := { system.hspi with ramxPool := ramxPool }
        userRefs := ptr :: system.userRefs }
  | .userFree ptr => do
      let ramxPool ← ramxPoolFree system.hspi.ramxPool ptr
      return { system with
        hspi := { system.hspi with ramxPool := ramxPool }
        userRefs := system.userRefs.erase ptr }

/-! ## What the driver holds -/

def hspiArgs (tasks : List Task) : List Nat :=
  (tasks.filter fun task => task.cleanup = some .hspiCleanup).map
    HydraInterruptQueueTask.args

def hspiBuffers (hspi : HspiScheduled) (tasks : List Task) : List Nat :=
  (hspiArgs tasks).map fun hspiTaskArgs => (hspi.args hspiTaskArgs).buffer

def driverRefs (system : HspiSystem) : List Nat :=
  [system.hspi.hspiRxBuffer0, system.hspi.hspiRxBuffer1, system.hspi.hspiTxBuffer0,
    system.hspi.hspiTxBuffer1] ++ hspiBuffers system.hspi system.pending

/-- A task of the driver runs a function of the driver; others run and clean up otherwise. -/
def WellFormed (task : Task) : Prop :=
  task.cleanup = some .hspiCleanup ↔ task.task = .hspiSend ∨ task.task = .hspiRxCallback

/-- What callers owe: a buffer in the RAMX pool is one that is held, with room for one more
owner, and users free only their own references. -/
def Admissible (system : HspiSystem) : HspiAct → Prop
  | .send buffer _ _ =>
      ramxAddressInPool system.hspi.ramxPool buffer →
        buffer ∈ system.driverRefs ++ system.userRefs ∧ system.hspi.ramxPool.Shareable buffer
  | .submit task => ∃ address, task.task = .user address ∧ task.cleanup ≠ some .hspiCleanup
  | .userTake ptr =>
      ptr = 0 ∨ ptr ∈ system.driverRefs ++ system.userRefs ∧ system.hspi.ramxPool.Shareable ptr
  | .userFree ptr => ptr = 0 ∨ ptr ∈ system.userRefs
  | _ => True

/-- The argument blocks and the RAMX references are those of the driver, its tasks and the users,
apart from what the driver lost. -/
structure Held (config : HspiConfig) (system : HspiSystem) (lostArgs lostRefs : List Nat) :
    Prop where
  args : system.hspi.hspiArgPool.OwnedBy (hspiArgs system.pending ++ lostArgs)
  refs : system.hspi.ramxPool.OwnedBy config.ramx
    (system.driverRefs ++ system.userRefs ++ lostRefs)
  wellFormed : ∀ task ∈ system.pending, WellFormed task

/-! ## Lists of tasks -/

@[simp] theorem hspiArgs_nil : hspiArgs [] = [] := rfl

theorem hspiArgs_append (first second : List Task) :
    hspiArgs (first ++ second) = hspiArgs first ++ hspiArgs second := by
  simp [hspiArgs]

theorem hspiArgs_cons_driver {task : Task} (driver : task.cleanup = some .hspiCleanup)
    (rest : List Task) : hspiArgs (task :: rest) = task.args :: hspiArgs rest := by
  simp [hspiArgs, driver]

theorem hspiArgs_cons_user {task : Task} (user : task.cleanup ≠ some .hspiCleanup)
    (rest : List Task) : hspiArgs (task :: rest) = hspiArgs rest := by
  simp [hspiArgs, user]

theorem hspiBuffers_append (hspi : HspiScheduled) (first second : List Task) :
    hspiBuffers hspi (first ++ second) = hspiBuffers hspi first ++ hspiBuffers hspi second := by
  simp [hspiBuffers, hspiArgs_append]

/-- The buffers only depend on the argument blocks of the tasks. -/
theorem hspiBuffers_congr {hspi other : HspiScheduled} {tasks : List Task}
    (same : ∀ hspiTaskArgs ∈ hspiArgs tasks, other.args hspiTaskArgs = hspi.args hspiTaskArgs) :
    hspiBuffers other tasks = hspiBuffers hspi tasks := by
  apply List.map_congr_left
  intro hspiTaskArgs member
  rw [same hspiTaskArgs member]

end HspiSystem

end WchCh56x.Hspi
