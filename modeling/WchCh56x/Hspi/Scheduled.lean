import WchCh56x.InterruptQueue.TaskQueue
import WchCh56x.Memory.Pool
import WchCh56x.Memory.RamxAlloc

/-!
# The scheduled HSPI driver, `hspi_scheduled/hspi_scheduled.c`

`none` is an access outside one of the arrays of the two pools.  The registers
are those that hold buffer addresses and packet headers; the configuration
registers that only `hspi_doubledma_init` writes are left out.
-/

namespace WchCh56x.Hspi

open Memory InterruptQueue

/-- The RAMX pool, `INTERRUPT_QUEUE_SIZE` and the address of the members of `hspi_arg_pool`,
of `sizeof(hspi_args_t)` bytes each. -/
structure HspiConfig where
  ramx : PoolConfig
  interruptQueueSize : Nat
  argPoolMembers : Nat
  interruptQueueSize_lt : interruptQueueSize < 65536
  argPoolMembers_pos : 0 < argPoolMembers
  argPoolMembers_end : argPoolMembers + interruptQueueSize * 9 < 4294967296

def oneTask : HspiConfig where
  ramx := ⟨16, 8, 4096, fourBlocks.blockSize_pos, by decide, fourBlocks.buffer_pos, by decide⟩
  interruptQueueSize := 1
  argPoolMembers := 65536
  interruptQueueSize_lt := by decide
  argPoolMembers_pos := by decide
  argPoolMembers_end := by decide

/-- The `args` of a `hspi_args_t`; no code reads its `in_use`. -/
structure HspiArgs where
  buffer : Nat
  size : Nat
  customRegister : Nat
  deriving DecidableEq, Repr

/-- The functions that tasks of the queue run: those of this driver, and those of other users
by their address. -/
inductive TaskFunction where
  | hspiSend
  | hspiRxCallback
  | user (address : Nat)
  deriving DecidableEq, Repr

inductive CleanupFunction where
  | hspiCleanup
  | user (address : Nat)
  deriving DecidableEq, Repr

abbrev Task := HydraInterruptQueueTask TaskFunction CleanupFunction

structure HspiScheduled where
  ramxPool : RamxPool
  hspiArgPool : HydraPool
  /-- The members of `hspi_arg_pool` by address. -/
  args : Nat → HspiArgs
  taskQueue : TaskQueue Task
  hspiPacketSize : Nat
  hspiRxBuffer0 : Nat
  hspiRxBuffer1 : Nat
  hspiTxBuffer0 : Nat
  hspiTxBuffer1 : Nat
  rxAddr0 : Nat
  rxAddr1 : Nat
  txAddr0 : Nat
  txAddr1 : Nat
  udf0 : U32
  udf1 : U32
  memory : Nat → U8

def hspiSerdesTxSizeMask : U32 := 0x1fff

def hspiUserDefinedMask : U32 := 0x3ffffff

/-- `hspi_init`; its first two arguments only reach configuration registers. -/
def hspiInit (config : HspiConfig) (hspi : HspiScheduled) (size : Nat) : Option HspiScheduled := do
  let hspiArgPool := hydraPoolClean hspi.hspiArgPool
  let hspiPacketSize := u16 size
  let (hspiRxBuffer0, ramxPool) ← ramxPoolAllocBytes config.ramx hspi.ramxPool hspiPacketSize
  let (hspiRxBuffer1, ramxPool) ← ramxPoolAllocBytes config.ramx ramxPool hspiPacketSize
  let (hspiTxBuffer0, ramxPool) ← ramxPoolAllocBytes config.ramx ramxPool hspiPacketSize
  let (hspiTxBuffer1, ramxPool) ← ramxPoolAllocBytes config.ramx ramxPool hspiPacketSize
  -- hspi_doubledma_init
  return { hspi with
    ramxPool := ramxPool
    hspiArgPool := hspiArgPool
    args := fun _ => ⟨0, 0, 0⟩
    hspiPacketSize := hspiPacketSize
    hspiRxBuffer0 := hspiRxBuffer0
    hspiRxBuffer1 := hspiRxBuffer1
    hspiTxBuffer0 := hspiTxBuffer0
    hspiTxBuffer1 := hspiTxBuffer1
    rxAddr0 := hspiRxBuffer0
    rxAddr1 := hspiRxBuffer1
    txAddr0 := 0
    txAddr1 := 0
    udf0 := 0x3ABCDEF
    udf1 := 0x3456789 }

def hspiCleanup (hspi : HspiScheduled) (data : Nat) : Option HspiScheduled := do
  let ramxPool ← ramxPoolFree hspi.ramxPool (hspi.args data).buffer
  let hspiArgPool ← hydraPoolFree hspi.hspiArgPool data
  return { hspi with ramxPool := ramxPool, hspiArgPool := hspiArgPool }

/-- `_hspi_send`; `txToggle` is `R8_HSPI_TX_SC & RB_HSPI_TX_TOG`. -/
def hspiSendTask (hspi : HspiScheduled) (txToggle : Bool) (data : Nat) : HspiScheduled :=
  if data = 0 then
    hspi
  else
    let args := hspi.args data
    let header := ((BitVec.ofNat 32 args.size &&& hspiSerdesTxSizeMask) |||
      ((BitVec.ofNat 32 args.customRegister <<< 13) &&& ~~~hspiSerdesTxSizeMask)) &&&
        hspiUserDefinedMask
    if txToggle then
      { hspi with txAddr1 := args.buffer, udf1 := header }
    else
      { hspi with txAddr0 := args.buffer, udf0 := header }

def hspiSetTask (hspi : HspiScheduled) (function : TaskFunction) (hspiTaskArgs : Nat)
    (contents : HspiArgs) : HspiScheduled :=
  { hspi with
    args := Function.update hspi.args hspiTaskArgs contents
    taskQueue :=
      (hspi.taskQueue.setNextTask ⟨function, hspiTaskArgs, some .hspiCleanup⟩).2 }

/-- `hspi_send`: what it returns, its local `hspi_task_args`, and the state. -/
def hspiSend (config : HspiConfig) (hspi : HspiScheduled) (buffer size customRegister : Nat) :
    Option (Bool × Nat × HspiScheduled) := do
  let (hspiTaskArgs, hspiArgPool) ← hydraPoolGet hspi.hspiArgPool
  let hspi := { hspi with hspiArgPool := hspiArgPool }
  if hspiTaskArgs = 0 then
    return (false, hspiTaskArgs, hspi)
  else if ramxAddressInPool hspi.ramxPool buffer then
    let ramxPool ← ramxTakeOwnership hspi.ramxPool buffer
    return (true, hspiTaskArgs, hspiSetTask { hspi with ramxPool := ramxPool } .hspiSend
      hspiTaskArgs ⟨buffer, u16 size, u16 customRegister⟩)
  else
    let (newBuffer, ramxPool) ← ramxPoolAllocBytes config.ramx hspi.ramxPool hspi.hspiPacketSize
    let hspi := { hspi with ramxPool := ramxPool }
    if newBuffer = 0 then
      return (false, hspiTaskArgs, hspi)
    else
      let memory := memcpyBytes hspi.memory newBuffer buffer (u16 size)
      return (true, hspiTaskArgs, hspiSetTask { hspi with memory := memory } .hspiSend
        hspiTaskArgs ⟨newBuffer, u16 size, u16 customRegister⟩)

/-- What `HSPI_IRQHandler` finds in the registers. -/
structure HspiInterrupt where
  rDone : Bool
  crcOrNumError : Bool
  rxToggle : Bool
  udf0 : U32
  udf1 : U32

/-- The part of the two receive branches up to the new receive buffer. -/
def hspiScheduleRx (hspi : HspiScheduled) (buffer : Nat) (udf : U32) : Option HspiScheduled := do
  let (hspiTaskArgs, hspiArgPool) ← hydraPoolGet hspi.hspiArgPool
  let hspi := { hspi with hspiArgPool := hspiArgPool }
  if hspiTaskArgs = 0 then
    return hspi
  else
    return hspiSetTask hspi .hspiRxCallback hspiTaskArgs
      ⟨buffer, u16 ((udf &&& hspiUserDefinedMask) &&& hspiSerdesTxSizeMask).toNat,
        u16 ((udf &&& hspiUserDefinedMask) >>> 13).toNat⟩

/-- `HSPI_IRQHandler`; its last two branches only clear flags. -/
def hspiIrqHandler (config : HspiConfig) (hspi : HspiScheduled) (interrupt : HspiInterrupt) :
    Option HspiScheduled :=
  if interrupt.rDone then
    if interrupt.crcOrNumError then
      some hspi
    else if interrupt.rxToggle then do
      let hspi ← hspiScheduleRx hspi hspi.hspiRxBuffer0 interrupt.udf0
      let (buffer, ramxPool) ← ramxPoolAllocBytes config.ramx hspi.ramxPool hspi.hspiPacketSize
      return { hspi with ramxPool := ramxPool, hspiRxBuffer0 := buffer, rxAddr0 := buffer }
    else do
      let hspi ← hspiScheduleRx hspi hspi.hspiRxBuffer1 interrupt.udf1
      let (buffer, ramxPool) ← ramxPoolAllocBytes config.ramx hspi.ramxPool hspi.hspiPacketSize
      return { hspi with ramxPool := ramxPool, hspiRxBuffer1 := buffer, rxAddr1 := buffer }
  else
    some hspi

/-- The call `task.task(task.args)`.  The functions of other users, and the user's receive
callback, act on the driver only through calls of their own. -/
def runTask (hspi : HspiScheduled) (txToggle : Bool) (task : Task) : HspiScheduled :=
  match task.task with
  | .hspiSend => hspiSendTask hspi txToggle task.args
  | .hspiRxCallback => hspi
  | .user _ => hspi

def cleanupTask (hspi : HspiScheduled) (task : Task) : Option HspiScheduled :=
  match task.cleanup with
  | some .hspiCleanup => hspiCleanup hspi task.args
  | some (.user _) => some hspi
  | none => some hspi

/-- The loop of `hydra_interrupt_queue_free_all` over the tasks that are left. -/
def freeTasks (hspi : HspiScheduled) : List Task → Option HspiScheduled
  | [] => some hspi
  | task :: rest => do
      let hspi ← cleanupTask { hspi with taskQueue := hspi.taskQueue.dropNextTask } task
      freeTasks hspi rest

def hydraInterruptQueueFreeAll (hspi : HspiScheduled) : Option HspiScheduled :=
  freeTasks hspi hspi.taskQueue.tasks

section Send

variable {config : HspiConfig} {hspi : HspiScheduled} {ptr : Nat} {hspiArgPool : HydraPool}
  (buffer size customRegister : Nat)

theorem hspiSend_noArgs (got : hydraPoolGet hspi.hspiArgPool = some (0, hspiArgPool)) :
    hspiSend config hspi buffer size customRegister =
      some (false, 0, { hspi with hspiArgPool := hspiArgPool }) := by
  simp [hspiSend, got]

variable (got : hydraPoolGet hspi.hspiArgPool = some (ptr, hspiArgPool)) (nonNull : ptr ≠ 0)

include got nonNull

theorem hspiSend_shared {ramxPool : RamxPool}
    (inPool : ramxAddressInPool hspi.ramxPool buffer = true)
    (taken : ramxTakeOwnership hspi.ramxPool buffer = some ramxPool) :
    hspiSend config hspi buffer size customRegister =
      some (true, ptr, hspiSetTask { hspi with hspiArgPool := hspiArgPool, ramxPool := ramxPool }
        .hspiSend ptr ⟨buffer, u16 size, u16 customRegister⟩) := by
  simp [hspiSend, got, nonNull, inPool, taken]

theorem hspiSend_noBuffer {ramxPool : RamxPool}
    (outside : ¬ ramxAddressInPool hspi.ramxPool buffer = true)
    (allocated : ramxPoolAllocBytes config.ramx hspi.ramxPool hspi.hspiPacketSize =
      some (0, ramxPool)) :
    hspiSend config hspi buffer size customRegister =
      some (false, ptr, { hspi with hspiArgPool := hspiArgPool, ramxPool := ramxPool }) := by
  simp [hspiSend, got, nonNull, outside, allocated]

theorem hspiSend_copied {newBuffer : Nat} {ramxPool : RamxPool}
    (outside : ¬ ramxAddressInPool hspi.ramxPool buffer = true)
    (allocated : ramxPoolAllocBytes config.ramx hspi.ramxPool hspi.hspiPacketSize =
      some (newBuffer, ramxPool)) (bufferNonNull : newBuffer ≠ 0) :
    hspiSend config hspi buffer size customRegister =
      some (true, ptr, hspiSetTask
        { hspi with
          hspiArgPool := hspiArgPool
          ramxPool := ramxPool
          memory := memcpyBytes hspi.memory newBuffer buffer (u16 size) }
        .hspiSend ptr ⟨newBuffer, u16 size, u16 customRegister⟩) := by
  simp [hspiSend, got, nonNull, outside, allocated, bufferNonNull]

end Send

def rxBuffer (hspi : HspiScheduled) (rxToggle : Bool) : Nat :=
  if rxToggle then hspi.hspiRxBuffer0 else hspi.hspiRxBuffer1

def setRxBuffer (hspi : HspiScheduled) (rxToggle : Bool) (buffer : Nat) : HspiScheduled :=
  if rxToggle then
    { hspi with hspiRxBuffer0 := buffer, rxAddr0 := buffer }
  else
    { hspi with hspiRxBuffer1 := buffer, rxAddr1 := buffer }

/-- A task's function only writes the transmit registers. -/
theorem runTask_eq (hspi : HspiScheduled) (txToggle : Bool) (task : Task) :
    ∃ txAddr0 txAddr1 udf0 udf1, runTask hspi txToggle task =
      { hspi with txAddr0 := txAddr0, txAddr1 := txAddr1, udf0 := udf0, udf1 := udf1 } := by
  unfold runTask hspiSendTask
  cases task.task with
  | hspiSend =>
      dsimp only
      split
      · exact ⟨_, _, _, _, rfl⟩
      · cases txToggle with
        | true => exact ⟨_, _, _, _, rfl⟩
        | false => exact ⟨_, _, _, _, rfl⟩
  | hspiRxCallback => exact ⟨_, _, _, _, rfl⟩
  | user address => exact ⟨_, _, _, _, rfl⟩

section SetRxBuffer

variable (hspi : HspiScheduled) (rxToggle : Bool) (buffer : Nat)

@[simp] theorem setRxBuffer_ramxPool :
    (setRxBuffer hspi rxToggle buffer).ramxPool = hspi.ramxPool := by
  cases rxToggle <;> rfl

@[simp] theorem setRxBuffer_hspiArgPool :
    (setRxBuffer hspi rxToggle buffer).hspiArgPool = hspi.hspiArgPool := by
  cases rxToggle <;> rfl

@[simp] theorem setRxBuffer_args : (setRxBuffer hspi rxToggle buffer).args = hspi.args := by
  cases rxToggle <;> rfl

@[simp] theorem setRxBuffer_taskQueue :
    (setRxBuffer hspi rxToggle buffer).taskQueue = hspi.taskQueue := by
  cases rxToggle <;> rfl

end SetRxBuffer

def rxContents (buffer : Nat) (interrupt : HspiInterrupt) : HspiArgs :=
  let udf := if interrupt.rxToggle then interrupt.udf0 else interrupt.udf1
  ⟨buffer, u16 ((udf &&& hspiUserDefinedMask) &&& hspiSerdesTxSizeMask).toNat,
    u16 ((udf &&& hspiUserDefinedMask) >>> 13).toNat⟩

@[simp] theorem rxContents_buffer (buffer : Nat) (interrupt : HspiInterrupt) :
    (rxContents buffer interrupt).buffer = buffer := rfl

/-- Both branches for a good packet: its buffer goes to a task, if there is an argument block,
and a new buffer takes its place. -/
theorem hspiIrqHandler_receive {config : HspiConfig} {hspi : HspiScheduled}
    {interrupt : HspiInterrupt} {ptr newBuffer : Nat} {hspiArgPool : HydraPool}
    {ramxPool : RamxPool} (received : interrupt.rDone = true)
    (good : interrupt.crcOrNumError = false)
    (got : hydraPoolGet hspi.hspiArgPool = some (ptr, hspiArgPool))
    (allocated : ramxPoolAllocBytes config.ramx hspi.ramxPool hspi.hspiPacketSize =
      some (newBuffer, ramxPool)) :
    hspiIrqHandler config hspi interrupt =
      some (if ptr = 0 then
          setRxBuffer { hspi with hspiArgPool := hspiArgPool, ramxPool := ramxPool }
            interrupt.rxToggle newBuffer
        else
          hspiSetTask
            (setRxBuffer { hspi with hspiArgPool := hspiArgPool, ramxPool := ramxPool }
              interrupt.rxToggle newBuffer)
            .hspiRxCallback ptr (rxContents (rxBuffer hspi interrupt.rxToggle) interrupt)) := by
  unfold hspiIrqHandler hspiScheduleRx setRxBuffer rxContents rxBuffer
  rw [if_pos received, if_neg (by simp [good]), got]
  by_cases null : ptr = 0 <;> cases toggle : interrupt.rxToggle <;>
    simp [null, allocated, hspiSetTask]

/-- Other interrupts leave the driver alone. -/
theorem hspiIrqHandler_other {config : HspiConfig} {hspi : HspiScheduled}
    {interrupt : HspiInterrupt}
    (other : ¬ (interrupt.rDone = true ∧ interrupt.crcOrNumError = false)) :
    hspiIrqHandler config hspi interrupt = some hspi := by
  unfold hspiIrqHandler
  cases received : interrupt.rDone <;> cases error : interrupt.crcOrNumError <;> simp_all

end WchCh56x.Hspi
