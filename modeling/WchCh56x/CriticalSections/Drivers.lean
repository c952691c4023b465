import WchCh56x.CriticalSections.Memory
import WchCh56x.Hspi.Scheduled
import WchCh56x.Usb.Driver

/-!
# The critical sections of the drivers and of the interrupt queue

The functions of the user that the drivers call are parameters: they may do what
they like to the driver, but leave the critical sections as they find them.
-/

namespace WchCh56x.CriticalSections

open Support Guarded Hspi InterruptQueue

/-- The user's functions that `hydra_interrupt_queue_run` comes to call. -/
structure UserCode where
  hspiRxCallback : HspiArgs → Guarded HspiScheduled Unit
  task : Nat → Nat → Guarded HspiScheduled Unit
  cleanup : Nat → Nat → Guarded HspiScheduled Unit
  hspiRxCallback_balanced : ∀ args, Balanced (hspiRxCallback args)
  task_balanced : ∀ address args, Balanced (task address args)
  cleanup_balanced : ∀ address args, Balanced (cleanup address args)

section Hspi

variable {Result : Type}

def onArgPool (op : Guarded Memory.HydraPool Result) : Guarded HspiScheduled Result :=
  op.on HspiScheduled.hspiArgPool fun pool hspi => { hspi with hspiArgPool := pool }

def onRamxPool (op : Guarded Memory.RamxPool Result) : Guarded HspiScheduled Result :=
  op.on HspiScheduled.ramxPool fun pool hspi => { hspi with ramxPool := pool }

def onTaskQueue (op : Guarded (TaskQueue Task) Result) : Guarded HspiScheduled Result :=
  op.on HspiScheduled.taskQueue fun queue hspi => { hspi with taskQueue := queue }

/-! ## `interrupt_queue/interrupt_queue.h` -/

variable (user : UserCode) (config : HspiConfig) (logs : Bool)

def hydraInterruptQueueInit : Guarded (TaskQueue Task) Unit :=
  inSection fun queue => some ((), TaskQueue.empty queue.capacity)

def setNextTask (task : Task) : Guarded (TaskQueue Task) Bool := do
  logIf logs
  let written ← inSection fun queue => some (queue.setNextTask task)
  if written = false then do
    logIf logs
    return false
  else
    return true

/-- `hydra_interrupt_queue_peek_next_task_prio0` -/
def peekNextTask : Guarded (TaskQueue Task) (Option Task) :=
  inSection fun queue => some (queue.peekNextTask, queue)

/-- `fifo_read_n(&task_queue, &task, 1)` -/
def readTask : Guarded (TaskQueue Task) (Option Task) :=
  inSection fun queue => some (queue.peekNextTask, queue.dropNextTask)

/-! ## `hspi_scheduled/hspi_scheduled.c` -/

def hspiSetTask (function : TaskFunction) (hspiTaskArgs : Nat) (contents : HspiArgs) :
    Guarded HspiScheduled Unit := do
  lift fun hspi =>
    some ((), { hspi with args := Function.update hspi.args hspiTaskArgs contents })
  let _ ← onTaskQueue (setNextTask logs ⟨function, hspiTaskArgs, some .hspiCleanup⟩)

def hspiSend (buffer size customRegister : Nat) : Guarded HspiScheduled (Bool × Nat) := do
  let hspiTaskArgs ← onArgPool (hydraPoolGet logs)
  if hspiTaskArgs = 0 then
    return (false, hspiTaskArgs)
  else do
    let inPool ← lift fun hspi => some (Memory.ramxAddressInPool hspi.ramxPool buffer, hspi)
    if inPool = true then do
      onRamxPool (ramxTakeOwnership logs buffer)
      hspiSetTask logs .hspiSend hspiTaskArgs ⟨buffer, u16 size, u16 customRegister⟩
      return (true, hspiTaskArgs)
    else do
      let hspiPacketSize ← lift fun hspi => some (hspi.hspiPacketSize, hspi)
      let newBuffer ← onRamxPool (ramxPoolAllocBytes config.ramx logs hspiPacketSize)
      if newBuffer = 0 then
        return (false, hspiTaskArgs)
      else do
        lift fun hspi =>
          some ((), { hspi with memory := memcpyBytes hspi.memory newBuffer buffer (u16 size) })
        hspiSetTask logs .hspiSend hspiTaskArgs ⟨newBuffer, u16 size, u16 customRegister⟩
        return (true, hspiTaskArgs)

/-- `_hspi_send`, when its wait for the transmission has ended. -/
def hspiSendTask (txToggle : Bool) (data : Nat) : Guarded HspiScheduled Bool := do
  if data = 0 then
    return false
  else do
    inSection fun hspi => some ((), Hspi.hspiSendTask hspi txToggle data)
    match ← onTaskQueue peekNextTask with
    | some next => do
        if next.task = .hspiSend then
          logIf logs
        return true
    | none => return true

def hspiRxCallback (data : Nat) : Guarded HspiScheduled Bool := do
  if data = 0 then
    return false
  else do
    let args ← lift fun hspi => some (hspi.args data, hspi)
    user.hspiRxCallback args
    return true

def hspiCleanup (data : Nat) : Guarded HspiScheduled Unit := do
  let buffer ← lift fun hspi => some ((hspi.args data).buffer, hspi)
  onRamxPool (ramxPoolFree logs buffer)
  onArgPool (hydraPoolFree data)

/-! ## The tasks of the queue -/

def runTask (txToggle : Bool) (task : Task) : Guarded HspiScheduled Unit :=
  match task.task with
  | .hspiSend => do let _ ← hspiSendTask logs txToggle task.args
  | .hspiRxCallback => do let _ ← hspiRxCallback user task.args
  | .user address => user.task address task.args

def cleanupTask (task : Task) : Guarded HspiScheduled Unit :=
  match task.cleanup with
  | some .hspiCleanup => hspiCleanup logs task.args
  | some (.user address) => user.cleanup address task.args
  | none => pure ()

def hydraInterruptQueueRun (txToggle : Bool) : Guarded HspiScheduled Unit := do
  logIf logs
  match ← onTaskQueue readTask with
  | some task => do
      logIf logs
      runTask user logs txToggle task
      cleanupTask user logs task
  | none => return ()

/-- `hydra_interrupt_queue_free_all`, where its loop ends within `turns` turns. -/
def hydraInterruptQueueFreeAll : Nat → Guarded HspiScheduled Unit
  | 0 => lift fun _ => none
  | turns + 1 => do
      match ← onTaskQueue readTask with
      | some task => do
          cleanupTask user logs task
          hydraInterruptQueueFreeAll turns
      | none => return ()

theorem setNextTask_balanced (task : Task) : Balanced (setNextTask logs task) := by
  refine .bind (logIf_balanced logs) fun _ => .bind (inSection_balanced _) fun written => ?_
  exact ends_ite (Balanced.bind (logIf_balanced logs) fun _ => .pure false) (Balanced.pure true)

theorem hspiSetTask_balanced (function : TaskFunction) (hspiTaskArgs : Nat)
    (contents : HspiArgs) : Balanced (hspiSetTask logs function hspiTaskArgs contents) :=
  Balanced.bind (.lift _) fun _ => .bind ((setNextTask_balanced logs _).on _ _) fun _ => .pure ()

theorem hspiSend_balanced (buffer size customRegister : Nat) :
    Balanced (hspiSend config logs buffer size customRegister) := by
  refine .bind ((hydraPoolGet_balanced logs).on _ _) fun hspiTaskArgs => ?_
  refine ends_ite (Balanced.pure _) (Balanced.bind (.lift _) fun inPool => ?_)
  refine ends_ite ?_ ?_
  · exact Balanced.bind ((ramxTakeOwnership_balanced logs buffer).on _ _) fun _ =>
      .bind (hspiSetTask_balanced logs _ _ _) fun _ => .pure _
  · refine Balanced.bind (.lift _) fun hspiPacketSize =>
      .bind ((ramxPoolAllocBytes_balanced config.ramx logs hspiPacketSize).on _ _) fun newBuffer => ?_
    exact ends_ite (Balanced.pure _) (Balanced.bind (.lift _) fun _ =>
      .bind (hspiSetTask_balanced logs _ _ _) fun _ => .pure _)

theorem hspiSendTask_balanced (txToggle : Bool) (data : Nat) :
    Balanced (hspiSendTask logs txToggle data) := by
  refine ends_ite (Balanced.pure _) (Balanced.bind (inSection_balanced _) fun _ =>
    .bind ((inSection_balanced _).on _ _) fun next => ?_)
  cases next with
  | none => exact .pure true
  | some task => exact ends_ite (Balanced.bind (logIf_balanced logs) fun _ => .pure true) (Balanced.pure true)

theorem hspiRxCallback_balanced (data : Nat) : Balanced (hspiRxCallback user data) :=
  ends_ite (Balanced.pure _) (Balanced.bind (.lift _) fun args =>
    .bind (user.hspiRxCallback_balanced args) fun _ => .pure _)

theorem hspiCleanup_balanced (data : Nat) : Balanced (hspiCleanup logs data) :=
  Balanced.bind (.lift _) fun buffer => .bind ((ramxPoolFree_balanced logs buffer).on _ _) fun _ =>
    (hydraPoolFree_balanced data).on _ _

theorem runTask_balanced (txToggle : Bool) (task : Task) :
    Balanced (runTask user logs txToggle task) := by
  unfold runTask
  cases task.task with
  | hspiSend => exact .bind (hspiSendTask_balanced logs txToggle _) fun _ => .pure ()
  | hspiRxCallback => exact .bind (hspiRxCallback_balanced user _) fun _ => .pure ()
  | user address => exact user.task_balanced address _

theorem cleanupTask_balanced (task : Task) : Balanced (cleanupTask user logs task) := by
  unfold cleanupTask
  cases task.cleanup with
  | none => exact .pure ()
  | some function =>
      cases function with
      | hspiCleanup => exact hspiCleanup_balanced logs _
      | user address => exact user.cleanup_balanced address _

theorem hydraInterruptQueueRun_balanced (txToggle : Bool) :
    Balanced (hydraInterruptQueueRun user logs txToggle) := by
  refine .bind (logIf_balanced logs) fun _ => .bind ((inSection_balanced _).on _ _) fun next => ?_
  cases next with
  | none => exact .pure ()
  | some task =>
      exact .bind (logIf_balanced logs) fun _ => .bind (runTask_balanced user logs txToggle task)
        fun _ => cleanupTask_balanced user logs task

theorem hydraInterruptQueueFreeAll_balanced (turns : Nat) :
    Balanced (hydraInterruptQueueFreeAll user logs turns) := by
  induction turns with
  | zero => exact .lift _
  | succ turns ih =>
      refine .bind ((inSection_balanced _).on _ _) fun next => ?_
      cases next with
      | none => exact .pure ()
      | some task => exact .bind (cleanupTask_balanced user logs task) fun _ => ih

theorem hspiSetTask_computes (function : TaskFunction) (hspiTaskArgs : Nat)
    (contents : HspiArgs) :
    Computes (hspiSetTask logs function hspiTaskArgs contents) fun hspi =>
      some ((), Hspi.hspiSetTask hspi function hspiTaskArgs contents) := by
  intro critical hspi
  cases written : (hspi.taskQueue.setNextTask
    ⟨function, hspiTaskArgs, some .hspiCleanup⟩).1
  all_goals
    cases logs <;> simp [hspiSetTask, Hspi.hspiSetTask, onTaskQueue, setNextTask, logIf, inSection,
      written]

/-- Without its sections, `hspi_send` is the function of the HSPI driver. -/
theorem hspiSend_computes (buffer size customRegister : Nat) :
    Computes (hspiSend config logs buffer size customRegister) fun hspi =>
      (Hspi.hspiSend config hspi buffer size customRegister).map fun outcome =>
        ((outcome.1, outcome.2.1), outcome.2.2) := by
  intro critical hspi
  unfold Hspi.hspiSend
  cases got : Memory.hydraPoolGet hspi.hspiArgPool with
  | none => simp [hspiSend, onArgPool, got, (hydraPoolGet_computes logs).run_none critical got]
  | some outcome =>
    obtain ⟨middle, ran⟩ := (hydraPoolGet_computes logs).run_some critical got
    by_cases noArgs : outcome.1 = 0
    · simp [hspiSend, onArgPool, got, ran, noArgs]
    have task (function : TaskFunction) (contents : HspiArgs) (critical : Critical)
        (hspi : HspiScheduled) := (hspiSetTask_computes logs function outcome.1 contents).run_some
      critical (rfl : some ((), Hspi.hspiSetTask hspi function outcome.1 contents) = _)
    by_cases inPool : Memory.ramxAddressInPool hspi.ramxPool buffer = true
    · cases taken : Memory.ramxTakeOwnership hspi.ramxPool buffer with
      | none =>
          have ranTake := (ramxTakeOwnership_computes logs buffer).run_none middle
            (Option.map_eq_none_iff.mpr taken)
          simp [hspiSend, onArgPool, got, onRamxPool, ran, noArgs, inPool, taken, ranTake]
      | some ramxPool =>
          obtain ⟨later, ranTake⟩ := (ramxTakeOwnership_computes logs buffer).run_some middle
            (congrArg (Option.map _) taken)
          obtain ⟨last, ranTask⟩ := task .hspiSend ⟨buffer, u16 size, u16 customRegister⟩ later
            { hspi with hspiArgPool := outcome.2, ramxPool := ramxPool }
          simp [hspiSend, onArgPool, got, onRamxPool, ran, noArgs, inPool, taken, ranTake, ranTask]
    · cases allocated : Memory.ramxPoolAllocBytes config.ramx hspi.ramxPool hspi.hspiPacketSize with
      | none =>
          have ranAlloc := (ramxPoolAllocBytes_computes config.ramx logs _).run_none middle allocated
          simp [hspiSend, onArgPool, got, onRamxPool, ran, noArgs, inPool, allocated, ranAlloc]
      | some granted =>
          obtain ⟨later, ranAlloc⟩ :=
            (ramxPoolAllocBytes_computes config.ramx logs _).run_some middle allocated
          by_cases noBuffer : granted.1 = 0
          · simp [hspiSend, onArgPool, got, onRamxPool, ran, noArgs, inPool, allocated, ranAlloc,
              noBuffer]
          · obtain ⟨last, ranTask⟩ := task .hspiSend ⟨granted.1, u16 size, u16 customRegister⟩ later
              { hspi with
                hspiArgPool := outcome.2
                ramxPool := granted.2
                memory := memcpyBytes hspi.memory granted.1 buffer (u16 size) }
            simp [hspiSend, onArgPool, got, onRamxPool, ran, noArgs, inPool, allocated, ranAlloc,
              noBuffer, ranTask]

end Hspi

end WchCh56x.CriticalSections
