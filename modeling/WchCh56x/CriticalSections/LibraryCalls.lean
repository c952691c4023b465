import WchCh56x.CriticalSections.Drivers
import WchCh56x.Usb.CallEffects

/-!
# Library calls restore the critical sections

Every call leaves the nesting as it found it, except the one of
`endp_tx_set_new_buffer` that finds no buffer for endpoint 0.
-/

namespace WchCh56x.CriticalSections

open Support Guarded Hspi InterruptQueue Usb

/-! ## `usb/usb_device.h` -/

section Usb

variable (endpNum : Fin 16) (ptr size : Nat)

def endpTxSetNewBuffer : Guarded Usb2Driver Bool := do
  enter
  let ep ← lift fun driver => some (driver.device.tx endpNum, driver)
  if ep.maxPacketSizeWithBurst < size ∨ ptr = 0 then do
    exit
    return false
  else do
    lift fun driver => some ((), driver.setTx endpNum { ep with buffer := ptr })
    let endp0Buffer ← lift fun driver => some (driver.endp0Buffer, driver)
    if endpNum = 0 ∧ endp0Buffer = 0 then
      -- returns inside the critical section
      return false
    else do
      lift fun driver => some ((), (driver.copyToEndp0 endpNum ptr size).endpTxReady endpNum size)
      exit
      return true

/-- The transfer would be accepted, but endpoint 0 has no buffer to copy it to. -/
def NoEndp0Buffer (driver : Usb2Driver) : Prop :=
  ¬ ((driver.device.tx endpNum).maxPacketSizeWithBurst < size ∨ ptr = 0) ∧ endpNum = 0 ∧
    driver.endp0Buffer = 0

variable {endpNum ptr size} {driver : Usb2Driver} (critical : Critical)

/-- Without a buffer the call returns with the section entered. -/
theorem endpTxSetNewBuffer_inside (noBuffer : NoEndp0Buffer endpNum ptr size driver) :
    ∃ after, endpTxSetNewBuffer endpNum ptr size (critical, driver) =
      some (false, critical.enter, after) := by
  obtain ⟨accepted, rfl, null⟩ := noBuffer
  have stillNull : (driver.setTx 0 { driver.device.tx 0 with buffer := ptr }).endp0Buffer = 0 := null
  refine ⟨driver.setTx 0 { driver.device.tx 0 with buffer := ptr }, ?_⟩
  simp [endpTxSetNewBuffer, accepted, stillNull]

theorem endpTxSetNewBuffer_restores (buffered : ¬ NoEndp0Buffer endpNum ptr size driver)
    {result : Bool} {after : Critical × Usb2Driver}
    (ran : endpTxSetNewBuffer endpNum ptr size (critical, driver) = some (result, after)) :
    critical.Restores after.1 := by
  by_cases refused : (driver.device.tx endpNum).maxPacketSizeWithBurst < size ∨ ptr = 0
  · simp [endpTxSetNewBuffer, refused] at ran
    obtain ⟨_, rfl⟩ := ran
    exact Critical.restores_of_leaves critical.enter.exit_leaves
  · have present : ¬ (endpNum = 0 ∧
        (driver.setTx endpNum { driver.device.tx endpNum with buffer := ptr }).endp0Buffer = 0) :=
      fun none => buffered ⟨refused, none⟩
    simp [endpTxSetNewBuffer, refused, present] at ran
    obtain ⟨_, rfl⟩ := ran
    exact Critical.restores_of_leaves critical.enter.exit_leaves

def withCritical (driver : Usb2Driver) (nesting : Nat) (interruptsEnabled : Bool) : Usb2Driver :=
  { driver with criticalNesting := nesting, interruptsEnabled := interruptsEnabled }

theorem endpTxReady_withCritical (driver : Usb2Driver) (nesting : Nat)
    (interruptsEnabled : Bool) :
    (withCritical driver nesting interruptsEnabled).endpTxReady endpNum size =
      withCritical (driver.endpTxReady endpNum size) nesting interruptsEnabled := by
  unfold Usb2Driver.endpTxReady
  by_cases usb3 : driver.device.speed = .usb30Superspeed
  · rw [if_pos usb3]
    refine (if_pos usb3).trans ?_
    simp only [withCritical]
    cases usb3EndpTxReady (driver.device.tx endpNum) driver.usb30 endpNum size with
    | none => rfl
    | some usb30 => rfl
  · rw [if_neg usb3]
    refine (if_neg usb3).trans ?_
    unfold Usb2Driver.usb2EndpTxReady
    dsimp only
    split
    · rfl
    · rfl

theorem copyToEndp0_withCritical (driver : Usb2Driver) (nesting : Nat) (interruptsEnabled : Bool) :
    (withCritical driver nesting interruptsEnabled).copyToEndp0 endpNum ptr size =
      withCritical (driver.copyToEndp0 endpNum ptr size) nesting interruptsEnabled := by
  unfold Usb2Driver.copyToEndp0
  split
  · rfl
  · rfl

/-- Without its sections, the call does what it does to the driver. -/
theorem endpTxSetNewBuffer_computes (driver : Usb2Driver) :
    ∃ outcome after nesting interruptsEnabled,
      endpTxSetNewBuffer endpNum ptr size (critical, driver) =
        some ((driver.endpTxSetNewBuffer endpNum ptr size).1, outcome, after) ∧
      (driver.endpTxSetNewBuffer endpNum ptr size).2 =
        withCritical after nesting interruptsEnabled := by
  by_cases refused : (driver.device.tx endpNum).maxPacketSizeWithBurst < size ∨ ptr = 0
  · rw [driver.endpTxSetNewBuffer_of_tooLong refused]
    refine ⟨critical.enter.exit, driver, driver.enterCritical.exitCritical.criticalNesting,
      driver.enterCritical.exitCritical.interruptsEnabled, ?_, rfl⟩
    simp [endpTxSetNewBuffer, refused]
  by_cases noBuffer : endpNum = 0 ∧ driver.endp0Buffer = 0
  · obtain ⟨rfl, null⟩ := noBuffer
    have stillNull : (driver.setTx 0 { driver.device.tx 0 with buffer := ptr }).endp0Buffer = 0 :=
      null
    rw [driver.endpTxSetNewBuffer_of_noBuffer refused null]
    refine ⟨critical.enter, driver.setTx 0 { driver.device.tx 0 with buffer := ptr },
      driver.enterCritical.criticalNesting, driver.enterCritical.interruptsEnabled, ?_, rfl⟩
    simp [endpTxSetNewBuffer, refused, stillNull]
  · have present : ¬ (endpNum = 0 ∧
        (driver.setTx endpNum { driver.device.tx endpNum with buffer := ptr }).endp0Buffer = 0) :=
      noBuffer
    have accepts : driver.config.Accepts endpNum ptr size :=
      ⟨Nat.not_lt.mp fun long => refused (.inl long), fun null => refused (.inr null),
        fun control null => noBuffer ⟨control, null⟩⟩
    have filled : driver.bufferSet endpNum ptr size = withCritical ((driver.setTx endpNum
        { driver.device.tx endpNum with buffer := ptr }).copyToEndp0 endpNum ptr size)
          (driver.criticalNesting + 1) false :=
      copyToEndp0_withCritical (driver.setTx endpNum
        { driver.device.tx endpNum with buffer := ptr }) (driver.criticalNesting + 1) false
    rw [driver.endpTxSetNewBuffer_of_accepts accepts, filled, endpTxReady_withCritical]
    refine ⟨critical.enter.exit, ((driver.setTx endpNum
      { driver.device.tx endpNum with buffer := ptr }).copyToEndp0 endpNum ptr size).endpTxReady
        endpNum size, driver.criticalNesting, driver.criticalNesting == 0, ?_, rfl⟩
    simp [endpTxSetNewBuffer, refused, present]

end Usb

/-! ## The calls -/

inductive LibraryCall where
  | fifoRead (fifo : Memory.HydraFifo)
  | fifoReadN (fifo : Memory.HydraFifo) (n : Nat)
  | fifoPeekN (fifo : Memory.HydraFifo) (n : Nat)
  | fifoWrite (fifo : Memory.HydraFifo) (source : List U8) (n : Nat)
  | fifoClean (fifo : Memory.HydraFifo)
  | hydraPoolGet (pool : Memory.HydraPool)
  | hydraPoolFree (pool : Memory.HydraPool) (ptr : Nat)
  | hydraPoolClean (pool : Memory.HydraPool)
  | poolInit (pool : Memory.RamPool)
  | poolAllocBlocks (pool : Memory.RamPool) (numBlocks : Nat)
  | poolAllocBytes (pool : Memory.RamPool) (numBytes : Nat)
  | poolFree (pool : Memory.RamPool) (ptr : Nat)
  | ramxPoolAllocBlocks (pool : Memory.RamxPool) (numBlocks : Nat)
  | ramxPoolAllocBytes (pool : Memory.RamxPool) (numBytes : Nat)
  | ramxTakeOwnership (pool : Memory.RamxPool) (ptr : Nat)
  | ramxPoolFree (pool : Memory.RamxPool) (ptr : Nat)
  | endpTxSetNewBuffer (driver : Usb2Driver) (endpNum : Fin 16) (ptr size : Nat)
  | hspiSend (hspi : HspiScheduled) (buffer size customRegister : Nat)
  | hspiSendTask (hspi : HspiScheduled) (txToggle : Bool) (data : Nat)
  | hydraInterruptQueueInit (queue : TaskQueue Task)
  | hydraInterruptQueueSetNextTask (queue : TaskQueue Task) (task : Task)
  | hydraInterruptQueuePeekNextTask (queue : TaskQueue Task)
  | hydraInterruptQueueRun (hspi : HspiScheduled) (txToggle : Bool)
  | hydraInterruptQueueFreeAll (hspi : HspiScheduled) (turns : Nat)

/-- What a computation that returns does to the critical sections. -/
def sections {State Result : Type} (op : Guarded State Result) (state : State)
    (critical : Critical) : Option Critical :=
  (op (critical, state)).map fun outcome => outcome.2.1

namespace LibraryCall

variable (user : UserCode) (config : HspiConfig) (logs : Bool)

def perform : LibraryCall → Critical → Option Critical
  | fifoRead fifo => sections CriticalSections.fifoRead fifo
  | fifoReadN fifo n => sections (CriticalSections.fifoReadN n) fifo
  | fifoPeekN fifo n => sections (CriticalSections.fifoPeekN n) fifo
  | fifoWrite fifo source n => sections (CriticalSections.fifoWrite source n) fifo
  | fifoClean fifo => sections CriticalSections.fifoClean fifo
  | hydraPoolGet pool => sections (CriticalSections.hydraPoolGet logs) pool
  | hydraPoolFree pool ptr => sections (CriticalSections.hydraPoolFree ptr) pool
  | hydraPoolClean pool => sections CriticalSections.hydraPoolClean pool
  | poolInit pool => sections (CriticalSections.poolInit config.ramx) pool
  | poolAllocBlocks pool numBlocks =>
      sections (CriticalSections.poolAllocBlocks config.ramx numBlocks) pool
  | poolAllocBytes pool numBytes =>
      sections (CriticalSections.poolAllocBytes config.ramx numBytes) pool
  | poolFree pool ptr => sections (CriticalSections.poolFree ptr) pool
  | ramxPoolAllocBlocks pool numBlocks =>
      sections (CriticalSections.ramxPoolAllocBlocks config.ramx numBlocks) pool
  | ramxPoolAllocBytes pool numBytes =>
      sections (CriticalSections.ramxPoolAllocBytes config.ramx logs numBytes) pool
  | ramxTakeOwnership pool ptr => sections (CriticalSections.ramxTakeOwnership logs ptr) pool
  | ramxPoolFree pool ptr => sections (CriticalSections.ramxPoolFree logs ptr) pool
  | endpTxSetNewBuffer driver endpNum ptr size =>
      sections (CriticalSections.endpTxSetNewBuffer endpNum ptr size) driver
  | hspiSend hspi buffer size customRegister =>
      sections (CriticalSections.hspiSend config logs buffer size customRegister) hspi
  | hspiSendTask hspi txToggle data =>
      sections (CriticalSections.hspiSendTask logs txToggle data) hspi
  | hydraInterruptQueueInit queue => sections CriticalSections.hydraInterruptQueueInit queue
  | hydraInterruptQueueSetNextTask queue task =>
      sections (CriticalSections.setNextTask logs task) queue
  | hydraInterruptQueuePeekNextTask queue => sections CriticalSections.peekNextTask queue
  | hydraInterruptQueueRun hspi txToggle =>
      sections (CriticalSections.hydraInterruptQueueRun user logs txToggle) hspi
  | hydraInterruptQueueFreeAll hspi turns =>
      sections (CriticalSections.hydraInterruptQueueFreeAll user logs turns) hspi

/-- The call that finds no buffer for endpoint 0. -/
def FindsNoBuffer : LibraryCall → Prop
  | endpTxSetNewBuffer driver endpNum ptr size => NoEndp0Buffer endpNum ptr size driver
  | _ => False

variable {user} {config} {logs} {critical after : Critical}

theorem sections_restores {State Result : Type} {op : Guarded State Result}
    (balanced : Balanced op) {state : State} (returns : sections op state critical = some after) :
    critical.Restores after := by
  obtain ⟨⟨result, outcome⟩, ran, rfl⟩ := Option.map_eq_some_iff.mp returns
  exact balanced critical state result outcome ran

/-- A call that finds its buffers enters and leaves its sections. -/
theorem perform_restores {call : LibraryCall} (buffered : ¬ call.FindsNoBuffer)
    (returns : call.perform user config logs critical = some after) :
    critical.Restores after := by
  cases call with
  | fifoRead | fifoReadN | fifoPeekN | fifoWrite | fifoClean | hydraPoolClean | poolInit
  | hydraInterruptQueueInit | hydraInterruptQueuePeekNextTask =>
      exact sections_restores (inSection_balanced _) returns
  | hydraPoolGet => exact sections_restores (hydraPoolGet_balanced logs) returns
  | hydraPoolFree pool ptr => exact sections_restores (hydraPoolFree_balanced ptr) returns
  | poolAllocBlocks | poolAllocBytes =>
      exact sections_restores (poolAllocBlocks_balanced config.ramx _) returns
  | poolFree pool ptr => exact sections_restores (poolFree_balanced ptr) returns
  | ramxPoolAllocBlocks =>
      exact sections_restores (ramxPoolAllocBlocks_balanced config.ramx _) returns
  | ramxPoolAllocBytes =>
      exact sections_restores (ramxPoolAllocBytes_balanced config.ramx logs _) returns
  | ramxTakeOwnership pool ptr =>
      exact sections_restores (ramxTakeOwnership_balanced logs ptr) returns
  | ramxPoolFree pool ptr => exact sections_restores (ramxPoolFree_balanced logs ptr) returns
  | endpTxSetNewBuffer =>
      obtain ⟨_, ran, rfl⟩ := Option.map_eq_some_iff.mp returns
      exact endpTxSetNewBuffer_restores critical buffered ran
  | hspiSend => exact sections_restores (hspiSend_balanced config logs _ _ _) returns
  | hspiSendTask => exact sections_restores (hspiSendTask_balanced logs _ _) returns
  | hydraInterruptQueueSetNextTask =>
      exact sections_restores (setNextTask_balanced logs _) returns
  | hydraInterruptQueueRun =>
      exact sections_restores (hydraInterruptQueueRun_balanced user logs _) returns
  | hydraInterruptQueueFreeAll =>
      exact sections_restores (hydraInterruptQueueFreeAll_balanced user logs _) returns

end LibraryCall

/-- The nesting is what it was, and interrupts are enabled at level zero after a section. -/
def LeftAsFound (before after : Critical) : Prop :=
  after.nesting = before.nesting ∧
    (before.nesting = 0 → before.entered < after.entered → after.interruptsEnabled = true)

theorem leftAsFound_of_restores {before after : Critical} (restores : before.Restores after) :
    LeftAsFound before after := by
  rcases restores with rfl | ⟨_, same, enabled⟩
  · exact ⟨rfl, fun _ more => absurd more (Nat.lt_irrefl _)⟩
  · exact ⟨same, fun zero _ => enabled zero⟩

/-- A call that returns leaves the critical sections as it found them exactly if it is not the
one that finds no buffer for endpoint 0. -/
theorem library_call_leaves_as_found_iff (user : UserCode) (config : HspiConfig) (logs : Bool)
    (call : LibraryCall) (critical after : Critical)
    (returns : call.perform user config logs critical = some after) :
    LeftAsFound critical after ↔ ¬ call.FindsNoBuffer := by
  constructor
  · intro left noBuffer
    cases call with
    | endpTxSetNewBuffer driver endpNum ptr size =>
        obtain ⟨outcome, ran⟩ := endpTxSetNewBuffer_inside critical noBuffer
        rw [LibraryCall.perform, sections, ran] at returns
        obtain rfl := Option.some.inj returns
        have same : critical.nesting + 1 = critical.nesting := left.1
        simp at same
    | _ => exact noBuffer
  · exact fun buffered => leftAsFound_of_restores (LibraryCall.perform_restores buffered returns)

def UserCode.idle : UserCode where
  hspiRxCallback _ := pure ()
  task _ _ := pure ()
  cleanup _ _ := pure ()
  hspiRxCallback_balanced _ := .pure ()
  task_balanced _ _ := .pure ()
  cleanup_balanced _ _ := .pure ()

/-- Eight blocks of sixteen bytes and a task queue of one task. -/
def smallConfig : HspiConfig := Hspi.oneTask

/-- A free of `NULL`, which returns early. -/
theorem pool_free_null_leaves_as_found :
    LeftAsFound ⟨0, true, 0⟩ ⟨0, true, 1⟩ :=
  (library_call_leaves_as_found_iff .idle smallConfig false
    (.poolFree (Memory.poolInit smallConfig.ramx) 0) ⟨0, true, 0⟩ ⟨0, true, 1⟩ rfl).mpr id

/-- A device whose endpoint 0 has a packet size and no buffer. -/
def unbufferedDriver : Usb2Driver :=
  Usb2Driver.initial { usbDevice0 with tx := fun _ => ⟨0, 1, 64, 64, 0⟩ } fun _ => 0

/-- A transfer on it leaves interrupts disabled at level one. -/
theorem endp_tx_set_new_buffer_returns_inside :
    LibraryCall.perform .idle smallConfig false (.endpTxSetNewBuffer unbufferedDriver 0 4096 8)
        ⟨0, true, 0⟩ = some ⟨1, false, 1⟩ ∧
      ¬ LeftAsFound ⟨0, true, 0⟩ ⟨1, false, 1⟩ := by
  refine ⟨by decide, fun left => ?_⟩
  exact absurd left.1 (by decide)

end WchCh56x.CriticalSections
