import WchCh56x.Support.Runs
import WchCh56x.Usb.Interleaving

/-!
# The buffers handed to `endp_tx_set_new_buffer`

A refused buffer should leave no trace.  The bytes of a buffer for endpoint 0 are
copied to the buffer that both directions share, and sent from where the DMA pointer
stands; the pointer moves with each packet but the last.
-/

namespace WchCh56x.Usb

/-! ## Refused buffers -/

namespace Usb2Driver

variable (driver : Usb2Driver)

/-- If the call returns `false`, the interrupt enable is all that may differ after it. -/
def RefusalChangesNothing (endpNum : Fin 16) (ptr size : Nat) : Prop :=
  (driver.endpTxSetNewBuffer endpNum ptr size).1 = false →
    (driver.endpTxSetNewBuffer endpNum ptr size).2 =
      { driver with
        interruptsEnabled := (driver.endpTxSetNewBuffer endpNum ptr size).2.interruptsEnabled }

/-- The refusal inside the critical section keeps it entered. -/
theorem criticalNesting_of_noBuffer {ptr size : Nat}
    (fits : ¬((driver.device.tx 0).maxPacketSizeWithBurst < size ∨ ptr = 0))
    (noBuffer : driver.endp0Buffer = 0) :
    (driver.endpTxSetNewBuffer 0 ptr size).2.criticalNesting = driver.criticalNesting + 1 :=
  congrArg (fun result => result.2.criticalNesting)
    (driver.endpTxSetNewBuffer_of_noBuffer fits noBuffer)

/-- A refused buffer leaves no trace unless it is one for endpoint 0 that is refused only because
endpoint 0 has no buffer to copy it to. -/
theorem refusal_changes_nothing_iff (endpNum : Fin 16) (ptr size : Nat) :
    driver.RefusalChangesNothing endpNum ptr size ↔
      ¬(endpNum = 0 ∧ driver.endp0Buffer = 0 ∧ ptr ≠ 0 ∧
        size ≤ (driver.device.tx 0).maxPacketSizeWithBurst) := by
  constructor
  · rintro changesNothing ⟨rfl, noBuffer, notNull, small⟩
    have fits : ¬((driver.device.tx 0).maxPacketSizeWithBurst < size ∨ ptr = 0) :=
      not_or.mpr ⟨Nat.not_lt.mpr small, notNull⟩
    have refused := congrArg Prod.fst (driver.endpTxSetNewBuffer_of_noBuffer fits noBuffer)
    have same := congrArg criticalNesting (changesNothing refused)
    rw [driver.criticalNesting_of_noBuffer fits noBuffer] at same
    exact absurd same (Nat.succ_ne_self _)
  · intro otherwise refused
    by_cases tooLong : (driver.device.tx endpNum).maxPacketSizeWithBurst < size ∨ ptr = 0
    · rw [driver.endpTxSetNewBuffer_of_tooLong tooLong]
      rfl
    · obtain ⟨small, notNull⟩ := not_or.mp tooLong
      have accepts : driver.config.Accepts endpNum ptr size := by
        refine ⟨Nat.le_of_not_lt small, notNull, ?_⟩
        rintro rfl noBuffer
        exact otherwise ⟨rfl, noBuffer, notNull, Nat.le_of_not_lt small⟩
      have accepted := congrArg Prod.fst (driver.endpTxSetNewBuffer_of_accepts accepts)
      exact absurd (accepted.symm.trans refused) Bool.true_eq_false_eq_False

/-- Eight bytes for endpoint 0 of a device whose endpoint 0 has no buffer yet. -/
theorem refusal_enters_critical_section :
    ¬(initial { usbDevice0 with
        tx := Function.update usbDevice0.tx 0 ⟨0, 1, 64, 64, 0#8⟩ }
      fun _ => 0#8).RefusalChangesNothing 0 0x20020000 8 := by
  intro changesNothing
  have same := congrArg criticalNesting (changesNothing (by decide))
  exact absurd same (by decide)

end Usb2Driver

/-! ## The chunks of a data stage -/

namespace PassthroughData

open Support.Runs Usb2Driver Interleaving

/-- How far the endpoint is with the chunk it was given last. -/
inductive Phase where
  | idle (last : Option Nat)
  /-- The chunk has just been handed over. -/
  | armed (size : Nat)
  /-- A completion has been handled, and the chunk is not complete. -/
  | sending (size : Nat)
  deriving DecidableEq, Repr

def Phase.size : Phase → Option Nat
  | .idle last => last
  | .armed size => some size
  | .sending size => some size

def Phase.continued : Phase → Phase
  | .idle last => .idle last
  | .armed size => .sending size
  | .sending size => .sending size

structure Stage where
  driver : Usb2Driver
  phase : Phase

inductive StageAct where
  /-- `endp_tx_set_new_buffer` for endpoint 0. -/
  | call (ptr size : Nat)
  /-- An IN completion on endpoint 0, where `tx_complete` may hand over the next chunk. -/
  | completion (reply : UserReply) (next : Option (Nat × Nat))
  /-- A completion on another endpoint. -/
  | elsewhere (event : Usb2Event)

def handOver (next : Option (Nat × Nat)) : List ApiCall :=
  next.toList.map fun chunk => .endpTxSetNewBuffer 0 chunk.1 chunk.2

/-- The completion calls `tx_complete`. -/
def CompletesChunk (driver : Usb2Driver) : Prop :=
  driver.dma .uep0Rt ≠ 0 ∧ (driver.countInPacket 0).endpTxRemainingBytes 0 = 0

instance (driver : Usb2Driver) : Decidable (CompletesChunk driver) :=
  inferInstanceAs (Decidable (_ ∧ _))

/-- The phase after an IN completion on endpoint 0. -/
def Stage.afterCompletion (stage : Stage) (next : Option (Nat × Nat)) : Phase :=
  if CompletesChunk stage.driver then
    match next with
    | some chunk => .armed chunk.2
    | none => .idle stage.phase.size
  else
    stage.phase.continued

def step (bsp : Usb2Bsp) (stage : Stage) : StageAct → Option Stage
  | .call ptr size =>
      some ⟨stage.driver.call bsp (.endpTxSetNewBuffer 0 ptr size), .armed size⟩
  | .completion reply next =>
      let event := .inDone 0 { reply with calls := reply.calls ++ handOver next }
      some ⟨Usb2Event.step bsp stage.driver event, stage.afterCompletion next⟩
  | .elsewhere event => some ⟨Usb2Event.step bsp stage.driver event, stage.phase⟩

/-- The call does not refuse the chunk, whose size is 16 bits wide. -/
def Accepted (driver : Usb2Driver) (chunk : Nat × Nat) : Prop :=
  driver.config.Accepts 0 chunk.1 chunk.2 ∧ chunk.2 < 65536

instance (driver : Usb2Driver) (chunk : Nat × Nat) : Decidable (Accepted driver chunk) :=
  inferInstanceAs (Decidable (_ ∧ _))

def Phase.IsIdle : Phase → Prop
  | .idle _ => True
  | .armed _ => False
  | .sending _ => False

instance : (phase : Phase) → Decidable phase.IsIdle
  | .idle _ => inferInstanceAs (Decidable True)
  | .armed _ => inferInstanceAs (Decidable False)
  | .sending _ => inferInstanceAs (Decidable False)

/-- A chunk is handed over when the one before it is complete, and packets complete only while one
is on its way. -/
def Admissible (stage : Stage) : StageAct → Prop
  | .call ptr size => stage.phase.IsIdle ∧ Accepted stage.driver (ptr, size)
  | .completion reply next =>
      ¬stage.phase.IsIdle ∧ reply.LeavesEndp0 ∧ ∀ chunk ∈ next, Accepted stage.driver chunk
  | .elsewhere event => Elsewhere event

instance (stage : Stage) : (act : StageAct) → Decidable (Admissible stage act)
  | .call _ _ => inferInstanceAs (Decidable (_ ∧ _))
  | .completion _ _ => inferInstanceAs (Decidable (_ ∧ _ ∧ _))
  | .elsewhere event => inferInstanceAs (Decidable (Elsewhere event))

/-- Endpoint 0 sends from the buffer that the bytes were copied to. -/
def SendsFromBuffer (driver : Usb2Driver) : Prop := driver.dma .uep0Rt = driver.endp0Buffer

instance (driver : Usb2Driver) : Decidable (SendsFromBuffer driver) :=
  inferInstanceAs (Decidable (_ = _))

/-- If a chunk has just been handed over, it will be sent from the buffer. -/
def ArmedAtBuffer (stage : Stage) : Prop :=
  match stage.phase with
  | .armed _ => SendsFromBuffer stage.driver
  | .idle _ => True
  | .sending _ => True

instance : (stage : Stage) → Decidable (ArmedAtBuffer stage)
  | ⟨_, .armed _⟩ => inferInstanceAs (Decidable (_ = _))
  | ⟨_, .idle _⟩ => inferInstanceAs (Decidable True)
  | ⟨_, .sending _⟩ => inferInstanceAs (Decidable True)

/-- The pointer is at the buffer for the first chunk, and a later one follows a chunk of one
packet. -/
def InPlace (stage : Stage) : Prop :=
  match stage.phase.size with
  | none => SendsFromBuffer stage.driver
  | some size => size ≤ (stage.driver.device.tx 0).maxPacketSize

instance (stage : Stage) : Decidable (InPlace stage) :=
  match found : stage.phase.size with
  | none => decidable_of_iff (SendsFromBuffer stage.driver) (by rw [InPlace, found])
  | some size =>
      decidable_of_iff (size ≤ (stage.driver.device.tx 0).maxPacketSize) (by rw [InPlace, found])

/-- A step that hands a chunk over finds the pointer in place. -/
def HandsOverInPlace (stage : Stage) : StageAct → Prop
  | .call _ _ => InPlace stage
  | .completion _ next => next ≠ none → CompletesChunk stage.driver → InPlace stage
  | .elsewhere _ => True

instance (stage : Stage) : (act : StageAct) → Decidable (HandsOverInPlace stage act)
  | .call _ _ => inferInstanceAs (Decidable (InPlace stage))
  | .completion _ _ => inferInstanceAs (Decidable (_ → _ → _))
  | .elsewhere _ => inferInstanceAs (Decidable True)

/-! ## One step -/

/-- Endpoint 0 of a running USB2 device in passthrough mode, whose buffer is an address. -/
structure Usable (driver : Usb2Driver) : Prop where
  passthrough : Passthrough driver
  speed : driver.device.speed ≠ .usb30Superspeed
  address : driver.endp0Buffer < 4294967296

theorem Usable.of_config {driver after : Usb2Driver} (usable : Usable driver)
    (passthrough : Passthrough after) (same : after.config = driver.config) : Usable after := by
  have speed : after.device.speed = driver.device.speed := congrArg Config.speed same
  have buffer : after.endp0Buffer = driver.endp0Buffer :=
    congrFun (congrArg Config.rxBuffer same) 0
  exact ⟨passthrough, speed ▸ usable.speed, buffer ▸ usable.address⟩

/-- What is left of a chunk, and how far the pointer has moved. -/
structure Sending (driver : Usb2Driver) (size : Nat) : Prop where
  pointer : driver.dma .uep0Rt = u32 (driver.endp0Buffer + (size - driver.endpTxRemainingBytes 0))
  left : driver.endpTxRemainingBytes 0 ≤ size
  onePacket : size ≤ (driver.device.tx 0).maxPacketSize → driver.endpTxRemainingBytes 0 = size
  size16 : size < 65536

/-- What is known of the pointer in each phase. -/
def Tracked (stage : Stage) : Prop :=
  match stage.phase with
  | .idle none => True
  | .idle (some _) => SendsFromBuffer stage.driver ↔ InPlace stage
  | .armed size => SendsFromBuffer stage.driver ∧ Sending stage.driver size
  | .sending size => Sending stage.driver size

theorem Tracked.armedAtBuffer {stage : Stage} (tracked : Tracked stage) : ArmedAtBuffer stage := by
  obtain ⟨driver, phase⟩ := stage
  cases phase with
  | idle last => trivial
  | armed size => exact tracked.1
  | sending size => trivial

section

variable (bsp : Usb2Bsp) {driver : Usb2Driver}

/-! ### Handing a chunk over -/

theorem endp0_handOver (speed : driver.device.speed ≠ .usb30Superspeed) {ptr size : Nat}
    (accepts : driver.config.Accepts 0 ptr size) :
    (driver.call bsp (.endpTxSetNewBuffer 0 ptr size)).endp0 =
      { driver.endp0 with
        tx := { driver.endp0.tx with buffer := ptr }
        remaining := size
        tLen := min size driver.endp0.tx.maxPacketSize
        txCtrl := setResponse driver.endp0.txCtrl uepResAck } := by
  have stored : (driver.bufferSet 0 ptr size).endp0 =
      { driver.endp0 with tx := { driver.endp0.tx with buffer := ptr } } :=
    endp0_setTx_buffer driver.enterCritical ptr
  have filledSpeed : (driver.bufferSet 0 ptr size).device.speed ≠ .usb30Superspeed :=
    (driver.bufferSet_speed 0 ptr size).symm ▸ speed
  have called : driver.call bsp (.endpTxSetNewBuffer 0 ptr size) =
      ((driver.bufferSet 0 ptr size).usb2EndpTxReady 0 size).exitCritical := by
    rw [call, driver.endpTxSetNewBuffer_of_accepts accepts, endpTxReady_of_usb2 _ filledSpeed]
  rw [called]
  change ({ (driver.bufferSet 0 ptr size).endp0 with
    remaining := size
    tLen := min size (driver.bufferSet 0 ptr size).endp0.tx.maxPacketSize
    txCtrl := setResponse (driver.bufferSet 0 ptr size).endp0.txCtrl uepResAck } : Endp0) = _
  rw [stored]

/-- Where a chunk is handed over, its bytes are left and the pointer has not moved. -/
theorem sending_of_handedOver {after : Usb2Driver} {size : Nat} (usable : Usable driver)
    (fromBuffer : SendsFromBuffer driver) (pointer : after.dma .uep0Rt = driver.dma .uep0Rt)
    (buffer : after.endp0Buffer = driver.endp0Buffer) (left : after.endpTxRemainingBytes 0 = size)
    (size16 : size < 65536) : SendsFromBuffer after ∧ Sending after size := by
  have atBuffer : after.dma .uep0Rt = driver.endp0Buffer := pointer.trans fromBuffer
  refine ⟨atBuffer.trans buffer.symm, ?_, left.le, fun _ => left, size16⟩
  rw [left, Nat.sub_self, Nat.add_zero, buffer, u32_of_lt usable.address, atBuffer]

/-! ### Completions -/

theorem step_inDone_endp0 (passthrough : Passthrough driver) (reply : UserReply) :
    Usb2Event.step bsp driver (.inDone 0 reply) =
      (driver.transferPending.usb2InTransferHandler bsp 0 reply).clearFlags := by
  rw [step_inDone bsp passthrough.running, if_pos (Or.inr passthrough.enabled)]

theorem counted_eq : (driver.countInPacket 0).endpTxRemainingBytes 0 =
    driver.endpTxRemainingBytes 0 -
      min (driver.endpTxRemainingBytes 0) (driver.device.tx 0).maxPacketSize :=
  driver.setRemaining_self 0 _

theorem completesChunk_iff : CompletesChunk driver ↔ driver.dma .uep0Rt ≠ 0 ∧
    driver.endpTxRemainingBytes 0 ≤ (driver.device.tx 0).maxPacketSize := by
  rw [CompletesChunk, counted_eq]
  omega

/-- The last packet leaves the pointer where it was. -/
theorem pointer_of_completes (passthrough : Passthrough driver) (reply : UserReply)
    (completes : CompletesChunk driver) :
    (Usb2Event.step bsp driver (.inDone 0 reply)).dma .uep0Rt = driver.dma .uep0Rt := by
  rw [step_inDone_endp0 bsp passthrough,
    driver.transferPending.usb2InTransferHandler_endp0_last bsp completes.1 completes.2]
  exact congrArg Fixed.rtDma (fixed_invoke bsp (driver.transferPending.beforeTxComplete bsp 0)
    (.txComplete 0) reply)

/-- The chunk that `tx_complete` hands over last is the one that is left to send. -/
theorem left_of_handedOver (usable : Usable driver) {reply : UserReply} {chunk : Nat × Nat}
    (accepted : Accepted driver chunk) (completes : CompletesChunk driver) :
    (Usb2Event.step bsp driver (.inDone 0 { reply with
      calls := reply.calls ++ handOver (some chunk) })).endpTxRemainingBytes 0 = chunk.2 := by
  obtain ⟨ptr, size⟩ := chunk
  let before := (driver.transferPending.beforeTxComplete bsp 0).invoke bsp (.txComplete 0) reply
  have same : before.config = driver.config :=
    congrArg Fixed.config (fixed_invoke bsp (driver.transferPending.beforeTxComplete bsp 0)
      (.txComplete 0) reply)
  have speed : before.device.speed ≠ .usb30Superspeed := by
    rw [show before.device.speed = driver.device.speed from congrArg Config.speed same]
    exact usable.speed
  have accepts : before.config.Accepts 0 ptr size := same.symm ▸ accepted.1
  have called : (driver.transferPending.beforeTxComplete bsp 0).invoke bsp (.txComplete 0)
      { reply with calls := reply.calls ++ handOver (some (ptr, size)) } =
        before.call bsp (.endpTxSetNewBuffer 0 ptr size) := List.foldl_append ..
  rw [step_inDone_endp0 bsp usable.passthrough,
    driver.transferPending.usb2InTransferHandler_endp0_last bsp completes.1 completes.2, called]
  exact congrArg Endp0.remaining (endp0_handOver bsp speed accepts)

/-- A packet before the last one moves the pointer; an unset pointer stops the transfer. -/
theorem sending_of_not_completes {size : Nat} (passthrough : Passthrough driver)
    (reply : UserReply) (sending : Sending driver size) (incomplete : ¬CompletesChunk driver) :
    Sending (Usb2Event.step bsp driver (.inDone 0 reply)) size := by
  have config := config_step bsp driver (.inDone 0 reply)
  have buffer : (Usb2Event.step bsp driver (.inDone 0 reply)).endp0Buffer = driver.endp0Buffer :=
    congrFun (congrArg Config.rxBuffer config) 0
  have packetSize : ((Usb2Event.step bsp driver (.inDone 0 reply)).device.tx 0).maxPacketSize =
      (driver.device.tx 0).maxPacketSize := congrFun (congrArg Config.txMaxPacketSize config) 0
  obtain ⟨pointer, left, onePacket, size16⟩ := sending
  by_cases unset : driver.dma .uep0Rt = 0
  · have after := @usb2InTransferHandler_endp0_idle bsp driver.transferPending reply unset
    have sameLeft : (Usb2Event.step bsp driver (.inDone 0 reply)).endpTxRemainingBytes 0 =
        driver.endpTxRemainingBytes 0 := by
      rw [step_inDone_endp0 bsp passthrough, after]
      rfl
    have samePointer : (Usb2Event.step bsp driver (.inDone 0 reply)).dma .uep0Rt =
        driver.dma .uep0Rt := by
      rw [step_inDone_endp0 bsp passthrough, after]
      rfl
    constructor
    · rw [samePointer, buffer, sameLeft, pointer]
    · exact sameLeft ▸ left
    · rw [packetSize, sameLeft]
      exact onePacket
    · exact size16
  · have long : (driver.device.tx 0).maxPacketSize < driver.endpTxRemainingBytes 0 := by
      rw [completesChunk_iff] at incomplete
      omega
    have more : ¬(driver.transferPending.countInPacket 0).endpTxRemainingBytes 0 = 0 :=
      fun isLast => incomplete ⟨unset, isLast⟩
    have after := @usb2InTransferHandler_endp0_more bsp driver.transferPending reply unset more
    have moved : (Usb2Event.step bsp driver (.inDone 0 reply)).dma .uep0Rt =
        u32 (driver.dma .uep0Rt + (driver.device.tx 0).maxPacketSize) := by
      rw [step_inDone_endp0 bsp passthrough, after, ← Nat.min_eq_right long.le]
      exact setDma_self (driver.transferPending.countInPacket 0) .uep0Rt _
    have sent : (Usb2Event.step bsp driver (.inDone 0 reply)).endpTxRemainingBytes 0 =
        driver.endpTxRemainingBytes 0 - (driver.device.tx 0).maxPacketSize := by
      rw [step_inDone_endp0 bsp passthrough, after]
      refine (@counted_eq driver.transferPending).trans ?_
      change driver.endpTxRemainingBytes 0 - min (driver.endpTxRemainingBytes 0)
        (driver.device.tx 0).maxPacketSize = _
      rw [Nat.min_eq_right long.le]
    constructor
    · rw [moved, buffer, sent, pointer, u32, u32, u32, Nat.mod_add_mod]
      congr 1
      omega
    · rw [sent]
      omega
    · rw [packetSize]
      omega
    · exact size16

/-- When a chunk is complete, the pointer is at the buffer if the chunk needed one packet only. -/
theorem fromBuffer_iff_of_completes {size : Nat} (usable : Usable driver)
    (sending : Sending driver size) (completes : CompletesChunk driver) :
    SendsFromBuffer driver ↔ size ≤ (driver.device.tx 0).maxPacketSize := by
  have address := usable.address
  obtain ⟨pointer, left, onePacket, size16⟩ := sending
  have short := (completesChunk_iff.mp completes).2
  rw [SendsFromBuffer, pointer, u32]
  omega

theorem passthrough_handOver (passthrough : Passthrough driver) (ptr size : Nat) :
    Passthrough (driver.call bsp (.endpTxSetNewBuffer 0 ptr size)) := by
  have fixed := driver.fixed_call bsp (.endpTxSetNewBuffer 0 ptr size)
  have state : (driver.call bsp (.endpTxSetNewBuffer 0 ptr size)).device.state =
      driver.device.state := congrArg Fixed.state fixed
  constructor
  · exact (congrArg (fun view => view.config.ep0PassthroughEnabled) fixed).trans passthrough.enabled
  · rw [state]
    exact passthrough.running

theorem usable_step (stage : Stage) (act : StageAct) (usable : Usable stage.driver)
    (admissible : Admissible stage act) :
    ∃ next, step bsp stage act = some next ∧ Usable next.driver := by
  cases act with
  | call ptr size =>
      refine ⟨_, rfl, usable.of_config (passthrough_handOver bsp usable.passthrough ptr size) ?_⟩
      exact stage.driver.config_call bsp (.endpTxSetNewBuffer 0 ptr size)
  | completion reply next =>
      have onEndp0 : Usb2Event.OnEndp0
          (.inDone 0 { reply with calls := reply.calls ++ handOver next }) := Eq.refl (0 : Fin 16)
      refine ⟨_, rfl, usable.of_config ?_ (config_step bsp stage.driver _)⟩
      exact usable.passthrough.step bsp (Or.inr onEndp0)
  | elsewhere event =>
      refine ⟨_, rfl, usable.of_config ?_ (config_step bsp stage.driver event)⟩
      exact usable.passthrough.step bsp (Or.inl admissible)

/-- In every phase but the first, a complete chunk shows whether the pointer is in place. -/
theorem inPlace_iff_of_completes {stage : Stage} (usable : Usable stage.driver)
    (busy : ¬stage.phase.IsIdle) (tracked : Tracked stage) (completes : CompletesChunk stage.driver) :
    SendsFromBuffer stage.driver ↔ InPlace stage := by
  obtain ⟨driver, phase⟩ := stage
  cases phase with
  | idle last => exact absurd trivial busy
  | armed size => exact fromBuffer_iff_of_completes usable tracked.2 completes
  | sending size => exact fromBuffer_iff_of_completes usable tracked completes

/-- When nothing is on its way, the pointer shows whether it is in place. -/
theorem inPlace_iff_of_idle {stage : Stage} (idle : stage.phase.IsIdle) (tracked : Tracked stage) :
    SendsFromBuffer stage.driver ↔ InPlace stage := by
  obtain ⟨driver, phase⟩ := stage
  cases phase with
  | idle last =>
      cases last with
      | none => exact Iff.rfl
      | some size => exact tracked
  | armed size => exact idle.elim
  | sending size => exact idle.elim

/-! ### The exact condition -/

theorem exactly_call (stage : Stage) (usable : Usable stage.driver) (tracked : Tracked stage)
    {ptr size : Nat} (idle : stage.phase.IsIdle) (accepted : Accepted stage.driver (ptr, size)) :
    let next : Stage := ⟨stage.driver.call bsp (.endpTxSetNewBuffer 0 ptr size), .armed size⟩
    (ArmedAtBuffer next → InPlace stage) ∧ (InPlace stage → Tracked next) := by
  have view := endp0_handOver bsp usable.speed accepted.1
  have pointer := congrArg Endp0.rtDma view
  have buffer : (stage.driver.call bsp (.endpTxSetNewBuffer 0 ptr size)).endp0Buffer =
      stage.driver.endp0Buffer := congrArg (fun view => view.rx.buffer) view
  have left := congrArg Endp0.remaining view
  rw [← inPlace_iff_of_idle idle tracked]
  constructor
  · intro atBuffer
    exact (pointer.symm.trans atBuffer).trans buffer
  · intro fromBuffer
    exact sending_of_handedOver usable fromBuffer pointer buffer left accepted.2

theorem tracked_of_incomplete {stage : Stage} (usable : Usable stage.driver)
    (tracked : Tracked stage) (reply : UserReply) (busy : ¬stage.phase.IsIdle)
    (incomplete : ¬CompletesChunk stage.driver) :
    Tracked ⟨Usb2Event.step bsp stage.driver (.inDone 0 reply), stage.phase.continued⟩ := by
  obtain ⟨driver, phase⟩ := stage
  cases phase with
  | idle last => exact absurd trivial busy
  | armed size => exact sending_of_not_completes bsp usable.passthrough reply tracked.2 incomplete
  | sending size => exact sending_of_not_completes bsp usable.passthrough reply tracked incomplete

/-- A complete chunk, with nothing handed over after it. -/
theorem tracked_of_complete {stage : Stage} (usable : Usable stage.driver)
    (tracked : Tracked stage) (reply : UserReply) (busy : ¬stage.phase.IsIdle)
    (completes : CompletesChunk stage.driver) :
    Tracked ⟨Usb2Event.step bsp stage.driver (.inDone 0 reply), .idle stage.phase.size⟩ := by
  have inPlace := inPlace_iff_of_completes usable busy tracked completes
  have pointer := pointer_of_completes bsp usable.passthrough reply completes
  have config := config_step bsp stage.driver (.inDone 0 reply)
  have buffer := congrFun (congrArg Config.rxBuffer config) 0
  have packetSize := congrFun (congrArg Config.txMaxPacketSize config) 0
  have samePlace : SendsFromBuffer (Usb2Event.step bsp stage.driver (.inDone 0 reply)) ↔
      SendsFromBuffer stage.driver := Iff.of_eq (congrArg₂ Eq pointer buffer)
  obtain ⟨driver, phase⟩ := stage
  cases phase with
  | idle last => exact absurd trivial busy
  | armed size => exact (samePlace.trans inPlace).trans (Iff.of_eq (congrArg (size ≤ ·) packetSize).symm)
  | sending size =>
      exact (samePlace.trans inPlace).trans (Iff.of_eq (congrArg (size ≤ ·) packetSize).symm)

theorem exactly_completion (stage : Stage) (usable : Usable stage.driver) (tracked : Tracked stage)
    {reply : UserReply} {next : Option (Nat × Nat)} (busy : ¬stage.phase.IsIdle)
    (accepted : ∀ chunk ∈ next, Accepted stage.driver chunk) :
    let after : Stage := ⟨Usb2Event.step bsp stage.driver
      (.inDone 0 { reply with calls := reply.calls ++ handOver next }), stage.afterCompletion next⟩
    (ArmedAtBuffer after → HandsOverInPlace stage (.completion reply next)) ∧
      (HandsOverInPlace stage (.completion reply next) → Tracked after) := by
  by_cases completes : CompletesChunk stage.driver
  · cases next with
    | none =>
        have phase : stage.afterCompletion none = .idle stage.phase.size := if_pos completes
        rw [phase]
        refine ⟨fun _ handsOver => absurd rfl handsOver, fun _ => ?_⟩
        exact tracked_of_complete bsp usable tracked _ busy completes
    | some chunk =>
        have phase : stage.afterCompletion (some chunk) = .armed chunk.2 := if_pos completes
        have inPlace := inPlace_iff_of_completes usable busy tracked completes
        have pointer := pointer_of_completes bsp usable.passthrough
          { reply with calls := reply.calls ++ handOver (some chunk) } completes
        have config := config_step bsp stage.driver
          (.inDone 0 { reply with calls := reply.calls ++ handOver (some chunk) })
        have buffer := congrFun (congrArg Config.rxBuffer config) 0
        have left := @left_of_handedOver bsp stage.driver usable reply chunk (accepted chunk rfl)
          completes
        rw [phase]
        constructor
        · intro atBuffer _ _
          exact inPlace.mp ((pointer.symm.trans atBuffer).trans buffer)
        · intro handsOver
          have fromBuffer := inPlace.mpr (handsOver (Option.some_ne_none chunk) completes)
          exact sending_of_handedOver usable fromBuffer pointer buffer left (accepted chunk rfl).2
  · have phase : stage.afterCompletion next = stage.phase.continued := if_neg completes
    rw [phase]
    exact ⟨fun _ _ complete => absurd complete completes,
      fun _ => tracked_of_incomplete bsp usable tracked _ busy completes⟩

/-- Traffic of other endpoints keeps what is known. -/
theorem tracked_elsewhere {stage : Stage} (usable : Usable stage.driver) (tracked : Tracked stage)
    {event : Usb2Event} (elsewhere : Elsewhere event) :
    Tracked ⟨Usb2Event.step bsp stage.driver event, stage.phase⟩ := by
  have view := endp0_step_elsewhere bsp usable.passthrough elsewhere
  have pointer := congrArg Endp0.rtDma view
  have buffer : (Usb2Event.step bsp stage.driver event).endp0Buffer = stage.driver.endp0Buffer :=
    congrArg (fun view => view.rx.buffer) view
  have left : (Usb2Event.step bsp stage.driver event).endpTxRemainingBytes 0 =
      stage.driver.endpTxRemainingBytes 0 := congrArg Endp0.remaining view
  have packetSize : ((Usb2Event.step bsp stage.driver event).device.tx 0).maxPacketSize =
      (stage.driver.device.tx 0).maxPacketSize := congrArg (fun view => view.tx.maxPacketSize) view
  have samePlace : SendsFromBuffer (Usb2Event.step bsp stage.driver event) ↔
      SendsFromBuffer stage.driver := Iff.of_eq (congrArg₂ Eq pointer buffer)
  have sending {size : Nat} (before : Sending stage.driver size) :
      Sending (Usb2Event.step bsp stage.driver event) size := by
    constructor
    · rw [left, buffer]
      exact pointer.trans before.pointer
    · exact left ▸ before.left
    · rw [packetSize, left]
      exact before.onePacket
    · exact before.size16
  obtain ⟨driver, phase⟩ := stage
  cases phase with
  | idle last =>
      cases last with
      | none => trivial
      | some size =>
          exact (samePlace.trans tracked).trans (Iff.of_eq (congrArg (size ≤ ·) packetSize).symm)
  | armed size => exact ⟨samePlace.mpr tracked.1, sending tracked.2⟩
  | sending size => exact sending tracked

theorem step_exactly (stage : Stage) (act : StageAct) (next : Stage) (usable : Usable stage.driver)
    (tracked : Tracked stage) (admissible : Admissible stage act)
    (stepped : step bsp stage act = some next) :
    (ArmedAtBuffer next → HandsOverInPlace stage act) ∧
      (HandsOverInPlace stage act → Tracked next) := by
  cases act with
  | call ptr size =>
      obtain rfl := Option.some.inj stepped
      exact exactly_call bsp stage usable tracked admissible.1 admissible.2
  | completion reply handedOver =>
      obtain rfl := Option.some.inj stepped
      exact exactly_completion bsp stage usable tracked admissible.1 admissible.2.2
  | elsewhere event =>
      obtain rfl := Option.some.inj stepped
      exact ⟨fun _ => trivial, fun _ => tracked_elsewhere bsp usable tracked admissible⟩

end

def begun (driver : Usb2Driver) : Stage := ⟨driver, .idle none⟩

/-- Every chunk of a data stage is sent from the buffer it was copied to exactly if the pointer is
at the buffer when the first one is handed over and every chunk but the last needs one packet. -/
theorem armed_at_buffer_iff (bsp : Usb2Bsp) {driver : Usb2Driver} (usable : Usable driver)
    {acts : List StageAct} (every : EveryStep (step bsp) Admissible (begun driver) acts) :
    Always (step bsp) ArmedAtBuffer (begun driver) acts ↔
      EveryStep (step bsp) HandsOverInPlace (begun driver) acts :=
  always_iff_everyStep (fun _ tracked => tracked.armedAtBuffer) (usable_step bsp) (step_exactly bsp)
    usable trivial every

/-! ## Two chunks -/

def tog1Bit3 : Usb2Bsp := .bit3

def vendorIn : Usb2Driver :=
  { initial { usbDevice0 with
      rx := Function.update usbDevice0.rx 0 ⟨0x20020000, 1, 64, 64, 0#8⟩
      tx := Function.update usbDevice0.tx 0 ⟨0x20020000, 8, 64, 512, 0#8⟩ } (fun _ => 0#8) with
    dma := fun _ => 0x20020000
    ep0PassthroughEnabled := true
    usbSetupReq := ⟨0xc0#8, 1#8, ⟨0#8, 0#8⟩, ⟨0#8, 0#8⟩, 192#16⟩ }

theorem usable_vendorIn : Usable vendorIn where
  passthrough := ⟨rfl, by decide⟩
  speed := by decide
  address := by decide

/-- One packet, and then three packets in the last chunk. -/
theorem short_chunk_first :
    Always (step tog1Bit3) ArmedAtBuffer (begun vendorIn)
      [.call 0x20030000 64, .completion noReply (some (0x20030040, 128)),
        .completion noReply none, .completion noReply none] :=
  (armed_at_buffer_iff tog1Bit3 usable_vendorIn (by decide)).mpr (by decide)

/-- A chunk of two packets leaves the pointer one packet behind the buffer for the next one. -/
theorem long_chunk_first :
    Usable vendorIn ∧
      EveryStep (step tog1Bit3) Admissible (begun vendorIn)
        [.call 0x20030000 128, .completion noReply none,
          .completion noReply (some (0x20030080, 64))] ∧
      ¬Always (step tog1Bit3) ArmedAtBuffer (begun vendorIn)
        [.call 0x20030000 128, .completion noReply none,
          .completion noReply (some (0x20030080, 64))] :=
  ⟨usable_vendorIn, by decide, by decide⟩

end PassthroughData

end WchCh56x.Usb
