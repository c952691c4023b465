import WchCh56x.Support.Packets
import WchCh56x.Usb.EventFrames

/-!
# The packets of an IN transfer

`usb2_endp_tx_ready` arms the first packet with its length.  The completions that
follow move the address and keep the length.
-/

/-! ## What `usb2_endp_tx_ready` stores -/

namespace WchCh56x.Usb.Usb2Driver

variable (driver : Usb2Driver) {endpNum : Fin 16} (size : Nat)

theorem bufferSet_tx (ptr : Nat) :
    (driver.bufferSet endpNum ptr size).device.tx endpNum =
      { driver.device.tx endpNum with buffer := ptr } := by
  unfold bufferSet copyToEndp0
  split
  · exact Function.update_self ..
  · exact Function.update_self ..

theorem usb2EndpTxReady_dma (notControl : endpNum ≠ 0) :
    (driver.usb2EndpTxReady endpNum size).dma (.tx (usb2EndpointReg endpNum)) =
      (driver.device.tx endpNum).buffer := by
  unfold usb2EndpTxReady
  simp only []
  rw [if_pos notControl]
  exact Function.update_self ..

theorem usb2EndpTxReady_tLen :
    (driver.usb2EndpTxReady endpNum size).tLen (usb2EndpointReg endpNum) =
      min size (driver.device.tx endpNum).maxPacketSize := Function.update_self ..

theorem usb2EndpTxReady_remaining :
    (driver.usb2EndpTxReady endpNum size).endpTxRemainingBytes endpNum = size := by
  unfold usb2EndpTxReady
  simp only []
  split
  · exact Function.update_self ..
  · exact Function.update_self ..

end WchCh56x.Usb.Usb2Driver

namespace WchCh56x.Usb.InPackets

/-- A buffer that `endp_tx_set_new_buffer` accepts for an endpoint other than 0. -/
structure InTransfer (driver : Usb2Driver) where
  endpNum : Fin 16
  ptr : Nat
  size : Nat
  usb2 : driver.device.speed ≠ .usb30Superspeed
  notControl : endpNum ≠ 0
  packetSize_pos : 0 < (driver.device.tx endpNum).maxPacketSize
  notNull : ptr ≠ 0
  fits : size ≤ (driver.device.tx endpNum).maxPacketSizeWithBurst
  /-- The buffer is an object in the address space. -/
  addressable : ptr + size ≤ 2 ^ 32

namespace InTransfer

variable (bsp : Usb2Bsp) {driver : Usb2Driver} (transfer : InTransfer driver)

def reg : Fin 8 := usb2EndpointReg transfer.endpNum

def packetSize : Nat := (driver.device.tx transfer.endpNum).maxPacketSize

/-- An empty buffer is one empty packet. -/
def packetCount : Nat :=
  max 1 ((transfer.size + transfer.packetSize - 1) / transfer.packetSize)

/-- What happens between the packets: nothing else transmits on the endpoint's registers. -/
structure Traffic where
  before : Nat → List Usb2Event
  /-- The reply of `tx_complete`, if the completion calls it. -/
  reply : Nat → UserReply
  apart : ∀ index, ∀ event ∈ before index, event.TxApart transfer.reg

def started : Usb2Driver :=
  (driver.endpTxSetNewBuffer transfer.endpNum transfer.ptr transfer.size).2

def afterPackets (traffic : transfer.Traffic) : Nat → Usb2Driver
  | 0 => transfer.started
  | index + 1 =>
      (Usb2Event.run bsp (afterPackets traffic index)
        (traffic.before index)).usb2InTransferHandler bsp transfer.endpNum (traffic.reply index)

def completions (driver : Usb2Driver) : Nat := driver.called (.txComplete transfer.endpNum)

/-- Every packet is armed with its part of the buffer, and the end is reported once. -/
def SendsBuffer (traffic : transfer.Traffic) : Prop :=
  (∀ index < transfer.packetCount,
    let armed := transfer.afterPackets bsp traffic index
    armed.dma (.tx transfer.reg) = transfer.ptr + index * transfer.packetSize ∧
      armed.tLen transfer.reg =
        min transfer.packetSize (transfer.size - index * transfer.packetSize) ∧
      response (armed.txCtrl transfer.reg) = uepResAck ∧
      transfer.completions armed = transfer.completions driver) ∧
    transfer.completions (transfer.afterPackets bsp traffic transfer.packetCount) =
      transfer.completions driver + 1

/-! ## Counting packets -/

theorem lt_packetCount_iff {index : Nat} (later : index ≠ 0) :
    index < transfer.packetCount ↔ index * transfer.packetSize < transfer.size :=
  Support.Packets.lt_packetCount_iff transfer.packetSize_pos later

/-! ## The state between two packets -/

structure Armed (index : Nat) (armed : Usb2Driver) : Prop where
  config : armed.config = driver.config
  address : armed.dma (.tx transfer.reg) = transfer.ptr + index * transfer.packetSize
  remaining : armed.endpTxRemainingBytes transfer.endpNum =
    transfer.size - index * transfer.packetSize
  length : armed.tLen transfer.reg = min transfer.size transfer.packetSize
  acknowledged : response (armed.txCtrl transfer.reg) = uepResAck
  unreported : transfer.completions armed = transfer.completions driver

variable {transfer} {index : Nat} {armed : Usb2Driver}

theorem armed_started : transfer.Armed 0 transfer.started := by
  have accepts : driver.config.Accepts transfer.endpNum transfer.ptr transfer.size :=
    ⟨transfer.fits, transfer.notNull, fun control => absurd control transfer.notControl⟩
  have kept := driver.fixed_endpTxSetNewBuffer transfer.endpNum transfer.ptr transfer.size
  have speed : (driver.bufferSet transfer.endpNum transfer.ptr
      transfer.size).device.speed ≠ .usb30Superspeed :=
    (driver.bufferSet_speed ..).symm ▸ transfer.usb2
  have isStarted : transfer.started = ((driver.bufferSet transfer.endpNum transfer.ptr
      transfer.size).usb2EndpTxReady transfer.endpNum transfer.size).exitCritical := by
    rw [started, driver.endpTxSetNewBuffer_of_accepts accepts,
      Usb2Driver.endpTxReady_of_usb2 _ speed]
  constructor
  · exact congrArg Fixed.config kept
  · rw [isStarted, Nat.zero_mul, Nat.add_zero]
    exact (Usb2Driver.usb2EndpTxReady_dma _ _ transfer.notControl).trans
      (congrArg UsbEndpoint.buffer (driver.bufferSet_tx transfer.size transfer.ptr))
  · rw [isStarted, Nat.zero_mul, Nat.sub_zero]
    exact Usb2Driver.usb2EndpTxReady_remaining ..
  · rw [isStarted]
    refine (Usb2Driver.usb2EndpTxReady_tLen ..).trans ?_
    rw [driver.bufferSet_tx transfer.size transfer.ptr]
    rfl
  · rw [started, reg, driver.endpTxSetNewBuffer_txCtrl accepts transfer.usb2]
    exact response_setResponse _ (Or.inl rfl)
  · exact congrArg (List.count _) (congrArg Fixed.userCalls kept)

theorem addrReg_eq (transfer : InTransfer driver) :
    usb2TxEndpointAddrReg transfer.endpNum = .tx transfer.reg := if_neg transfer.notControl

/-- Other traffic keeps the packet armed. -/
theorem Armed.run {events : List Usb2Event} (isArmed : transfer.Armed index armed)
    (apart : ∀ event ∈ events, event.TxApart transfer.reg) :
    transfer.Armed index (Usb2Event.run bsp armed events) := by
  have notControl : 0 ≠ transfer.reg := (usb2EndpointReg_ne_zero transfer.notControl).symm
  have bank := @txBank_run bsp armed events transfer.reg notControl apart
  constructor
  · exact (config_run bsp armed events).trans isArmed.config
  · exact (congrArg TxBank.txDma bank).trans isArmed.address
  · have remaining := congrFun (congrFun (congrArg TxBank.remaining bank) transfer.endpNum) rfl
    exact remaining.trans isArmed.remaining
  · exact (congrArg TxBank.tLen bank).trans isArmed.length
  · exact (congrArg (fun bank => response bank.txCtrl) bank).trans isArmed.acknowledged
  · exact (called_txComplete_run bsp apart).trans isArmed.unreported

theorem Armed.packetSize_eq (isArmed : transfer.Armed index armed) :
    (armed.device.tx transfer.endpNum).maxPacketSize = transfer.packetSize :=
  congrFun (congrArg Config.txMaxPacketSize isArmed.config) transfer.endpNum

theorem Armed.address_ne_zero (isArmed : transfer.Armed index armed) :
    armed.dma (usb2TxEndpointAddrReg transfer.endpNum) ≠ 0 := by
  have positive := Nat.pos_of_ne_zero transfer.notNull
  rw [transfer.addrReg_eq, isArmed.address]
  omega

/-- The bytes that are left when the packet has been counted. -/
theorem Armed.remaining_counted (isArmed : transfer.Armed index armed) :
    (armed.countInPacket transfer.endpNum).endpTxRemainingBytes transfer.endpNum =
      transfer.size - (index + 1) * transfer.packetSize := by
  have counted : (armed.countInPacket transfer.endpNum).endpTxRemainingBytes transfer.endpNum =
      armed.endpTxRemainingBytes transfer.endpNum - armed.inPacketLen transfer.endpNum :=
    Function.update_self ..
  rw [counted, Usb2Driver.inPacketLen, isArmed.packetSize_eq, isArmed.remaining, Nat.succ_mul]
  omega

/-- A completion before the last one moves the address by one packet. -/
theorem Armed.next (isArmed : transfer.Armed index armed) (reply : UserReply)
    (more : index + 1 < transfer.packetCount) :
    transfer.Armed (index + 1) (armed.usb2InTransferHandler bsp transfer.endpNum reply) := by
  have inside := (transfer.lt_packetCount_iff (Nat.succ_ne_zero index)).mp more
  have left : (armed.countInPacket transfer.endpNum).endpTxRemainingBytes transfer.endpNum ≠ 0 := by
    rw [isArmed.remaining_counted]
    exact Nat.sub_ne_zero_of_lt inside
  have full : armed.inPacketLen transfer.endpNum = transfer.packetSize := by
    rw [Usb2Driver.inPacketLen, isArmed.packetSize_eq, isArmed.remaining]
    rw [Nat.succ_mul] at inside
    omega
  have moved : u32 (transfer.ptr + index * transfer.packetSize + transfer.packetSize) =
      transfer.ptr + (index + 1) * transfer.packetSize := by
    have addressable := transfer.addressable
    rw [u32, Nat.add_assoc, ← Nat.succ_mul]
    exact Nat.mod_eq_of_lt (by omega)
  have config := (armed.config_usb2InTransferHandler bsp transfer.endpNum reply).trans
    isArmed.config
  revert config
  unfold Usb2Driver.usb2InTransferHandler
  simp only []
  rw [if_pos isArmed.address_ne_zero, if_neg left, transfer.addrReg_eq, full, isArmed.address,
    moved]
  intro config
  constructor
  · exact config
  · exact Function.update_self ..
  · exact isArmed.remaining_counted
  · exact isArmed.length
  · change response ((Usb2Driver.setTxCtrl _ transfer.reg _).txCtrl transfer.reg) = uepResAck
    rw [Usb2Driver.setTxCtrl_self, response_xor_tog]
    exact response_setResponse _ (Or.inl rfl)
  · exact isArmed.unreported

/-- The last completion calls `tx_complete`. -/
theorem Armed.last (isArmed : transfer.Armed index armed) (reply : UserReply)
    (isLast : index + 1 = transfer.packetCount) :
    transfer.completions (armed.usb2InTransferHandler bsp transfer.endpNum reply) =
      transfer.completions driver + 1 := by
  have isEmpty : (armed.countInPacket transfer.endpNum).endpTxRemainingBytes
      transfer.endpNum = 0 := by
    have outside : ¬(index + 1) * transfer.packetSize < transfer.size := fun inside =>
      absurd ((transfer.lt_packetCount_iff (Nat.succ_ne_zero index)).mpr inside)
        (isLast ▸ Nat.lt_irrefl _)
    rw [isArmed.remaining_counted]
    exact Nat.sub_eq_zero_of_le (Nat.le_of_not_lt outside)
  have reported : transfer.completions ((armed.beforeTxComplete bsp transfer.endpNum).invoke bsp
      (.txComplete transfer.endpNum) reply) = transfer.completions driver + 1 := by
    have before : transfer.completions (armed.beforeTxComplete bsp transfer.endpNum) =
        transfer.completions driver := isArmed.unreported
    rw [← before]
    unfold completions Usb2Driver.called
    rw [userCalls_invoke, List.count_append, List.count_singleton_self]
  unfold Usb2Driver.usb2InTransferHandler
  simp only []
  rw [if_pos isArmed.address_ne_zero, if_pos isEmpty, if_pos transfer.notControl]
  exact reported

/-! ## The whole transfer -/

theorem armed_afterPackets (traffic : transfer.Traffic) (inside : index < transfer.packetCount) :
    transfer.Armed index (transfer.afterPackets bsp traffic index) := by
  induction index with
  | zero => exact armed_started
  | succ index ih =>
      have before := (ih (Nat.lt_of_succ_lt inside)).run bsp (traffic.apart index)
      exact before.next bsp (traffic.reply index) inside

theorem reported_once (traffic : transfer.Traffic) :
    transfer.completions (transfer.afterPackets bsp traffic transfer.packetCount) =
      transfer.completions driver + 1 := by
  obtain ⟨index, isLast⟩ : ∃ index, index + 1 = transfer.packetCount :=
    ⟨transfer.packetCount - 1, Nat.sub_add_cancel (le_max_left 1 _)⟩
  have inside : index < transfer.packetCount := by omega
  have before := (armed_afterPackets bsp traffic inside).run bsp (traffic.apart index)
  rw [← isLast]
  exact before.last bsp (traffic.reply index) isLast

/-- The length of the first packet is right for all of them. -/
theorem lengths_iff :
    (∀ index < transfer.packetCount, min transfer.size transfer.packetSize =
      min transfer.packetSize (transfer.size - index * transfer.packetSize)) ↔
      transfer.size ≤ transfer.packetSize ∨ transfer.packetSize ∣ transfer.size := by
  have positive : 0 < transfer.packetSize := transfer.packetSize_pos
  constructor
  · intro lengths
    by_contra neither
    obtain ⟨long, notMultiple⟩ := not_or.mp neither
    have quotient := Nat.div_pos (Nat.le_of_not_le long) positive
    have division := Nat.div_add_mod' transfer.size transfer.packetSize
    have rest_pos := Nat.pos_of_ne_zero fun noRest => notMultiple (Nat.dvd_of_mod_eq_zero noRest)
    have rest_lt := Nat.mod_lt transfer.size positive
    have lastPacket := lengths (transfer.size / transfer.packetSize)
      ((transfer.lt_packetCount_iff quotient.ne').mpr (by omega))
    omega
  · rintro (short | ⟨count, multiple⟩) index inside
    · by_cases first : index = 0
      · rw [first, Nat.zero_mul, Nat.sub_zero, Nat.min_comm]
      · have within := (transfer.lt_packetCount_iff first).mp inside
        have packets := Nat.le_mul_of_pos_left transfer.packetSize (Nat.pos_of_ne_zero first)
        omega
    · by_cases first : index = 0
      · rw [first, Nat.zero_mul, Nat.sub_zero, Nat.min_comm]
      · have within := (transfer.lt_packetCount_iff first).mp inside
        rw [multiple, Nat.mul_comm] at within
        have next : (index + 1) * transfer.packetSize ≤ transfer.size := by
          rw [multiple, Nat.mul_comm transfer.packetSize]
          exact Nat.mul_le_mul_right _ (Nat.lt_of_mul_lt_mul_left within)
        rw [Nat.succ_mul] at next
        omega

/-- The packets are those of the buffer exactly when the last one is as long as the first. -/
theorem sendsBuffer_iff (transfer : InTransfer driver) (traffic : transfer.Traffic) :
    transfer.SendsBuffer bsp traffic ↔
      transfer.size ≤ transfer.packetSize ∨ transfer.packetSize ∣ transfer.size := by
  rw [← lengths_iff]
  constructor
  · intro sends index inside
    rw [← (armed_afterPackets bsp traffic inside).length]
    exact (sends.1 index inside).2.1
  · intro lengths
    constructor
    · intro index inside
      have isArmed := armed_afterPackets bsp traffic inside
      exact ⟨isArmed.address, isArmed.length.trans (lengths index inside), isArmed.acknowledged,
        isArmed.unreported⟩
    · exact reported_once bsp traffic

end InTransfer

/-! ## A partial last packet -/

def bulkIn : Usb2Driver :=
  .initial { usbDevice0 with
    tx := Function.update usbDevice0.tx 1 ⟨0, 2, 64, 128, endpStateNak⟩ } fun _ => 0#8

def hundredBytes : InTransfer bulkIn where
  endpNum := 1
  ptr := 0x20020000
  size := 100
  usb2 := by decide
  notControl := endpoint1_notControl
  packetSize_pos := by decide
  notNull := by decide
  fits := by decide
  addressable := by decide

def quiet : hundredBytes.Traffic where
  before _ := []
  reply _ := noReply
  apart _ event member := absurd member (by simp)

/-- The second packet of 100 bytes is armed with 64 bytes, of which 36 belong to the buffer. -/
theorem hundred_bytes_send_more : ¬hundredBytes.SendsBuffer ⟨3, by decide, by decide⟩ quiet := by
  intro sends
  have second := (sends.1 1 (by decide)).2.1
  exact absurd second (by decide)

end WchCh56x.Usb.InPackets
