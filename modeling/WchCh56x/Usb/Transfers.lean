import WchCh56x.Usb.EndpointSetup

/-!
# IN and OUT transfers of the USB2 backend

Both handlers read the control registers of their endpoint first and store values
made from these copies after the user's callback has returned.
-/

namespace WchCh56x.Usb

namespace Usb2Driver

variable (bsp : Usb2Bsp) (driver : Usb2Driver)

/-! ## IN -/

/-- The bytes of the packet that an IN completion reports. -/
def inPacketLen (endpNum : Fin 16) : Nat :=
  min (driver.endpTxRemainingBytes endpNum) (driver.device.tx endpNum).maxPacketSize

/-- The counters after an IN completion. -/
def countInPacket (endpNum : Fin 16) : Usb2Driver :=
  let len := driver.inPacketLen endpNum
  let driver := { driver with usbSetupReqDataSize := u16 (driver.usbSetupReqDataSize + len) }
  driver.setRemaining endpNum (driver.endpTxRemainingBytes endpNum - len)

/-- The copies of RX_CTRL and TX_CTRL after the last packet of an IN transfer. -/
def inTransferCtrl (endpNum : Fin 16) (len : Nat) (rxCtrl txCtrl : U8) : U8 × U8 :=
  if endpNum = 0 ∧ ¬driver.usbSetupReq.IsIn then
    (uepResAck ||| rbUepTog0, uepResNak ||| rbUepTog0)
  else if endpNum = 0 ∧ (driver.usbSetupReq.wLength.toNat ≤ driver.usbSetupReqDataSize ∨
      len < (driver.device.tx endpNum).maxPacketSize) then
    (uepResAck ||| bsp.rbUepTog1, uepResNak ||| bsp.rbUepTog1)
  else
    (rxCtrl, txCtrl ^^^ bsp.rbUepTog1)

/-- What `inTransferCtrl` makes of the registers when the packet has been counted. -/
def inTransferStored (endpNum : Fin 16) : U8 × U8 :=
  (driver.countInPacket endpNum).inTransferCtrl bsp endpNum (driver.inPacketLen endpNum)
    (driver.rxCtrl (usb2EndpointReg endpNum)) (driver.txCtrl (usb2EndpointReg endpNum))

def beforeTxComplete (endpNum : Fin 16) : Usb2Driver :=
  let reg := usb2EndpointReg endpNum
  let counted := (driver.countInPacket endpNum).setTLen reg 0
  counted.setTxCtrl reg (setResponse (driver.inTransferStored bsp endpNum).2 uepResNak)

def usb2InTransferHandler (endpNum : Fin 16) (reply : UserReply) : Usb2Driver :=
  let reg := usb2EndpointReg endpNum
  let addrReg := usb2TxEndpointAddrReg endpNum
  let txCtrl := driver.txCtrl reg
  let rxCtrl := driver.rxCtrl reg
  if driver.dma addrReg ≠ 0 then
    let counted := driver.countInPacket endpNum
    if counted.endpTxRemainingBytes endpNum = 0 then
      let after := (driver.beforeTxComplete bsp endpNum).invoke bsp (.txComplete endpNum) reply
      let after :=
        if endpNum ≠ 0 then after.setDma addrReg (after.device.tx endpNum).buffer else after
      after.setRxCtrl reg (driver.inTransferStored bsp endpNum).1
    else
      let moved := counted.setDma addrReg (u32 (driver.dma addrReg + driver.inPacketLen endpNum))
      let moved := moved.setTxCtrl reg (setResponse txCtrl uepResAck ^^^ bsp.rbUepTog1)
      moved.setRxCtrl reg rxCtrl
  else
    (driver.setTxCtrl reg (setResponse txCtrl uepResNak)).setRxCtrl reg rxCtrl

/-! ## OUT -/

def beforeRxCallback (endpNum : Fin 16) (numBytesReceived : Nat) : Usb2Driver :=
  if endpNum = 0 then
    { driver with usbSetupReqDataSize := u16 (driver.usbSetupReqDataSize + numBytesReceived) }
  else
    driver

/-- What `rx_callback` returned is the endpoint's state and the buffer is armed again. -/
def afterRxCallback (endpNum : Fin 16) (state : U8) : Usb2Driver :=
  let driver := driver.setRx endpNum { driver.device.rx endpNum with state := state }
  driver.setDma (usb2RxEndpointAddrReg endpNum) (driver.device.rx endpNum).buffer

/-- RX_CTRL after a packet of an endpoint other than 0, or of endpoint 0 within its data stage. -/
def outPacketCtrl (rxCtrl state : U8) : U8 :=
  if state = endpStateAck then
    setResponse rxCtrl state ^^^ bsp.rbUepTog1
  else
    setResponse rxCtrl state

def usb2OutTransferHandler (endpNum : Fin 16) (numBytesReceived : Nat) (reply : UserReply) :
    Usb2Driver :=
  let reg := usb2EndpointReg endpNum
  let rxCtrl := driver.rxCtrl reg
  let buffer := (driver.device.rx endpNum).buffer
  if buffer ≠ 0 then
    let after := (driver.beforeRxCallback endpNum numBytesReceived).invoke bsp
      (.rxCallback endpNum buffer numBytesReceived) reply
    let after := after.afterRxCallback endpNum reply.state
    if endpNum = 0 ∧ after.usbSetupReq.IsIn then
      (after.setTxCtrl reg (uepResNak ||| rbUepTog0)).setRxCtrl reg (uepResAck ||| rbUepTog0)
    else if endpNum = 0 ∧ after.usbSetupReq.wLength.toNat ≤ after.usbSetupReqDataSize then
      (after.setTxCtrl reg (uepResNak ||| bsp.rbUepTog1)).setRxCtrl reg
        (uepResNak ||| bsp.rbUepTog1)
    else
      after.setRxCtrl reg (outPacketCtrl bsp rxCtrl reply.state)
  else
    driver.setRxCtrl reg (setResponse rxCtrl uepResNak)

end Usb2Driver

/-! ## Control register values -/

theorem EndpState.inMask {state : U8} (valid : EndpState state) :
    state &&& rbUepResMask = state := by
  rcases valid with rfl | rfl | rfl
  · rfl
  · rfl
  · rfl

theorem EndpState.bit_eq_false {state : U8} (valid : EndpState state) (bsp : Usb2Bsp) :
    state.getLsbD bsp.togBit = false := by
  have bits : ∀ bit < 8, 2 ≤ bit → endpStateAck.getLsbD bit = false ∧
      endpStateNak.getLsbD bit = false ∧ endpStateStall.getLsbD bit = false := by decide
  obtain ⟨ack, nak, stall⟩ := bits bsp.togBit bsp.insideByte bsp.outsideMask
  rcases valid with rfl | rfl | rfl
  · exact ack
  · exact nak
  · exact stall

theorem rbUepResMask_togBit (bsp : Usb2Bsp) : rbUepResMask.getLsbD bsp.togBit = false := by
  have bits : ∀ bit < 8, 2 ≤ bit → rbUepResMask.getLsbD bit = false := by decide
  exact bits bsp.togBit bsp.insideByte bsp.outsideMask

theorem rbUepTog1_eq (bsp : Usb2Bsp) : bsp.rbUepTog1 = BitVec.twoPow 8 bsp.togBit :=
  (BitVec.twoPow_eq 8 _).symm

theorem response_setResponse (ctrl : U8) {state : U8} (valid : EndpState state) :
    response (setResponse ctrl state) = state := by
  rw [response, setResponse, BitVec.and_or_distrib_right, valid.inMask, BitVec.and_assoc,
    show ~~~rbUepResMask &&& rbUepResMask = 0#8 from rfl]
  simp

theorem toggle_setResponse (bsp : Usb2Bsp) (ctrl : U8) {state : U8} (valid : EndpState state) :
    toggle bsp (setResponse ctrl state) = toggle bsp ctrl := by
  rw [toggle, setResponse, BitVec.getLsbD_or, BitVec.getLsbD_and, BitVec.getLsbD_not,
    rbUepResMask_togBit, valid.bit_eq_false bsp]
  simp [toggle, bsp.insideByte]

theorem response_xor_tog (bsp : Usb2Bsp) (ctrl : U8) :
    response (ctrl ^^^ bsp.rbUepTog1) = response ctrl := by
  ext bit inRange
  rw [response, response, rbUepTog1_eq, BitVec.getElem_and, BitVec.getElem_and,
    BitVec.getElem_xor, BitVec.getElem_twoPow]
  by_cases isTog : bit = bsp.togBit
  · subst isTog
    have masked := rbUepResMask_togBit bsp
    rw [BitVec.getLsbD_eq_getElem inRange] at masked
    simp [masked]
  · simp [isTog]

theorem toggle_xor_tog (bsp : Usb2Bsp) (ctrl : U8) :
    toggle bsp (ctrl ^^^ bsp.rbUepTog1) = !toggle bsp ctrl := by
  rw [toggle, BitVec.getLsbD_xor, rbUepTog1_eq, BitVec.getLsbD_twoPow]
  simp [toggle, bsp.insideByte]

end WchCh56x.Usb
