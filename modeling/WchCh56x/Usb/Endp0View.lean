import WchCh56x.Usb.EventFrames

/-!
# Endpoint 0 in passthrough mode

The view is everything that the passthrough branches read for endpoint 0, apart from
the byte count of the control transfer.  Traffic of other endpoints does not change it.
-/

namespace WchCh56x.Usb

structure Endp0 where
  config : Config
  state : UsbDeviceState
  rtDma : Nat
  usbSetupReq : UsbSetup
  rxCtrl : U8
  txCtrl : U8
  tLen : Nat
  remaining : Nat
  tx : UsbEndpoint
  rx : UsbEndpoint

/-- The user's callback makes no call for endpoint 0. -/
def UserReply.LeavesEndp0 (reply : UserReply) : Prop :=
  ∀ apiCall ∈ reply.calls, apiCall.endpNum ≠ 0

instance (reply : UserReply) : Decidable reply.LeavesEndp0 :=
  inferInstanceAs (Decidable (∀ apiCall ∈ _, _))

namespace Usb2Driver

variable (bsp : Usb2Bsp) (driver : Usb2Driver)

def endp0 : Endp0 where
  config := driver.config
  state := driver.device.state
  rtDma := driver.dma .uep0Rt
  usbSetupReq := driver.usbSetupReq
  rxCtrl := driver.rxCtrl 0
  txCtrl := driver.txCtrl 0
  tLen := driver.tLen 0
  remaining := driver.endpTxRemainingBytes 0
  tx := driver.device.tx 0
  rx := driver.device.rx 0

def AcksOut : Prop := response (driver.rxCtrl 0) = uepResAck

instance : Decidable driver.AcksOut := inferInstanceAs (Decidable (_ = _))

/-! ## Registers of endpoint 0 -/

@[simp] theorem endp0_setRxCtrl (value : U8) :
    (driver.setRxCtrl 0 value).endp0 = { driver.endp0 with rxCtrl := value } := rfl

@[simp] theorem endp0_setTxCtrl (value : U8) :
    (driver.setTxCtrl 0 value).endp0 = { driver.endp0 with txCtrl := value } := rfl

@[simp] theorem endp0_setTLen (value : Nat) :
    (driver.setTLen 0 value).endp0 = { driver.endp0 with tLen := value } := rfl

@[simp] theorem endp0_setDma (value : Nat) :
    (driver.setDma .uep0Rt value).endp0 = { driver.endp0 with rtDma := value } := rfl

@[simp] theorem endp0_setRemaining (value : Nat) :
    (driver.setRemaining 0 value).endp0 = { driver.endp0 with remaining := value } := rfl

theorem endp0_setTx_buffer (ptr : Nat) :
    (driver.setTx 0 { driver.device.tx 0 with buffer := ptr }).endp0 =
      { driver.endp0 with tx := { driver.endp0.tx with buffer := ptr } } := by
  have fixed := @fixed_setTx driver 0 { driver.device.tx 0 with buffer := ptr } rfl rfl
  unfold endp0
  rw [show (driver.setTx 0 _).config = driver.config from congrArg Fixed.config fixed]
  rfl

theorem endp0_setTx_state (state : U8) :
    (driver.setTx 0 { driver.device.tx 0 with state := state }).endp0 =
      { driver.endp0 with tx := { driver.endp0.tx with state := state } } := by
  have fixed := @fixed_setTx driver 0 { driver.device.tx 0 with state := state } rfl rfl
  unfold endp0
  rw [show (driver.setTx 0 _).config = driver.config from congrArg Fixed.config fixed]
  rfl

theorem endp0_setRx_state (state : U8) :
    (driver.setRx 0 { driver.device.rx 0 with state := state }).endp0 =
      { driver.endp0 with rx := { driver.endp0.rx with state := state } } := by
  have fixed := @fixed_setRx driver 0 { driver.device.rx 0 with state := state } rfl rfl
  unfold endp0
  rw [show (driver.setRx 0 _).config = driver.config from congrArg Fixed.config fixed]
  rfl

/-! ## Traffic of other endpoints -/

section

variable {driver} {reg : Fin 8} {endpNum : Fin 16} {reply : UserReply}

theorem endp0_setRxCtrl_of_ne (other : reg ≠ 0) (value : U8) :
    (driver.setRxCtrl reg value).endp0 = driver.endp0 := by
  simp only [endp0, setRxCtrl, Function.update_of_ne other.symm]
  rfl

theorem endp0_setTxCtrl_of_ne (other : reg ≠ 0) (value : U8) :
    (driver.setTxCtrl reg value).endp0 = driver.endp0 := by
  simp only [endp0, setTxCtrl, Function.update_of_ne other.symm]
  rfl

theorem endp0_setTLen_of_ne (other : reg ≠ 0) (value : Nat) :
    (driver.setTLen reg value).endp0 = driver.endp0 := by
  simp only [endp0, setTLen, Function.update_of_ne other.symm]
  rfl

theorem endp0_setDma_of_ne {dmaReg : DmaReg} (other : dmaReg ≠ .uep0Rt) (value : Nat) :
    (driver.setDma dmaReg value).endp0 = driver.endp0 := by
  simp only [endp0, setDma, Function.update_of_ne other.symm]
  rfl

theorem endp0_setRemaining_of_ne (other : endpNum ≠ 0) (value : Nat) :
    (driver.setRemaining endpNum value).endp0 = driver.endp0 := by
  simp only [endp0, setRemaining, Function.update_of_ne other.symm]
  rfl

/-- The endpoint-0 view has nothing but the fixed part and the register bank of endpoint 0. -/
theorem endp0_eq_of {other : Usb2Driver} (config : driver.config = other.config)
    (state : driver.device.state = other.device.state)
    (rtDma : driver.dma .uep0Rt = other.dma .uep0Rt)
    (usbSetupReq : driver.usbSetupReq = other.usbSetupReq) (bank : driver.bank 0 = other.bank 0) :
    driver.endp0 = other.endp0 := by
  have rxCtrl : driver.rxCtrl 0 = other.rxCtrl 0 := congrArg Bank.rxCtrl bank
  have txCtrl : driver.txCtrl 0 = other.txCtrl 0 := congrArg Bank.txCtrl bank
  have tLen : driver.tLen 0 = other.tLen 0 := congrArg Bank.tLen bank
  have remaining : driver.endpTxRemainingBytes 0 = other.endpTxRemainingBytes 0 :=
    congrFun (congrFun (congrArg Bank.remaining bank) 0) rfl
  have tx : driver.device.tx 0 = other.device.tx 0 :=
    congrFun (congrFun (congrArg Bank.tx bank) 0) rfl
  have rx : driver.device.rx 0 = other.device.rx 0 :=
    congrFun (congrFun (congrArg Bank.rx bank) 0) rfl
  simp only [endp0, config, state, rtDma, usbSetupReq, rxCtrl, txCtrl, tLen, remaining, tx, rx]

theorem endp0_call_of_ne {apiCall : ApiCall} (other : apiCall.endpNum ≠ 0) :
    (driver.call bsp apiCall).endp0 = driver.endp0 := by
  have fixed := driver.fixed_call bsp apiCall
  exact endp0_eq_of (congrArg Fixed.config fixed) (congrArg Fixed.state fixed)
    (congrArg Fixed.rtDma fixed) (congrArg Fixed.usbSetupReq fixed)
    (bank_call bsp (usb2EndpointReg_ne_zero other))

theorem endp0_invoke_of_leaves (userCall : UserCall) (leaves : reply.LeavesEndp0) :
    (driver.invoke bsp userCall reply).endp0 = driver.endp0 := by
  have fixed := fixed_invoke bsp driver userCall reply
  exact endp0_eq_of (congrArg Fixed.config fixed) (congrArg Fixed.state fixed)
    (congrArg Fixed.rtDma fixed) (congrArg Fixed.usbSetupReq fixed)
    (bank_invoke bsp fun apiCall member => usb2EndpointReg_ne_zero (leaves apiCall member))

theorem usb2TxEndpointAddrReg_ne_uep0Rt (other : endpNum ≠ 0) :
    usb2TxEndpointAddrReg endpNum ≠ .uep0Rt := by
  rw [usb2TxEndpointAddrReg, if_neg other]
  nofun

theorem usb2RxEndpointAddrReg_ne_uep0Rt (other : endpNum ≠ 0) :
    usb2RxEndpointAddrReg endpNum ≠ .uep0Rt := by
  rw [usb2RxEndpointAddrReg, if_neg other]
  nofun

theorem endp0_usb2InTransferHandler_of_ne (other : endpNum ≠ 0) (leaves : reply.LeavesEndp0) :
    (driver.usb2InTransferHandler bsp endpNum reply).endp0 = driver.endp0 := by
  have otherReg := usb2EndpointReg_ne_zero other
  have otherAddr := usb2TxEndpointAddrReg_ne_uep0Rt other
  have counted : (driver.countInPacket endpNum).endp0 = driver.endp0 :=
    endp0_setRemaining_of_ne other _
  unfold usb2InTransferHandler
  simp only []
  split
  · split
    · rw [endp0_setRxCtrl_of_ne otherReg, endp0_setDma_of_ne otherAddr,
        endp0_invoke_of_leaves bsp _ leaves, beforeTxComplete, endp0_setTxCtrl_of_ne otherReg,
        endp0_setTLen_of_ne otherReg, counted]
    · rw [endp0_setRxCtrl_of_ne otherReg, endp0_setTxCtrl_of_ne otherReg,
        endp0_setDma_of_ne otherAddr, counted]
  · rw [endp0_setRxCtrl_of_ne otherReg, endp0_setTxCtrl_of_ne otherReg]

theorem endp0_setRx_state_of_ne (other : endpNum ≠ 0) (state : U8) :
    (driver.setRx endpNum { driver.device.rx endpNum with state := state }).endp0 =
      driver.endp0 := by
  have fixed := @fixed_setRx driver endpNum { driver.device.rx endpNum with state := state } rfl rfl
  exact endp0_eq_of (congrArg Fixed.config fixed) rfl rfl rfl
    (bank_setRx (usb2EndpointReg_ne_zero other) _)

theorem endp0_usb2OutTransferHandler_of_ne (other : endpNum ≠ 0) (leaves : reply.LeavesEndp0)
    (numBytesReceived : Nat) :
    (driver.usb2OutTransferHandler bsp endpNum numBytesReceived reply).endp0 = driver.endp0 := by
  have otherReg := usb2EndpointReg_ne_zero other
  have otherAddr := usb2RxEndpointAddrReg_ne_uep0Rt other
  unfold usb2OutTransferHandler
  simp only []
  split
  · rw [if_neg (fun isIt => other isIt.1), if_neg (fun isIt => other isIt.1),
      endp0_setRxCtrl_of_ne otherReg, afterRxCallback, endp0_setDma_of_ne otherAddr,
      endp0_setRx_state_of_ne other, endp0_invoke_of_leaves bsp _ leaves, beforeRxCallback,
      if_neg other]
  · rw [endp0_setRxCtrl_of_ne otherReg]

end

/-! ## Endpoint 0 itself -/

/-- The last packet of a transfer on endpoint 0. -/
theorem usb2InTransferHandler_endp0_last {reply : UserReply} (armed : driver.dma .uep0Rt ≠ 0)
    (isLast : (driver.countInPacket 0).endpTxRemainingBytes 0 = 0) :
    driver.usb2InTransferHandler bsp 0 reply =
      ((driver.beforeTxComplete bsp 0).invoke bsp (.txComplete 0) reply).setRxCtrl 0
        (driver.inTransferStored bsp 0).1 := by
  refine (if_pos armed).trans ((if_pos isLast).trans ?_)
  rfl

theorem usb2InTransferHandler_endp0_more {reply : UserReply} (armed : driver.dma .uep0Rt ≠ 0)
    (more : ¬(driver.countInPacket 0).endpTxRemainingBytes 0 = 0) :
    driver.usb2InTransferHandler bsp 0 reply =
      (((driver.countInPacket 0).setDma .uep0Rt
          (u32 (driver.dma .uep0Rt + driver.inPacketLen 0))).setTxCtrl 0
        (setResponse (driver.txCtrl 0) uepResAck ^^^ bsp.rbUepTog1)).setRxCtrl 0
          (driver.rxCtrl 0) := by
  exact (if_pos armed).trans (if_neg more)

theorem usb2InTransferHandler_endp0_idle {reply : UserReply} (idle : driver.dma .uep0Rt = 0) :
    driver.usb2InTransferHandler bsp 0 reply =
      (driver.setTxCtrl 0 (setResponse (driver.txCtrl 0) uepResNak)).setRxCtrl 0
        (driver.rxCtrl 0) := by
  exact if_neg (not_not.mpr idle)

/-- The driver that stores over the control registers after `rx_callback[0]`. -/
def rxCallbackDone (numBytesReceived : Nat) (reply : UserReply) : Usb2Driver :=
  ((driver.beforeRxCallback 0 numBytesReceived).invoke bsp
    (.rxCallback 0 (driver.device.rx 0).buffer numBytesReceived) reply).afterRxCallback 0
      reply.state

theorem usbSetupReqDataSize_rxCallbackDone (numBytesReceived : Nat) (reply : UserReply) :
    (driver.rxCallbackDone bsp numBytesReceived reply).usbSetupReqDataSize =
      u16 (driver.usbSetupReqDataSize + numBytesReceived) :=
  congrArg Fixed.usbSetupReqDataSize (fixed_invoke bsp (driver.beforeRxCallback 0 numBytesReceived)
    (.rxCallback 0 (driver.device.rx 0).buffer numBytesReceived) reply)

theorem usb2OutTransferHandler_endp0 {numBytesReceived : Nat} {reply : UserReply}
    (armed : (driver.device.rx 0).buffer ≠ 0) :
    driver.usb2OutTransferHandler bsp 0 numBytesReceived reply =
      let done := driver.rxCallbackDone bsp numBytesReceived reply
      if done.usbSetupReq.IsIn then
        (done.setTxCtrl 0 (uepResNak ||| rbUepTog0)).setRxCtrl 0 (uepResAck ||| rbUepTog0)
      else if done.usbSetupReq.wLength.toNat ≤ done.usbSetupReqDataSize then
        (done.setTxCtrl 0 (uepResNak ||| bsp.rbUepTog1)).setRxCtrl 0 (uepResNak ||| bsp.rbUepTog1)
      else
        done.setRxCtrl 0 (outPacketCtrl bsp (driver.rxCtrl 0) reply.state) := by
  refine (if_pos armed).trans ?_
  simp only [true_and]
  rfl

theorem usb2OutTransferHandler_endp0_idle {numBytesReceived : Nat} {reply : UserReply}
    (idle : (driver.device.rx 0).buffer = 0) :
    driver.usb2OutTransferHandler bsp 0 numBytesReceived reply =
      driver.setRxCtrl 0 (setResponse (driver.rxCtrl 0) uepResNak) :=
  if_neg (not_not.mpr idle)

section

variable {driver} {other : Usb2Driver} (same : driver.endp0 = other.endp0)

include same

theorem endp0_endpRxSetState (state : U8) :
    (driver.endpRxSetState bsp 0 state).endp0 = (other.endpRxSetState bsp 0 state).endp0 := by
  have speed : driver.device.speed = other.device.speed :=
    congrArg (fun view => view.config.speed) same
  have stored : (driver.setRx 0 { driver.device.rx 0 with state := state }).endp0 =
      (other.setRx 0 { other.device.rx 0 with state := state }).endp0 := by
    rw [endp0_setRx_state, endp0_setRx_state, same]
  by_cases superspeed : other.device.speed = .usb30Superspeed
  · rw [driver.endpRxSetState_of_superspeed bsp (speed.trans superspeed),
      other.endpRxSetState_of_superspeed bsp superspeed, stored]
  · have rxCtrl : driver.rxCtrl 0 = other.rxCtrl 0 := congrArg Endp0.rxCtrl same
    rw [driver.endpRxSetState_of_usb2 bsp (speed ▸ superspeed),
      other.endpRxSetState_of_usb2 bsp superspeed]
    exact congrArg₂ (fun view ctrl => { view with rxCtrl := rxCtrlForState bsp ctrl state }) stored
      rxCtrl

theorem endp0_endpTxSetState (state : U8) :
    (driver.endpTxSetState 0 state).endp0 = (other.endpTxSetState 0 state).endp0 := by
  have speed : driver.device.speed = other.device.speed :=
    congrArg (fun view => view.config.speed) same
  have stored : (driver.setTx 0 { driver.device.tx 0 with state := state }).endp0 =
      (other.setTx 0 { other.device.tx 0 with state := state }).endp0 := by
    rw [endp0_setTx_state, endp0_setTx_state, same]
  by_cases superspeed : other.device.speed = .usb30Superspeed
  · rw [driver.endpTxSetState_of_superspeed (speed.trans superspeed),
      other.endpTxSetState_of_superspeed superspeed, stored]
  · have txCtrl : driver.txCtrl 0 = other.txCtrl 0 := congrArg Endp0.txCtrl same
    rw [driver.endpTxSetState_of_usb2 (speed ▸ superspeed),
      other.endpTxSetState_of_usb2 superspeed]
    exact congrArg₂ (fun view ctrl => { view with txCtrl := setResponse ctrl state }) stored txCtrl

theorem endp0_endpTxReady (size : Nat) :
    (driver.endpTxReady 0 size).endp0 = (other.endpTxReady 0 size).endp0 := by
  have speed : driver.device.speed = other.device.speed :=
    congrArg (fun view => view.config.speed) same
  have unchanged (driver : Usb2Driver) (superspeed : driver.device.speed = .usb30Superspeed) :
      (driver.endpTxReady 0 size).endp0 = driver.endp0 := by
    rw [driver.endpTxReady_of_superspeed superspeed]
    split
    · rfl
    · rfl
  have armed (driver : Usb2Driver) : (driver.usb2EndpTxReady 0 size).endp0 =
      { driver.endp0 with
        remaining := size
        tLen := min size driver.endp0.tx.maxPacketSize
        txCtrl := setResponse driver.endp0.txCtrl uepResAck } := rfl
  by_cases superspeed : other.device.speed = .usb30Superspeed
  · rw [unchanged driver (speed.trans superspeed), unchanged other superspeed, same]
  · rw [driver.endpTxReady_of_usb2 (speed ▸ superspeed), other.endpTxReady_of_usb2 superspeed,
      armed, armed, same]

theorem endp0_bufferSet (ptr size : Nat) :
    (driver.bufferSet 0 ptr size).endp0 = (other.bufferSet 0 ptr size).endp0 := by
  have stored (driver : Usb2Driver) : (driver.bufferSet 0 ptr size).endp0 =
      { driver.endp0 with tx := { driver.endp0.tx with buffer := ptr } } :=
    endp0_setTx_buffer driver.enterCritical ptr
  rw [stored, stored, same]

theorem endp0_endpTxSetNewBuffer (ptr size : Nat) :
    (driver.endpTxSetNewBuffer 0 ptr size).2.endp0 =
      (other.endpTxSetNewBuffer 0 ptr size).2.endp0 := by
  have config : driver.config = other.config := congrArg Endp0.config same
  by_cases accepts : other.config.Accepts 0 ptr size
  · rw [driver.endpTxSetNewBuffer_of_accepts (config ▸ accepts),
      other.endpTxSetNewBuffer_of_accepts accepts]
    exact endp0_endpTxReady (endp0_bufferSet same ptr size) size
  have tx : driver.device.tx 0 = other.device.tx 0 := congrArg Endp0.tx same
  have buffer : driver.endp0Buffer = other.endp0Buffer :=
    congrArg (fun view => view.rx.buffer) same
  by_cases tooLong : (other.device.tx 0).maxPacketSizeWithBurst < size ∨ ptr = 0
  · rw [driver.endpTxSetNewBuffer_of_tooLong (tx ▸ tooLong),
      other.endpTxSetNewBuffer_of_tooLong tooLong]
    exact same
  · have noBuffer : other.endp0Buffer = 0 := by
      by_contra hasBuffer
      obtain ⟨fits, notNull⟩ := not_or.mp tooLong
      exact accepts ⟨Nat.le_of_not_lt fits, notNull, fun _ => hasBuffer⟩
    rw [driver.endpTxSetNewBuffer_of_noBuffer (tx ▸ tooLong) (buffer.trans noBuffer),
      other.endpTxSetNewBuffer_of_noBuffer tooLong noBuffer]
    exact endp0_bufferSet same ptr size

/-- What a call leaves in the view depends on the view alone. -/
theorem endp0_call (apiCall : ApiCall) :
    (driver.call bsp apiCall).endp0 = (other.call bsp apiCall).endp0 := by
  by_cases isControl : apiCall.endpNum = 0
  · cases apiCall with
    | endpTxSetNewBuffer endpNum ptr size =>
        obtain rfl : endpNum = 0 := isControl
        exact endp0_endpTxSetNewBuffer same ptr size
    | endpRxSetState endpNum state =>
        obtain rfl : endpNum = 0 := isControl
        exact endp0_endpRxSetState bsp same state
    | endpTxSetState endpNum state =>
        obtain rfl : endpNum = 0 := isControl
        exact endp0_endpTxSetState same state
  · rw [endp0_call_of_ne bsp isControl, endp0_call_of_ne bsp isControl, same]

theorem endp0_runCalls (calls : List ApiCall) :
    (driver.runCalls bsp calls).endp0 = (other.runCalls bsp calls).endp0 := by
  induction calls generalizing driver other with
  | nil => exact same
  | cons apiCall rest ih => exact ih (endp0_call bsp same apiCall)

theorem endp0_invoke (userCall otherCall : UserCall) (reply : UserReply) :
    (driver.invoke bsp userCall reply).endp0 = (other.invoke bsp otherCall reply).endp0 :=
  @endp0_runCalls bsp { driver with userCalls := driver.userCalls ++ [userCall] }
    { other with userCalls := other.userCalls ++ [otherCall] } same reply.calls

theorem inPacketLen_endp0 : driver.inPacketLen 0 = other.inPacketLen 0 :=
  congrArg (fun view => min view.remaining view.tx.maxPacketSize) same

theorem endp0_countInPacket : (driver.countInPacket 0).endp0 = (other.countInPacket 0).endp0 := by
  have counted (driver : Usb2Driver) : (driver.countInPacket 0).endp0 =
      { driver.endp0 with remaining := driver.endp0.remaining - driver.inPacketLen 0 } := rfl
  rw [counted, counted, same, inPacketLen_endp0 same]

theorem endp0_rxCallbackDone (numBytesReceived : Nat) (reply : UserReply) :
    (driver.rxCallbackDone bsp numBytesReceived reply).endp0 =
      (other.rxCallbackDone bsp numBytesReceived reply).endp0 := by
  have called := @endp0_invoke bsp (driver.beforeRxCallback 0 numBytesReceived)
    (other.beforeRxCallback 0 numBytesReceived) same
    (.rxCallback 0 (driver.device.rx 0).buffer numBytesReceived)
    (.rxCallback 0 (other.device.rx 0).buffer numBytesReceived) reply
  have stored (driver : Usb2Driver) : (driver.afterRxCallback 0 reply.state).endp0 =
      { driver.endp0 with
        rtDma := driver.endp0.rx.buffer
        rx := { driver.endp0.rx with state := reply.state } } :=
    congrArg (fun view => { view with rtDma := driver.endp0.rx.buffer })
      (driver.endp0_setRx_state reply.state)
  rw [rxCallbackDone, rxCallbackDone, stored, stored, called]

section

variable (sizes : driver.usbSetupReqDataSize = other.usbSetupReqDataSize)

include sizes

theorem inTransferStored_endp0 :
    driver.inTransferStored bsp 0 = other.inTransferStored bsp 0 := by
  have len := inPacketLen_endp0 same
  have request : driver.usbSetupReq = other.usbSetupReq := congrArg Endp0.usbSetupReq same
  have rxCtrl : driver.rxCtrl 0 = other.rxCtrl 0 := congrArg Endp0.rxCtrl same
  have txCtrl : driver.txCtrl 0 = other.txCtrl 0 := congrArg Endp0.txCtrl same
  have tx : driver.device.tx 0 = other.device.tx 0 := congrArg Endp0.tx same
  have ctrl (length rxCtrl txCtrl) :
      (driver.countInPacket 0).inTransferCtrl bsp 0 length rxCtrl txCtrl =
        (other.countInPacket 0).inTransferCtrl bsp 0 length rxCtrl txCtrl := by
    unfold inTransferCtrl countInPacket setRemaining
    simp only [len, request, sizes, tx]
  exact (ctrl ..).trans (congr (congr (congrArg _ len) rxCtrl) txCtrl)

theorem endp0_usb2InTransferHandler (reply : UserReply) :
    (driver.usb2InTransferHandler bsp 0 reply).endp0 =
      (other.usb2InTransferHandler bsp 0 reply).endp0 := by
  have rtDma : driver.dma .uep0Rt = other.dma .uep0Rt := congrArg Endp0.rtDma same
  have rxCtrl : driver.rxCtrl 0 = other.rxCtrl 0 := congrArg Endp0.rxCtrl same
  have txCtrl : driver.txCtrl 0 = other.txCtrl 0 := congrArg Endp0.txCtrl same
  have counted := endp0_countInPacket same
  have remaining : (driver.countInPacket 0).endpTxRemainingBytes 0 =
      (other.countInPacket 0).endpTxRemainingBytes 0 := congrArg Endp0.remaining counted
  by_cases armed : other.dma .uep0Rt ≠ 0
  · by_cases isLast : (other.countInPacket 0).endpTxRemainingBytes 0 = 0
    · have stored := inTransferStored_endp0 bsp same sizes
      have before : (driver.beforeTxComplete bsp 0).endp0 =
          (other.beforeTxComplete bsp 0).endp0 := by
        rw [beforeTxComplete, beforeTxComplete, stored]
        exact congrArg (fun view =>
          { view with tLen := 0, txCtrl := setResponse (other.inTransferStored bsp 0).2 uepResNak })
          counted
      rw [driver.usb2InTransferHandler_endp0_last bsp (rtDma ▸ armed) (remaining.trans isLast),
        other.usb2InTransferHandler_endp0_last bsp armed isLast, endp0_setRxCtrl, endp0_setRxCtrl,
        stored, endp0_invoke bsp before]
    · rw [driver.usb2InTransferHandler_endp0_more bsp (rtDma ▸ armed) (remaining ▸ isLast),
        other.usb2InTransferHandler_endp0_more bsp armed isLast, endp0_setRxCtrl, endp0_setRxCtrl,
        endp0_setTxCtrl, endp0_setTxCtrl, endp0_setDma, endp0_setDma, counted, rtDma, rxCtrl,
        txCtrl, inPacketLen_endp0 same]
  · rw [driver.usb2InTransferHandler_endp0_idle bsp (rtDma ▸ not_not.mp armed),
      other.usb2InTransferHandler_endp0_idle bsp (not_not.mp armed), endp0_setRxCtrl,
      endp0_setRxCtrl, endp0_setTxCtrl, endp0_setTxCtrl, rxCtrl, txCtrl, same]

theorem endp0_usb2OutTransferHandler (numBytesReceived : Nat) (reply : UserReply) :
    (driver.usb2OutTransferHandler bsp 0 numBytesReceived reply).endp0 =
      (other.usb2OutTransferHandler bsp 0 numBytesReceived reply).endp0 := by
  have rxCtrl : driver.rxCtrl 0 = other.rxCtrl 0 := congrArg Endp0.rxCtrl same
  have buffer : (driver.device.rx 0).buffer = (other.device.rx 0).buffer :=
    congrArg (fun view => view.rx.buffer) same
  have received := endp0_rxCallbackDone bsp same numBytesReceived reply
  have request : (driver.rxCallbackDone bsp numBytesReceived reply).usbSetupReq =
      (other.rxCallbackDone bsp numBytesReceived reply).usbSetupReq :=
    congrArg Endp0.usbSetupReq received
  have counted : (driver.rxCallbackDone bsp numBytesReceived reply).usbSetupReqDataSize =
      (other.rxCallbackDone bsp numBytesReceived reply).usbSetupReqDataSize := by
    rw [usbSetupReqDataSize_rxCallbackDone, usbSetupReqDataSize_rxCallbackDone, sizes]
  by_cases armed : (other.device.rx 0).buffer ≠ 0
  · rw [driver.usb2OutTransferHandler_endp0 bsp (buffer ▸ armed),
      other.usb2OutTransferHandler_endp0 bsp armed]
    simp only [request, counted]
    split
    · rw [endp0_setRxCtrl, endp0_setRxCtrl, endp0_setTxCtrl, endp0_setTxCtrl, received]
    · split
      · rw [endp0_setRxCtrl, endp0_setRxCtrl, endp0_setTxCtrl, endp0_setTxCtrl, received]
      · rw [endp0_setRxCtrl, endp0_setRxCtrl, rxCtrl, received]
  · have idle := not_not.mp armed
    rw [driver.usb2OutTransferHandler_endp0_idle bsp (buffer.trans idle),
      other.usb2OutTransferHandler_endp0_idle bsp idle, endp0_setRxCtrl, endp0_setRxCtrl, rxCtrl,
      same]

end

theorem endp0_passthroughSetup (reply : UserReply) :
    (driver.passthroughSetup bsp reply).endp0 = (other.passthroughSetup bsp reply).endp0 := by
  have called := endp0_invoke bsp same (.endp0PassthroughSetupCallback driver.endp0Buffer)
    (.endp0PassthroughSetupCallback other.endp0Buffer) reply
  have stored (driver : Usb2Driver) : (driver.passthroughSetup bsp reply).endp0 =
      let view :=
        (driver.invoke bsp (.endp0PassthroughSetupCallback driver.endp0Buffer) reply).endp0
      { view with
        rx := { view.rx with state := reply.state }
        txCtrl := uepResNak ||| bsp.rbUepTog1
        rxCtrl := outPacketCtrl bsp view.rxCtrl reply.state } := by
    unfold passthroughSetup
    simp only []
    rw [endp0_setRxCtrl, endp0_setTxCtrl, endp0_setRx_state]
    rfl
  rw [stored, stored, called]

end

end Usb2Driver

end WchCh56x.Usb
