import WchCh56x.Usb.Usb30Endpoints

/-!
# The USB2 driver state, its backend functions and the device interface

A control register holds the response in its two low bits and the data toggle in
one bit above them.  User code enters as the list of interface calls that one
callback makes.
-/

namespace WchCh56x.Usb

/-! ## Control registers -/

/-- The position of the toggle bit, which the BSP defines for both directions. -/
structure Usb2Bsp where
  togBit : Nat
  outsideMask : 2 ≤ togBit
  insideByte : togBit < 8

/-- A BSP whose `RB_UEP_T_TOG_1` is `0x08`. -/
def Usb2Bsp.bit3 : Usb2Bsp := ⟨3, by decide, by decide⟩

/-- `RB_UEP_T_TOG_1` and `RB_UEP_R_TOG_1` -/
def Usb2Bsp.rbUepTog1 (bsp : Usb2Bsp) : U8 := 1#8 <<< bsp.togBit

/-- `RB_UEP_T_TOG_0` and `RB_UEP_R_TOG_0` -/
def rbUepTog0 : U8 := 0#8

/-- `RB_UEP_TRES_MASK` and `RB_UEP_RRES_MASK` -/
def rbUepResMask : U8 := 3#8

def uepResAck : U8 := 0#8
def uepResNak : U8 := 2#8
def uepResStall : U8 := 3#8

/-- `(ctrl & ~RB_UEP_RES_MASK) | response` -/
def setResponse (ctrl response : U8) : U8 := (ctrl &&& ~~~rbUepResMask) ||| response

def response (ctrl : U8) : U8 := ctrl &&& rbUepResMask

def toggle (bsp : Usb2Bsp) (ctrl : U8) : Bool := ctrl.getLsbD bsp.togBit

/-- The responses a callback or a caller may ask for. -/
def EndpState (state : U8) : Prop :=
  state = endpStateAck ∨ state = endpStateNak ∨ state = endpStateStall

instance (state : U8) : Decidable (EndpState state) :=
  inferInstanceAs (Decidable (_ ∨ _ ∨ _))

/-- What `usb2_endp_rx_set_state_callback` makes of RX_CTRL. -/
def rxCtrlForState (bsp : Usb2Bsp) (ctrl state : U8) : U8 :=
  let ctrl :=
    if response ctrl ≠ uepResAck ∧ state = endpStateAck then ctrl ^^^ bsp.rbUepTog1 else ctrl
  setResponse ctrl state

/-! ## The state -/

/-- The register index of an endpoint in `usb2_get_rx_endpoint_ctrl_reg` and its siblings. -/
def usb2EndpointReg : Fin 16 → Fin 8 :=
  ![0, 1, 2, 3, 4, 5, 6, 7, 4, 1, 2, 3, 4, 5, 6, 7]

theorem usb2EndpointReg_ne_zero : ∀ {endpNum : Fin 16}, endpNum ≠ 0 → usb2EndpointReg endpNum ≠ 0 := by
  decide

/-- The DMA address registers; endpoint 0 has one for both directions. -/
inductive DmaReg where
  | uep0Rt
  | tx (reg : Fin 8)
  | rx (reg : Fin 8)
  deriving DecidableEq, Repr

def usb2TxEndpointAddrReg (endpNum : Fin 16) : DmaReg :=
  if endpNum = 0 then .uep0Rt else .tx (usb2EndpointReg endpNum)

def usb2RxEndpointAddrReg (endpNum : Fin 16) : DmaReg :=
  if endpNum = 0 then .uep0Rt else .rx (usb2EndpointReg endpNum)

/-- The flags of `R8_USB_INT_FG` that the driver handles. -/
structure Usb2IntFlags where
  setupact : Bool
  transfer : Bool
  suspend : Bool
  fifoov : Bool
  busrst : Bool
  deriving DecidableEq, Repr

def Usb2IntFlags.none : Usb2IntFlags := ⟨false, false, false, false, false⟩

structure Usb2Driver where
  device : UsbDevice
  rxCtrl : Fin 8 → U8
  txCtrl : Fin 8 → U8
  tLen : Fin 8 → Nat
  maxLen : Fin 8 → Nat
  dma : DmaReg → Nat
  txEn : Fin 8 → Bool
  rxEn : Fin 8 → Bool
  devAd : U8
  intFg : Usb2IntFlags
  descHead : Nat
  endp0CurrentTransferSize : Nat
  endp0RemainingBytes : Nat
  ep0PassthroughEnabled : Bool
  endpTxRemainingBytes : Fin 16 → Nat
  usbSetupReq : UsbSetup
  usbSetupReqDataSize : Nat
  usb2Endp0MaxPacketSize : Nat
  criticalNesting : Nat
  interruptsEnabled : Bool
  memory : Nat → U8
  usb30 : Usb30Endpoints
  /-- The calls into user code, in order. -/
  userCalls : List UserCall
  /-- A division by zero or an access through `NULL` has happened. -/
  undefinedBehaviour : Bool

namespace Usb2Driver

/-- The variables of the driver at their initial values, with clear registers. -/
def initial (device : UsbDevice) (memory : Nat → U8) : Usb2Driver where
  device := device
  rxCtrl _ := 0#8
  txCtrl _ := 0#8
  tLen _ := 0
  maxLen _ := 0
  dma _ := 0
  txEn _ := false
  rxEn _ := false
  devAd := 0#8
  intFg := .none
  descHead := 0
  endp0CurrentTransferSize := 0
  endp0RemainingBytes := 0
  ep0PassthroughEnabled := false
  endpTxRemainingBytes _ := 0
  usbSetupReq := ⟨0#8, 0#8, ⟨0#8, 0#8⟩, ⟨0#8, 0#8⟩, 0#16⟩
  usbSetupReqDataSize := 0
  usb2Endp0MaxPacketSize := 0
  criticalNesting := 0
  interruptsEnabled := true
  memory := memory
  usb30 := .initial
  userCalls := []
  undefinedBehaviour := false

variable (driver : Usb2Driver)

def setRxCtrl (reg : Fin 8) (value : U8) : Usb2Driver :=
  { driver with rxCtrl := Function.update driver.rxCtrl reg value }

def setTxCtrl (reg : Fin 8) (value : U8) : Usb2Driver :=
  { driver with txCtrl := Function.update driver.txCtrl reg value }

def setTLen (reg : Fin 8) (value : Nat) : Usb2Driver :=
  { driver with tLen := Function.update driver.tLen reg value }

def setDma (reg : DmaReg) (value : Nat) : Usb2Driver :=
  { driver with dma := Function.update driver.dma reg value }

def setRemaining (endpNum : Fin 16) (value : Nat) : Usb2Driver :=
  { driver with
    endpTxRemainingBytes := Function.update driver.endpTxRemainingBytes endpNum value }

def setTx (endpNum : Fin 16) (endp : UsbEndpoint) : Usb2Driver :=
  { driver with device := { driver.device with tx := Function.update driver.device.tx endpNum endp } }

def setRx (endpNum : Fin 16) (endp : UsbEndpoint) : Usb2Driver :=
  { driver with device := { driver.device with rx := Function.update driver.device.rx endpNum endp } }

@[simp] theorem setRxCtrl_self (reg : Fin 8) (value : U8) :
    (driver.setRxCtrl reg value).rxCtrl reg = value := Function.update_self ..

@[simp] theorem setTxCtrl_self (reg : Fin 8) (value : U8) :
    (driver.setTxCtrl reg value).txCtrl reg = value := Function.update_self ..

@[simp] theorem setTLen_self (reg : Fin 8) (value : Nat) :
    (driver.setTLen reg value).tLen reg = value := Function.update_self ..

@[simp] theorem setDma_self (reg : DmaReg) (value : Nat) :
    (driver.setDma reg value).dma reg = value := Function.update_self ..

@[simp] theorem setRemaining_self (endpNum : Fin 16) (value : Nat) :
    (driver.setRemaining endpNum value).endpTxRemainingBytes endpNum = value :=
  Function.update_self ..

def endp0Buffer : Nat := (driver.device.rx 0).buffer

def enterCritical : Usb2Driver :=
  { driver with
    criticalNesting := driver.criticalNesting + 1
    interruptsEnabled := false }

def exitCritical : Usb2Driver :=
  { driver with
    criticalNesting := driver.criticalNesting - 1
    interruptsEnabled := driver.interruptsEnabled || driver.criticalNesting - 1 == 0 }

/-! ## Backend functions -/

def usb2EndpTxReady (endpNum : Fin 16) (size : Nat) : Usb2Driver :=
  let endp := driver.device.tx endpNum
  let reg := usb2EndpointReg endpNum
  let ctrl := driver.txCtrl reg
  let driver := driver.setRemaining endpNum size
  let driver := if endpNum ≠ 0 then driver.setDma (.tx reg) endp.buffer else driver
  let driver := driver.setTLen reg (min size endp.maxPacketSize)
  driver.setTxCtrl reg (setResponse ctrl uepResAck)

def usb2EndpRxSetStateCallback (bsp : Usb2Bsp) (endpNum : Fin 16) : Usb2Driver :=
  let endp := driver.device.rx endpNum
  let reg := usb2EndpointReg endpNum
  driver.setRxCtrl reg (rxCtrlForState bsp (driver.rxCtrl reg) endp.state)

def usb2EndpTxSetStateCallback (endpNum : Fin 16) : Usb2Driver :=
  let endp := driver.device.tx endpNum
  let reg := usb2EndpointReg endpNum
  driver.setTxCtrl reg (setResponse (driver.txCtrl reg) endp.state)

/-! ## The device interface -/

/-- The copy that `endp_tx_set_new_buffer` makes for endpoint 0. -/
def copyToEndp0 (endpNum : Fin 16) (ptr size : Nat) : Usb2Driver :=
  if endpNum = 0 then
    { driver with memory := memcpyBytes driver.memory driver.endp0Buffer ptr size }
  else
    driver

/-- The call of the backend that belongs to the speed of the device. -/
def endpTxReady (endpNum : Fin 16) (size : Nat) : Usb2Driver :=
  if driver.device.speed = .usb30Superspeed then
    match usb3EndpTxReady (driver.device.tx endpNum) driver.usb30 endpNum size with
    | some usb30 => { driver with usb30 := usb30 }
    | none => { driver with undefinedBehaviour := true }
  else
    driver.usb2EndpTxReady endpNum size

def endpTxSetNewBuffer (endpNum : Fin 16) (ptr size : Nat) : Bool × Usb2Driver :=
  let ep := driver.device.tx endpNum
  let driver := driver.enterCritical
  if ep.maxPacketSizeWithBurst < size ∨ ptr = 0 then
    (false, driver.exitCritical)
  else
    let driver := driver.setTx endpNum { ep with buffer := ptr }
    if endpNum = 0 ∧ driver.endp0Buffer = 0 then
      -- returns inside the critical section
      (false, driver)
    else
      (true, ((driver.copyToEndp0 endpNum ptr size).endpTxReady endpNum size).exitCritical)

def endpRxSetState (bsp : Usb2Bsp) (endpNum : Fin 16) (state : U8) : Usb2Driver :=
  let driver := driver.setRx endpNum { driver.device.rx endpNum with state := state }
  if driver.device.speed = .usb30Superspeed then
    driver
  else
    driver.usb2EndpRxSetStateCallback bsp endpNum

def endpTxSetState (endpNum : Fin 16) (state : U8) : Usb2Driver :=
  let driver := driver.setTx endpNum { driver.device.tx endpNum with state := state }
  if driver.device.speed = .usb30Superspeed then
    driver
  else
    driver.usb2EndpTxSetStateCallback endpNum

end Usb2Driver

/-! ## User code -/

inductive ApiCall where
  | endpTxSetNewBuffer (endpNum : Fin 16) (ptr size : Nat)
  | endpRxSetState (endpNum : Fin 16) (state : U8)
  | endpTxSetState (endpNum : Fin 16) (state : U8)
  deriving DecidableEq, Repr

/-- What a user callback does when it is called: interface calls and its results. -/
structure UserReply where
  calls : List ApiCall
  /-- The endpoint state that a receive or SETUP callback returns. -/
  state : U8
  /-- The length that the control request handler returns. -/
  length : Nat
  /-- The buffer that the control request handler hands out. -/
  buffer : Nat
  deriving DecidableEq, Repr

/-- The reply of a callback that does nothing. -/
def noReply : UserReply := ⟨[], endpStateAck, 0, 0⟩

def ApiCall.endpNum : ApiCall → Fin 16
  | .endpTxSetNewBuffer endpNum _ _ => endpNum
  | .endpRxSetState endpNum _ => endpNum
  | .endpTxSetState endpNum _ => endpNum

namespace Usb2Driver

variable (bsp : Usb2Bsp) (driver : Usb2Driver)

def call : ApiCall → Usb2Driver
  | .endpTxSetNewBuffer endpNum ptr size => (driver.endpTxSetNewBuffer endpNum ptr size).2
  | .endpRxSetState endpNum state => driver.endpRxSetState bsp endpNum state
  | .endpTxSetState endpNum state => driver.endpTxSetState endpNum state

def runCalls : List ApiCall → Usb2Driver := List.foldl (call bsp) driver

def invoke (userCall : UserCall) (reply : UserReply) : Usb2Driver :=
  runCalls bsp { driver with userCalls := driver.userCalls ++ [userCall] } reply.calls

end Usb2Driver

end WchCh56x.Usb
