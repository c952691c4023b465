import WchCh56x.Usb.Transfers

/-!
# What user code can change

A callback reaches the driver through the three interface calls.  They change the
registers of the endpoints they name and leave the rest of the driver alone.
-/

namespace WchCh56x.Usb

/-- What is set up before the driver runs. -/
structure Config where
  speed : UsbDeviceSpeed
  usbDescriptors : UsbDeviceDescriptors
  endpointMask : U32
  rxBuffer : Fin 16 → Nat
  rxMaxPacketSize : Fin 16 → Nat
  txMaxPacketSize : Fin 16 → Nat
  txMaxPacketSizeWithBurst : Fin 16 → Nat
  ep0PassthroughEnabled : Bool
  usb2Endp0MaxPacketSize : Nat

/-- The part of the driver that no interface call changes. -/
structure Fixed where
  config : Config
  state : UsbDeviceState
  addr : U8
  currentConfig : U8
  rxDma : Fin 8 → Nat
  rtDma : Nat
  devAd : U8
  intFg : Usb2IntFlags
  descHead : Nat
  endp0CurrentTransferSize : Nat
  endp0RemainingBytes : Nat
  usbSetupReq : UsbSetup
  usbSetupReqDataSize : Nat
  userCalls : List UserCall

/-- What the endpoints with one register index have for themselves. -/
structure Bank (reg : Fin 8) where
  rxCtrl : U8
  txCtrl : U8
  tLen : Nat
  txDma : Nat
  remaining : ∀ n, usb2EndpointReg n = reg → Nat
  tx : ∀ n, usb2EndpointReg n = reg → UsbEndpoint
  rx : ∀ n, usb2EndpointReg n = reg → UsbEndpoint

namespace Usb2Driver

variable (bsp : Usb2Bsp) (driver : Usb2Driver)

def config : Config where
  speed := driver.device.speed
  usbDescriptors := driver.device.usbDescriptors
  endpointMask := driver.device.endpointMask
  rxBuffer n := (driver.device.rx n).buffer
  rxMaxPacketSize n := (driver.device.rx n).maxPacketSize
  txMaxPacketSize n := (driver.device.tx n).maxPacketSize
  txMaxPacketSizeWithBurst n := (driver.device.tx n).maxPacketSizeWithBurst
  ep0PassthroughEnabled := driver.ep0PassthroughEnabled
  usb2Endp0MaxPacketSize := driver.usb2Endp0MaxPacketSize

def fixed : Fixed where
  config := driver.config
  state := driver.device.state
  addr := driver.device.addr
  currentConfig := driver.device.currentConfig
  rxDma reg := driver.dma (.rx reg)
  rtDma := driver.dma .uep0Rt
  devAd := driver.devAd
  intFg := driver.intFg
  descHead := driver.descHead
  endp0CurrentTransferSize := driver.endp0CurrentTransferSize
  endp0RemainingBytes := driver.endp0RemainingBytes
  usbSetupReq := driver.usbSetupReq
  usbSetupReqDataSize := driver.usbSetupReqDataSize
  userCalls := driver.userCalls

def bank (reg : Fin 8) : Bank reg where
  rxCtrl := driver.rxCtrl reg
  txCtrl := driver.txCtrl reg
  tLen := driver.tLen reg
  txDma := driver.dma (.tx reg)
  remaining n _ := driver.endpTxRemainingBytes n
  tx n _ := driver.device.tx n
  rx n _ := driver.device.rx n

theorem endpRxSetState_of_superspeed (speed : driver.device.speed = .usb30Superspeed)
    (endpNum : Fin 16) (state : U8) :
    driver.endpRxSetState bsp endpNum state =
      driver.setRx endpNum { driver.device.rx endpNum with state := state } := if_pos speed

theorem endpRxSetState_of_usb2 (speed : driver.device.speed ≠ .usb30Superspeed)
    (endpNum : Fin 16) (state : U8) :
    driver.endpRxSetState bsp endpNum state =
      (driver.setRx endpNum
        { driver.device.rx endpNum with state := state }).usb2EndpRxSetStateCallback bsp endpNum :=
  if_neg speed

theorem endpTxSetState_of_superspeed (speed : driver.device.speed = .usb30Superspeed)
    (endpNum : Fin 16) (state : U8) :
    driver.endpTxSetState endpNum state =
      driver.setTx endpNum { driver.device.tx endpNum with state := state } := if_pos speed

theorem endpTxSetState_of_usb2 (speed : driver.device.speed ≠ .usb30Superspeed)
    (endpNum : Fin 16) (state : U8) :
    driver.endpTxSetState endpNum state =
      (driver.setTx endpNum
        { driver.device.tx endpNum with state := state }).usb2EndpTxSetStateCallback endpNum :=
  if_neg speed

theorem endpTxReady_of_superspeed (speed : driver.device.speed = .usb30Superspeed)
    (endpNum : Fin 16) (size : Nat) :
    driver.endpTxReady endpNum size =
      match usb3EndpTxReady (driver.device.tx endpNum) driver.usb30 endpNum size with
      | some usb30 => { driver with usb30 := usb30 }
      | none => { driver with undefinedBehaviour := true } := if_pos speed

theorem endpTxReady_of_usb2 (speed : driver.device.speed ≠ .usb30Superspeed)
    (endpNum : Fin 16) (size : Nat) :
    driver.endpTxReady endpNum size = driver.usb2EndpTxReady endpNum size := if_neg speed

/-! ## The part that stays -/

/-- A field of the endpoint table that an update of one endpoint keeps. -/
theorem update_endpoint {α : Type} (field : UsbEndpoint → α) (endps : Fin 16 → UsbEndpoint)
    {endpNum : Fin 16} {endp : UsbEndpoint} (same : field endp = field (endps endpNum)) :
    (fun n => field (Function.update endps endpNum endp n)) = fun n => field (endps n) := by
  funext n
  by_cases isIt : n = endpNum
  · subst isIt
    rw [Function.update_self, same]
  · rw [Function.update_of_ne isIt]

theorem fixed_setRx {endpNum : Fin 16} {endp : UsbEndpoint}
    (buffer : endp.buffer = (driver.device.rx endpNum).buffer)
    (size : endp.maxPacketSize = (driver.device.rx endpNum).maxPacketSize) :
    (driver.setRx endpNum endp).fixed = driver.fixed := by
  unfold fixed config setRx
  rw [update_endpoint UsbEndpoint.buffer _ buffer, update_endpoint UsbEndpoint.maxPacketSize _ size]

theorem fixed_setTx {endpNum : Fin 16} {endp : UsbEndpoint}
    (size : endp.maxPacketSize = (driver.device.tx endpNum).maxPacketSize)
    (withBurst : endp.maxPacketSizeWithBurst = (driver.device.tx endpNum).maxPacketSizeWithBurst) :
    (driver.setTx endpNum endp).fixed = driver.fixed := by
  unfold fixed config setTx
  rw [update_endpoint UsbEndpoint.maxPacketSize _ size,
    update_endpoint UsbEndpoint.maxPacketSizeWithBurst _ withBurst]

theorem fixed_usb2EndpTxReady (endpNum : Fin 16) (size : Nat) :
    (driver.usb2EndpTxReady endpNum size).fixed = driver.fixed := by
  unfold usb2EndpTxReady
  by_cases control : endpNum = 0
  · simp only [control, ne_eq, not_true_eq_false, if_false]
    rfl
  · simp only [control, ne_eq, not_false_eq_true, if_true]
    rfl

theorem fixed_endpTxReady (endpNum : Fin 16) (size : Nat) :
    (driver.endpTxReady endpNum size).fixed = driver.fixed := by
  by_cases speed : driver.device.speed = .usb30Superspeed
  · rw [driver.endpTxReady_of_superspeed speed]
    split
    · rfl
    · rfl
  · rw [driver.endpTxReady_of_usb2 speed]
    exact driver.fixed_usb2EndpTxReady endpNum size

theorem fixed_copyToEndp0 (endpNum : Fin 16) (ptr size : Nat) :
    (driver.copyToEndp0 endpNum ptr size).fixed = driver.fixed := by
  unfold copyToEndp0
  split
  · rfl
  · rfl

theorem fixed_endpTxSetNewBuffer (endpNum : Fin 16) (ptr size : Nat) :
    (driver.endpTxSetNewBuffer endpNum ptr size).2.fixed = driver.fixed := by
  have filled : ((driver.enterCritical).setTx endpNum
      { driver.device.tx endpNum with buffer := ptr }).fixed = driver.fixed :=
    fixed_setTx driver.enterCritical rfl rfl
  unfold endpTxSetNewBuffer
  simp only []
  split
  · rfl
  · split
    · exact filled
    · exact ((fixed_endpTxReady _ endpNum size).trans (fixed_copyToEndp0 _ endpNum ptr size)).trans
        filled

theorem fixed_endpRxSetState (endpNum : Fin 16) (state : U8) :
    (driver.endpRxSetState bsp endpNum state).fixed = driver.fixed := by
  unfold endpRxSetState
  simp only []
  split
  · exact driver.fixed_setRx rfl rfl
  · exact driver.fixed_setRx rfl rfl

theorem fixed_endpTxSetState (endpNum : Fin 16) (state : U8) :
    (driver.endpTxSetState endpNum state).fixed = driver.fixed := by
  unfold endpTxSetState
  simp only []
  split
  · exact driver.fixed_setTx rfl rfl
  · exact driver.fixed_setTx rfl rfl

theorem fixed_call (apiCall : ApiCall) : (driver.call bsp apiCall).fixed = driver.fixed := by
  cases apiCall with
  | endpTxSetNewBuffer endpNum ptr size => exact driver.fixed_endpTxSetNewBuffer endpNum ptr size
  | endpRxSetState endpNum state => exact driver.fixed_endpRxSetState bsp endpNum state
  | endpTxSetState endpNum state => exact driver.fixed_endpTxSetState endpNum state

theorem fixed_runCalls (calls : List ApiCall) :
    (driver.runCalls bsp calls).fixed = driver.fixed := by
  induction calls generalizing driver with
  | nil => rfl
  | cons apiCall rest ih => exact (ih (driver.call bsp apiCall)).trans (driver.fixed_call bsp apiCall)

theorem fixed_invoke (userCall : UserCall) (reply : UserReply) :
    (driver.invoke bsp userCall reply).fixed =
      { driver.fixed with userCalls := driver.userCalls ++ [userCall] } :=
  fixed_runCalls bsp _ reply.calls

theorem config_invoke (userCall : UserCall) (reply : UserReply) :
    (driver.invoke bsp userCall reply).config = driver.config :=
  congrArg Fixed.config (fixed_invoke bsp driver userCall reply)

theorem config_afterRxCallback (endpNum : Fin 16) (state : U8) :
    (driver.afterRxCallback endpNum state).config = driver.config :=
  congrArg Fixed.config (@fixed_setRx driver endpNum
    { driver.device.rx endpNum with state := state } rfl rfl)

/-! ## What the transfer handlers leave alone -/

/-- A part of the state that neither the registers of the endpoints nor the byte counts of their
transfers belong to. -/
structure ApartFromTransfers {View : Type} (view : Usb2Driver → View) : Prop where
  registers : ∀ (driver : Usb2Driver) rxCtrl txCtrl tLen dma remaining dataSize,
    view { driver with
      rxCtrl := rxCtrl
      txCtrl := txCtrl
      tLen := tLen
      dma := dma
      endpTxRemainingBytes := remaining
      usbSetupReqDataSize := dataSize } = view driver
  rxState : ∀ (driver : Usb2Driver) endpNum state,
    view (driver.afterRxCallback endpNum state) = view driver

namespace ApartFromTransfers

variable {View : Type} {view : Usb2Driver → View} (apart : ApartFromTransfers view)
include apart

theorem setRxCtrl (reg : Fin 8) (rxCtrl : U8) :
    view (driver.setRxCtrl reg rxCtrl) = view driver :=
  apart.registers driver _ driver.txCtrl driver.tLen driver.dma driver.endpTxRemainingBytes
    driver.usbSetupReqDataSize

theorem setDma (dmaReg : DmaReg) (ptr : Nat) : view (driver.setDma dmaReg ptr) = view driver :=
  apart.registers driver driver.rxCtrl driver.txCtrl driver.tLen _ driver.endpTxRemainingBytes
    driver.usbSetupReqDataSize

theorem setCtrl (reg : Fin 8) (txCtrl rxCtrl : U8) :
    view ((driver.setTxCtrl reg txCtrl).setRxCtrl reg rxCtrl) = view driver :=
  apart.registers driver _ _ driver.tLen driver.dma driver.endpTxRemainingBytes
    driver.usbSetupReqDataSize

theorem beforeTxComplete (endpNum : Fin 16) :
    view (driver.beforeTxComplete bsp endpNum) = view driver :=
  apart.registers driver driver.rxCtrl _ _ driver.dma _ _

theorem beforeRxCallback (endpNum : Fin 16) (numBytesReceived : Nat) :
    view (driver.beforeRxCallback endpNum numBytesReceived) = view driver := by
  unfold Usb2Driver.beforeRxCallback
  split
  · exact apart.registers driver driver.rxCtrl driver.txCtrl driver.tLen driver.dma
      driver.endpTxRemainingBytes _
  · rfl

variable {driver} {endpNum : Fin 16} {reply : UserReply}

theorem usb2InTransferHandler
    (called : view ((driver.beforeTxComplete bsp endpNum).invoke bsp (.txComplete endpNum) reply) =
      view (driver.beforeTxComplete bsp endpNum)) :
    view (driver.usb2InTransferHandler bsp endpNum reply) = view driver := by
  have completed := called.trans (apart.beforeTxComplete bsp driver endpNum)
  unfold Usb2Driver.usb2InTransferHandler
  dsimp only
  split
  · split
    · refine (apart.setRxCtrl ..).trans ?_
      split
      · exact (apart.setDma ..).trans completed
      · exact completed
    · exact apart.registers driver _ _ driver.tLen _ _ _
  · exact apart.setCtrl ..

theorem usb2OutTransferHandler {numBytesReceived : Nat}
    (called : ∀ ptr, view ((driver.beforeRxCallback endpNum numBytesReceived).invoke bsp
      (.rxCallback endpNum ptr numBytesReceived) reply) =
        view (driver.beforeRxCallback endpNum numBytesReceived)) :
    view (driver.usb2OutTransferHandler bsp endpNum numBytesReceived reply) = view driver := by
  have received := (apart.rxState _ endpNum reply.state).trans
    ((called (driver.device.rx endpNum).buffer).trans
      (apart.beforeRxCallback driver endpNum numBytesReceived))
  unfold Usb2Driver.usb2OutTransferHandler
  dsimp only
  split
  · split
    · exact (apart.setCtrl ..).trans received
    · split
      · exact (apart.setCtrl ..).trans received
      · exact (apart.setRxCtrl ..).trans received
  · exact apart.setRxCtrl ..

end ApartFromTransfers

theorem apart_config : ApartFromTransfers config where
  registers _ _ _ _ _ _ _ := rfl
  rxState := config_afterRxCallback

theorem config_usb2InTransferHandler (endpNum : Fin 16) (reply : UserReply) :
    (driver.usb2InTransferHandler bsp endpNum reply).config = driver.config :=
  apart_config.usb2InTransferHandler bsp (config_invoke ..)

theorem config_usb2OutTransferHandler (endpNum : Fin 16) (numBytesReceived : Nat)
    (reply : UserReply) :
    (driver.usb2OutTransferHandler bsp endpNum numBytesReceived reply).config = driver.config :=
  apart_config.usb2OutTransferHandler bsp fun _ => config_invoke ..

/-! ## Other endpoints -/

section

variable {driver} {reg other : Fin 8} {endpNum : Fin 16}

@[simp] theorem bank_setRxCtrl (apart : other ≠ reg) (value : U8) :
    (driver.setRxCtrl other value).bank reg = driver.bank reg := by
  simp only [bank, setRxCtrl, Function.update_of_ne apart.symm]

@[simp] theorem bank_setTxCtrl (apart : other ≠ reg) (value : U8) :
    (driver.setTxCtrl other value).bank reg = driver.bank reg := by
  simp only [bank, setTxCtrl, Function.update_of_ne apart.symm]

@[simp] theorem bank_setTLen (apart : other ≠ reg) (value : Nat) :
    (driver.setTLen other value).bank reg = driver.bank reg := by
  simp only [bank, setTLen, Function.update_of_ne apart.symm]

@[simp] theorem bank_setDma {dmaReg : DmaReg} (apart : dmaReg ≠ .tx reg) (value : Nat) :
    (driver.setDma dmaReg value).bank reg = driver.bank reg := by
  simp only [bank, setDma, Function.update_of_ne apart.symm]

@[simp] theorem bank_setRemaining (apart : usb2EndpointReg endpNum ≠ reg) (value : Nat) :
    (driver.setRemaining endpNum value).bank reg = driver.bank reg := by
  unfold bank setRemaining
  congr
  funext n same
  have distinct : n ≠ endpNum := fun isIt => apart (isIt ▸ same)
  exact Function.update_of_ne distinct ..

@[simp] theorem bank_setTx (apart : usb2EndpointReg endpNum ≠ reg) (endp : UsbEndpoint) :
    (driver.setTx endpNum endp).bank reg = driver.bank reg := by
  unfold bank setTx
  congr
  funext n same
  have distinct : n ≠ endpNum := fun isIt => apart (isIt ▸ same)
  exact Function.update_of_ne distinct ..

@[simp] theorem bank_setRx (apart : usb2EndpointReg endpNum ≠ reg) (endp : UsbEndpoint) :
    (driver.setRx endpNum endp).bank reg = driver.bank reg := by
  unfold bank setRx
  congr
  funext n same
  have distinct : n ≠ endpNum := fun isIt => apart (isIt ▸ same)
  exact Function.update_of_ne distinct ..

theorem tx_ne (apart : other ≠ reg) : DmaReg.tx other ≠ .tx reg := fun same =>
  apart (DmaReg.tx.inj same)

theorem bank_usb2EndpTxReady (apart : usb2EndpointReg endpNum ≠ reg) (size : Nat) :
    (driver.usb2EndpTxReady endpNum size).bank reg = driver.bank reg := by
  unfold usb2EndpTxReady
  simp only []
  rw [bank_setTxCtrl apart, bank_setTLen apart]
  split
  · rw [bank_setDma (tx_ne apart), bank_setRemaining apart]
  · rw [bank_setRemaining apart]

theorem bank_endpTxReady (apart : usb2EndpointReg endpNum ≠ reg) (size : Nat) :
    (driver.endpTxReady endpNum size).bank reg = driver.bank reg := by
  unfold endpTxReady
  split
  · split
    · rfl
    · rfl
  · exact bank_usb2EndpTxReady apart size

theorem bank_copyToEndp0 (ptr size : Nat) :
    (driver.copyToEndp0 endpNum ptr size).bank reg = driver.bank reg := by
  unfold copyToEndp0
  split
  · rfl
  · rfl

theorem bank_endpTxSetNewBuffer (apart : usb2EndpointReg endpNum ≠ reg) (ptr size : Nat) :
    (driver.endpTxSetNewBuffer endpNum ptr size).2.bank reg = driver.bank reg := by
  have filled : ((driver.enterCritical).setTx endpNum
      { driver.device.tx endpNum with buffer := ptr }).bank reg = driver.bank reg :=
    @bank_setTx driver.enterCritical reg endpNum apart _
  unfold endpTxSetNewBuffer
  simp only []
  split
  · rfl
  · split
    · exact filled
    · exact ((bank_endpTxReady apart size).trans (bank_copyToEndp0 ptr size)).trans filled

theorem bank_endpRxSetState (apart : usb2EndpointReg endpNum ≠ reg) (state : U8) :
    (driver.endpRxSetState bsp endpNum state).bank reg = driver.bank reg := by
  unfold endpRxSetState usb2EndpRxSetStateCallback
  simp only []
  split
  · exact bank_setRx apart _
  · rw [bank_setRxCtrl apart, bank_setRx apart]

theorem bank_endpTxSetState (apart : usb2EndpointReg endpNum ≠ reg) (state : U8) :
    (driver.endpTxSetState endpNum state).bank reg = driver.bank reg := by
  unfold endpTxSetState usb2EndpTxSetStateCallback
  simp only []
  split
  · exact bank_setTx apart _
  · rw [bank_setTxCtrl apart, bank_setTx apart]

theorem bank_call {apiCall : ApiCall} (apart : usb2EndpointReg apiCall.endpNum ≠ reg) :
    (driver.call bsp apiCall).bank reg = driver.bank reg := by
  cases apiCall with
  | endpTxSetNewBuffer endpNum ptr size => exact bank_endpTxSetNewBuffer apart ptr size
  | endpRxSetState endpNum state => exact bank_endpRxSetState bsp apart state
  | endpTxSetState endpNum state => exact bank_endpTxSetState apart state

/-- Interface calls on other endpoints leave a register bank alone. -/
theorem bank_runCalls {calls : List ApiCall}
    (apart : ∀ apiCall ∈ calls, usb2EndpointReg apiCall.endpNum ≠ reg) :
    (driver.runCalls bsp calls).bank reg = driver.bank reg := by
  induction calls generalizing driver with
  | nil => rfl
  | cons apiCall rest ih =>
      have first := @bank_call bsp driver reg apiCall (apart apiCall List.mem_cons_self)
      have others := @ih (driver.call bsp apiCall) fun other member =>
        apart other (List.mem_cons_of_mem apiCall member)
      exact others.trans first

theorem bank_invoke {userCall : UserCall} {reply : UserReply}
    (apart : ∀ apiCall ∈ reply.calls, usb2EndpointReg apiCall.endpNum ≠ reg) :
    (driver.invoke bsp userCall reply).bank reg = driver.bank reg :=
  bank_runCalls bsp apart

end

end Usb2Driver

end WchCh56x.Usb
