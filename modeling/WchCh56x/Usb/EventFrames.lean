import WchCh56x.Usb.Usb2Irq

/-!
# What an event leaves alone

Every event keeps the configuration.  An event that does not concern the endpoints
of a register index keeps their register bank.
-/

namespace WchCh56x.Usb

open Usb2Driver

variable (bsp : Usb2Bsp)

/-! ## The branches of the interrupt handler -/

/-- The driver when the handler is entered for a completed transfer. -/
def Usb2Driver.transferPending (driver : Usb2Driver) : Usb2Driver :=
  { driver with intFg := { Usb2IntFlags.none with transfer := true } }

/-- The driver when the handler is entered for a SETUP packet. -/
def Usb2Driver.setupPending (driver : Usb2Driver) (packet : UsbSetup) : Usb2Driver :=
  { driver with
    memory := storeBytes driver.memory driver.endp0Buffer packet.bytes
    intFg := { Usb2IntFlags.none with setupact := true } }

/-- The driver that has read the SETUP packet. -/
def Usb2Driver.setupRead (driver : Usb2Driver) (packet : UsbSetup) : Usb2Driver :=
  { driver.setupPending packet with usbSetupReq := packet, usbSetupReqDataSize := 0 }

def Usb2Driver.clearFlags (driver : Usb2Driver) : Usb2Driver := { driver with intFg := .none }

variable {driver : Usb2Driver}

theorem step_inDone (running : driver.device.state ≠ .powered) (endpNum : Fin 16)
    (reply : UserReply) :
    Usb2Event.step bsp driver (.inDone endpNum reply) =
      (if endpNum ≠ 0 ∨ driver.ep0PassthroughEnabled then
        driver.transferPending.usb2InTransferHandler bsp endpNum reply
      else
        driver.transferPending.usb2Ep0InHandler bsp).clearFlags := by
  have entered : driver.transferPending.device.state ≠ .powered := running
  unfold Usb2Event.step usbhsIrqHandler
  simp only []
  rw [if_neg (by simp), if_neg (by simp [Usb2IntFlags.none]), if_pos ⟨trivial, entered⟩]
  rfl

theorem step_outDone (running : driver.device.state ≠ .powered) (endpNum : Fin 16)
    (numBytesReceived : Nat) (reply : UserReply) :
    Usb2Event.step bsp driver (.outDone endpNum numBytesReceived true reply) =
      (if endpNum ≠ 0 ∨ driver.ep0PassthroughEnabled then
        driver.transferPending.usb2OutTransferHandler bsp endpNum numBytesReceived reply
      else
        driver.transferPending.usb2Ep0OutHandler bsp numBytesReceived reply).clearFlags := by
  have entered : driver.transferPending.device.state ≠ .powered := running
  unfold Usb2Event.step usbhsIrqHandler
  simp only []
  rw [if_neg (by simp), if_neg (by simp [Usb2IntFlags.none]), if_pos ⟨trivial, entered⟩]
  rfl

/-- A packet with the wrong toggle only clears the flag. -/
theorem step_outDone_wrongToggle (running : driver.device.state ≠ .powered) (endpNum : Fin 16)
    (numBytesReceived : Nat) (reply : UserReply) :
    Usb2Event.step bsp driver (.outDone endpNum numBytesReceived false reply) =
      driver.clearFlags := by
  have entered : driver.transferPending.device.state ≠ .powered := running
  unfold Usb2Event.step usbhsIrqHandler
  simp only []
  rw [if_neg (by simp), if_neg (by simp [Usb2IntFlags.none]), if_pos ⟨trivial, entered⟩]
  rfl

theorem step_setup (running : driver.device.state ≠ .powered) (packet : UsbSetup)
    (reply : UserReply) :
    Usb2Event.step bsp driver (.setup packet reply) =
      (if driver.ep0PassthroughEnabled then
        (driver.setupRead packet).passthroughSetup bsp reply
      else
        (driver.setupRead packet).usb2Ep0SetupStageHandler bsp reply).clearFlags := by
  have entered : (driver.setupPending packet).device.state ≠ .powered := running
  have read : readUsbSetup (storeBytes driver.memory driver.endp0Buffer packet.bytes)
      driver.endp0Buffer = packet := readUsbSetup_storeBytes ..
  unfold Usb2Event.step usbhsIrqHandler
  simp only []
  rw [if_neg (by simp), if_pos ⟨trivial, entered⟩]
  unfold setupReceived setupRead setupPending
  simp only [endp0Buffer] at read ⊢
  rw [read]
  rfl

theorem step_setup_of_noPassthrough (running : driver.device.state ≠ .powered)
    (noPassthrough : driver.ep0PassthroughEnabled = false) (packet : UsbSetup)
    (reply : UserReply) :
    Usb2Event.step bsp driver (.setup packet reply) =
      ((driver.setupRead packet).usb2Ep0SetupStageHandler bsp reply).clearFlags := by
  rw [step_setup bsp running, noPassthrough, if_neg Bool.false_ne_true]

theorem step_nak (endpNum : Fin 16) (reply : UserReply) :
    Usb2Event.step bsp driver (.nak endpNum reply) =
      (driver.transferPending.invoke bsp (.nakCallback endpNum) reply).clearFlags := by
  unfold Usb2Event.step usbhsIrqHandler
  simp only []
  rw [if_pos ⟨rfl, trivial⟩]
  rfl

theorem step_busReset (reply : UserReply) :
    Usb2Event.step bsp driver (.busReset reply) =
      ({ driver with intFg := { Usb2IntFlags.none with busrst := true } }.busReset bsp
        reply).clearFlags := by
  unfold Usb2Event.step usbhsIrqHandler
  simp [Usb2IntFlags.none, clearFlags]

/-! Before the first bus reset a packet only raises its flag. -/

section

variable (powered : driver.device.state = .powered)

include powered

theorem step_inDone_powered (endpNum : Fin 16) (reply : UserReply) :
    Usb2Event.step bsp driver (.inDone endpNum reply) = driver.transferPending := by
  unfold Usb2Event.step usbhsIrqHandler
  simp [Usb2IntFlags.none, transferPending, powered]

theorem step_outDone_powered (endpNum : Fin 16) (numBytesReceived : Nat) (togok : Bool)
    (reply : UserReply) :
    Usb2Event.step bsp driver (.outDone endpNum numBytesReceived togok reply) =
      driver.transferPending := by
  unfold Usb2Event.step usbhsIrqHandler
  simp [Usb2IntFlags.none, transferPending, powered]

theorem step_setup_powered (packet : UsbSetup) (reply : UserReply) :
    Usb2Event.step bsp driver (.setup packet reply) = driver.setupPending packet := by
  unfold Usb2Event.step usbhsIrqHandler
  simp [Usb2IntFlags.none, setupPending, powered]

end

/-! An event leaves what its handler leaves, whatever the interrupt flags are. -/

section

variable {View : Type} (view : Usb2Driver → View)
  (flags : ∀ (driver : Usb2Driver) intFg, view { driver with intFg := intFg } = view driver)
  (endpNum : Fin 16) (reply : UserReply)
include flags

theorem step_setup_leaves (packet : UsbSetup)
    (pending : view (driver.setupPending packet) = view driver)
    (passthrough : driver.device.state ≠ .powered →
      view ((driver.setupRead packet).passthroughSetup bsp reply) = view driver)
    (setupStage : driver.device.state ≠ .powered →
      view ((driver.setupRead packet).usb2Ep0SetupStageHandler bsp reply) = view driver) :
    view (Usb2Event.step bsp driver (.setup packet reply)) = view driver := by
  by_cases powered : driver.device.state = .powered
  · rw [step_setup_powered bsp powered]
    exact pending
  · rw [step_setup bsp powered]
    refine (flags ..).trans ?_
    split
    · exact passthrough powered
    · exact setupStage powered

theorem step_inDone_leaves
    (transfer : endpNum ≠ 0 ∨ driver.ep0PassthroughEnabled →
      view (driver.transferPending.usb2InTransferHandler bsp endpNum reply) = view driver)
    (endp0 : view (driver.transferPending.usb2Ep0InHandler bsp) = view driver) :
    view (Usb2Event.step bsp driver (.inDone endpNum reply)) = view driver := by
  by_cases powered : driver.device.state = .powered
  · rw [step_inDone_powered bsp powered]
    exact flags ..
  · rw [step_inDone bsp powered]
    refine (flags ..).trans ?_
    split
    · next apart => exact transfer apart
    · exact endp0

theorem step_outDone_leaves (numBytesReceived : Nat) (togok : Bool)
    (transfer : view (driver.transferPending.usb2OutTransferHandler bsp endpNum numBytesReceived
      reply) = view driver)
    (endp0 : view (driver.transferPending.usb2Ep0OutHandler bsp numBytesReceived reply) =
      view driver) :
    view (Usb2Event.step bsp driver (.outDone endpNum numBytesReceived togok reply)) =
      view driver := by
  by_cases powered : driver.device.state = .powered
  · rw [step_outDone_powered bsp powered]
    exact flags ..
  cases togok with
  | false =>
      rw [step_outDone_wrongToggle bsp powered]
      exact flags ..
  | true =>
      rw [step_outDone bsp powered]
      refine (flags ..).trans ?_
      split
      · exact transfer
      · exact endp0

end

/-! ## What a descriptor request and the endpoint setup change -/

variable (driver) in
theorem getDescriptor_changes : ∃ head remaining memory, driver.getDescriptor.2 =
    { driver with descHead := head, endp0RemainingBytes := remaining, memory := memory } := by
  unfold getDescriptor startDataStage
  simp only []
  split
  · split
    · exact ⟨_, _, _, rfl⟩
    · exact ⟨_, _, _, rfl⟩
  · split
    · split
      · exact ⟨_, _, _, rfl⟩
      · exact ⟨_, _, _, rfl⟩
    · split
      · split
        · exact ⟨_, _, _, rfl⟩
        · exact ⟨_, _, _, rfl⟩
      · exact ⟨_, _, _, rfl⟩

def Usb2Driver.withRegisters (driver other : Usb2Driver) : Usb2Driver :=
  { driver with
    rxCtrl := other.rxCtrl
    txCtrl := other.txCtrl
    tLen := other.tLen
    maxLen := other.maxLen
    dma := other.dma
    txEn := other.txEn
    rxEn := other.rxEn }

theorem setupBlocks_changes (mask : U32) (blocks : List (EndpDir × Fin 16)) (driver : Usb2Driver) :
    driver.setupBlocks mask blocks = driver.withRegisters (driver.setupBlocks mask blocks) := by
  let Changed (next : Usb2Driver) := ∃ other, next = driver.withRegisters other
  have tx (next : Usb2Driver) (endpNum : Fin 16) : Changed next → Changed (next.setupTx endpNum) := by
    rintro ⟨other, rfl⟩
    exact ⟨(driver.withRegisters other).setupTx endpNum, rfl⟩
  have rx (next : Usb2Driver) (endpNum : Fin 16) : Changed next → Changed (next.setupRx endpNum) := by
    rintro ⟨other, rfl⟩
    exact ⟨(driver.withRegisters other).setupRx endpNum, rfl⟩
  obtain ⟨other, same⟩ := setupBlocks_keeps mask tx rx driver ⟨driver, rfl⟩ blocks
  rw [same]
  rfl

variable (driver) in
theorem usb2SetupEndpoints_changes :
    driver.usb2SetupEndpoints = driver.withRegisters driver.usb2SetupEndpoints := by
  unfold usb2SetupEndpoints usb2SetupEndpointsInMask
  split
  · exact setupBlocks_changes _ _ driver.setupEndp0
  · rfl

/-- A standard request leaves what does not depend on the descriptor it begins to send, on the
address, configuration and state of the device, or on the endpoint registers. -/
theorem standardRequest_leaves {View : Type} (view : Usb2Driver → View)
    (described : ∀ (driver : Usb2Driver) head remaining memory,
      view { driver with descHead := head, endp0RemainingBytes := remaining, memory := memory } =
        view driver)
    (device : ∀ (driver : Usb2Driver) addr currentConfig state remaining,
      view { driver with
        device := { driver.device with
          addr := addr
          currentConfig := currentConfig
          state := state }
        endp0RemainingBytes := remaining } = view driver)
    (registers : ∀ driver other : Usb2Driver, view (driver.withRegisters other) = view driver)
    (driver : Usb2Driver) : view driver.standardRequest.2 = view driver := by
  have setUp (driver : Usb2Driver) : view driver.usb2SetupEndpoints = view driver :=
    (congrArg view (usb2SetupEndpoints_changes driver)).trans (registers _ _)
  unfold standardRequest usb2ResetEndpoints
  dsimp only
  split
  · obtain ⟨head, remaining, memory, changes⟩ := getDescriptor_changes driver
    rw [changes]
    exact described ..
  · split
    · exact device ..
    · split
      · split
        · exact (device _ _ _ .configured _).trans ((setUp _).trans (device ..))
        · exact (setUp _).trans (device ..)
      · split
        · exact setUp driver
        · rfl

/-! ## What the handlers of endpoint 0 leave alone -/

/-- A part of the state that neither the registers of endpoint 0 nor the progress of its transfer
belong to. -/
structure Aside {View : Type} (view : Usb2Driver → View) : Prop where
  tLen : ∀ (driver : Usb2Driver) len, view (driver.setTLen 0 len) = view driver
  txCtrl : ∀ (driver : Usb2Driver) ctrl, view (driver.setTxCtrl 0 ctrl) = view driver
  rxCtrl : ∀ (driver : Usb2Driver) ctrl, view (driver.setRxCtrl 0 ctrl) = view driver
  progress : ∀ (driver : Usb2Driver) head remaining size memory,
    view { driver with
      descHead := head
      endp0RemainingBytes := remaining
      endp0CurrentTransferSize := size
      memory := memory } = view driver

namespace Aside

variable {View : Type} {view : Usb2Driver → View} (aside : Aside view) {reply : UserReply}
include aside

/-- The last steps of every handler of endpoint 0. -/
theorem answer (driver : Usb2Driver) (txCtrl rxCtrl : U8) :
    view ((driver.setTxCtrl 0 txCtrl).setRxCtrl 0 rxCtrl) = view driver :=
  (aside.rxCtrl ..).trans (aside.txCtrl ..)

theorem answerWith (driver : Usb2Driver) (len : Nat) (txCtrl rxCtrl : U8) :
    view (((driver.setTLen 0 len).setTxCtrl 0 txCtrl).setRxCtrl 0 rxCtrl) = view driver :=
  (aside.answer ..).trans (aside.tLen ..)

theorem transferSize (driver : Usb2Driver) : view driver.setTransferSize = view driver :=
  aside.progress driver driver.descHead driver.endp0RemainingBytes _ driver.memory

theorem startDataStage (driver : Usb2Driver) (head total : Nat) :
    view (driver.startDataStage head total).2 = view driver :=
  aside.progress driver head total driver.endp0CurrentTransferSize _

theorem request_of_standard (standard : driver.usbSetupReq.TreatedAsStandard) :
    view (driver.usb2Ep0RequestHandler bsp reply).2 = view driver.standardRequest.2 := by
  rw [usb2Ep0RequestHandler_of_standard standard]
  exact aside.transferSize _

theorem request_of_user (user : ¬driver.usbSetupReq.TreatedAsStandard)
    (called : ∀ withBuffer, view (driver.invoke bsp
      (.endp0UserHandledControlRequest driver.usbSetupReq withBuffer) reply) = view driver) :
    view (driver.usb2Ep0RequestHandler bsp reply).2 = view driver := by
  unfold usb2Ep0RequestHandler
  dsimp only
  rw [if_neg user]
  split
  · split
    · split
      · exact called true
      · exact (aside.transferSize _).trans ((aside.startDataStage ..).trans (called true))
    · exact (aside.transferSize _).trans (called true)
  · split
    · exact called false
    · exact aside.progress driver driver.descHead _ _ driver.memory

theorem usb2Ep0RequestHandler
    (standard : driver.usbSetupReq.TreatedAsStandard →
      view driver.standardRequest.2 = view driver)
    (called : ∀ withBuffer, view (driver.invoke bsp
      (.endp0UserHandledControlRequest driver.usbSetupReq withBuffer) reply) = view driver) :
    view (driver.usb2Ep0RequestHandler bsp reply).2 = view driver := by
  by_cases isStandard : driver.usbSetupReq.TreatedAsStandard
  · exact (aside.request_of_standard bsp isStandard).trans (standard isStandard)
  · exact aside.request_of_user bsp isStandard called

/-- After the request handler the SETUP stage writes registers of endpoint 0 only. -/
theorem usb2Ep0SetupStageHandler (driver : Usb2Driver) (reply : UserReply) :
    view (driver.usb2Ep0SetupStageHandler bsp reply) =
      view (driver.usb2Ep0RequestHandler bsp reply).2 := by
  unfold Usb2Driver.usb2Ep0SetupStageHandler
  dsimp only
  split
  · split
    · exact aside.answerWith ..
    · exact aside.answerWith ..
  · split
    · exact aside.answerWith ..
    · exact aside.answer ..

theorem ep0DataInHandler (driver : Usb2Driver) :
    view (driver.ep0DataInHandler bsp) = view driver := by
  unfold Usb2Driver.ep0DataInHandler
  dsimp only
  split
  · split
    · exact (aside.answerWith ..).trans (aside.progress ..)
    · exact (aside.answer ..).trans (aside.progress ..)
  · exact (aside.answerWith ..).trans (aside.progress ..)

theorem usb2Ep0InHandler
    (address : ∀ (driver : Usb2Driver) devAd state,
      view { driver with devAd := devAd, device := { driver.device with state := state } } =
        view driver)
    (driver : Usb2Driver) : view (driver.usb2Ep0InHandler bsp) = view driver := by
  unfold Usb2Driver.usb2Ep0InHandler
  split
  · exact aside.ep0DataInHandler bsp driver
  · unfold ep0StatusInHandler usb2SetDeviceAddress
    dsimp only
    refine (aside.answerWith ..).trans ?_
    split
    · split
      · exact address driver driver.device.addr .address
      · rfl
    · rfl

theorem usb2Ep0OutHandler
    (pointer : ∀ (driver : Usb2Driver) ptr, view (driver.setDma .uep0Rt ptr) = view driver)
    (driver : Usb2Driver)
    (called : ∀ other : Usb2Driver, view (other.invoke bsp
      (.endp0UserHandledControlRequest driver.usbSetupReq false) reply) = view other)
    (numBytesReceived : Nat) :
    view (driver.usb2Ep0OutHandler bsp numBytesReceived reply) = view driver := by
  unfold Usb2Driver.usb2Ep0OutHandler
  dsimp only
  split
  · split
    · exact aside.answer ..
    · exact aside.answerWith ..
  · split
    · refine (aside.answer ..).trans ((called _).trans ((aside.tLen ..).trans ?_))
      exact (pointer ..).trans (aside.progress ..)
    · exact (aside.answer ..).trans ((pointer ..).trans (aside.progress ..))

end Aside

/-! ## The transmitting side of a register bank -/

/-- What the endpoints with one register index transmit with. -/
structure TxBank (reg : Fin 8) where
  txCtrl : U8
  tLen : Nat
  txDma : Nat
  remaining : ∀ n, usb2EndpointReg n = reg → Nat
  tx : ∀ n, usb2EndpointReg n = reg → UsbEndpoint

def Bank.transmit {reg : Fin 8} (bank : Bank reg) : TxBank reg where
  txCtrl := bank.txCtrl
  tLen := bank.tLen
  txDma := bank.txDma
  remaining := bank.remaining
  tx := bank.tx

def Usb2Driver.txBank (driver : Usb2Driver) (reg : Fin 8) : TxBank reg :=
  (driver.bank reg).transmit

/-- The call does not transmit on the endpoints of a register index. -/
def ApiCall.TxApart (reg : Fin 8) : ApiCall → Prop
  | .endpTxSetNewBuffer endpNum _ _ => usb2EndpointReg endpNum ≠ reg
  | .endpRxSetState _ _ => True
  | .endpTxSetState endpNum _ => usb2EndpointReg endpNum ≠ reg

instance (reg : Fin 8) : (apiCall : ApiCall) → Decidable (apiCall.TxApart reg)
  | .endpTxSetNewBuffer _ _ _ => inferInstanceAs (Decidable (_ ≠ _))
  | .endpRxSetState _ _ => inferInstanceAs (Decidable True)
  | .endpTxSetState _ _ => inferInstanceAs (Decidable (_ ≠ _))

def UserReply.TxApart (reg : Fin 8) (reply : UserReply) : Prop :=
  ∀ apiCall ∈ reply.calls, apiCall.TxApart reg

instance (reg : Fin 8) (reply : UserReply) : Decidable (reply.TxApart reg) :=
  inferInstanceAs (Decidable (∀ apiCall ∈ _, _))

/-- A standard request that sets the endpoints up again. -/
def UsbSetup.ResetsEndpoints (setup : UsbSetup) : Prop :=
  setup.TreatedAsStandard ∧ (setup.bRequest = usbSetConfiguration ∨
    setup.bRequest = usbSetFeature ∧ setup.wValue.w = endpointHalt)

instance (setup : UsbSetup) : Decidable setup.ResetsEndpoints :=
  inferInstanceAs (Decidable (_ ∧ (_ ∨ _ ∧ _)))

/-- The event does not transmit on the endpoints of a register index or set them up. -/
def Usb2Event.TxApart (reg : Fin 8) : Usb2Event → Prop
  | .setup packet reply => ¬packet.ResetsEndpoints ∧ reply.TxApart reg
  | .inDone endpNum reply => usb2EndpointReg endpNum ≠ reg ∧ reply.TxApart reg
  | .outDone _ _ _ reply => reply.TxApart reg
  | .nak _ reply => reply.TxApart reg
  | .busReset _ => False
  | .call apiCall => apiCall.TxApart reg

instance (reg : Fin 8) : (event : Usb2Event) → Decidable (event.TxApart reg)
  | .setup _ _ => inferInstanceAs (Decidable (_ ∧ _))
  | .inDone _ _ => inferInstanceAs (Decidable (_ ∧ _))
  | .outDone _ _ _ reply => inferInstanceAs (Decidable (reply.TxApart reg))
  | .nak _ reply => inferInstanceAs (Decidable (reply.TxApart reg))
  | .busReset _ => inferInstanceAs (Decidable False)
  | .call apiCall => inferInstanceAs (Decidable (apiCall.TxApart reg))

section

variable {reg : Fin 8} {endpNum : Fin 16} {reply : UserReply}

@[simp] theorem txBank_setRxCtrl (other : Fin 8) (value : U8) :
    (driver.setRxCtrl other value).txBank reg = driver.txBank reg := rfl

@[simp] theorem txBank_setRx (endp : UsbEndpoint) :
    (driver.setRx endpNum endp).txBank reg = driver.txBank reg := rfl

theorem txBank_setTxCtrl {other : Fin 8} (apart : other ≠ reg) (value : U8) :
    (driver.setTxCtrl other value).txBank reg = driver.txBank reg :=
  congrArg Bank.transmit (bank_setTxCtrl apart value)

theorem txBank_setTLen {other : Fin 8} (apart : other ≠ reg) (value : Nat) :
    (driver.setTLen other value).txBank reg = driver.txBank reg :=
  congrArg Bank.transmit (bank_setTLen apart value)

theorem txBank_setDma {dmaReg : DmaReg} (apart : dmaReg ≠ .tx reg) (value : Nat) :
    (driver.setDma dmaReg value).txBank reg = driver.txBank reg :=
  congrArg Bank.transmit (bank_setDma apart value)

theorem txBank_endpRxSetState (state : U8) :
    (driver.endpRxSetState bsp endpNum state).txBank reg = driver.txBank reg := by
  unfold endpRxSetState
  simp only []
  split
  · rfl
  · rfl

theorem txBank_call {apiCall : ApiCall} (apart : apiCall.TxApart reg) :
    (driver.call bsp apiCall).txBank reg = driver.txBank reg := by
  cases apiCall with
  | endpTxSetNewBuffer endpNum ptr size =>
      exact congrArg Bank.transmit (bank_endpTxSetNewBuffer apart ptr size)
  | endpRxSetState endpNum state => exact txBank_endpRxSetState bsp state
  | endpTxSetState endpNum state =>
      exact congrArg Bank.transmit (bank_endpTxSetState apart state)

theorem txBank_runCalls {calls : List ApiCall}
    (apart : ∀ apiCall ∈ calls, apiCall.TxApart reg) :
    (driver.runCalls bsp calls).txBank reg = driver.txBank reg := by
  induction calls generalizing driver with
  | nil => rfl
  | cons apiCall rest ih =>
      have first := @txBank_call bsp driver reg apiCall (apart apiCall List.mem_cons_self)
      have others := @ih (driver.call bsp apiCall) fun other member =>
        apart other (List.mem_cons_of_mem apiCall member)
      exact others.trans first

theorem txBank_invoke {userCall : UserCall} (apart : reply.TxApart reg) :
    (driver.invoke bsp userCall reply).txBank reg = driver.txBank reg :=
  txBank_runCalls bsp apart

theorem usb2TxEndpointAddrReg_ne (apart : usb2EndpointReg endpNum ≠ reg) :
    usb2TxEndpointAddrReg endpNum ≠ .tx reg := by
  unfold usb2TxEndpointAddrReg
  split
  · nofun
  · exact tx_ne apart

theorem usb2RxEndpointAddrReg_ne : usb2RxEndpointAddrReg endpNum ≠ .tx reg := by
  unfold usb2RxEndpointAddrReg
  split
  · nofun
  · nofun

theorem txBank_usb2InTransferHandler (apart : usb2EndpointReg endpNum ≠ reg)
    (callsApart : reply.TxApart reg) :
    (driver.usb2InTransferHandler bsp endpNum reply).txBank reg = driver.txBank reg := by
  have counted : (driver.countInPacket endpNum).txBank reg = driver.txBank reg :=
    congrArg Bank.transmit (bank_setRemaining apart _)
  have addrApart := usb2TxEndpointAddrReg_ne apart
  unfold usb2InTransferHandler
  simp only []
  split
  · split
    · have called : ((driver.beforeTxComplete bsp endpNum).invoke bsp (.txComplete endpNum)
          reply).txBank reg = driver.txBank reg := by
        rw [txBank_invoke bsp callsApart, beforeTxComplete, txBank_setTxCtrl apart,
          txBank_setTLen apart, counted]
      rw [txBank_setRxCtrl]
      split
      · rw [txBank_setDma addrApart, called]
      · exact called
    · rw [txBank_setRxCtrl, txBank_setTxCtrl apart, txBank_setDma addrApart, counted]
  · rw [txBank_setRxCtrl, txBank_setTxCtrl apart]

theorem txBank_usb2OutTransferHandler (notControl : 0 ≠ reg) (callsApart : reply.TxApart reg)
    (numBytesReceived : Nat) :
    (driver.usb2OutTransferHandler bsp endpNum numBytesReceived reply).txBank reg =
      driver.txBank reg := by
  have before : (driver.beforeRxCallback endpNum numBytesReceived).txBank reg =
      driver.txBank reg := by
    unfold beforeRxCallback
    split
    · rfl
    · rfl
  have received : (((driver.beforeRxCallback endpNum numBytesReceived).invoke bsp
      (.rxCallback endpNum (driver.device.rx endpNum).buffer numBytesReceived)
        reply).afterRxCallback endpNum reply.state).txBank reg = driver.txBank reg := by
    rw [afterRxCallback, txBank_setDma usb2RxEndpointAddrReg_ne, txBank_setRx,
      txBank_invoke bsp callsApart, before]
  have control (isIt : endpNum = 0) : usb2EndpointReg endpNum ≠ reg := by
    rw [isIt]
    exact notControl
  unfold usb2OutTransferHandler
  simp only []
  split
  · split
    · next status => rw [txBank_setRxCtrl, txBank_setTxCtrl (control status.1), received]
    · split
      · next status => rw [txBank_setRxCtrl, txBank_setTxCtrl (control status.1), received]
      · rw [txBank_setRxCtrl, received]
  · rw [txBank_setRxCtrl]

theorem aside_txBank (apart : 0 ≠ reg) : Aside fun driver => driver.txBank reg where
  tLen _ := txBank_setTLen apart
  txCtrl _ := txBank_setTxCtrl apart
  rxCtrl _ := txBank_setRxCtrl 0
  progress _ _ _ _ _ := rfl

theorem txBank_usb2Ep0InHandler (apart : 0 ≠ reg) :
    (driver.usb2Ep0InHandler bsp).txBank reg = driver.txBank reg :=
  (aside_txBank apart).usb2Ep0InHandler bsp (fun _ _ _ => rfl) driver

theorem txBank_usb2Ep0OutHandler (apart : 0 ≠ reg) (callsApart : reply.TxApart reg)
    (numBytesReceived : Nat) :
    (driver.usb2Ep0OutHandler bsp numBytesReceived reply).txBank reg = driver.txBank reg :=
  (aside_txBank apart).usb2Ep0OutHandler bsp (fun _ => txBank_setDma nofun) driver
    (fun _ => txBank_invoke bsp callsApart) numBytesReceived

/-- A standard request leaves the register banks alone unless it sets the endpoints up again. -/
theorem txBank_standardRequest (standard : driver.usbSetupReq.TreatedAsStandard)
    (keepsEndpoints : ¬driver.usbSetupReq.ResetsEndpoints) :
    driver.standardRequest.2.txBank reg = driver.txBank reg := by
  unfold standardRequest
  simp only []
  split
  · obtain ⟨head, remaining, memory, changes⟩ := getDescriptor_changes driver
    rw [changes]
    rfl
  · split
    · rfl
    · rw [if_neg (fun isIt => keepsEndpoints ⟨standard, Or.inl isIt⟩),
        if_neg (fun isIt => keepsEndpoints ⟨standard, Or.inr isIt⟩)]

theorem txBank_usb2Ep0SetupStageHandler (apart : 0 ≠ reg) (callsApart : reply.TxApart reg)
    (keepsEndpoints : ¬driver.usbSetupReq.ResetsEndpoints) :
    (driver.usb2Ep0SetupStageHandler bsp reply).txBank reg = driver.txBank reg := by
  have handled := (aside_txBank apart).usb2Ep0RequestHandler bsp
    (fun standard => txBank_standardRequest standard keepsEndpoints)
    (fun _ => txBank_invoke bsp callsApart)
  exact ((aside_txBank apart).usb2Ep0SetupStageHandler bsp driver reply).trans handled

theorem txBank_passthroughSetup (apart : 0 ≠ reg) (callsApart : reply.TxApart reg) :
    (driver.passthroughSetup bsp reply).txBank reg = driver.txBank reg := by
  unfold passthroughSetup
  simp only []
  rw [txBank_setRxCtrl, txBank_setTxCtrl apart, txBank_setRx, txBank_invoke bsp callsApart]

/-- An event elsewhere leaves the transmitting side of a register bank alone. -/
theorem txBank_step (notControl : 0 ≠ reg) {event : Usb2Event} (apart : event.TxApart reg) :
    (Usb2Event.step bsp driver event).txBank reg = driver.txBank reg := by
  let view (driver : Usb2Driver) := driver.txBank reg
  cases event with
  | setup packet reply =>
      obtain ⟨keepsEndpoints, callsApart⟩ := apart
      refine step_setup_leaves bsp view (fun _ _ => rfl) reply packet rfl (fun _ => ?_) fun _ => ?_
      · exact txBank_passthroughSetup bsp notControl callsApart
      · exact txBank_usb2Ep0SetupStageHandler bsp notControl callsApart keepsEndpoints
  | inDone endpNum reply =>
      obtain ⟨endpApart, callsApart⟩ := apart
      refine step_inDone_leaves bsp view (fun _ _ => rfl) endpNum reply (fun _ => ?_) ?_
      · exact txBank_usb2InTransferHandler bsp endpApart callsApart
      · exact txBank_usb2Ep0InHandler bsp notControl
  | outDone endpNum numBytesReceived togok reply =>
      refine step_outDone_leaves bsp view (fun _ _ => rfl) endpNum reply numBytesReceived togok ?_ ?_
      · exact txBank_usb2OutTransferHandler bsp notControl apart numBytesReceived
      · exact txBank_usb2Ep0OutHandler bsp notControl apart numBytesReceived
  | nak endpNum reply =>
      rw [step_nak]
      exact txBank_invoke bsp apart
  | busReset reply => exact apart.elim
  | call apiCall => exact txBank_call bsp apart

end

/-! ## The configuration -/

theorem config_usb2SetupEndpoints : driver.usb2SetupEndpoints.config = driver.config :=
  (congrArg config (usb2SetupEndpoints_changes driver)).trans rfl

theorem config_standardRequest : driver.standardRequest.2.config = driver.config :=
  standardRequest_leaves config (fun _ _ _ _ => rfl) (fun _ _ _ _ _ => rfl) (fun _ _ => rfl) driver

theorem aside_config : Aside config where
  tLen _ _ := rfl
  txCtrl _ _ := rfl
  rxCtrl _ _ := rfl
  progress _ _ _ _ _ := rfl

theorem config_usb2Ep0SetupStageHandler (reply : UserReply) :
    (driver.usb2Ep0SetupStageHandler bsp reply).config = driver.config := by
  have handled := aside_config.usb2Ep0RequestHandler bsp (fun _ => config_standardRequest)
    (fun _ => config_invoke bsp driver _ reply)
  exact (aside_config.usb2Ep0SetupStageHandler bsp driver reply).trans handled

theorem config_passthroughSetup (reply : UserReply) :
    (driver.passthroughSetup bsp reply).config = driver.config :=
  (config_afterRxCallback _ 0 reply.state).trans (config_invoke ..)

theorem config_usb2Ep0InHandler : (driver.usb2Ep0InHandler bsp).config = driver.config :=
  aside_config.usb2Ep0InHandler bsp (fun _ _ _ => rfl) driver

theorem config_usb2Ep0OutHandler (numBytesReceived : Nat) (reply : UserReply) :
    (driver.usb2Ep0OutHandler bsp numBytesReceived reply).config = driver.config :=
  aside_config.usb2Ep0OutHandler bsp (fun _ _ => rfl) driver
    (fun other => config_invoke bsp other _ reply) numBytesReceived

theorem config_busReset (reply : UserReply) :
    (driver.busReset bsp reply).config = driver.config := by
  have handled := config_invoke bsp driver .usb2DeviceHandleBusReset reply
  unfold busReset usb2SetDeviceAddress
  simp only []
  rw [if_pos (by decide)]
  exact config_usb2SetupEndpoints.trans handled

/-! ## Calls of user code -/

/-- How often user code has been called in one way. -/
def Usb2Driver.called (driver : Usb2Driver) (userCall : UserCall) : Nat :=
  driver.userCalls.count userCall

section

variable {userCall : UserCall} {endpNum : Fin 16} {reply : UserReply}

theorem userCalls_invoke (other : UserCall) :
    (driver.invoke bsp other reply).userCalls = driver.userCalls ++ [other] :=
  congrArg Fixed.userCalls (fixed_invoke bsp driver other reply)

variable (driver reply) in
theorem called_invoke {other : UserCall} (different : other ≠ userCall) :
    (driver.invoke bsp other reply).called userCall = driver.called userCall := by
  unfold called
  rw [userCalls_invoke, List.count_append, List.count_singleton, if_neg (by simpa using different),
    Nat.add_zero]

theorem apart_called : ApartFromTransfers fun driver => driver.called userCall where
  registers _ _ _ _ _ _ _ := rfl
  rxState _ _ _ := rfl

theorem called_usb2InTransferHandler (different : .txComplete endpNum ≠ userCall) :
    (driver.usb2InTransferHandler bsp endpNum reply).called userCall = driver.called userCall :=
  apart_called.usb2InTransferHandler bsp
    (called_invoke bsp (driver.beforeTxComplete bsp endpNum) reply different)

theorem called_usb2OutTransferHandler (numBytesReceived : Nat)
    (different : ∀ ptr, .rxCallback endpNum ptr numBytesReceived ≠ userCall) :
    (driver.usb2OutTransferHandler bsp endpNum numBytesReceived reply).called userCall =
      driver.called userCall :=
  apart_called.usb2OutTransferHandler bsp fun ptr =>
    called_invoke bsp (driver.beforeRxCallback endpNum numBytesReceived) reply (different ptr)

theorem userCalls_standardRequest (driver : Usb2Driver) :
    driver.standardRequest.2.userCalls = driver.userCalls :=
  standardRequest_leaves userCalls (fun _ _ _ _ => rfl) (fun _ _ _ _ _ => rfl) (fun _ _ => rfl)
    driver

theorem called_standardRequest :
    driver.standardRequest.2.called userCall = driver.called userCall :=
  congrArg (List.count userCall) (userCalls_standardRequest driver)

theorem aside_called : Aside fun driver => driver.called userCall where
  tLen _ _ := rfl
  txCtrl _ _ := rfl
  rxCtrl _ _ := rfl
  progress _ _ _ _ _ := rfl

theorem called_usb2Ep0SetupStageHandler
    (different : ∀ withBuffer,
      .endp0UserHandledControlRequest driver.usbSetupReq withBuffer ≠ userCall) :
    (driver.usb2Ep0SetupStageHandler bsp reply).called userCall = driver.called userCall := by
  have handled := aside_called.usb2Ep0RequestHandler bsp (fun _ => called_standardRequest)
    (fun withBuffer => called_invoke bsp driver reply (different withBuffer))
  exact (aside_called.usb2Ep0SetupStageHandler bsp driver reply).trans handled

theorem called_usb2Ep0InHandler :
    (driver.usb2Ep0InHandler bsp).called userCall = driver.called userCall :=
  aside_called.usb2Ep0InHandler bsp (fun _ _ _ => rfl) driver

theorem called_usb2Ep0OutHandler (numBytesReceived : Nat)
    (different : .endp0UserHandledControlRequest driver.usbSetupReq false ≠ userCall) :
    (driver.usb2Ep0OutHandler bsp numBytesReceived reply).called userCall =
      driver.called userCall :=
  aside_called.usb2Ep0OutHandler bsp (fun _ _ => rfl) driver
    (fun other => called_invoke bsp other reply different) numBytesReceived

end

/-! ## Events -/

variable (driver) in
/-- No event changes the configuration. -/
theorem config_step (event : Usb2Event) :
    (Usb2Event.step bsp driver event).config = driver.config := by
  cases event with
  | setup packet reply =>
      exact step_setup_leaves bsp config (fun _ _ => rfl) reply packet rfl
        (fun _ => config_passthroughSetup ..) (fun _ => config_usb2Ep0SetupStageHandler ..)
  | inDone endpNum reply =>
      exact step_inDone_leaves bsp config (fun _ _ => rfl) endpNum reply
        (fun _ => config_usb2InTransferHandler ..) (config_usb2Ep0InHandler ..)
  | outDone endpNum numBytesReceived togok reply =>
      exact step_outDone_leaves bsp config (fun _ _ => rfl) endpNum reply numBytesReceived togok
        (config_usb2OutTransferHandler ..) (config_usb2Ep0OutHandler ..)
  | nak endpNum reply =>
      rw [step_nak]
      exact config_invoke ..
  | busReset reply =>
      rw [step_busReset]
      exact config_busReset ..
  | call apiCall => exact config_call ..

/-- Only an IN completion of an endpoint reports a finished transfer on it. -/
theorem called_txComplete_step {endpNum : Fin 16} {event : Usb2Event}
    (apart : event.TxApart (usb2EndpointReg endpNum)) :
    (Usb2Event.step bsp driver event).called (.txComplete endpNum) =
      driver.called (.txComplete endpNum) := by
  let view (driver : Usb2Driver) := driver.called (.txComplete endpNum)
  cases event with
  | setup packet reply =>
      refine step_setup_leaves bsp view (fun _ _ => rfl) reply packet rfl (fun _ => ?_) fun _ => ?_
      · exact called_invoke bsp (driver.setupRead packet) reply (by nofun)
      · exact called_usb2Ep0SetupStageHandler bsp (by nofun)
  | inDone other reply =>
      have different : UserCall.txComplete other ≠ .txComplete endpNum := fun same =>
        apart.1 (congrArg usb2EndpointReg (UserCall.txComplete.inj same))
      refine step_inDone_leaves bsp view (fun _ _ => rfl) other reply (fun _ => ?_) ?_
      · exact called_usb2InTransferHandler bsp different
      · exact called_usb2Ep0InHandler bsp
  | outDone other numBytesReceived togok reply =>
      refine step_outDone_leaves bsp view (fun _ _ => rfl) other reply numBytesReceived togok ?_ ?_
      · exact called_usb2OutTransferHandler bsp numBytesReceived (by nofun)
      · exact called_usb2Ep0OutHandler bsp numBytesReceived (by nofun)
  | nak other reply =>
      rw [step_nak]
      exact called_invoke bsp driver.transferPending reply (by nofun)
  | busReset reply => exact apart.elim
  | call apiCall =>
      exact congrArg (List.count _) (congrArg Fixed.userCalls (driver.fixed_call bsp apiCall))

section

variable {events : List Usb2Event}

variable (driver events) in
theorem config_run : (Usb2Event.run bsp driver events).config = driver.config := by
  induction events generalizing driver with
  | nil => rfl
  | cons event rest ih => exact (ih (Usb2Event.step bsp driver event)).trans (config_step bsp driver event)

theorem txBank_run {reg : Fin 8} (notControl : 0 ≠ reg)
    (apart : ∀ event ∈ events, event.TxApart reg) :
    (Usb2Event.run bsp driver events).txBank reg = driver.txBank reg := by
  induction events generalizing driver with
  | nil => rfl
  | cons event rest ih =>
      have first := @txBank_step bsp driver reg notControl event (apart event List.mem_cons_self)
      have others := @ih (Usb2Event.step bsp driver event) fun other member =>
        apart other (List.mem_cons_of_mem event member)
      exact others.trans first

theorem called_txComplete_run {endpNum : Fin 16}
    (apart : ∀ event ∈ events, event.TxApart (usb2EndpointReg endpNum)) :
    (Usb2Event.run bsp driver events).called (.txComplete endpNum) =
      driver.called (.txComplete endpNum) := by
  induction events generalizing driver with
  | nil => rfl
  | cons event rest ih =>
      have first := @called_txComplete_step bsp driver endpNum event
        (apart event List.mem_cons_self)
      have others := @ih (Usb2Event.step bsp driver event) fun other member =>
        apart other (List.mem_cons_of_mem event member)
      exact others.trans first

end

end WchCh56x.Usb
