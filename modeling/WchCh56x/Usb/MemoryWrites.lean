import WchCh56x.Support.ByteMemory
import WchCh56x.Usb.ControlInSetup

/-!
# Where the driver writes

The driver copies bytes to the buffer of endpoint 0 only: the packets of the data
stages that it handles itself, and the buffers that the user hands over for endpoint
0.  The hardware puts the SETUP packets there.
-/

namespace WchCh56x.Usb

namespace Usb2Driver

variable (bsp : Usb2Bsp) (limit : Nat)

/-- From one driver to the next nothing is written but the first bytes of the buffer of
endpoint 0. -/
structure WritesInside (driver next : Usb2Driver) : Prop where
  config : next.config = driver.config
  kept : ∀ address, address < driver.endp0Buffer ∨ driver.endp0Buffer + limit ≤ address →
    next.memory address = driver.memory address

variable {limit}

namespace WritesInside

variable {driver next last : Usb2Driver}

theorem buffer (inside : WritesInside limit driver next) : next.endp0Buffer = driver.endp0Buffer :=
  congrArg (fun config : Config => config.rxBuffer 0) inside.config

theorem refl (driver : Usb2Driver) : WritesInside limit driver driver := ⟨rfl, fun _ _ => rfl⟩

theorem trans (first : WritesInside limit driver next) (second : WritesInside limit next last) :
    WritesInside limit driver last where
  config := second.config.trans first.config
  kept address outside := by
    have later := second.kept address
    rw [first.buffer] at later
    exact (later outside).trans (first.kept address outside)

/-- A step that leaves the memory alone. -/
theorem of_memory (config : next.config = driver.config) (memory : next.memory = driver.memory) :
    WritesInside limit driver next := ⟨config, fun address _ => congrFun memory address⟩

/-- A copy to the buffer. -/
theorem of_copy (config : next.config = driver.config) {source size : Nat} (fits : size ≤ limit)
    (memory : next.memory = memcpyBytes driver.memory driver.endp0Buffer source size) :
    WritesInside limit driver next where
  config := config
  kept address outside := by
    rw [memory]
    exact memcpyBytes_outside _ _ _ (by omega)

/-- A store to the buffer. -/
theorem of_store (config : next.config = driver.config) {bytes : List U8}
    (fits : bytes.length ≤ limit)
    (memory : next.memory = storeBytes driver.memory driver.endp0Buffer bytes) :
    WritesInside limit driver next where
  config := config
  kept address outside := by
    rw [memory]
    exact storeBytes_outside (by omega)

end WritesInside

/-! ## Calls of the user -/

variable (driver : Usb2Driver)

theorem memory_endpTxReady (endpNum : Fin 16) (size : Nat) :
    (driver.endpTxReady endpNum size).memory = driver.memory := by
  unfold endpTxReady usb2EndpTxReady
  dsimp only
  split
  · split
    · rfl
    · rfl
  · split
    · rfl
    · rfl

theorem writesInside_call {apiCall : ApiCall}
    (fits : apiCall.endpNum = 0 → driver.config.txMaxPacketSizeWithBurst 0 ≤ limit) :
    WritesInside limit driver (driver.call bsp apiCall) := by
  have config := congrArg Fixed.config (driver.fixed_call bsp apiCall)
  cases apiCall with
  | endpTxSetNewBuffer endpNum ptr size =>
      change WritesInside limit driver (driver.endpTxSetNewBuffer endpNum ptr size).2
      change (driver.endpTxSetNewBuffer endpNum ptr size).2.config = _ at config
      unfold endpTxSetNewBuffer at config ⊢
      dsimp only at config ⊢
      split
      · exact .of_memory rfl rfl
      · next accepted =>
          split
          · next noBuffer =>
              rw [if_neg accepted, if_pos noBuffer] at config
              exact .of_memory config rfl
          · next copies =>
              rw [if_neg accepted, if_neg copies] at config
              have ready := memory_endpTxReady ((driver.enterCritical.setTx endpNum
                { driver.device.tx endpNum with buffer := ptr }).copyToEndp0 endpNum ptr size)
                endpNum size
              by_cases isControl : endpNum = 0
              · subst isControl
                have small := Nat.le_of_not_lt (not_or.mp accepted).1
                exact .of_copy config (small.trans (fits rfl)) ready
              · refine .of_memory config (ready.trans ?_)
                unfold copyToEndp0
                rw [if_neg isControl]
                rfl
  | endpRxSetState endpNum state =>
      refine .of_memory config ?_
      change (driver.endpRxSetState bsp endpNum state).memory = driver.memory
      unfold endpRxSetState
      dsimp only
      split
      · rfl
      · rfl
  | endpTxSetState endpNum state =>
      refine .of_memory config ?_
      change (driver.endpTxSetState endpNum state).memory = driver.memory
      unfold endpTxSetState
      dsimp only
      split
      · rfl
      · rfl

/-- The calls are for other endpoints, or what may be handed over for endpoint 0 has room. -/
def CallsFit (limit : Nat) (driver : Usb2Driver) (calls : List ApiCall) : Prop :=
  ∀ apiCall ∈ calls, apiCall.endpNum = 0 → driver.config.txMaxPacketSizeWithBurst 0 ≤ limit

theorem CallsFit.of_config {driver next : Usb2Driver} {calls : List ApiCall}
    (fit : CallsFit limit driver calls) (config : next.config = driver.config) :
    CallsFit limit next calls := by
  intro apiCall member isControl
  rw [config]
  exact fit apiCall member isControl

theorem writesInside_runCalls {calls : List ApiCall} (fit : CallsFit limit driver calls) :
    WritesInside limit driver (driver.runCalls bsp calls) := by
  induction calls generalizing driver with
  | nil => exact .refl driver
  | cons apiCall rest ih =>
      have first := driver.writesInside_call bsp (fit apiCall List.mem_cons_self)
      refine first.trans (ih _ (CallsFit.of_config ?_ first.config))
      exact fun other member => fit other (List.mem_cons_of_mem _ member)

theorem writesInside_invoke (userCall : UserCall) {reply : UserReply}
    (fit : CallsFit limit driver reply.calls) :
    WritesInside limit driver (driver.invoke bsp userCall reply) := by
  have called := writesInside_runCalls bsp
    { driver with userCalls := driver.userCalls ++ [userCall] } fit
  exact ⟨called.config, called.kept⟩

/-! ## The handlers of endpoint 0 -/

section

variable (packetFits : driver.usb2Endp0MaxPacketSize ≤ limit)
include packetFits

theorem writesInside_startDataStage (head total : Nat) :
    WritesInside limit driver (driver.startDataStage head total).2 :=
  .of_copy rfl ((Nat.min_le_right _ _).trans packetFits) rfl

theorem writesInside_getDescriptor : WritesInside limit driver driver.getDescriptor.2 := by
  unfold getDescriptor
  dsimp only
  split
  · split
    · exact driver.writesInside_startDataStage packetFits _ _
    · exact .refl driver
  · split
    · split
      · exact driver.writesInside_startDataStage packetFits _ _
      · exact .refl driver
    · split
      · split
        · exact driver.writesInside_startDataStage packetFits _ _
        · exact .refl driver
      · exact .refl driver

omit packetFits in
theorem memory_usb2SetupEndpoints : driver.usb2SetupEndpoints.memory = driver.memory :=
  (congrArg Usb2Driver.memory (usb2SetupEndpoints_changes driver)).trans rfl

theorem writesInside_standardRequest : WritesInside limit driver driver.standardRequest.2 := by
  have config := @config_standardRequest driver
  by_cases isGet : driver.usbSetupReq.bRequest = usbGetDescriptor
  · rw [standardRequest_of_getDescriptor isGet]
    exact driver.writesInside_getDescriptor packetFits
  refine .of_memory config ?_
  unfold standardRequest usb2ResetEndpoints
  dsimp only
  rw [if_neg isGet]
  split
  · rfl
  · split
    · split
      · exact memory_usb2SetupEndpoints _
      · exact memory_usb2SetupEndpoints _
    · split
      · exact driver.memory_usb2SetupEndpoints
      · rfl

theorem writesInside_usb2Ep0RequestHandler {reply : UserReply}
    (fit : CallsFit limit driver reply.calls) :
    WritesInside limit driver (driver.usb2Ep0RequestHandler bsp reply).2 := by
  by_cases standard : driver.usbSetupReq.TreatedAsStandard
  · rw [usb2Ep0RequestHandler_of_standard standard]
    exact (driver.writesInside_standardRequest packetFits).trans (.of_memory rfl rfl)
  · have called (withBuffer : Bool) := driver.writesInside_invoke bsp
      (.endp0UserHandledControlRequest driver.usbSetupReq withBuffer) fit
    have size : (driver.invoke bsp (.endp0UserHandledControlRequest driver.usbSetupReq true)
        reply).usb2Endp0MaxPacketSize = driver.usb2Endp0MaxPacketSize :=
      congrArg Config.usb2Endp0MaxPacketSize (called true).config
    unfold usb2Ep0RequestHandler
    dsimp only
    rw [if_neg standard]
    split
    · split
      · split
        · exact called true
        · exact ((called true).trans (writesInside_startDataStage _ (size.trans_le packetFits)
            _ _)).trans (.of_memory rfl rfl)
      · exact (called true).trans (.of_memory rfl rfl)
    · split
      · exact called false
      · exact .of_memory rfl rfl

theorem writesInside_usb2Ep0SetupStageHandler {reply : UserReply}
    (fit : CallsFit limit driver reply.calls) :
    WritesInside limit driver (driver.usb2Ep0SetupStageHandler bsp reply) := by
  refine (driver.writesInside_usb2Ep0RequestHandler bsp packetFits fit).trans ?_
  unfold usb2Ep0SetupStageHandler
  dsimp only
  split
  · split
    · exact .of_memory rfl rfl
    · exact .of_memory rfl rfl
  · split
    · exact .of_memory rfl rfl
    · exact .of_memory rfl rfl

theorem writesInside_usb2Ep0InHandler : WritesInside limit driver (driver.usb2Ep0InHandler bsp) := by
  have config := @config_usb2Ep0InHandler bsp driver
  unfold usb2Ep0InHandler at config ⊢
  split
  · next isIn =>
      rw [if_pos isIn] at config
      unfold ep0DataInHandler at config ⊢
      dsimp only at config ⊢
      split
      · split
        · exact .of_memory rfl rfl
        · exact .of_memory rfl rfl
      · exact .of_copy rfl ((Nat.min_le_right _ _).trans packetFits) rfl
  · next isOut =>
      rw [if_neg isOut] at config
      refine .of_memory config ?_
      unfold ep0StatusInHandler usb2SetDeviceAddress
      dsimp only
      split
      · split
        · rfl
        · rfl
      · rfl

end

theorem writesInside_usb2Ep0OutHandler (numBytesReceived : Nat) {reply : UserReply}
    (fit : CallsFit limit driver reply.calls) :
    WritesInside limit driver (driver.usb2Ep0OutHandler bsp numBytesReceived reply) := by
  unfold usb2Ep0OutHandler
  dsimp only
  split
  · split
    · exact .of_memory rfl rfl
    · exact .of_memory rfl rfl
  · split
    · next last =>
      have called := writesInside_invoke bsp (((driver.countOutPacket numBytesReceived).setDma .uep0Rt
        driver.endp0Buffer).setTLen 0 0) (.endp0UserHandledControlRequest driver.usbSetupReq false)
          fit
      exact ⟨called.config, called.kept⟩
    · exact .of_memory rfl rfl

end Usb2Driver

/-! ## Events -/

/-- The interface calls that user code makes while the event is handled. -/
def Usb2Event.calls : Usb2Event → List ApiCall
  | .setup _ reply | .inDone _ reply | .outDone _ _ _ reply | .nak _ reply | .busReset reply =>
      reply.calls
  | .call apiCall => [apiCall]

namespace Usb2Driver

variable (bsp : Usb2Bsp) {limit : Nat} (driver : Usb2Driver)

theorem apart_memory (address : Nat) : ApartFromTransfers fun driver => driver.memory address where
  registers _ _ _ _ _ _ _ := rfl
  rxState _ _ _ := rfl

section

variable {driver} {reply : UserReply} (fit : CallsFit limit driver reply.calls) {address : Nat}
  (outside : address < driver.endp0Buffer ∨ driver.endp0Buffer + limit ≤ address)
include fit outside

theorem memory_invoke_outside (userCall : UserCall) :
    (driver.invoke bsp userCall reply).memory address = driver.memory address :=
  (driver.writesInside_invoke bsp userCall fit).kept address outside

theorem memory_usb2InTransferHandler (endpNum : Fin 16) :
    (driver.usb2InTransferHandler bsp endpNum reply).memory address = driver.memory address :=
  (apart_memory address).usb2InTransferHandler bsp
    (@memory_invoke_outside bsp limit (driver.beforeTxComplete bsp endpNum) reply fit address outside
      _)

theorem memory_usb2OutTransferHandler (endpNum : Fin 16) (numBytesReceived : Nat) :
    (driver.usb2OutTransferHandler bsp endpNum numBytesReceived reply).memory address =
      driver.memory address := by
  refine (apart_memory address).usb2OutTransferHandler bsp fun _ => ?_
  have config : (driver.beforeRxCallback endpNum numBytesReceived).config = driver.config := by
    unfold beforeRxCallback
    split
    · rfl
    · rfl
  refine ((driver.beforeRxCallback endpNum numBytesReceived).writesInside_invoke bsp _
    (fit.of_config config)).kept address ?_
  have buffer : (driver.beforeRxCallback endpNum numBytesReceived).endp0Buffer =
      driver.endp0Buffer := congrArg (fun config : Config => config.rxBuffer 0) config
  rw [buffer]
  exact outside

theorem memory_passthroughSetup :
    (driver.passthroughSetup bsp reply).memory address = driver.memory address :=
  memory_invoke_outside bsp fit outside (.endp0PassthroughSetupCallback driver.endp0Buffer)

theorem memory_busReset : (driver.busReset bsp reply).memory address = driver.memory address := by
  unfold busReset usb2SetDeviceAddress
  dsimp only
  rw [if_pos (by decide)]
  exact (congrFun (memory_usb2SetupEndpoints _) address).trans
    (memory_invoke_outside bsp fit outside .usb2DeviceHandleBusReset)

end

/-- One event writes to the buffer of endpoint 0 only. -/
theorem writesInside_step (setupFits : 8 ≤ limit)
    (packetFits : driver.usb2Endp0MaxPacketSize ≤ limit) {event : Usb2Event}
    (fit : CallsFit limit driver event.calls) :
    WritesInside limit driver (event.step bsp driver) where
  config := config_step bsp driver event
  kept address outside := by
    cases event with
    | setup packet reply =>
        have stored : (driver.setupPending packet).memory address = driver.memory address := by
          refine if_neg fun inside => ?_
          have length : packet.bytes.length = 8 := rfl
          rw [length] at inside
          omega
        refine step_setup_leaves bsp (fun driver => driver.memory address) (fun _ _ => rfl) reply
          packet stored ?_ ?_
        · intro _
          exact (@memory_passthroughSetup bsp limit (driver.setupRead packet) reply fit address
            outside).trans stored
        · intro _
          exact (((driver.setupRead packet).writesInside_usb2Ep0SetupStageHandler bsp packetFits
            fit).kept address outside).trans stored
    | inDone endpNum reply =>
        refine step_inDone_leaves bsp (fun driver => driver.memory address) (fun _ _ => rfl) endpNum
          reply ?_ ?_
        · intro _
          exact @memory_usb2InTransferHandler bsp limit driver.transferPending reply fit address
            outside endpNum
        · exact (driver.transferPending.writesInside_usb2Ep0InHandler bsp packetFits).kept address
            outside
    | outDone endpNum numBytesReceived togok reply =>
        refine step_outDone_leaves bsp (fun driver => driver.memory address) (fun _ _ => rfl) endpNum
          reply numBytesReceived togok ?_ ?_
        · exact @memory_usb2OutTransferHandler bsp limit driver.transferPending reply fit address
            outside endpNum numBytesReceived
        · exact (driver.transferPending.writesInside_usb2Ep0OutHandler bsp numBytesReceived fit).kept
            address outside
    | nak endpNum reply =>
        rw [step_nak]
        exact @memory_invoke_outside bsp limit driver.transferPending reply fit address outside _
    | busReset reply =>
        rw [step_busReset]
        exact @memory_busReset bsp limit
          { driver with intFg := { Usb2IntFlags.none with busrst := true } } reply fit address outside
    | call apiCall =>
        have fits := fit apiCall (List.mem_singleton.mpr rfl)
        exact (driver.writesInside_call bsp fits).kept address outside

variable {driver} in
theorem writesInside_run (setupFits : 8 ≤ limit)
    (packetFits : driver.usb2Endp0MaxPacketSize ≤ limit)
    (bufferFits : driver.config.txMaxPacketSizeWithBurst 0 ≤ limit) (events : List Usb2Event) :
    WritesInside limit driver (Usb2Event.run bsp driver events) := by
  induction events generalizing driver with
  | nil => exact .refl driver
  | cons event rest ih =>
      have first := @writesInside_step bsp limit driver setupFits packetFits event
        fun _ _ _ => bufferFits
      have size : (event.step bsp driver).usb2Endp0MaxPacketSize = driver.usb2Endp0MaxPacketSize :=
        congrArg Config.usb2Endp0MaxPacketSize first.config
      have burst := congrArg (fun config : Config => config.txMaxPacketSizeWithBurst 0) first.config
      exact first.trans (ih (size.trans_le packetFits) (burst.trans_le bufferFits))

end Usb2Driver

/-- Whatever the host and the user code do, the driver writes nothing but the buffer of endpoint 0,
and there only as far as a SETUP packet, a packet of endpoint 0 or the longest buffer that it
accepts for endpoint 0 reaches. -/
theorem writes_only_endp0_buffer (bsp : Usb2Bsp) (driver : Usb2Driver) (events : List Usb2Event)
    {address : Nat}
    (outside : address < driver.endp0Buffer ∨ driver.endp0Buffer +
      max 8 (max driver.usb2Endp0MaxPacketSize (driver.device.tx 0).maxPacketSizeWithBurst) ≤
        address) :
    (Usb2Event.run bsp driver events).memory address = driver.memory address := by
  set limit := max 8 (max driver.usb2Endp0MaxPacketSize (driver.device.tx 0).maxPacketSizeWithBurst)
    with isLimit
  have setupFits : 8 ≤ limit := le_max_left ..
  have packetFits : driver.usb2Endp0MaxPacketSize ≤ limit :=
    (le_max_left ..).trans (le_max_right ..)
  have bufferFits : driver.config.txMaxPacketSizeWithBurst 0 ≤ limit :=
    (le_max_right ..).trans (le_max_right ..)
  exact (driver.writesInside_run bsp setupFits packetFits bufferFits events).kept address outside

open ControlIn NewSetup in
/-- The device descriptor is still there when a request and a buffer for endpoint 0 have been
copied. -/
theorem descriptor_not_overwritten :
    (Usb2Event.run bsp0 lowSpeedDriver
      [.setup (getDeviceDescriptor 18#16) noReply, .call (.endpTxSetNewBuffer 0 0x20030000 8),
        .inDone 0 noReply, .busReset noReply]).memory 0x20021000 =
      lowSpeedDriver.memory 0x20021000 :=
  writes_only_endp0_buffer bsp0 lowSpeedDriver _ (by decide)

end WchCh56x.Usb
