import WchCh56x.Usb.EndpointSetup
import WchCh56x.Usb.Usb30Transfers

/-!
# Control transfers of the USB3 backend

The SETUP packet lies in the buffer of endpoint 0, where the answer goes as well.
The length that is left of the answer and the pending address share one variable.
-/

namespace WchCh56x.Usb

/-! ## Register values -/

def invalidReqCode : U8 := 0xff#8

def endp0MaxPacketSize : Nat := 512

def usbDevDescrSize : Nat := 18

/-- `usb30_out_set`, on the control register of the endpoint. -/
def usb30OutSet (ctrl status nump : U32) : U32 := ctrl ||| (nump <<< 16) ||| (status <<< 26)

/-- `usb30_out_clear_interrupt`, which keeps the sequence number. -/
def usb30OutClearInterrupt (ctrl : U32) : U32 := ctrl &&& 0x03e00000#32

/-- The value `usb30_send_erdy` writes for an OUT endpoint. -/
def usb30SendErdyOut (endp nump : U32) : U32 := ((endp &&& 0xf#32) <<< 2) ||| (nump <<< 6) ||| 1#32

/-- `EPn_R_EN` -/
def epREn (i : Fin 8) : U32 := 1#32 <<< i.val

/-- `EPn_T_EN` -/
def epTEn (i : Fin 8) : U32 := 1#32 <<< (8 + i.val)

def usb30EndpNum (i : Fin 8) : Fin 16 := i.castLE (by decide)

/-! ## The state -/

/-- The backend with the variables and registers of USB3 on a device that both backends share. -/
structure Usb30Driver extends Usb2Driver where
  setupLen : Nat
  setupReqCode : U8
  pDescr : Nat
  txLmpPort : Bool
  usb2FallbackEnabled : Bool
  /-- The packets of the data stage that the interrupt handler has counted. -/
  count : U32
  usbControl : U32
  uepCfg : U32
  uep0Dma : Nat
  uepRxCtrl : Fin 8 → U32
  uepRxDma : Fin 8 → Nat
  rxTotalLength : Fin 8 → Nat
  rxPreviouslySetMaxBurst : Fin 8 → Nat

namespace Usb30Driver

def initial (usb2 : Usb2Driver) : Usb30Driver where
  toUsb2Driver := usb2
  setupLen := 0
  setupReqCode := 0#8
  pDescr := 0
  txLmpPort := false
  usb2FallbackEnabled := false
  count := 0#32
  usbControl := 0#32
  uepCfg := 0#32
  uep0Dma := 0
  uepRxCtrl _ := 0#32
  uepRxDma _ := 0
  rxTotalLength _ := 0
  rxPreviouslySetMaxBurst _ := 0

variable (driver : Usb30Driver)

def setUepTxCtrl (i : Fin 8) (value : U32) : Usb30Driver :=
  { driver with
    usb30 := { driver.usb30 with uepTxCtrl := Function.update driver.usb30.uepTxCtrl i value } }

def setUepRxCtrl (i : Fin 8) (value : U32) : Usb30Driver :=
  { driver with uepRxCtrl := Function.update driver.uepRxCtrl i value }

def setUsbFcCtrl (value : U32) : Usb30Driver :=
  { driver with usb30 := { driver.usb30 with usbFcCtrl := value } }

def setState (state : UsbDeviceState) : Usb30Driver :=
  { driver with device := { driver.device with state := state } }

@[simp] theorem setUepTxCtrl_self (i : Fin 8) (value : U32) :
    (driver.setUepTxCtrl i value).usb30.uepTxCtrl i = value :=
  @Function.update_self (Fin 8) (fun _ => U32) _ i value driver.usb30.uepTxCtrl

@[simp] theorem setUepRxCtrl_self (i : Fin 8) (value : U32) :
    (driver.setUepRxCtrl i value).uepRxCtrl i = value :=
  @Function.update_self (Fin 8) (fun _ => U32) _ i value driver.uepRxCtrl

def invokeUser (bsp : Usb2Bsp) (userCall : UserCall) (reply : UserReply) : Usb30Driver :=
  { driver with toUsb2Driver := driver.toUsb2Driver.invoke bsp userCall reply }

/-! ## The endpoints -/

/-- The block of `usb30_init_endpoints` for an IN endpoint. -/
def initIn (i : Fin 8) : Usb30Driver :=
  let n := usb30EndpNum i
  let driver := { driver with uepCfg := driver.uepCfg ||| epTEn i }
  let driver :=
    { driver with
      usb30 := { driver.usb30 with
        uepTxDma := Function.update driver.usb30.uepTxDma i (driver.device.tx n).buffer } }
  let driver := driver.setUepTxCtrl i
    (usb30InSet (driver.usb30.uepTxCtrl i) usb30Disable usb30Nrdy 0#32 0#32)
  { driver with toUsb2Driver := driver.setTx n { driver.device.tx n with state := endpStateNak } }

/-- The block of `usb30_init_endpoints` for an OUT endpoint. -/
def initOut (i : Fin 8) : Usb30Driver :=
  let n := usb30EndpNum i
  let maxBurst := (driver.device.rx n).maxBurst
  let driver := { driver with uepCfg := driver.uepCfg ||| epREn i }
  let driver :=
    { driver with uepRxDma := Function.update driver.uepRxDma i (driver.device.rx n).buffer }
  let driver := driver.setUepRxCtrl i
    (usb30OutSet (driver.uepRxCtrl i) usb30Ack (BitVec.ofNat 32 maxBurst))
  let driver :=
    { driver with
      rxPreviouslySetMaxBurst := Function.update driver.rxPreviouslySetMaxBurst i maxBurst }
  { driver with toUsb2Driver := driver.setRx n { driver.device.rx n with state := endpStateAck } }

def initEndpoint (i : Fin 8) : Usb30Driver :=
  let mask := driver.device.endpointMask
  let driver := if EnabledIn mask .tx (usb30EndpNum i) then driver.initIn i else driver
  if EnabledIn mask .rx (usb30EndpNum i) then driver.initOut i else driver

/-- The endpoints with registers of their own, in the order of the source. -/
def usb30Endpoints : List (Fin 8) := [1, 2, 3, 4, 5, 6, 7]

def usb30InitEndpoints : Usb30Driver :=
  usb30Endpoints.foldl initEndpoint
    { driver with uepCfg := epREn 0 ||| epTEn 0, uep0Dma := driver.endp0Buffer }

/-- `usb30_in_clear_interrupt_all` and `usb30_out_clear_interrupt_all` -/
def clearInterruptAll (i : Fin 8) : Usb30Driver := (driver.setUepTxCtrl i 0#32).setUepRxCtrl i 0#32

def usb30ReinitEndpoints : Usb30Driver :=
  (usb30Endpoints.foldl clearInterruptAll driver).usb30InitEndpoints

/-! ## The SETUP stage -/

def usbSetupBuf : UsbSetup := readUsbSetup driver.memory driver.endp0Buffer

/-- Copies the next packet of the answer to the buffer of endpoint 0. -/
def loadPacket : Nat × Usb30Driver :=
  let len := if endp0MaxPacketSize ≤ driver.setupLen then endp0MaxPacketSize else driver.setupLen
  (len, { driver with
    memory := memcpyBytes driver.memory driver.endp0Buffer driver.pDescr len
    setupLen := driver.setupLen - len
    pDescr := u32 (driver.pDescr + len) })

/-- Points the answer at a descriptor, of which the host wants no more than `wLength` bytes. -/
def pointAt (descr size : Nat) : Usb30Driver :=
  { driver with setupLen := min driver.setupLen size, pDescr := descr }

/-- The branch of `usb30_standard_req_handler` for `USB_GET_DESCRIPTOR`. -/
def usb30GetDescriptor (setup : UsbSetup) : Nat × Usb30Driver :=
  let descriptors := driver.device.usbDescriptors
  if setup.wValue.bb0 = usbDescrTypDevice then
    let descr := descriptors.usb3DeviceDescr
    if descr = 0 then driver.loadPacket else (driver.pointAt descr usbDevDescrSize).loadPacket
  else if setup.wValue.bb0 = usbDescrTypConfig then
    match descriptors.usb3DeviceConfigDescrs with
    | none => driver.loadPacket
    | some table =>
        (driver.pointAt (table 0) (readU16 driver.memory (table 0 + 2)).toNat).loadPacket
  else if setup.wValue.bb0 = usbDescrTypBos then
    let descr := descriptors.usbBosDescr
    if descr = 0 then
      driver.loadPacket
    else
      (driver.pointAt descr (readU16 driver.memory (descr + 2)).toNat).loadPacket
  else if setup.wValue.bb0 = usbDescrTypString then
    match descriptors.usbStringDescrs with
    | none => driver.loadPacket
    | some table =>
        let descr := table setup.wValue.bb1.toNat
        (driver.pointAt descr (driver.memory descr).toNat).loadPacket
  else
    (usbDescrUnsupported, { driver with setupReqCode := invalidReqCode })

/-- The branch of `usb30_standard_req_handler` for `USB_SET_CONFIGURATION`. -/
def usb30SetConfiguration (setup : UsbSetup) : Usb30Driver :=
  let driver := driver.usb30ReinitEndpoints
  let driver :=
    { driver with device := { driver.device with currentConfig := setup.wValue.bb1 } }
  if setup.wValue.bb1 ≠ 0#8 then driver.setState .configured else driver

def writeEndp0 (bytes : List U8) : Usb30Driver :=
  { driver with memory := storeBytes driver.memory driver.endp0Buffer bytes }

def usb30StandardReqHandler : Nat × Usb30Driver :=
  let setup := driver.usbSetupBuf
  let driver := { driver with setupReqCode := setup.bRequest, setupLen := setup.wLength.toNat }
  if setup.bRequest = usbGetDescriptor then
    driver.usb30GetDescriptor setup
  else if setup.bRequest = usbSetAddress then
    -- the address waits for the status stage
    (0, { driver with setupLen := setup.wValue.bb1.toNat })
  else if setup.bRequest = usbGetConfiguration then
    (0, { driver.writeEndp0 [driver.device.currentConfig] with setupLen := 1 })
  else if setup.bRequest = usbSetConfiguration then
    (0, driver.usb30SetConfiguration setup)
  else if setup.bRequest = usbClearFeature ∨ setup.bRequest = usbSetFeature ∨
      setup.bRequest = usbGetInterface ∨ setup.bRequest = usbSetInterface then
    (0, driver)
  else if setup.bRequest = usbGetStatus then
    (2, { driver.writeEndp0 [0x01#8, 0x00#8] with setupLen := 0 })
  else if setup.bRequest = 0x30#8 then
    (0, driver)
  else if setup.bRequest = 0x31#8 then
    (0, { driver with setupLen := setup.wValue.bb1.toNat })
  else
    (usbDescrUnsupported, { driver with setupReqCode := invalidReqCode })

/-- The branch of `USBSS_IRQHandler` for a request that is not a standard one. -/
def usb30UserRequest (bsp : Usb2Bsp) (reply : UserReply) : Nat × Usb30Driver :=
  let setup := driver.usbSetupBuf
  let driver := { driver with setupReqCode := setup.bRequest, setupLen := setup.wLength.toNat }
  let driver := driver.invokeUser bsp (.endp0UserHandledControlRequest setup true) reply
  let reqLen := u16 reply.length
  let driver := { driver with setupLen := reqLen }
  if reqLen ≠ usbDescrUnsupported ∧ setup.IsIn then
    if reply.buffer = 0 then
      (usbDescrUnsupported, driver)
    else
      { driver with pDescr := reply.buffer }.loadPacket
  else if reqLen ≠ usbDescrUnsupported then
    (0, driver)
  else
    (reqLen, driver)

def usb30Request (bsp : Usb2Bsp) (reply : UserReply) : Nat × Usb30Driver :=
  if driver.usbSetupBuf.IsStandard then
    driver.usb30StandardReqHandler
  else
    driver.usb30UserRequest bsp reply

/-- Arms the first packet, the status stage or a stall, by the length that the request returned. -/
def answerSetup (isIn : Bool) (reqLen : Nat) : Usb30Driver :=
  if isIn then
    if reqLen = usbDescrUnsupported then
      (driver.setUsbFcCtrl 0x41#32).setUepTxCtrl 0 0x8010000#32
    else if 0x200 < reqLen then
      driver
    else
      (driver.setUsbFcCtrl 0x41#32).setUepTxCtrl 0 (BitVec.ofNat 32 reqLen ||| 0x14010000#32)
  else
    if reqLen = usbDescrUnsupported then
      (driver.setUsbFcCtrl 0x41#32).setUepRxCtrl 0 0x8010000#32
    else if 0x200 < reqLen then
      driver
    else
      (driver.setUsbFcCtrl 0x41#32).setUepRxCtrl 0 0x4010000#32

/-- The SETUP stage of `USBSS_IRQHandler`. -/
def usb30SetupStage (bsp : Usb2Bsp) (reply : UserReply) : Usb30Driver :=
  let isIn := decide driver.usbSetupBuf.IsIn
  let (reqLen, driver) := (driver.setUepRxCtrl 0 0#32).usb30Request bsp reply
  driver.answerSetup isIn reqLen

/-! ## The other stages -/

def ep0StatusStageHandler : Usb30Driver :=
  if driver.setupReqCode = usbSetAddress then
    { driver with
      device := { driver.device with speed := .usb30Superspeed, state := .address }
      usbControl := usb30DeviceSetAddress driver.usbControl (BitVec.ofNat 32 driver.setupLen) }
  else
    driver

def ep0InHandler : Nat × Usb30Driver :=
  if driver.pDescr ≠ 0 then driver.loadPacket else (0, driver)

/-- The branch of `USBSS_IRQHandler` for an IN packet of endpoint 0. -/
def usb30Ep0In : Usb30Driver :=
  let (reqLen, driver) := driver.ep0InHandler
  let driver := { driver with count := driver.count + 1#32 }
  if reqLen = 0 then
    ((({ driver with count := 0#32 }).setUsbFcCtrl 0x41#32).setUepRxCtrl 0 0x4010000#32).setUepTxCtrl
      0 0x14010000#32
  else
    let driver := (driver.setUsbFcCtrl 0x41#32).setUepRxCtrl 0 0#32
    driver.setUepTxCtrl 0 ((driver.usb30.uepTxCtrl 0 &&& 0xec1ffc00#32) |||
      (driver.count * 0x200000#32) ||| BitVec.ofNat 32 reqLen ||| 0x14010000#32)

/-- The branch of `USBSS_IRQHandler` for the status stage. -/
def usb30Ep0Status : Usb30Driver :=
  (driver.ep0StatusStageHandler.setUepRxCtrl 0 0#32).setUepTxCtrl 0 0#32

/-- The branch of `USBSS_IRQHandler` for an OUT packet of endpoint 0, which is not looked at. -/
def usb30Ep0Out : Usb30Driver := (driver.setUsbFcCtrl 0x41#32).setUepRxCtrl 0 0x4010000#32

/-! ## What the handlers of the SETUP stage do -/

/-- A known descriptor is loaded from the answer or, if there is none, from where the last one has
ended. -/
theorem usb30GetDescriptor_cases (setup : UsbSetup) :
    driver.usb30GetDescriptor setup =
        (usbDescrUnsupported, { driver with setupReqCode := invalidReqCode }) ∨
      driver.usb30GetDescriptor setup = driver.loadPacket ∨
      ∃ descr size, driver.usb30GetDescriptor setup = (driver.pointAt descr size).loadPacket := by
  unfold usb30GetDescriptor
  dsimp only
  split
  · split
    · exact .inr (.inl rfl)
    · exact .inr (.inr ⟨_, _, rfl⟩)
  · split
    · split
      · exact .inr (.inl rfl)
      · exact .inr (.inr ⟨_, _, rfl⟩)
    · split
      · split
        · exact .inr (.inl rfl)
        · exact .inr (.inr ⟨_, _, rfl⟩)
      · split
        · split
          · exact .inr (.inl rfl)
          · exact .inr (.inr ⟨_, _, rfl⟩)
        · exact .inl rfl

/-- The answer writes registers of endpoint 0 only. -/
theorem answerSetup_changes (isIn : Bool) (reqLen : Nat) :
    ∃ usb30 uepRxCtrl, driver.answerSetup isIn reqLen =
      { driver with
        toUsb2Driver := { driver.toUsb2Driver with usb30 := usb30 }
        uepRxCtrl := uepRxCtrl } := by
  unfold answerSetup
  split
  · split
    · exact ⟨_, driver.uepRxCtrl, rfl⟩
    · split
      · exact ⟨driver.usb30, driver.uepRxCtrl, rfl⟩
      · exact ⟨_, driver.uepRxCtrl, rfl⟩
  · split
    · exact ⟨_, _, rfl⟩
    · split
      · exact ⟨driver.usb30, driver.uepRxCtrl, rfl⟩
      · exact ⟨_, _, rfl⟩

end Usb30Driver

end WchCh56x.Usb
