import WchCh56x.Usb.ControlTransfers

/-!
# The USB2 interrupt handler and the events on the bus

The handler takes one of its branches.  An event of the bus enters it with no
other flag pending.
-/

namespace WchCh56x.Usb

/-- What the handler reads of `R8_USB_INT_ST` and `R16_USB_RX_LEN`. -/
structure Usb2Interrupt where
  devEndp : Fin 16
  token : Fin 4
  nak : Bool
  togok : Bool
  rxLen : Nat
  deriving DecidableEq, Repr

def pidOut : Fin 4 := 0
def pidIn : Fin 4 := 2

namespace Usb2Driver

variable (bsp : Usb2Bsp) (driver : Usb2Driver)

def passthroughSetup (reply : UserReply) : Usb2Driver :=
  let driver := driver.invoke bsp (.endp0PassthroughSetupCallback driver.endp0Buffer) reply
  let driver := driver.setRx 0 { driver.device.rx 0 with state := reply.state }
  (driver.setTxCtrl 0 (uepResNak ||| bsp.rbUepTog1)).setRxCtrl 0
    (outPacketCtrl bsp (driver.rxCtrl 0) reply.state)

/-- The branch of `USBHS_IRQHandler` for a SETUP packet, up to the interrupt flags. -/
def setupReceived (reply : UserReply) : Usb2Driver :=
  let driver :=
    { driver with
      usbSetupReq := readUsbSetup driver.memory driver.endp0Buffer
      usbSetupReqDataSize := 0 }
  if driver.ep0PassthroughEnabled then
    driver.passthroughSetup bsp reply
  else
    driver.usb2Ep0SetupStageHandler bsp reply

/-- The branch of `USBHS_IRQHandler` for an IN or OUT transfer, up to the interrupt flags. -/
def transferDone (interrupt : Usb2Interrupt) (reply : UserReply) : Usb2Driver :=
  if interrupt.token = pidIn then
    if interrupt.devEndp ≠ 0 ∨ driver.ep0PassthroughEnabled then
      driver.usb2InTransferHandler bsp interrupt.devEndp reply
    else
      driver.usb2Ep0InHandler bsp
  else if interrupt.token = pidOut ∧ interrupt.togok then
    if interrupt.devEndp ≠ 0 ∨ driver.ep0PassthroughEnabled then
      driver.usb2OutTransferHandler bsp interrupt.devEndp interrupt.rxLen reply
    else
      driver.usb2Ep0OutHandler bsp interrupt.rxLen reply
  else
    driver

/-- The branch of `USBHS_IRQHandler` for a bus reset, up to the interrupt flags. -/
def busReset (reply : UserReply) : Usb2Driver :=
  let driver := driver.invoke bsp .usb2DeviceHandleBusReset reply
  let driver := (driver.usb2SetDeviceAddress 0#8).2
  let driver := { driver with device := { driver.device with addr := 0#8 } }
  let driver := driver.usb2SetupEndpoints
  { driver with device := { driver.device with state := .default } }

def usbhsIrqHandler (interrupt : Usb2Interrupt) (reply : UserReply) : Usb2Driver :=
  let event := driver.intFg
  if event.setupact = false ∧ interrupt.nak then
    { driver.invoke bsp (.nakCallback interrupt.devEndp) reply with intFg := .none }
  else if event.setupact ∧ driver.device.state ≠ .powered then
    { driver.setupReceived bsp reply with intFg := .none }
  else if event.transfer ∧ driver.device.state ≠ .powered then
    { driver.transferDone bsp interrupt reply with intFg := { event with transfer := false } }
  else if event.suspend then
    { driver with intFg := { event with suspend := false } }
  else if event.fifoov then
    driver
  else if event.busrst then
    { driver.busReset bsp reply with intFg := { event with busrst := false } }
  else
    driver

end Usb2Driver

/-! ## Events -/

/-- What happens on the bus and in the main program. -/
inductive Usb2Event where
  /-- A SETUP packet that the driver finds in the buffer of endpoint 0. -/
  | setup (packet : UsbSetup) (reply : UserReply)
  | inDone (endpNum : Fin 16) (reply : UserReply)
  | outDone (endpNum : Fin 16) (numBytesReceived : Nat) (togok : Bool) (reply : UserReply)
  | nak (endpNum : Fin 16) (reply : UserReply)
  | busReset (reply : UserReply)
  | call (apiCall : ApiCall)

def Usb2Event.step (bsp : Usb2Bsp) (driver : Usb2Driver) : Usb2Event → Usb2Driver
  | .setup packet reply =>
      { driver with
        memory := storeBytes driver.memory driver.endp0Buffer packet.bytes
        intFg := { Usb2IntFlags.none with setupact := true } }.usbhsIrqHandler bsp
        ⟨0, pidOut, false, true, 8⟩ reply
  | .inDone endpNum reply =>
      { driver with intFg := { Usb2IntFlags.none with transfer := true } }.usbhsIrqHandler bsp
        ⟨endpNum, pidIn, false, true, 0⟩ reply
  | .outDone endpNum numBytesReceived togok reply =>
      { driver with intFg := { Usb2IntFlags.none with transfer := true } }.usbhsIrqHandler bsp
        ⟨endpNum, pidOut, false, togok, numBytesReceived⟩ reply
  | .nak endpNum reply =>
      { driver with intFg := { Usb2IntFlags.none with transfer := true } }.usbhsIrqHandler bsp
        ⟨endpNum, pidIn, true, true, 0⟩ reply
  | .busReset reply =>
      { driver with intFg := { Usb2IntFlags.none with busrst := true } }.usbhsIrqHandler bsp
        ⟨0, pidOut, false, true, 0⟩ reply
  | .call apiCall => driver.call bsp apiCall

def Usb2Event.OnEndp0 : Usb2Event → Prop
  | .inDone endpNum _ => endpNum = 0
  | .outDone endpNum _ _ _ => endpNum = 0
  | _ => False

instance : (event : Usb2Event) → Decidable event.OnEndp0
  | .inDone _ _ => inferInstanceAs (Decidable (_ = _))
  | .outDone _ _ _ _ => inferInstanceAs (Decidable (_ = _))
  | .setup _ _ | .nak _ _ | .busReset _ | .call _ => inferInstanceAs (Decidable False)

def Usb2Event.run (bsp : Usb2Bsp) (driver : Usb2Driver) (events : List Usb2Event) : Usb2Driver :=
  events.foldl (Usb2Event.step bsp) driver

/-- A driver that `usb2_device_init` and a run of events lead to. -/
def Usb2Driver.Reachable (bsp : Usb2Bsp) (device : UsbDevice) (memory : Nat → U8)
    (driver : Usb2Driver) : Prop :=
  ∃ events, driver = Usb2Event.run bsp (Usb2Driver.initial device memory).usb2DeviceInit events

end WchCh56x.Usb
