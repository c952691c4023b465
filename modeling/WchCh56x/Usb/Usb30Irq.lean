import WchCh56x.Usb.Usb30Control

/-!
# The USB3 interrupt handlers and the events of a link

`USBSS_IRQHandler` serves the endpoints and `LINK_IRQHandler` the resets of the
link.
-/

namespace WchCh56x.Usb

namespace Usb30Driver

variable (bsp : Usb2Bsp) (driver : Usb30Driver)

/-! ## `usb30_ep_out_handler` -/

/-- The length that the handler adds for the packets that were received. -/
def receivedLength (maxPacketSize sent rxLen : Nat) (shortPacket : Bool) : Nat :=
  if shortPacket then
    -- an `int`, which is stored in 16 bits
    maxPacketSize * sent + rxLen + (65536 - maxPacketSize)
  else
    maxPacketSize * sent

def setRxTotalLength (i : Fin 8) (length : Nat) : Usb30Driver :=
  { driver with rxTotalLength := Function.update driver.rxTotalLength i length }

def setRxBurst (i : Fin 8) (burst : Nat) : Usb30Driver :=
  { driver with
    rxPreviouslySetMaxBurst := Function.update driver.rxPreviouslySetMaxBurst i burst }

def outClearInterrupt (i : Fin 8) : Usb30Driver :=
  driver.setUepRxCtrl i (usb30OutClearInterrupt (driver.uepRxCtrl i))

/-- `usb30_out_set` followed by `usb30_send_erdy` -/
def acceptOut (i : Fin 8) (nump : Nat) : Usb30Driver :=
  (driver.setUepRxCtrl i (usb30OutSet (driver.uepRxCtrl i) usb30Ack (BitVec.ofNat 32 nump))).setUsbFcCtrl
    (usb30SendErdyOut (BitVec.ofNat 32 i.val) (BitVec.ofNat 32 nump))

/-- The handler after the bytes have been counted, when everything was received. -/
def reportOut (i : Fin 8) (reply : UserReply) : Usb30Driver :=
  let n := usb30EndpNum i
  let driver := driver.setUepRxCtrl i (usb30OutSet (driver.uepRxCtrl i) usb30Nrdy 0#32)
  let driver := driver.invokeUser bsp
    (.rxCallback n (driver.device.rx n).buffer (driver.rxTotalLength i)) reply
  let endp := driver.device.rx n
  let driver := driver.outClearInterrupt i
  let driver := { driver with uepRxDma := Function.update driver.uepRxDma i endp.buffer }
  ((driver.setRxBurst i endp.maxBurst).setRxTotalLength i 0).acceptOut i endp.maxBurst

def usb30EpOutHandler (i : Fin 8) (reply : UserReply) : Usb30Driver :=
  let endp := driver.device.rx (usb30EndpNum i)
  let ctrl := driver.uepRxCtrl i
  let rxLen := (ctrl &&& 0xffff#32).toNat
  let nump := ((ctrl >>> 16) &&& 31#32).toNat
  let status := ctrl.getLsbD 29
  let numpSent := u8 (driver.rxPreviouslySetMaxBurst i + 256 - nump)
  let driver := driver.setRxTotalLength i
    (u16 (driver.rxTotalLength i + receivedLength endp.maxPacketSize numpSent rxLen status))
  if status = true ∨ nump = 0 ∨ status = false then
    driver.reportOut bsp i reply
  else
    let nump := if endp.maxBurst < nump then endp.maxBurst else nump
    ((driver.outClearInterrupt i).setRxBurst i nump).acceptOut i nump

/-! ## `USBSS_IRQHandler` -/

/-- `USBSS_IRQHandler`, which reads `usbStatus`. -/
def usbssIrqHandler (usbStatus : U32) (reply : UserReply) : Usb30Driver :=
  let ep : Fin 8 := Fin.ofNat 8 ((usbStatus >>> 8) &&& 7#32).toNat
  let epIn := usbStatus.getLsbD 12
  if usbStatus.getLsbD 0 = false then
    -- link management and timestamps
    driver
  else if ep ≠ 0 then
    if epIn = false then
      driver.usb30EpOutHandler bsp ep reply
    else
      { driver with toUsb2Driver := driver.usb30EpInHandler bsp (usb30EndpNum ep) reply }
  else if epIn then
    driver.usb30Ep0In
  else if (driver.uepRxCtrl 0).getLsbD 30 = false then
    if (driver.uepRxCtrl 0).getLsbD 29 then driver.usb30Ep0Status else driver.usb30Ep0Out
  else
    driver.usb30SetupStage bsp reply

/-! ## `LINK_IRQHandler` -/

/-- The flags of `LINK_INT_FLAG` that change the device, and `LINK_PRESENT`. -/
structure LinkInterrupt where
  ready : Bool
  disable : Bool
  termPresent : Bool
  txeq : Bool
  warmReset : Bool
  hotReset : Bool
  linkPresent : Bool
  deriving DecidableEq, Repr

def usb30DeviceDeinit : Usb30Driver := { driver with usbControl := 0x6#32 }

def usb30DeviceInit (enableUsb2Fallback : Bool) : Usb30Driver :=
  usb30InitEndpoints
    { driver with
      usb2FallbackEnabled := enableUsb2Fallback
      usb30 := { driver.usb30 with uepTxCtrl := fun _ => 0#32 }
      uepRxCtrl := fun _ => 0#32
      usbControl := 0x30021#32
      uepCfg := 0#32 }

def usb30BusReset : Usb30Driver :=
  driver.usb30DeviceDeinit.usb30DeviceInit driver.usb2FallbackEnabled

def setAddress (address : U32) : Usb30Driver :=
  { driver with usbControl := usb30DeviceSetAddress driver.usbControl address }

/-- The branch for `LINK_RDY_FLAG`. -/
def linkReady : Usb30Driver :=
  if driver.txLmpPort then
    { driver with
      txLmpPort := false
      device := { driver.device with state := .default, speed := .usb30Superspeed } }
  else
    driver

/-- The branch for `LINK_DISABLE_FLAG` without the USB2 fallback. -/
def linkRetry : Usb30Driver :=
  (driver.setState .detached).usb30DeviceDeinit.usb30DeviceInit false

/-- The branch for `LINK_DISABLE_FLAG` with the USB2 fallback. -/
def linkFallback : Usb30Driver :=
  let driver := (driver.setState .detached).usb30DeviceDeinit
  match driver.device.speed with
  | .usb2Highspeed | .usb2Fullspeed | .usb2Lowspeed =>
      { driver with toUsb2Driver := driver.usb2DeviceInit }
  | .none | .usb30Superspeed => driver

/-- The branch for `TERM_PRESENT_FLAG`. -/
def linkTermPresent (linkPresent : Bool) : Usb30Driver :=
  if linkPresent then driver else driver.usb30BusReset.setState .default

def linkTxeq : Usb30Driver := { driver with txLmpPort := true }

/-- The branch for `WARM_RESET_FLAG`. -/
def linkWarmReset : Usb30Driver := driver.usb30BusReset.setAddress 0#32

/-- The block of the branch for `HOT_RESET_FLAG` about one endpoint. -/
def notReady (i : Fin 8) : Usb30Driver :=
  let mask := driver.device.endpointMask
  let driver :=
    if EnabledIn mask .tx (usb30EndpNum i) then
      driver.setUepTxCtrl i
        (usb30InSet (driver.usb30.uepTxCtrl i) usb30Disable usb30Nrdy 0#32 0#32)
    else
      driver
  if EnabledIn mask .rx (usb30EndpNum i) then
    driver.setUepRxCtrl i (usb30OutSet (driver.uepRxCtrl i) usb30Nrdy 0#32)
  else
    driver

/-- The branch for `HOT_RESET_FLAG`. -/
def linkHotReset : Usb30Driver :=
  let driver := { driver with usbControl := driver.usbControl ||| (1#32 <<< 31) }
  let driver := driver.setUepTxCtrl 0 0#32
  (usb30Endpoints.foldl notReady driver).setAddress 0#32

def whenFlag (flag : Bool) (branch : Usb30Driver → Usb30Driver) : Usb30Driver :=
  if flag then branch driver else driver

/-- The branches of `LINK_IRQHandler` after the one for `LINK_DISABLE_FLAG`. -/
def linkChanges (interrupt : LinkInterrupt) : Usb30Driver :=
  (((driver.whenFlag interrupt.termPresent (linkTermPresent · interrupt.linkPresent)).whenFlag
    interrupt.txeq linkTxeq).whenFlag interrupt.warmReset linkWarmReset).whenFlag
      interrupt.hotReset linkHotReset

/-- `LINK_IRQHandler` without the settings of the physical layer. -/
def linkIrqHandler (interrupt : LinkInterrupt) : Usb30Driver :=
  let driver := driver.whenFlag interrupt.ready linkReady
  if interrupt.disable then
    -- without the fallback the handler returns after a new attempt at a USB3 link
    if driver.usb2FallbackEnabled then
      driver.linkFallback.linkChanges interrupt
    else
      driver.linkRetry
  else
    driver.linkChanges interrupt

end Usb30Driver

/-! ## Events -/

inductive Usb30Event where
  /-- A SETUP packet that the driver finds in the buffer of endpoint 0. -/
  | setup (packet : UsbSetup) (reply : UserReply)
  | ep0In
  | ep0Status
  | ep0Out
  /-- A burst on an endpoint, which leaves a word in its control register. -/
  | epIn (i : Fin 8) (notControl : i ≠ 0) (ctrl : U32) (reply : UserReply)
  | epOut (i : Fin 8) (notControl : i ≠ 0) (ctrl : U32) (reply : UserReply)
  | link (interrupt : Usb30Driver.LinkInterrupt)
  | call (apiCall : ApiCall)

/-- `USB_STATUS` for an event of an endpoint. -/
def usbStatusFor (i : Fin 8) (isIn : Bool) : U32 :=
  1#32 ||| (BitVec.ofNat 32 i.val <<< 8) ||| (if isIn then 1#32 <<< 12 else 0#32)

namespace Usb30Event

open Usb30Driver

variable (bsp : Usb2Bsp)

/-- A word in UEP0_RX_CTRL with the flags of a SETUP packet and of the status stage. -/
def ep0RxCtrl (isSetup isStatus : Bool) : U32 :=
  (if isSetup then 1#32 <<< 30 else 0#32) ||| (if isStatus then 1#32 <<< 29 else 0#32)

def step (driver : Usb30Driver) : Usb30Event → Usb30Driver
  | .setup packet reply =>
      ({ driver with memory := storeBytes driver.memory driver.endp0Buffer packet.bytes }.setUepRxCtrl
        0 (ep0RxCtrl true false)).usbssIrqHandler bsp (usbStatusFor 0 false) reply
  | .ep0In => driver.usbssIrqHandler bsp (usbStatusFor 0 true) noReply
  | .ep0Status =>
      (driver.setUepRxCtrl 0 (ep0RxCtrl false true)).usbssIrqHandler bsp (usbStatusFor 0 false)
        noReply
  | .ep0Out =>
      (driver.setUepRxCtrl 0 (ep0RxCtrl false false)).usbssIrqHandler bsp (usbStatusFor 0 false)
        noReply
  | .epIn i _ ctrl reply =>
      (driver.setUepTxCtrl i ctrl).usbssIrqHandler bsp (usbStatusFor i true) reply
  | .epOut i _ ctrl reply =>
      (driver.setUepRxCtrl i ctrl).usbssIrqHandler bsp (usbStatusFor i false) reply
  | .link interrupt => driver.linkIrqHandler interrupt
  | .call apiCall => { driver with toUsb2Driver := driver.toUsb2Driver.call bsp apiCall }

def run (driver : Usb30Driver) (events : List Usb30Event) : Usb30Driver :=
  events.foldl (step bsp) driver

end Usb30Event

end WchCh56x.Usb
