import WchCh56x.Support.ByteMemory
import WchCh56x.Support.Runs
import WchCh56x.Usb.ControlBackground
import WchCh56x.Usb.ControlInSetup

/-!
# A host that enumerates the device

The host asks for descriptors and sets the address and the configuration.  It sends
one token after the other and tries a token again that gets a NAK.  Any other answer
than the one it waits for is an error, and it may give up a request for a new one.
-/

namespace WchCh56x.Usb

/-- The zero-length packet of the host that ends a control-IN transfer. -/
def Usb2Event.endp0Out : Usb2Event := .outDone 0 0 true noReply

/-- A request of the host, with what the user code does about it. -/
structure Asked where
  packet : UsbSetup
  reply : UserReply

def Usb2Driver.attached (bsp : Usb2Bsp) (device : UsbDevice) (memory : Nat → U8)
    (reply : UserReply) : Usb2Driver :=
  Usb2Event.step bsp (Usb2Driver.initial device memory).usb2DeviceInit (.busReset reply)

/-- The most bytes of a packet on endpoint 0. -/
def UsbDevice.endp0PacketSize (device : UsbDevice) (memory : Nat → U8) : Nat :=
  (Usb2Driver.bMaxPacketSize0 memory device.usbDescriptors.usb2DeviceDescr).toNat

/-- SET_ADDRESS with an address of the USB standard. -/
def UsbSetup.AssignsAddress (setup : UsbSetup) : Prop :=
  setup.IsSetAddress ∧ setup.wValue.bb1 ≠ 0#8 ∧ setup.wValue.bb1 ≤ 0x7f#8

instance (setup : UsbSetup) : Decidable setup.AssignsAddress := inferInstanceAs (Decidable (_ ∧ _))

namespace Asked

variable (device : UsbDevice) (memory : Nat → U8) (asked : Asked)

/-- Where the bytes are that a control-IN request is for. -/
def source : Option (Nat × Nat) :=
  { Usb2Driver.initial device memory with usbSetupReq := asked.packet }.requestData asked.reply

/-- The bytes that the host is to get. -/
def answer : List U8 :=
  if asked.packet.IsIn then
    match asked.source device memory with
    | some data => bytesAt memory data.1 data.2
    | none => []
  else
    []

/-- A packet for each token until one is not full, and the status stage. -/
def tokensNeeded : Nat :=
  if asked.packet.IsIn then
    (asked.answer device memory).length / device.endp0PacketSize memory + 2
  else
    1

variable {device memory asked} in
theorem answer_of_in (isIn : asked.packet.IsIn) {data : Nat × Nat}
    (found : asked.source device memory = some data) :
    asked.answer device memory = bytesAt memory data.1 data.2 := by
  rw [answer, if_pos isIn, found]

variable {device memory asked} in
theorem tokensNeeded_of_in (isIn : asked.packet.IsIn) {data : Nat × Nat}
    (found : asked.source device memory = some data) :
    asked.tokensNeeded device memory = data.2 / device.endp0PacketSize memory + 2 := by
  rw [tokensNeeded, if_pos isIn, answer_of_in isIn found, bytesAt_length]

/-- The endpoint does not write where the answer, or the length in its header, is. -/
def Apart (head total : Nat) : Prop :=
  head + max total 4 ≤ (device.rx 0).buffer ∨
    (device.rx 0).buffer + max 8 (device.endp0PacketSize memory) ≤ head

instance (head total : Nat) : Decidable (Apart device memory head total) :=
  inferInstanceAs (Decidable (_ ∨ _))

/-- There are bytes to send, no more than the host wants, and the host can tell from the last
packet that they are all.  A configuration descriptor is in a table. -/
structure Sendable (head total : Nat) : Prop where
  notEmpty : 0 < total
  notStall : total < 65535
  wanted : total ≤ asked.packet.wLength.toNat
  ends : total / device.endp0PacketSize memory * device.endp0PacketSize memory < asked.packet.wLength.toNat
  apart : Apart device memory head total
  addressable : head + total ≤ 2 ^ 32
  inTable : asked.packet.wValue.bb0 = usbDescrTypConfig →
    device.usbDescriptors.usb2DeviceConfigDescrs.isSome

instance (head total : Nat) : Decidable (asked.Sendable device memory head total) :=
  decidable_of_iff
    (0 < total ∧ total < 65535 ∧ total ≤ asked.packet.wLength.toNat ∧
      total / device.endp0PacketSize memory * device.endp0PacketSize memory < asked.packet.wLength.toNat ∧
        Apart device memory head total ∧ head + total ≤ 2 ^ 32 ∧
          (asked.packet.wValue.bb0 = usbDescrTypConfig →
            device.usbDescriptors.usb2DeviceConfigDescrs.isSome))
    ⟨fun met => ⟨met.1, met.2.1, met.2.2.1, met.2.2.2.1, met.2.2.2.2.1, met.2.2.2.2.2.1,
        met.2.2.2.2.2.2⟩,
      fun sendable => ⟨sendable.notEmpty, sendable.notStall, sendable.wanted, sendable.ends,
        sendable.apart, sendable.addressable, sendable.inTable⟩⟩

/-- The request asks for bytes that can be sent, or for something without a data stage.  It is no
class request that the driver takes for a standard one, and none of another type with the number
of SET_ADDRESS. -/
def Supported : Prop :=
  asked.reply.LeavesEndp0 ∧ (asked.packet.TreatedAsStandard → asked.packet.IsStandard) ∧
    if asked.packet.IsIn then
      match asked.source device memory with
      | some data => asked.Sendable device memory data.1 data.2
      | none => False
    else
      asked.packet.wLength = 0#16 ∧
        (asked.packet.bRequest = usbSetAddress → asked.packet.AssignsAddress)

instance : Decidable (asked.Supported device memory) := by
  unfold Supported
  cases asked.source device memory with
  | none => exact inferInstance
  | some data => exact inferInstance

end Asked

/-! ## What the host takes the device to be in -/

namespace Chart

/-- SET_CONFIGURATION in the USB standard. -/
def selects (chart : Chart) (value : U8) : Chart :=
  if value ≠ 0#8 then
    { chart with state := .configured, currentConfig := value }
  else if chart.state = .configured then
    { chart with state := .address, currentConfig := 0#8 }
  else
    chart

/-- SET_ADDRESS in the USB standard. -/
def assigns (chart : Chart) (address : U8) : Chart :=
  { chart with state := if address = 0#8 then .default else .address, address := address }

/-- The device is where the host takes it to be.  A configuration counts while it is selected. -/
structure Follows (chart host : Chart) : Prop where
  state : chart.state = host.state
  address : chart.address = host.address
  configuration : host.state = .configured → chart.currentConfig = host.currentConfig

/-- The host's view after the SETUP packet of a request. -/
def afterSetup (chart : Chart) (packet : UsbSetup) : Chart :=
  if packet.IsSetConfiguration then chart.selects packet.wValue.bb1 else chart

/-- The host's view after the status stage of a request without a data stage. -/
def afterStatus (chart : Chart) (packet : UsbSetup) : Chart :=
  if packet.IsSetAddress then chart.assigns packet.wValue.bb1 else chart

end Chart

/-! ## The host -/

inductive HostPhase where
  | idle
  /-- The next packet is to have this toggle. -/
  | dataIn (asked : Asked) (received : List U8) (toggle : Bool)
  | statusOut (asked : Asked) (received : List U8)
  | statusIn (asked : Asked)

/-- A request that is over, what it brought and the tokens that it took. -/
structure Completed where
  asked : Asked
  bytes : List U8
  tokens : Nat

structure Host where
  phase : HostPhase
  /-- The tokens since the last SETUP packet. -/
  tokens : Nat
  /-- Where its own requests and resets have taken the device; the host uses this address. -/
  chart : Chart
  completed : List Completed

namespace Host

variable (host : Host)

/-- The host sends a token. -/
def counts : Host := { host with tokens := host.tokens + 1 }

def asks (asked : Asked) : Host :=
  { host with
    phase := if asked.packet.IsIn then .dataIn asked [] true else .statusIn asked
    tokens := 0
    chart := host.chart.afterSetup asked.packet }

/-- A packet that is not full, or the last of the bytes it wants, ends the data stage. -/
def takes (packetSize : Nat) (asked : Asked) (received packet : List U8) (toggle : Bool) : Host :=
  { host with
    phase :=
      if packet.length < packetSize ∨ asked.packet.wLength.toNat ≤ (received ++ packet).length then
        .statusOut asked (received ++ packet)
      else
        .dataIn asked (received ++ packet) !toggle }

def completes (asked : Asked) (bytes : List U8) (chart : Chart) : Host :=
  { host with
    phase := .idle
    chart := chart
    completed := host.completed ++ [⟨asked, bytes, host.tokens⟩] }

end Host

/-! ## The host and the device -/

structure HostSession where
  host : Host
  driver : Usb2Driver

inductive HostAct where
  | request (asked : Asked)
  /-- The host sends the token that comes next. -/
  | token
  | background (event : Usb2Event)
  | reset (reply : UserReply)

namespace HostSession

variable (bsp : Usb2Bsp) (packetSize : Nat) (session : HostSession)

/-- The device takes a packet only under its address. -/
def Addressed : Prop := session.driver.devAd = session.host.chart.address

instance : Decidable session.Addressed := inferInstanceAs (Decidable (_ = _))

/-- The session goes on where the endpoint answers with ACK, and the same token is due again
after a NAK. -/
def answered (ctrl : U8) (next : Option HostSession) : Option HostSession :=
  if response ctrl = uepResAck then next
  else if response ctrl = uepResNak then some session
  else none

/-- The packet that is armed on endpoint 0. -/
def packet : List U8 :=
  bytesAt session.driver.memory (session.driver.dma .uep0Rt) (session.driver.tLen 0)

/-- The host takes a packet with the right toggle that is not too long. -/
def dataIn (asked : Asked) (received : List U8) (toggle : Bool) : Option HostSession :=
  if Usb.toggle bsp (session.driver.txCtrl 0) = toggle ∧ session.packet.length ≤ packetSize ∧
      (received ++ session.packet).length ≤ asked.packet.wLength.toNat then
    some
      { host := session.host.takes packetSize asked received session.packet toggle
        driver := Usb2Event.endp0In.step bsp session.driver }
  else
    none

def statusOut (asked : Asked) (received : List U8) : Option HostSession :=
  if Usb.toggle bsp (session.driver.rxCtrl 0) = true then
    some
      { host := session.host.completes asked received session.host.chart
        driver := Usb2Event.endp0Out.step bsp session.driver }
  else
    none

def statusIn (asked : Asked) : Option HostSession :=
  if Usb.toggle bsp (session.driver.txCtrl 0) = true ∧ session.driver.tLen 0 = 0 then
    some
      { host := session.host.completes asked [] (session.host.chart.afterStatus asked.packet)
        driver := Usb2Event.endp0In.step bsp session.driver }
  else
    none

def token : Option HostSession :=
  let session := { session with host := session.host.counts }
  match session.host.phase with
  | .idle => some session
  | .dataIn asked received toggle =>
      session.answered (session.driver.txCtrl 0)
        (session.dataIn bsp packetSize asked received toggle)
  | .statusOut asked received =>
      session.answered (session.driver.rxCtrl 0) (session.statusOut bsp asked received)
  | .statusIn asked =>
      session.answered (session.driver.txCtrl 0) (session.statusIn bsp asked)

def step : HostAct → Option HostSession
  | .request asked =>
      if session.Addressed then
        some
          { host := session.host.asks asked
            driver := Usb2Event.step bsp session.driver (.setup asked.packet asked.reply) }
      else
        none
  | .token => if session.Addressed then session.token bsp packetSize else none
  | .background event => some { session with driver := event.step bsp session.driver }
  | .reset reply =>
      some
        { host := { session.host with phase := .idle, chart := ⟨.default, 0#8, 0#8⟩ }
          driver := Usb2Event.step bsp session.driver (.busReset reply) }

/-- The host has reset the bus. -/
def start (device : UsbDevice) (memory : Nat → U8) (reply : UserReply) : HostSession where
  host := ⟨.idle, 0, ⟨.default, 0#8, 0#8⟩, []⟩
  driver := .attached bsp device memory reply

end HostSession

/-- What the environment keeps to: requests that the device supports, no SET_CONFIGURATION of value
0 for a configured device, and user code and traffic of other endpoints that leave endpoint 0
alone. -/
def HostAct.Admissible (device : UsbDevice) (memory : Nat → U8) (session : HostSession) :
    HostAct → Prop
  | .request asked => asked.Supported device memory ∧
      (asked.packet.IsSetConfiguration → asked.packet.wValue.bb1 = 0#8 →
        session.host.chart.state ≠ .configured)
  | .token => True
  | .background event => event.Beside
  | .reset reply => reply.LeavesEndp0

instance (device : UsbDevice) (memory : Nat → U8) (session : HostSession) :
    (act : HostAct) → Decidable (act.Admissible device memory session)
  | .request _ => inferInstanceAs (Decidable (_ ∧ _))
  | .token => inferInstanceAs (Decidable True)
  | .background event => inferInstanceAs (Decidable event.Beside)
  | .reset reply => inferInstanceAs (Decidable reply.LeavesEndp0)

/-! ## What the host relies on -/

/-- How far a request is, and that each of its tokens has got it on. -/
def HostPhase.Underway (device : UsbDevice) (memory : Nat → U8) (tokens : Nat) :
    HostPhase → Prop
  | .idle => True
  | .dataIn asked received _ =>
      received = (asked.answer device memory).take (tokens * device.endp0PacketSize memory) ∧
        tokens + 2 ≤ asked.tokensNeeded device memory
  | .statusOut asked received =>
      received = asked.answer device memory ∧ tokens + 1 = asked.tokensNeeded device memory
  | .statusIn asked => tokens + 1 = asked.tokensNeeded device memory

/-- Every request that is over has brought its answer with as many tokens as it takes, the one
under way is as far as its tokens, and the device is where the host has taken it. -/
structure HostSession.Serves (device : UsbDevice) (memory : Nat → U8) (session : HostSession) :
    Prop where
  completed : ∀ done ∈ session.host.completed, done.bytes = done.asked.answer device memory ∧
    done.tokens = done.asked.tokensNeeded device memory
  underway : session.host.phase.Underway device memory session.host.tokens
  chart : session.driver.chart.Follows session.host.chart

end WchCh56x.Usb
