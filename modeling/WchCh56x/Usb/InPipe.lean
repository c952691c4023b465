import WchCh56x.Support.AlternatingBit
import WchCh56x.Support.ByteMemory
import WchCh56x.Support.Runs
import WchCh56x.Usb.InPackets
import WchCh56x.Usb.MemoryWrites
import WchCh56x.Usb.TransferCtrl

/-!
# A bulk IN pipe

The application hands buffers to an IN endpoint, and a host takes their packets
over a bus that loses packets and acknowledgements.  The host takes a packet only
with the toggle that it expects.  Everything else on the device goes on meanwhile.
-/

namespace WchCh56x.Usb

open Support Support.Packets Support.AlternatingBit Support.Runs

namespace InPipe

/-- A buffer that the endpoint sends, and how many of its packets have been acknowledged. -/
structure Sending where
  ptr : Nat
  size : Nat
  index : Nat
  /-- What the buffer held when it was handed over. -/
  bytes : List U8

/-- The bytes that the driver writes lie elsewhere. -/
def ApartFromEndp0 (config : Config) (ptr size : Nat) : Prop :=
  ptr + size ≤ config.rxBuffer 0 ∨
    config.rxBuffer 0 +
      max 8 (max config.usb2Endp0MaxPacketSize (config.txMaxPacketSizeWithBurst 0)) ≤ ptr

instance (config : Config) (ptr size : Nat) : Decidable (ApartFromEndp0 config ptr size) :=
  inferInstanceAs (Decidable (_ ∨ _))

/-- A buffer that the endpoint accepts, in one packet or in whole packets. -/
structure Sendable (config : Config) (endpNum : Fin 16) (ptr size : Nat) : Prop where
  notNull : ptr ≠ 0
  fits : size ≤ config.txMaxPacketSizeWithBurst endpNum
  even : size ≤ config.txMaxPacketSize endpNum ∨ config.txMaxPacketSize endpNum ∣ size
  addressable : ptr + size ≤ 2 ^ 32
  apart : ApartFromEndp0 config ptr size

instance (config : Config) (endpNum : Fin 16) (ptr size : Nat) :
    Decidable (Sendable config endpNum ptr size) :=
  decidable_of_iff
    (ptr ≠ 0 ∧ size ≤ config.txMaxPacketSizeWithBurst endpNum ∧
      (size ≤ config.txMaxPacketSize endpNum ∨ config.txMaxPacketSize endpNum ∣ size) ∧
        ptr + size ≤ 2 ^ 32 ∧ ApartFromEndp0 config ptr size)
    ⟨fun met => ⟨met.1, met.2.1, met.2.2.1, met.2.2.2.1, met.2.2.2.2⟩, fun sendable =>
      ⟨sendable.notNull, sendable.fits, sendable.even, sendable.addressable, sendable.apart⟩⟩

/-! ## Calls of the application -/

/-- What a call of the application is to the endpoint. -/
def note (endpNum : Fin 16) (memory : Nat → U8) (sending : Option Sending) :
    ApiCall → Option Sending
  | .endpTxSetNewBuffer other ptr size =>
      if other = endpNum then some ⟨ptr, size, 0, bytesAt memory ptr size⟩ else sending
  | .endpRxSetState _ _ | .endpTxSetState _ _ => sending

/-- A buffer is handed over when nothing is on its way, and the endpoint is set to answer only
while something is. -/
def CallFits (config : Config) (endpNum : Fin 16) (sending : Option Sending) : ApiCall → Prop
  | .endpTxSetNewBuffer other ptr size =>
      if other = endpNum then sending.isNone ∧ Sendable config endpNum ptr size
      else usb2EndpointReg other ≠ usb2EndpointReg endpNum
  | .endpTxSetState other state =>
      if other = endpNum then EndpState state ∧ (state = endpStateAck → sending.isSome)
      else usb2EndpointReg other ≠ usb2EndpointReg endpNum
  | .endpRxSetState _ _ => True

instance (config : Config) (endpNum : Fin 16) (sending : Option Sending) :
    (apiCall : ApiCall) → Decidable (CallFits config endpNum sending apiCall)
  | .endpTxSetNewBuffer _ _ _ => inferInstanceAs (Decidable (ite _ _ _))
  | .endpTxSetState _ _ => inferInstanceAs (Decidable (ite _ _ _))
  | .endpRxSetState _ _ => inferInstanceAs (Decidable True)

def CallsFit (config : Config) (endpNum : Fin 16) (memory : Nat → U8) :
    Option Sending → List ApiCall → Prop
  | _, [] => True
  | sending, apiCall :: rest => CallFits config endpNum sending apiCall ∧
      CallsFit config endpNum memory (note endpNum memory sending apiCall) rest

instance CallsFit.decidable (config : Config) (endpNum : Fin 16) (memory : Nat → U8) :
    (calls : List ApiCall) → (sending : Option Sending) →
      Decidable (CallsFit config endpNum memory sending calls)
  | [], _ => inferInstanceAs (Decidable True)
  | apiCall :: rest, sending =>
      have := CallsFit.decidable config endpNum memory rest (note endpNum memory sending apiCall)
      inferInstanceAs (Decidable (_ ∧ _))

end InPipe

/-! ## The pipe -/

structure InPipe where
  driver : Usb2Driver
  sending : Option InPipe.Sending
  /-- The buffers whose end `tx_complete` has reported. -/
  reported : List (List U8)
  /-- The packets whose acknowledgement the device has got. -/
  confirmed : List (List U8)
  /-- The packets that the host has taken. -/
  taken : List (List U8)

inductive InPipeAct where
  | call (apiCall : ApiCall)
  /-- The application writes to memory. -/
  | store (address : Nat) (bytes : List U8)
  /-- The host asks the endpoint for a packet; `tx_complete` does what the reply says. -/
  | transaction (outcome : Outcome) (reply : UserReply)
  /-- Something else on the device. -/
  | traffic (event : Usb2Event)

namespace InPipe

variable (bsp : Usb2Bsp) (endpNum : Fin 16) (pipe : InPipe)

def packet : List U8 :=
  bytesAt pipe.driver.memory (pipe.driver.dma (.tx (usb2EndpointReg endpNum)))
    (pipe.driver.tLen (usb2EndpointReg endpNum))

def acknowledge (reply : UserReply) : InPipe :=
  let next :=
    { pipe with
      driver := Usb2Event.step bsp pipe.driver (.inDone endpNum reply)
      confirmed := pipe.confirmed ++ [pipe.packet endpNum] }
  match pipe.sending with
  | none => next
  | some sending =>
      if sending.index + 1 <
          packetCount (pipe.driver.device.tx endpNum).maxPacketSize sending.size then
        { next with sending := some { sending with index := sending.index + 1 } }
      else
        { next with
          sending := reply.calls.foldl (note endpNum pipe.driver.memory) none
          reported := pipe.reported ++ [sending.bytes] }

def transaction (outcome : Outcome) (reply : UserReply) : InPipe :=
  if response (pipe.driver.txCtrl (usb2EndpointReg endpNum)) = uepResAck then
    let asked :=
      { pipe with
        taken := attempt outcome pipe.taken
          (toggle bsp (pipe.driver.txCtrl (usb2EndpointReg endpNum))) (pipe.packet endpNum) }
    if outcome = .acknowledged then asked.acknowledge bsp endpNum reply else asked
  else
    pipe

def step : InPipeAct → Option InPipe
  | .call apiCall =>
      some
        { pipe with
          driver := pipe.driver.call bsp apiCall
          sending := note endpNum pipe.driver.memory pipe.sending apiCall }
  | .store address bytes =>
      some
        { pipe with
          driver := { pipe.driver with memory := storeBytes pipe.driver.memory address bytes } }
  | .transaction outcome reply => some (pipe.transaction bsp endpNum outcome reply)
  | .traffic event => some { pipe with driver := event.step bsp pipe.driver }

def StoreFits (address length : Nat) : Option Sending → Prop
  | none => True
  | some sending => sending.ptr + sending.size ≤ address ∨ address + length ≤ sending.ptr

instance (address length : Nat) :
    (sending : Option Sending) → Decidable (StoreFits address length sending)
  | none => inferInstanceAs (Decidable True)
  | some _ => inferInstanceAs (Decidable (_ ∨ _))

/-- What the application and the rest of the device keep to. -/
def Admissible : InPipeAct → Prop
  | .call apiCall => CallFits pipe.driver.config endpNum pipe.sending apiCall
  | .store address bytes => StoreFits address bytes.length pipe.sending
  | .transaction _ reply =>
      CallsFit pipe.driver.config endpNum pipe.driver.memory none reply.calls
  | .traffic event => event.TxApart (usb2EndpointReg endpNum)

instance : (act : InPipeAct) → Decidable (pipe.Admissible endpNum act)
  | .call _ => inferInstanceAs (Decidable (CallFits _ _ _ _))
  | .store _ _ => inferInstanceAs (Decidable (StoreFits _ _ _))
  | .transaction _ _ => inferInstanceAs (Decidable (CallsFit _ _ _ _ _))
  | .traffic event => inferInstanceAs (Decidable (event.TxApart _))

def unfinished : List U8 :=
  match pipe.sending with
  | none => []
  | some sending => sending.bytes

/-- The host has the buffers that have been reported, whole and in order, and then a part of the
one that is being sent.  Each end is reported once. -/
structure Delivers (completions : Nat) : Prop where
  reported : pipe.reported.flatten <+: pipe.taken.flatten
  inOrder : pipe.taken.flatten <+: pipe.reported.flatten ++ pipe.unfinished
  called : pipe.driver.called (.txComplete endpNum) = completions + pipe.reported.length

def start (driver : Usb2Driver) : InPipe where
  driver := driver
  sending := none
  reported := []
  confirmed := []
  taken := []

end InPipe

end WchCh56x.Usb
