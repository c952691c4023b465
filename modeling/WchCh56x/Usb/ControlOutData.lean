import WchCh56x.Usb.ControlOut

/-!
# The bytes of a control-OUT transfer

Each packet is received where the one before it ends.  The packet that completes the
announced length hands the buffer over to the user, before the status stage.
-/

namespace WchCh56x.Usb

namespace Config

variable (config : Config)

/-- The length of the packet that a call arms endpoint 0 with. -/
def packetArmed : ApiCall → Option Nat
  | .endpTxSetNewBuffer endpNum ptr size =>
      if endpNum = 0 ∧ config.speed ≠ .usb30Superspeed ∧ config.Accepts 0 ptr size then
        some (min size (config.txMaxPacketSize 0))
      else
        none
  | .endpRxSetState _ _ => none
  | .endpTxSetState _ _ => none

/-- The length of the packet of endpoint 0 after the calls. -/
def lengthAfter (length : Nat) (calls : List ApiCall) : Nat :=
  calls.foldl (fun length apiCall => (config.packetArmed apiCall).getD length) length

end Config

namespace Usb2Driver

variable (bsp : Usb2Bsp) (driver : Usb2Driver)

theorem tLen_bufferSet (endpNum : Fin 16) (ptr size : Nat) :
    (driver.bufferSet endpNum ptr size).tLen = driver.tLen := by
  unfold bufferSet copyToEndp0
  split
  · rfl
  · rfl

theorem tLen_endpTxReady_of_superspeed (speed : driver.device.speed = .usb30Superspeed)
    (endpNum : Fin 16) (size : Nat) : (driver.endpTxReady endpNum size).tLen = driver.tLen := by
  rw [driver.endpTxReady_of_superspeed speed]
  split
  · rfl
  · rfl

theorem tLen_endpTxSetNewBuffer (ptr size : Nat) :
    (driver.endpTxSetNewBuffer 0 ptr size).2.tLen 0 =
      (driver.config.packetArmed (.endpTxSetNewBuffer 0 ptr size)).getD (driver.tLen 0) := by
  by_cases accepts : driver.config.Accepts 0 ptr size
  · have filled := driver.bufferSet_speed 0 ptr size
    rw [driver.endpTxSetNewBuffer_of_accepts accepts]
    by_cases speed : driver.device.speed = .usb30Superspeed
    · rw [Config.packetArmed, if_neg fun armed => armed.2.1 speed]
      exact congrFun ((tLen_endpTxReady_of_superspeed _ (filled.trans speed) 0 size).trans
        (driver.tLen_bufferSet 0 ptr size)) 0
    · rw [Config.packetArmed, if_pos ⟨rfl, speed, accepts⟩, endpTxReady_of_usb2 _ (filled ▸ speed)]
      rfl
  · rw [Config.packetArmed, if_neg fun armed => accepts armed.2.2]
    rcases driver.endpTxSetNewBuffer_of_refuses accepts with refused | refused
    · rw [refused]
      rfl
    · rw [refused]
      rfl

theorem tLen_call (apiCall : ApiCall) :
    (driver.call bsp apiCall).tLen 0 =
      (driver.config.packetArmed apiCall).getD (driver.tLen 0) := by
  cases apiCall with
  | endpTxSetNewBuffer endpNum ptr size =>
      by_cases isControl : endpNum = 0
      · subst isControl
        exact driver.tLen_endpTxSetNewBuffer ptr size
      · rw [Config.packetArmed, if_neg fun armed => isControl armed.1]
        exact congrArg Bank.tLen
          (bank_endpTxSetNewBuffer (usb2EndpointReg_ne_zero isControl) ptr size)
  | endpRxSetState endpNum state =>
      unfold call endpRxSetState
      dsimp only
      split
      · rfl
      · rfl
  | endpTxSetState endpNum state =>
      unfold call endpTxSetState
      dsimp only
      split
      · rfl
      · rfl

theorem tLen_runCalls (calls : List ApiCall) :
    (driver.runCalls bsp calls).tLen 0 = driver.config.lengthAfter (driver.tLen 0) calls := by
  induction calls generalizing driver with
  | nil => rfl
  | cons apiCall rest ih =>
      have others := ih (driver.call bsp apiCall)
      rw [config_call, tLen_call] at others
      exact others

theorem tLen_invoke (userCall : UserCall) (reply : UserReply) :
    (driver.invoke bsp userCall reply).tLen 0 =
      driver.config.lengthAfter (driver.tLen 0) reply.calls :=
  tLen_runCalls bsp { driver with userCalls := driver.userCalls ++ [userCall] } reply.calls

end Usb2Driver

/-! ## The stores at the end of a branch -/

section

variable (driver : Usb2Driver) (txCtrl rxCtrl : U8)

/-- Both control registers of endpoint 0 are stored and the interrupt is acknowledged. -/
def Usb2Driver.storeCtrl : Usb2Driver := ((driver.setTxCtrl 0 txCtrl).setRxCtrl 0 rxCtrl).clearFlags

namespace Usb2Driver

@[simp] theorem rxCtrl_storeCtrl : (driver.storeCtrl txCtrl rxCtrl).rxCtrl 0 = rxCtrl :=
  (driver.setTxCtrl 0 txCtrl).setRxCtrl_self 0 rxCtrl

@[simp] theorem txCtrl_storeCtrl : (driver.storeCtrl txCtrl rxCtrl).txCtrl 0 = txCtrl :=
  driver.setTxCtrl_self 0 txCtrl

@[simp] theorem userCalls_storeCtrl :
    (driver.storeCtrl txCtrl rxCtrl).userCalls = driver.userCalls := rfl

@[simp] theorem memory_storeCtrl : (driver.storeCtrl txCtrl rxCtrl).memory = driver.memory := rfl

@[simp] theorem dma_storeCtrl : (driver.storeCtrl txCtrl rxCtrl).dma = driver.dma := rfl

@[simp] theorem tLen_storeCtrl : (driver.storeCtrl txCtrl rxCtrl).tLen = driver.tLen := rfl

end Usb2Driver

end

namespace ControlOutData

open Usb2Driver ControlOut

variable (bsp : Usb2Bsp)

/-- An OUT packet that endpoint 0 has accepted, with what the user's handler does if it is called. -/
structure DataPacket where
  data : List U8
  notEmpty : data ≠ []
  reply : UserReply

def bytes (packets : List DataPacket) : List U8 := packets.flatMap DataPacket.data

/-- The controller has stored the packet where the DMA pointer is. -/
def DataPacket.arrived (packet : DataPacket) (driver : Usb2Driver) : Usb2Driver :=
  { driver with memory := storeBytes driver.memory (driver.dma .uep0Rt) packet.data }

def receive (driver : Usb2Driver) (packet : DataPacket) : Usb2Driver :=
  Usb2Event.step bsp (packet.arrived driver) (.outDone 0 packet.data.length true packet.reply)

/-- The driver as `endp0_user_handled_control_request` finds it after the last packet. -/
def DataPacket.beforeUser (packet : DataPacket) (driver : Usb2Driver) : Usb2Driver :=
  (((packet.arrived driver).transferPending.countOutPacket packet.data.length).setDma .uep0Rt
    driver.endp0Buffer).setTLen 0 0

def DataPacket.moved (packet : DataPacket) (driver : Usb2Driver) : Usb2Driver :=
  ((packet.arrived driver).transferPending.countOutPacket packet.data.length).setDma .uep0Rt
    (u32 (driver.dma .uep0Rt + u16 packet.data.length))

theorem DataPacket.userCalls_moved (packet : DataPacket) (driver : Usb2Driver) :
    (packet.moved driver).userCalls = driver.userCalls := by
  unfold DataPacket.moved DataPacket.arrived transferPending countOutPacket setDma
  rfl

theorem DataPacket.memory_moved (packet : DataPacket) (driver : Usb2Driver) :
    (packet.moved driver).memory = (packet.arrived driver).memory := by
  unfold DataPacket.moved transferPending countOutPacket setDma
  rfl

theorem DataPacket.dma_moved (packet : DataPacket) (driver : Usb2Driver) :
    (packet.moved driver).dma .uep0Rt = u32 (driver.dma .uep0Rt + u16 packet.data.length) :=
  setDma_self ..

theorem DataPacket.memory_beforeUser (packet : DataPacket) (driver : Usb2Driver) :
    (packet.beforeUser driver).memory = (packet.arrived driver).memory := by
  unfold DataPacket.beforeUser transferPending countOutPacket setDma setTLen
  rfl

theorem DataPacket.dma_beforeUser (packet : DataPacket) (driver : Usb2Driver) :
    (packet.beforeUser driver).dma .uep0Rt = driver.endp0Buffer :=
  @Function.update_self DmaReg (fun _ => Nat) _ .uep0Rt driver.endp0Buffer driver.dma

theorem DataPacket.tLen_beforeUser (packet : DataPacket) (driver : Usb2Driver) :
    (packet.beforeUser driver).tLen 0 = 0 :=
  @Function.update_self (Fin 8) (fun _ => Nat) _ 0 0 driver.tLen

theorem DataPacket.userCalls_beforeUser (packet : DataPacket) (driver : Usb2Driver) :
    (packet.beforeUser driver).userCalls = driver.userCalls := by
  unfold DataPacket.beforeUser DataPacket.arrived transferPending countOutPacket setDma setTLen
  rfl

theorem DataPacket.config_beforeUser (packet : DataPacket) (driver : Usb2Driver) :
    (packet.beforeUser driver).config = driver.config := by
  unfold DataPacket.beforeUser DataPacket.arrived transferPending countOutPacket setDma setTLen
  rfl

/-- The user's handler leaves endpoint 0 with an empty packet. -/
def LeavesStatusEmpty (driver : Usb2Driver) (packets : List DataPacket) : Prop :=
  ∀ packet ∈ packets.getLast?, driver.config.lengthAfter 0 packet.reply.calls = 0

/-- An OUT request with data, which comes while the DMA pointer is at the buffer. -/
structure OutRequest (driver : Usb2Driver) where
  request : UsbSetup
  reply : UserReply
  running : driver.device.state ≠ .powered
  noPassthrough : driver.ep0PassthroughEnabled = false
  isOut : ¬request.IsIn
  hasData : request.wLength ≠ 0#16
  atBuffer : driver.dma .uep0Rt = driver.endp0Buffer
  awaited16 : driver.endp0RemainingBytes < 65536
  /-- The data is an object in the address space. -/
  addressable : driver.endp0Buffer + request.wLength.toNat ≤ 2 ^ 32

/-- The endpoint takes the next packet behind the ones it has, with the toggle of its turn, and the
user has not been called. -/
structure Expects (driver : Usb2Driver) (before : List DataPacket) (now : Usb2Driver) : Prop where
  acks : AcksOut now
  pointer : now.dma .uep0Rt = driver.endp0Buffer + (bytes before).length
  data1First : toggle bsp (now.rxCtrl 0) = decide (before.length % 2 = 0)
  notCalled : now.userCalls = driver.userCalls

namespace OutRequest

variable {driver : Usb2Driver} (out : OutRequest driver)

def start : Usb2Driver := Usb2Event.step bsp driver (.setup out.request out.reply)

def after (packets : List DataPacket) : Usb2Driver := packets.foldl (receive bsp) (out.start bsp)

/-- The last packet has been handled: the user's handler was called with the data in the buffer,
and an empty DATA1 packet is armed. -/
structure HandsOver (before : List DataPacket) (packet : DataPacket) : Prop where
  called : ∃ txCtrl rxCtrl, out.after bsp (before ++ [packet]) =
    ((packet.beforeUser (out.after bsp before)).invoke bsp
      (.endp0UserHandledControlRequest out.request false) packet.reply).storeCtrl txCtrl rxCtrl
  whole : ((List.range out.request.wLength.toNat).map fun offset =>
    (packet.beforeUser (out.after bsp before)).memory (driver.endp0Buffer + offset)) =
      bytes (before ++ [packet])
  atBuffer : (packet.beforeUser (out.after bsp before)).dma .uep0Rt = driver.endp0Buffer ∧
    (out.after bsp (before ++ [packet])).dma .uep0Rt = driver.endp0Buffer
  armed : response ((out.after bsp (before ++ [packet])).txCtrl 0) = uepResAck
  data1 : toggle bsp ((out.after bsp (before ++ [packet])).txCtrl 0) = true
  empty : (out.after bsp (before ++ [packet])).tLen 0 = 0

/-- The data is delivered once, whole and contiguous. -/
structure DeliversOnce (packets : List DataPacket) : Prop where
  expects : ∀ before packet rest, packets = before ++ packet :: rest →
    Expects bsp driver before (out.after bsp before)
  handsOver : ∀ before packet, packets = before ++ [packet] → out.HandsOver bsp before packet

/-- The driver awaits the announced length: it takes the request for one that the user handles, or
what it does for a standard request leaves this length. -/
def AwaitsItsLength : Prop :=
  out.request.TreatedAsStandard →
    match if out.request.bRequest = usbGetDescriptor then
      (driver.setupRead out.request).descriptorData else none with
    | some data => data.2 = out.request.wLength.toNat
    | none => out.request.bRequest = usbSetAddress ∨
        driver.endp0RemainingBytes = out.request.wLength.toNat

/-! ## One packet -/

/-- The driver serves the request. -/
structure Serves (now : Usb2Driver) : Prop where
  running : now.device.state ≠ .powered
  config : now.config = driver.config
  request : now.usbSetupReq = out.request

section

variable {out} {now : Usb2Driver} (serves : out.Serves now) (packet : DataPacket)

include serves

theorem Serves.isOut : ¬now.usbSetupReq.IsIn := serves.request ▸ out.isOut

theorem Serves.noPassthrough : now.ep0PassthroughEnabled = false :=
  (congrArg Config.ep0PassthroughEnabled serves.config).trans out.noPassthrough

theorem Serves.buffer : now.endp0Buffer = driver.endp0Buffer :=
  congrFun (congrArg Config.rxBuffer serves.config) 0

theorem Serves.receive : out.Serves (receive bsp now packet) := by
  have config := config_step bsp (packet.arrived now)
    (.outDone 0 packet.data.length true packet.reply)
  have request : (ControlOutData.receive bsp now packet).usbSetupReq = now.usbSetupReq :=
    (packet.arrived now).request_step bsp fun _ _ => nofun
  exact ⟨@running_step bsp (packet.arrived now) serves.running _, config.trans serves.config,
    request.trans serves.request⟩

theorem receive_eq : receive bsp now packet =
    ((packet.arrived now).transferPending.usb2Ep0OutHandler bsp packet.data.length
      packet.reply).clearFlags := by
  have control : ¬((0 : Fin 16) ≠ 0 ∨ (packet.arrived now).ep0PassthroughEnabled = true) := by
    rw [show (packet.arrived now).ep0PassthroughEnabled = false from serves.noPassthrough]
    decide
  have isStep := @step_outDone bsp (packet.arrived now) serves.running 0 packet.data.length
    packet.reply
  rw [if_neg control] at isStep
  exact isStep

/-- The packet that completes the length calls the user's handler. -/
theorem receive_last
    (last : u16 (now.endp0RemainingBytes + (65536 - u16 packet.data.length)) = 0) :
    receive bsp now packet =
      ((packet.beforeUser now).invoke bsp (.endp0UserHandledControlRequest out.request false)
        packet.reply).storeCtrl (uepResAck ||| bsp.rbUepTog1) (now.rxCtrl 0) := by
  have handled := @usb2Ep0OutHandler_of_last bsp (packet.arrived now).transferPending packet.reply
    packet.data.length serves.isOut last
  rw [receive_eq bsp serves packet, handled]
  exact congrArg (fun request : UsbSetup => ((packet.beforeUser now).invoke bsp
    (.endp0UserHandledControlRequest request false) packet.reply).storeCtrl
      (uepResAck ||| bsp.rbUepTog1) (now.rxCtrl 0)) serves.request

/-- Every other packet moves the pointer and flips the toggle. -/
theorem receive_more
    (more : u16 (now.endp0RemainingBytes + (65536 - u16 packet.data.length)) ≠ 0) :
    receive bsp now packet =
      (packet.moved now).storeCtrl (now.txCtrl 0)
        (setResponse (now.rxCtrl 0) uepResAck ^^^ bsp.rbUepTog1) := by
  rw [receive_eq bsp serves packet]
  exact congrArg clearFlags (@usb2Ep0OutHandler_of_more bsp (packet.arrived now).transferPending
    packet.reply packet.data.length serves.isOut more)

theorem awaited_receive : (receive bsp now packet).endp0RemainingBytes =
    u16 (now.endp0RemainingBytes + (65536 - u16 packet.data.length)) := by
  rw [receive_eq bsp serves packet]
  exact @awaited_usb2Ep0OutHandler bsp (packet.arrived now).transferPending serves.isOut
    packet.data.length packet.reply

end

/-! ## The SETUP stage -/

theorem awaitsItsLength_iff : out.AwaitsItsLength ↔
    bytesAwaited (driver.setupRead out.request) = out.request.wLength.toNat := by
  have request : (driver.setupRead out.request).usbSetupReq = out.request := rfl
  unfold AwaitsItsLength bytesAwaited
  rw [request]
  by_cases standard : out.request.TreatedAsStandard
  · rw [if_pos standard, imp_iff_right standard]
    by_cases isGet : out.request.bRequest = usbGetDescriptor
    · have notAddress : out.request.bRequest ≠ usbSetAddress := by
        rw [isGet]
        decide
      rw [if_pos isGet, if_pos isGet]
      cases (driver.setupRead out.request).descriptorData with
      | some data => exact Iff.rfl
      | none => exact or_iff_right notAddress
    · rw [if_neg isGet, if_neg isGet]
      by_cases isAddress : out.request.bRequest = usbSetAddress
      · rw [if_pos isAddress]
        exact iff_of_true (.inl isAddress) rfl
      · rw [if_neg isAddress]
        exact or_iff_right isAddress
  · rw [if_neg standard, if_neg out.hasData]
    exact iff_of_true (fun treated => absurd treated standard) rfl

theorem serves_start : out.Serves (out.start bsp) :=
  ⟨running_step bsp out.running _, config_step bsp driver _,
    (request_step_setup bsp out.running out.request out.reply).1⟩

theorem awaited_start :
    (out.start bsp).endp0RemainingBytes = bytesAwaited (driver.setupRead out.request) :=
  setup_awaited bsp out.reply out.running out.noPassthrough out.isOut

theorem pointer_start : (out.start bsp).dma .uep0Rt = driver.endp0Buffer := by
  refine (setup_pointer bsp out.reply out.running out.noPassthrough out.isOut).trans ?_
  unfold pointerAfter
  split
  · rfl
  · exact out.atBuffer

theorem start_eq : out.start bsp =
    (let handled := ((driver.setupRead out.request).usb2Ep0RequestHandler bsp out.reply).2
    (handled.setTxCtrl 0 (handled.txCtrl 0)).setRxCtrl 0
      (uepResAck ||| bsp.rbUepTog1)).clearFlags := by
  refine (step_setup_out bsp out.reply out.running out.noPassthrough out.isOut).trans ?_
  dsimp only
  rw [if_neg out.hasData]

theorem rxCtrl_start : (out.start bsp).rxCtrl 0 = uepResAck ||| bsp.rbUepTog1 := by
  rw [start_eq]
  exact @Function.update_self (Fin 8) (fun _ => U8) _ 0 (uepResAck ||| bsp.rbUepTog1)
    ((driver.setupRead out.request).usb2Ep0RequestHandler bsp out.reply).2.rxCtrl

/-- The user is not called before the data has come. -/
theorem userCalls_start : (out.start bsp).userCalls = driver.userCalls := by
  rw [start_eq]
  change ((driver.setupRead out.request).usb2Ep0RequestHandler bsp out.reply).2.userCalls = _
  by_cases standard : (driver.setupRead out.request).usbSetupReq.TreatedAsStandard
  · rw [usb2Ep0RequestHandler_of_standard standard]
    exact userCalls_standardRequest (driver.setupRead out.request)
  · rw [usb2Ep0RequestHandler_of_userOut standard out.isOut out.hasData]
    rfl

/-! ## A run of packets -/

theorem after_append (before : List DataPacket) (packet : DataPacket) :
    out.after bsp (before ++ [packet]) = receive bsp (out.after bsp before) packet :=
  List.foldl_append ..

theorem bytes_append (before : List DataPacket) (packet : DataPacket) :
    bytes (before ++ [packet]) = bytes before ++ packet.data := by
  unfold bytes
  rw [List.flatMap_append, List.flatMap_singleton]

theorem serves_after (packets : List DataPacket) : out.Serves (out.after bsp packets) := by
  induction packets using List.reverseRecOn with
  | nil => exact out.serves_start bsp
  | append_singleton before packet ih =>
      rw [after_append]
      exact ih.receive bsp packet

/-- The driver counts modulo 2 ^ 16. -/
theorem awaited_after (packets : List DataPacket) :
    u16 ((out.after bsp packets).endp0RemainingBytes + (bytes packets).length) =
      u16 (bytesAwaited (driver.setupRead out.request)) := by
  induction packets using List.reverseRecOn with
  | nil => exact congrArg u16 (out.awaited_start bsp)
  | append_singleton before packet ih =>
      rw [after_append, awaited_receive bsp (out.serves_after bsp before) packet, ← ih, bytes_append,
        List.length_append]
      unfold u16
      omega

theorem bytesAwaited_setup_lt : bytesAwaited (driver.setupRead out.request) < 65536 :=
  bytesAwaited_lt _ out.awaited16

/-- The packet that completes the data is taken for the last one if the driver awaits this length
and not otherwise. -/
theorem completes_iff {before : List DataPacket} {packet : DataPacket}
    (total : (bytes (before ++ [packet])).length = out.request.wLength.toNat) :
    u16 ((out.after bsp before).endp0RemainingBytes + (65536 - u16 packet.data.length)) = 0 ↔
      out.AwaitsItsLength := by
  have counted := out.awaited_after bsp (before ++ [packet])
  have awaited16 := out.bytesAwaited_setup_lt
  have wLength := out.request.wLength.isLt
  rw [after_append, awaited_receive bsp (out.serves_after bsp before) packet, total] at counted
  rw [awaitsItsLength_iff]
  unfold u16 at counted ⊢
  omega

/-- What holds before every packet, where the driver awaits the announced length. -/
structure Receiving (before : List DataPacket) (now : Usb2Driver) : Prop
    extends Expects bsp driver before now where
  awaited : now.endp0RemainingBytes + (bytes before).length = out.request.wLength.toNat
  memory : now.memory = storeBytes (out.start bsp).memory driver.endp0Buffer (bytes before)

theorem receiving_start (awaits : out.AwaitsItsLength) : out.Receiving bsp [] (out.start bsp) := by
  have ctrl := out.rxCtrl_start bsp
  refine ⟨⟨?_, out.pointer_start bsp, ?_, out.userCalls_start bsp⟩, ?_, ?_⟩
  · rw [AcksOut, ctrl]
    exact response_ackTog1 bsp
  · rw [ctrl]
    exact toggle_ackTog1 bsp
  · exact (out.awaited_start bsp).trans (out.awaitsItsLength_iff.mp awaits)
  · exact (storeBytes_nil _ _).symm

variable {out} {before : List DataPacket} {now : Usb2Driver} {packet : DataPacket}

/-- The packet lies behind the ones before it. -/
theorem Receiving.memory_arrived (receiving : out.Receiving bsp before now) :
    (packet.arrived now).memory =
      storeBytes (out.start bsp).memory driver.endp0Buffer (bytes (before ++ [packet])) := by
  unfold DataPacket.arrived
  rw [receiving.memory, receiving.pointer, storeBytes_append, bytes_append]

theorem Receiving.receive (receiving : out.Receiving bsp before now) (serves : out.Serves now)
    (more : (bytes (before ++ [packet])).length < out.request.wLength.toNat) :
    out.Receiving bsp (before ++ [packet]) (ControlOutData.receive bsp now packet) := by
  have wLength := out.request.wLength.isLt
  have addressable := out.addressable
  have awaited := receiving.awaited
  have longer := congrArg List.length (bytes_append before packet)
  rw [List.length_append] at longer
  have counted : u16 (now.endp0RemainingBytes + (65536 - u16 packet.data.length)) =
      now.endp0RemainingBytes - packet.data.length := by
    unfold u16
    omega
  have after := receive_more bsp serves packet (by omega)
  rw [after]
  refine ⟨⟨?_, ?_, ?_, ?_⟩, ?_, ?_⟩
  · rw [AcksOut, rxCtrl_storeCtrl, response_xor_tog]
    exact response_setResponse _ (.inl rfl)
  · rw [dma_storeCtrl, DataPacket.dma_moved, receiving.pointer, u16_of_lt (by omega),
      u32_of_lt (by omega), longer, Nat.add_assoc]
  · have kept : toggle bsp (setResponse (now.rxCtrl 0) uepResAck) = toggle bsp (now.rxCtrl 0) :=
      toggle_setResponse bsp (now.rxCtrl 0) (.inl rfl)
    rw [rxCtrl_storeCtrl, toggle_xor_tog, kept, receiving.data1First, List.length_append,
      List.length_singleton, ← decide_not]
    exact decide_eq_decide.mpr (by omega)
  · rw [userCalls_storeCtrl, DataPacket.userCalls_moved]
    exact receiving.notCalled
  · rw [← after, awaited_receive bsp serves packet, counted, longer]
    omega
  · rw [memory_storeCtrl, DataPacket.memory_moved]
    exact receiving.memory_arrived bsp

variable (out) in
/-- While data is missing, the packets go on behind one another. -/
theorem receiving_after (awaits : out.AwaitsItsLength) (before : List DataPacket)
    (missing : (bytes before).length < out.request.wLength.toNat) :
    out.Receiving bsp before (out.after bsp before) := by
  induction before using List.reverseRecOn with
  | nil => exact out.receiving_start bsp awaits
  | append_singleton before packet ih =>
      have longer := congrArg List.length (bytes_append before packet)
      rw [List.length_append] at longer
      rw [after_append]
      exact (ih (by omega)).receive bsp (out.serves_after bsp before) missing

/-- What the user's handler arms is the packet of the status stage. -/
theorem tLen_after_last (awaits : out.AwaitsItsLength)
    (total : (bytes (before ++ [packet])).length = out.request.wLength.toNat) :
    (out.after bsp (before ++ [packet])).tLen 0 =
      driver.config.lengthAfter 0 packet.reply.calls := by
  have serves := out.serves_after bsp before
  have called := tLen_invoke bsp (packet.beforeUser (out.after bsp before))
    (.endp0UserHandledControlRequest out.request false) packet.reply
  rw [DataPacket.tLen_beforeUser, DataPacket.config_beforeUser, serves.config] at called
  rw [after_append, receive_last bsp serves packet ((out.completes_iff bsp total).mpr awaits),
    tLen_storeCtrl]
  exact called

/-- The last packet. -/
theorem handsOver_of_awaits (awaits : out.AwaitsItsLength)
    (total : (bytes (before ++ [packet])).length = out.request.wLength.toNat)
    (leavesEmpty : driver.config.lengthAfter 0 packet.reply.calls = 0) :
    out.HandsOver bsp before packet := by
  have longer := congrArg List.length (bytes_append before packet)
  rw [List.length_append] at longer
  have notEmpty := List.length_pos_of_ne_nil packet.notEmpty
  have serves := out.serves_after bsp before
  have receiving := out.receiving_after bsp awaits before (by omega)
  have after := receive_last bsp serves packet ((out.completes_iff bsp total).mpr awaits)
  rw [← after_append] at after
  have found := fixed_invoke bsp (packet.beforeUser (out.after bsp before))
    (.endp0UserHandledControlRequest out.request false) packet.reply
  have pointer := (packet.dma_beforeUser (out.after bsp before)).trans serves.buffer
  have txCtrl : (out.after bsp (before ++ [packet])).txCtrl 0 = uepResAck ||| bsp.rbUepTog1 := by
    rw [after, txCtrl_storeCtrl]
  refine ⟨⟨_, _, after⟩, ?_, ⟨pointer, ?_⟩, ?_, ?_, ?_⟩
  · rw [← total, DataPacket.memory_beforeUser, receiving.memory_arrived bsp]
    exact read_storeBytes ..
  · rw [after, dma_storeCtrl]
    exact (congrArg Fixed.rtDma found).trans pointer
  · rw [txCtrl]
    exact response_ackTog1 bsp
  · rw [txCtrl]
    exact toggle_ackTog1 bsp
  · exact (tLen_after_last bsp awaits total).trans leavesEmpty

/-- Where another length is awaited, the packet that completes the data calls nobody. -/
theorem awaits_of_handsOver
    (total : (bytes (before ++ [packet])).length = out.request.wLength.toNat)
    (handsOver : out.HandsOver bsp before packet) : out.AwaitsItsLength := by
  by_contra otherwise
  obtain ⟨txCtrl, rxCtrl, called⟩ := handsOver.called
  have more := receive_more bsp (out.serves_after bsp before) packet
    (mt (out.completes_iff bsp total).mp otherwise)
  have kept : (out.after bsp (before ++ [packet])).userCalls =
      (out.after bsp before).userCalls := by
    rw [after_append, more, userCalls_storeCtrl, DataPacket.userCalls_moved]
  have grown : (out.after bsp (before ++ [packet])).userCalls =
      (out.after bsp before).userCalls ++ [.endp0UserHandledControlRequest out.request false] := by
    rw [called, userCalls_storeCtrl, userCalls_invoke, DataPacket.userCalls_beforeUser]
  exact absurd (List.self_eq_append_right.mp (kept.symm.trans grown)) (List.cons_ne_nil _ _)

variable (out) {packets : List DataPacket}

/-- The data of an OUT request is delivered once, whole and contiguous exactly if the driver awaits
the announced length and the user's handler leaves the packet of the status stage empty. -/
theorem delivers_once_iff (total : (bytes packets).length = out.request.wLength.toNat) :
    out.DeliversOnce bsp packets ↔ out.AwaitsItsLength ∧ LeavesStatusEmpty driver packets := by
  cases packets using List.reverseRecOn with
  | nil =>
      refine absurd (BitVec.eq_of_toNat_eq ?_) out.hasData
      exact total.symm
  | append_singleton before packet =>
      have leavesEmpty : LeavesStatusEmpty driver (before ++ [packet]) ↔
          driver.config.lengthAfter 0 packet.reply.calls = 0 := by
        unfold LeavesStatusEmpty
        rw [List.getLast?_concat]
        exact ⟨fun all => all packet rfl, fun empty other isLast => Option.some.inj isLast ▸ empty⟩
      rw [leavesEmpty]
      constructor
      · intro delivers
        have handsOver := delivers.handsOver before packet rfl
        have awaits := awaits_of_handsOver bsp total handsOver
        exact ⟨awaits, (tLen_after_last bsp awaits total).symm.trans handsOver.empty⟩
      · rintro ⟨awaits, empty⟩
        constructor
        · intro first next rest split
          have sum := congrArg (fun packets => (bytes packets).length) split
          have notEmpty := List.length_pos_of_ne_nil next.notEmpty
          have parts : (bytes (first ++ next :: rest)).length =
              (bytes first).length + (next.data.length + (bytes rest).length) := by
            simp [bytes]
          refine (out.receiving_after bsp awaits first ?_).toExpects
          omega
        · intro first last split
          obtain ⟨rfl, isLast⟩ := List.append_inj' split rfl
          obtain rfl := List.singleton_inj.mp isLast
          exact handsOver_of_awaits bsp awaits total empty

end OutRequest

/-! ## Requests to a device that has been reset -/

section

open ControlIn NewSetup

def vendorRequest (wLength : U16) (hasData : wLength ≠ 0#16) (short : wLength.toNat ≤ 64) :
    OutRequest resetDriver where
  request := vendorOut wLength
  reply := noReply
  running := by decide
  noPassthrough := rfl
  isOut := show ¬0x40#8 &&& usbReqTypIn ≠ 0#8 by decide
  hasData := hasData
  atBuffer := by decide
  awaited16 := by decide
  addressable := by
    have buffer : resetDriver.endp0Buffer ≤ 2 ^ 31 := by decide
    change resetDriver.endp0Buffer + wLength.toNat ≤ 2 ^ 32
    omega

/-- Three bytes in two packets. -/
theorem two_packets_delivered :
    (vendorRequest 3#16 (by decide) (by decide)).DeliversOnce bsp0
      [⟨[1#8, 2#8], by decide, noReply⟩, ⟨[3#8], by decide, noReply⟩] := by
  refine (OutRequest.delivers_once_iff bsp0 (vendorRequest 3#16 (by decide) (by decide))
    rfl).mpr ⟨fun treated => absurd treated (by decide), fun packet isLast => ?_⟩
  obtain rfl := Option.some.inj isLast
  rfl

def classRequest : OutRequest resetDriver where
  request := ⟨0x20#8, 1#8, ⟨0#8, 0#8⟩, ⟨0#8, 0#8⟩, 1#16⟩
  reply := noReply
  running := by decide
  noPassthrough := rfl
  isOut := by decide
  hasData := by decide
  atBuffer := by decide
  awaited16 := by decide
  addressable := by decide

/-- The byte of the class request is counted down from what the last request has left. -/
theorem class_data_not_delivered :
    ¬∀ driver (out : OutRequest driver) packets,
      driver.Reachable bsp0 controlOnly (fun _ => 0#8) → ¬out.request.IsStandard →
        (bytes packets).length = out.request.wLength.toNat → out.DeliversOnce bsp0 packets := by
  intro delivered
  have delivers := delivered resetDriver classRequest [⟨[7#8], by decide, noReply⟩] ⟨_, rfl⟩
    (by decide) rfl
  have awaits := OutRequest.awaits_of_handsOver bsp0 rfl (delivers.handsOver [] _ rfl)
  have left : classRequest.request.bRequest = usbSetAddress ∨
      resetDriver.endp0RemainingBytes = 1 := awaits (by decide)
  exact absurd left (by decide)

end

end ControlOutData

end WchCh56x.Usb
