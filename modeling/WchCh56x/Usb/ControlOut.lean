import WchCh56x.Support.Runs
import WchCh56x.Usb.ControlInSetup
import WchCh56x.Usb.OutEndpoints

/-!
# The data stage of a control-OUT transfer

Every packet but the last moves the DMA pointer by its length and is subtracted from
the bytes that are awaited.  The driver compares neither with the buffer.
-/

namespace WchCh56x.Usb.ControlOut

open Usb2Driver NewSetup ControlIn Support.Runs

variable (bsp : Usb2Bsp)

structure OutPacket where
  length : Nat
  togok : Bool
  reply : UserReply

def OutPacket.event (packet : OutPacket) : Usb2Event :=
  .outDone 0 packet.length packet.togok packet.reply

def take (driver : Usb2Driver) (packet : OutPacket) : Option Usb2Driver :=
  some (packet.event.step bsp driver)

def bufferEnd (driver : Usb2Driver) : Nat :=
  driver.endp0Buffer + (driver.device.rx 0).maxPacketSizeWithBurst

/-- The pointer is in the buffer and leaves room for a packet. -/
def HasRoom (driver : Usb2Driver) : Prop :=
  driver.endp0Buffer ≤ driver.dma .uep0Rt ∧ driver.dma .uep0Rt + 64 ≤ bufferEnd driver

instance (driver : Usb2Driver) : Decidable (HasRoom driver) := inferInstanceAs (Decidable (_ ∧ _))

def RoomWhileAcking (driver : Usb2Driver) : Prop := AcksOut driver → HasRoom driver

instance (driver : Usb2Driver) : Decidable (RoomWhileAcking driver) :=
  inferInstanceAs (Decidable (_ → _))

/-- A host sends packets of no more than 64 bytes, which the endpoint takes. -/
def Arrives (driver : Usb2Driver) (packet : OutPacket) : Prop :=
  AcksOut driver ∧ packet.length ≤ 64

instance (driver : Usb2Driver) (packet : OutPacket) : Decidable (Arrives driver packet) :=
  inferInstanceAs (Decidable (_ ∧ _))

/-- The bytes that are awaited do not become more. -/
def NeverGrows (driver : Usb2Driver) (packet : OutPacket) : Prop :=
  (packet.event.step bsp driver).endp0RemainingBytes ≤ driver.endp0RemainingBytes

instance (driver : Usb2Driver) (packet : OutPacket) : Decidable (NeverGrows bsp driver packet) :=
  inferInstanceAs (Decidable (_ ≤ _))

/-- The OUT packets stay in the buffer. -/
def StaysInside (driver : Usb2Driver) (packets : List OutPacket) : Prop :=
  Always (take bsp) RoomWhileAcking driver packets ∧
    EveryStep (take bsp) (NeverGrows bsp) driver packets

instance (driver : Usb2Driver) (packets : List OutPacket) :
    Decidable (StaysInside bsp driver packets) := inferInstanceAs (Decidable (_ ∧ _))

/-- The bytes of the packets with the right toggle. -/
def accepted : List OutPacket → Nat
  | [] => 0
  | packet :: rest => (if packet.togok then packet.length else 0) + accepted rest

/-- No packets are together longer than the bytes that are awaited, and unless they are all of
them, another packet has room behind them. -/
def Fits (pointer ending awaited : Nat) (packets : List OutPacket) : Prop :=
  ∀ sent, sent <+: packets → accepted sent ≤ awaited ∧
    (accepted sent < awaited → pointer + accepted sent + 64 ≤ ending)

/-! ## One packet -/

/-- The stage in which the driver takes OUT packets for data. -/
structure OutStage (driver : Usb2Driver) : Prop where
  running : driver.device.state ≠ .powered
  noPassthrough : driver.ep0PassthroughEnabled = false
  isOut : ¬driver.usbSetupReq.IsIn
  acks : AcksOut driver
  awaited16 : driver.endp0RemainingBytes < 65536
  burst16 : (driver.device.rx 0).maxPacketSizeWithBurst < 65536
  addressable : bufferEnd driver ≤ 2 ^ 32

structure AfterPacket (driver next : Usb2Driver) (pointer awaited : Nat) : Prop where
  stage : OutStage next
  buffer : next.endp0Buffer = driver.endp0Buffer
  ending : bufferEnd next = bufferEnd driver
  pointer : next.dma .uep0Rt = pointer
  awaited : next.endp0RemainingBytes = awaited

variable {driver : Usb2Driver}

theorem bufferEnd_of_same {next : Usb2Driver} (same : driver.SameOutEndpoints next) :
    next.endp0Buffer = driver.endp0Buffer ∧ bufferEnd next = bufferEnd driver ∧
      (next.device.rx 0).maxPacketSizeWithBurst =
        (driver.device.rx 0).maxPacketSizeWithBurst := by
  obtain ⟨state, isNext⟩ := same 0
  unfold bufferEnd endp0Buffer
  rw [isNext]
  exact ⟨rfl, rfl, rfl⟩

theorem step_wrongToggle (stage : OutStage driver) {packet : OutPacket}
    (wrong : packet.togok = false) :
    AfterPacket driver (packet.event.step bsp driver) (driver.dma .uep0Rt)
      driver.endp0RemainingBytes := by
  have isStep := step_outDone_wrongToggle bsp stage.running 0 packet.length packet.reply
  have isEvent : packet.event = .outDone 0 packet.length false packet.reply := by
    rw [OutPacket.event, wrong]
  rw [isEvent, isStep]
  exact ⟨⟨stage.running, stage.noPassthrough, stage.isOut, stage.acks, stage.awaited16,
    stage.burst16, stage.addressable⟩, rfl, rfl, rfl, rfl⟩

theorem step_rightToggle (stage : OutStage driver) {packet : OutPacket}
    (right : packet.togok = true) :
    packet.event.step bsp driver = (driver.transferPending.usb2Ep0OutHandler bsp packet.length
      packet.reply).clearFlags := by
  have control : ¬((0 : Fin 16) ≠ 0 ∨ driver.ep0PassthroughEnabled = true) := by
    rw [stage.noPassthrough]
    decide
  have isStep := step_outDone bsp stage.running 0 packet.length packet.reply
  rw [if_neg control] at isStep
  rw [OutPacket.event, right]
  exact isStep

theorem sameOutEndpoints_usb2Ep0OutHandler (driver : Usb2Driver) (numBytesReceived : Nat)
    (reply : UserReply) :
    driver.SameOutEndpoints (driver.usb2Ep0OutHandler bsp numBytesReceived reply) := by
  unfold usb2Ep0OutHandler
  dsimp only
  split
  · split
    · exact .refl
    · exact .refl
  · split
    · exact sameOutEndpoints_invoke bsp _ _ reply
    · exact .refl

theorem acks_usb2Ep0OutHandler (isOut : ¬driver.usbSetupReq.IsIn) (acks : AcksOut driver)
    (numBytesReceived : Nat) (reply : UserReply) :
    AcksOut (driver.usb2Ep0OutHandler bsp numBytesReceived reply) := by
  unfold AcksOut
  by_cases last : (driver.countOutPacket numBytesReceived).endp0RemainingBytes = 0
  · rw [usb2Ep0OutHandler_of_last isOut last, setRxCtrl_self]
    exact acks
  · rw [usb2Ep0OutHandler_of_more isOut last, setRxCtrl_self, response_xor_tog]
    exact response_setResponse _ (.inl rfl)

theorem awaited_usb2Ep0OutHandler (isOut : ¬driver.usbSetupReq.IsIn) (numBytesReceived : Nat)
    (reply : UserReply) :
    (driver.usb2Ep0OutHandler bsp numBytesReceived reply).endp0RemainingBytes =
      u16 (driver.endp0RemainingBytes + (65536 - u16 numBytesReceived)) := by
  by_cases last : (driver.countOutPacket numBytesReceived).endp0RemainingBytes = 0
  · rw [usb2Ep0OutHandler_of_last isOut last]
    exact congrArg Fixed.endp0RemainingBytes (fixed_invoke bsp
      (((driver.countOutPacket numBytesReceived).setDma .uep0Rt driver.endp0Buffer).setTLen 0 0)
      (.endp0UserHandledControlRequest driver.usbSetupReq false) reply)
  · rw [usb2Ep0OutHandler_of_more isOut last]
    rfl

theorem step_accepted (stage : OutStage driver) {packet : OutPacket}
    (right : packet.togok = true) (short : packet.length ≤ 64) :
    AfterPacket driver (packet.event.step bsp driver)
      (if driver.endp0RemainingBytes = packet.length then
        driver.endp0Buffer
      else
        u32 (driver.dma .uep0Rt + packet.length))
      (u16 (driver.endp0RemainingBytes + (65536 - packet.length))) := by
  have isStep := step_rightToggle bsp stage right
  have isOut : ¬driver.transferPending.usbSetupReq.IsIn := stage.isOut
  have length16 : u16 packet.length = packet.length := u16_of_lt (by omega)
  have same : driver.SameOutEndpoints (packet.event.step bsp driver) := by
    rw [isStep]
    exact sameOutEndpoints_usb2Ep0OutHandler bsp driver.transferPending packet.length packet.reply
  obtain ⟨buffer, ending, burst⟩ := bufferEnd_of_same same
  have awaited : (packet.event.step bsp driver).endp0RemainingBytes =
      u16 (driver.endp0RemainingBytes + (65536 - packet.length)) := by
    have handled := awaited_usb2Ep0OutHandler bsp isOut packet.length packet.reply
    rw [length16] at handled
    rw [isStep]
    exact handled
  have config := config_step bsp driver packet.event
  have request : (packet.event.step bsp driver).usbSetupReq = driver.usbSetupReq :=
    driver.request_step bsp fun _ _ => nofun
  refine ⟨⟨running_step bsp stage.running _, ?_, ?_, ?_, ?_, ?_, ?_⟩, buffer, ending, ?_, awaited⟩
  · exact (congrArg Config.ep0PassthroughEnabled config).trans stage.noPassthrough
  · rw [request]
    exact stage.isOut
  · rw [isStep]
    exact acks_usb2Ep0OutHandler bsp isOut stage.acks packet.length packet.reply
  · rw [awaited]
    exact Nat.mod_lt _ (by decide)
  · rw [burst]
    exact stage.burst16
  · rw [ending]
    exact stage.addressable
  · have handled := @rtDma_usb2Ep0OutHandler bsp driver.transferPending packet.length packet.reply
    have last : driver.transferPending.LastOutPacket packet.length ↔
        driver.endp0RemainingBytes = packet.length := by
      have awaited16 : driver.transferPending.endp0RemainingBytes < 65536 := stage.awaited16
      have kept : driver.transferPending.endp0RemainingBytes = driver.endp0RemainingBytes := rfl
      unfold LastOutPacket
      omega
    rw [if_neg isOut, length16] at handled
    rw [isStep]
    exact handled.trans (if_congr last rfl rfl)

/-- A packet keeps the promise exactly if it is no longer than what is awaited and leaves room for
the next one. -/
theorem step_inside_iff (stage : OutStage driver) (room : HasRoom driver) {packet : OutPacket}
    (right : packet.togok = true) (short : packet.length ≤ 64) :
    HasRoom (packet.event.step bsp driver) ∧ NeverGrows bsp driver packet ↔
      packet.length ≤ driver.endp0RemainingBytes ∧
        (packet.length < driver.endp0RemainingBytes →
          driver.dma .uep0Rt + packet.length + 64 ≤ bufferEnd driver) := by
  obtain ⟨_, buffer, ending, pointer, awaited⟩ := step_accepted bsp stage right short
  obtain ⟨above, below⟩ := room
  have awaited16 := stage.awaited16
  have burst16 := stage.burst16
  have addressable := stage.addressable
  unfold HasRoom NeverGrows
  rw [buffer, ending, pointer, awaited]
  have isEnd : bufferEnd driver = driver.endp0Buffer + (driver.device.rx 0).maxPacketSizeWithBurst :=
    rfl
  unfold u16 u32
  split
  · constructor
    · omega
    · omega
  · constructor
    · omega
    · omega

/-! ## A run of packets -/

theorem accepted_cons (packet : OutPacket) (rest : List OutPacket) :
    accepted (packet :: rest) = (if packet.togok then packet.length else 0) + accepted rest := rfl

theorem fits_cons {pointer ending awaited : Nat} {packet : OutPacket} {rest : List OutPacket} :
    Fits pointer ending awaited (packet :: rest) ↔
      (0 < awaited → pointer + 64 ≤ ending) ∧ ∀ sent, sent <+: rest →
        accepted (packet :: sent) ≤ awaited ∧ (accepted (packet :: sent) < awaited →
          pointer + accepted (packet :: sent) + 64 ≤ ending) := by
  constructor
  · intro fits
    refine ⟨(fits [] List.nil_prefix).2, fun sent inRest => ?_⟩
    exact fits (packet :: sent) (List.cons_prefix_cons.mpr ⟨rfl, inRest⟩)
  · rintro ⟨first, others⟩ sent inAll
    cases sent with
    | nil => exact ⟨Nat.zero_le _, first⟩
    | cons other sent =>
        obtain ⟨rfl, inRest⟩ := List.cons_prefix_cons.mp inAll
        exact others sent inRest

theorem fits_wrongToggle {pointer ending awaited : Nat} {packet : OutPacket} {rest : List OutPacket}
    (wrong : packet.togok = false) :
    Fits pointer ending awaited (packet :: rest) ↔ Fits pointer ending awaited rest := by
  have skipped (sent : List OutPacket) : accepted (packet :: sent) = accepted sent := by
    rw [accepted_cons, wrong, if_neg Bool.false_ne_true, Nat.zero_add]
  rw [fits_cons]
  constructor
  · rintro ⟨_, others⟩ sent inRest
    have fits := others sent inRest
    rw [skipped] at fits
    exact fits
  · intro fits
    refine ⟨(fits [] List.nil_prefix).2, fun sent inRest => ?_⟩
    rw [skipped]
    exact fits sent inRest

/-- The first packet is taken off the pointer and the bytes that are awaited. -/
theorem fits_rightToggle {pointer ending awaited : Nat} {packet : OutPacket}
    {rest : List OutPacket} (right : packet.togok = true) (start : awaited = 0 ∨ pointer + 64 ≤ ending) :
    Fits pointer ending awaited (packet :: rest) ↔
      (packet.length ≤ awaited ∧
        (packet.length < awaited → pointer + packet.length + 64 ≤ ending)) ∧
        Fits (pointer + packet.length) ending (awaited - packet.length) rest := by
  have counted (sent : List OutPacket) :
      accepted (packet :: sent) = packet.length + accepted sent := by
    rw [accepted_cons, if_pos right]
  rw [fits_cons]
  constructor
  · rintro ⟨_, others⟩
    have first := others [] List.nil_prefix
    rw [counted, accepted, Nat.add_zero] at first
    refine ⟨first, fun sent inRest => ?_⟩
    have fits := others sent inRest
    rw [counted] at fits
    omega
  · rintro ⟨first, fits⟩
    refine ⟨fun more => start.resolve_left more.ne', fun sent inRest => ?_⟩
    have others := fits sent inRest
    rw [counted]
    omega

/-- The pointer is not compared any more when no bytes are awaited. -/
theorem fits_of_nothing_awaited {pointer other ending : Nat} {packets : List OutPacket} :
    Fits pointer ending 0 packets ↔ Fits other ending 0 packets := by
  constructor
  · intro fits sent inAll
    exact ⟨(fits sent inAll).1, fun more => absurd more (Nat.not_lt_zero _)⟩
  · intro fits sent inAll
    exact ⟨(fits sent inAll).1, fun more => absurd more (Nat.not_lt_zero _)⟩

theorem staysInside_cons (packet : OutPacket) (rest : List OutPacket) :
    StaysInside bsp driver (packet :: rest) ↔
      RoomWhileAcking driver ∧ NeverGrows bsp driver packet ∧
        StaysInside bsp (packet.event.step bsp driver) rest := by
  unfold StaysInside
  rw [always_cons rfl, everyStep_cons rfl]
  constructor
  · rintro ⟨⟨room, always⟩, grows, every⟩
    exact ⟨room, grows, always, every⟩
  · rintro ⟨room, grows, always, every⟩
    exact ⟨⟨room, always⟩, grows, every⟩

/-- Packets stay in the buffer exactly if they fit it and the bytes that are awaited. -/
theorem staysInside_iff (stage : OutStage driver) (packets : List OutPacket)
    (arrive : EveryStep (take bsp) Arrives driver packets) :
    StaysInside bsp driver packets ↔
      HasRoom driver ∧
        Fits (driver.dma .uep0Rt) (bufferEnd driver) driver.endp0RemainingBytes packets := by
  induction packets generalizing driver with
  | nil =>
      constructor
      · rintro ⟨room, _⟩
        have here := room stage.acks
        refine ⟨here, fun sent inNil => ?_⟩
        rw [List.prefix_nil.mp inNil]
        exact ⟨Nat.zero_le _, fun _ => here.2⟩
      · rintro ⟨room, _⟩
        exact ⟨fun _ => room, trivial⟩
  | cons packet rest ih =>
      obtain ⟨⟨acks, short⟩, others⟩ := (everyStep_cons rfl).mp arrive
      rw [staysInside_cons]
      cases toggle : packet.togok with
      | false =>
          have after := step_wrongToggle bsp stage toggle
          have inside := ih after.stage others
          have room : HasRoom (packet.event.step bsp driver) ↔ HasRoom driver := by
            unfold HasRoom
            rw [after.buffer, after.ending, after.pointer]
          rw [after.pointer, after.ending, after.awaited, room] at inside
          rw [inside, fits_wrongToggle toggle]
          constructor
          · rintro ⟨_, _, both⟩
            exact both
          · rintro ⟨here, fits⟩
            exact ⟨fun _ => here, after.awaited.le, here, fits⟩
      | true =>
          have after := step_accepted bsp stage toggle short
          have inside := ih after.stage others
          rw [after.pointer, after.ending, after.awaited] at inside
          have awaited16 := stage.awaited16
          have addressable := stage.addressable
          -- where the packet is inside, the rest fits the new pointer as it fits the sum
          have moved (ends : packet.length ≤ driver.endp0RemainingBytes ∧
              (packet.length < driver.endp0RemainingBytes →
                driver.dma .uep0Rt + packet.length + 64 ≤ bufferEnd driver)) :
              Fits (if driver.endp0RemainingBytes = packet.length then driver.endp0Buffer
                  else u32 (driver.dma .uep0Rt + packet.length)) (bufferEnd driver)
                  (u16 (driver.endp0RemainingBytes + (65536 - packet.length))) rest ↔
                Fits (driver.dma .uep0Rt + packet.length) (bufferEnd driver)
                  (driver.endp0RemainingBytes - packet.length) rest := by
            have awaited : u16 (driver.endp0RemainingBytes + (65536 - packet.length)) =
                driver.endp0RemainingBytes - packet.length := by
              unfold u16
              omega
            rw [awaited]
            by_cases last : driver.endp0RemainingBytes = packet.length
            · rw [last, Nat.sub_self]
              exact fits_of_nothing_awaited
            · rw [if_neg last, u32_of_lt (by omega)]
          constructor
          · rintro ⟨here, grows, next⟩
            obtain ⟨nextRoom, fits⟩ := inside.mp next
            have ends := (step_inside_iff bsp stage (here stage.acks) toggle short).mp
              ⟨nextRoom, grows⟩
            refine ⟨here stage.acks, (fits_rightToggle toggle (.inr (here stage.acks).2)).mpr
              ⟨ends, (moved ends).mp fits⟩⟩
          · rintro ⟨here, fits⟩
            obtain ⟨ends, restFits⟩ := (fits_rightToggle toggle (.inr here.2)).mp fits
            obtain ⟨nextRoom, grows⟩ := (step_inside_iff bsp stage here toggle short).mpr ends
            exact ⟨fun _ => here, grows, inside.mpr ⟨nextRoom, (moved ends).mpr restFits⟩⟩

/-! ## The SETUP stage -/

section

variable (driver : Usb2Driver)

/-- What `endp0_remaining_bytes` holds after an OUT request. -/
def bytesAwaited : Nat :=
  if driver.usbSetupReq.TreatedAsStandard then
    if driver.usbSetupReq.bRequest = usbGetDescriptor then
      match driver.descriptorData with
      | some data => data.2
      | none => driver.endp0RemainingBytes
    else if driver.usbSetupReq.bRequest = usbSetAddress then
      driver.usbSetupReq.wLength.toNat
    else
      driver.endp0RemainingBytes
  else if driver.usbSetupReq.wLength = 0#16 then
    driver.endp0RemainingBytes
  else
    driver.usbSetupReq.wLength.toNat

def pointerAfter : Nat :=
  if driver.usbSetupReq.ResetsEndpoints then driver.endp0Buffer else driver.dma .uep0Rt

theorem descriptorData_lt {data : Nat × Nat} (found : driver.descriptorData = some data) :
    data.2 < 65536 := by
  unfold descriptorData at found
  dsimp only at found
  have wLength := driver.usbSetupReq.wLength.isLt
  split at found
  · split at found
    · obtain rfl := Option.some.inj found
      exact (Nat.min_le_right _ _).trans_lt wLength
    · cases found
  · split at found
    · split at found
      · obtain rfl := Option.some.inj found
        exact (Nat.min_le_right _ _).trans_lt wLength
      · cases found
    · split at found
      · obtain ⟨table, _, rfl⟩ := Option.map_eq_some_iff.mp found
        have byte := (driver.memory (table driver.usbSetupReq.wValue.bb1.toNat)).isLt
        exact byte.trans (by decide)
      · cases found

theorem bytesAwaited_lt (awaited16 : driver.endp0RemainingBytes < 65536) :
    bytesAwaited driver < 65536 := by
  unfold bytesAwaited
  split
  · split
    · split
      · next found => exact descriptorData_lt driver found
      · exact awaited16
    · split
      · exact driver.usbSetupReq.wLength.isLt
      · exact awaited16
  · split
    · exact awaited16
    · exact driver.usbSetupReq.wLength.isLt

variable {driver} (reply : UserReply)

theorem usb2Ep0RequestHandler_awaited (isOut : ¬driver.usbSetupReq.IsIn) :
    (driver.usb2Ep0RequestHandler bsp reply).2.endp0RemainingBytes = bytesAwaited driver := by
  unfold bytesAwaited
  by_cases standard : driver.usbSetupReq.TreatedAsStandard
  · rw [usb2Ep0RequestHandler_of_standard standard, if_pos standard]
    by_cases isGet : driver.usbSetupReq.bRequest = usbGetDescriptor
    · rw [if_pos isGet, standardRequest_of_getDescriptor isGet]
      cases found : driver.descriptorData with
      | some data =>
          rw [getDescriptor_of_data found]
          rfl
      | none =>
          rw [getDescriptor_of_none found]
          rfl
    rw [if_neg isGet]
    by_cases isAddress : driver.usbSetupReq.bRequest = usbSetAddress
    · rw [if_pos isAddress, standardRequest_of_setAddress isAddress]
      rfl
    · rw [if_neg isAddress]
      exact (standardRequest_of_other isGet isAddress).2
  · rw [if_neg standard]
    by_cases empty : driver.usbSetupReq.wLength = 0#16
    · have handled : driver.usb2Ep0RequestHandler bsp reply =
          (0, driver.invoke bsp (.endp0UserHandledControlRequest driver.usbSetupReq false) reply) :=
        (if_neg standard).trans ((if_neg isOut).trans (if_pos empty))
      rw [if_pos empty, handled]
      exact congrArg Fixed.endp0RemainingBytes (fixed_invoke ..)
    · rw [if_neg empty, usb2Ep0RequestHandler_of_userOut standard isOut empty]
      rfl

theorem sameOutEndpoints_standardRequest (driver : Usb2Driver) :
    driver.SameOutEndpoints driver.standardRequest.2 :=
  .of_eq (standardRequest_leaves (fun driver => driver.device.rx) (fun _ _ _ _ => rfl)
    (fun _ _ _ _ _ => rfl) (fun _ _ => rfl) driver)

theorem sameOutEndpoints_usb2Ep0RequestHandler (driver : Usb2Driver) (reply : UserReply) :
    driver.SameOutEndpoints (driver.usb2Ep0RequestHandler bsp reply).2 := by
  have called (withBuffer : Bool) := driver.sameOutEndpoints_invoke bsp
    (.endp0UserHandledControlRequest driver.usbSetupReq withBuffer) reply
  unfold usb2Ep0RequestHandler
  dsimp only
  split
  · exact sameOutEndpoints_standardRequest driver
  · split
    · split
      · split
        · exact called true
        · exact called true
      · exact called true
    · split
      · exact called false
      · exact .refl

section

variable (running : driver.device.state ≠ .powered)
  (noPassthrough : driver.ep0PassthroughEnabled = false) {packet : UsbSetup}
  (isOut : ¬packet.IsIn)
include running noPassthrough isOut

theorem step_setup_out :
    Usb2Event.step bsp driver (.setup packet reply) =
      (let handled := ((driver.setupRead packet).usb2Ep0RequestHandler bsp reply).2
      if packet.wLength = 0#16 then
        ((handled.setTLen 0 0).setTxCtrl 0 (uepResAck ||| bsp.rbUepTog1)).setRxCtrl 0
          (handled.rxCtrl 0)
      else
        (handled.setTxCtrl 0 (handled.txCtrl 0)).setRxCtrl 0
          (uepResAck ||| bsp.rbUepTog1)).clearFlags := by
  have request : ((driver.setupRead packet).usb2Ep0RequestHandler bsp reply).2.usbSetupReq =
      packet := request_usb2Ep0RequestHandler bsp (driver.setupRead packet) reply
  rw [step_setup_of_noPassthrough bsp running noPassthrough]
  unfold usb2Ep0SetupStageHandler
  dsimp only
  rw [request, if_neg isOut]

theorem setup_awaited :
    (Usb2Event.step bsp driver (.setup packet reply)).endp0RemainingBytes =
      bytesAwaited (driver.setupRead packet) := by
  have handled := @usb2Ep0RequestHandler_awaited bsp (driver.setupRead packet) reply isOut
  rw [step_setup_out bsp reply running noPassthrough isOut]
  dsimp only
  split
  · exact handled
  · exact handled

theorem setup_pointer :
    (Usb2Event.step bsp driver (.setup packet reply)).dma .uep0Rt =
      pointerAfter (driver.setupRead packet) := by
  have handled := @rtDma_usb2Ep0RequestHandler bsp (driver.setupRead packet) reply
  rw [step_setup_out bsp reply running noPassthrough isOut]
  dsimp only
  split
  · exact handled
  · exact handled

theorem sameOutEndpoints_setup :
    driver.SameOutEndpoints (Usb2Event.step bsp driver (.setup packet reply)) := by
  have handled := sameOutEndpoints_usb2Ep0RequestHandler bsp (driver.setupRead packet) reply
  rw [step_setup_out bsp reply running noPassthrough isOut]
  dsimp only
  split
  · exact handled
  · exact handled

end

end

/-- The OUT packets after a SETUP packet stay in the buffer of endpoint 0 exactly if the host sends
no more than the driver awaits, and the buffer is larger by a packet than every unfinished part. -/
theorem out_packets_inside_iff (bsp : Usb2Bsp) (driver : Usb2Driver) (packet : UsbSetup)
    (reply : UserReply) (running : driver.device.state ≠ .powered)
    (noPassthrough : driver.ep0PassthroughEnabled = false) (isOut : ¬packet.IsIn)
    (awaited16 : driver.endp0RemainingBytes < 65536)
    (burst16 : (driver.device.rx 0).maxPacketSizeWithBurst < 65536)
    (addressable : bufferEnd driver ≤ 2 ^ 32)
    (acks : AcksOut (Usb2Event.step bsp driver (.setup packet reply))) (packets : List OutPacket)
    (arrive : EveryStep (take bsp) Arrives (Usb2Event.step bsp driver (.setup packet reply))
      packets) :
    StaysInside bsp (Usb2Event.step bsp driver (.setup packet reply)) packets ↔
      (driver.endp0Buffer ≤ pointerAfter (driver.setupRead packet) ∧
        pointerAfter (driver.setupRead packet) + 64 ≤ bufferEnd driver) ∧
          Fits (pointerAfter (driver.setupRead packet)) (bufferEnd driver)
            (bytesAwaited (driver.setupRead packet)) packets := by
  have awaited := setup_awaited bsp reply running noPassthrough isOut
  have pointer := setup_pointer bsp reply running noPassthrough isOut
  have config := config_step bsp driver (.setup packet reply)
  have request := (request_step_setup bsp running packet reply).1
  obtain ⟨buffer, ending, burst⟩ := bufferEnd_of_same
    (sameOutEndpoints_setup bsp reply running noPassthrough isOut)
  have stage : OutStage (Usb2Event.step bsp driver (.setup packet reply)) := by
    refine ⟨running_step bsp running _, ?_, ?_, acks, ?_, ?_, ?_⟩
    · exact (congrArg Config.ep0PassthroughEnabled config).trans noPassthrough
    · rw [request]
      exact isOut
    · rw [awaited]
      exact bytesAwaited_lt (driver.setupRead packet) awaited16
    · rw [burst]
      exact burst16
    · rw [ending]
      exact addressable
  have inside := staysInside_iff bsp stage packets arrive
  unfold HasRoom at inside
  rw [buffer, ending, pointer, awaited] at inside
  exact inside

/-! ## A vendor request on a buffer of 64 bytes -/

def resetDriver : Usb2Driver :=
  Usb2Event.run bsp0 (initial controlOnly fun _ => 0#8).usb2DeviceInit [.busReset noReply]

/-- A vendor request that sends data to the device. -/
def vendorOut (wLength : U16) : UsbSetup := ⟨0x40#8, 1#8, ⟨0#8, 0#8⟩, ⟨0#8, 0#8⟩, wLength⟩

/-- A full buffer in one packet. -/
theorem one_packet_inside :
    StaysInside bsp0 (Usb2Event.step bsp0 resetDriver (.setup (vendorOut 64#16) noReply))
      [⟨64, true, noReply⟩] := by
  refine (out_packets_inside_iff bsp0 resetDriver (vendorOut 64#16) noReply (by decide) rfl
    (by decide) (by decide) (by decide) (by decide) (by decide) [⟨64, true, noReply⟩]
    (by decide)).mpr ⟨by decide, fun sent inAll => ?_⟩
  have isSent : sent = [] ∨ sent = [⟨64, true, noReply⟩] := by
    cases sent with
    | nil => exact .inl rfl
    | cons packet rest =>
        obtain ⟨rfl, inNil⟩ := List.cons_prefix_cons.mp inAll
        rw [List.prefix_nil.mp inNil]
        exact .inr rfl
  rcases isSent with rfl | rfl
  · decide
  · decide

/-- With 128 bytes announced, the second packet is written behind the buffer. -/
theorem second_packet_outside :
    ¬∀ driver packet reply packets,
      driver.Reachable bsp0 controlOnly (fun _ => 0#8) → driver.device.state ≠ .powered →
        driver.ep0PassthroughEnabled = false → ¬packet.IsIn → ¬packet.IsStandard →
          EveryStep (take bsp0) Arrives (Usb2Event.step bsp0 driver (.setup packet reply)) packets →
            StaysInside bsp0 (Usb2Event.step bsp0 driver (.setup packet reply)) packets := by
  intro inside
  have stays := inside resetDriver (vendorOut 128#16) noReply [⟨64, true, noReply⟩] ⟨_, rfl⟩
    (by decide) rfl (by decide) (by decide) (by decide)
  exact absurd stays (by decide)

end WchCh56x.Usb.ControlOut
