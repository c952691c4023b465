import WchCh56x.Usb.ControlInSetup

/-!
# When a SETUP packet discards the transfer before it

A request that does not set the transfer up lets the next completion on endpoint 0
show what is left of an earlier one: an IN packet by its response, an OUT packet by
the call of the user's handler.  SET_ADDRESS with a data stage shows `desc_head`.
-/

namespace WchCh56x.Usb

namespace Usb2Driver

variable (bsp : Usb2Bsp) {driver : Usb2Driver} {packet : UsbSetup} {reply : UserReply}

/-- A request that does not set the transfer up leaves the bytes of the one before it. -/
theorem remaining_usb2Ep0RequestHandler (unset : ¬driver.SetsTransfer driver.usbSetupReq reply)
    (notAddress : ¬(driver.usbSetupReq.TreatedAsStandard ∧
      driver.usbSetupReq.bRequest = usbSetAddress)) :
    (driver.usb2Ep0RequestHandler bsp reply).2.endp0RemainingBytes =
      driver.endp0RemainingBytes := by
  have called (isIn : Bool) := congrArg Fixed.endp0RemainingBytes (fixed_invoke bsp driver
    (.endp0UserHandledControlRequest driver.usbSetupReq isIn) reply)
  unfold SetsTransfer at unset
  by_cases standard : driver.usbSetupReq.TreatedAsStandard
  · rw [if_pos standard] at unset
    rw [usb2Ep0RequestHandler_of_standard standard]
    by_cases isGet : driver.usbSetupReq.bRequest = usbGetDescriptor
    · have absent : ¬driver.HasDescriptor driver.usbSetupReq := fun has =>
        unset (.inl ⟨isGet, has⟩)
      have missing : driver.descriptorData = none := by
        unfold HasDescriptor at absent
        unfold descriptorData
        dsimp only
        split
        · next isDevice =>
            rw [if_pos isDevice] at absent
            rw [if_neg absent]
        · next notDevice =>
            rw [if_neg notDevice] at absent
            split
            · next isConfig =>
                rw [if_pos isConfig] at absent
                rw [if_neg absent]
            · next notConfig =>
                rw [if_neg notConfig] at absent
                split
                · next isString =>
                    have noTable := Option.not_isSome_iff_eq_none.mp fun has =>
                      absent ⟨isString, has⟩
                    rw [noTable, Option.map_none]
                · rfl
      rw [standardRequest_of_getDescriptor isGet, getDescriptor_of_none missing]
      rfl
    · exact (standardRequest_of_other isGet fun isSet => notAddress ⟨standard, isSet⟩).2
  · rw [if_neg standard] at unset
    unfold usb2Ep0RequestHandler
    dsimp only
    rw [if_neg standard]
    split
    · next isIn =>
        rw [if_pos isIn] at unset
        split
        · next hasLength =>
            have noBuffer : reply.buffer = 0 := by_contra fun hasBuffer =>
              unset ⟨hasLength, hasBuffer⟩
            rw [if_pos noBuffer]
            exact called true
        · exact called true
    · next isOut =>
        rw [if_neg isOut] at unset
        rw [if_pos (not_not.mp unset)]
        exact called false

/-- After an IN packet the endpoint answers NAK if nothing was left. -/
theorem naks_of_nothing_left (nothing : driver.endp0RemainingBytes = 0) :
    response ((driver.ep0DataInHandler bsp).txCtrl 0) = uepResNak := by
  have sent : driver.endp0RemainingBytes - driver.usb2Ep0NextDataPacketSize = 0 := by
    rw [nothing, Nat.zero_sub]
  have noByte : ¬driver.usb2Ep0NextDataPacketSize ≠ 0 := by
    rw [usb2Ep0NextDataPacketSize, nothing, Nat.zero_min, not_not]
  unfold ep0DataInHandler
  dsimp only
  rw [if_pos sent, if_neg fun full => noByte full.2]
  have ctrl := @Function.update_self (Fin 8) (fun _ => U8) _ 0
    (setResponse (driver.txCtrl 0) uepResNak) driver.txCtrl
  exact (congrArg response ctrl).trans (response_setResponse _ (.inr (.inl rfl)))

/-- It sends on if more than a packet was left. -/
theorem acks_of_more_left (more : driver.usb2Endp0MaxPacketSize < driver.endp0RemainingBytes) :
    response ((driver.ep0DataInHandler bsp).txCtrl 0) = uepResAck := by
  have left : ¬driver.endp0RemainingBytes - driver.usb2Ep0NextDataPacketSize = 0 := by
    rw [usb2Ep0NextDataPacketSize, Nat.min_eq_right more.le]
    exact Nat.sub_ne_zero_of_lt more
  unfold ep0DataInHandler
  dsimp only
  rw [if_neg left]
  have ctrl := @Function.update_self (Fin 8) (fun _ => U8) _ 0
    (setResponse (driver.txCtrl 0) uepResAck ^^^ bsp.rbUepTog1) driver.txCtrl
  refine (congrArg response ctrl).trans ?_
  rw [response_xor_tog]
  exact response_setResponse _ (.inl rfl)

/-- The next packet starts a packet behind `desc_head`. -/
theorem armedPacket_ep0DataInHandler (positive : 0 < driver.usb2Endp0MaxPacketSize)
    (more : driver.usb2Endp0MaxPacketSize < driver.endp0RemainingBytes)
    (reads : driver.ReadsWhereWritten) :
    ∃ rest, (driver.ep0DataInHandler bsp).armedPacket =
      some (driver.memory (u32 (driver.descHead + driver.usb2Endp0MaxPacketSize)) :: rest) := by
  have acks := acks_of_more_left bsp more
  have sent : driver.usb2Ep0NextDataPacketSize = driver.usb2Endp0MaxPacketSize :=
    Nat.min_eq_right more.le
  have left : ¬driver.endp0RemainingBytes - driver.usb2Endp0MaxPacketSize = 0 :=
    Nat.sub_ne_zero_of_lt more
  obtain ⟨length, isLength⟩ : ∃ length, min (driver.endp0RemainingBytes -
      driver.usb2Endp0MaxPacketSize) driver.usb2Endp0MaxPacketSize = length + 1 :=
    Nat.exists_eq_add_one.mpr (lt_min (Nat.sub_pos_of_lt more) positive)
  have handled : (driver.ep0DataInHandler bsp).tLen 0 = length + 1 ∧
      (driver.ep0DataInHandler bsp).dma .uep0Rt = driver.endp0Buffer ∧
      (driver.ep0DataInHandler bsp).memory = memcpyBytes driver.memory driver.endp0Buffer
        (u32 (driver.descHead + driver.usb2Endp0MaxPacketSize)) (length + 1) := by
    rw [← isLength]
    unfold ep0DataInHandler
    dsimp only
    rw [sent, if_neg left]
    exact ⟨@Function.update_self (Fin 8) (fun _ => Nat) _ 0 _ driver.tLen, reads, rfl⟩
  obtain ⟨tLen, pointer, memory⟩ := handled
  unfold armedPacket
  rw [if_pos acks, tLen, pointer, memory, List.range_succ_eq_map, List.map_cons,
    memcpyBytes_inside _ _ _ (Nat.zero_lt_succ length)]
  exact ⟨_, rfl⟩

variable (isOut : ¬driver.usbSetupReq.IsIn)
include isOut

/-- After an empty OUT packet the user's handler has been called if nothing was left. -/
theorem calls_of_nothing_left (nothing : driver.endp0RemainingBytes = 0) :
    (driver.usb2Ep0OutHandler bsp 0 noReply).userCalls =
      driver.userCalls ++ [.endp0UserHandledControlRequest driver.usbSetupReq false] := by
  have last : (driver.countOutPacket 0).endp0RemainingBytes = 0 := by
    rw [countOutPacket, nothing]
    rfl
  rw [usb2Ep0OutHandler_of_last isOut last]
  have counted (packet : Nat) : (((driver.countOutPacket packet).setDma .uep0Rt
      driver.endp0Buffer).setTLen 0 0).userCalls = driver.userCalls := rfl
  have kept (driver : Usb2Driver) (txCtrl rxCtrl : U8) :
      ((driver.setTxCtrl 0 txCtrl).setRxCtrl 0 rxCtrl).userCalls = driver.userCalls := rfl
  rw [kept, userCalls_invoke, counted]

/-- It has not been called if a byte was left. -/
theorem no_call_of_byte_left (byte : driver.endp0RemainingBytes = 1) :
    (driver.usb2Ep0OutHandler bsp 0 noReply).userCalls = driver.userCalls := by
  have more : (driver.countOutPacket 0).endp0RemainingBytes ≠ 0 := by
    rw [countOutPacket, byte]
    change u16 (1 + (65536 - u16 0)) ≠ 0
    decide
  have counted (packet : Nat) : (driver.countOutPacket packet).userCalls = driver.userCalls := rfl
  have kept (driver : Usb2Driver) (ptr : Nat) (txCtrl rxCtrl : U8) :
      (((driver.setDma .uep0Rt ptr).setTxCtrl 0 txCtrl).setRxCtrl 0 rxCtrl).userCalls =
        driver.userCalls := rfl
  rw [usb2Ep0OutHandler_of_more isOut more, kept, counted]

omit isOut

section

variable (running : driver.device.state ≠ .powered)
  (noPassthrough : driver.ep0PassthroughEnabled = false)
include running noPassthrough

theorem remaining_setup :
    (Usb2Event.step bsp driver (.setup packet reply)).endp0RemainingBytes =
      ((driver.setupRead packet).usb2Ep0RequestHandler bsp reply).2.endp0RemainingBytes := by
  rw [step_setup_of_noPassthrough bsp running noPassthrough]
  unfold usb2Ep0SetupStageHandler
  dsimp only
  split
  · split
    · rfl
    · rfl
  · split
    · rfl
    · rfl

theorem response_endp0In (isIn : driver.usbSetupReq.IsIn) :
    response ((Usb2Event.endp0In.step bsp driver).txCtrl 0) =
      response ((driver.transferPending.ep0DataInHandler bsp).txCtrl 0) := by
  rw [step_endp0In bsp running noPassthrough isIn]
  rfl

theorem userCalls_endp0Out (isOut : ¬driver.usbSetupReq.IsIn) :
    (Usb2Event.step bsp driver (.outDone 0 0 true noReply)).userCalls =
      (driver.transferPending.usb2Ep0OutHandler bsp 0 noReply).userCalls := by
  have control : ¬((0 : Fin 16) ≠ 0 ∨ driver.ep0PassthroughEnabled = true) := by
    rw [noPassthrough]
    decide
  have pendingOut : ¬driver.transferPending.usbSetupReq.IsIn := isOut
  rw [step_outDone bsp running, if_neg control]
  rfl

/-- SET_ADDRESS with a data stage goes on from `desc_head`. -/
theorem setup_of_setAddress (isIn : packet.IsIn) (standard : packet.TreatedAsStandard)
    (isAddress : packet.bRequest = usbSetAddress) :
    let after := Usb2Event.step bsp driver (.setup packet reply)
    after.endp0RemainingBytes = packet.wLength.toNat ∧ after.descHead = driver.descHead ∧
      after.dma .uep0Rt = driver.dma .uep0Rt ∧ after.memory = (driver.setupRead packet).memory := by
  have readStandard : (driver.setupRead packet).usbSetupReq.TreatedAsStandard := standard
  have readAddress : (driver.setupRead packet).usbSetupReq.bRequest = usbSetAddress := isAddress
  rw [step_setup_in bsp reply running noPassthrough isIn,
    usb2Ep0RequestHandler_of_standard readStandard, standardRequest_of_setAddress readAddress]
  exact ⟨rfl, rfl, rfl, rfl⟩

end

end Usb2Driver

namespace NewSetup

open Usb2Driver

variable {bsp : Usb2Bsp} {driver : Usb2Driver} {packet : UsbSetup} {reply : UserReply}

/-- After the SETUP packet endpoint 0 answers tokens for the request. -/
theorem after_setup (driver : Usb2Driver) (running : driver.device.state ≠ .powered)
    (noPassthrough : driver.ep0PassthroughEnabled = false) :
    let after := Usb2Event.step bsp driver (.setup packet reply)
    after.device.state ≠ .powered ∧ after.ep0PassthroughEnabled = false ∧
      after.usbSetupReq = packet :=
  ⟨running_step bsp running _,
    (congrArg Config.ep0PassthroughEnabled (config_step bsp driver _)).trans noPassthrough,
    (request_step_setup bsp running packet reply).1⟩

/-- The SETUP stage and a completion show the same whatever is left. -/
theorem DiscardsPrevious.same (discards : DiscardsPrevious bsp driver packet reply)
    (first second : Leftovers) {event : Usb2Event} (onEndp0 : event.OnEndp0) :
    let after (left : Leftovers) :=
      Usb2Event.step bsp (driver.withLeftovers left) (.setup packet reply)
    endp0Output (after first) = endp0Output (after second) ∧
      endp0Output (event.step bsp (after first)) = endp0Output (event.step bsp (after second)) := by
  have only : ∀ other ∈ [event], other.OnEndp0 := List.forall_mem_singleton.mpr onEndp0
  have equal := (discards first [event] only).trans (discards second [event] only).symm
  obtain ⟨setup, completion⟩ := List.cons.inj equal
  exact ⟨setup, (List.cons.inj completion).1⟩

section

variable (running : driver.device.state ≠ .powered)
  (noPassthrough : driver.ep0PassthroughEnabled = false)
  (discards : DiscardsPrevious bsp driver packet reply)
include running noPassthrough discards

/-- A control-IN request that leaves the bytes of the transfer before it shows them. -/
theorem not_discards_of_in (isIn : packet.IsIn)
    (unset : ¬(driver.setupRead packet).SetsTransfer packet reply)
    (notAddress : ¬(packet.TreatedAsStandard ∧ packet.bRequest = usbSetAddress)) : False := by
  have sends (left : Leftovers) {after : Usb2Driver}
      (isAfter : after = Usb2Event.step bsp (driver.withLeftovers left) (.setup packet reply)) :
      response ((Usb2Event.endp0In.step bsp after).txCtrl 0) =
          response ((after.transferPending.ep0DataInHandler bsp).txCtrl 0) ∧
        after.transferPending.endp0RemainingBytes = left.endp0RemainingBytes ∧
        after.transferPending.usb2Endp0MaxPacketSize = driver.usb2Endp0MaxPacketSize := by
    obtain ⟨runs, passthrough, request⟩ :=
      @after_setup bsp packet reply (driver.withLeftovers left) running noPassthrough
    rw [isAfter]
    refine ⟨response_endp0In bsp runs passthrough (request.symm ▸ isIn), ?_, ?_⟩
    · exact (@remaining_setup bsp (driver.withLeftovers left) packet reply running
        noPassthrough).trans (@remaining_usb2Ep0RequestHandler bsp
          ((driver.withLeftovers left).setupRead packet) reply unset notAddress)
    · exact congrArg Config.usb2Endp0MaxPacketSize
        (config_step bsp (driver.withLeftovers left) (.setup packet reply))
  let some : Leftovers := ⟨0, driver.usb2Endp0MaxPacketSize + 1, 0⟩
  obtain ⟨naks, nothing, _⟩ := sends ⟨0, 0, 0⟩ rfl
  obtain ⟨acks, more, size⟩ := sends some rfl
  have same := congrArg Endp0Output.txResponse
    (discards.same ⟨0, 0, 0⟩ some (show Usb2Event.endp0In.OnEndp0 from rfl)).2
  have responses := (naks.trans (naks_of_nothing_left bsp nothing)).symm.trans (same.trans
    (acks.trans (acks_of_more_left bsp (by
      rw [more, size]
      exact Nat.lt_succ_self _))))
  exact absurd responses (by decide)

/-- Another request shows them by the call of the user's handler. -/
theorem not_discards_of_out (isOut : ¬packet.IsIn)
    (unset : ¬(driver.setupRead packet).SetsTransfer packet reply)
    (notAddress : ¬(packet.TreatedAsStandard ∧ packet.bRequest = usbSetAddress)) : False := by
  have takes (left : Leftovers) {after : Usb2Driver}
      (isAfter : after = Usb2Event.step bsp (driver.withLeftovers left) (.setup packet reply)) :
      (Usb2Event.step bsp after (.outDone 0 0 true noReply)).userCalls =
          (after.transferPending.usb2Ep0OutHandler bsp 0 noReply).userCalls ∧
        ¬after.transferPending.usbSetupReq.IsIn ∧
        after.transferPending.endp0RemainingBytes = left.endp0RemainingBytes := by
    obtain ⟨runs, passthrough, request⟩ :=
      @after_setup bsp packet reply (driver.withLeftovers left) running noPassthrough
    have afterOut : ¬after.usbSetupReq.IsIn := by
      rw [isAfter, request]
      exact isOut
    rw [isAfter] at afterOut ⊢
    refine ⟨userCalls_endp0Out bsp runs passthrough afterOut, afterOut, ?_⟩
    exact (@remaining_setup bsp (driver.withLeftovers left) packet reply running
      noPassthrough).trans (@remaining_usb2Ep0RequestHandler bsp
        ((driver.withLeftovers left).setupRead packet) reply unset notAddress)
  obtain ⟨handled, firstOut, nothing⟩ := takes ⟨0, 0, 0⟩ rfl
  obtain ⟨kept, secondOut, byte⟩ := takes ⟨0, 1, 0⟩ rfl
  have called := handled.trans (calls_of_nothing_left bsp firstOut nothing)
  have same := kept.trans (no_call_of_byte_left bsp secondOut byte)
  obtain ⟨setups, completions⟩ := discards.same ⟨0, 0, 0⟩ ⟨0, 1, 0⟩
    (show (Usb2Event.outDone 0 0 true noReply).OnEndp0 from rfl)
  have before : List.countP UserCall.IsControlRequest _ = List.countP _ _ :=
    congrArg Endp0Output.handlerCalls setups
  have after : List.countP UserCall.IsControlRequest _ = List.countP _ _ :=
    congrArg Endp0Output.handlerCalls completions
  rw [called, same, List.countP_append] at after
  have one (request : UsbSetup) : List.countP UserCall.IsControlRequest
      [.endp0UserHandledControlRequest request false] = 1 := rfl
  rw [one] at after
  exact absurd (after.trans before.symm) (Nat.succ_ne_self _)

omit discards in
/-- SET_ADDRESS with more than a packet to send shows the byte that is a packet behind
`desc_head`. -/
theorem shows_of_setAddress (isIn : packet.IsIn) (standard : packet.TreatedAsStandard)
    (isAddress : packet.bRequest = usbSetAddress) (positive : 0 < driver.usb2Endp0MaxPacketSize)
    (more : driver.usb2Endp0MaxPacketSize < packet.wLength.toNat)
    (reads : driver.ReadsWhereWritten) (left : Leftovers) :
    ∃ rest, (Usb2Event.endp0In.step bsp (Usb2Event.step bsp (driver.withLeftovers left)
        (.setup packet reply))).armedPacket =
      some ((driver.setupRead packet).memory
        (u32 (left.descHead + driver.usb2Endp0MaxPacketSize)) :: rest) := by
  obtain ⟨runs, passthrough, request⟩ :=
    @after_setup bsp packet reply (driver.withLeftovers left) running noPassthrough
  obtain ⟨remaining, head, pointer, memory⟩ := @setup_of_setAddress bsp
    (driver.withLeftovers left) packet reply running noPassthrough isIn standard isAddress
  have config := config_step bsp (driver.withLeftovers left) (.setup packet reply)
  generalize Usb2Event.step bsp (driver.withLeftovers left) (.setup packet reply) = after at *
  have size : after.transferPending.usb2Endp0MaxPacketSize = driver.usb2Endp0MaxPacketSize :=
    congrArg Config.usb2Endp0MaxPacketSize config
  have buffer : after.transferPending.endp0Buffer = driver.endp0Buffer :=
    congrArg (fun config : Config => config.rxBuffer 0) config
  have long : after.transferPending.usb2Endp0MaxPacketSize <
      after.transferPending.endp0RemainingBytes := by
    rw [size, show after.transferPending.endp0RemainingBytes = _ from remaining]
    exact more
  have here : after.transferPending.ReadsWhereWritten :=
    (show after.transferPending.dma .uep0Rt = _ from pointer).trans (reads.trans buffer.symm)
  obtain ⟨rest, armed⟩ := armedPacket_ep0DataInHandler bsp (size.symm ▸ positive) long here
  rw [size, show after.transferPending.descHead = left.descHead from head,
    show after.transferPending.memory = (driver.setupRead packet).memory from memory] at armed
  refine ⟨rest, ?_⟩
  rw [step_endp0In bsp runs passthrough (request.symm ▸ isIn)]
  exact armed

omit running noPassthrough discards in
/-- Some `desc_head` is a packet before an address. -/
theorem exists_head (packetSize : Nat) {address : Nat} (addressable : address < 2 ^ 32) :
    ∃ head, u32 (head + packetSize) = address := by
  refine ⟨address + packetSize * (2 ^ 32 - 1), ?_⟩
  unfold u32
  omega

/-- From one or the other `desc_head` it shows two different bytes of the SETUP packet itself. -/
theorem not_discards_of_setAddress (isIn : packet.IsIn) (standard : packet.TreatedAsStandard)
    (isAddress : packet.bRequest = usbSetAddress) (positive : 0 < driver.usb2Endp0MaxPacketSize)
    (more : driver.usb2Endp0MaxPacketSize < packet.wLength.toNat)
    (reads : driver.ReadsWhereWritten) (addressable : driver.endp0Buffer + 1 < 2 ^ 32) : False := by
  obtain ⟨head, isHead⟩ := exists_head driver.usb2Endp0MaxPacketSize
    (Nat.lt_of_succ_lt addressable)
  obtain ⟨next, isNext⟩ := exists_head driver.usb2Endp0MaxPacketSize addressable
  have shows := @shows_of_setAddress bsp driver packet reply running noPassthrough isIn
    standard isAddress positive more reads
  obtain ⟨_, first⟩ := shows ⟨head, 0, 0⟩
  obtain ⟨_, second⟩ := shows ⟨next, 0, 0⟩
  rw [isHead] at first
  rw [isNext] at second
  have same := congrArg Endp0Output.armed (discards.same ⟨head, 0, 0⟩ ⟨next, 0, 0⟩
    (show Usb2Event.endp0In.OnEndp0 from rfl)).2
  have bytes := (List.cons.inj (Option.some.inj (first.symm.trans (same.trans second)))).1
  have read := readUsbSetup_storeBytes driver.memory driver.endp0Buffer packet
  have type : (driver.setupRead packet).memory driver.endp0Buffer = packet.bRequestType :=
    congrArg UsbSetup.bRequestType read
  have number : (driver.setupRead packet).memory (driver.endp0Buffer + 1) = packet.bRequest :=
    congrArg UsbSetup.bRequest read
  have isType : packet.bRequestType = usbSetAddress :=
    type.symm.trans (bytes.trans (number.trans isAddress))
  unfold UsbSetup.IsIn at isIn
  rw [isType] at isIn
  exact absurd isIn (by decide)

end

/-- A SETUP packet discards the transfer before it exactly if its request sets the transfer up, or
before the first bus reset, when endpoint 0 does not answer. -/
theorem setup_discards_previous_iff (bsp : Usb2Bsp) (driver : Usb2Driver)
    (noPassthrough : driver.ep0PassthroughEnabled = false) (reads : driver.ReadsWhereWritten)
    (addressable : driver.endp0Buffer + 1 < 2 ^ 32) (packet : UsbSetup) (reply : UserReply) :
    DiscardsPrevious bsp driver packet reply ↔
      driver.device.state = .powered ∨ (driver.setupRead packet).SetsTransfer packet reply := by
  constructor
  · intro discards
    by_contra neither
    obtain ⟨running, unset⟩ := not_or.mp neither
    by_cases address : packet.TreatedAsStandard ∧ packet.bRequest = usbSetAddress
    · have long : ¬(packet.IsIn → packet.wLength.toNat ≤ driver.usb2Endp0MaxPacketSize ∨
          driver.usb2Endp0MaxPacketSize = 0) := by
        unfold SetsTransfer at unset
        rw [if_pos address.1] at unset
        exact fun short => unset (.inr ⟨address.2, short⟩)
      obtain ⟨isIn, more⟩ := Classical.not_imp.mp long
      obtain ⟨more, positive⟩ := not_or.mp more
      exact not_discards_of_setAddress running noPassthrough discards isIn address.1 address.2
        (Nat.pos_of_ne_zero positive) (Nat.lt_of_not_le more) reads addressable
    · by_cases isIn : packet.IsIn
      · exact not_discards_of_in running noPassthrough discards isIn unset address
      · exact not_discards_of_out running noPassthrough discards isIn unset address
  · rintro (powered | sets)
    · exact discardsPrevious_of_powered powered packet reply
    · by_cases powered : driver.device.state = .powered
      · exact discardsPrevious_of_powered powered packet reply
      · exact discardsPrevious_of_sets powered noPassthrough sets

/-! ## A request without a data stage of its own -/

/-- The device descriptor gives 64 bytes as the packet size of endpoint 0. -/
def packets64 : Nat → U8 := fun address => if address = 7 then 64#8 else 0#8

def controlDriver : Usb2Driver := (initial controlOnly packets64).usb2DeviceInit

/-- A vendor request that the user answers with bytes from address 0x20021000. -/
def vendorRequest : UsbSetup := ⟨0xc0#8, 1#8, ⟨0#8, 0#8⟩, ⟨0#8, 0#8⟩, 128#16⟩

/-- The host gives the vendor request up at once. -/
def abandonedAnswer (length : Nat) : List Usb2Event :=
  [.busReset noReply, .setup vendorRequest ⟨[], 0#8, length, 0x20021000⟩]

def givenUp (length : Nat) : Usb2Driver :=
  Usb2Event.run ControlIn.bsp0 controlDriver (abandonedAnswer length)

def getStatus : UsbSetup := ⟨0x80#8, usbGetStatus, ⟨0#8, 0#8⟩, ⟨0#8, 0#8⟩, 2#16⟩

/-- The two abandoned answers differ in what they leave behind. -/
theorem givenUp_leftovers :
    givenUp 80 = (givenUp 100).withLeftovers ⟨0x20021000, 80, 80⟩ := rfl

/-- The vendor request, made again, sends nothing of the answer that was given up. -/
theorem vendor_answer_discards_previous :
    (givenUp 100).device.state = .default ∧
      DiscardsPrevious ControlIn.bsp0 (givenUp 100) vendorRequest
        ⟨[], 0#8, 64, 0x20021000⟩ :=
  ⟨rfl, (setup_discards_previous_iff _ (givenUp 100) rfl rfl (by decide) _ _).mpr
    (.inr (by decide))⟩

/-- After GET_STATUS the next packet has 36 or 16 bytes, what an abandoned answer of 100 or 80
bytes has left. -/
theorem get_status_sends_leftovers :
    ¬∀ driver left completions,
      driver.Reachable ControlIn.bsp0 controlOnly packets64 →
      (driver.withLeftovers left).Reachable ControlIn.bsp0 controlOnly packets64 →
      driver.dma .uep0Rt = driver.endp0Buffer → (∀ event ∈ completions, event.OnEndp0) →
        outputs ControlIn.bsp0 (driver.withLeftovers left)
            (.setup getStatus noReply :: completions) =
          outputs ControlIn.bsp0 driver (.setup getStatus noReply :: completions) := by
  intro discards
  have same := discards (givenUp 100) ⟨0x20021000, 80, 80⟩ [.inDone 0 noReply]
    ⟨abandonedAnswer 100, rfl⟩ ⟨abandonedAnswer 80, givenUp_leftovers.symm⟩ rfl (by decide)
  have lengths := congrArg (List.map fun output => output.armed.map List.length) same
  exact absurd lengths (by decide)

end NewSetup

end WchCh56x.Usb
