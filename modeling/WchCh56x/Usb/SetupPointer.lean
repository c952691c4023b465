import WchCh56x.Usb.Endp0View

/-!
# Where the hardware writes the SETUP packet

An endpoint-0 packet is stored at the address in `R32_UEP0_RT_DMA`, and the driver
reads a SETUP packet from the buffer of endpoint 0.  Every packet of an OUT data
stage but its last moves the pointer forward.
-/

namespace WchCh56x.Usb

open Usb2Driver

variable (bsp : Usb2Bsp) {driver : Usb2Driver}

namespace Usb2Driver

variable (driver)

/-- The driver takes an OUT packet of endpoint 0 for one of a data stage. -/
def InOutDataStage : Prop := driver.device.state ≠ .powered ∧ ¬driver.usbSetupReq.IsIn

instance : Decidable driver.InOutDataStage := inferInstanceAs (Decidable (_ ∧ _))

/-- A packet of this length ends the data stage. -/
def LastOutPacket (numBytesReceived : Nat) : Prop :=
  driver.endp0RemainingBytes % 65536 = numBytesReceived % 65536

instance (numBytesReceived : Nat) : Decidable (driver.LastOutPacket numBytesReceived) :=
  inferInstanceAs (Decidable (_ = _))

theorem lastOutPacket_iff (numBytesReceived : Nat) :
    driver.LastOutPacket numBytesReceived ↔
      u16 (driver.endp0RemainingBytes + (65536 - u16 numBytesReceived)) = 0 := by
  unfold LastOutPacket u16
  omega

/-- The driver reads a SETUP packet from where the hardware writes it. -/
def ReadsWhereWritten : Prop := driver.dma .uep0Rt = driver.endp0Buffer

instance : Decidable driver.ReadsWhereWritten := inferInstanceAs (Decidable (_ = _))

end Usb2Driver

/-! ## The bytes of an unfinished data stage -/

/-- The bytes that OUT packets have brought for a data stage that has not ended.  Only a setup of
the endpoints gives up the bytes of a stage that the host has abandoned. -/
def Usb2Event.unfinishedBytes (driver : Usb2Driver) (bytes : Nat) : Usb2Event → Nat
  | .setup packet _ =>
      if driver.device.state ≠ .powered ∧ packet.ResetsEndpoints then 0 else bytes
  | .outDone endpNum numBytesReceived togok _ =>
      if endpNum = 0 ∧ togok ∧ driver.InOutDataStage then
        if driver.LastOutPacket numBytesReceived then 0 else bytes + numBytesReceived % 65536
      else
        bytes
  | .busReset _ => 0
  | .inDone _ _ | .nak _ _ | .call _ => bytes

def Usb2Event.unfinishedBytesAfter (driver : Usb2Driver) (bytes : Nat) : List Usb2Event → Nat
  | [] => bytes
  | event :: rest =>
      unfinishedBytesAfter (event.step bsp driver) (event.unfinishedBytes driver bytes) rest

/-! ## The pointer after each handler -/

theorem rtDma_invoke (driver : Usb2Driver) (userCall : UserCall) (reply : UserReply) :
    (driver.invoke bsp userCall reply).dma .uep0Rt = driver.dma .uep0Rt :=
  congrArg Fixed.rtDma (fixed_invoke bsp driver userCall reply)

theorem rtDma_setupBlocks (mask : U32) (blocks : List (EndpDir × Fin 16)) (driver : Usb2Driver) :
    (driver.setupBlocks mask blocks).dma .uep0Rt = driver.dma .uep0Rt :=
  @setupBlocks_keeps (fun other => other.dma .uep0Rt = driver.dma .uep0Rt) mask (fun _ _ same => same)
    (fun _ _ same => same) driver rfl blocks

theorem rtDma_usb2SetupEndpoints (driver : Usb2Driver) :
    driver.usb2SetupEndpoints.dma .uep0Rt = driver.endp0Buffer := by
  unfold usb2SetupEndpoints usb2SetupEndpointsInMask
  split
  · exact rtDma_setupBlocks _ _ driver.setupEndp0
  · rfl

theorem rtDma_usb2InTransferHandler {endpNum : Fin 16} (other : endpNum ≠ 0)
    (reply : UserReply) :
    (driver.usb2InTransferHandler bsp endpNum reply).dma .uep0Rt = driver.dma .uep0Rt := by
  have apart := (usb2TxEndpointAddrReg_ne_uep0Rt other).symm
  have completed := rtDma_invoke bsp (driver.beforeTxComplete bsp endpNum) (.txComplete endpNum)
    reply
  unfold usb2InTransferHandler
  simp only []
  split
  · split
    · exact (Function.update_of_ne apart ..).trans completed
    · exact Function.update_of_ne apart ..
  · rfl

theorem rtDma_usb2OutTransferHandler {endpNum : Fin 16} (other : endpNum ≠ 0)
    (numBytesReceived : Nat) (reply : UserReply) :
    (driver.usb2OutTransferHandler bsp endpNum numBytesReceived reply).dma .uep0Rt =
      driver.dma .uep0Rt := by
  have apart := (usb2RxEndpointAddrReg_ne_uep0Rt other).symm
  have received : (((driver.beforeRxCallback endpNum numBytesReceived).invoke bsp
      (.rxCallback endpNum (driver.device.rx endpNum).buffer numBytesReceived)
        reply).afterRxCallback endpNum reply.state).dma .uep0Rt = driver.dma .uep0Rt := by
    refine (Function.update_of_ne apart ..).trans ((rtDma_invoke ..).trans ?_)
    rw [beforeRxCallback, if_neg other]
  unfold usb2OutTransferHandler
  simp only []
  split
  · rw [if_neg fun status => other status.1, if_neg fun status => other status.1]
    exact received
  · rfl

theorem aside_rtDma : Aside fun driver => driver.dma .uep0Rt where
  tLen _ _ := rfl
  txCtrl _ _ := rfl
  rxCtrl _ _ := rfl
  progress _ _ _ _ _ := rfl

theorem rtDma_usb2Ep0InHandler : (driver.usb2Ep0InHandler bsp).dma .uep0Rt = driver.dma .uep0Rt :=
  aside_rtDma.usb2Ep0InHandler bsp (fun _ _ _ => rfl) driver

/-- An OUT packet of a data stage moves the pointer by its length, and the last one puts it
back. -/
theorem rtDma_usb2Ep0OutHandler (numBytesReceived : Nat) (reply : UserReply) :
    (driver.usb2Ep0OutHandler bsp numBytesReceived reply).dma .uep0Rt =
      if driver.usbSetupReq.IsIn then
        driver.dma .uep0Rt
      else if driver.LastOutPacket numBytesReceived then
        driver.endp0Buffer
      else
        u32 (driver.dma .uep0Rt + u16 numBytesReceived) := by
  unfold usb2Ep0OutHandler
  simp only []
  split
  · split
    · rfl
    · rfl
  · by_cases last : driver.LastOutPacket numBytesReceived
    · rw [if_pos ((driver.lastOutPacket_iff numBytesReceived).mp last), if_pos last]
      refine (rtDma_invoke ..).trans ?_
      simp only [setTLen, setDma, Function.update_self, endp0Buffer]
    · rw [if_neg fun ended => last ((driver.lastOutPacket_iff numBytesReceived).mpr ended),
        if_neg last]
      simp only [setRxCtrl, setTxCtrl, setDma, Function.update_self]

theorem rtDma_standardRequest : driver.standardRequest.2.dma .uep0Rt =
    if driver.usbSetupReq.bRequest = usbSetConfiguration ∨
        driver.usbSetupReq.bRequest = usbSetFeature ∧
          driver.usbSetupReq.wValue.w = endpointHalt then
      driver.endp0Buffer
    else
      driver.dma .uep0Rt := by
  unfold standardRequest usb2ResetEndpoints
  simp only []
  split
  · next isGet =>
      have keeps : ¬(usbGetDescriptor = usbSetConfiguration ∨ usbGetDescriptor = usbSetFeature ∧
          driver.usbSetupReq.wValue.w = endpointHalt) := by
        rintro (same | ⟨same, _⟩)
        · exact absurd same (by decide)
        · exact absurd same (by decide)
      rw [isGet, if_neg keeps]
      obtain ⟨head, remaining, memory, changes⟩ := getDescriptor_changes driver
      rw [changes]
  · split
    · next isSet =>
        have keeps : ¬(usbSetAddress = usbSetConfiguration ∨ usbSetAddress = usbSetFeature ∧
            driver.usbSetupReq.wValue.w = endpointHalt) := by
          rintro (same | ⟨same, _⟩)
          · exact absurd same (by decide)
          · exact absurd same (by decide)
        rw [isSet, if_neg keeps]
    · split
      · next isConfiguration =>
          rw [if_pos (Or.inl isConfiguration)]
          split
          · exact rtDma_usb2SetupEndpoints _
          · exact rtDma_usb2SetupEndpoints _
      · next notConfiguration =>
          split
          · next halt =>
              rw [if_pos (Or.inr halt)]
              exact rtDma_usb2SetupEndpoints driver
          · next notHalt =>
              rw [if_neg fun resets => resets.elim notConfiguration notHalt]

theorem rtDma_usb2Ep0RequestHandler (reply : UserReply) :
    (driver.usb2Ep0RequestHandler bsp reply).2.dma .uep0Rt =
      if driver.usbSetupReq.ResetsEndpoints then driver.endp0Buffer else driver.dma .uep0Rt := by
  by_cases standard : driver.usbSetupReq.TreatedAsStandard
  · refine (aside_rtDma.request_of_standard bsp standard).trans ?_
    refine rtDma_standardRequest.trans (if_congr ?_ rfl rfl)
    exact (and_iff_right standard).symm
  · have keeps : ¬driver.usbSetupReq.ResetsEndpoints := fun resets => standard resets.1
    rw [if_neg keeps]
    exact aside_rtDma.request_of_user bsp standard fun _ => rtDma_invoke bsp driver _ reply

theorem rtDma_usb2Ep0SetupStageHandler (reply : UserReply) :
    (driver.usb2Ep0SetupStageHandler bsp reply).dma .uep0Rt =
      if driver.usbSetupReq.ResetsEndpoints then driver.endp0Buffer else driver.dma .uep0Rt :=
  (aside_rtDma.usb2Ep0SetupStageHandler bsp driver reply).trans
    (rtDma_usb2Ep0RequestHandler bsp reply)

theorem rtDma_busReset (reply : UserReply) :
    (driver.busReset bsp reply).dma .uep0Rt = driver.endp0Buffer := by
  have handled := config_invoke bsp driver .usb2DeviceHandleBusReset reply
  have buffer : (driver.invoke bsp .usb2DeviceHandleBusReset reply).endp0Buffer =
      driver.endp0Buffer := congrFun (congrArg Config.rxBuffer handled) 0
  unfold busReset usb2SetDeviceAddress
  simp only []
  rw [if_pos (by decide)]
  exact (rtDma_usb2SetupEndpoints _).trans buffer

/-! ## The pointer along a run -/

/-- The pointer is ahead of the buffer by the bytes of the unfinished data stage. -/
def Usb2Driver.PointerAhead (driver : Usb2Driver) (bytes : Nat) : Prop :=
  driver.dma .uep0Rt = u32 (driver.endp0Buffer + bytes)

theorem pointerAhead_put_back {after : Usb2Driver} (small : driver.endp0Buffer < 4294967296)
    (config : after.config = driver.config) (back : after.dma .uep0Rt = driver.endp0Buffer) :
    after.PointerAhead 0 := by
  have buffer : after.endp0Buffer = driver.endp0Buffer :=
    congrFun (congrArg Config.rxBuffer config) 0
  rw [PointerAhead, back, buffer, Nat.add_zero, u32_of_lt small]

theorem pointerAhead_kept {after : Usb2Driver} {bytes : Nat}
    (ahead : driver.PointerAhead bytes) (config : after.config = driver.config)
    (same : after.dma .uep0Rt = driver.dma .uep0Rt) : after.PointerAhead bytes := by
  have buffer : after.endp0Buffer = driver.endp0Buffer :=
    congrFun (congrArg Config.rxBuffer config) 0
  rw [PointerAhead, same, buffer]
  exact ahead

theorem pointerAhead_moved {after : Usb2Driver} {bytes more : Nat}
    (ahead : driver.PointerAhead bytes) (buffer : after.endp0Buffer = driver.endp0Buffer)
    (moved : after.dma .uep0Rt = u32 (driver.dma .uep0Rt + u16 more)) :
    after.PointerAhead (bytes + more % 65536) := by
  unfold PointerAhead at ahead ⊢
  rw [moved, buffer, ahead]
  unfold u32 u16
  omega

theorem pointerAhead_step (noPassthrough : driver.ep0PassthroughEnabled = false)
    (small : driver.endp0Buffer < 4294967296) {bytes : Nat} (ahead : driver.PointerAhead bytes)
    (event : Usb2Event) :
    (event.step bsp driver).PointerAhead (event.unfinishedBytes driver bytes) := by
  have config := config_step bsp driver event
  cases event with
  | setup packet reply =>
      by_cases powered : driver.device.state = .powered
      · rw [Usb2Event.unfinishedBytes, if_neg fun resets => resets.1 powered]
        refine pointerAhead_kept ahead config ?_
        rw [step_setup_powered bsp powered]
        rfl
      · have handled := @rtDma_usb2Ep0SetupStageHandler bsp (driver.setupRead packet) reply
        rw [step_setup_of_noPassthrough bsp powered noPassthrough] at config ⊢
        by_cases resets : packet.ResetsEndpoints
        · rw [Usb2Event.unfinishedBytes, if_pos ⟨powered, resets⟩]
          exact pointerAhead_put_back small config (handled.trans (if_pos resets))
        · rw [Usb2Event.unfinishedBytes, if_neg fun both => resets both.2]
          exact pointerAhead_kept ahead config (handled.trans (if_neg resets))
  | inDone endpNum reply =>
      refine pointerAhead_kept ahead config ?_
      refine step_inDone_leaves bsp (fun driver => driver.dma .uep0Rt) (fun _ _ => rfl) endpNum reply
        (fun other => ?_) ?_
      · exact rtDma_usb2InTransferHandler bsp (other.resolve_right (by simp [noPassthrough])) reply
      · exact rtDma_usb2Ep0InHandler bsp
  | outDone endpNum numBytesReceived togok reply =>
      by_cases taken : endpNum = 0 ∧ togok ∧ driver.InOutDataStage
      · rw [Usb2Event.unfinishedBytes, if_pos taken]
        obtain ⟨rfl, rfl, running, isOut⟩ := taken
        have handled := (@rtDma_usb2Ep0OutHandler bsp driver.transferPending numBytesReceived
          reply).trans (if_neg isOut)
        rw [step_outDone bsp running, noPassthrough, if_neg (by simp)] at config ⊢
        split
        · next last => exact pointerAhead_put_back small config (handled.trans (if_pos last))
        · next more =>
            have buffer := congrFun (congrArg Config.rxBuffer config) 0
            have moved := handled.trans (if_neg more)
            exact pointerAhead_moved ahead buffer moved
      · rw [Usb2Event.unfinishedBytes, if_neg taken]
        refine pointerAhead_kept ahead config ?_
        by_cases powered : driver.device.state = .powered
        · rw [step_outDone_powered bsp powered]
          rfl
        · cases togok with
          | false =>
              rw [step_outDone_wrongToggle bsp powered]
              rfl
          | true =>
              rw [step_outDone bsp powered, noPassthrough]
              by_cases other : endpNum = 0
              · have isIn : driver.usbSetupReq.IsIn := by
                  by_contra isOut
                  exact taken ⟨other, rfl, powered, isOut⟩
                rw [if_neg (by simp [other])]
                exact (rtDma_usb2Ep0OutHandler bsp numBytesReceived reply).trans (if_pos isIn)
              · rw [if_pos (Or.inl other)]
                exact rtDma_usb2OutTransferHandler bsp other numBytesReceived reply
  | nak endpNum reply =>
      refine pointerAhead_kept ahead config ?_
      rw [step_nak]
      exact rtDma_invoke bsp driver.transferPending (.nakCallback endpNum) reply
  | busReset reply =>
      refine pointerAhead_put_back small config ?_
      rw [step_busReset]
      exact rtDma_busReset ..
  | call apiCall =>
      exact pointerAhead_kept ahead config
        (congrArg Fixed.rtDma (driver.fixed_call bsp apiCall))

theorem pointerAhead_run (noPassthrough : driver.ep0PassthroughEnabled = false)
    (small : driver.endp0Buffer < 4294967296) {bytes : Nat} (ahead : driver.PointerAhead bytes)
    (events : List Usb2Event) :
    (Usb2Event.run bsp driver events).PointerAhead
      (Usb2Event.unfinishedBytesAfter bsp driver bytes events) := by
  induction events generalizing driver bytes with
  | nil => exact ahead
  | cons event rest ih =>
      have config := config_step bsp driver event
      have passthrough := congrArg Config.ep0PassthroughEnabled config
      have buffer := congrFun (congrArg Config.rxBuffer config) 0
      exact ih (passthrough.trans noPassthrough) (buffer.trans_lt small)
        (pointerAhead_step bsp noPassthrough small ahead event)

/-- `property` holds of the events before every SETUP packet. -/
def Usb2Event.AtEachSetup (property : List Usb2Event → Prop) (events : List Usb2Event) : Prop :=
  ∀ before packet reply after, events = before ++ .setup packet reply :: after → property before

/-- At a SETUP packet the driver reads what the hardware wrote exactly if the bytes of unfinished
data stages since the pointer was last put back come to a multiple of the address space. -/
theorem setup_read_where_written_iff (device : UsbDevice) (memory : Nat → U8)
    (address : (device.rx 0).buffer < 4294967296) (events : List Usb2Event) :
    let driver := (initial device memory).usb2DeviceInit
    Usb2Event.AtEachSetup (fun before => (Usb2Event.run bsp driver before).ReadsWhereWritten)
        events ↔
      Usb2Event.AtEachSetup
        (fun before => 4294967296 ∣ Usb2Event.unfinishedBytesAfter bsp driver 0 before) events := by
  intro driver
  have buffer : driver.endp0Buffer = (device.rx 0).buffer :=
    congrArg (fun device => (device.rx 0).buffer) (usb2SetupEndpoints_device _)
  have small : driver.endp0Buffer < 4294967296 := buffer ▸ address
  have start : driver.PointerAhead 0 := by
    rw [PointerAhead, Nat.add_zero, u32_of_lt small]
    exact (rtDma_usb2SetupEndpoints _).trans buffer.symm
  have noPassthrough : driver.ep0PassthroughEnabled = false :=
    congrArg Config.ep0PassthroughEnabled config_usb2SetupEndpoints
  have same (before : List Usb2Event) : (Usb2Event.run bsp driver before).ReadsWhereWritten ↔
      4294967296 ∣ Usb2Event.unfinishedBytesAfter bsp driver 0 before := by
    have ahead := pointerAhead_run bsp noPassthrough small start before
    have kept : (Usb2Event.run bsp driver before).endp0Buffer = driver.endp0Buffer :=
      congrFun (congrArg Config.rxBuffer (config_run bsp driver before)) 0
    rw [ReadsWhereWritten, ahead, kept, u32]
    omega
  constructor
  · intro reads before packet reply after split
    exact (same before).mp (reads before packet reply after split)
  · intro whole before packet reply after split
    exact (same before).mpr (whole before packet reply after split)

/-! ## An abandoned data stage -/

/-- A device with only endpoint 0, whose buffer is at the start of the RAMX. -/
def controlOnly : UsbDevice :=
  { usbDevice0 with rx := Function.update usbDevice0.rx 0 ⟨0x20020000, 1, 64, 64, endpStateAck⟩ }

/-- The first half of a vendor request with 128 bytes of data, and a SETUP packet after it. -/
def abandonedStage : List Usb2Event :=
  [.busReset noReply,
    .setup ⟨0x40#8, 1#8, ⟨0#8, 0#8⟩, ⟨0#8, 0#8⟩, 128#16⟩ noReply,
    .outDone 0 64 true noReply,
    .setup ⟨0x80#8, 0#8, ⟨0#8, 0#8⟩, ⟨0#8, 0#8⟩, 2#16⟩ noReply]

theorem abandonedStage_read_where_written_iff :
    Usb2Event.AtEachSetup (fun before => (Usb2Event.run ⟨3, by decide, by decide⟩
        (initial controlOnly fun _ => 0#8).usb2DeviceInit before).ReadsWhereWritten)
        abandonedStage ↔
      Usb2Event.AtEachSetup (fun before => 4294967296 ∣ Usb2Event.unfinishedBytesAfter
        ⟨3, by decide, by decide⟩ (initial controlOnly fun _ => 0#8).usb2DeviceInit 0 before)
        abandonedStage :=
  setup_read_where_written_iff ⟨3, by decide, by decide⟩ controlOnly (fun _ => 0#8) (by decide)
    abandonedStage

/-- The SETUP packet after an abandoned data stage is written 64 bytes behind the place where the
driver reads it. -/
theorem abandoned_stage_moves_setup :
    ¬Usb2Event.AtEachSetup (fun before => (Usb2Event.run ⟨3, by decide, by decide⟩
        (initial controlOnly fun _ => 0#8).usb2DeviceInit before).ReadsWhereWritten)
      abandonedStage := by
  intro reads
  exact absurd (reads (abandonedStage.take 3) _ _ [] rfl) (by decide)

end WchCh56x.Usb
