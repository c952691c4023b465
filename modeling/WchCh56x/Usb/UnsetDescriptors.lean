import WchCh56x.Usb.DescriptorChunks

/-!
# Descriptors that are not set

A backend that has no descriptor for a request goes on with what an earlier transfer
has left: the USB2 backend with the bytes that are left of it, the USB3 backend with
its pointer and the length that the host asks for.
-/

namespace WchCh56x.Usb

open Support.Packets

namespace UsbDeviceDescriptors

variable (descriptors : UsbDeviceDescriptors) (setup : UsbSetup)

/-- The request asks for a device, configuration, BOS or string descriptor whose pointer for USB2
is `NULL`. -/
def Unset2 : Prop :=
  (setup.wValue.bb0 = usbDescrTypDevice ∧ descriptors.usb2DeviceDescr = 0) ∨
    (setup.wValue.bb0 = usbDescrTypConfig ∧
      ∀ table ∈ descriptors.usb2DeviceConfigDescrs, table 0 = 0) ∨
    (setup.wValue.bb0 = usbDescrTypBos ∧ descriptors.usbBosDescr = 0) ∨
    (setup.wValue.bb0 = usbDescrTypString ∧
      ∀ table ∈ descriptors.usbStringDescrs, table setup.wValue.bb1.toNat = 0)

/-- The same for USB3. -/
def Unset30 : Prop :=
  (setup.wValue.bb0 = usbDescrTypDevice ∧ descriptors.usb3DeviceDescr = 0) ∨
    (setup.wValue.bb0 = usbDescrTypConfig ∧
      ∀ table ∈ descriptors.usb3DeviceConfigDescrs, table 0 = 0) ∨
    (setup.wValue.bb0 = usbDescrTypBos ∧ descriptors.usbBosDescr = 0) ∨
    (setup.wValue.bb0 = usbDescrTypString ∧
      ∀ table ∈ descriptors.usbStringDescrs, table setup.wValue.bb1.toNat = 0)

end UsbDeviceDescriptors

/-! ## The USB2 backend -/

namespace Usb2Driver

variable (bsp : Usb2Bsp) (driver : Usb2Driver) (packet : UsbSetup) (reply : UserReply)

/-- The driver arms no byte for the request and copies none. -/
structure AnswersNothing : Prop where
  empty : SendsWithin (driver.endp0Stage bsp packet reply) 0
  unread : ∀ packets, Sends (driver.endp0Stage bsp packet reply) packets →
    ((Usb2Event.step bsp driver (.setup packet reply)).afterIn bsp packets).memory =
      (driver.setupRead packet).memory

/-- No descriptor of some bytes is found, and no more than one packet of an earlier transfer is
left. -/
def NothingWaits : Prop :=
  driver.usb2Endp0MaxPacketSize = 0 ∨ packet.wValue.bb0 = usbDescrTypBos ∨
    match (driver.setupRead packet).descriptorData with
    | some data => data.2 = 0
    | none => driver.endp0RemainingBytes ≤ driver.usb2Endp0MaxPacketSize

structure InControlIn : Prop where
  running : driver.device.state ≠ .powered
  noPassthrough : driver.ep0PassthroughEnabled = false
  isIn : driver.usbSetupReq.IsIn

variable {driver}

theorem InControlIn.step (control : driver.InControlIn) :
    (Usb2Event.endp0In.step bsp driver).InControlIn where
  running := running_step bsp control.running _
  noPassthrough :=
    (congrArg Config.ep0PassthroughEnabled (config_step bsp driver Usb2Event.endp0In)).trans
      control.noPassthrough
  isIn := by
    rw [driver.request_step bsp fun _ _ isSetup => Usb2Event.noConfusion isSetup]
    exact control.isIn

theorem InControlIn.afterIn (control : driver.InControlIn) (completions : Nat) :
    (driver.afterIn bsp completions).InControlIn := by
  induction completions with
  | zero => exact control
  | succ completions ih => exact ih.step bsp

/-- A completion copies the packet that it arms, or nothing. -/
theorem InControlIn.memory_step (control : driver.InControlIn) :
    let after := Usb2Event.endp0In.step bsp driver
    after.memory = driver.memory ∨
      response (after.txCtrl 0) = uepResAck ∧
        ∃ source, after.memory =
          memcpyBytes driver.memory driver.endp0Buffer source (after.tLen 0) := by
  dsimp only
  rw [step_endp0In bsp control.running control.noPassthrough control.isIn]
  unfold ep0DataInHandler
  dsimp only
  split
  · split
    · exact .inl rfl
    · exact .inl rfl
  · refine .inr ⟨?_, u32 (driver.descHead + driver.usb2Ep0NextDataPacketSize), ?_⟩
    · have ctrl := @Function.update_self (Fin 8) (fun _ => U8) _ 0
        (setResponse (driver.txCtrl 0) uepResAck ^^^ bsp.rbUepTog1) driver.txCtrl
      refine (congrArg response ctrl).trans ?_
      rw [response_xor_tog]
      exact response_setResponse _ (.inl rfl)
    · exact (congrArg (memcpyBytes driver.memory driver.endp0Buffer _)
        (@Function.update_self (Fin 8) (fun _ => Nat) _ 0 _ driver.tLen)).symm

section

variable {packet} (running : driver.device.state ≠ .powered)
  (noPassthrough : driver.ep0PassthroughEnabled = false) (isIn : packet.IsIn)
include running noPassthrough isIn

theorem inControlIn_setup :
    (Usb2Event.step bsp driver (.setup packet reply)).InControlIn where
  running := running_step bsp running _
  noPassthrough :=
    (congrArg Config.ep0PassthroughEnabled (config_step bsp driver (.setup packet reply))).trans
      noPassthrough
  isIn := by
    rw [(request_step_setup bsp running packet reply).1]
    exact isIn

theorem memory_setup :
    (Usb2Event.step bsp driver (.setup packet reply)).memory =
      ((driver.setupRead packet).usb2Ep0RequestHandler bsp reply).2.memory := by
  rw [step_setup_in bsp reply running noPassthrough isIn]
  dsimp only
  split
  · rfl
  · rfl

/-- Where no packet has a byte, none is copied after the SETUP stage. -/
theorem memory_afterIn (empty : SendsWithin (driver.endp0Stage bsp packet reply) 0)
    (packets : Nat) (sends : Sends (driver.endp0Stage bsp packet reply) packets) :
    ((Usb2Event.step bsp driver (.setup packet reply)).afterIn bsp packets).memory =
      (Usb2Event.step bsp driver (.setup packet reply)).memory := by
  have started := inControlIn_setup bsp reply running noPassthrough isIn
  induction packets with
  | zero => rfl
  | succ packets ih =>
      have before := ih fun index inside => sends index (Nat.lt_succ_of_lt inside)
      rcases (started.afterIn bsp packets).memory_step bsp with kept | ⟨acks, source, copied⟩
      · exact kept.trans before
      · have next : (driver.endp0Stage bsp packet reply (packets + 1)).isSome :=
          isSome_endp0Armed.mpr acks
        have more : Sends (driver.endp0Stage bsp packet reply) (packets + 1 + 1) := by
          intro index inside
          rcases Nat.lt_succ_iff_lt_or_eq.mp inside with earlier | rfl
          · exact sends index earlier
          · exact next
        have length := empty _ more
        rw [length_endp0Stage bsp (sends_endp0Stage_iff bsp |>.mp more), received_succ] at length
        have noByte : ((Usb2Event.step bsp driver (.setup packet reply)).afterIn bsp
            (packets + 1)).tLen 0 = 0 := by omega
        refine (copied.trans ?_).trans before
        refine (congrArg (memcpyBytes _ _ source) noByte).trans ?_
        exact memcpyBytes_zero ..

end

/-- GET_DESCRIPTOR for a descriptor that is not set. -/
structure AsksForUnset (packet : UsbSetup) (unset : UsbSetup → Prop) : Prop where
  isIn : packet.IsIn
  standard : packet.IsStandard
  isGet : packet.bRequest = usbGetDescriptor
  unset : unset packet

section

variable {packet} (asks : AsksForUnset packet driver.device.usbDescriptors.Unset2)
include asks

theorem requestData_of_unset :
    (driver.setupRead packet).requestData reply = (driver.setupRead packet).descriptorData := by
  have standard : (driver.setupRead packet).usbSetupReq.TreatedAsStandard :=
    asks.standard.treatedAsStandard
  have isGet : (driver.setupRead packet).usbSetupReq.bRequest = usbGetDescriptor := asks.isGet
  unfold requestData
  rw [if_pos standard, if_pos isGet]

theorem handled_of_unset :
    ((driver.setupRead packet).usb2Ep0RequestHandler bsp reply).2.memory =
      (driver.setupRead packet).getDescriptor.2.memory := by
  have standard : (driver.setupRead packet).usbSetupReq.TreatedAsStandard :=
    asks.standard.treatedAsStandard
  have isGet : (driver.setupRead packet).usbSetupReq.bRequest = usbGetDescriptor := asks.isGet
  rw [usb2Ep0RequestHandler_of_standard standard, standardRequest_of_getDescriptor isGet]
  rfl

theorem refuses_iff_of_unset :
    (driver.setupRead packet).Refuses reply ↔ packet.wValue.bb0 = usbDescrTypBos := by
  have standard : (driver.setupRead packet).usbSetupReq.TreatedAsStandard :=
    asks.standard.treatedAsStandard
  unfold Refuses
  rw [if_pos standard]
  constructor
  · rintro ⟨_, unknown⟩
    obtain ⟨notDevice, others⟩ := not_or.mp unknown
    obtain ⟨notConfig, notString⟩ := not_or.mp others
    rcases asks.unset with device | config | bos | string
    · exact absurd device.1 notDevice
    · exact absurd config.1 notConfig
    · exact bos.1
    · exact absurd string.1 notString
  · intro isBos
    refine ⟨asks.isGet, ?_⟩
    change ¬(packet.wValue.bb0 = _ ∨ packet.wValue.bb0 = _ ∨ packet.wValue.bb0 = _)
    rw [isBos]
    decide

/-- A descriptor of which the first packet has no byte is not read, either. -/
theorem memory_getDescriptor
    (noByte : ∀ data ∈ (driver.setupRead packet).descriptorData,
      min data.2 driver.usb2Endp0MaxPacketSize = 0) :
    ((driver.setupRead packet).usb2Ep0RequestHandler bsp reply).2.memory =
      (driver.setupRead packet).memory := by
  rw [handled_of_unset bsp reply asks]
  cases found : (driver.setupRead packet).descriptorData with
  | none => rw [getDescriptor_of_none found]
  | some data =>
      rw [getDescriptor_of_data found]
      have size : ({ driver.setupRead packet with
          descHead := data.1
          endp0RemainingBytes := data.2 } : Usb2Driver).usb2Ep0NextDataPacketSize = 0 :=
        noByte data found
      unfold startDataStage
      dsimp only
      rw [size, memcpyBytes_zero]

variable (running : driver.device.state ≠ .powered)
  (noPassthrough : driver.ep0PassthroughEnabled = false)
  (isByte : driver.usb2Endp0MaxPacketSize ≤ 255)
include running noPassthrough isByte

/-- The length of the data stage depends on what is left of an earlier one. -/
theorem empty_iff_of_unset :
    SendsWithin (driver.endp0Stage bsp packet reply) 0 ↔ driver.NothingWaits packet := by
  have isData := requestData_of_unset reply asks
  rw [endp0Stage_atMost_iff bsp running noPassthrough asks.isIn]
  unfold NothingWaits
  refine or_congr_right ?_
  have stalls : (driver.setupRead packet).Stalls reply ↔
      packet.wValue.bb0 = usbDescrTypBos := by
    have short : (driver.setupRead packet).firstLength reply ≠ 0xffff := by
      have size : (driver.setupRead packet).usb2Endp0MaxPacketSize ≤ 255 := isByte
      unfold firstLength
      split
      · omega
      · decide
    unfold Stalls
    rw [refuses_iff_of_unset reply asks, or_iff_left short]
  rw [stalls]
  refine or_congr_right ?_
  unfold firstLength bytesLeft
  rw [isData]
  cases (driver.setupRead packet).descriptorData with
  | some data =>
      change min data.2 driver.usb2Endp0MaxPacketSize +
        (data.2 - driver.usb2Endp0MaxPacketSize) ≤ 0 ↔ data.2 = 0
      omega
  | none =>
      have notAddress : ¬((driver.setupRead packet).usbSetupReq.TreatedAsStandard ∧
          (driver.setupRead packet).usbSetupReq.bRequest = usbSetAddress) := fun isSet =>
        absurd (asks.isGet.symm.trans isSet.2) (by decide)
      dsimp only
      rw [if_neg notAddress, Nat.zero_add, Nat.le_zero, Nat.sub_eq_zero_iff_le]
      exact Iff.rfl

theorem answersNothing_iff :
    driver.AnswersNothing bsp packet reply ↔ driver.NothingWaits packet := by
  have empty_iff := empty_iff_of_unset bsp reply asks running noPassthrough isByte
  constructor
  · exact fun nothing => empty_iff.mp nothing.empty
  · intro waits
    have empty := empty_iff.mpr waits
    refine ⟨empty, fun packets sends => ?_⟩
    rw [memory_afterIn bsp reply running noPassthrough asks.isIn empty packets sends,
      memory_setup bsp reply running noPassthrough asks.isIn]
    refine memory_getDescriptor bsp reply asks fun data found => ?_
    rcases waits with noSize | isBos | nothing
    · rw [noSize, Nat.min_zero]
    · have refused := (refuses_iff_of_unset reply asks).mpr isBos
      have isData := requestData_of_unset reply asks
      exact absurd refused (not_refuses_of_data (isData.trans found))
    · rw [Option.mem_def.mp found] at nothing
      rw [show data.2 = 0 from nothing, Nat.zero_min]

end

end Usb2Driver

/-! ## The USB3 backend -/

namespace Usb30Driver

variable (bsp : Usb2Bsp) (driver : Usb30Driver) (packet : UsbSetup) (reply : UserReply)

structure AnswersNothing30 : Prop where
  empty : SendsWithin (driver.endp0Stage30 bsp packet reply) 0
  unread : ∀ completions,
    ((Usb30Event.step bsp driver (.setup packet reply)).afterIn30 bsp completions).memory =
      (driver.setupRead30 packet).memory

/-- The host asks for no byte, or the entry of a table leads to an empty descriptor. -/
def NothingAsked : Prop :=
  match (driver.setupRead30 packet).heldDescriptor packet with
  | some data => min packet.wLength.toNat data.2 = 0
  | none => packet.wLength.toNat = 0

variable {driver packet}

/-- Without a descriptor the first packet comes from where the pointer is. -/
theorem usb30GetDescriptor_of_missing {setup : UsbSetup}
    (known : setup.KnownDescriptor ∨ setup.wValue.bb0 = usbDescrTypBos)
    (missing : driver.heldDescriptor setup = none) :
    driver.usb30GetDescriptor setup = driver.loadPacket := by
  unfold heldDescriptor at missing
  unfold usb30GetDescriptor
  dsimp only at missing ⊢
  split at missing
  · next isBos =>
      have notDevice : setup.wValue.bb0 ≠ usbDescrTypDevice := by
        rw [isBos]
        decide
      have notConfig : setup.wValue.bb0 ≠ usbDescrTypConfig := by
        rw [isBos]
        decide
      rw [if_neg notDevice, if_neg notConfig, if_pos isBos]
      split at missing
      · cases missing
      · next absent => rw [if_pos (not_not.mp absent)]
  · next notBos =>
      unfold descriptor30 at missing
      dsimp only at missing
      split at missing
      · next isDevice =>
          split at missing
          · cases missing
          · next absent => rw [if_pos isDevice, if_pos (not_not.mp absent)]
      · next notDevice =>
          rw [if_neg notDevice]
          split at missing
          · next isConfig => rw [if_pos isConfig, Option.map_eq_none_iff.mp missing]
          · next notConfig =>
              rw [if_neg notConfig, if_neg notBos]
              split at missing
              · next isString => rw [if_pos isString, Option.map_eq_none_iff.mp missing]
              · next notString =>
                  rcases known with (device | config | string) | bos
                  · exact absurd device notDevice
                  · exact absurd config notConfig
                  · exact absurd string notString
                  · exact absurd bos notBos

/-- What a request has loaded is the whole stage if nothing is left. -/
theorem answersNothing30_iff_of_load {pointed : Usb30Driver} (isIn : packet.IsIn)
    (isRequest : (driver.setupRead30 packet).usb30Request bsp reply = pointed.loadPacket)
    (memory : pointed.memory = (driver.setupRead30 packet).memory) :
    driver.AnswersNothing30 bsp packet reply ↔ pointed.setupLen = 0 := by
  have size : pointed.loadPacket.1 = min endp0MaxPacketSize pointed.setupLen := loadPacket_length
  have fits : pointed.loadPacket.1 ≤ endp0MaxPacketSize := by
    rw [size]
    exact Nat.min_le_left _ _
  obtain ⟨streaming, length, left, _, copied, _⟩ :=
    stage30_of_packet bsp reply isIn (isRequest.trans (Prod.eta _).symm) fits
  constructor
  · intro nothing
    have within := (streaming.sendsWithin_iff bsp).mp nothing.empty (0 + 1)
    rw [received30_succ] at within
    have first : (Usb30Event.step bsp driver (.setup packet reply)).endp0Length ≤ 0 :=
      (Nat.le_add_left _ _).trans within
    rw [length, size] at first
    unfold endp0MaxPacketSize at first
    omega
  · intro none
    have noByte : pointed.loadPacket.1 = 0 := by
      rw [size, none, Nat.min_zero]
    have noneLeft : pointed.loadPacket.2.setupLen = 0 := by
      change pointed.setupLen - pointed.loadPacket.1 = 0
      rw [none, Nat.zero_sub]
    constructor
    · refine (streaming.sendsWithin_iff bsp).mpr fun packets => ?_
      have within := streaming.received_le bsp packets
      omega
    · have kept (completions : Nat) :
          ((Usb30Event.step bsp driver (.setup packet reply)).afterIn30 bsp
            completions).setupLen = 0 ∧
          ((Usb30Event.step bsp driver (.setup packet reply)).afterIn30 bsp completions).memory =
            (driver.setupRead30 packet).memory := by
        induction completions with
        | zero =>
            refine ⟨left.trans noneLeft, copied.trans ?_⟩
            change memcpyBytes pointed.memory pointed.endp0Buffer pointed.pDescr
              pointed.loadPacket.1 = _
            rw [noByte, memcpyBytes_zero, memory]
        | succ completions ih =>
            obtain ⟨_, _, stepLeft, _, stepMemory, _⟩ :=
              step_streaming bsp (streaming.afterIn30 bsp completions)
            obtain ⟨_, nothing, same⟩ := ep0InHandler_of_nothing ih.1
            exact ⟨stepLeft.trans nothing, stepMemory.trans (same.trans ih.2)⟩
      exact fun completions => (kept completions).2

theorem answersNothing30_iff
    (asks : Usb2Driver.AsksForUnset packet driver.device.usbDescriptors.Unset30) :
    driver.AnswersNothing30 bsp packet reply ↔ driver.NothingAsked packet := by
  have request := @usb30Request_of_standard bsp driver packet reply asks.standard
  rw [driver.usb30StandardReqHandler_eq packet] at request
  dsimp only at request
  rw [if_pos asks.isGet] at request
  have same : (driver.requested30 packet).heldDescriptor packet =
      (driver.setupRead30 packet).heldDescriptor packet := rfl
  unfold NothingAsked
  cases held : (driver.setupRead30 packet).heldDescriptor packet with
  | some data =>
      rw [usb30GetDescriptor_of_held (same.trans held)] at request
      exact answersNothing30_iff_of_load bsp reply asks.isIn request rfl
  | none =>
      have known : packet.KnownDescriptor ∨ packet.wValue.bb0 = usbDescrTypBos := by
        rcases asks.unset with device | config | bos | string
        · exact .inl (.inl device.1)
        · exact .inl (.inr (.inl config.1))
        · exact .inr bos.1
        · exact .inl (.inr (.inr string.1))
      rw [usb30GetDescriptor_of_missing known (same.trans held)] at request
      exact answersNothing30_iff_of_load bsp reply asks.isIn request rfl

end Usb30Driver

/-! ## Both backends -/

namespace UnsetDescriptors

open Usb2Driver ControlIn NewSetup

theorem size_usb2DeviceInit (driver : Usb2Driver) :
    driver.usb2DeviceInit.usb2Endp0MaxPacketSize =
      (bMaxPacketSize0 driver.memory driver.device.usbDescriptors.usb2DeviceDescr).toNat := by
  unfold usb2DeviceInit
  dsimp only
  exact (congrArg usb2Endp0MaxPacketSize (usb2SetupEndpoints_changes _)).trans rfl

/-- The packet size of endpoint 0 is a byte of the device descriptor. -/
theorem size_le_of_reachable {bsp : Usb2Bsp} {device : UsbDevice} {memory : Nat → U8}
    {driver : Usb2Driver} (reachable : driver.Reachable bsp device memory) :
    driver.usb2Endp0MaxPacketSize ≤ 255 := by
  obtain ⟨events, rfl⟩ := reachable
  have size := congrArg Config.usb2Endp0MaxPacketSize
    (config_run bsp (Usb2Driver.initial device memory).usb2DeviceInit events)
  refine (size.trans (size_usb2DeviceInit _)).trans_le ?_
  exact Nat.le_of_lt_succ (BitVec.isLt _)

/-- A descriptor that is not set is answered with nothing exactly if no earlier transfer has left
more than a packet, on USB2, and if the host asks for nothing, on USB3. -/
theorem unset_descriptor_iff (bsp : Usb2Bsp) :
    (∀ device memory (usb2 : Usb2Driver) packet reply, usb2.Reachable bsp device memory →
      usb2.device.state ≠ .powered → usb2.ep0PassthroughEnabled = false →
        AsksForUnset packet usb2.device.usbDescriptors.Unset2 →
          (usb2.AnswersNothing bsp packet reply ↔ usb2.NothingWaits packet)) ∧
      ∀ (usb30 : Usb30Driver) packet reply,
        AsksForUnset packet usb30.device.usbDescriptors.Unset30 →
          (usb30.AnswersNothing30 bsp packet reply ↔ usb30.NothingAsked packet) := by
  constructor
  · intro device memory usb2 packet reply reachable running noPassthrough asks
    exact answersNothing_iff bsp reply asks running noPassthrough (size_le_of_reachable reachable)
  · intro usb30 packet reply asks
    exact Usb30Driver.answersNothing30_iff bsp reply asks

/-! ## A device without a configuration descriptor -/

def getConfigDescriptor (wLength : U16) : UsbSetup :=
  ⟨0x80#8, usbGetDescriptor, ⟨0#8, usbDescrTypConfig⟩, ⟨0#8, 0#8⟩, wLength⟩

theorem asksForConfig (wLength : U16) :
    AsksForUnset (getConfigDescriptor wLength) lowSpeed.usbDescriptors.Unset2 ∧
      AsksForUnset (getConfigDescriptor wLength) lowSpeed.usbDescriptors.Unset30 := by
  have isIn : (getConfigDescriptor wLength).IsIn := by
    change (0x80#8 : U8) &&& _ ≠ _
    decide
  have standard : (getConfigDescriptor wLength).IsStandard := by
    change (0x80#8 : U8) &&& _ = _
    decide
  have noTable (table : Nat → Nat) (member : table ∈ (none : Option (Nat → Nat))) : table 0 = 0 :=
    absurd member (Option.not_mem_none table)
  exact ⟨⟨isIn, standard, rfl, .inr (.inl ⟨rfl, noTable⟩)⟩,
    ⟨isIn, standard, rfl, .inr (.inl ⟨rfl, noTable⟩)⟩⟩

theorem nothing_answered :
    lowSpeedDriver.AnswersNothing bsp0 (getConfigDescriptor 9#16) noReply ∧
      (Usb30Driver.initial lowSpeedDriver).AnswersNothing30 bsp0 (getConfigDescriptor 0#16)
        noReply := by
  have reachable : lowSpeedDriver.Reachable bsp0 lowSpeed lowSpeedDescr := ⟨_, rfl⟩
  refine ⟨((unset_descriptor_iff bsp0).1 _ _ _ _ _ reachable (by decide) rfl
    (asksForConfig 9#16).1).mpr (.inr (.inr ?_)),
    ((unset_descriptor_iff bsp0).2 _ _ _ (asksForConfig 0#16).2).mpr ?_⟩
  · change lowSpeedDriver.endp0RemainingBytes ≤ lowSpeedDriver.usb2Endp0MaxPacketSize
    decide
  · exact rfl

/-- The host has not taken the device descriptor. -/
def abandonedDriver : Usb2Driver :=
  Usb2Event.step bsp0 lowSpeedDriver (.setup (getDeviceDescriptor 18#16) noReply)

/-- Address 0 has the address of the device descriptor, and 9 is where a configuration descriptor
has its length. -/
def pointerAtZero : Nat → U8 := fun address =>
  if address = 1 then 0x10#8 else if address = 2 then 0x02#8 else if address = 3 then 0x20#8
  else if address = 0x20021002 then 9#8 else lowSpeedDescr address

/-- The same device, of which the table of configurations is `NULL`, with other bytes at
address 0. -/
def noTableDriver : Usb2Driver :=
  Usb2Event.run bsp0 (initial lowSpeed pointerAtZero).usb2DeviceInit [.busReset noReply]

theorem descriptorData_noTable :
    noTableDriver.device.usbDescriptors.usb2DeviceConfigDescrs = none ∧
      (noTableDriver.setupRead (getConfigDescriptor 18#16)).descriptorData =
        some (0x20021000, 9) := by
  decide

/-- Two bytes behind the first packet of the device descriptor are sent on USB2, or what the bytes
at address 0 lead to, and on USB3 what the pointer has. -/
theorem other_memory_answered :
    ¬abandonedDriver.AnswersNothing bsp0 (getConfigDescriptor 18#16) noReply ∧
      ¬noTableDriver.AnswersNothing bsp0 (getConfigDescriptor 18#16) noReply ∧
      ¬(Usb30Driver.initial lowSpeedDriver).AnswersNothing30 bsp0 (getConfigDescriptor 18#16)
        noReply := by
  refine ⟨?_, ?_, ?_⟩
  · intro nothing
    have waits := (answersNothing_iff bsp0 noReply (asksForConfig 18#16).1 (by decide) rfl
      (by decide)).mp nothing
    rcases waits with noSize | isBos | few
    · exact absurd noSize (by decide)
    · exact absurd isBos (by decide)
    · have left : abandonedDriver.endp0RemainingBytes ≤
        abandonedDriver.usb2Endp0MaxPacketSize := few
      exact absurd left (by decide)
  · intro nothing
    have waits := (answersNothing_iff bsp0 noReply (asksForConfig 18#16).1 (by decide) rfl
      (by decide)).mp nothing
    rcases waits with noSize | isBos | empty
    · exact absurd noSize (by decide)
    · exact absurd isBos (by decide)
    · rw [descriptorData_noTable.2] at empty
      exact absurd (show (9 : Nat) = 0 from empty) (by decide)
  · intro nothing
    have asked := (Usb30Driver.answersNothing30_iff bsp0 noReply (asksForConfig 18#16).2).mp nothing
    exact absurd (show (18 : Nat) = 0 from asked) (by decide)

end UnsetDescriptors

end WchCh56x.Usb
