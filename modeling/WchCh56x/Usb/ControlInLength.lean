import WchCh56x.Usb.ControlInData

/-!
# The length of a control-IN transfer on USB2

The descriptors of the device and of the configuration are cut to `wLength`.  A
string, the answer of the user and what an earlier transfer has left are not.
-/

namespace WchCh56x.Usb.Usb2Driver

open Support.Packets

variable (bsp : Usb2Bsp) (driver : Usb2Driver) (packet : UsbSetup) (reply : UserReply)

/-- What endpoint 0 has for the host. -/
def endp0Armed : Option (List U8) :=
  if response (driver.txCtrl 0) = uepResAck then some driver.endp0Packet else none

/-- The packets of the data stage that a SETUP packet starts. -/
def endp0Stage (index : Nat) : Option (List U8) :=
  ((Usb2Event.step bsp driver (.setup packet reply)).afterIn bsp index).endp0Armed

/-- A string and an answer of the user are no longer than the host asks for.  A request without
an answer sends what is left, but for one packet. -/
def AsksForAll : Prop :=
  let request := driver.usbSetupReq
  match driver.requestData reply with
  | some _ =>
      if request.TreatedAsStandard then
        request.wValue.bb0 = usbDescrTypString →
          ∀ table ∈ driver.device.usbDescriptors.usbStringDescrs,
            (driver.memory (table request.wValue.bb1.toNat)).toNat ≤ request.wLength.toNat
      else
        u16 reply.length ≤ request.wLength.toNat
  | none =>
      (request.TreatedAsStandard ∧ request.bRequest = usbSetAddress) ∨
        driver.endp0RemainingBytes ≤ request.wLength.toNat + driver.usb2Endp0MaxPacketSize

/-! ## The packets and their lengths -/

section

variable {driver}

theorem isSome_endp0Armed :
    driver.endp0Armed.isSome ↔ response (driver.txCtrl 0) = uepResAck := by
  unfold endp0Armed
  split
  · next acks => exact iff_of_true rfl acks
  · next other => exact iff_of_false Bool.false_ne_true other

theorem length_endp0Armed (acks : response (driver.txCtrl 0) = uepResAck) :
    (driver.endp0Armed.getD []).length = driver.tLen 0 := by
  unfold endp0Armed endp0Packet
  rw [if_pos acks, Option.getD_some, List.length_map, List.length_range]

variable {packet reply} {packets : Nat}

theorem sends_endp0Stage_iff :
    Sends (driver.endp0Stage bsp packet reply) packets ↔
      (Usb2Event.step bsp driver (.setup packet reply)).Takes bsp packets :=
  forall_congr' fun _ => forall_congr' fun _ => isSome_endp0Armed

theorem length_endp0Stage
    (takes : (Usb2Event.step bsp driver (.setup packet reply)).Takes bsp packets) :
    (payload (driver.endp0Stage bsp packet reply) packets).length =
      (Usb2Event.step bsp driver (.setup packet reply)).received bsp packets :=
  length_payload fun index inside => length_endp0Armed (takes index inside)

theorem received_mono {first second : Nat} (before : first ≤ second) :
    driver.received bsp first ≤ driver.received bsp second := by
  induction second, before using Nat.le_induction with
  | base => exact le_rfl
  | succ second _ ih =>
      rw [received_succ]
      exact ih.trans (Nat.le_add_right _ _)

/-- All the packets hold what is left after the first one, and the first one. -/
theorem Started.sendsWithin_iff {start : Usb2Driver} (started : start.Started bsp)
    (positive : 0 < start.usb2Endp0MaxPacketSize) {bound : Nat} :
    (∀ packets, start.Takes bsp packets → start.received bsp packets ≤ bound) ↔
      start.tLen 0 + (start.endp0RemainingBytes - start.usb2Endp0MaxPacketSize) ≤ bound := by
  have division := Nat.div_add_mod' start.endp0RemainingBytes start.usb2Endp0MaxPacketSize
  have rest := Nat.mod_lt start.endp0RemainingBytes positive
  have sum := started.received_add bsp positive (le_refl (start.endp0RemainingBytes /
    start.usb2Endp0MaxPacketSize))
  rw [Nat.succ_mul] at sum
  have total : start.received bsp (start.endp0RemainingBytes / start.usb2Endp0MaxPacketSize + 1) =
      start.tLen 0 + (start.endp0RemainingBytes - start.usb2Endp0MaxPacketSize) := by
    omega
  rw [← total]
  constructor
  · intro within
    exact within _ ((started.takes_iff bsp positive).mpr le_rfl)
  · intro within packets takes
    exact (received_mono bsp ((started.takes_iff bsp positive).mp takes)).trans within

/-- A stage whose first packet is a copy sends the bytes that it has been copied from. -/
theorem Started.delivers {start : Usb2Driver} (started : start.Started bsp)
    (positive : 0 < start.usb2Endp0MaxPacketSize) {base : Nat → U8}
    (whole : start.tLen 0 = min start.endp0RemainingBytes start.usb2Endp0MaxPacketSize)
    (addressable : start.descHead + start.endp0RemainingBytes ≤ 2 ^ 32)
    (copied : start.memory = memcpyBytes base start.endp0Buffer start.descHead
      (packetLength start.usb2Endp0MaxPacketSize start.endp0RemainingBytes 0))
    (apart : start.descHead + start.endp0RemainingBytes ≤ start.endp0Buffer ∨
      start.endp0Buffer ≤ start.descHead) :
    Delivers (fun index => (start.afterIn bsp index).endp0Armed)
      ((List.range start.endp0RemainingBytes).map fun offset => base (start.descHead + offset)) := by
  have copies : CopiesPackets (fun index => (start.afterIn bsp index).memory) base
      start.endp0Buffer start.descHead start.usb2Endp0MaxPacketSize start.endp0RemainingBytes
        (start.endp0RemainingBytes / start.usb2Endp0MaxPacketSize) :=
    ⟨copied, fun _ before => started.copied_afterIn bsp positive before addressable, apart⟩
  refine @delivers_of_packets start.usb2Endp0MaxPacketSize U8 _ _
    (fun offset => base (start.descHead + offset)) ?_ ⟨start.endp0RemainingBytes /
      start.usb2Endp0MaxPacketSize + 1, ?_, ?_⟩
  · intro packets sends index inside
    have takes : start.Takes bsp packets := fun index inside =>
      isSome_endp0Armed.mp (sends index inside)
    have within : index ≤ start.endp0RemainingBytes / start.usb2Endp0MaxPacketSize := by
      have most := (started.takes_iff bsp positive).mp takes
      omega
    have config := (started.sending_afterIn bsp positive within).config
    have buffer : (start.afterIn bsp index).endp0Buffer = start.endp0Buffer :=
      congrArg (fun config : Config => config.rxBuffer 0) config
    refine (if_pos (takes index inside)).trans (congrArg some ?_)
    rw [endp0Packet, started.packetLength_afterIn bsp positive whole within, buffer]
    exact List.map_congr_left fun offset part => copies.packet_eq within (List.mem_range.mp part)
  · have takes := (started.takes_iff bsp positive).mpr le_rfl
    exact fun index inside => isSome_endp0Armed.mpr (takes index inside)
  · have division := Nat.div_add_mod' start.endp0RemainingBytes start.usb2Endp0MaxPacketSize
    have rest := Nat.mod_lt start.endp0RemainingBytes positive
    rw [Nat.succ_mul]
    omega

end

/-! ## An endpoint without a packet size -/

/-- Every packet is empty where endpoint 0 has no packet size. -/
structure SendsNothing : Prop where
  running : driver.device.state ≠ .powered
  noPassthrough : driver.ep0PassthroughEnabled = false
  isIn : driver.usbSetupReq.IsIn
  noSize : driver.usb2Endp0MaxPacketSize = 0
  empty : driver.tLen 0 = 0

variable {driver}

theorem SendsNothing.step (nothing : driver.SendsNothing) :
    (Usb2Event.endp0In.step bsp driver).SendsNothing := by
  have config := config_step bsp driver Usb2Event.endp0In
  have isStep := step_endp0In bsp nothing.running nothing.noPassthrough nothing.isIn
  have noNext : driver.transferPending.usb2Ep0NextDataPacketSize = 0 :=
    (congrArg (min _) nothing.noSize).trans (Nat.min_zero _)
  refine ⟨running_step bsp nothing.running _, ?_, ?_, ?_, ?_⟩
  · exact (congrArg Config.ep0PassthroughEnabled config).trans nothing.noPassthrough
  · rw [driver.request_step bsp fun _ _ isSetup => Usb2Event.noConfusion isSetup]
    exact nothing.isIn
  · exact (congrArg Config.usb2Endp0MaxPacketSize config).trans nothing.noSize
  · rw [isStep]
    unfold ep0DataInHandler
    dsimp only
    rw [noNext]
    split
    · rw [if_neg fun full => full.2 rfl]
      exact nothing.empty
    · refine (@Function.update_self (Fin 8) (fun _ => Nat) _ 0 _ driver.tLen).trans ?_
      exact (congrArg (min _) nothing.noSize).trans (Nat.min_zero _)

theorem SendsNothing.received_eq (nothing : driver.SendsNothing) (packets : Nat) :
    driver.received bsp packets = 0 := by
  have always (index : Nat) : (driver.afterIn bsp index).SendsNothing := by
    induction index with
    | zero => exact nothing
    | succ index ih => exact ih.step bsp
  induction packets with
  | zero => rfl
  | succ packets ih => rw [received_succ, ih, (always packets).empty]

/-! ## The length -/

variable {reply}

/-- Of the descriptors only a string can be longer than the host asks for. -/
theorem descriptorData_le_iff {data : Nat × Nat} (found : driver.descriptorData = some data) :
    data.2 ≤ driver.usbSetupReq.wLength.toNat ↔
      (driver.usbSetupReq.wValue.bb0 = usbDescrTypString →
        ∀ table ∈ driver.device.usbDescriptors.usbStringDescrs,
          (driver.memory (table driver.usbSetupReq.wValue.bb1.toNat)).toNat ≤
            driver.usbSetupReq.wLength.toNat) := by
  unfold descriptorData at found
  dsimp only at found
  split at found
  · next isDevice =>
      split at found
      · obtain rfl := Option.some.inj found
        refine iff_of_true (Nat.min_le_right _ _) fun isString => ?_
        exact absurd (isDevice.symm.trans isString) (by decide)
      · cases found
  · split at found
    · next isConfig =>
        split at found
        · obtain rfl := Option.some.inj found
          refine iff_of_true (Nat.min_le_right _ _) fun isString => ?_
          exact absurd (isConfig.symm.trans isString) (by decide)
        · cases found
    · split at found
      · next isString =>
          obtain ⟨table, isTable, rfl⟩ := Option.map_eq_some_iff.mp found
          constructor
          · intro fits _ other isOther
            obtain rfl := Option.some.inj (isTable.symm.trans isOther)
            exact fits
          · intro fits
            exact fits isString table isTable
      · cases found

theorem asksForAll_of_data {data : Nat × Nat} (found : driver.requestData reply = some data) :
    driver.AsksForAll reply ↔ data.2 ≤ driver.usbSetupReq.wLength.toNat := by
  unfold AsksForAll
  dsimp only
  rw [found]
  dsimp only
  unfold requestData at found
  split at found
  · next standard =>
      rw [if_pos standard]
      split at found
      · exact (descriptorData_le_iff found).symm
      · cases found
  · next user =>
      rw [if_neg user]
      split at found
      · obtain rfl := Option.some.inj found
        exact Iff.rfl
      · cases found

theorem asksForAll_of_noData (missing : driver.requestData reply = none) :
    driver.AsksForAll reply ↔
      driver.bytesLeft reply - driver.usb2Endp0MaxPacketSize ≤ driver.usbSetupReq.wLength.toNat := by
  unfold AsksForAll bytesLeft
  dsimp only
  rw [missing]
  dsimp only
  split
  · next isAddress => exact iff_of_true (.inl isAddress) (Nat.sub_le _ _)
  · next other =>
      rw [or_iff_right other, Nat.sub_le_iff_le_add]

section

variable (running : driver.device.state ≠ .powered)
  (noPassthrough : driver.ep0PassthroughEnabled = false) {packet : UsbSetup} (isIn : packet.IsIn)
include running noPassthrough isIn

/-- The data stage has the first packet and what is left after one packet. -/
theorem endp0Stage_atMost_iff {bound : Nat} :
    SendsWithin (driver.endp0Stage bsp packet reply) bound ↔
      driver.usb2Endp0MaxPacketSize = 0 ∨ (driver.setupRead packet).Stalls reply ∨
        (driver.setupRead packet).firstLength reply +
          ((driver.setupRead packet).bytesLeft reply - driver.usb2Endp0MaxPacketSize) ≤ bound := by
  have size : (Usb2Event.step bsp driver (.setup packet reply)).usb2Endp0MaxPacketSize =
      driver.usb2Endp0MaxPacketSize :=
    congrArg Config.usb2Endp0MaxPacketSize (config_step bsp driver (.setup packet reply))
  by_cases stalls : (driver.setupRead packet).Stalls reply
  · refine iff_of_true (sendsWithin_of_none ?_ _) (.inr (.inl stalls))
    have stalled := setup_stalls bsp reply running noPassthrough isIn stalls
    refine if_neg fun acks => ?_
    exact absurd (stalled.symm.trans acks) (by decide)
  obtain ⟨started, first, left⟩ := setup_started bsp reply running noPassthrough isIn stalls
  have lengths : SendsWithin (driver.endp0Stage bsp packet reply) bound ↔
      ∀ packets, (Usb2Event.step bsp driver (.setup packet reply)).Takes bsp packets →
        (Usb2Event.step bsp driver (.setup packet reply)).received bsp packets ≤ bound := by
    refine forall_congr' fun packets => ?_
    rw [sends_endp0Stage_iff]
    refine forall_congr' fun takes => ?_
    rw [length_endp0Stage bsp takes]
  rw [lengths]
  by_cases noSize : driver.usb2Endp0MaxPacketSize = 0
  · have firstEmpty : (driver.setupRead packet).firstLength reply = 0 := by
      unfold firstLength
      cases (driver.setupRead packet).requestData reply with
      | none => rfl
      | some data => exact (congrArg (min data.2) noSize).trans (Nat.min_zero _)
    have nothing : (Usb2Event.step bsp driver (.setup packet reply)).SendsNothing :=
      ⟨started.running, started.noPassthrough, started.isIn, size.trans noSize,
        first.trans firstEmpty⟩
    refine iff_of_true (fun packets _ => ?_) (.inl noSize)
    rw [nothing.received_eq bsp]
    exact Nat.zero_le _
  · rw [started.sendsWithin_iff bsp ((Nat.pos_of_ne_zero noSize).trans_eq size.symm), first, left,
      size, or_iff_right noSize, or_iff_right stalls]

/-- The data stage keeps to `wLength` where the answer does. -/
theorem endp0Stage_within_iff :
    SendsWithin (driver.endp0Stage bsp packet reply) packet.wLength.toNat ↔
      driver.usb2Endp0MaxPacketSize = 0 ∨ (driver.setupRead packet).Stalls reply ∨
        (driver.setupRead packet).AsksForAll reply := by
  rw [endp0Stage_atMost_iff bsp running noPassthrough isIn]
  refine or_congr_right (or_congr_right ?_)
  cases found : (driver.setupRead packet).requestData reply with
  | some data =>
      have isFirst : (driver.setupRead packet).firstLength reply =
          min data.2 driver.usb2Endp0MaxPacketSize := by
        rw [firstLength, found]
        rfl
      have isLeft : (driver.setupRead packet).bytesLeft reply = data.2 := by
        rw [bytesLeft, found]
      have whole : min data.2 driver.usb2Endp0MaxPacketSize +
          (data.2 - driver.usb2Endp0MaxPacketSize) = data.2 := by omega
      rw [isFirst, isLeft, whole]
      exact (asksForAll_of_data found).symm
  | none =>
      have isFirst : (driver.setupRead packet).firstLength reply = 0 := by
        rw [firstLength, found]
      rw [isFirst, Nat.zero_add]
      exact (asksForAll_of_noData found).symm

/-- The data stage is the data, where its packets are copied before they are overwritten. -/
theorem endp0Stage_delivers {data : Nat × Nat} (positive : 0 < driver.usb2Endp0MaxPacketSize)
    (accepted : ¬(driver.setupRead packet).Stalls reply)
    (found : (driver.setupRead packet).requestData reply = some data)
    (addressable : data.1 + data.2 ≤ 2 ^ 32)
    (apart : data.1 + data.2 ≤ driver.endp0Buffer ∨ driver.endp0Buffer ≤ data.1) :
    Delivers (driver.endp0Stage bsp packet reply) ((List.range data.2).map fun offset =>
      ((driver.setupRead packet).requestBase bsp reply).memory (data.1 + offset)) := by
  obtain ⟨started, first, left⟩ := setup_started bsp reply running noPassthrough isIn accepted
  obtain ⟨head, copied, _⟩ := setup_copies bsp reply running noPassthrough isIn accepted found
  have config := config_step bsp driver (.setup packet reply)
  have size : (Usb2Event.step bsp driver (.setup packet reply)).usb2Endp0MaxPacketSize =
      driver.usb2Endp0MaxPacketSize := congrArg Config.usb2Endp0MaxPacketSize config
  have buffer : (Usb2Event.step bsp driver (.setup packet reply)).endp0Buffer =
      driver.endp0Buffer := congrArg (fun config : Config => config.rxBuffer 0) config
  rw [firstLength, found] at first
  rw [bytesLeft, found] at left
  dsimp only at left
  have delivers := @Started.delivers bsp _ started (positive.trans_eq size.symm)
    ((driver.setupRead packet).requestBase bsp reply).memory
  rw [size, buffer, head, left, packetLength, Nat.zero_mul, Nat.sub_zero,
    Nat.min_comm driver.usb2Endp0MaxPacketSize] at delivers
  exact delivers first addressable copied apart

end

end WchCh56x.Usb.Usb2Driver
