import WchCh56x.Usb.ControlInData
import WchCh56x.Usb.Usb30Chart

/-!
# Control-IN transfers on a USB3 link

Every completion loads what it can of the bytes that are left, from wherever the
pointer of the answer is.  The transfer goes on with empty packets.
-/

namespace WchCh56x.Usb

open Support.Packets

/-! ## The control register of endpoint 0 -/

def endp0TxCtrl (ctrl count : U32) (reqLen : Nat) : U32 :=
  (ctrl &&& 0xec1ffc00#32) ||| (count * 0x200000#32) ||| BitVec.ofNat 32 reqLen ||| 0x14010000#32

def Endp0Ready (ctrl : U32) : Prop :=
  ctrl &&& usb30InSet 0#32 usb30Enable usb30Ack 0#32 0#32 =
    usb30InSet 0#32 usb30Enable usb30Ack 0#32 0#32

instance (ctrl : U32) : Decidable (Endp0Ready ctrl) := inferInstanceAs (Decidable (_ = _))

theorem endp0Ready_or (ctrl : U32) : Endp0Ready (ctrl ||| 0x14010000#32) := by
  have ready : 0x14010000#32 &&& usb30InSet 0#32 usb30Enable usb30Ack 0#32 0#32 =
      usb30InSet 0#32 usb30Enable usb30Ack 0#32 0#32 := by decide
  unfold Endp0Ready
  rw [BitVec.and_comm, BitVec.and_or_distrib_left, BitVec.and_comm _ 0x14010000#32, ready,
    BitVec.and_comm]
  apply BitVec.eq_of_getLsbD_eq
  intro i _
  rw [BitVec.getLsbD_or, BitVec.getLsbD_and]
  cases (usb30InSet 0#32 usb30Enable usb30Ack 0#32 0#32).getLsbD i with
  | false => rw [Bool.and_false, Bool.or_false]
  | true => rw [Bool.or_true]

theorem toNat_of_packet {reqLen : Nat} (fits : reqLen ≤ endp0MaxPacketSize) :
    (BitVec.ofNat 32 reqLen).toNat = reqLen := by
  unfold endp0MaxPacketSize at fits
  exact (BitVec.toNat_ofNat reqLen 32).trans (Nat.mod_eq_of_lt (by omega))

theorem usb30InTxLen_of_fields {ctrl len : U32}
    (field : ctrl &&& 0x7ff#32 = len &&& 0x7ff#32) : usb30InTxLen ctrl = len.toNat % 2048 := by
  rw [usb30InTxLen, field]
  exact toNat_and_lowMask len (show 11 ≤ 32 by decide)

theorem usb30InTxLen_first {reqLen : Nat} (fits : reqLen ≤ endp0MaxPacketSize) :
    usb30InTxLen (BitVec.ofNat 32 reqLen ||| 0x14010000#32) = reqLen := by
  have above : 0x7ff#32 &&& 0x14010000#32 = 0#32 := by decide
  have field : (BitVec.ofNat 32 reqLen ||| 0x14010000#32) &&& 0x7ff#32 =
      BitVec.ofNat 32 reqLen &&& 0x7ff#32 := by
    rw [BitVec.and_comm, BitVec.and_or_distrib_left, above, BitVec.or_zero, BitVec.and_comm]
  have small := toNat_of_packet fits
  unfold endp0MaxPacketSize at fits
  rw [usb30InTxLen_of_fields field, small]
  exact Nat.mod_eq_of_lt (by omega)

/-- A packet of a full burst leaves bit 10 of the length alone, which no packet sets. -/
theorem usb30InTxLen_next {ctrl : U32} (count : U32) {reqLen : Nat}
    (before : usb30InTxLen ctrl ≤ endp0MaxPacketSize) (fits : reqLen ≤ endp0MaxPacketSize) :
    usb30InTxLen (endp0TxCtrl ctrl count reqLen) = reqLen := by
  have above : 0x7ff#32 &&& 0x14010000#32 = 0#32 := by decide
  have kept : 0x7ff#32 &&& 0xec1ffc00#32 = 0x400#32 := by decide
  have counted : 0x7ff#32 &&& (count * 0x200000#32) = 0#32 := by
    have shift : count * 0x200000#32 = count <<< 21 :=
      (congrArg (count * ·) (show 0x200000#32 = BitVec.twoPow 32 21 by decide)).trans
        (BitVec.mul_twoPow_eq_shiftLeft count 21)
    apply BitVec.eq_of_getLsbD_eq
    intro i _
    have mask : (0x7ff#32).getLsbD i = decide (i < 11) := getLsbD_lowMask 11 i (by decide)
    rw [shift, BitVec.getLsbD_and, mask, BitVec.getLsbD_shiftLeft, BitVec.getLsbD_zero]
    by_cases inField : i < 11
    · have below : i < 21 := by omega
      simp [below]
    · simp [inField]
  have clear : 0x7ff#32 &&& (ctrl &&& 0xec1ffc00#32) = 0#32 := by
    have bit : (ctrl &&& 0x7ff#32).getLsbD 10 = false := by
      rw [BitVec.getLsbD, Nat.testBit_eq_decide_div_mod_eq]
      unfold usb30InTxLen endp0MaxPacketSize at before
      have small : (ctrl &&& 0x7ff#32).toNat / 2 ^ 10 = 0 := Nat.div_eq_of_lt (by omega)
      rw [small]
      rfl
    rw [BitVec.getLsbD_and] at bit
    have isClear : ctrl.getLsbD 10 = false := (Bool.and_true _).symm.trans bit
    rw [BitVec.and_comm ctrl, ← BitVec.and_assoc, kept]
    apply BitVec.eq_of_getLsbD_eq
    intro i _
    rw [BitVec.getLsbD_and, BitVec.getLsbD_zero]
    by_cases isBit : i = 10
    · rw [isBit, isClear, Bool.and_false]
    · have power : (0x400#32).getLsbD i = false := by
        rw [show 0x400#32 = BitVec.twoPow 32 10 by decide, BitVec.getLsbD_twoPow]
        simp [Ne.symm isBit]
      rw [power, Bool.false_and]
  have field : endp0TxCtrl ctrl count reqLen &&& 0x7ff#32 =
      BitVec.ofNat 32 reqLen &&& 0x7ff#32 := by
    unfold endp0TxCtrl
    rw [BitVec.and_comm, BitVec.and_or_distrib_left, BitVec.and_or_distrib_left,
      BitVec.and_or_distrib_left, clear, counted, above, BitVec.or_zero, BitVec.or_zero,
      BitVec.zero_or, BitVec.and_comm]
  have small := toNat_of_packet fits
  unfold endp0MaxPacketSize at fits
  rw [usb30InTxLen_of_fields field, small]
  exact Nat.mod_eq_of_lt (by omega)

namespace Usb30Driver

variable (bsp : Usb2Bsp) (driver : Usb30Driver)

/-! ## The packets -/

def afterIn30 : Nat → Usb30Driver
  | 0 => driver
  | completions + 1 => Usb30Event.step bsp (afterIn30 completions) .ep0In

def endp0Length : Nat := usb30InTxLen (driver.usb30.uepTxCtrl 0)

/-- What endpoint 0 has for the host. -/
def endp0Armed30 : Option (List U8) :=
  if Endp0Ready (driver.usb30.uepTxCtrl 0) then
    some ((List.range driver.endp0Length).map fun offset =>
      driver.memory (driver.endp0Buffer + offset))
  else
    none

/-- The packets of the data stage that a SETUP packet starts. -/
def endp0Stage30 (packet : UsbSetup) (reply : UserReply) (index : Nat) : Option (List U8) :=
  ((Usb30Event.step bsp driver (.setup packet reply)).afterIn30 bsp index).endp0Armed30

/-- A packet is armed on endpoint 0. -/
structure Streaming : Prop where
  ready : Endp0Ready (driver.usb30.uepTxCtrl 0)
  fits : driver.endp0Length ≤ endp0MaxPacketSize

def received30 (packets : Nat) : Nat :=
  ((List.range packets).map fun index => (driver.afterIn30 bsp index).endp0Length).sum

theorem received30_succ (packets : Nat) :
    driver.received30 bsp (packets + 1) =
      driver.received30 bsp packets + (driver.afterIn30 bsp packets).endp0Length :=
  List.sum_range_succ _ packets

/-! ## One completion -/

section

variable {driver}

theorem loadPacket_length : driver.loadPacket.1 = min endp0MaxPacketSize driver.setupLen := by
  unfold loadPacket
  dsimp only
  split
  · next full => exact (Nat.min_eq_left full).symm
  · next short => exact (Nat.min_eq_right (Nat.le_of_not_le short)).symm

theorem ep0InHandler_fits : driver.ep0InHandler.1 ≤ endp0MaxPacketSize := by
  unfold ep0InHandler
  split
  · rw [loadPacket_length]
    exact Nat.min_le_left _ _
  · exact Nat.zero_le _

theorem ep0InHandler_keeps :
    driver.ep0InHandler.2.usb30 = driver.usb30 ∧
      driver.ep0InHandler.2.endp0Buffer = driver.endp0Buffer := by
  unfold ep0InHandler
  split
  · exact ⟨rfl, rfl⟩
  · exact ⟨rfl, rfl⟩

/-- The registers that arm a packet are apart from the answer. -/
theorem armed_keeps (driver : Usb30Driver) (fcCtrl rxCtrl txCtrl : U32) :
    let after := ((driver.setUsbFcCtrl fcCtrl).setUepRxCtrl 0 rxCtrl).setUepTxCtrl 0 txCtrl
    after.usb30.uepTxCtrl 0 = txCtrl ∧ after.setupLen = driver.setupLen ∧
      after.pDescr = driver.pDescr ∧ after.memory = driver.memory ∧
      after.endp0Buffer = driver.endp0Buffer :=
  ⟨setUepTxCtrl_self .., rfl, rfl, rfl, rfl⟩

/-- A completion arms what the handler has loaded. -/
theorem step_streaming (streaming : driver.Streaming) :
    let after := Usb30Event.step bsp driver .ep0In
    after.Streaming ∧ after.endp0Length = driver.ep0InHandler.1 ∧
      after.setupLen = driver.ep0InHandler.2.setupLen ∧
      after.pDescr = driver.ep0InHandler.2.pDescr ∧
      after.memory = driver.ep0InHandler.2.memory ∧ after.endp0Buffer = driver.endp0Buffer := by
  have fits := @ep0InHandler_fits driver
  obtain ⟨usb30, buffer⟩ := @ep0InHandler_keeps driver
  have isStep := driver.step_ep0In bsp
  unfold usb30Ep0In at isStep
  dsimp only at isStep ⊢
  rw [isStep]
  split
  · next empty =>
      obtain ⟨ctrl, left, pointer, memory, kept⟩ :=
        armed_keeps { driver.ep0InHandler.2 with count := 0#32 } 0x41#32 0x4010000#32 0x14010000#32
      have length : usb30InTxLen 0x14010000#32 = 0 := by decide
      refine ⟨⟨?_, ?_⟩, ?_, left, pointer, memory, kept.trans buffer⟩
      · rw [ctrl]
        decide
      · rw [endp0Length, ctrl, length]
        exact Nat.zero_le _
      · rw [endp0Length, ctrl, length, empty]
  · have before : usb30InTxLen (driver.ep0InHandler.2.usb30.uepTxCtrl 0) ≤ endp0MaxPacketSize := by
      rw [usb30]
      exact streaming.fits
    obtain ⟨ctrl, left, pointer, memory, kept⟩ :=
      armed_keeps { driver.ep0InHandler.2 with count := driver.ep0InHandler.2.count + 1#32 } 0x41#32
        0#32 (endp0TxCtrl (driver.ep0InHandler.2.usb30.uepTxCtrl 0)
          (driver.ep0InHandler.2.count + 1#32) driver.ep0InHandler.1)
    have length := usb30InTxLen_next (driver.ep0InHandler.2.count + 1#32) before fits
    refine ⟨⟨?_, ?_⟩, ?_, left, pointer, memory, kept.trans buffer⟩
    · exact (congrArg Endp0Ready ctrl).mpr (endp0Ready_or _)
    · exact ((congrArg usb30InTxLen ctrl).trans length).trans_le fits
    · exact (congrArg usb30InTxLen ctrl).trans length

/-- A completion moves bytes from what is left to the packet. -/
theorem step_conserves (streaming : driver.Streaming) :
    (Usb30Event.step bsp driver .ep0In).endp0Length +
      (Usb30Event.step bsp driver .ep0In).setupLen = driver.setupLen := by
  obtain ⟨_, length, left, _⟩ := step_streaming bsp streaming
  rw [length, left]
  unfold ep0InHandler
  split
  · have loaded := @loadPacket_length driver
    change driver.loadPacket.1 + (driver.setupLen - driver.loadPacket.1) = driver.setupLen
    omega
  · exact Nat.zero_add _

theorem Streaming.afterIn30 (streaming : driver.Streaming) (completions : Nat) :
    (driver.afterIn30 bsp completions).Streaming := by
  induction completions with
  | zero => exact streaming
  | succ completions ih => exact (step_streaming bsp ih).1

/-- What has been sent and what is left make up the answer. -/
theorem Streaming.received_add (streaming : driver.Streaming) (packets : Nat) :
    driver.received30 bsp (packets + 1) + (driver.afterIn30 bsp packets).setupLen =
      driver.endp0Length + driver.setupLen := by
  induction packets with
  | zero =>
      have first : driver.received30 bsp 1 = 0 + driver.endp0Length := received30_succ bsp driver 0
      rw [first, Nat.zero_add]
      rfl
  | succ packets ih =>
      have moved := step_conserves bsp (streaming.afterIn30 bsp packets)
      rw [received30_succ]
      change _ + (Usb30Event.step bsp (driver.afterIn30 bsp packets) .ep0In).endp0Length +
        (Usb30Event.step bsp (driver.afterIn30 bsp packets) .ep0In).setupLen = _
      omega

/-! ## The length of a data stage -/

theorem length_endp0Armed30 (ready : Endp0Ready (driver.usb30.uepTxCtrl 0)) :
    (driver.endp0Armed30.getD []).length = driver.endp0Length := by
  unfold endp0Armed30
  rw [if_pos ready, Option.getD_some, List.length_map, List.length_range]

theorem isSome_endp0Armed30 (ready : Endp0Ready (driver.usb30.uepTxCtrl 0)) :
    driver.endp0Armed30.isSome := by
  unfold endp0Armed30
  rw [if_pos ready]
  rfl

/-- The host takes as many packets as it likes, and the later ones are empty. -/
theorem Streaming.sendsWithin_iff (streaming : driver.Streaming) {bound : Nat} :
    SendsWithin (fun index => (driver.afterIn30 bsp index).endp0Armed30) bound ↔
      ∀ packets, driver.received30 bsp packets ≤ bound := by
  have ready (index : Nat) := (streaming.afterIn30 bsp index).ready
  have length (packets : Nat) :
      (payload (fun index => (driver.afterIn30 bsp index).endp0Armed30) packets).length =
        driver.received30 bsp packets :=
    length_payload fun index _ => length_endp0Armed30 (ready index)
  constructor
  · intro within packets
    rw [← length packets]
    exact within packets fun index _ => isSome_endp0Armed30 (ready index)
  · intro within packets _
    rw [length packets]
    exact within packets

theorem Streaming.received_le (streaming : driver.Streaming) (packets : Nat) :
    driver.received30 bsp packets ≤ driver.endp0Length + driver.setupLen := by
  cases packets with
  | zero => exact Nat.zero_le _
  | succ packets =>
      have sum := streaming.received_add bsp packets
      omega

/-- Without a pointer the driver loads nothing. -/
theorem Streaming.received_of_null (streaming : driver.Streaming) (null : driver.pDescr = 0)
    (packets : Nat) : driver.received30 bsp packets ≤ driver.endp0Length := by
  have kept (completions : Nat) : (driver.afterIn30 bsp completions).pDescr = 0 ∧
      (driver.afterIn30 bsp completions).setupLen = driver.setupLen := by
    induction completions with
    | zero => exact ⟨null, rfl⟩
    | succ completions ih =>
        obtain ⟨_, _, left, pointer, _⟩ := step_streaming bsp (streaming.afterIn30 bsp completions)
        have nothing : (driver.afterIn30 bsp completions).ep0InHandler =
            (0, driver.afterIn30 bsp completions) := if_neg (not_not.mpr ih.1)
        rw [nothing] at left pointer
        exact ⟨pointer.trans ih.1, left.trans ih.2⟩
  cases packets with
  | zero => exact Nat.zero_le _
  | succ packets =>
      have sum := streaming.received_add bsp packets
      rw [(kept packets).2] at sum
      omega

/-- What is left fits one packet, which is loaded unless the pointer is null. -/
theorem Streaming.within_iff_of_short (streaming : driver.Streaming)
    (short : driver.setupLen ≤ endp0MaxPacketSize) {bound : Nat} :
    (∀ packets, driver.received30 bsp packets ≤ bound) ↔
      driver.endp0Length ≤ bound ∧
        (driver.pDescr = 0 ∨ driver.endp0Length + driver.setupLen ≤ bound) := by
  constructor
  · intro within
    have first : driver.received30 bsp 1 + driver.setupLen =
        driver.endp0Length + driver.setupLen := streaming.received_add bsp 0
    have second : driver.received30 bsp 2 + (driver.afterIn30 bsp 1).setupLen =
        driver.endp0Length + driver.setupLen := streaming.received_add bsp 1
    refine ⟨?_, or_iff_not_imp_left.mpr fun pointer => ?_⟩
    · have one := within 1
      omega
    · have loaded : driver.ep0InHandler = driver.loadPacket := if_pos pointer
      have left : (driver.afterIn30 bsp 1).setupLen = driver.ep0InHandler.2.setupLen :=
        (step_streaming bsp streaming).2.2.1
      have nothing : driver.loadPacket.2.setupLen = driver.setupLen - driver.loadPacket.1 := rfl
      rw [loaded, nothing, loadPacket_length, Nat.min_eq_right short, Nat.sub_self] at left
      rw [left, Nat.add_zero] at second
      exact second ▸ within 2
  · rintro ⟨first, null | whole⟩ packets
    · exact (streaming.received_of_null bsp null packets).trans first
    · exact (streaming.received_le bsp packets).trans whole

/-! ## The packets of an answer -/

/-- The driver has loaded packet `index` of `total` bytes at `head`. -/
structure Answering (driver : Usb30Driver) (head total index : Nat) : Prop where
  left : driver.setupLen = total - (index + 1) * endp0MaxPacketSize
  pointer : driver.setupLen ≠ 0 → driver.pDescr = head + (index + 1) * endp0MaxPacketSize

/-- The endpoint has packet `index` of `total` bytes at `head`. -/
structure Sends30 (driver : Usb30Driver) (head total index : Nat) : Prop where
  streaming : driver.Streaming
  length : driver.endp0Length = packetLength endp0MaxPacketSize total index
  left : driver.setupLen = total - (index + 1) * endp0MaxPacketSize
  pointer : driver.setupLen ≠ 0 → driver.pDescr = head + (index + 1) * endp0MaxPacketSize

/-- Without bytes left the handler loads nothing, whatever the pointer is. -/
theorem ep0InHandler_of_nothing (nothing : driver.setupLen = 0) :
    driver.ep0InHandler.1 = 0 ∧ driver.ep0InHandler.2.setupLen = 0 ∧
      driver.ep0InHandler.2.memory = driver.memory := by
  unfold ep0InHandler
  split
  · have none : driver.loadPacket.1 = 0 := by
      rw [loadPacket_length, nothing]
      rfl
    refine ⟨none, ?_, ?_⟩
    · change driver.setupLen - driver.loadPacket.1 = 0
      rw [nothing, Nat.zero_sub]
    · change memcpyBytes driver.memory driver.endp0Buffer driver.pDescr driver.loadPacket.1 = _
      rw [none, memcpyBytes_zero]
  · exact ⟨rfl, nothing, rfl⟩

variable {head total : Nat} (addressable : head + total ≤ 2 ^ 32)
include addressable

/-- The first packet is copied from where the pointer is. -/
theorem answering_loadPacket (atHead : driver.pDescr = head) (whole : driver.setupLen = total) :
    driver.loadPacket.1 = packetLength endp0MaxPacketSize total 0 ∧
      driver.loadPacket.2.Answering head total 0 ∧
      driver.loadPacket.2.memory = memcpyBytes driver.memory driver.endp0Buffer head
        (packetLength endp0MaxPacketSize total 0) := by
  have size : driver.loadPacket.1 = packetLength endp0MaxPacketSize total 0 := by
    rw [loadPacket_length, whole, packetLength, Nat.zero_mul, Nat.sub_zero]
  have left : driver.loadPacket.2.setupLen = total - (0 + 1) * endp0MaxPacketSize := by
    change driver.setupLen - driver.loadPacket.1 = _
    rw [whole, size, packetLength]
    omega
  refine ⟨size, ⟨left, fun some => ?_⟩, ?_⟩
  · rw [left] at some
    change u32 (driver.pDescr + driver.loadPacket.1) = _
    rw [atHead, size, packetLength, u32_of_lt (by omega)]
    omega
  · rw [← size, ← atHead]
    rfl

/-- The next packet is copied from the next part of the answer. -/
theorem Answering.ep0InHandler {index : Nat} (answering : driver.Answering head total index) :
    driver.ep0InHandler.1 = packetLength endp0MaxPacketSize total (index + 1) ∧
      driver.ep0InHandler.2.Answering head total (index + 1) ∧
      driver.ep0InHandler.2.memory =
        memcpyBytes driver.memory driver.endp0Buffer (head + (index + 1) * endp0MaxPacketSize)
          (packetLength endp0MaxPacketSize total (index + 1)) := by
  have before := answering.left
  have next : (index + 1 + 1) * endp0MaxPacketSize =
      (index + 1) * endp0MaxPacketSize + endp0MaxPacketSize := Nat.succ_mul _ _
  by_cases ended : driver.setupLen = 0
  · obtain ⟨length, left, memory⟩ := ep0InHandler_of_nothing ended
    have nothing : packetLength endp0MaxPacketSize total (index + 1) = 0 := by
      unfold packetLength
      omega
    refine ⟨length.trans nothing.symm, ⟨?_, fun some => absurd left some⟩, ?_⟩
    · rw [left]
      omega
    · rw [memory, nothing, memcpyBytes_zero]
  · have atNext := answering.pointer ended
    have present : driver.pDescr ≠ 0 := by
      unfold endp0MaxPacketSize at atNext
      omega
    have isLoad : driver.ep0InHandler = driver.loadPacket := if_pos present
    have size : driver.loadPacket.1 = packetLength endp0MaxPacketSize total (index + 1) := by
      rw [loadPacket_length, before, packetLength]
    have left : driver.loadPacket.2.setupLen = total - (index + 1 + 1) * endp0MaxPacketSize := by
      change driver.setupLen - driver.loadPacket.1 = _
      rw [size, before, packetLength]
      omega
    rw [isLoad]
    refine ⟨size, ⟨left, fun some => ?_⟩, ?_⟩
    · rw [left] at some
      change u32 (driver.pDescr + driver.loadPacket.1) = _
      rw [size, atNext, packetLength, u32_of_lt (by omega)]
      omega
    · rw [← size, ← atNext]
      rfl

/-- The next completion has the next packet, copied from the next part of the answer. -/
theorem Sends30.step {index : Nat} (sends : driver.Sends30 head total index) :
    (Usb30Event.step bsp driver .ep0In).Sends30 head total (index + 1) ∧
      (Usb30Event.step bsp driver .ep0In).memory =
        memcpyBytes driver.memory driver.endp0Buffer (head + (index + 1) * endp0MaxPacketSize)
          (packetLength endp0MaxPacketSize total (index + 1)) := by
  have answering : driver.Answering head total index := ⟨sends.left, sends.pointer⟩
  obtain ⟨size, next, copied⟩ := answering.ep0InHandler addressable
  obtain ⟨streaming, length, left, pointer, memory, _⟩ := step_streaming bsp sends.streaming
  refine ⟨⟨streaming, length.trans size, left.trans next.left, fun some => ?_⟩,
    memory.trans copied⟩
  exact pointer.trans (next.pointer fun none => some (left.trans none))

theorem Sends30.afterIn30 (sends : driver.Sends30 head total 0) (completions : Nat) :
    (driver.afterIn30 bsp completions).Sends30 head total completions := by
  induction completions with
  | zero => exact sends
  | succ completions ih => exact (ih.step bsp addressable).1

/-- An answer is loaded to its end. -/
theorem Sends30.within_iff (sends : driver.Sends30 head total 0) {bound : Nat} :
    (∀ packets, driver.received30 bsp packets ≤ bound) ↔ total ≤ bound := by
  have whole : driver.endp0Length + driver.setupLen = total := by
    rw [sends.length, sends.left, packetLength]
    omega
  constructor
  · intro within
    have sum := sends.streaming.received_add bsp total
    have last := (sends.afterIn30 bsp addressable total).left
    have none : total - (total + 1) * endp0MaxPacketSize = 0 := by
      unfold endp0MaxPacketSize
      omega
    rw [last, none, Nat.add_zero, whole] at sum
    exact sum ▸ within (total + 1)
  · intro fits packets
    exact ((sends.streaming.received_le bsp packets).trans_eq whole).trans fits

/-- An answer whose first packet is a copy is sent whole. -/
theorem Sends30.delivers (sends : driver.Sends30 head total 0) {base : Nat → U8}
    (copied : driver.memory = memcpyBytes base driver.endp0Buffer head
      (packetLength endp0MaxPacketSize total 0))
    (apart : head + total ≤ driver.endp0Buffer ∨ driver.endp0Buffer ≤ head) :
    Delivers (fun index => (driver.afterIn30 bsp index).endp0Armed30)
      ((List.range total).map fun offset => base (head + offset)) := by
  have buffer (completions : Nat) :
      (driver.afterIn30 bsp completions).endp0Buffer = driver.endp0Buffer := by
    induction completions with
    | zero => rfl
    | succ completions ih =>
        obtain ⟨_, _, _, _, _, kept⟩ :=
          step_streaming bsp (sends.streaming.afterIn30 bsp completions)
        exact kept.trans ih
  have copies : CopiesPackets (fun index => (driver.afterIn30 bsp index).memory) base
      driver.endp0Buffer head endp0MaxPacketSize total total := by
    refine ⟨copied, fun index _ => ?_, apart⟩
    have next := ((sends.afterIn30 bsp addressable index).step bsp addressable).2
    rw [buffer index] at next
    exact next
  have ready (index : Nat) := (sends.streaming.afterIn30 bsp index).ready
  refine @delivers_of_packets endp0MaxPacketSize U8 _ _ (fun offset => base (head + offset))
    (fun packets _ index _ => ?_) ⟨total, fun index _ => isSome_endp0Armed30 (ready index), ?_⟩
  · have length := (sends.afterIn30 bsp addressable index).length
    refine (if_pos (ready index)).trans (congrArg some ?_)
    rw [length, buffer index]
    refine List.map_congr_left fun offset part => ?_
    have inside := List.mem_range.mp part
    have within : index ≤ total := by
      unfold packetLength endp0MaxPacketSize at inside
      omega
    exact copies.packet_eq within inside
  · unfold endp0MaxPacketSize
    omega

end

end Usb30Driver

end WchCh56x.Usb
