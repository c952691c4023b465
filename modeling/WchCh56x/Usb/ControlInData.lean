import WchCh56x.Usb.ControlInSetup

/-!
# The bytes of a control-IN transfer

Each packet is copied to the buffer of endpoint 0 from the next part of the answer.
A copy reaches only bytes of the answer that have been sent, so that the packets
together are the answer.
-/

namespace WchCh56x.Usb

namespace Usb2Driver

variable (bsp : Usb2Bsp) (driver : Usb2Driver)

def endp0Packet : List U8 :=
  (List.range (driver.tLen 0)).map fun offset => driver.memory (driver.endp0Buffer + offset)

/-- What the endpoint sends, where its address register is at the buffer. -/
theorem armedPacket_of_buffer (acks : response (driver.txCtrl 0) = uepResAck)
    (atBuffer : driver.ReadsWhereWritten) : driver.armedPacket = some driver.endp0Packet := by
  unfold armedPacket endp0Packet
  rw [if_pos acks, atBuffer]

end Usb2Driver

namespace ControlInData

open Usb2Driver Support.Packets

variable (bsp : Usb2Bsp)

/-- A control-IN transfer whose SETUP stage finds `total` bytes at `head`. -/
structure Answer (driver : Usb2Driver) where
  packet : UsbSetup
  reply : UserReply
  head : Nat
  total : Nat
  running : driver.device.state ≠ .powered
  noPassthrough : driver.ep0PassthroughEnabled = false
  isIn : packet.IsIn
  positive : 0 < driver.usb2Endp0MaxPacketSize
  loads : (driver.setupRead packet).requestData reply = some (head, total)
  notEmpty : 0 < total
  notStall : total < 65535
  /-- The answer is an object in the address space. -/
  addressable : head + total ≤ 2 ^ 32

namespace Answer

variable {driver : Usb2Driver} (answer : Answer driver)

def base : Usb2Driver := (driver.setupRead answer.packet).requestBase bsp answer.reply

def start : Usb2Driver := Usb2Event.step bsp driver (.setup answer.packet answer.reply)

/-- The driver when a packet has been armed, after as many completions. -/
def armed (index : Nat) : Usb2Driver := (answer.start bsp).afterIn bsp index

def source : Nat → Usb2Driver
  | 0 => answer.base bsp
  | index + 1 => answer.armed bsp index

def last : Nat := answer.total / driver.usb2Endp0MaxPacketSize

def bytes : List U8 :=
  (List.range answer.total).map fun offset => (answer.base bsp).memory (answer.head + offset)

/-- The answer lies apart from the buffer of endpoint 0, or its packets only move down to it. -/
def Apart : Prop :=
  answer.head + answer.total ≤ driver.endp0Buffer ∨ driver.endp0Buffer ≤ answer.head

/-- One packet is armed with its part of the answer. -/
structure SendsPacket (index : Nat) : Prop where
  length : (answer.armed bsp index).tLen 0 =
    if index < answer.last then
      driver.usb2Endp0MaxPacketSize
    else
      answer.total % driver.usb2Endp0MaxPacketSize
  acks : response ((answer.armed bsp index).txCtrl 0) = uepResAck
  alternates : toggle bsp ((answer.armed bsp index).txCtrl 0) = !index.bodd
  /-- The copy stays inside the answer. -/
  within : index * driver.usb2Endp0MaxPacketSize + (answer.armed bsp index).tLen 0 ≤
    answer.total
  copied : (answer.armed bsp index).memory =
    memcpyBytes (answer.source bsp index).memory driver.endp0Buffer
      (answer.head + index * driver.usb2Endp0MaxPacketSize) ((answer.armed bsp index).tLen 0)
  buffer : (answer.armed bsp index).endp0Buffer = driver.endp0Buffer
  /-- The endpoint sends the copy, where its address register is at the buffer. -/
  sent : driver.ReadsWhereWritten →
    (answer.armed bsp index).armedPacket = some (answer.armed bsp index).endp0Packet

/-- The transfer sends the answer, and then the status stage is ready. -/
structure SendsAnswer : Prop where
  head : (answer.start bsp).descHead = answer.head
  total : (answer.start bsp).endp0RemainingBytes = answer.total
  packets : ∀ index ≤ answer.last, answer.SendsPacket bsp index
  inOrder : answer.Apart →
    ((List.range (answer.last + 1)).map fun index => (answer.armed bsp index).endp0Packet).flatten =
      answer.bytes bsp
  statusReady : (answer.armed bsp (answer.last + 1)).StatusReady bsp

/-! ## The first packet -/

variable {answer}

variable (answer) in
theorem accepted : ¬(driver.setupRead answer.packet).Stalls answer.reply := by
  have data := answer.loads
  rintro (refuses | longest)
  · exact not_refuses_of_data data refuses
  · unfold firstLength at longest
    rw [data] at longest
    have fits := answer.notStall
    have inside : min answer.total (driver.setupRead answer.packet).usb2Endp0MaxPacketSize =
        0xffff := longest
    omega

variable (answer) in
theorem started : (answer.start bsp).Started bsp ∧
    (answer.start bsp).tLen 0 = min answer.total driver.usb2Endp0MaxPacketSize ∧
    (answer.start bsp).endp0RemainingBytes = answer.total := by
  have setup := setup_started bsp answer.reply answer.running answer.noPassthrough answer.isIn
    answer.accepted
  unfold firstLength bytesLeft at setup
  rw [answer.loads] at setup
  exact setup

theorem size_start : (answer.start bsp).usb2Endp0MaxPacketSize = driver.usb2Endp0MaxPacketSize :=
  congrArg Config.usb2Endp0MaxPacketSize
    (config_step bsp driver (.setup answer.packet answer.reply))

theorem buffer_start : (answer.start bsp).endp0Buffer = driver.endp0Buffer :=
  congrArg (fun config : Config => config.rxBuffer 0)
    (config_step bsp driver (.setup answer.packet answer.reply))

variable (answer) in
/-- The SETUP stage copies the first packet. -/
theorem start_eq : (answer.start bsp).descHead = answer.head ∧
    (answer.start bsp).memory = memcpyBytes (answer.base bsp).memory driver.endp0Buffer
      answer.head (min answer.total driver.usb2Endp0MaxPacketSize) ∧
    (answer.start bsp).dma .uep0Rt = driver.dma .uep0Rt :=
  setup_copies bsp answer.reply answer.running answer.noPassthrough answer.isIn answer.accepted
    answer.loads

/-! ## The packets after it -/

variable {index : Nat} (within : index ≤ answer.last)
include within

theorem sending : (answer.armed bsp index).Sending bsp (answer.start bsp) index := by
  obtain ⟨started, _, left⟩ := answer.started bsp
  have size := answer.size_start bsp
  refine started.sending_afterIn bsp (answer.positive.trans_eq size.symm) ?_
  rw [left, size]
  exact within

theorem length_armed : (answer.armed bsp index).tLen 0 =
    packetLength driver.usb2Endp0MaxPacketSize answer.total index := by
  obtain ⟨started, first, left⟩ := answer.started bsp
  have size := answer.size_start bsp
  have inStart : index ≤ (answer.start bsp).endp0RemainingBytes /
      (answer.start bsp).usb2Endp0MaxPacketSize := by
    rw [left, size]
    exact within
  have length := started.packetLength_afterIn bsp (answer.positive.trans_eq size.symm)
    (by rw [first, left, size]) inStart
  rw [left, size] at length
  exact length

theorem buffer_armed : (answer.armed bsp index).endp0Buffer = driver.endp0Buffer :=
  (congrArg (fun config : Config => config.rxBuffer 0) (answer.sending bsp within).config).trans
    (answer.buffer_start bsp)

/-- The next packet is copied from the next part of the answer. -/
theorem copied_armed : (answer.armed bsp index).memory =
    memcpyBytes (answer.source bsp index).memory driver.endp0Buffer
      (answer.head + index * driver.usb2Endp0MaxPacketSize)
      (packetLength driver.usb2Endp0MaxPacketSize answer.total index) := by
  cases index with
  | zero =>
      rw [Nat.zero_mul, Nat.add_zero, packetLength, Nat.zero_mul, Nat.sub_zero, Nat.min_comm]
      exact (answer.start_eq bsp).2.1
  | succ index =>
      obtain ⟨started, _, left⟩ := answer.started bsp
      obtain ⟨head, _⟩ := answer.start_eq bsp
      have size := answer.size_start bsp
      have next : index < (answer.start bsp).endp0RemainingBytes /
          (answer.start bsp).usb2Endp0MaxPacketSize := by
        rw [left, size]
        exact within
      have addressable : (answer.start bsp).descHead + (answer.start bsp).endp0RemainingBytes ≤
          2 ^ 32 := by
        rw [head, left]
        exact answer.addressable
      have copied := started.copied_afterIn bsp (answer.positive.trans_eq size.symm) next addressable
      rw [answer.buffer_start bsp, head, left, size] at copied
      exact copied

theorem sendsPacket : answer.SendsPacket bsp index := by
  have length := answer.length_armed bsp within
  have sending := answer.sending bsp within
  have division := Nat.div_add_mod' answer.total driver.usb2Endp0MaxPacketSize
  have fits := (Nat.le_div_iff_mul_le answer.positive).mp within
  refine ⟨?_, sending.acks, sending.alternates, ?_, ?_, answer.buffer_armed bsp within, ?_⟩
  · rw [length, packetLength]
    split
    · next isFull =>
        have full := (Nat.le_div_iff_mul_le answer.positive).mp isFull
        rw [Nat.succ_mul] at full
        omega
    · next notFull =>
        have isLast := le_antisymm within (Nat.le_of_not_lt notFull)
        have short := Nat.mod_lt answer.total answer.positive
        unfold last at isLast
        rw [isLast]
        omega
  · rw [length, packetLength]
    omega
  · rw [length]
    exact answer.copied_armed bsp within
  · intro atBuffer
    have rtDma := sending.rtDma.trans (answer.start_eq bsp).2.2
    have buffer := answer.buffer_armed bsp within
    exact (answer.armed bsp index).armedPacket_of_buffer sending.acks
      ((rtDma.trans atBuffer).trans buffer.symm)

omit within

/-! ## The answer -/

section

variable (apart : answer.Apart)
include apart

theorem copies : CopiesPackets (fun index => (answer.armed bsp index).memory)
    (answer.base bsp).memory driver.endp0Buffer answer.head driver.usb2Endp0MaxPacketSize
      answer.total answer.last where
  first := by
    have first := answer.copied_armed bsp (Nat.zero_le _)
    rw [Nat.zero_mul, Nat.add_zero] at first
    exact first
  next index before := @copied_armed bsp driver answer (index + 1) before
  apart := apart

theorem endp0Packet_armed {index : Nat} (within : index ≤ answer.last) :
    (answer.armed bsp index).endp0Packet =
      (List.range (packetLength driver.usb2Endp0MaxPacketSize answer.total index)).map
        fun offset => (answer.base bsp).memory
          (answer.head + (index * driver.usb2Endp0MaxPacketSize + offset)) := by
  unfold endp0Packet
  rw [answer.length_armed bsp within, answer.buffer_armed bsp within]
  exact List.map_congr_left fun offset inside =>
    (answer.copies bsp apart).packet_eq within (List.mem_range.mp inside)

theorem packets_flatten :
    ((List.range (answer.last + 1)).map fun index => (answer.armed bsp index).endp0Packet).flatten =
      answer.bytes bsp := by
  have packets : ((List.range (answer.last + 1)).map fun index =>
      (answer.armed bsp index).endp0Packet) =
        (List.range (answer.last + 1)).map fun index =>
          (List.range (packetLength driver.usb2Endp0MaxPacketSize answer.total index)).map
            fun offset => (answer.base bsp).memory
              (answer.head + (index * driver.usb2Endp0MaxPacketSize + offset)) :=
    List.map_congr_left fun index inside =>
      answer.endp0Packet_armed bsp apart (Nat.le_of_lt_succ (List.mem_range.mp inside))
  have all : answer.total ≤ (answer.last + 1) * driver.usb2Endp0MaxPacketSize := by
    have division := Nat.div_add_mod' answer.total driver.usb2Endp0MaxPacketSize
    have short := Nat.mod_lt answer.total answer.positive
    unfold last
    rw [Nat.succ_mul]
    omega
  rw [packets, flatten_packets driver.usb2Endp0MaxPacketSize answer.total
    (fun offset => (answer.base bsp).memory (answer.head + offset)), Nat.min_eq_left all]
  rfl

end

end Answer

open ControlIn NewSetup in
def deviceDescriptor : Answer lowSpeedDriver where
  packet := getDeviceDescriptor 64#16
  reply := noReply
  head := 0x20021000
  total := 18
  running := by decide
  noPassthrough := rfl
  isIn := by decide
  positive := by decide
  loads := by decide
  notEmpty := by decide
  notStall := by decide
  addressable := by decide

end ControlInData

end WchCh56x.Usb
