import WchCh56x.Usb.NewSetup
import WchCh56x.Usb.PacketCopies
import WchCh56x.Usb.TransferCtrl

/-!
# The data stage of a control-IN transfer

The handler knows what it has sent from the bytes that are left.  A full packet is
followed by another one, which is empty if nothing is left, and a shorter packet by
the status stage.
-/

namespace WchCh56x.Usb

open Support.Packets

def Usb2Event.endp0In : Usb2Event := .inDone 0 noReply

namespace Usb2Driver

variable (bsp : Usb2Bsp) (driver : Usb2Driver)

def afterIn : Nat → Usb2Driver
  | 0 => driver
  | completions + 1 => Usb2Event.endp0In.step bsp (afterIn completions)

/-- The endpoint takes the OUT packet of the status stage and sends nothing more. -/
def StatusReady : Prop :=
  response (driver.txCtrl 0) = uepResNak ∧ driver.rxCtrl 0 = (uepResAck ||| bsp.rbUepTog1)

instance : Decidable (driver.StatusReady bsp) := inferInstanceAs (Decidable (_ ∧ _))

/-- The SETUP stage has armed the first packet of `endp0RemainingBytes`. -/
structure Started : Prop where
  running : driver.device.state ≠ .powered
  noPassthrough : driver.ep0PassthroughEnabled = false
  isIn : driver.usbSetupReq.IsIn
  transfer : driver.endp0CurrentTransferSize = driver.endp0RemainingBytes
  armed : driver.txCtrl 0 = (uepResAck ||| bsp.rbUepTog1)

/-- A later packet of the data stage is armed. -/
structure Sending (start : Usb2Driver) (completions : Nat) : Prop where
  config : driver.config = start.config
  running : driver.device.state ≠ .powered
  isIn : driver.usbSetupReq.IsIn
  transfer : driver.endp0CurrentTransferSize = start.endp0RemainingBytes
  left : driver.endp0RemainingBytes =
    start.endp0RemainingBytes - completions * start.usb2Endp0MaxPacketSize
  head : u32 driver.descHead =
    u32 (start.descHead + completions * start.usb2Endp0MaxPacketSize)
  rtDma : driver.dma .uep0Rt = start.dma .uep0Rt
  acks : response (driver.txCtrl 0) = uepResAck
  alternates : toggle bsp (driver.txCtrl 0) = !completions.bodd

/-! ## One completion -/

/-- The driver that has counted a packet and copied the next one. -/
def nextPacket : Usb2Driver :=
  let size := driver.usb2Endp0MaxPacketSize
  let head := u32 (driver.descHead + size)
  let left := driver.endp0RemainingBytes - size
  { driver with
    endp0RemainingBytes := left
    descHead := head
    memory := memcpyBytes driver.memory driver.endp0Buffer head (min left size) }

theorem response_ackTog1 : response (uepResAck ||| bsp.rbUepTog1) = uepResAck := by
  have isFlip : uepResAck ||| bsp.rbUepTog1 = uepResAck ^^^ bsp.rbUepTog1 := by
    rw [uepResAck, BitVec.zero_or, BitVec.zero_xor]
  rw [isFlip, response_xor_tog]
  rfl

theorem toggle_ackTog1 : toggle bsp (uepResAck ||| bsp.rbUepTog1) = true := by
  have isFlip : uepResAck ||| bsp.rbUepTog1 = uepResAck ^^^ bsp.rbUepTog1 := by
    rw [uepResAck, BitVec.zero_or, BitVec.zero_xor]
  rw [isFlip, toggle_xor_tog, toggle, uepResAck, BitVec.getLsbD_zero]
  rfl

variable {driver}

/-- A full packet is followed by another one. -/
theorem ep0DataInHandler_of_full (positive : 0 < driver.usb2Endp0MaxPacketSize)
    (full : driver.usb2Endp0MaxPacketSize ≤ driver.endp0RemainingBytes)
    (whole : driver.endp0RemainingBytes = driver.usb2Endp0MaxPacketSize →
      driver.endp0CurrentTransferSize % driver.usb2Endp0MaxPacketSize = 0) :
    driver.ep0DataInHandler bsp =
      ((driver.nextPacket.setTLen 0 (min (driver.endp0RemainingBytes -
        driver.usb2Endp0MaxPacketSize) driver.usb2Endp0MaxPacketSize)).setTxCtrl 0
          (ctrlWith bsp (driver.txCtrl 0) true uepResAck)).setRxCtrl 0 (driver.rxCtrl 0) := by
  have sent : driver.usb2Ep0NextDataPacketSize = driver.usb2Endp0MaxPacketSize :=
    Nat.min_eq_right full
  have ctrl : setResponse (driver.txCtrl 0) uepResAck ^^^ bsp.rbUepTog1 =
      ctrlWith bsp (driver.txCtrl 0) true uepResAck := setResponse_xor_tog bsp _ (.inl rfl)
  unfold ep0DataInHandler
  dsimp only
  rw [sent, ctrl]
  split
  · next nothing =>
      have isWhole := le_antisymm (Nat.sub_eq_zero_iff_le.mp nothing) full
      rw [if_pos ⟨whole isWhole, positive.ne'⟩]
      unfold nextPacket
      dsimp only
      rw [nothing, Nat.zero_min, memcpyBytes_zero]
  · rfl

/-- A shorter packet is followed by the status stage. -/
theorem ep0DataInHandler_of_short
    (short : driver.endp0RemainingBytes < driver.usb2Endp0MaxPacketSize)
    (rest : driver.endp0RemainingBytes ≠ 0 →
      driver.endp0CurrentTransferSize % driver.usb2Endp0MaxPacketSize ≠ 0) :
    driver.ep0DataInHandler bsp =
      ({ driver with endp0RemainingBytes := 0, descHead := 0 }.setTxCtrl 0
        (setResponse (driver.txCtrl 0) uepResNak)).setRxCtrl 0 (uepResAck ||| bsp.rbUepTog1) := by
  have sent : driver.usb2Ep0NextDataPacketSize = driver.endp0RemainingBytes :=
    Nat.min_eq_left short.le
  have notWhole : ¬(driver.endp0CurrentTransferSize % driver.usb2Endp0MaxPacketSize = 0 ∧
      driver.endp0RemainingBytes ≠ 0) := fun both => rest both.2 both.1
  unfold ep0DataInHandler
  dsimp only
  rw [sent, Nat.sub_self, if_pos rfl, if_neg notWhole]

def sentFull (driver : Usb2Driver) : Usb2Driver :=
  (((driver.nextPacket.setTLen 0 (min (driver.endp0RemainingBytes -
    driver.usb2Endp0MaxPacketSize) driver.usb2Endp0MaxPacketSize)).setTxCtrl 0
      (ctrlWith bsp (driver.txCtrl 0) true uepResAck)).setRxCtrl 0 (driver.rxCtrl 0)).clearFlags

theorem txCtrl_sentFull :
    (driver.sentFull bsp).txCtrl 0 = ctrlWith bsp (driver.txCtrl 0) true uepResAck :=
  @Function.update_self (Fin 8) (fun _ => U8) _ 0 _ driver.txCtrl

theorem tLen_sentFull :
    (driver.sentFull bsp).tLen 0 =
      min (driver.endp0RemainingBytes - driver.usb2Endp0MaxPacketSize)
        driver.usb2Endp0MaxPacketSize :=
  @Function.update_self (Fin 8) (fun _ => Nat) _ 0 _ driver.tLen

theorem step_endp0In (running : driver.device.state ≠ .powered)
    (noPassthrough : driver.ep0PassthroughEnabled = false) (isIn : driver.usbSetupReq.IsIn) :
    Usb2Event.endp0In.step bsp driver = (driver.transferPending.ep0DataInHandler bsp).clearFlags := by
  have control : ¬((0 : Fin 16) ≠ 0 ∨ driver.ep0PassthroughEnabled = true) := by
    rw [noPassthrough]
    decide
  have read : driver.transferPending.usbSetupReq.IsIn := isIn
  have entered := step_inDone bsp running 0 noReply
  rw [if_neg control, usb2Ep0InHandler, if_pos read] at entered
  exact entered

/-! ## The completions of a data stage -/

section

variable {start : Usb2Driver} {completions : Nat}

theorem Started.sending (started : driver.Started bsp) : driver.Sending bsp driver 0 where
  config := rfl
  running := started.running
  isIn := started.isIn
  transfer := started.transfer
  left := by rw [Nat.zero_mul, Nat.sub_zero]
  head := by rw [Nat.zero_mul, Nat.add_zero]
  rtDma := rfl
  acks := by
    rw [started.armed]
    exact response_ackTog1 bsp
  alternates := by
    rw [started.armed]
    exact toggle_ackTog1 bsp

theorem Sending.sentFull (sending : driver.Sending bsp start completions) :
    (driver.sentFull bsp).Sending bsp start (completions + 1) where
  config := sending.config
  running := sending.running
  isIn := sending.isIn
  transfer := sending.transfer
  left := by
    have size : driver.usb2Endp0MaxPacketSize = start.usb2Endp0MaxPacketSize :=
      congrArg Config.usb2Endp0MaxPacketSize sending.config
    change driver.endp0RemainingBytes - driver.usb2Endp0MaxPacketSize = _
    rw [sending.left, size, Nat.sub_sub, Nat.succ_mul]
  head := by
    have size : driver.usb2Endp0MaxPacketSize = start.usb2Endp0MaxPacketSize :=
      congrArg Config.usb2Endp0MaxPacketSize sending.config
    have head := sending.head
    change u32 (u32 (driver.descHead + driver.usb2Endp0MaxPacketSize)) = _
    rw [size, Nat.succ_mul]
    unfold u32 at head ⊢
    omega
  rtDma := sending.rtDma
  acks := by
    rw [txCtrl_sentFull]
    exact response_ctrlWith bsp _ true (.inl rfl)
  alternates := by
    have valid : EndpState uepResAck := .inl rfl
    rw [txCtrl_sentFull, toggle_ctrlWith bsp _ true valid, sending.alternates, Nat.bodd_succ,
      Bool.xor_true]

variable (sending : driver.Sending bsp start completions)
  (noPassthrough : start.ep0PassthroughEnabled = false)
  (positive : 0 < start.usb2Endp0MaxPacketSize)
include sending noPassthrough positive

theorem Sending.step_of_full
    (full : (completions + 1) * start.usb2Endp0MaxPacketSize ≤ start.endp0RemainingBytes) :
    Usb2Event.endp0In.step bsp driver = driver.sentFull bsp := by
  have passthrough := (congrArg Config.ep0PassthroughEnabled sending.config).trans noPassthrough
  have size : driver.usb2Endp0MaxPacketSize = start.usb2Endp0MaxPacketSize :=
    congrArg Config.usb2Endp0MaxPacketSize sending.config
  have left := sending.left
  rw [Nat.succ_mul] at full
  rw [step_endp0In bsp sending.running passthrough sending.isIn]
  refine (congrArg clearFlags
    (@ep0DataInHandler_of_full bsp driver.transferPending ?_ ?_ ?_)).trans rfl
  · exact positive.trans_eq size.symm
  · change driver.usb2Endp0MaxPacketSize ≤ driver.endp0RemainingBytes
    omega
  · intro isLast
    have last : driver.endp0RemainingBytes = driver.usb2Endp0MaxPacketSize := isLast
    have whole : start.endp0RemainingBytes =
        (completions + 1) * start.usb2Endp0MaxPacketSize := by
      rw [Nat.succ_mul]
      omega
    change driver.endp0CurrentTransferSize % driver.usb2Endp0MaxPacketSize = 0
    rw [sending.transfer, size, whole, Nat.mul_mod_left]

/-- The completion of the short packet. -/
theorem Sending.step_of_short
    (short : completions = start.endp0RemainingBytes / start.usb2Endp0MaxPacketSize) :
    (Usb2Event.endp0In.step bsp driver).StatusReady bsp := by
  have passthrough := (congrArg Config.ep0PassthroughEnabled sending.config).trans noPassthrough
  have size : driver.usb2Endp0MaxPacketSize = start.usb2Endp0MaxPacketSize :=
    congrArg Config.usb2Endp0MaxPacketSize sending.config
  have division := Nat.div_add_mod' start.endp0RemainingBytes start.usb2Endp0MaxPacketSize
  have rest := Nat.mod_lt start.endp0RemainingBytes positive
  have left : driver.endp0RemainingBytes =
      start.endp0RemainingBytes % start.usb2Endp0MaxPacketSize := by
    rw [sending.left, short]
    omega
  rw [step_endp0In bsp sending.running passthrough sending.isIn,
    @ep0DataInHandler_of_short bsp driver.transferPending
      (left.trans_lt (rest.trans_eq size.symm)) fun notNone whole => notNone (left.trans ?_)]
  · constructor
    · have ctrl := @Function.update_self (Fin 8) (fun _ => U8) _ 0
        (setResponse (driver.txCtrl 0) uepResNak) driver.txCtrl
      exact (congrArg response ctrl).trans (response_setResponse _ (.inr (.inl rfl)))
    · exact @Function.update_self (Fin 8) (fun _ => U8) _ 0 _ driver.rxCtrl
  · have isWhole : driver.endp0CurrentTransferSize % driver.usb2Endp0MaxPacketSize = 0 := whole
    rw [← sending.transfer, ← size]
    exact isWhole

end

/-! ## The packets of a data stage -/

variable (driver) in
/-- The endpoint sends the next packets as the host asks for them. -/
def Takes (packets : Nat) : Prop :=
  ∀ index < packets, response ((driver.afterIn bsp index).txCtrl 0) = uepResAck

instance (packets : Nat) : Decidable (driver.Takes bsp packets) :=
  inferInstanceAs (Decidable (∀ index < packets, _))

variable (driver) in
def received (packets : Nat) : Nat :=
  ((List.range packets).map fun index => (driver.afterIn bsp index).tLen 0).sum

theorem received_succ (packets : Nat) :
    driver.received bsp (packets + 1) =
      driver.received bsp packets + (driver.afterIn bsp packets).tLen 0 :=
  List.sum_range_succ _ packets

section

variable (started : driver.Started bsp) (positive : 0 < driver.usb2Endp0MaxPacketSize)
include started positive

theorem Started.sending_afterIn {completions : Nat}
    (within : completions ≤ driver.endp0RemainingBytes / driver.usb2Endp0MaxPacketSize) :
    (driver.afterIn bsp completions).Sending bsp driver completions := by
  induction completions with
  | zero => exact started.sending
  | succ completions ih =>
      have sending := ih (Nat.le_of_succ_le within)
      have full := (Nat.le_div_iff_mul_le positive).mp within
      rw [afterIn, sending.step_of_full bsp started.noPassthrough positive full]
      exact sending.sentFull

theorem Started.afterIn_succ {completions : Nat}
    (within : completions < driver.endp0RemainingBytes / driver.usb2Endp0MaxPacketSize) :
    driver.afterIn bsp (completions + 1) = (driver.afterIn bsp completions).sentFull bsp := by
  have sending := started.sending_afterIn bsp positive within.le
  have full := (Nat.le_div_iff_mul_le positive).mp within
  exact sending.step_of_full bsp started.noPassthrough positive full

/-- Every packet after the first one has its part of the bytes. -/
theorem Started.tLen_afterIn {completions : Nat}
    (within : completions < driver.endp0RemainingBytes / driver.usb2Endp0MaxPacketSize) :
    (driver.afterIn bsp (completions + 1)).tLen 0 =
      packetLength driver.usb2Endp0MaxPacketSize driver.endp0RemainingBytes (completions + 1) := by
  have sending := started.sending_afterIn bsp positive within.le
  have size : (driver.afterIn bsp completions).usb2Endp0MaxPacketSize =
      driver.usb2Endp0MaxPacketSize := congrArg Config.usb2Endp0MaxPacketSize sending.config
  rw [started.afterIn_succ bsp positive within, tLen_sentFull, sending.left, size, Nat.sub_sub,
    packetLength, Nat.succ_mul, Nat.min_comm]

/-- A later packet is copied from its part of the bytes. -/
theorem Started.copied_afterIn {completions : Nat}
    (within : completions < driver.endp0RemainingBytes / driver.usb2Endp0MaxPacketSize)
    (addressable : driver.descHead + driver.endp0RemainingBytes ≤ 2 ^ 32) :
    (driver.afterIn bsp (completions + 1)).memory =
      memcpyBytes (driver.afterIn bsp completions).memory driver.endp0Buffer
        (driver.descHead + (completions + 1) * driver.usb2Endp0MaxPacketSize)
        (packetLength driver.usb2Endp0MaxPacketSize driver.endp0RemainingBytes
          (completions + 1)) := by
  have sending := started.sending_afterIn bsp positive within.le
  have fits : (completions + 1) * driver.usb2Endp0MaxPacketSize ≤ driver.endp0RemainingBytes :=
    (Nat.le_div_iff_mul_le positive).mp within
  have size : (driver.afterIn bsp completions).usb2Endp0MaxPacketSize =
      driver.usb2Endp0MaxPacketSize := congrArg Config.usb2Endp0MaxPacketSize sending.config
  have buffer : (driver.afterIn bsp completions).endp0Buffer = driver.endp0Buffer :=
    congrArg (fun config : Config => config.rxBuffer 0) sending.config
  have head : u32 ((driver.afterIn bsp completions).descHead + driver.usb2Endp0MaxPacketSize) =
      u32 (driver.descHead + (completions + 1) * driver.usb2Endp0MaxPacketSize) := by
    have moved := sending.head
    rw [Nat.succ_mul]
    unfold u32 at moved ⊢
    omega
  have copies : (driver.afterIn bsp (completions + 1)).memory =
      memcpyBytes (driver.afterIn bsp completions).memory
        (driver.afterIn bsp completions).endp0Buffer
        (u32 ((driver.afterIn bsp completions).descHead +
          (driver.afterIn bsp completions).usb2Endp0MaxPacketSize))
        (min ((driver.afterIn bsp completions).endp0RemainingBytes -
          (driver.afterIn bsp completions).usb2Endp0MaxPacketSize)
            (driver.afterIn bsp completions).usb2Endp0MaxPacketSize) := by
    rw [started.afterIn_succ bsp positive within]
    rfl
  rw [buffer, size, head, sending.left, Nat.sub_sub, ← Nat.succ_mul, Nat.min_comm] at copies
  have part : packetLength driver.usb2Endp0MaxPacketSize driver.endp0RemainingBytes
      (completions + 1) ≤ driver.endp0RemainingBytes -
        (completions + 1) * driver.usb2Endp0MaxPacketSize := Nat.min_le_right _ _
  refine copies.trans (memcpyBytes_u32 _ _ _ ?_)
  change driver.descHead + (completions + 1) * driver.usb2Endp0MaxPacketSize +
    packetLength driver.usb2Endp0MaxPacketSize driver.endp0RemainingBytes (completions + 1) ≤ _
  omega

theorem Started.statusReady_afterIn :
    (driver.afterIn bsp (driver.endp0RemainingBytes / driver.usb2Endp0MaxPacketSize +
      1)).StatusReady bsp :=
  (started.sending_afterIn bsp positive le_rfl).step_of_short bsp started.noPassthrough positive rfl

/-- The data stage has the full packets and one that is not full. -/
theorem Started.takes_iff {packets : Nat} :
    driver.Takes bsp packets ↔
      packets ≤ driver.endp0RemainingBytes / driver.usb2Endp0MaxPacketSize + 1 := by
  constructor
  · intro takes
    apply Nat.le_of_not_lt
    intro more
    have acks := takes _ more
    rw [(started.statusReady_afterIn bsp positive).1] at acks
    exact absurd acks (by decide)
  · intro within index inside
    exact (started.sending_afterIn bsp positive (by omega)).acks

/-- The bytes of the stage, but for what the first packet leaves out. -/
theorem Started.received_add {packets : Nat}
    (within : packets ≤ driver.endp0RemainingBytes / driver.usb2Endp0MaxPacketSize) :
    driver.received bsp (packets + 1) +
        min driver.usb2Endp0MaxPacketSize driver.endp0RemainingBytes =
      driver.tLen 0 + min driver.endp0RemainingBytes ((packets + 1) * driver.usb2Endp0MaxPacketSize) := by
  induction packets with
  | zero =>
      have first : driver.received bsp 1 = 0 + driver.tLen 0 := @received_succ bsp driver 0
      rw [first, Nat.zero_add, Nat.zero_add, Nat.one_mul, Nat.min_comm]
  | succ packets ih =>
      have before := ih (Nat.le_of_succ_le within)
      have next := started.tLen_afterIn bsp positive within
      rw [packetLength] at next
      rw [received_succ, next, Nat.succ_mul (packets + 1)]
      omega

section

variable (whole : driver.tLen 0 = min driver.endp0RemainingBytes driver.usb2Endp0MaxPacketSize)
include whole

theorem Started.packetLength_afterIn {index : Nat}
    (within : index ≤ driver.endp0RemainingBytes / driver.usb2Endp0MaxPacketSize) :
    (driver.afterIn bsp index).tLen 0 =
      packetLength driver.usb2Endp0MaxPacketSize driver.endp0RemainingBytes index := by
  cases index with
  | zero =>
      rw [packetLength, Nat.zero_mul, Nat.sub_zero, Nat.min_comm]
      exact whole
  | succ index => exact started.tLen_afterIn bsp positive within

/-- A data stage that starts with all its bytes. -/
theorem Started.received_eq {packets : Nat}
    (within : packets ≤ driver.endp0RemainingBytes / driver.usb2Endp0MaxPacketSize) :
    driver.received bsp (packets + 1) =
      min driver.endp0RemainingBytes ((packets + 1) * driver.usb2Endp0MaxPacketSize) := by
  have sum := started.received_add bsp positive within
  omega

end

end

end Usb2Driver

end WchCh56x.Usb
