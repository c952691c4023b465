import WchCh56x.Hspi.DoubleBuffer
import WchCh56x.Hspi.Leaks
import WchCh56x.Serdes.Driver
import WchCh56x.Support.BitFields

/-!
# Packet headers between two boards

A packet carries its size and a custom value in one word, the user-defined register of the HSPI
or the custom word of the SerDes.  Each driver packs and unpacks the word with its own masks.
-/

namespace WchCh56x.Hspi.PacketHeaders

open Support.BitFields
open Memory Serdes

/-- What the sender puts into the word and the receiver's callback gets. -/
structure Header where
  size : U16
  customRegister : U16
  deriving DecidableEq, Repr

/-! ## Senders -/

/-- The value that `hspi_send` and `_hspi_send` write to the user-defined register. -/
def hspiUdf (size customRegister : U16) : U32 :=
  ((size.setWidth 32 &&& hspiSerdesTxSizeMask) |||
    ((customRegister.setWidth 32 <<< 13) &&& ~~~hspiSerdesTxSizeMask)) &&& hspiUserDefinedMask

abbrev TxAddr := DoubleBuffer.CurrentDmaBuffer → Nat

/-- `hspi_send` of `hspi/hspi.c` up to `HSPI_DMA_Tx`; it has no third buffer to fail on. -/
def hspiSend (driver : DoubleBuffer.HspiDriver) (txAddr : TxAddr) (buffer : Nat)
    (size customRegister : U16) : Bool × DoubleBuffer.HspiDriver × TxAddr :=
  match driver.currentDmaBuffer with
  | .hspiDmaBuffer0 =>
      (true, { driver with
          udf := Function.update driver.udf .hspiDmaBuffer0 (hspiUdf size customRegister) },
        Function.update txAddr .hspiDmaBuffer0 buffer)
  | .hspiDmaBuffer1 =>
      (true, { driver with
          udf := Function.update driver.udf .hspiDmaBuffer1 (hspiUdf size customRegister) },
        Function.update txAddr .hspiDmaBuffer1 buffer)

inductive Transport where
  | hspi | hspiScheduled | serdes
  deriving DecidableEq, Repr

/-- The custom values that the transport's header allows. -/
def Transport.Documents (customRegister : U16) : Transport → Prop
  | hspi => customRegister.toNat < 2 ^ 13
  -- 26 bits are promised, and the parameter has 16
  | hspiScheduled => True
  | serdes => customRegister.toNat < 2 ^ 15

def Transport.Linked : Transport → Transport → Prop
  | serdes, other => other = serdes
  | hspi, other | hspiScheduled, other => other ≠ serdes

inductive Sender where
  | hspi (driver : DoubleBuffer.HspiDriver) (txAddr : TxAddr)
  | hspiScheduled (scheduled : HspiScheduled) (txToggle : Bool) (data : Nat) (nonNull : data ≠ 0)
  | serdes (driver : SerdesDriver)

namespace Sender

def transport : Sender → Transport
  | hspi _ _ => .hspi
  | hspiScheduled _ _ _ _ => .hspiScheduled
  | serdes _ => .serdes

def programs (buffer : Nat) (header : Header) : Sender → U32
  | hspi driver txAddr =>
      (hspiSend driver txAddr buffer header.size header.customRegister).2.1.udf
        driver.currentDmaBuffer
  | hspiScheduled scheduled txToggle data _ =>
      let args : HspiArgs := ⟨buffer, header.size.toNat, header.customRegister.toNat⟩
      let after := hspiSendTask { scheduled with args := Function.update scheduled.args data args }
        txToggle data
      if txToggle then after.udf1 else after.udf0
  | serdes driver => (serdesSend driver buffer header.size header.customRegister).custom

end Sender

/-! ## Receivers -/

/-- A board with the scheduled driver that has room for a packet. -/
structure ScheduledReceiver where
  config : HspiConfig
  hspi : HspiScheduled
  rxToggle : Bool
  otherUdf : U32
  hspiTaskArgs : Nat
  got : ∃ hspiArgPool, hydraPoolGet hspi.hspiArgPool = some (hspiTaskArgs, hspiArgPool)
  nonNull : hspiTaskArgs ≠ 0
  allocated : ∃ newBuffer ramxPool,
    ramxPoolAllocBytes config.ramx hspi.ramxPool hspi.hspiPacketSize = some (newBuffer, ramxPool)

/-- The registers with a packet's word in the one that its toggle selects. -/
def ScheduledReceiver.interrupt (receiver : ScheduledReceiver) (word : U32) : HspiInterrupt where
  rDone := true
  crcOrNumError := false
  rxToggle := receiver.rxToggle
  udf0 := if receiver.rxToggle then word else receiver.otherUdf
  udf1 := if receiver.rxToggle then receiver.otherUdf else word

inductive Receiver where
  | hspi (buffers : DoubleBuffer.RxBuffers) (driver : DoubleBuffer.HspiDriver)
  | hspiScheduled (receiver : ScheduledReceiver)
  | serdes (driver : SerdesDriver) (sds : SdsRegisters)

namespace Receiver

def transport : Receiver → Transport
  | hspi _ _ => .hspi
  | hspiScheduled _ => .hspiScheduled
  | serdes _ _ => .serdes

/-- The size and the custom value that the receive callback gets for the word. -/
def delivers (word : U32) : Receiver → Option Header
  | hspi buffers driver =>
      match (DoubleBuffer.hspiIrqHandler buffers
        { driver with udf := Function.update driver.udf driver.currentDmaBuffer word }
        DoubleBuffer.Board.goodFlags).2 with
      | some (.hspiRxCallback _ size customRegister) => some ⟨size, customRegister⟩
      | _ => none
  | hspiScheduled receiver => do
      let after ← hspiIrqHandler receiver.config receiver.hspi (receiver.interrupt word)
      -- _hspi_rx_callback
      let args := after.args receiver.hspiTaskArgs
      return ⟨BitVec.ofNat 16 args.size, BitVec.ofNat 16 args.customRegister⟩
  | serdes driver sds => do
      let call ← (match driver.currentRxDma with
        | .rxDma0 => serdesIrqHandler driver { sds with rxInt := true, data0 := word }
        | .rxDma1 => serdesIrqHandler driver { sds with rxInt := true, data1 := word }).2
      return ⟨call.size, call.customRegister⟩

end Receiver

/-! ## The words -/

theorem hspiSerdesTxSizeMask_eq : Hspi.hspiSerdesTxSizeMask = lowMask 32 13 := by decide

theorem serdesTxSizeMask_eq : Serdes.hspiSerdesTxSizeMask = lowMask 32 13 := by decide

theorem hspiUserDefinedMask_eq : hspiUserDefinedMask = lowMask 32 26 := by decide

theorem serdesUserDefinedMask_eq : serdesUserDefinedMask = lowMask 32 28 := by decide

/-- The packed word before the mask of the user-defined bits. -/
theorem toNat_packed (size customRegister : U16) :
    ((size.setWidth 32 &&& lowMask 32 13) ||| (customRegister.setWidth 32 <<< 13)).toNat =
      size.toNat % 8192 + customRegister.toNat * 8192 := by
  have custom := customRegister.isLt
  have wide : (customRegister.setWidth 32).toNat = customRegister.toNat :=
    BitVec.toNat_setWidth_of_le (by decide)
  have narrow : (size.setWidth 32).toNat = size.toNat := BitVec.toNat_setWidth_of_le (by decide)
  rw [toNat_pack _ _ (by decide) (by rw [wide]; omega), wide, narrow]
  rfl

/-- Of the custom value, 13 bits fit beside the size. -/
theorem toNat_hspiUdf (size customRegister : U16) :
    (hspiUdf size customRegister).toNat =
      size.toNat % 8192 + customRegister.toNat % 8192 * 8192 := by
  rw [hspiUdf, hspiSerdesTxSizeMask_eq, hspiUserDefinedMask_eq, shiftLeft_and_not_lowMask,
    toNat_and_lowMask _ (by decide), toNat_packed]
  omega

/-- Of the custom value, 15 bits fit beside the size. -/
theorem toNat_serdesCustom (driver : SerdesDriver) (buffer : Nat) (size customRegister : U16) :
    (serdesSend driver buffer size customRegister).custom.toNat =
      size.toNat % 8192 + customRegister.toNat % 32768 * 8192 := by
  rw [serdesSend, serdesTxSizeMask_eq, serdesUserDefinedMask_eq, toNat_and_lowMask _ (by decide),
    toNat_packed]
  omega

/-- What is left of a custom value in the word. -/
def Transport.keptCustom (customRegister : Nat) : Transport → Nat
  | hspi | hspiScheduled => customRegister % 8192
  | serdes => customRegister % 32768

def Transport.keptWord (word : Nat) : Transport → Nat
  | hspi | serdes => word
  | hspiScheduled => word % 67108864

/-- Each sender programs the packed word of its transport. -/
theorem Sender.toNat_programs (sender : Sender) (buffer : Nat) (header : Header) :
    (sender.programs buffer header).toNat =
      header.size.toNat % 8192 +
        sender.transport.keptCustom header.customRegister.toNat * 8192 := by
  cases sender with
  | hspi driver txAddr =>
      have programmed : (Sender.hspi driver txAddr).programs buffer header =
          hspiUdf header.size header.customRegister := by
        dsimp only [programs, hspiSend]
        cases driver.currentDmaBuffer with
        | hspiDmaBuffer0 =>
            dsimp only
            rw [Function.update_self]
        | hspiDmaBuffer1 =>
            dsimp only
            rw [Function.update_self]
      rw [programmed]
      exact toNat_hspiUdf header.size header.customRegister
  | hspiScheduled scheduled txToggle data nonNull =>
      have programmed : (Sender.hspiScheduled scheduled txToggle data nonNull).programs buffer header =
          hspiUdf header.size header.customRegister := by
        dsimp only [programs, hspiSendTask]
        rw [if_neg nonNull, Function.update_self]
        cases txToggle with
        | false => simp [hspiUdf]
        | true => simp [hspiUdf]
      rw [programmed]
      exact toNat_hspiUdf header.size header.customRegister
  | serdes driver => exact toNat_serdesCustom driver buffer header.size header.customRegister

/-! ## What the callbacks get -/

def unpacked (word : Nat) : Header :=
  ⟨BitVec.ofNat 16 (word % 8192), BitVec.ofNat 16 (word / 8192)⟩

theorem size_and_mask (word : U32) :
    (word &&& lowMask 32 13).setWidth 16 = BitVec.ofNat 16 (word.toNat % 8192) := by
  apply BitVec.eq_of_toNat_eq
  rw [BitVec.toNat_setWidth, toNat_and_lowMask _ (by decide), BitVec.toNat_ofNat]
  rfl

theorem custom_shift (word : U32) :
    (word >>> 13).setWidth 16 = BitVec.ofNat 16 (word.toNat / 8192) := by
  apply BitVec.eq_of_toNat_eq
  rw [BitVec.toNat_setWidth, BitVec.toNat_ushiftRight, Nat.shiftRight_eq_div_pow,
    BitVec.toNat_ofNat]

/-- The scheduled driver looks at the user-defined bits only. -/
theorem rxContents_header (buffer : Nat) (interrupt : HspiInterrupt) (word : U32)
    (selected : (if interrupt.rxToggle then interrupt.udf0 else interrupt.udf1) = word) :
    (⟨BitVec.ofNat 16 (rxContents buffer interrupt).size,
      BitVec.ofNat 16 (rxContents buffer interrupt).customRegister⟩ : Header) =
        unpacked (word.toNat % 67108864) := by
  have mask := toNat_and_lowMask word (show 26 ≤ 32 by decide)
  have narrow (value : Nat) : BitVec.ofNat 16 (u16 value) = BitVec.ofNat 16 value := by
    apply BitVec.eq_of_toNat_eq
    rw [BitVec.toNat_ofNat, BitVec.toNat_ofNat]
    exact Nat.mod_mod value 65536
  unfold rxContents unpacked
  dsimp only
  rw [selected, narrow, narrow, hspiUserDefinedMask_eq, hspiSerdesTxSizeMask_eq,
    toNat_and_lowMask _ (by decide), BitVec.toNat_ushiftRight, Nat.shiftRight_eq_div_pow, mask]
  rfl

/-- Each receiver hands over the two parts of the word. -/
theorem Receiver.delivers_eq (receiver : Receiver) (word : U32) :
    receiver.delivers word =
      some (unpacked (receiver.transport.keptWord word.toNat)) := by
  cases receiver with
  | hspi buffers driver =>
      dsimp only [delivers, transport]
      rw [DoubleBuffer.callback_good]
      dsimp only [DoubleBuffer.rxCallbackWith]
      rw [Function.update_self, hspiSerdesTxSizeMask_eq, and_not_lowMask_shiftRight, size_and_mask,
        custom_shift]
      rfl
  | hspiScheduled receiver =>
      obtain ⟨config, scheduled, rxToggle, otherUdf, hspiTaskArgs, ⟨_, got⟩, nonNull,
        ⟨_, _, allocated⟩⟩ := receiver
      dsimp only [delivers, transport, ScheduledReceiver.interrupt]
      rw [hspiIrqHandler_receive rfl rfl got allocated, if_neg nonNull]
      dsimp only [Option.bind_eq_bind, Option.bind_some, hspiSetTask]
      rw [Function.update_self, rxContents_header _ _ word]
      · rfl
      · cases rxToggle with
        | false => rfl
        | true => rfl
  | serdes driver sds =>
      have unpack : (⟨(word &&& Serdes.hspiSerdesTxSizeMask).setWidth 16,
          (word >>> 13).setWidth 16⟩ : Header) = unpacked word.toNat := by
        rw [serdesTxSizeMask_eq, size_and_mask, custom_shift]
        rfl
      dsimp only [delivers]
      change _ = some (unpacked word.toNat)
      rw [← unpack]
      cases turn : driver.currentRxDma with
      | rxDma0 => simp [serdesIrqHandler, turn]
      | rxDma1 => simp [serdesIrqHandler, turn]

/-! ## Between two boards -/

theorem unpacked_eq_iff {header : Header} {custom : Nat} (size_le : header.size.toNat ≤ 4096)
    (small : custom < 65536) :
    unpacked (header.size.toNat % 8192 + custom * 8192) = header ↔
      custom = header.customRegister.toNat := by
  have sizePart : (header.size.toNat % 8192 + custom * 8192) % 8192 = header.size.toNat := by omega
  have customPart : (header.size.toNat % 8192 + custom * 8192) / 8192 = custom := by omega
  unfold unpacked
  rw [sizePart, customPart, BitVec.ofNat_toNat, BitVec.setWidth_eq]
  constructor
  · intro same
    have custom_eq := congrArg (fun other => other.customRegister.toNat) same
    dsimp only at custom_eq
    rwa [BitVec.toNat_ofNat, Nat.mod_eq_of_lt small] at custom_eq
  · rintro rfl
    rw [BitVec.ofNat_toNat, BitVec.setWidth_eq]

theorem keptWord_of_lt {word : Nat} (small : word < 67108864) (transport : Transport) :
    transport.keptWord word = word := by
  cases transport with
  | hspi => rfl
  | hspiScheduled => exact Nat.mod_eq_of_lt small
  | serdes => rfl

/-- A word of the HSPI has 26 bits. -/
theorem hspiWord_lt (header : Header) :
    header.size.toNat % 8192 + header.customRegister.toNat % 8192 * 8192 < 67108864 := by
  omega

/-- A header arrives unchanged, and every driver that can be connected reads it alike, exactly if
the scheduled driver has not been given a custom value of more than 13 bits. -/
theorem header_arrives_iff (sender : Sender) (receiver other : Receiver) (buffer : Nat)
    (header : Header) (size_le : header.size.toNat ≤ 4096)
    (documented : sender.transport.Documents header.customRegister)
    (own : receiver.transport = sender.transport)
    (linked : sender.transport.Linked other.transport) :
    (receiver.delivers (sender.programs buffer header) = some header ∧
        other.delivers (sender.programs buffer header) =
          receiver.delivers (sender.programs buffer header)) ↔
      (sender.transport = .hspiScheduled → header.customRegister.toNat < 2 ^ 13) := by
  have programmed := sender.toNat_programs buffer header
  have custom := header.customRegister.isLt
  rw [receiver.delivers_eq, other.delivers_eq, own, programmed]
  cases transport : sender.transport with
  | hspi =>
      rw [transport] at documented
      have small : header.customRegister.toNat < 2 ^ 13 := documented
      dsimp only [Transport.keptCustom]
      rw [keptWord_of_lt (hspiWord_lt header), keptWord_of_lt (hspiWord_lt header)]
      refine iff_of_true ⟨congrArg some ?_, rfl⟩ nofun
      exact (unpacked_eq_iff size_le (by omega)).mpr (Nat.mod_eq_of_lt small)
  | hspiScheduled =>
      dsimp only [Transport.keptCustom]
      rw [keptWord_of_lt (hspiWord_lt header), keptWord_of_lt (hspiWord_lt header),
        Option.some.injEq, unpacked_eq_iff size_le (by omega)]
      constructor
      · rintro ⟨kept, _⟩ _
        omega
      · intro small
        exact ⟨Nat.mod_eq_of_lt (small rfl), rfl⟩
  | serdes =>
      rw [transport] at documented linked
      have small : header.customRegister.toNat < 2 ^ 15 := documented
      have alike : other.transport = .serdes := linked
      rw [alike]
      refine iff_of_true ⟨congrArg some ?_, rfl⟩ nofun
      exact (unpacked_eq_iff size_le (by dsimp only [Transport.keptCustom]; omega)).mpr
        (Nat.mod_eq_of_lt small)

def startedReceiver : ScheduledReceiver where
  config := oneTask
  hspi := started
  rxToggle := false
  otherUdf := 0
  hspiTaskArgs := 65536
  got := ⟨_, rfl⟩
  nonNull := by decide
  allocated := ⟨_, _, rfl⟩

def startedSender : Sender :=
  .hspiScheduled started false 65536 (by decide)

theorem header_arrives_between_boards :
    (Receiver.hspiScheduled startedReceiver).delivers (startedSender.programs 4096 ⟨64, 8191⟩) =
        some ⟨64, 8191⟩ ∧
      (Receiver.hspi DoubleBuffer.receiveBuffers .initial).delivers
          (startedSender.programs 4096 ⟨64, 8191⟩) =
        (Receiver.hspiScheduled startedReceiver).delivers
          (startedSender.programs 4096 ⟨64, 8191⟩) :=
  (header_arrives_iff startedSender (.hspiScheduled startedReceiver)
    (.hspi DoubleBuffer.receiveBuffers .initial) 4096 ⟨64, 8191⟩ (by decide) trivial rfl nofun).mpr
    fun _ => by decide

/-- The scheduled driver loses the fourteenth bit of a custom value. -/
theorem wide_custom_lost :
    startedSender.transport.Documents 8192 ∧
      (Receiver.hspiScheduled startedReceiver).delivers
          (startedSender.programs 4096 ⟨64, 8192⟩) = some ⟨64, 0⟩ ∧
      (Receiver.hspiScheduled startedReceiver).delivers
          (startedSender.programs 4096 ⟨64, 8192⟩) ≠ some ⟨64, 8192⟩ := by
  have arrived : (Receiver.hspiScheduled startedReceiver).delivers
      (startedSender.programs 4096 ⟨64, 8192⟩) = some ⟨64, 0⟩ := by
    rw [Receiver.delivers_eq, Sender.toNat_programs]
    decide
  refine ⟨trivial, arrived, ?_⟩
  rw [arrived]
  decide

end WchCh56x.Hspi.PacketHeaders
