import WchCh56x.Usb.ControlInSetup30
import WchCh56x.Usb.EndpointFields

/-!
# The sequence numbers of control-IN packets on a USB3 link

`USBSS_IRQHandler` numbers the packets of a data stage with a counter that only the
end of a data stage resets.  The counter is longer than the field for it.
-/

namespace WchCh56x.Usb

open Support.BitFields Support.Runs

/-! ## The fields of the word that arms a packet -/

section

variable (ctrl count : U32) {reqLen : Nat} (fits : reqLen ≤ endp0MaxPacketSize)

theorem count_shift : count * 0x200000#32 = count <<< 21 :=
  (congrArg (count * ·) (show 0x200000#32 = BitVec.twoPow 32 21 by decide)).trans
    (BitVec.mul_twoPow_eq_shiftLeft count 21)

include fits

/-- The length of a packet reaches no other field. -/
theorem extract_reqLen {start len : Nat} (above : 10 ≤ start) :
    (BitVec.ofNat 32 reqLen).extractLsb' start len = BitVec.ofNat len 0 := by
  have narrow : BitVec.ofNat 32 reqLen = (BitVec.ofNat 10 reqLen).setWidth 32 := by
    apply BitVec.eq_of_toNat_eq
    unfold endp0MaxPacketSize at fits
    rw [BitVec.toNat_setWidth, BitVec.toNat_ofNat, BitVec.toNat_ofNat]
    omega
  rw [narrow]
  exact extract_setWidth_above _ above

theorem ctrlSequence_endp0TxCtrl :
    ctrlSequence (endp0TxCtrl ctrl count reqLen) = count.extractLsb' 0 5 := by
  have cleared : (0xec1ffc00#32).extractLsb' 21 5 = 0#5 := by decide
  have constant : (0x14010000#32).extractLsb' 21 5 = 0#5 := by decide
  unfold ctrlSequence endp0TxCtrl
  rw [count_shift, BitVec.extractLsb'_or, BitVec.extractLsb'_or, BitVec.extractLsb'_or,
    BitVec.extractLsb'_and, cleared, constant, extract_reqLen fits (by decide),
    extract_shiftLeft count (by decide) le_rfl, BitVec.and_zero, BitVec.zero_or, BitVec.or_zero,
    BitVec.or_zero]

theorem ctrlNump_endp0TxCtrl :
    ctrlNump (endp0TxCtrl ctrl count reqLen) = ctrlNump ctrl ||| 1#5 := by
  have kept : (0xec1ffc00#32).extractLsb' 16 5 = BitVec.allOnes 5 := by decide
  have constant : (0x14010000#32).extractLsb' 16 5 = 1#5 := by decide
  unfold ctrlNump endp0TxCtrl
  rw [count_shift, BitVec.extractLsb'_or, BitVec.extractLsb'_or, BitVec.extractLsb'_or,
    BitVec.extractLsb'_and, kept, constant, extract_reqLen fits (by decide),
    extract_shiftLeft_below count (by decide), BitVec.and_allOnes, BitVec.or_zero, BitVec.or_zero]

/-- The counter runs over into the status, which no packet clears. -/
theorem ctrlStatus_endp0TxCtrl :
    ctrlStatus (endp0TxCtrl ctrl count reqLen) =
      ctrlStatus ctrl ||| count.extractLsb' 5 2 ||| 1#2 := by
  have kept : (0xec1ffc00#32).extractLsb' 26 2 = BitVec.allOnes 2 := by decide
  have constant : (0x14010000#32).extractLsb' 26 2 = 1#2 := by decide
  unfold ctrlStatus endp0TxCtrl
  rw [count_shift, BitVec.extractLsb'_or, BitVec.extractLsb'_or, BitVec.extractLsb'_or,
    BitVec.extractLsb'_and, kept, constant, extract_reqLen fits (by decide),
    extract_shiftLeft count (by decide) (by decide), BitVec.and_allOnes, BitVec.or_zero]

omit fits in
theorem ctrlLpf_endp0TxCtrl : ctrlLpf (endp0TxCtrl ctrl count reqLen) = 1#1 := by
  have constant : (0x14010000#32).extractLsb' 28 1 = BitVec.allOnes 1 := by decide
  unfold ctrlLpf endp0TxCtrl
  rw [BitVec.extractLsb'_or, constant, BitVec.or_allOnes]
  rfl

/-- The first packet has sequence number 0. -/
theorem fields_first :
    ctrlSequence (BitVec.ofNat 32 reqLen ||| 0x14010000#32) = 0#5 ∧
      ctrlNump (BitVec.ofNat 32 reqLen ||| 0x14010000#32) = 1#5 ∧
      ctrlStatus (BitVec.ofNat 32 reqLen ||| 0x14010000#32) = 1#2 ∧
      ctrlLpf (BitVec.ofNat 32 reqLen ||| 0x14010000#32) = 1#1 := by
  have length {start len : Nat} (above : 10 ≤ start) := @extract_reqLen reqLen fits start len above
  unfold ctrlSequence ctrlNump ctrlStatus ctrlLpf
  rw [BitVec.extractLsb'_or, BitVec.extractLsb'_or, BitVec.extractLsb'_or, BitVec.extractLsb'_or,
    length (by decide), length (by decide), length (by decide), length (by decide)]
  decide

end

/-! ## The status while the counter runs -/

/-- Bit 6 of the counter lands in the upper bit of the status. -/
theorem status_next : ∀ status carry : BitVec 2, status ||| 1#2 = status →
    (status ||| carry ||| 1#2 = 1#2 ↔ status = 1#2 ∧ carry.toNat < 2) := by decide

theorem carry_lt_iff (count : U32) :
    (count.extractLsb' 5 2).toNat < 2 ↔ count.toNat % 128 < 64 := by
  rw [BitVec.extractLsb'_toNat, Nat.shiftRight_eq_div_pow]
  omega

namespace Usb30Driver

variable (bsp : Usb2Bsp) (driver : Usb30Driver) (packet : UsbSetup) (reply : UserReply)

/-! ## The packets of a transfer -/

/-- The driver after the SETUP packet and some IN packets. -/
def inTransfer (taken : Nat) : Usb30Driver :=
  (Usb30Event.step bsp driver (.setup packet reply)).afterIn30 bsp taken

/-- How many bytes the handlers have loaded for a packet. -/
def loaded : Nat → Nat
  | 0 => ((driver.setupRead30 packet).usb30Request bsp reply).1
  | index + 1 => (driver.inTransfer bsp packet reply index).ep0InHandler.1

/-- The transfer has a data packet `index`: the SETUP packet is answered, and every completion up
to this packet has some bytes. -/
def HasPacket (index : Nat) : Prop :=
  driver.loaded bsp packet reply 0 ≤ endp0MaxPacketSize ∧
    ∀ before < index, driver.loaded bsp packet reply (before + 1) ≠ 0

/-- A data packet has its number and its length, and else the fields of the first one. -/
structure Numbered (index : Nat) : Prop where
  sequence : (ctrlSequence ((driver.inTransfer bsp packet reply index).usb30.uepTxCtrl 0)).toNat =
    index % 32
  length : (driver.inTransfer bsp packet reply index).endp0Length =
    driver.loaded bsp packet reply index
  status : ctrlStatus ((driver.inTransfer bsp packet reply index).usb30.uepTxCtrl 0) =
    ctrlStatus ((driver.inTransfer bsp packet reply 0).usb30.uepTxCtrl 0)
  nump : ctrlNump ((driver.inTransfer bsp packet reply index).usb30.uepTxCtrl 0) =
    ctrlNump ((driver.inTransfer bsp packet reply 0).usb30.uepTxCtrl 0)
  endOfBurst : ctrlLpf ((driver.inTransfer bsp packet reply index).usb30.uepTxCtrl 0) =
    ctrlLpf ((driver.inTransfer bsp packet reply 0).usb30.uepTxCtrl 0)

/-- The counter reaches this packet in step with it and without its bit 6. -/
def CounterFits (index : Nat) : Prop :=
  index = 0 ∨ (driver.count.toNat % 128 = 0 ∧ index < 64) ∨
    (driver.count.toNat % 128 = 32 ∧ index < 32)

instance (index : Nat) : Decidable (driver.CounterFits index) :=
  inferInstanceAs (Decidable (_ ∨ _ ∧ _ ∨ _ ∧ _))

variable {driver}

theorem count_ep0InHandler : driver.ep0InHandler.2.count = driver.count := by
  unfold ep0InHandler
  split
  · rfl
  · rfl

/-- A completion that loads some bytes counts and arms them. -/
theorem step_loaded (some : driver.ep0InHandler.1 ≠ 0) :
    (Usb30Event.step bsp driver .ep0In).count = driver.count + 1#32 ∧
      (Usb30Event.step bsp driver .ep0In).usb30.uepTxCtrl 0 =
        endp0TxCtrl (driver.usb30.uepTxCtrl 0) (driver.count + 1#32) driver.ep0InHandler.1 := by
  have isStep := driver.step_ep0In bsp
  obtain ⟨usb30, _⟩ := @ep0InHandler_keeps driver
  have count := @count_ep0InHandler driver
  unfold usb30Ep0In at isStep
  dsimp only at isStep
  rw [isStep, if_neg some]
  refine ⟨congrArg (· + 1#32) count, ?_⟩
  refine (setUepTxCtrl_self ..).trans ?_
  change endp0TxCtrl (driver.ep0InHandler.2.usb30.uepTxCtrl 0)
    (driver.ep0InHandler.2.count + 1#32) driver.ep0InHandler.1 = _
  rw [usb30, count]

/-- A completion that finds nothing left starts the counter again. -/
theorem step_nothing (nothing : driver.ep0InHandler.1 = 0) :
    (Usb30Event.step bsp driver .ep0In).count = 0#32 := by
  have isStep := driver.step_ep0In bsp
  unfold usb30Ep0In at isStep
  dsimp only at isStep
  rw [isStep, if_pos nothing]
  rfl

/-! ## The fields of each packet -/

/-- The counter and the fields at a data packet. -/
structure AtPacket (driver : Usb30Driver) (packet : UsbSetup) (reply : UserReply) (index : Nat) :
    Prop where
  streaming : (driver.inTransfer bsp packet reply index).Streaming
  length : (driver.inTransfer bsp packet reply index).endp0Length =
    driver.loaded bsp packet reply index
  count : (driver.inTransfer bsp packet reply index).count =
    driver.count + BitVec.ofNat 32 index
  sequence : ctrlSequence ((driver.inTransfer bsp packet reply index).usb30.uepTxCtrl 0) =
    if index = 0 then 0#5 else (driver.count + BitVec.ofNat 32 index).extractLsb' 0 5
  nump : ctrlNump ((driver.inTransfer bsp packet reply index).usb30.uepTxCtrl 0) = 1#5
  endOfBurst : ctrlLpf ((driver.inTransfer bsp packet reply index).usb30.uepTxCtrl 0) = 1#1
  answers : ctrlStatus ((driver.inTransfer bsp packet reply index).usb30.uepTxCtrl 0) ||| 1#2 =
    ctrlStatus ((driver.inTransfer bsp packet reply index).usb30.uepTxCtrl 0)
  /-- The status is ACK as long as the counter has not had bit 6. -/
  status : ctrlStatus ((driver.inTransfer bsp packet reply index).usb30.uepTxCtrl 0) = 1#2 ↔
    ∀ before < index, (driver.count.toNat + (before + 1)) % 128 < 64

variable {packet} {reply}

theorem count_setup : (driver.inTransfer bsp packet reply 0).count = driver.count :=
  (congrArg count (driver.step_setup30 bsp packet reply)).trans
    (keepsAside_usb30SetupStage bsp (driver.setupPending30 packet) reply).count

/-- The packet that the SETUP stage arms. -/
theorem atPacket_first (isIn : packet.IsIn)
    (fits : driver.loaded bsp packet reply 0 ≤ endp0MaxPacketSize) :
    AtPacket bsp driver packet reply 0 := by
  have isStep := @step_setup30_in bsp driver packet reply isIn
  obtain ⟨streaming, length, _⟩ := stage30_of_packet bsp reply isIn (Prod.eta _).symm fits
  have ctrl : (driver.inTransfer bsp packet reply 0).usb30.uepTxCtrl 0 =
      BitVec.ofNat 32 (driver.loaded bsp packet reply 0) ||| 0x14010000#32 := by
    change (Usb30Event.step bsp driver (.setup packet reply)).usb30.uepTxCtrl 0 = _
    rw [isStep]
    refine (congrArg (fun armed : Usb30Driver => armed.usb30.uepTxCtrl 0)
      (answerSetup_eq fits)).trans ?_
    exact setUepTxCtrl_self ..
  obtain ⟨sequence, nump, status, endOfBurst⟩ := fields_first fits
  rw [← ctrl] at sequence nump status endOfBurst
  refine ⟨streaming, length, ?_, sequence, nump, endOfBurst, ?_, ?_⟩
  · rw [count_setup]
    exact (BitVec.add_zero _).symm
  · rw [status]
    decide
  · exact iff_of_true status fun _ inside => absurd inside (Nat.not_lt_zero _)

theorem status_next_iff (count : U32) {status : BitVec 2} (answers : status ||| 1#2 = status) :
    status ||| count.extractLsb' 5 2 ||| 1#2 = 1#2 ↔ status = 1#2 ∧ count.toNat % 128 < 64 := by
  rw [← carry_lt_iff]
  exact status_next status _ answers

/-- The packet that a completion arms. -/
theorem AtPacket.next {index : Nat} (armed : AtPacket bsp driver packet reply index)
    (some : driver.loaded bsp packet reply (index + 1) ≠ 0) :
    AtPacket bsp driver packet reply (index + 1) := by
  obtain ⟨counts, ctrl⟩ := step_loaded bsp some
  obtain ⟨streaming, length, _⟩ := step_streaming bsp armed.streaming
  have fits : driver.loaded bsp packet reply (index + 1) ≤ endp0MaxPacketSize :=
    @ep0InHandler_fits (driver.inTransfer bsp packet reply index)
  have isNext : (driver.inTransfer bsp packet reply index).count + 1#32 =
      driver.count + BitVec.ofNat 32 (index + 1) := by
    rw [armed.count, BitVec.add_assoc, BitVec.ofNat_add]
  rw [isNext] at counts ctrl
  have written : (driver.inTransfer bsp packet reply (index + 1)).usb30.uepTxCtrl 0 =
      endp0TxCtrl ((driver.inTransfer bsp packet reply index).usb30.uepTxCtrl 0)
        (driver.count + BitVec.ofNat 32 (index + 1))
        (driver.loaded bsp packet reply (index + 1)) := ctrl
  refine ⟨streaming, length, counts, ?_, ?_, ?_, ?_, ?_⟩
  · rw [written, ctrlSequence_endp0TxCtrl _ _ fits, if_neg (Nat.succ_ne_zero index)]
  · rw [written, ctrlNump_endp0TxCtrl _ _ fits, armed.nump]
    rfl
  · rw [written, ctrlLpf_endp0TxCtrl]
  · rw [written, ctrlStatus_endp0TxCtrl _ _ fits, BitVec.or_assoc, BitVec.or_self]
  · rw [written, ctrlStatus_endp0TxCtrl _ _ fits, status_next_iff _ armed.answers, armed.status,
      Nat.forall_lt_succ_right]
    have counter : (driver.count + BitVec.ofNat 32 (index + 1)).toNat % 128 =
        (driver.count.toNat + (index + 1)) % 128 := by
      rw [BitVec.toNat_add, BitVec.toNat_ofNat]
      omega
    rw [counter]

theorem atPacket {index : Nat} (isIn : packet.IsIn)
    (has : driver.HasPacket bsp packet reply index) :
    AtPacket bsp driver packet reply index := by
  obtain ⟨fits, some⟩ := has
  induction index with
  | zero => exact atPacket_first bsp isIn fits
  | succ index ih =>
      have before := ih fun earlier inside => some earlier (Nat.lt_succ_of_lt inside)
      exact before.next bsp (some index (Nat.lt_succ_self index))

/-- Once nothing is left, nothing comes after it. -/
theorem nothing_stays (streaming : driver.Streaming) (nothing : driver.ep0InHandler.1 = 0) :
    (Usb30Event.step bsp driver .ep0In).ep0InHandler.1 = 0 := by
  obtain ⟨_, _, left, pointer, _⟩ := step_streaming bsp streaming
  by_cases null : driver.pDescr = 0
  · have same : driver.ep0InHandler = (0, driver) := if_neg (not_not.mpr null)
    rw [same] at pointer
    exact congrArg Prod.fst (if_neg (not_not.mpr (pointer.trans null)))
  · have isLoad : driver.ep0InHandler = driver.loadPacket := if_pos null
    have size : driver.loadPacket.1 = min endp0MaxPacketSize driver.setupLen := loadPacket_length
    rw [isLoad, size] at nothing
    have none : driver.setupLen = 0 := by
      unfold endp0MaxPacketSize at nothing
      omega
    exact (ep0InHandler_of_nothing (left.trans (ep0InHandler_of_nothing none).2.1)).1

/-- A transfer that is taken to its end leaves the counter at 0, and any other one leaves it where
it got to. -/
theorem count_inTransfer (isIn : packet.IsIn)
    (fits : driver.loaded bsp packet reply 0 ≤ endp0MaxPacketSize) (taken : Nat) :
    (driver.HasPacket bsp packet reply taken →
      (driver.inTransfer bsp packet reply taken).count = driver.count + BitVec.ofNat 32 taken) ∧
    (¬driver.HasPacket bsp packet reply taken →
      (driver.inTransfer bsp packet reply taken).count = 0#32) := by
  refine ⟨fun has => (atPacket bsp isIn has).count, fun ended => ?_⟩
  obtain ⟨before, inside, nothing⟩ :
      ∃ before < taken, driver.loaded bsp packet reply (before + 1) = 0 := by
    by_contra every
    exact ended ⟨fits, fun before inside nothing => every ⟨before, inside, nothing⟩⟩
  have none : ∀ before < 0, driver.loaded bsp packet reply (before + 1) ≠ 0 :=
    fun _ inside => absurd inside (Nat.not_lt_zero _)
  have streaming (completions : Nat) : (driver.inTransfer bsp packet reply completions).Streaming :=
    (atPacket bsp isIn ⟨fits, none⟩).streaming.afterIn30 bsp completions
  have stays (completions : Nat) (later : before ≤ completions) :
      (driver.inTransfer bsp packet reply completions).ep0InHandler.1 = 0 := by
    induction completions, later using Nat.le_induction with
    | base => exact nothing
    | succ completions _ ih => exact nothing_stays bsp (streaming completions) ih
  obtain ⟨last, rfl⟩ := Nat.exists_eq_succ_of_ne_zero (Nat.ne_zero_of_lt inside)
  exact step_nothing bsp (stays last (Nat.le_of_lt_succ inside))

/-! ## The exact condition -/

/-- Bit 6 stays clear for these counts, which begin at a multiple of 32. -/
theorem counts_fit_iff {count index : Nat} (later : index ≠ 0) :
    ((count + index) % 32 = index % 32 ∧ ∀ before < index, (count + (before + 1)) % 128 < 64) ↔
      (count % 128 = 0 ∧ index < 64) ∨ (count % 128 = 32 ∧ index < 32) := by
  constructor
  · rintro ⟨aligned, clear⟩
    have first := clear 0 (Nat.pos_of_ne_zero later)
    have isMultiple : count % 32 = 0 := by omega
    rcases (by omega : count % 128 = 0 ∨ count % 128 = 32) with zero | half
    · refine .inl ⟨zero, Nat.lt_of_not_le fun long => ?_⟩
      have reached := clear 63 (by omega)
      omega
    · refine .inr ⟨half, Nat.lt_of_not_le fun long => ?_⟩
      have reached := clear 31 (by omega)
      omega
  · rintro (⟨zero, short⟩ | ⟨half, short⟩)
    · refine ⟨by omega, fun before inside => ?_⟩
      omega
    · refine ⟨by omega, fun before inside => ?_⟩
      omega

/-- The first packet is numbered, and a later one if the counter fits. -/
theorem numbered_iff {index : Nat} (isIn : packet.IsIn)
    (has : driver.HasPacket bsp packet reply index) :
    driver.Numbered bsp packet reply index ↔ driver.CounterFits index := by
  have none : ∀ before < 0, driver.loaded bsp packet reply (before + 1) ≠ 0 :=
    fun _ inside => absurd inside (Nat.not_lt_zero _)
  have first := atPacket bsp isIn ⟨has.1, none⟩
  have armed := atPacket bsp isIn has
  have firstStatus := first.status.mpr fun _ inside => absurd inside (Nat.not_lt_zero _)
  by_cases isFirst : index = 0
  · subst isFirst
    refine iff_of_true ⟨?_, first.length, rfl, rfl, rfl⟩ (.inl rfl)
    rw [first.sequence]
    rfl
  have number : (ctrlSequence
      ((driver.inTransfer bsp packet reply index).usb30.uepTxCtrl 0)).toNat =
        (driver.count.toNat + index) % 32 := by
    rw [armed.sequence, if_neg isFirst, BitVec.extractLsb'_toNat, BitVec.toNat_add,
      BitVec.toNat_ofNat]
    omega
  have fits := @counts_fit_iff driver.count.toNat index isFirst
  unfold CounterFits
  rw [or_iff_right isFirst, ← fits]
  constructor
  · intro numbered
    exact ⟨number.symm.trans numbered.sequence,
      armed.status.mp (numbered.status.trans firstStatus)⟩
  · rintro ⟨sequence, status⟩
    exact ⟨number.trans sequence, armed.length, (armed.status.mpr status).trans firstStatus.symm,
      armed.nump.trans first.nump.symm, armed.endOfBurst.trans first.endOfBurst.symm⟩

/-- The data packets of a response of `total` bytes. -/
theorem hasPacket_iff {head total index : Nat} {pointed : Usb30Driver} (isIn : packet.IsIn)
    (isRequest : (driver.setupRead30 packet).usb30Request bsp reply = pointed.loadPacket)
    (atHead : pointed.pDescr = head) (whole : pointed.setupLen = total)
    (addressable : head + total ≤ 2 ^ 32) :
    driver.HasPacket bsp packet reply index ↔ index = 0 ∨ index * endp0MaxPacketSize < total := by
  have first : driver.loaded bsp packet reply 0 ≤ endp0MaxPacketSize := by
    change ((driver.setupRead30 packet).usb30Request bsp reply).1 ≤ _
    rw [isRequest, loadPacket_length]
    exact Nat.min_le_left _ _
  have sends := (sends30_of_load bsp reply isIn isRequest atHead whole addressable).1
  have loaded (before : Nat) : driver.loaded bsp packet reply (before + 1) =
      Support.Packets.packetLength endp0MaxPacketSize total (before + 1) := by
    have reached := sends.afterIn30 bsp addressable before
    have answering : (driver.inTransfer bsp packet reply before).Answering head total before :=
      ⟨reached.left, reached.pointer⟩
    exact (answering.ep0InHandler addressable).1
  have some (before : Nat) : driver.loaded bsp packet reply (before + 1) ≠ 0 ↔
      (before + 1) * endp0MaxPacketSize < total := by
    rw [loaded]
    unfold Support.Packets.packetLength endp0MaxPacketSize
    omega
  unfold HasPacket
  rw [and_iff_right first]
  constructor
  · intro every
    cases index with
    | zero => exact .inl rfl
    | succ index => exact .inr ((some index).mp (every index (Nat.lt_succ_self index)))
  · rintro inside before earlier
    refine (some before).mpr ?_
    have fits : (before + 1) * endp0MaxPacketSize ≤ index * endp0MaxPacketSize :=
      Nat.mul_le_mul_right _ earlier
    rcases inside with rfl | inside
    · exact absurd earlier (Nat.not_lt_zero _)
    · exact fits.trans_lt inside

end Usb30Driver

namespace PacketSequence

open Usb30Driver

/-! ## Runs of transfers -/

/-- A control-IN transfer, of which the host takes some packets. -/
structure Transfer where
  packet : UsbSetup
  isIn : packet.IsIn
  reply : UserReply
  taken : Nat
  statusStage : Bool

variable (bsp : Usb2Bsp)

/-- The driver at the end of a transfer, or where the host gives it up. -/
def take (driver : Usb30Driver) (transfer : Transfer) : Option Usb30Driver :=
  let after := driver.inTransfer bsp transfer.packet transfer.reply transfer.taken
  some (if transfer.statusStage then Usb30Event.step bsp after .ep0Status else after)

/-- All data packets of the transfer have their numbers and the fields of the first one. -/
def AllNumbered (driver : Usb30Driver) (transfer : Transfer) : Prop :=
  ∀ index ≤ transfer.taken, driver.HasPacket bsp transfer.packet transfer.reply index →
    driver.Numbered bsp transfer.packet transfer.reply index

/-- The counter starts at 0 for up to 64 data packets or at 32 for up to 32, modulo 128. -/
def CounterFitsAll (driver : Usb30Driver) (transfer : Transfer) : Prop :=
  ∀ index ≤ transfer.taken, driver.HasPacket bsp transfer.packet transfer.reply index →
    driver.CounterFits index

theorem allNumbered_iff (driver : Usb30Driver) (transfer : Transfer) :
    AllNumbered bsp driver transfer ↔ CounterFitsAll bsp driver transfer :=
  forall_congr' fun _ => forall_congr' fun _ => forall_congr' fun has =>
    numbered_iff bsp transfer.isIn has

/-- In every run of control-IN transfers, abandoned or not, the data packets are numbered exactly
where the counter begins in step and does not reach bit 6. -/
theorem data_packets_numbered_iff (driver : Usb30Driver) (transfers : List Transfer) :
    EveryStep (take bsp) (AllNumbered bsp) driver transfers ↔
      EveryStep (take bsp) (CounterFitsAll bsp) driver transfers := by
  have every : EveryStep (take bsp) (fun _ _ => True) driver transfers :=
    everyStep_of_forall (fun _ _ _ => trivial) driver
  exact @everyStep_iff _ _ (take bsp) (fun _ => True) (fun _ _ => True) (AllNumbered bsp)
    (CounterFitsAll bsp) (fun driver transfer _ _ => allNumbered_iff bsp driver transfer)
    (fun _ _ _ _ _ _ _ => trivial) driver transfers trivial every

/-! ## Vendor requests -/

def vendorIn (length taken : Nat) : Transfer where
  packet := ⟨0xc0#8, 1#8, ⟨0#8, 0#8⟩, ⟨0#8, 0#8⟩, 65535#16⟩
  isIn := by decide
  reply := ⟨[], 0#8, length, 0x20030000⟩
  taken := taken
  statusStage := false

def vendorBsp : Usb2Bsp := .bit3

theorem hasPacket_vendorIn (driver : Usb30Driver) {length index : Nat} (taken : Nat)
    (fits : length < 65535) :
    driver.HasPacket vendorBsp (vendorIn length taken).packet (vendorIn length taken).reply index ↔
      index = 0 ∨ index * endp0MaxPacketSize < length := by
  have user : ¬(vendorIn length taken).packet.IsStandard := by
    change ¬((0xc0#8 : U8) &&& _ = _)
    decide
  have isLength : u16 (vendorIn length taken).reply.length = length :=
    u16_of_lt (fits.trans (by decide))
  have request := @usb30Request_of_user vendorBsp driver (vendorIn length taken).packet
    (vendorIn length taken).reply user (vendorIn length taken).isIn
  have notRefused : length ≠ usbDescrUnsupported := fits.ne
  rw [isLength, if_neg notRefused] at request
  have isRequest := request.trans (if_neg (show ¬(0x20030000 : Nat) = 0 by decide))
  refine hasPacket_iff vendorBsp (vendorIn length taken).isIn isRequest rfl isLength ?_
  have top : 0x20030000 + 65535 ≤ 2 ^ 32 := by decide
  exact (Nat.add_le_add_left fits.le _).trans top

def vendorDriver : Usb30Driver := Usb30Driver.initial (Usb2Driver.initial usbDevice0 fun _ => 0#8)

/-- A transfer after an abandoned one begins at 1, and a packet of a long transfer has another
status. -/
theorem numbers_off_after_abandoned :
    ¬EveryStep (take vendorBsp) (AllNumbered vendorBsp) vendorDriver
        [vendorIn 1024 1, vendorIn 1024 1] ∧
      ¬EveryStep (take vendorBsp) (AllNumbered vendorBsp) vendorDriver [vendorIn 33280 64] := by
  constructor
  · intro every
    have has (driver : Usb30Driver) := (@hasPacket_vendorIn driver 1024 1 1 (by decide)).mpr
      (.inr (by decide))
    have arrived := atPacket vendorBsp (vendorIn 1024 1).isIn (has vendorDriver)
    have fits := (allNumbered_iff vendorBsp _ (vendorIn 1024 1)).mp (every.2 _ rfl).1 1 le_rfl
      (has _)
    have begins : (vendorDriver.inTransfer vendorBsp (vendorIn 1024 1).packet
        (vendorIn 1024 1).reply 1).count = 1#32 := arrived.count
    rcases fits with isFirst | ⟨zero, _⟩ | ⟨half, _⟩
    · exact absurd isFirst (by decide)
    · exact absurd ((congrArg (fun count : U32 => count.toNat % 128) begins).symm.trans zero)
        (by decide)
    · exact absurd ((congrArg (fun count : U32 => count.toNat % 128) begins).symm.trans half)
        (by decide)
  · intro every
    have fits := (allNumbered_iff vendorBsp vendorDriver (vendorIn 33280 64)).mp every.1 64 le_rfl
      ((hasPacket_vendorIn vendorDriver 64 (by decide)).mpr (.inr (by decide)))
    exact absurd fits (by decide)

end PacketSequence

end WchCh56x.Usb
