import WchCh56x.Usb.EndpointFields
import WchCh56x.Usb.InBursts
import WchCh56x.Usb.InPackets

/-!
# The bursts that a USB3 IN endpoint announces

`usb3_endp_tx_ready` announces all packets of a buffer at once, in a field of five
bits and without regard to the maximum burst.  What is programmed after a burst
follows from what was programmed before it.
-/

namespace WchCh56x.Usb

open Support.Packets Support.BitFields EndpointFields

/-! ## The announced numbers -/

def erdyNump (fcCtrl : U32) : Nat := (fcCtrl.extractLsb' 6 8).toNat

theorem erdyNump_usb30SendErdyIn (endp : U32) {nump : Nat} (inByte : nump < 256) :
    erdyNump (usb30SendErdyIn endp (BitVec.ofNat 32 nump)) = nump := by
  have low : (0xf#32).extractLsb' 4 8 = 0#8 := by decide
  have direction : (3#32).extractLsb' 6 8 = 0#8 := by decide
  unfold erdyNump usb30SendErdyIn
  rw [BitVec.extractLsb'_or, BitVec.extractLsb'_or, extract_shiftLeft _ (by decide) (by decide),
    extract_shiftLeft _ (by decide) (by decide), BitVec.extractLsb'_and, low, direction,
    BitVec.and_zero, BitVec.zero_or, BitVec.or_zero, BitVec.extractLsb'_toNat, BitVec.toNat_ofNat]
  change nump % 2 ^ 32 % 2 ^ 8 = nump
  omega

theorem usb30InNump_eq (ctrl : U32) : usb30InNump ctrl = (ctrlNump ctrl).toNat := by
  rw [usb30InNump, ctrlNump, BitVec.extractLsb'_toNat]
  exact (toNat_and_lowMask (ctrl >>> 16) (show 5 ≤ 32 by decide)).trans
    (congrArg (· % 2 ^ 5) (BitVec.toNat_ushiftRight ctrl 16))

theorem ofNat_eq_setWidth {nump : Nat} (inField : nump < 32) :
    BitVec.ofNat 32 nump = (BitVec.ofNat 5 nump).setWidth 32 := by
  apply BitVec.eq_of_toNat_eq
  rw [BitVec.toNat_setWidth, BitVec.toNat_ofNat, BitVec.toNat_ofNat]
  omega

/-- `usb30_in_set` with a number that fits its field. -/
theorem usb30InNump_usb30InSet (ctrl enable state length : U32) {nump : Nat}
    (inField : nump < 32) :
    usb30InNump (usb30InSet ctrl enable state (BitVec.ofNat 32 nump) length) =
      usb30InNump ctrl ||| nump := by
  rw [usb30InNump_eq, usb30InNump_eq, ofNat_eq_setWidth inField, ctrlNump_usb30InSet,
    BitVec.toNat_or, BitVec.toNat_ofNat]
  congr 1
  omega

theorem ctrlSequence_of_fits (ctrl enable state length : U32) {nump : Nat} (inField : nump < 32) :
    ctrlSequence (usb30InSet ctrl enable state (BitVec.ofNat 32 nump) length) =
      ctrlSequence ctrl := by
  rw [ofNat_eq_setWidth inField, ctrlSequence_usb30InSet]

/-! ## A buffer and its bursts -/

/-- A buffer that `endp_tx_set_new_buffer` accepts for a USB3 endpoint with registers of its own. -/
structure Handover (driver : Usb2Driver) where
  endpNum : Fin 16
  ptr : Nat
  size : Nat
  superspeed : driver.device.speed = .usb30Superspeed
  notControl : endpNum ≠ 0
  inFile : endpNum.val < 8
  packetSize_pos : 0 < (driver.device.tx endpNum).maxPacketSize
  maxBurst_pos : 1 ≤ (driver.device.tx endpNum).maxBurst
  notNull : ptr ≠ 0
  fits : size ≤ (driver.device.tx endpNum).maxPacketSizeWithBurst

namespace Handover

variable (bsp : Usb2Bsp) {driver : Usb2Driver} (handover : Handover driver)

def index : Fin 8 := ⟨handover.endpNum.val, handover.inFile⟩

def packetSize : Nat := (driver.device.tx handover.endpNum).maxPacketSize

def maxBurst : Nat := (driver.device.tx handover.endpNum).maxBurst

/-- The packets of the buffer in the eight bits of the counter. -/
def totalNumPackets : Nat := u8 (packetCount handover.packetSize handover.size)

def nump (state : Usb2Driver) : Nat := usb30InNump (state.usb30.uepTxCtrl handover.index)

def totalBursts (state : Usb2Driver) : Nat := state.usb30.txTotalBursts handover.index

def remainingLength (state : Usb2Driver) : Nat := state.usb30.txRemainingLength handover.index

def completions (state : Usb2Driver) : Nat := state.called (.txComplete handover.endpNum)

def started : Usb2Driver :=
  (driver.endpTxSetNewBuffer handover.endpNum handover.ptr handover.size).2

/-- The host takes packets, and whatever else happens leaves the endpoint alone. -/
structure HostTakes (count : Nat) (before armed : Usb2Driver) : Prop where
  pos : 1 ≤ count
  le : count ≤ handover.nump before
  nump : handover.nump armed = handover.nump before - count
  packetSize : (armed.device.tx handover.endpNum).maxPacketSize =
    (before.device.tx handover.endpNum).maxPacketSize
  maxBurst : (armed.device.tx handover.endpNum).maxBurst =
    (before.device.tx handover.endpNum).maxBurst
  remainingLength : handover.remainingLength armed = handover.remainingLength before
  totalBursts : handover.totalBursts armed = handover.totalBursts before
  completions : handover.completions armed = handover.completions before

/-- The states of the transfer until `tx_complete` is called. -/
inductive Reached : Usb2Driver → Prop
  | started : Reached handover.started
  | event {count : Nat} {before armed : Usb2Driver} (reached : Reached before)
      (takes : handover.HostTakes count before armed) (reply : UserReply)
      (unfinished : handover.completions (armed.usb30EpInHandler bsp handover.endpNum reply) =
        handover.completions before) :
      Reached (armed.usb30EpInHandler bsp handover.endpNum reply)

/-- What was programmed keeps to the maximum burst and to its field, and leaves the sequence number
of the register as it was found. -/
structure WithinBurst (found after : Usb2Driver) : Prop where
  announced : erdyNump after.usb30.usbFcCtrl ≤ handover.maxBurst
  inField : erdyNump after.usb30.usbFcCtrl < 32
  programmed : handover.nump after ≤ handover.maxBurst
  sequence : ctrlSequence (after.usb30.uepTxCtrl handover.index) =
    ctrlSequence (found.usb30.uepTxCtrl handover.index)

def numPacketSent (armed : Usb2Driver) : Nat :=
  u8 (handover.totalBursts armed + 256 - handover.nump armed)

/-- The handler counts the packets that the host has taken, and calls `tx_complete` exactly if they
are the rest of the buffer. -/
structure CountsSent (count : Nat) (armed after : Usb2Driver) : Prop where
  packets : handover.numPacketSent armed = count
  finished : handover.remainingLength armed ≤ count * handover.packetSize →
    handover.completions after = handover.completions armed + 1
  goesOn : count * handover.packetSize < handover.remainingLength armed →
    handover.completions after = handover.completions armed ∧
      handover.remainingLength after =
        handover.remainingLength armed - count * handover.packetSize ∧
      handover.totalBursts after = handover.totalBursts armed - count ∧
      handover.WithinBurst armed after

def KeepsToBurst : Prop :=
  handover.WithinBurst driver handover.started ∧
    ∀ before, handover.Reached bsp before →
      ∀ count armed, handover.HostTakes count before armed → ∀ reply,
        handover.CountsSent count armed (armed.usb30EpInHandler bsp handover.endpNum reply)

/-! ## The start -/

variable {handover}

theorem index_eq (handover : Handover driver) :
    usb30EndpIndex handover.endpNum = some handover.index := by
  rw [usb30EndpIndex, dif_pos handover.inFile, if_neg handover.notControl]
  rfl

theorem bufferSet_usb30 (driver : Usb2Driver) (endpNum : Fin 16) (ptr size : Nat) :
    (driver.bufferSet endpNum ptr size).usb30 = driver.usb30 := by
  unfold Usb2Driver.bufferSet Usb2Driver.copyToEndp0
  split
  · rfl
  · rfl

/-- The registers of the endpoints when the buffer has been announced. -/
def announcedUsb30 (handover : Handover driver) (length : U32) : Usb30Endpoints :=
  { driver.usb30 with
    uepTxDma := Function.update driver.usb30.uepTxDma handover.index handover.ptr
    txRemainingLength := Function.update driver.usb30.txRemainingLength handover.index handover.size
    txTotalBursts := Function.update driver.usb30.txTotalBursts handover.index
      handover.totalNumPackets
    uepTxCtrl := Function.update driver.usb30.uepTxCtrl handover.index
      (usb30InSet (driver.usb30.uepTxCtrl handover.index) usb30Enable usb30Ack
        (BitVec.ofNat 32 handover.totalNumPackets) length)
    usbFcCtrl := usb30SendErdyIn (BitVec.ofNat 32 handover.endpNum.val)
      (BitVec.ofNat 32 handover.totalNumPackets) }

theorem usb3EndpTxReady_handover (handover : Handover driver) :
    ∃ length, usb3EndpTxReady { driver.device.tx handover.endpNum with buffer := handover.ptr }
      driver.usb30 handover.endpNum handover.size = some (handover.announcedUsb30 length) := by
  have count := (packets_and_last handover.packetSize_pos handover.size).1
  unfold usb3EndpTxReady
  rw [handover.index_eq]
  dsimp only
  rw [if_neg handover.packetSize_pos.ne']
  rw [count]
  exact ⟨_, rfl⟩

theorem started_usb30 (handover : Handover driver) :
    ∃ length, handover.started.usb30 = handover.announcedUsb30 length := by
  have accepts : driver.config.Accepts handover.endpNum handover.ptr handover.size :=
    ⟨handover.fits, handover.notNull, fun control => absurd control handover.notControl⟩
  have superspeed : (driver.bufferSet handover.endpNum handover.ptr
      handover.size).device.speed = .usb30Superspeed :=
    (driver.bufferSet_speed ..).trans handover.superspeed
  obtain ⟨length, ready⟩ := handover.usb3EndpTxReady_handover
  rw [started, driver.endpTxSetNewBuffer_of_accepts accepts,
    Usb2Driver.endpTxReady_of_superspeed _ superspeed, bufferSet_usb30,
    driver.bufferSet_tx handover.size handover.ptr, ready]
  exact ⟨length, rfl⟩

theorem started_tx (handover : Handover driver) :
    handover.started.device.tx handover.endpNum =
      { driver.device.tx handover.endpNum with buffer := handover.ptr } := by
  have accepts : driver.config.Accepts handover.endpNum handover.ptr handover.size :=
    ⟨handover.fits, handover.notNull, fun control => absurd control handover.notControl⟩
  have superspeed : (driver.bufferSet handover.endpNum handover.ptr
      handover.size).device.speed = .usb30Superspeed :=
    (driver.bufferSet_speed ..).trans handover.superspeed
  rw [started, driver.endpTxSetNewBuffer_of_accepts accepts,
    Usb2Driver.endpTxReady_of_superspeed _ superspeed]
  split
  · exact driver.bufferSet_tx handover.size handover.ptr
  · exact driver.bufferSet_tx handover.size handover.ptr

theorem totalNumPackets_lt (handover : Handover driver) : handover.totalNumPackets < 256 :=
  Nat.mod_lt _ (by decide)

theorem nump_lt (handover : Handover driver) (state : Usb2Driver) : handover.nump state < 32 := by
  rw [nump, usb30InNump_eq]
  exact (ctrlNump _).isLt

theorem erdyNump_started (handover : Handover driver) :
    erdyNump handover.started.usb30.usbFcCtrl = handover.totalNumPackets := by
  obtain ⟨length, announced⟩ := handover.started_usb30
  rw [announced]
  exact erdyNump_usb30SendErdyIn _ handover.totalNumPackets_lt

theorem totalBursts_started (handover : Handover driver) :
    handover.totalBursts handover.started = handover.totalNumPackets := by
  obtain ⟨length, announced⟩ := handover.started_usb30
  rw [totalBursts, announced]
  exact Function.update_self ..

theorem uepTxCtrl_started (handover : Handover driver) :
    ∃ length, handover.started.usb30.uepTxCtrl handover.index =
      usb30InSet (driver.usb30.uepTxCtrl handover.index) usb30Enable usb30Ack
        (BitVec.ofNat 32 handover.totalNumPackets) length := by
  obtain ⟨length, announced⟩ := handover.started_usb30
  refine ⟨length, ?_⟩
  rw [announced]
  exact Function.update_self ..

/-- A number that fits the field is combined with the number that the register held before. -/
theorem nump_started (inField : handover.totalNumPackets < 32) :
    handover.nump handover.started = handover.nump driver ||| handover.totalNumPackets := by
  obtain ⟨length, written⟩ := handover.uepTxCtrl_started
  rw [nump, written]
  exact usb30InNump_usb30InSet _ _ _ _ inField

/-! ## One event -/

/-- What the handler finds left of the buffer. -/
def leftAfter (handover : Handover driver) (armed : Usb2Driver) : Nat :=
  handover.remainingLength armed -
    handover.numPacketSent armed * (armed.device.tx handover.endpNum).maxPacketSize

theorem usb30EpInHandler_cases (handover : Handover driver) (armed : Usb2Driver)
    (reply : UserReply) :
    let set := armed.usb30.setRemaining handover.index (handover.leftAfter armed)
    let returned := (armed.setUsb30 (set.inClearInterrupt handover.index)).invoke bsp
      (.txComplete handover.endpNum) reply
    armed.usb30EpInHandler bsp handover.endpNum reply =
      if handover.leftAfter armed = 0 then
        returned.setUsb30 (returned.usb30.afterTxComplete handover.index)
      else
        armed.setUsb30 (set.announceRest handover.index (armed.device.tx handover.endpNum)
          handover.endpNum (handover.nump armed) (handover.numPacketSent armed)) := by
  unfold Usb2Driver.usb30EpInHandler
  rw [handover.index_eq]
  simp only [usb30RemainingAfter_eq]
  rfl

/-- The handler that finds nothing left calls `tx_complete`. -/
theorem completions_of_finished (armed : Usb2Driver) (reply : UserReply)
    (finished : handover.leftAfter armed = 0) :
    handover.completions (armed.usb30EpInHandler bsp handover.endpNum reply) =
      handover.completions armed + 1 := by
  rw [handover.usb30EpInHandler_cases bsp armed reply, if_pos finished]
  change List.count _ (Usb2Driver.invoke bsp _ _ reply).userCalls = _
  rw [userCalls_invoke, List.count_append, List.count_singleton_self]
  rfl

/-- The handler that finds bytes left announces the packets that are left. -/
theorem usb30EpInHandler_of_left (armed : Usb2Driver) (reply : UserReply)
    (left : handover.leftAfter armed ≠ 0) :
    armed.usb30EpInHandler bsp handover.endpNum reply =
      armed.setUsb30 ((armed.usb30.setRemaining handover.index
        (handover.leftAfter armed)).announceRest handover.index
          (armed.device.tx handover.endpNum) handover.endpNum (handover.nump armed)
            (handover.numPacketSent armed)) :=
  (handover.usb30EpInHandler_cases bsp armed reply).trans (if_neg left)

/-- The register and the counter hold the same number, which keeps to the maximum burst. -/
structure Tracked (handover : Handover driver) (state : Usb2Driver) : Prop where
  packetSize : (state.device.tx handover.endpNum).maxPacketSize = handover.packetSize
  maxBurst : (state.device.tx handover.endpNum).maxBurst = handover.maxBurst
  counter : handover.totalBursts state = handover.nump state
  within : handover.nump state ≤ handover.maxBurst

section Event

variable {count : Nat} {before armed : Usb2Driver} (tracked : handover.Tracked before)
  (takes : handover.HostTakes count before armed)

include tracked takes

theorem numPacketSent_eq : handover.numPacketSent armed = count := by
  have few := handover.nump_lt before
  have le := takes.le
  rw [numPacketSent, takes.totalBursts, tracked.counter, takes.nump, u8]
  omega

/-- What the handler leaves when bytes are left. -/
theorem tracked_goesOn (reply : UserReply)
    (left : count * handover.packetSize < handover.remainingLength armed) :
    let after := armed.usb30EpInHandler bsp handover.endpNum reply
    handover.Tracked after ∧ handover.completions after = handover.completions armed ∧
      handover.remainingLength after =
        handover.remainingLength armed - count * handover.packetSize ∧
      handover.totalBursts after = handover.totalBursts armed - count ∧
      handover.WithinBurst armed after := by
  have sent := numPacketSent_eq tracked takes
  have packetSize := takes.packetSize.trans tracked.packetSize
  have maxBurst := takes.maxBurst.trans tracked.maxBurst
  have few := handover.nump_lt before
  have fewer := handover.nump_lt armed
  have le := takes.le
  have taken := takes.nump
  have counter := takes.totalBursts.trans tracked.counter
  have within : handover.nump armed ≤ handover.maxBurst := by
    have before := tracked.within
    omega
  have unclamped : ¬(armed.device.tx handover.endpNum).maxBurst < handover.nump armed := by
    rw [maxBurst]
    exact Nat.not_lt.mpr within
  have bytes : handover.leftAfter armed =
      handover.remainingLength armed - count * handover.packetSize := by
    rw [leftAfter, sent, packetSize]
  have handled := @usb30EpInHandler_of_left bsp driver handover armed reply (by
    rw [bytes]
    exact Nat.sub_ne_zero_of_lt left)
  rw [sent, bytes] at handled
  obtain ⟨length, written⟩ : ∃ length,
      (armed.usb30EpInHandler bsp handover.endpNum reply).usb30.uepTxCtrl handover.index =
        usb30InSet (usb30InClearInterrupt (armed.usb30.uepTxCtrl handover.index)) usb30Enable
          usb30Ack (BitVec.ofNat 32 (handover.nump armed)) length := by
    rw [handled]
    exact ⟨_, Usb30Endpoints.announceRest_uepTxCtrl _ _ _ _ unclamped⟩
  have nump : handover.nump (armed.usb30EpInHandler bsp handover.endpNum reply) =
      handover.nump armed := by
    rw [Handover.nump, written, usb30InNump_usb30InSet _ _ _ _ fewer, usb30InNump_clear,
      Nat.zero_or]
  have totalBursts : handover.totalBursts (armed.usb30EpInHandler bsp handover.endpNum reply) =
      handover.totalBursts armed - count := by
    rw [handled]
    refine (Usb30Endpoints.announceRest_totalBursts ..).trans ?_
    change u8 (handover.totalBursts armed + 256 - count) = handover.totalBursts armed - count
    rw [counter, u8]
    omega
  have erdy : erdyNump (armed.usb30EpInHandler bsp handover.endpNum reply).usb30.usbFcCtrl =
      handover.nump armed := by
    rw [handled]
    change erdyNump (usb30SendErdyIn _ (BitVec.ofNat 32
      (if (armed.device.tx handover.endpNum).maxBurst < handover.nump armed then _ else _))) = _
    rw [if_neg unclamped]
    exact erdyNump_usb30SendErdyIn _ (by omega)
  refine ⟨⟨?_, ?_, ?_, ?_⟩, ?_, ?_, totalBursts, ⟨?_, ?_, ?_, ?_⟩⟩
  · rw [handled]
    exact packetSize
  · rw [handled]
    exact maxBurst
  · rw [totalBursts, nump, counter, taken]
  · rw [nump]
    exact within
  · rw [handled]
    rfl
  · rw [handled]
    exact Usb30Endpoints.setRemaining_self ..
  · exact erdy.trans_le within
  · exact erdy.trans_lt fewer
  · exact nump.trans_le within
  · rw [written, ctrlSequence_of_fits _ _ _ _ fewer, ctrlSequence_inClearInterrupt]

theorem countsSent (reply : UserReply) :
    handover.CountsSent count armed (armed.usb30EpInHandler bsp handover.endpNum reply) := by
  have sent := numPacketSent_eq tracked takes
  have packetSize := takes.packetSize.trans tracked.packetSize
  constructor
  · exact sent
  · intro finished
    refine completions_of_finished bsp armed reply ?_
    rw [leftAfter, sent, packetSize]
    exact Nat.sub_eq_zero_of_le finished
  · intro left
    exact (tracked_goesOn bsp tracked takes reply left).2

end Event

/-! ## The exact condition -/

/-- The number of packets, in eight bits, keeps to the maximum burst and to the field, and has all
the bits that the register held in that field before. -/
structure Fits (handover : Handover driver) : Prop where
  within : handover.totalNumPackets ≤ handover.maxBurst
  inField : handover.totalNumPackets < 32
  stale : handover.nump driver ||| handover.totalNumPackets = handover.totalNumPackets

theorem tracked_started (fits : handover.Fits) : handover.Tracked handover.started := by
  have nump := (nump_started fits.inField).trans fits.stale
  constructor
  · rw [handover.started_tx]
    rfl
  · rw [handover.started_tx]
    rfl
  · rw [totalBursts_started, nump]
  · rw [nump]
    exact fits.within

theorem withinBurst_started (fits : handover.Fits) :
    handover.WithinBurst driver handover.started := by
  obtain ⟨length, written⟩ := handover.uepTxCtrl_started
  constructor
  · rw [erdyNump_started]
    exact fits.within
  · rw [erdyNump_started]
    exact fits.inField
  · exact (tracked_started fits).within
  · rw [written]
    exact ctrlSequence_of_fits _ _ _ _ fits.inField

theorem tracked_reached (fits : handover.Fits) {state : Usb2Driver}
    (reached : handover.Reached bsp state) : handover.Tracked state := by
  induction reached with
  | started => exact tracked_started fits
  | @event count before armed _ takes reply unfinished ih =>
      have counts := countsSent bsp ih takes reply
      have left : count * handover.packetSize < handover.remainingLength armed := by
        by_contra finished
        have called := counts.finished (Nat.le_of_not_lt finished)
        rw [unfinished, takes.completions] at called
        exact absurd called (Nat.succ_ne_self _).symm
      exact (tracked_goesOn bsp ih takes reply left).1

def oneTaken (handover : Handover driver) : Usb2Driver :=
  handover.started.setUsb30 { handover.started.usb30 with
    uepTxCtrl := Function.update handover.started.usb30.uepTxCtrl handover.index
      (usb30InSet 0#32 0#32 0#32 (BitVec.ofNat 32 (handover.nump handover.started - 1)) 0#32) }

theorem nump_oneTaken (handover : Handover driver) :
    handover.nump handover.oneTaken = handover.nump handover.started - 1 := by
  have few := handover.nump_lt handover.started
  have written : handover.oneTaken.usb30.uepTxCtrl handover.index =
      usb30InSet 0#32 0#32 0#32 (BitVec.ofNat 32 (handover.nump handover.started - 1)) 0#32 :=
    Function.update_self ..
  rw [nump, written, usb30InNump_usb30InSet _ _ _ _ (by omega)]
  exact Nat.zero_or _

theorem hostTakes_oneTaken (some : 1 ≤ handover.nump handover.started) :
    handover.HostTakes 1 handover.started handover.oneTaken where
  pos := le_rfl
  le := some
  nump := handover.nump_oneTaken
  packetSize := rfl
  maxBurst := rfl
  remainingLength := rfl
  totalBursts := rfl
  completions := rfl

/-- Bits left in the register make the first packet taken be miscounted. -/
theorem stale_of_keepsToBurst (inField : handover.totalNumPackets < 32)
    (keeps : handover.KeepsToBurst bsp) :
    handover.nump driver ||| handover.totalNumPackets = handover.totalNumPackets := by
  have combined := nump_started inField
  have few := handover.nump_lt handover.started
  by_contra stale
  rw [← combined] at stale
  have more : handover.totalNumPackets ≤ handover.nump handover.started := by
    rw [combined]
    exact Nat.right_le_or
  have takes := hostTakes_oneTaken (show 1 ≤ handover.nump handover.started by omega)
  have packets := (keeps.2 _ .started 1 _ takes noReply).packets
  rw [numPacketSent, takes.totalBursts, totalBursts_started, nump_oneTaken, u8] at packets
  omega

/-- The announced bursts keep to the maximum, and the counters to the packets that were sent,
exactly if the number of packets fits. -/
theorem keeps_to_burst_iff (bsp : Usb2Bsp) {driver : Usb2Driver} (handover : Handover driver) :
    handover.KeepsToBurst bsp ↔ handover.Fits := by
  constructor
  · intro keeps
    have announced := keeps.1.announced
    have inField := keeps.1.inField
    rw [erdyNump_started] at announced inField
    exact ⟨announced, inField, stale_of_keepsToBurst bsp inField keeps⟩
  · intro fits
    refine ⟨withinBurst_started fits, fun before reached count armed takes reply => ?_⟩
    exact countsSent bsp (tracked_reached bsp fits reached) takes reply

end Handover

/-! ## Too many packets -/

/-- A SuperSpeed device with IN endpoint 1, whose buffers may be longer than its bursts. -/
def longBuffers (maxPacketSizeWithBurst : Nat) : Usb2Driver :=
  .initial { usbDevice0 with
    speed := .usb30Superspeed
    tx := Function.update usbDevice0.tx 1 ⟨0, 2, 1024, maxPacketSizeWithBurst, endpStateNak⟩ }
    fun _ => 0#8

theorem packetBuffer_ne_zero : 0x20020000 ≠ 0 := by
  decide

def twoPackets : Handover (longBuffers 2048) where
  endpNum := 1
  ptr := 0x20020000
  size := 2000
  superspeed := rfl
  notControl := endpoint1_notControl
  inFile := endpoint1_inFile
  packetSize_pos := by decide
  maxBurst_pos := by decide
  notNull := packetBuffer_ne_zero
  fits := by decide

theorem two_packets_keep_to_burst : twoPackets.KeepsToBurst ⟨3, by decide, by decide⟩ :=
  (Handover.keeps_to_burst_iff _ twoPackets).mpr ⟨by decide, by decide, by decide⟩

def threeForTwo : Handover (longBuffers 4096) where
  endpNum := 1
  ptr := 0x20020000
  size := 3000
  superspeed := rfl
  notControl := endpoint1_notControl
  inFile := endpoint1_inFile
  packetSize_pos := by decide
  maxBurst_pos := by decide
  notNull := packetBuffer_ne_zero
  fits := by decide

theorem three_packets_exceed_burst : ¬threeForTwo.KeepsToBurst ⟨3, by decide, by decide⟩ := by
  intro keeps
  exact absurd keeps.1.announced (by decide)

end WchCh56x.Usb
