import WchCh56x.Support.Packets
import WchCh56x.Usb.EventFrames
import WchCh56x.Usb.Usb30Transfers

/-!
# The bursts of a USB3 IN transfer

`usb3_endp_tx_ready` announces the packets of a buffer.  The host takes them in
several bursts, and after each one the handler announces those that are left.
-/

namespace WchCh56x.Usb

open Support.Packets

/-- The packets and the last length that `usb3_endp_tx_ready` computes for a buffer. -/
theorem packets_and_last {packetSize : Nat} (positive : 0 < packetSize) (size : Nat) :
    let full := size / packetSize
    let rest := size % packetSize
    let last := if 0 < full ∧ rest = 0 then packetSize else rest
    (full + if last ≠ packetSize then 1 else 0) = packetCount packetSize size ∧
      (packetCount packetSize size - 1) * packetSize + last = size := by
  have count := packetCount_eq size positive
  have rest_lt := Nat.mod_lt size positive
  have division := Nat.div_add_mod' size packetSize
  dsimp only
  rw [count]
  split
  · next whole =>
      rw [if_neg (fun different => different rfl)]
      refine ⟨rfl, ?_⟩
      rw [Nat.add_zero, Nat.sub_mul, Nat.one_mul]
      have atLeast := Nat.le_mul_of_pos_left packetSize whole.1
      omega
  · rw [if_pos rest_lt.ne]
    exact ⟨rfl, division⟩

/-- The driver when `usb30_ep_in_handler` has counted the packets.  If nothing is left,
`tx_complete` is called from it, and otherwise the handler is done. -/
def Usb2Driver.countPackets (driver : Usb2Driver) (endpNum : Fin 16) (i : Fin 8) : Usb2Driver :=
  let endp := driver.device.tx endpNum
  let nump := usb30InNump (driver.usb30.uepTxCtrl i)
  let numPacketSent := u8 (driver.usb30.txTotalBursts i + 256 - nump)
  let remaining :=
    usb30RemainingAfter endp.maxPacketSize numPacketSent (driver.usb30.txRemainingLength i)
  let counted := driver.usb30.setRemaining i remaining
  if remaining = 0 then
    driver.setUsb30 (counted.inClearInterrupt i)
  else
    driver.setUsb30 (counted.announceRest i endp endpNum nump numPacketSent)

theorem usb30EpInHandler_of_countPackets (bsp : Usb2Bsp) (driver : Usb2Driver)
    {endpNum : Fin 16} {i : Fin 8} (isIndex : usb30EndpIndex endpNum = some i)
    (reply : UserReply) :
    let counted := driver.countPackets endpNum i
    let returned := counted.invoke bsp (.txComplete endpNum) reply
    driver.usb30EpInHandler bsp endpNum reply =
      if counted.usb30.txRemainingLength i = 0 then
        returned.setUsb30 (returned.usb30.afterTxComplete i)
      else
        counted := by
  unfold Usb2Driver.usb30EpInHandler Usb2Driver.countPackets
  rw [isIndex]
  dsimp only
  split
  · next none => exact (if_pos ((Usb30Endpoints.setRemaining_self ..).trans none)).symm
  · next some => exact (if_neg fun none => some ((Usb30Endpoints.setRemaining_self ..).symm.trans
      none)).symm

/-! ## A transfer -/

/-- A buffer for an endpoint with registers of its own, which fits its bursts. -/
structure BurstTransfer (driver : Usb2Driver) where
  endpNum : Fin 16
  size : Nat
  notControl : endpNum ≠ 0
  inFile : endpNum.val < 8
  packetSize_pos : 0 < (driver.device.tx endpNum).maxPacketSize
  maxBurst_pos : 1 ≤ (driver.device.tx endpNum).maxBurst
  maxBurst_le : (driver.device.tx endpNum).maxBurst ≤ 16
  withBurst_le : (driver.device.tx endpNum).maxPacketSizeWithBurst ≤
    (driver.device.tx endpNum).maxPacketSize * (driver.device.tx endpNum).maxBurst
  fits : size ≤ (driver.device.tx endpNum).maxPacketSizeWithBurst
  /-- The control register holds its sequence bits only. -/
  cleared : usb30InClearInterrupt (driver.usb30.uepTxCtrl ⟨endpNum.val, inFile⟩) =
    driver.usb30.uepTxCtrl ⟨endpNum.val, inFile⟩

namespace BurstTransfer

variable (bsp : Usb2Bsp) {driver : Usb2Driver} (transfer : BurstTransfer driver)

def index : Fin 8 := ⟨transfer.endpNum.val, transfer.inFile⟩

def packetSize : Nat := (driver.device.tx transfer.endpNum).maxPacketSize

def packets : Nat := packetCount transfer.packetSize transfer.size

def sizesTaken (taken : Nat) : Nat :=
  ((List.range taken).map (packetLength transfer.packetSize transfer.size)).sum

def nump (state : Usb2Driver) : Nat := usb30InNump (state.usb30.uepTxCtrl transfer.index)

def txLen (state : Usb2Driver) : Nat := usb30InTxLen (state.usb30.uepTxCtrl transfer.index)

def totalBursts (state : Usb2Driver) : Nat := state.usb30.txTotalBursts transfer.index

def remainingLength (state : Usb2Driver) : Nat := state.usb30.txRemainingLength transfer.index

def completions (state : Usb2Driver) : Nat := state.called (.txComplete transfer.endpNum)

def started : Usb2Driver :=
  driver.setUsb30 ((usb3EndpTxReady (driver.device.tx transfer.endpNum) driver.usb30
    transfer.endpNum transfer.size).getD driver.usb30)

/-- The host takes packets, and whatever else happens leaves the endpoint alone. -/
structure HostTakes (count : Nat) (before armed : Usb2Driver) : Prop where
  pos : 1 ≤ count
  le : count ≤ transfer.nump before
  nump : transfer.nump armed = transfer.nump before - count
  endpoint : armed.device.tx transfer.endpNum = before.device.tx transfer.endpNum
  remainingLength : transfer.remainingLength armed = transfer.remainingLength before
  totalBursts : transfer.totalBursts armed = transfer.totalBursts before
  completions : transfer.completions armed = transfer.completions before

/-- The states of the transfer with the number of packets that the host has taken. -/
inductive Reached : Nat → Usb2Driver → Prop
  | ready (usb30 : Usb30Endpoints)
      (ran : usb3EndpTxReady (driver.device.tx transfer.endpNum) driver.usb30 transfer.endpNum
        transfer.size = some usb30) :
      Reached 0 (driver.setUsb30 usb30)
  | event {taken count : Nat} {before armed : Usb2Driver} (reached : Reached taken before)
      (unfinished : taken < transfer.packets) (takes : transfer.HostTakes count before armed)
      (reply : UserReply) :
      Reached (taken + count) (armed.usb30EpInHandler bsp transfer.endpNum reply)

/-- A state of the transfer, with the driver as the last event has counted the packets. -/
inductive Counted : Nat → Usb2Driver → Usb2Driver → Prop
  | ready {state : Usb2Driver} (reached : transfer.Reached bsp 0 state) : Counted 0 state state
  | event {taken count : Nat} {before armed : Usb2Driver}
      (reached : transfer.Reached bsp taken before) (unfinished : taken < transfer.packets)
      (takes : transfer.HostTakes count before armed) (reply : UserReply) :
      Counted (taken + count) (armed.countPackets transfer.endpNum transfer.index)
        (armed.usb30EpInHandler bsp transfer.endpNum reply)

/-- The length of the last packet, of which the control register holds eleven bits. -/
def lastLength : Nat := transfer.size - (transfer.packets - 1) * transfer.packetSize

/-- The counters describe the packets that are left, and `tx_complete` has been called exactly if
the last one has been taken. -/
structure AccountsExactly (taken : Nat) (counted state : Usb2Driver) : Prop where
  totalBursts : transfer.totalBursts counted = transfer.packets - taken
  nump : transfer.nump counted = transfer.packets - taken
  lastLength : 0 < transfer.nump counted →
    (transfer.nump counted - 1) * transfer.packetSize + transfer.txLen counted =
      transfer.remainingLength counted
  sizes : transfer.sizesTaken taken + transfer.remainingLength counted = transfer.size
  completions : transfer.completions state =
    transfer.completions driver + if taken = transfer.packets then 1 else 0

/-- The registers and counters agree on the packets that are left. -/
structure Sending (taken : Nat) (state : Usb2Driver) : Prop where
  unfinished : taken < transfer.packets
  endpoint : state.device.tx transfer.endpNum = driver.device.tx transfer.endpNum
  totalBursts : transfer.totalBursts state = transfer.packets - taken
  nump : transfer.nump state = transfer.packets - taken
  lastLength : ∃ length, (transfer.nump state - 1) * transfer.packetSize + length =
    transfer.remainingLength state ∧ transfer.txLen state = length % 2048
  sizes : transfer.sizesTaken taken + transfer.remainingLength state = transfer.size
  completions : transfer.completions state = transfer.completions driver

structure Completed (taken : Nat) (state : Usb2Driver) : Prop where
  finished : taken = transfer.packets
  sizes : transfer.sizesTaken taken = transfer.size
  called : ∃ atCall reply, transfer.remainingLength atCall = 0 ∧ transfer.nump atCall = 0 ∧
    transfer.completions atCall = transfer.completions driver ∧
    ∃ returned : Usb2Driver, returned = atCall.invoke bsp (.txComplete transfer.endpNum) reply ∧
      state = returned.setUsb30 (returned.usb30.afterTxComplete transfer.index)
  completions : transfer.completions state = transfer.completions driver + 1

/-! ## The start -/

variable {transfer}

theorem index_eq (transfer : BurstTransfer driver) :
    usb30EndpIndex transfer.endpNum = some transfer.index := by
  rw [usb30EndpIndex, dif_pos transfer.inFile, if_neg transfer.notControl]
  rfl

theorem packets_le (transfer : BurstTransfer driver) :
    transfer.packets ≤ (driver.device.tx transfer.endpNum).maxBurst :=
  packetCount_le transfer.packetSize_pos transfer.maxBurst_pos
    (transfer.fits.trans transfer.withBurst_le)

theorem lastPacket_eq (transfer : BurstTransfer driver) :
    let full := transfer.size / transfer.packetSize
    let rest := transfer.size % transfer.packetSize
    let last := if 0 < full ∧ rest = 0 then transfer.packetSize else rest
    (full + if last ≠ transfer.packetSize then 1 else 0) = transfer.packets ∧
      (transfer.packets - 1) * transfer.packetSize + last = transfer.size :=
  packets_and_last transfer.packetSize_pos transfer.size

theorem usb3EndpTxReady_eq (transfer : BurstTransfer driver) :
    usb3EndpTxReady (driver.device.tx transfer.endpNum) driver.usb30 transfer.endpNum
        transfer.size =
      some { driver.usb30 with
        uepTxDma := Function.update driver.usb30.uepTxDma transfer.index
          (driver.device.tx transfer.endpNum).buffer
        txRemainingLength := Function.update driver.usb30.txRemainingLength transfer.index
          transfer.size
        txTotalBursts := Function.update driver.usb30.txTotalBursts transfer.index
          transfer.packets
        uepTxCtrl := Function.update driver.usb30.uepTxCtrl transfer.index
          (usb30InSet (driver.usb30.uepTxCtrl transfer.index) usb30Enable usb30Ack
            (BitVec.ofNat 32 transfer.packets)
            (BitVec.ofNat 32 (transfer.size - (transfer.packets - 1) * transfer.packetSize)))
        usbFcCtrl := usb30SendErdyIn (BitVec.ofNat 32 transfer.endpNum.val)
          (BitVec.ofNat 32 transfer.packets) } := by
  obtain ⟨count, last⟩ := transfer.lastPacket_eq
  have inByte : transfer.packets < 256 := by
    have few := transfer.packets_le
    have bursts := transfer.maxBurst_le
    omega
  have lastLength := Nat.eq_sub_of_add_eq' last
  unfold usb3EndpTxReady
  rw [transfer.index_eq]
  dsimp only
  rw [if_neg transfer.packetSize_pos.ne']
  change some _ = some _
  unfold packetSize at count lastLength
  rw [lastLength] at count ⊢
  rw [count, u8_of_lt inByte]
  rfl

theorem sizesTaken_eq (transfer : BurstTransfer driver) (taken : Nat) :
    transfer.sizesTaken taken = min transfer.size (taken * transfer.packetSize) :=
  sum_packetLength ..

theorem reached_started : transfer.Reached bsp 0 transfer.started := by
  have ran := transfer.usb3EndpTxReady_eq
  rw [started, ran]
  exact .ready _ ran

/-- The length of the last packet is the same for every burst. -/
theorem sending_of_registers {taken : Nat} {state : Usb2Driver}
    (unfinished : taken < transfer.packets)
    (endpoint : state.device.tx transfer.endpNum = driver.device.tx transfer.endpNum)
    (totalBursts : transfer.totalBursts state = transfer.packets - taken)
    (nump : transfer.nump state = transfer.packets - taken)
    (txLen : transfer.txLen state =
      (transfer.size - (transfer.packets - 1) * transfer.packetSize) % 2048)
    (remaining : transfer.remainingLength state = transfer.size - taken * transfer.packetSize)
    (completions : transfer.completions state = transfer.completions driver) :
    transfer.Sending taken state := by
  obtain ⟨_, last⟩ := transfer.lastPacket_eq
  refine ⟨unfinished, endpoint, totalBursts, nump, ⟨_, ?_, txLen⟩, ?_, completions⟩
  · have split : (transfer.packets - 1) * transfer.packetSize =
        taken * transfer.packetSize + (transfer.packets - taken - 1) * transfer.packetSize := by
      rw [← Nat.add_mul]
      congr 1
      omega
    rw [nump, remaining]
    omega
  · rw [transfer.sizesTaken_eq, remaining]
    omega

/-- A control register that held its sequence bits only. -/
theorem announced (ctrl : U32) {nump : Nat} (few : nump ≤ 16) (length : Nat) :
    let written := usb30InSet (usb30InClearInterrupt ctrl) usb30Enable usb30Ack
      (BitVec.ofNat 32 nump) (BitVec.ofNat 32 length)
    usb30InNump written = nump ∧ usb30InTxLen written = length % 2048 := by
  constructor
  · rw [usb30InNump_set, BitVec.toNat_ofNat]
    omega
  · rw [usb30InTxLen_set, BitVec.toNat_ofNat]
    omega

theorem sending_started {usb30 : Usb30Endpoints}
    (ran : usb3EndpTxReady (driver.device.tx transfer.endpNum) driver.usb30 transfer.endpNum
      transfer.size = some usb30) :
    transfer.Sending 0 (driver.setUsb30 usb30) := by
  rw [transfer.usb3EndpTxReady_eq] at ran
  have few := transfer.packets_le.trans transfer.maxBurst_le
  obtain ⟨nump, txLen⟩ := announced (driver.usb30.uepTxCtrl transfer.index) few
    (transfer.size - (transfer.packets - 1) * transfer.packetSize)
  have ctrl : usb30.uepTxCtrl transfer.index =
      usb30InSet (usb30InClearInterrupt (driver.usb30.uepTxCtrl transfer.index)) usb30Enable
        usb30Ack (BitVec.ofNat 32 transfer.packets)
        (BitVec.ofNat 32 (transfer.size - (transfer.packets - 1) * transfer.packetSize)) := by
    obtain rfl := Option.some.inj ran
    rw [show usb30InClearInterrupt (driver.usb30.uepTxCtrl transfer.index) = _
      from transfer.cleared]
    exact Function.update_self ..
  apply sending_of_registers
  · exact packetCount_pos ..
  · rfl
  · obtain rfl := Option.some.inj ran
    exact Function.update_self ..
  · exact (congrArg usb30InNump ctrl).trans nump
  · exact (congrArg usb30InTxLen ctrl).trans txLen
  · obtain rfl := Option.some.inj ran
    rw [Nat.zero_mul]
    exact Function.update_self ..
  · rfl

/-! ## One event -/

theorem ofNat_sub_ofNat {less more : Nat} (le : less ≤ more) :
    BitVec.ofNat 32 more - BitVec.ofNat 32 less = BitVec.ofNat 32 (more - less) := by
  rw [eq_comm, BitVec.eq_sub_iff_add_eq, ← BitVec.ofNat_add, Nat.sub_add_cancel le]

section Event

variable {taken count : Nat} {before armed : Usb2Driver}

/-- What the handler reads when the host has taken packets. -/
theorem counted (sending : transfer.Sending taken before)
    (takes : transfer.HostTakes count before armed) :
    u8 (transfer.totalBursts armed + 256 - transfer.nump armed) = count ∧
      usb30RemainingAfter transfer.packetSize count (transfer.remainingLength armed) =
        transfer.size - (taken + count) * transfer.packetSize := by
  have few := transfer.packets_le.trans transfer.maxBurst_le
  have sizes := sending.sizes
  have le := takes.le
  rw [sending.nump] at le
  rw [transfer.sizesTaken_eq] at sizes
  constructor
  · rw [takes.totalBursts, takes.nump, sending.totalBursts, sending.nump, u8]
    omega
  · rw [usb30RemainingAfter_eq, takes.remainingLength, Nat.add_mul]
    omega

/-- The handler with what it reads. -/
theorem usb30EpInHandler_eq (sending : transfer.Sending taken before)
    (takes : transfer.HostTakes count before armed) (reply : UserReply) :
    let remaining := transfer.size - (taken + count) * transfer.packetSize
    let set := armed.usb30.setRemaining transfer.index remaining
    let returned := (armed.setUsb30 (set.inClearInterrupt transfer.index)).invoke bsp
      (.txComplete transfer.endpNum) reply
    armed.usb30EpInHandler bsp transfer.endpNum reply =
      if remaining = 0 then
        returned.setUsb30 (returned.usb30.afterTxComplete transfer.index)
      else
        armed.setUsb30 (set.announceRest transfer.index (driver.device.tx transfer.endpNum)
          transfer.endpNum (transfer.packets - (taken + count)) count) := by
  obtain ⟨sent, rest⟩ := counted sending takes
  have endpoint := takes.endpoint.trans sending.endpoint
  have nump : usb30InNump (armed.usb30.uepTxCtrl transfer.index) =
      transfer.packets - (taken + count) := by
    rw [← Nat.sub_sub, ← sending.nump]
    exact takes.nump
  unfold Usb2Driver.usb30EpInHandler
  rw [transfer.index_eq, endpoint]
  dsimp only
  rw [show u8 (armed.usb30.txTotalBursts transfer.index + 256 -
      usb30InNump (armed.usb30.uepTxCtrl transfer.index)) = count from sent, nump,
    show usb30RemainingAfter (driver.device.tx transfer.endpNum).maxPacketSize count
      (armed.usb30.txRemainingLength transfer.index) = _ from rest]

/-- The length that the handler announces is the one of the last packet. -/
theorem announcedLength_eq {rest : Nat} (rest_pos : 0 < rest)
    (inside : rest + taken = transfer.packets) :
    (if rest * transfer.packetSize ≤ transfer.size - taken * transfer.packetSize then
      BitVec.ofNat 32 transfer.packetSize
    else
      BitVec.ofNat 32 (transfer.size - taken * transfer.packetSize) -
        (BitVec.ofNat 32 rest - 1#32) * BitVec.ofNat 32 transfer.packetSize) =
      BitVec.ofNat 32 (transfer.size - (transfer.packets - 1) * transfer.packetSize) := by
  obtain ⟨_, last⟩ := transfer.lastPacket_eq
  have covered : transfer.size ≤ transfer.packets * transfer.packetSize :=
    size_le_packetCount_mul transfer.size transfer.packetSize_pos
  have before : (transfer.packets - 1) * transfer.packetSize =
      (rest - 1) * transfer.packetSize + taken * transfer.packetSize := by
    rw [← Nat.add_mul]
    congr 1
    omega
  have whole : transfer.packets * transfer.packetSize =
      (rest - 1) * transfer.packetSize + transfer.packetSize + taken * transfer.packetSize := by
    rw [← Nat.succ_mul, ← Nat.add_mul]
    congr 1
    omega
  have restMul : rest * transfer.packetSize =
      (rest - 1) * transfer.packetSize + transfer.packetSize := by
    rw [← Nat.succ_mul]
    congr 1
    omega
  split
  · congr 1
    omega
  · rw [show 1#32 = BitVec.ofNat 32 1 from rfl, ofNat_sub_ofNat (show 1 ≤ rest from rest_pos),
      ← BitVec.ofNat_mul, ofNat_sub_ofNat (by omega)]
    congr 1
    omega

theorem Sending.next (sending : transfer.Sending taken before)
    (takes : transfer.HostTakes count before armed) (reply : UserReply)
    (more : taken + count < transfer.packets) :
    transfer.Sending (taken + count)
      (armed.usb30EpInHandler bsp transfer.endpNum reply) := by
  have few := transfer.packets_le.trans transfer.maxBurst_le
  have later : taken + count ≠ 0 := by
    have positive := takes.pos
    omega
  have left : transfer.size - (taken + count) * transfer.packetSize ≠ 0 := by
    have inside := (lt_packetCount_iff transfer.packetSize_pos later).mp more
    exact Nat.sub_ne_zero_of_lt inside
  have unclamped : ¬ (driver.device.tx transfer.endpNum).maxBurst <
      transfer.packets - (taken + count) := by
    have bursts := transfer.packets_le
    omega
  obtain ⟨nump, txLen⟩ := announced (armed.usb30.uepTxCtrl transfer.index)
    ((Nat.sub_le _ (taken + count)).trans few)
    (transfer.size - (transfer.packets - 1) * transfer.packetSize)
  have length := @announcedLength_eq driver transfer (taken + count) _ (Nat.sub_pos_of_lt more)
    (Nat.sub_add_cancel more.le)
  have written := usb30EpInHandler_eq bsp sending takes reply
  dsimp only at written
  rw [if_neg left] at written
  have remaining : transfer.remainingLength
      (armed.usb30EpInHandler bsp transfer.endpNum reply) =
        transfer.size - (taken + count) * transfer.packetSize := by
    rw [written]
    exact Function.update_self ..
  have ctrl : (armed.usb30EpInHandler bsp transfer.endpNum reply).usb30.uepTxCtrl transfer.index =
      usb30InSet (usb30InClearInterrupt (armed.usb30.uepTxCtrl transfer.index)) usb30Enable
        usb30Ack (BitVec.ofNat 32 (transfer.packets - (taken + count)))
        (BitVec.ofNat 32 (transfer.size - (transfer.packets - 1) * transfer.packetSize)) := by
    rw [written, ← length]
    refine (Usb30Endpoints.announceRest_uepTxCtrl _ _ _ _ unclamped).trans ?_
    rw [Usb30Endpoints.setRemaining_self]
    rfl
  apply sending_of_registers
  · exact more
  · rw [written]
    exact takes.endpoint.trans sending.endpoint
  · rw [written]
    refine (Usb30Endpoints.announceRest_totalBursts ..).trans ?_
    have bursts := takes.totalBursts.trans sending.totalBursts
    rw [show ((armed.usb30.setRemaining transfer.index _).txTotalBursts transfer.index) = _
      from bursts, u8]
    omega
  · exact (congrArg usb30InNump ctrl).trans nump
  · exact (congrArg usb30InTxLen ctrl).trans txLen
  · exact remaining
  · rw [written]
    exact takes.completions.trans sending.completions

theorem Sending.last (sending : transfer.Sending taken before)
    (takes : transfer.HostTakes count before armed) (reply : UserReply)
    (isLast : taken + count = transfer.packets) :
    transfer.Completed bsp (taken + count)
      (armed.usb30EpInHandler bsp transfer.endpNum reply) := by
  have covered : transfer.size ≤ (taken + count) * transfer.packetSize := by
    rw [isLast]
    exact size_le_packetCount_mul transfer.size transfer.packetSize_pos
  have none := Nat.sub_eq_zero_of_le covered
  have written := usb30EpInHandler_eq bsp sending takes reply
  dsimp only at written
  rw [if_pos none, none] at written
  have uncalled := takes.completions.trans sending.completions
  refine ⟨isLast, ?_, ⟨armed.setUsb30 ((armed.usb30.setRemaining transfer.index 0).inClearInterrupt
    transfer.index), reply, ?_, ?_, uncalled, _, rfl, written⟩, ?_⟩
  · rw [transfer.sizesTaken_eq]
    exact Nat.min_eq_left covered
  · exact Usb30Endpoints.setRemaining_self ..
  · exact (congrArg usb30InNump (Usb30Endpoints.inClearInterrupt_self ..)).trans
      (usb30InNump_clear _)
  · rw [written]
    change List.count _ (Usb2Driver.invoke bsp _ _ reply).userCalls = _
    rw [userCalls_invoke, List.count_append, List.count_singleton_self]
    exact congrArg (· + 1) uncalled

end Event

/-! ## The whole transfer -/

/-- While packets are left the registers and counters agree on them, and the event that takes the
last one calls `tx_complete`. -/
theorem sending_or_completed {taken : Nat} {state : Usb2Driver}
    (reached : transfer.Reached bsp taken state) :
    transfer.Sending taken state ∨ transfer.Completed bsp taken state := by
  induction reached with
  | ready usb30 ran => exact .inl (sending_started ran)
  | @event taken count before armed _ unfinished takes reply ih =>
      rcases ih with sending | completed
      · have le := takes.le
        rw [sending.nump] at le
        rcases Nat.lt_or_ge (taken + count) transfer.packets with more | enough
        · exact .inl (sending.next bsp takes reply more)
        · exact .inr (sending.last bsp takes reply (by omega))
      · exact absurd completed.finished unfinished.ne

/-- While packets are left the last length is the one that does not fit. -/
theorem Sending.accountsExactly_iff {taken : Nat} {state : Usb2Driver}
    (sending : transfer.Sending taken state) :
    transfer.AccountsExactly taken state state ↔ transfer.lastLength < 2048 := by
  obtain ⟨length, whole, txLen⟩ := sending.lastLength
  have isLast : length = transfer.lastLength := by
    obtain ⟨_, last⟩ := transfer.lastPacket_eq
    have split : (transfer.packets - 1) * transfer.packetSize =
        taken * transfer.packetSize + (transfer.packets - taken - 1) * transfer.packetSize := by
      rw [← Nat.add_mul]
      congr 1
      have unfinished := sending.unfinished
      omega
    have sizes := sending.sizes
    rw [transfer.sizesTaken_eq] at sizes
    rw [sending.nump] at whole
    unfold BurstTransfer.lastLength
    omega
  rw [← isLast]
  constructor
  · intro exactly
    have left : 0 < transfer.nump state := by
      rw [sending.nump]
      exact Nat.sub_pos_of_lt sending.unfinished
    have announced := exactly.lastLength left
    rw [txLen] at announced
    omega
  · intro fits
    refine ⟨sending.totalBursts, sending.nump, fun _ => ?_, sending.sizes, ?_⟩
    · rw [txLen, Nat.mod_eq_of_lt fits]
      exact whole
    · rw [if_neg sending.unfinished.ne]
      exact sending.completions

section Event

variable {taken count : Nat} {before armed : Usb2Driver}

theorem remaining_countPackets (sending : transfer.Sending taken before)
    (takes : transfer.HostTakes count before armed) :
    (armed.countPackets transfer.endpNum transfer.index).usb30.txRemainingLength transfer.index =
      transfer.size - (taken + count) * transfer.packetSize := by
  obtain ⟨sent, rest⟩ := counted sending takes
  have endpoint := takes.endpoint.trans sending.endpoint
  unfold Usb2Driver.countPackets
  rw [endpoint]
  dsimp only
  rw [show u8 (armed.usb30.txTotalBursts transfer.index + 256 -
      usb30InNump (armed.usb30.uepTxCtrl transfer.index)) = count from sent,
    show usb30RemainingAfter (driver.device.tx transfer.endpNum).maxPacketSize count
      (armed.usb30.txRemainingLength transfer.index) = _ from rest]
  split
  · exact Usb30Endpoints.setRemaining_self ..
  · exact Usb30Endpoints.setRemaining_self ..

/-- An event that leaves packets is done when it has counted them. -/
theorem countPackets_of_more (sending : transfer.Sending taken before)
    (takes : transfer.HostTakes count before armed) (reply : UserReply)
    (more : taken + count < transfer.packets) :
    armed.usb30EpInHandler bsp transfer.endpNum reply =
      armed.countPackets transfer.endpNum transfer.index := by
  have later : taken + count ≠ 0 := by
    have positive := takes.pos
    omega
  have inside : (taken + count) * transfer.packetSize < transfer.size :=
    (lt_packetCount_iff transfer.packetSize_pos later).mp more
  have handled := usb30EpInHandler_of_countPackets bsp armed transfer.index_eq reply
  dsimp only at handled
  rw [remaining_countPackets sending takes, if_neg (Nat.sub_ne_zero_of_lt inside)] at handled
  exact handled

/-- The event that takes the last packet does not count it off the burst. -/
theorem totalBursts_of_last (sending : transfer.Sending taken before)
    (takes : transfer.HostTakes count before armed)
    (isLast : taken + count = transfer.packets) :
    transfer.totalBursts (armed.countPackets transfer.endpNum transfer.index) =
      transfer.packets - taken := by
  obtain ⟨sent, rest⟩ := counted sending takes
  have endpoint := takes.endpoint.trans sending.endpoint
  have covered : transfer.size ≤ (taken + count) * transfer.packetSize := by
    rw [isLast]
    exact size_le_packetCount_mul transfer.size transfer.packetSize_pos
  refine Eq.trans ?_ (takes.totalBursts.trans sending.totalBursts)
  unfold Usb2Driver.countPackets
  rw [endpoint]
  dsimp only
  rw [show u8 (armed.usb30.txTotalBursts transfer.index + 256 -
      usb30InNump (armed.usb30.uepTxCtrl transfer.index)) = count from sent,
    show usb30RemainingAfter (driver.device.tx transfer.endpNum).maxPacketSize count
      (armed.usb30.txRemainingLength transfer.index) = _ from rest,
    if_pos (Nat.sub_eq_zero_of_le covered)]
  rfl

/-- The accounting is exact after an event exactly if it leaves packets, of which the last one fits
the register. -/
theorem accountsExactly_event_iff (sending : transfer.Sending taken before)
    (takes : transfer.HostTakes count before armed) (reply : UserReply) :
    transfer.AccountsExactly (taken + count)
        (armed.countPackets transfer.endpNum transfer.index)
        (armed.usb30EpInHandler bsp transfer.endpNum reply) ↔
      taken + count < transfer.packets ∧ transfer.lastLength < 2048 := by
  have le := takes.le
  have unfinished := sending.unfinished
  rw [sending.nump] at le
  rcases Nat.lt_or_ge (taken + count) transfer.packets with more | enough
  · have next := (sending.next bsp takes reply more).accountsExactly_iff
    rw [← countPackets_of_more bsp sending takes reply more, next]
    exact (and_iff_right more).symm
  · have isLast : taken + count = transfer.packets := by omega
    refine ⟨fun exactly => ?_, fun both => absurd both.1 (Nat.not_lt.mpr enough)⟩
    have none := exactly.totalBursts
    rw [totalBursts_of_last sending takes isLast] at none
    omega

end Event

/-- `usb3_endp_tx_ready` accepts the buffer, packets are left or `tx_complete` is called at the last
one, and the accounting is exact as long as packets are left of which the last fits the register. -/
theorem usb3_in_accounting (transfer : BurstTransfer driver) :
    (∃ usb30, usb3EndpTxReady (driver.device.tx transfer.endpNum) driver.usb30 transfer.endpNum
      transfer.size = some usb30) ∧
    (∀ taken state, transfer.Reached bsp taken state →
      transfer.Sending taken state ∨ transfer.Completed bsp taken state) ∧
    ∀ taken counted state, transfer.Counted bsp taken counted state →
      (transfer.AccountsExactly taken counted state ↔
        taken < transfer.packets ∧ transfer.lastLength < 2048) := by
  refine ⟨⟨_, transfer.usb3EndpTxReady_eq⟩, fun _ _ => sending_or_completed bsp,
    fun taken counted state isCounted => ?_⟩
  cases isCounted with
  | ready reached =>
      rcases sending_or_completed bsp reached with sending | completed
      · rw [sending.accountsExactly_iff]
        exact (and_iff_right sending.unfinished).symm
      · exact absurd completed.finished (packetCount_pos ..).ne
  | event reached unfinished takes reply =>
      rcases sending_or_completed bsp reached with sending | completed
      · exact accountsExactly_event_iff bsp sending takes reply
      · exact absurd completed.finished unfinished.ne

end BurstTransfer

/-! ## Some transfers -/

def burstDriver (maxPacketSize maxBurst : Nat) : Usb2Driver :=
  .initial { usbDevice0 with
    tx := Function.update usbDevice0.tx 1
      ⟨0x20020000, maxBurst, maxPacketSize, maxPacketSize * maxBurst, endpStateNak⟩ } fun _ => 0#8

/-- The hardware has put a word into the control register of endpoint 1. -/
def Usb2Driver.burstTaken (driver : Usb2Driver) (ctrl : U32) : Usb2Driver :=
  driver.setUsb30 { driver.usb30 with uepTxCtrl := Function.update driver.usb30.uepTxCtrl 1 ctrl }

def threePackets : BurstTransfer (burstDriver 1024 4) where
  endpNum := 1
  size := 2500
  notControl := endpoint1_notControl
  inFile := endpoint1_inFile
  packetSize_pos := by decide
  maxBurst_pos := by decide
  maxBurst_le := by decide
  withBurst_le := by decide
  fits := by decide
  cleared := by decide

/-- The host takes the first of three packets. -/
theorem three_packets_accounting :
    ∃ counted state, threePackets.Counted ⟨3, by decide, by decide⟩ 1 counted state ∧
      (threePackets.Sending 1 state ∨ threePackets.Completed ⟨3, by decide, by decide⟩ 1 state) ∧
      threePackets.AccountsExactly 1 counted state := by
  have takes : threePackets.HostTakes 1 threePackets.started
      (threePackets.started.burstTaken 0x00020000#32) :=
    ⟨by decide, by decide, by decide, rfl, rfl, rfl, rfl⟩
  have started := @BurstTransfer.reached_started ⟨3, by decide, by decide⟩ _ threePackets
  have counted := BurstTransfer.Counted.event started (by decide) takes noReply
  obtain ⟨_, served, exactly⟩ := threePackets.usb3_in_accounting ⟨3, by decide, by decide⟩
  exact ⟨_, _, counted, served _ _ (started.event (by decide) takes noReply),
    (exactly _ _ _ counted).mpr ⟨by decide, by decide⟩⟩

def onePacket : BurstTransfer (burstDriver 1024 1) where
  endpNum := 1
  size := 8
  notControl := endpoint1_notControl
  inFile := endpoint1_inFile
  packetSize_pos := by decide
  maxBurst_pos := by decide
  maxBurst_le := by decide
  withBurst_le := by decide
  fits := by decide
  cleared := by decide

def longPacket : BurstTransfer (burstDriver 4096 1) where
  endpNum := 1
  size := 2048
  notControl := endpoint1_notControl
  inFile := endpoint1_inFile
  packetSize_pos := by decide
  maxBurst_pos := by decide
  maxBurst_le := by decide
  withBurst_le := by decide
  fits := by decide
  cleared := by decide

/-- The last event keeps the burst count, and a length of 2048 is announced as 0. -/
theorem burst_count_kept_and_length_cut :
    (∃ counted state, onePacket.Counted ⟨3, by decide, by decide⟩ 1 counted state ∧
      ¬ onePacket.AccountsExactly 1 counted state) ∧
    ∃ counted state, longPacket.Counted ⟨3, by decide, by decide⟩ 0 counted state ∧
      ¬ longPacket.AccountsExactly 0 counted state := by
  constructor
  · have takes : onePacket.HostTakes 1 onePacket.started (onePacket.started.burstTaken 0#32) :=
      ⟨by decide, by decide, by decide, rfl, rfl, rfl, rfl⟩
    refine ⟨_, _, .event (BurstTransfer.reached_started _) (by decide) takes noReply,
      fun exactly => ?_⟩
    exact absurd exactly.totalBursts (by decide)
  · refine ⟨_, _, .ready (BurstTransfer.reached_started _), fun exactly => ?_⟩
    exact absurd exactly.lastLength (by decide)

end WchCh56x.Usb
