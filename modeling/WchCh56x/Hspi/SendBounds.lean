import Mathlib.Order.Interval.Set.Basic
import WchCh56x.Hspi.FailedSends

/-!
# The bytes that a send copies

`hspi_send` allocates a buffer of `hspi_packet_size` bytes and copies as many
bytes as its caller says.
-/

namespace WchCh56x.Memory

theorem PoolConfig.Ico_subset_run_iff (config : PoolConfig) (start count size : Nat) :
    Set.Ico (config.addressOf start) (config.addressOf start + size) ⊆ config.run start count ↔
      size ≤ config.blockSize * count := by
  unfold PoolConfig.run
  rw [config.addressOf_add]
  cases size with
  | zero => simp
  | succ size =>
      rw [Set.Ico_subset_Ico_iff (by omega)]
      omega

/-- A run that was free shares no address with a live allocation. -/
theorem RamxPool.Accounts.not_mem_run {config : PoolConfig} {pool : RamxPool}
    {ledger : Support.Ledger} (accounts : pool.Accounts config ledger) {start count : Nat}
    (search : freeRun pool.blocks count = some start) {interval : Support.Interval}
    (member : interval ∈ ledger) {address : Nat} (inside : address ∈ config.run start count) :
    address ∉ config.run interval.start interval.length := by
  obtain ⟨positive, fits, _⟩ := freeRun_eq_some_iff.mp search
  have fitting := fits.1
  rw [accounts.blocksLength] at fitting
  obtain ⟨_, _, free⟩ := (accounts.freeRun_iff start count).mpr ⟨positive, fitting, fits.2⟩
  have apart := (List.pairwise_cons.mp (accounts.valid.grant positive fitting free).apart).1
    interval member
  -- the blocks of the one end before those of the other begin
  have ordered {first second : Nat} (before : first ≤ second) :
      config.addressOf first ≤ config.addressOf second :=
    Nat.add_le_add_left (Nat.mul_le_mul_left _ before) _
  obtain ⟨low, high⟩ := inside
  rintro ⟨otherLow, otherHigh⟩
  rcases apart with below | above
  · have separate := ordered below
    unfold Support.Interval.finish at separate
    dsimp only at separate
    omega
  · have separate := ordered above
    unfold Support.Interval.finish at separate
    dsimp only at separate
    omega

end WchCh56x.Memory

namespace WchCh56x.Hspi

open Memory InterruptQueue HspiSystem

/-- The bytes copied for the task with the arguments at `ptr` stay inside the `count` blocks from
`start` on, and the bytes of all allocations that were live before are unchanged. -/
structure StaysInside (config : HspiConfig) (hspi after : HspiScheduled) (ptr start count : Nat) :
    Prop where
  copied : Set.Ico (after.args ptr).buffer ((after.args ptr).buffer + (after.args ptr).size) ⊆
    config.ramx.run start count
  others : ∀ ledger, hspi.ramxPool.Accounts config.ramx ledger → ∀ interval ∈ ledger,
    ∀ address ∈ config.ramx.run interval.start interval.length,
      after.memory address = hspi.memory address

/-- What a send does that returns true for a buffer outside the RAMX pool. -/
theorem hspiSend_of_accepted {config : HspiConfig} {hspi after : HspiScheduled}
    {buffer size customRegister ptr : Nat} (laidOut : PoolsLaidOut config hspi)
    (outside : ¬ ramxAddressInPool hspi.ramxPool buffer = true)
    (accepted : hspiSend config hspi buffer size customRegister = some (true, ptr, after)) :
    ∃ start,
      freeRun hspi.ramxPool.blocks (config.ramx.blocksFor hspi.hspiPacketSize % 256) = some start ∧
      ramxPoolAllocBytes config.ramx hspi.ramxPool hspi.hspiPacketSize =
        some (config.ramx.addressOf start, after.ramxPool) ∧
      after.ramxPool =
        hspi.ramxPool.mark start (config.ramx.blocksFor hspi.hspiPacketSize % 256) ∧
      after.memory = memcpyBytes hspi.memory (config.ramx.addressOf start) buffer (u16 size) ∧
      after.args ptr = ⟨config.ramx.addressOf start, u16 size, u16 customRegister⟩ := by
  obtain ⟨args, argPool, got, _, ⟨rfl, rfl, _⟩ | ⟨nonNull, free, _⟩⟩ :=
    hydraPoolGet_spec laidOut.argPool
  · rw [hspiSend_noArgs buffer size customRegister got] at accepted
    nomatch accepted
  by_cases fits : PacketFits config hspi
  · obtain ⟨start, search, allocated⟩ := allocBytes_of_packetFits laidOut fits
    rw [hspiSend_copied buffer size customRegister got nonNull outside allocated
      (config.ramx.addressOf_ne_zero start), Option.some.injEq, Prod.mk.injEq, Prod.mk.injEq]
      at accepted
    obtain ⟨_, rfl, rfl⟩ := accepted
    exact ⟨start, search, allocated, rfl, rfl, Function.update_self ..⟩
  · rw [hspiSend_noBuffer buffer size customRegister got nonNull outside
      (allocBytes_of_not_packetFits laidOut fits)] at accepted
    nomatch accepted

/-- In every reachable state, what an accepted send copies stays inside the blocks that it
allocated exactly if its size is at most that of these blocks. -/
theorem send_stays_inside_iff {config : HspiConfig} {system : HspiSystem}
    (reachable : Reachable config system) {buffer size customRegister ptr : Nat}
    {after : HspiScheduled}
    (outside : ¬ ramxAddressInPool system.hspi.ramxPool buffer = true)
    (accepted : hspiSend config system.hspi buffer size customRegister =
      some (true, ptr, after)) :
    ∃ start count,
      ramxPoolAllocBytes config.ramx system.hspi.ramxPool system.hspi.hspiPacketSize =
        some (config.ramx.addressOf start, after.ramxPool) ∧
      after.ramxPool = system.hspi.ramxPool.mark start count ∧
      after.memory =
        memcpyBytes system.hspi.memory (config.ramx.addressOf start) buffer (u16 size) ∧
      (StaysInside config system.hspi after ptr start count ↔
        u16 size ≤
          config.ramx.blockSize * (config.ramx.blocksFor system.hspi.hspiPacketSize % 256)) := by
  obtain ⟨start, search, allocated, marked, memory, args⟩ :=
    hspiSend_of_accepted reachable.poolsLaidOut outside accepted
  refine ⟨start, _, allocated, marked, memory, ?_⟩
  have exactly := config.ramx.Ico_subset_run_iff start
    (config.ramx.blocksFor system.hspi.hspiPacketSize % 256) (u16 size)
  constructor
  · intro inside
    have copied := inside.copied
    rw [args] at copied
    exact exactly.mp copied
  · intro small
    have copied := exactly.mpr small
    refine ⟨by rwa [args], fun ledger accounts interval member address inOther => ?_⟩
    rw [memory, memcpyBytes, if_neg]
    intro written
    exact accounts.not_mem_run search member (copied written) inOther

/-- A send of four bytes into a block of sixteen. -/
theorem four_bytes_stay_inside :
    ∃ after, hspiSend oneTask started 256 4 7 = some (true, 65536, after) ∧ ∃ start count,
      ramxPoolAllocBytes oneTask.ramx started.ramxPool started.hspiPacketSize =
        some (oneTask.ramx.addressOf start, after.ramxPool) ∧
      after.ramxPool = started.ramxPool.mark start count ∧
      after.memory =
        memcpyBytes started.memory (oneTask.ramx.addressOf start) 256 (u16 4) ∧
      (StaysInside oneTask started after 65536 start count ↔
        u16 4 ≤ oneTask.ramx.blockSize * (oneTask.ramx.blocksFor started.hspiPacketSize % 256)) :=
  ⟨_, rfl, send_stays_inside_iff reachable_started (by decide) rfl⟩

/-- A memory with ones below the RAMX pool and zeros in it. -/
def onesBelow (address : Nat) : U8 := if address < 4096 then 1 else 0

/-- A user allocates two blocks and frees the first; the next send takes that block and copies
seventeen bytes, the last of them into the user's other block. -/
theorem long_send_overruns :
    ∃ system, Reachable oneTask system ∧ ∃ after,
      hspiSend oneTask system.hspi 256 17 7 = some (true, 65536, after) ∧
      ramxPoolAllocBytes oneTask.ramx system.hspi.ramxPool system.hspi.hspiPacketSize =
        some (4160, after.ramxPool) ∧
      4176 ∈ system.userRefs ∧ system.hspi.memory 4176 = 0 ∧ after.memory 4176 = 1 ∧
      ¬ StaysInside oneTask system.hspi after 65536 4 1 := by
  have fresh : Fresh oneTask { powerUp oneTask with memory := onesBelow } [] :=
    ⟨rfl, rfl, rfl, rfl, RamxPool.OwnedBy.nil oneTask.ramx, rfl, by simp [powerUp, TaskQueue.empty]⟩
  have ready : Reachable oneTask (initial { started with memory := onesBelow } []) :=
    @Reachable.init oneTask _ _ _ 16 fresh rfl
  have first := @Reachable.step oneTask _ _ (.userAlloc 1) ready trivial rfl
  have second := @Reachable.step oneTask _ _ (.userAlloc 1) first trivial rfl
  have freed := @Reachable.step oneTask _ _ (.userFree 4160) second (.inr (by decide)) rfl
  refine ⟨_, freed, _, rfl, rfl, by decide, rfl, rfl, ?_⟩
  intro inside
  have outside := inside.copied (show (4176 : Nat) ∈ Set.Ico 4160 4177 from ⟨by decide, by decide⟩)
  exact absurd outside.2 (by decide)

end WchCh56x.Hspi
