import WchCh56x.Hspi.BufferEffects
import WchCh56x.Hspi.Delivery
import WchCh56x.Memory.ByteRequests

/-!
# Sends that fail

`hspi_send` takes an argument block before it looks for a buffer, and does not
give it back when there is none.
-/

namespace WchCh56x.Hspi

open Memory InterruptQueue HspiSystem

structure SameResources (hspi after : HspiScheduled) : Prop where
  argPool : after.hspiArgPool = hspi.hspiArgPool
  ramxPool : after.ramxPool = hspi.ramxPool
  taskQueue : after.taskQueue = hspi.taskQueue

theorem SameResources.refl (hspi : HspiScheduled) : SameResources hspi hspi := ⟨rfl, rfl, rfl⟩

/-- If the send returns false, it leaves no trace. -/
def FailsCleanly (config : HspiConfig) (hspi : HspiScheduled) (buffer size customRegister : Nat) :
    Prop :=
  ∀ ptr after, hspiSend config hspi buffer size customRegister = some (false, ptr, after) →
    SameResources hspi after

/-- The RAMX pool has a free run for a packet, of the low byte of the number of blocks that hold
`hspi_packet_size` bytes. -/
def PacketFits (config : HspiConfig) (hspi : HspiScheduled) : Prop :=
  hspi.hspiPacketSize + config.ramx.blockSize - 1 < 4294967296 ∧
    ∃ start, freeRun hspi.ramxPool.blocks
      (config.ramx.blocksFor hspi.hspiPacketSize % 256) = some start

/-- With an argument block to be had, there is also a buffer to be had or none is needed. -/
def BufferWithArgs (config : HspiConfig) (hspi : HspiScheduled) (buffer : Nat) : Prop :=
  hspi.hspiArgPool.HasFree → ramxAddressInPool hspi.ramxPool buffer ∨ PacketFits config hspi

/-! ## The ways through a send -/

structure PoolsLaidOut (config : HspiConfig) (hspi : HspiScheduled) : Prop where
  argPool : hspi.hspiArgPool.Valid
  ramxPool : hspi.ramxPool.LaidOut config.ramx
  packetSize : hspi.hspiPacketSize < 65536

section Send

variable {config : HspiConfig} {hspi : HspiScheduled} {buffer size customRegister : Nat}

/-- Without a run for a packet the allocation fails and changes nothing. -/
theorem allocBytes_of_not_packetFits (laidOut : PoolsLaidOut config hspi)
    (full : ¬ PacketFits config hspi) :
    ramxPoolAllocBytes config.ramx hspi.ramxPool hspi.hspiPacketSize =
      some (0, hspi.ramxPool) := by
  have small := laidOut.packetSize
  rw [ramxPoolAllocBytes_eq laidOut.ramxPool, blocksNeeded_eq (by omega)]
  by_cases exact : hspi.hspiPacketSize + config.ramx.blockSize - 1 < 4294967296
  · rw [if_pos exact]
    cases search : freeRun hspi.ramxPool.blocks
        (config.ramx.blocksFor hspi.hspiPacketSize % 256) with
    | none => rfl
    | some start => exact absurd ⟨exact, start, search⟩ full
  · rw [if_neg exact]
    rfl

/-- A run for a packet is found and marked. -/
theorem allocBytes_of_packetFits (laidOut : PoolsLaidOut config hspi)
    (fits : PacketFits config hspi) :
    ∃ start,
      freeRun hspi.ramxPool.blocks (config.ramx.blocksFor hspi.hspiPacketSize % 256) = some start ∧
      ramxPoolAllocBytes config.ramx hspi.ramxPool hspi.hspiPacketSize =
        some (config.ramx.addressOf start,
          hspi.ramxPool.mark start (config.ramx.blocksFor hspi.hspiPacketSize % 256)) := by
  have small := laidOut.packetSize
  obtain ⟨exact, start, search⟩ := fits
  refine ⟨start, search, ?_⟩
  rw [ramxPoolAllocBytes_eq laidOut.ramxPool, blocksNeeded_eq (by omega), if_pos exact, search]

/-- Without an argument block the send fails at once. -/
theorem hspiSend_of_full (laidOut : PoolsLaidOut config hspi)
    (full : ¬ hspi.hspiArgPool.HasFree) :
    hspiSend config hspi buffer size customRegister = some (false, 0, hspi) := by
  obtain ⟨ptr, argPool, got, _, ⟨rfl, rfl, _⟩ | ⟨_, free, _⟩⟩ := hydraPoolGet_spec laidOut.argPool
  · exact hspiSend_noArgs buffer size customRegister got
  · exact absurd free full

/-- Without a buffer the send fails with the argument block taken. -/
theorem hspiSend_without_buffer (laidOut : PoolsLaidOut config hspi)
    (free : hspi.hspiArgPool.HasFree)
    (outside : ¬ ramxAddressInPool hspi.ramxPool buffer = true)
    (full : ¬ PacketFits config hspi) :
    ∃ ptr argPool, hspiSend config hspi buffer size customRegister =
        some (false, ptr, { hspi with hspiArgPool := argPool }) ∧
      argPool ≠ hspi.hspiArgPool := by
  obtain ⟨ptr, argPool, got, _, ⟨_, _, none⟩ | ⟨nonNull, _, unused, used⟩⟩ :=
    hydraPoolGet_spec laidOut.argPool
  · exact absurd free none
  · refine ⟨ptr, argPool, hspiSend_noBuffer buffer size customRegister got nonNull outside
      (allocBytes_of_not_packetFits laidOut full), ?_⟩
    rintro rfl
    exact unused ((used ptr).mpr (.inr rfl))

/-- With both, the send returns true if it returns. -/
theorem hspiSend_accepts (laidOut : PoolsLaidOut config hspi) (free : hspi.hspiArgPool.HasFree)
    (available : ramxAddressInPool hspi.ramxPool buffer = true ∨ PacketFits config hspi)
    (ptr : Nat) (after : HspiScheduled) :
    hspiSend config hspi buffer size customRegister ≠ some (false, ptr, after) := by
  obtain ⟨args, argPool, got, _, ⟨_, _, none⟩ | ⟨nonNull, _, _, _⟩⟩ :=
    hydraPoolGet_spec laidOut.argPool
  · exact absurd free none
  by_cases inPool : ramxAddressInPool hspi.ramxPool buffer = true
  · cases taken : ramxTakeOwnership hspi.ramxPool buffer with
    | none => simp [hspiSend, got, nonNull, inPool, taken]
    | some ramxPool =>
        rw [hspiSend_shared buffer size customRegister got nonNull inPool taken]
        simp
  · obtain ⟨start, _, allocated⟩ :=
      allocBytes_of_packetFits laidOut (available.resolve_left inPool)
    rw [hspiSend_copied buffer size customRegister got nonNull inPool allocated
      (config.ramx.addressOf_ne_zero start)]
    simp

theorem failsCleanly_iff (laidOut : PoolsLaidOut config hspi) :
    FailsCleanly config hspi buffer size customRegister ↔ BufferWithArgs config hspi buffer := by
  constructor
  · intro cleanly free
    by_contra unavailable
    obtain ⟨outside, full⟩ := not_or.mp unavailable
    obtain ⟨ptr, argPool, sent, changed⟩ := @hspiSend_without_buffer config hspi buffer size
      customRegister laidOut free outside full
    exact changed (cleanly ptr _ sent).argPool
  · intro available ptr after sent
    by_cases free : hspi.hspiArgPool.HasFree
    · exact absurd sent (hspiSend_accepts laidOut free (available free) ptr after)
    · rw [hspiSend_of_full laidOut free] at sent
      obtain rfl : hspi = after := congrArg (fun result => result.2.2) (Option.some.inj sent)
      exact .refl hspi

end Send

/-! ## Reachable states -/

theorem Reachable.packetSize_lt {config : HspiConfig} {system : HspiSystem}
    (reachable : Reachable config system) : system.hspi.hspiPacketSize < 65536 := by
  induction reachable with
  | init fresh initialized =>
      obtain ⟨packetSize, _⟩ := hspiInit_rxBuffers fresh initialized
      exact packetSize ▸ Nat.mod_lt _ (by decide)
  | step before admissible stepped ih =>
      obtain ⟨lostArgs, lostRefs, held⟩ := before.held
      rw [(step_effect held admissible stepped).packetSize]
      exact ih

theorem Reachable.poolsLaidOut {config : HspiConfig} {system : HspiSystem}
    (reachable : Reachable config system) : PoolsLaidOut config system.hspi := by
  obtain ⟨lostArgs, lostRefs, held⟩ := reachable.held
  obtain ⟨ledger, accounts, _⟩ := held.refs
  exact ⟨held.args.valid, accounts.laidOut, reachable.packetSize_lt⟩

structure SendRequest where
  buffer : Nat
  size : Nat
  customRegister : Nat
  deriving DecidableEq, Repr

def failedSend (config : HspiConfig) (hspi : HspiScheduled) (request : SendRequest) :
    Option HspiScheduled :=
  match hspiSend config hspi request.buffer request.size request.customRegister with
  | some (false, _, after) => some after
  | _ => none

/-- Failed sends that each fail cleanly change nothing together. -/
theorem failedSends_unchanged {config : HspiConfig} {hspi after : HspiScheduled}
    (laidOut : PoolsLaidOut config hspi) (requests : List SendRequest)
    (available : ∀ request ∈ requests, BufferWithArgs config hspi request.buffer)
    (failed : requests.foldlM (failedSend config) hspi = some after) : after = hspi := by
  induction requests with
  | nil => exact (Option.some.inj failed).symm
  | cons request rest ih =>
      obtain ⟨here, others⟩ := List.forall_mem_cons.mp available
      rw [List.foldlM_cons] at failed
      obtain ⟨middle, one, remaining⟩ := Option.bind_eq_some_iff.mp failed
      have unchanged : middle = hspi := by
        unfold failedSend at one
        split at one
        next ptr next sent =>
          obtain rfl := Option.some.inj one
          by_cases free : hspi.hspiArgPool.HasFree
          · exact absurd sent (hspiSend_accepts laidOut free (here free) ptr next)
          · rw [hspiSend_of_full laidOut free] at sent
            exact (congrArg (fun result => result.2.2) (Option.some.inj sent)).symm
        next => nomatch one
      subst unchanged
      exact ih others remaining

/-- In every reachable state a send that returns false leaves no trace exactly if a buffer could
be had, or none was needed, in case an argument block could be had; any number of such sends
that fail leave the driver as it was. -/
theorem send_fails_cleanly_iff {config : HspiConfig} {system : HspiSystem}
    (reachable : Reachable config system) :
    (∀ buffer size customRegister,
      FailsCleanly config system.hspi buffer size customRegister ↔
        BufferWithArgs config system.hspi buffer) ∧
    ∀ (requests : List SendRequest) (after : HspiScheduled),
      (∀ request ∈ requests, BufferWithArgs config system.hspi request.buffer) →
      requests.foldlM (failedSend config) system.hspi = some after → after = system.hspi :=
  ⟨fun _ _ _ => failsCleanly_iff reachable.poolsLaidOut,
    fun requests _ => failedSends_unchanged reachable.poolsLaidOut requests⟩

/-- After `hspi_init`, with four blocks still free. -/
theorem send_fails_cleanly_after_init :
    (∀ buffer size customRegister,
      FailsCleanly oneTask started buffer size customRegister ↔
        BufferWithArgs oneTask started buffer) ∧
    ∀ (requests : List SendRequest) (after : HspiScheduled),
      (∀ request ∈ requests, BufferWithArgs oneTask started request.buffer) →
      requests.foldlM (failedSend oneTask) started = some after → after = started :=
  send_fails_cleanly_iff reachable_started

/-- A user takes the last four blocks; the next send returns false and keeps the only argument
block. -/
theorem failed_send_keeps_args :
    ∃ system, Reachable oneTask system ∧ ∃ after,
      hspiSend oneTask system.hspi 256 4 7 = some (false, 65536, after) ∧
        system.hspi.hspiArgPool.poolManager = [false] ∧ after.hspiArgPool.poolManager = [true] ∧
        ¬ FailsCleanly oneTask system.hspi 256 4 7 := by
  refine ⟨_, @Reachable.step oneTask _ _ (.userAlloc 4) reachable_started trivial rfl, _, rfl,
    rfl, rfl, ?_⟩
  intro cleanly
  have same := (cleanly 65536 _ rfl).argPool
  exact absurd (congrArg HydraPool.poolManager same) (by decide)

end WchCh56x.Hspi
