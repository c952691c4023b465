import WchCh56x.Hspi.BuffersInUse
import WchCh56x.Memory.ByteRequests

/-!
# The receiver is armed with a buffer

As long as every received packet finds a free run of blocks for the buffer that
takes its place; the number of blocks of a packet is counted in a byte.
-/

namespace WchCh56x.Hspi

open Memory InterruptQueue Support.Runs HspiSystem

namespace HspiSystem

/-- The receive addresses are live allocations that hold a packet, and no callback is given
`NULL`. -/
structure Armed (config : HspiConfig) (system : HspiSystem) : Prop where
  address : ∀ rxToggle, ∃ length,
    system.hspi.ramxPool.Allocation config.ramx (rxAddr system.hspi rxToggle) length ∧
      system.hspi.hspiPacketSize ≤ length * config.ramx.blockSize
  callback : ∀ task ∈ system.running, task.task = .hspiRxCallback →
    (system.hspi.args task.args).buffer ≠ 0

/-- There is room for the buffer that takes the place of a received one. -/
def FindsBuffer (config : HspiConfig) (system : HspiSystem) (act : HspiAct) : Prop :=
  ∀ rxToggle, Receives rxToggle act →
    system.hspi.ramxPool.HasRun config.ramx (blocksNeeded config.ramx system.hspi.hspiPacketSize)

/-- The receive buffers are there, of the size of a packet, and every task has one. -/
structure Ready (config : HspiConfig) (packetSize : Nat) (system : HspiSystem) : Prop where
  held : ∃ lostArgs lostRefs, Held config system lostArgs lostRefs
  packetSize_eq : system.hspi.hspiPacketSize = packetSize
  address : ∀ rxToggle, rxAddr system.hspi rxToggle = rxBuffer system.hspi rxToggle
  extent : ∀ rxToggle, ∃ first, system.hspi.ramxPool.Extent config.ramx
    (rxBuffer system.hspi rxToggle) first (blocksNeeded config.ramx packetSize)
  given : 0 ∉ hspiBuffers system.hspi system.pending

section Ready

variable {config : HspiConfig} {packetSize : Nat} {system next : HspiSystem} {act : HspiAct}

theorem Ready.nonNull (ready : Ready config packetSize system) (rxToggle : Bool) :
    rxBuffer system.hspi rxToggle ≠ 0 := by
  obtain ⟨first, extent⟩ := ready.extent rxToggle
  rw [extent.address]
  exact config.ramx.addressOf_ne_zero first

theorem Ready.armed (ready : Ready config packetSize system)
    (enough : packetSize ≤ blocksNeeded config.ramx packetSize * config.ramx.blockSize) :
    Armed config system := by
  obtain ⟨lostArgs, lostRefs, held⟩ := ready.held
  refine ⟨fun rxToggle => ?_, fun task member callback null => ?_⟩
  · obtain ⟨first, extent⟩ := ready.extent rxToggle
    rw [ready.address, ready.packetSize_eq]
    exact ⟨_, extent.allocation held.refs (mem_refs system lostRefs rxToggle), enough⟩
  · exact ready.given ((mem_hspiBuffers held.wellFormed system.hspi).mpr
      ⟨task, List.mem_append_left _ member, .inr callback, null⟩)

/-- A step that finds a buffer keeps the receiver ready. -/
theorem Ready.step (ready : Ready config packetSize system) {refs : List Nat}
    (effect : Effect config system act refs next)
    (heldNext : ∃ lostArgs lostRefs, Held config next lostArgs lostRefs)
    (finds : FindsBuffer config system act) : Ready config packetSize next := by
  have size := ready.packetSize_eq
  refine ⟨heldNext, effect.packetSize.trans size, fun rxToggle => ?_, fun rxToggle => ?_,
    (given_step ready.given effect).mpr fun rxToggle _ => ready.nonNull rxToggle⟩
  · by_cases receives : Receives rxToggle act
    · exact (effect.renewed rxToggle receives).armed
    · obtain ⟨buffer, address⟩ := effect.kept rxToggle receives
      rw [buffer, address]
      exact ready.address rxToggle
  · by_cases receives : Receives rxToggle act
    · have renewed := effect.renewed rxToggle receives
      have found := finds rxToggle receives
      have extent := renewed.extent fun null => renewed.null_iff.mp null found
      rwa [size] at extent
    · obtain ⟨first, extent⟩ := ready.extent rxToggle
      obtain ⟨lostArgs, lostRefs, held⟩ := heldNext
      rw [← (effect.kept rxToggle receives).1] at extent
      exact ⟨first, extent.kept effect.marks held.refs (mem_refs next lostRefs rxToggle)⟩

/-- A step that leaves the receiver armed found a buffer. -/
theorem Armed.finds (armed : Armed config next) {refs : List Nat}
    (effect : Effect config system act refs next) : FindsBuffer config system act := by
  intro rxToggle receives
  have renewed := effect.renewed rxToggle receives
  obtain ⟨length, allocation, _⟩ := armed.address rxToggle
  have nonNull := allocation.nonNull
  rw [renewed.armed, ne_eq, renewed.null_iff, not_not] at nonNull
  exact nonNull

end Ready

end HspiSystem

/-- After a `hspi_init` that got its four buffers, the receiver is armed in every state of a run
exactly if a packet takes at most 255 blocks and every received packet finds a run of free
blocks for the next one. -/
theorem hspi_receiver_armed_iff {config : HspiConfig} {hspi start : HspiScheduled}
    {userRefs : List Nat} {size : Nat} (fresh : Fresh config hspi userRefs)
    (initialized : hspiInit config hspi size = some start)
    (successful : ∀ buffer ∈ [start.hspiRxBuffer0, start.hspiRxBuffer1, start.hspiTxBuffer0,
      start.hspiTxBuffer1], buffer ≠ 0)
    (acts : List HspiAct)
    (admissible : EveryStep (step config) Admissible (initial start userRefs) acts) :
    Always (step config) (Armed config) (initial start userRefs) acts ↔
      u16 size ≤ 255 * config.ramx.blockSize ∧
        EveryStep (step config) (FindsBuffer config) (initial start userRefs) acts := by
  obtain ⟨start', initialized', held⟩ := hspiInit_held fresh size
  obtain rfl := Option.some.inj (initialized'.symm.trans initialized)
  obtain ⟨packetSize, noBuffers, receive⟩ := hspiInit_rxBuffers fresh initialized
  have nonNull (rxToggle : Bool) : rxBuffer start' rxToggle ≠ 0 := by
    cases rxToggle <;> exact successful _ (by simp [rxBuffer])
  have ready : Ready config (u16 size) (initial start' userRefs) := by
    refine ⟨⟨[], [], held⟩, packetSize, fun rxToggle => (receive rxToggle).1,
      fun rxToggle => ((receive rxToggle).2 (nonNull rxToggle)).2, ?_⟩
    change 0 ∉ hspiBuffers start' start'.taskQueue.tasks
    rw [noBuffers]
    exact List.not_mem_nil
  by_cases fits : u16 size ≤ 255 * config.ramx.blockSize
  · obtain ⟨first, extent⟩ := ready.extent true
    have enough := blocksNeeded_covers config.ramx (Nat.mod_lt size (by decide)) fits
      extent.nonempty
    have keeps (system : HspiSystem) (act : HspiAct)
        (held : ∃ lostArgs lostRefs, Held config system lostArgs lostRefs)
        (admissible : Admissible system act) : ∃ next, step config system act = some next ∧
          ∃ lostArgs lostRefs, Held config next lostArgs lostRefs := by
      obtain ⟨lostArgs, lostRefs, held⟩ := held
      obtain ⟨next, stepped, lostArgs', lostRefs', heldNext, _⟩ := step_held held act admissible
      exact ⟨next, stepped, lostArgs', lostRefs', heldNext⟩
    rw [and_iff_right fits]
    refine always_iff_everyStep (fun _ ready => Ready.armed ready enough) keeps ?_
      ⟨[], [], held⟩ ready admissible
    rintro system act next ⟨lostArgs, lostRefs, held⟩ ready admissible stepped
    have effect := step_effect held admissible stepped
    obtain ⟨next', stepped', heldNext⟩ := keeps system act ⟨_, _, held⟩ admissible
    obtain rfl := Option.some.inj (stepped'.symm.trans stepped)
    exact ⟨fun armed => armed.finds effect, ready.step effect heldNext⟩
  · refine ⟨fun always => absurd ?_ fits, fun both => absurd both.1 fits⟩
    obtain ⟨length, allocation, enough⟩ := always.start.address true
    change start'.hspiPacketSize ≤ _ at enough
    rw [packetSize] at enough
    exact enough.trans (Nat.mul_le_mul_right _ allocation.length_le)

/-- A packet that comes in while there are free blocks. -/
theorem hspi_receiver_armed_after_a_packet :
    Always (step oneTask) (Armed oneTask) (initial started []) [goodPacket] := by
  refine (hspi_receiver_armed_iff (powerUp_fresh oneTask) hspiInit_started (by decide)
    [goodPacket] ⟨trivial, fun _ _ => trivial⟩).mpr ⟨by decide, ?_, fun _ _ => trivial⟩
  refine fun _ _ => ⟨by decide, 4, by decide, fun j before => ?_⟩
  obtain rfl : j = 0 := by
    have one : blocksNeeded oneTask.ramx (initial started []).hspi.hspiPacketSize = 1 := by decide
    omega
  decide

/-- With the pool exhausted, a packet leaves address zero in the register, and its callback is
given `NULL` when the next packet has come in. -/
theorem hspi_receiver_disarmed :
    Fresh oneTask (powerUp oneTask) [] ∧
      hspiInit oneTask (powerUp oneTask) 16 = some started ∧
      (∀ buffer ∈ [started.hspiRxBuffer0, started.hspiRxBuffer1, started.hspiTxBuffer0,
        started.hspiTxBuffer1], buffer ≠ 0) ∧
      EveryStep (step oneTask) Admissible (initial started [])
        [.userAlloc 4, goodPacket, .beginTask false, .endTask, goodPacket, .beginTask false] ∧
      (∃ system, [HspiAct.userAlloc 4, goodPacket].foldlM (step oneTask) (initial started []) =
        some system ∧ rxAddr system.hspi true = 0) ∧
      ¬ Always (step oneTask) (Armed oneTask) (initial started [])
        [.userAlloc 4, goodPacket, .beginTask false, .endTask, goodPacket, .beginTask false] := by
  refine ⟨powerUp_fresh oneTask, rfl, by decide, ⟨trivial, fun _ _ => ⟨trivial, fun _ _ =>
    ⟨trivial, fun _ _ => ⟨trivial, fun _ _ => ⟨trivial, fun _ _ => ⟨trivial, fun _ _ =>
      trivial⟩⟩⟩⟩⟩⟩, ⟨_, rfl, rfl⟩, ?_⟩
  intro always
  obtain ⟨final, run, armed⟩ := always.final
  obtain rfl := Option.some.inj run
  exact armed.callback ⟨.hspiRxCallback, 65536, some .hspiCleanup⟩ (by decide) rfl rfl

end WchCh56x.Hspi
