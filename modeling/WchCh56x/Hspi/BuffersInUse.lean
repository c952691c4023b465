import WchCh56x.Hspi.BufferEffects

/-!
# Buffers in use are not handed out again

The receive buffers have the driver as their only owner.  A task can still be
given no buffer at all: the receive interrupt hands on whatever the slot holds.
-/

namespace WchCh56x.Hspi

open Memory InterruptQueue Support.Runs HspiSystem

namespace HspiSystem

def Shown (system : HspiSystem) (ptr : Nat) : Prop :=
  ∃ task ∈ system.running, task.task = .hspiRxCallback ∧
    (system.hspi.args task.args).buffer = ptr

/-- A caller owns the buffer or is being shown it, and one more owner fits. -/
def Entitled (system : HspiSystem) (ptr : Nat) : Prop :=
  (ptr ∈ system.userRefs ∨ Shown system ptr) ∧ system.hspi.ramxPool.Shareable ptr

/-- What callers owe: they send what fits or what they are entitled to, and free what they own. -/
def CallerOwns (system : HspiSystem) : HspiAct → Prop
  | .send buffer size _ =>
      if ramxAddressInPool system.hspi.ramxPool buffer then Entitled system buffer
      else size ≤ system.hspi.hspiPacketSize
  | .submit task => ∃ address, task.task = .user address ∧ task.cleanup ≠ some .hspiCleanup
  | .userTake ptr => ptr = 0 ∨ Entitled system ptr
  | .userFree ptr => ptr = 0 ∨ ptr ∈ system.userRefs
  | _ => True

def IsHspiTask (task : Task) : Prop := task.task = .hspiSend ∨ task.task = .hspiRxCallback

/-- The buffers of the queued and running tasks and the receive buffers are marked as allocated
and not handed out again, and the receive buffers are nobody else's. -/
structure BuffersInUse (config : HspiConfig) (system : HspiSystem) : Prop where
  tasks : ∀ task ∈ system.pending, IsHspiTask task →
    system.hspi.ramxPool.InUse config.ramx (system.hspi.args task.args).buffer
  receive : ∀ rxToggle, rxBuffer system.hspi rxToggle ≠ 0 →
    system.hspi.ramxPool.InUse config.ramx (rxBuffer system.hspi rxToggle)
  distinct : system.hspi.hspiRxBuffer0 ≠ 0 →
    system.hspi.hspiRxBuffer0 ≠ system.hspi.hspiRxBuffer1
  apart : ∀ rxToggle, rxBuffer system.hspi rxToggle ≠ 0 →
    ∀ task ∈ system.pending, IsHspiTask task →
      (system.hspi.args task.args).buffer ≠ rxBuffer system.hspi rxToggle

def HandsOnBuffer (system : HspiSystem) (act : HspiAct) : Prop :=
  ∀ rxToggle, HandsOn system rxToggle act → rxBuffer system.hspi rxToggle ≠ 0

/-- The references are accounted for, and each receive buffer has one owner. -/
structure Exclusive (config : HspiConfig) (system : HspiSystem) : Prop where
  held : ∃ lostArgs lostRefs, Held config system lostArgs lostRefs
  sole : ∀ rxToggle, rxBuffer system.hspi rxToggle ≠ 0 →
    system.hspi.ramxPool.SoleOwner config.ramx (rxBuffer system.hspi rxToggle)

section Exclusive

variable {config : HspiConfig} {system next : HspiSystem} {lostArgs lostRefs : List Nat}
  {act : HspiAct}

theorem mem_hspiBuffers {tasks : List Task} (wellFormed : ∀ task ∈ tasks, WellFormed task)
    (hspi : HspiScheduled) {buffer : Nat} :
    buffer ∈ hspiBuffers hspi tasks ↔
      ∃ task ∈ tasks, IsHspiTask task ∧ (hspi.args task.args).buffer = buffer := by
  simp only [hspiBuffers, hspiArgs, List.map_map, List.mem_map, List.mem_filter, decide_eq_true_eq,
    Function.comp_apply]
  constructor
  · rintro ⟨task, ⟨member, cleanup⟩, rfl⟩
    exact ⟨task, member, (wellFormed task member).mp cleanup, rfl⟩
  · rintro ⟨task, member, driver, rfl⟩
    exact ⟨task, ⟨member, (wellFormed task member).mpr driver⟩, rfl⟩

/-- A receive buffer is no task's, no user's, and is in one slot. -/
theorem Exclusive.alone (exclusive : Exclusive config system)
    (held : Held config system lostArgs lostRefs) {rxToggle : Bool}
    (nonNull : rxBuffer system.hspi rxToggle ≠ 0) :
    rxBuffer system.hspi rxToggle ∉ hspiBuffers system.hspi system.pending ∧
      rxBuffer system.hspi rxToggle ∉ system.userRefs ∧
      rxBuffer system.hspi rxToggle ≠ rxBuffer system.hspi !rxToggle := by
  have once := (exclusive.sole rxToggle nonNull).count held.refs
    (mem_refs system lostRefs rxToggle) nonNull
  simp only [driverRefs, List.count_append, List.count_cons, List.count_nil] at once
  have own : 0 < [system.hspi.hspiRxBuffer0, system.hspi.hspiRxBuffer1].count
      (rxBuffer system.hspi rxToggle) := by
    rw [List.count_pos_iff]
    cases rxToggle <;> simp [rxBuffer]
  simp only [List.count_cons, List.count_nil] at own
  refine ⟨?_, ?_, ?_⟩
  · intro member
    have := List.count_pos_iff.mpr member
    omega
  · intro member
    have := List.count_pos_iff.mpr member
    omega
  · cases rxToggle
    all_goals
      intro same
      simp [rxBuffer] at same once
      rw [same] at once
      simp at once
      omega

/-- What callers owe for this is more than what keeps the references accounted for. -/
theorem CallerOwns.admissible (held : Held config system lostArgs lostRefs)
    (owns : CallerOwns system act) : Admissible system act := by
  have entitled {ptr : Nat} (entitled : Entitled system ptr) :
      ptr ∈ system.driverRefs ++ system.userRefs := by
    rcases entitled.1 with own | ⟨task, running, callback, rfl⟩
    · exact List.mem_append_right _ own
    · refine List.mem_append_left _ (List.mem_append_right _ ?_)
      exact (mem_hspiBuffers held.wellFormed system.hspi).mpr
        ⟨task, List.mem_append_left _ running, .inr callback, rfl⟩
  cases act with
  | send buffer size customRegister =>
      intro inPool
      have owned := (if_pos inPool).mp owns
      exact ⟨entitled owned, owned.2⟩
  | userTake ptr => exact owns.imp_right fun owned => ⟨entitled owned, owned.2⟩
  | submit task => exact owns
  | userFree ptr => exact owns
  | _ => trivial

/-- Callers do not come to share a receive buffer. -/
theorem CallerOwns.not_shares (exclusive : Exclusive config system)
    (held : Held config system lostArgs lostRefs) (owns : CallerOwns system act) {rxToggle : Bool}
    (nonNull : rxBuffer system.hspi rxToggle ≠ 0) :
    ¬ Shares system (rxBuffer system.hspi rxToggle) act := by
  obtain ⟨noTask, noUser, _⟩ := exclusive.alone held nonNull
  have denied : ¬ Entitled system (rxBuffer system.hspi rxToggle) := by
    rintro ⟨own | ⟨task, running, callback, same⟩, _⟩
    · exact noUser own
    · exact noTask ((mem_hspiBuffers held.wellFormed system.hspi).mpr
        ⟨task, List.mem_append_left _ running, .inr callback, same⟩)
  intro shares
  cases act with
  | send buffer size customRegister =>
      obtain ⟨inPool, rfl⟩ := shares
      exact denied ((if_pos inPool).mp owns)
  | userTake ptr =>
      obtain rfl : rxBuffer system.hspi rxToggle = ptr := shares
      exact denied (owns.resolve_left nonNull)
  | _ => exact shares

/-- A step leaves each receive buffer with one owner. -/
theorem Effect.exclusive (exclusive : Exclusive config system)
    (held : Held config system lostArgs lostRefs) (owns : CallerOwns system act)
    (effect : Effect config system act (system.driverRefs ++ system.userRefs ++ lostRefs) next)
    {rxToggle : Bool} (nonNull : rxBuffer next.hspi rxToggle ≠ 0) :
    next.hspi.ramxPool.SoleOwner config.ramx (rxBuffer next.hspi rxToggle) := by
  obtain ⟨added, others, owned, slots, fewer, source⟩ := effect.owners
  have present := List.count_pos_iff.mpr (slots rxToggle)
  have bound := fewer (rxBuffer next.hspi rxToggle)
  refine ⟨others, owned, ?_⟩
  by_cases receives : Receives rxToggle act
  · have fresh := (effect.renewed rxToggle receives).fresh nonNull
    rw [List.count_cons, List.count_eq_zero_of_not_mem fresh] at bound
    split at bound <;> omega
  · have same := (effect.kept rxToggle receives).1
    rw [same] at nonNull present bound ⊢
    have once := (exclusive.sole rxToggle nonNull).count held.refs
      (mem_refs system lostRefs rxToggle) nonNull
    have away : added ≠ rxBuffer system.hspi rxToggle := by
      rintro rfl
      rcases source with null | fresh | shares
      · exact nonNull null
      · exact fresh (mem_refs system lostRefs rxToggle)
      · exact owns.not_shares exclusive held nonNull shares
    rw [List.count_cons_of_ne away, once] at bound
    omega

theorem Exclusive.step (exclusive : Exclusive config system) (owns : CallerOwns system act) :
    ∃ next, HspiSystem.step config system act = some next ∧ Exclusive config next := by
  obtain ⟨lostArgs, lostRefs, held⟩ := exclusive.held
  have admissible := owns.admissible held
  obtain ⟨next, stepped, lostArgs', lostRefs', heldNext, _⟩ := step_held held act admissible
  refine ⟨next, stepped, ⟨lostArgs', lostRefs', heldNext⟩, fun rxToggle nonNull => ?_⟩
  exact (step_effect held admissible stepped).exclusive exclusive held owns nonNull

/-- With a buffer in every task, all buffers are in use. -/
theorem Exclusive.buffersInUse (exclusive : Exclusive config system)
    (given : 0 ∉ hspiBuffers system.hspi system.pending) : BuffersInUse config system := by
  obtain ⟨lostArgs, lostRefs, held⟩ := exclusive.held
  have listed {task : Task} (member : task ∈ system.pending) (driver : IsHspiTask task) :
      (system.hspi.args task.args).buffer ∈ hspiBuffers system.hspi system.pending :=
    (mem_hspiBuffers held.wellFormed system.hspi).mpr ⟨task, member, driver, rfl⟩
  refine ⟨?_, ?_, ?_, ?_⟩
  · intro task member driver
    have buffer := listed member driver
    refine held.refs.inUse
      (List.mem_append_left _ (List.mem_append_left _ (List.mem_append_right _ buffer))) ?_
    intro null
    exact given (null ▸ buffer)
  · intro rxToggle nonNull
    exact held.refs.inUse (mem_refs system lostRefs rxToggle) nonNull
  · intro nonNull
    exact (@Exclusive.alone config system lostArgs lostRefs exclusive held true nonNull).2.2
  · intro rxToggle nonNull task member driver same
    exact (exclusive.alone held nonNull).1 (same ▸ listed member driver)

/-- A step gives every task a buffer exactly if it hands on one. -/
theorem given_step {refs : List Nat}
    (given : 0 ∉ hspiBuffers system.hspi system.pending)
    (effect : Effect config system act refs next) :
    0 ∉ hspiBuffers next.hspi next.pending ↔ HandsOnBuffer system act := by
  constructor
  · intro givenNext rxToggle handsOn null
    exact givenNext (null ▸ effect.handedOn rxToggle handsOn)
  · intro handsOnBuffer null
    rcases effect.buffers 0 null with old | nonNull | ⟨rxToggle, handsOn, same⟩
    · exact given old
    · exact nonNull rfl
    · exact handsOnBuffer rxToggle handsOn same.symm

end Exclusive

end HspiSystem

/-- From `hspi_init` on, all buffers are in use and not shared in every state of a run exactly
if every packet that becomes a task has a buffer. -/
theorem hspi_buffers_in_use_iff {config : HspiConfig} {hspi : HspiScheduled}
    {userRefs : List Nat} (fresh : Fresh config hspi userRefs) (size : Nat) :
    ∃ start, hspiInit config hspi size = some start ∧ ∀ acts,
      EveryStep (step config) CallerOwns (initial start userRefs) acts →
      (Always (step config) (BuffersInUse config) (initial start userRefs) acts ↔
        EveryStep (step config) HandsOnBuffer (initial start userRefs) acts) := by
  obtain ⟨start, initialized, held⟩ := hspiInit_held fresh size
  obtain ⟨_, noBuffers, receive⟩ := hspiInit_rxBuffers fresh initialized
  refine ⟨start, initialized, fun acts owns => ?_⟩
  have exclusive : Exclusive config (initial start userRefs) :=
    ⟨⟨[], [], held⟩, fun rxToggle nonNull => ((receive rxToggle).2 nonNull).1⟩
  have given : 0 ∉ hspiBuffers start ((initial start userRefs).pending) := by
    change 0 ∉ hspiBuffers start start.taskQueue.tasks
    rw [noBuffers]
    exact List.not_mem_nil
  have shows (system : HspiSystem) (strong : Exclusive config system ∧
      0 ∉ hspiBuffers system.hspi system.pending) : BuffersInUse config system :=
    strong.1.buffersInUse strong.2
  refine always_iff_everyStep shows (fun system act exclusive owns => exclusive.step owns) ?_
    exclusive ⟨exclusive, given⟩ owns
  rintro system act next exclusive ⟨_, given⟩ owns stepped
  obtain ⟨lostArgs, lostRefs, held⟩ := exclusive.held
  obtain ⟨next', stepped', exclusiveNext⟩ := exclusive.step owns
  obtain rfl := Option.some.inj (stepped'.symm.trans stepped)
  have effect := step_effect held (owns.admissible held) stepped
  constructor
  · intro inUse
    refine (given_step given effect).mp fun null => ?_
    obtain ⟨_, _, heldNext⟩ := exclusiveNext.held
    obtain ⟨task, member, driver, same⟩ :=
      (mem_hspiBuffers heldNext.wellFormed next'.hspi).mp null
    obtain ⟨first, length, extent, _⟩ := inUse.tasks task member driver
    exact config.ramx.addressOf_ne_zero first (extent.address.symm.trans same)
  · intro handsOnBuffer
    exact ⟨exclusiveNext, (given_step given effect).mpr handsOnBuffer⟩

def goodPacket : HspiAct := .interrupt ⟨true, false, true, 0, 0⟩

/-- A user takes the rest of the pool, and a packet comes in and is handled. -/
theorem hspi_buffers_in_use_for_a_packet :
    Always (step oneTask) (BuffersInUse oneTask) (initial started [])
      [.userAlloc 4, goodPacket, .beginTask false, .endTask] := by
  obtain ⟨start, initialized, exactly⟩ := hspi_buffers_in_use_iff (powerUp_fresh oneTask) 16
  obtain rfl := Option.some.inj (initialized.symm.trans hspiInit_started)
  refine (exactly [.userAlloc 4, goodPacket, .beginTask false, .endTask]
    ⟨trivial, fun _ _ => ⟨trivial, fun _ _ => ⟨trivial, fun _ _ => ⟨trivial, fun _ _ =>
      trivial⟩⟩⟩⟩).mpr ⟨fun _ handsOn => absurd handsOn.1 id, ?_⟩
  rintro next ⟨rfl⟩
  refine ⟨?_, fun _ _ => ⟨fun _ handsOn => absurd handsOn.1 id, fun _ _ =>
    ⟨fun _ handsOn => absurd handsOn.1 id, fun _ _ => trivial⟩⟩⟩
  rintro rxToggle ⟨⟨_, _, rfl⟩, _⟩
  decide

/-- With the pool exhausted, the first packet leaves its slot without a buffer, and the next one
becomes a task for the buffer at address zero. -/
theorem hspi_queues_no_buffer :
    Fresh oneTask (powerUp oneTask) [] ∧
      hspiInit oneTask (powerUp oneTask) 16 = some started ∧
      EveryStep (step oneTask) CallerOwns (initial started [])
        [.userAlloc 4, goodPacket, .beginTask false, .endTask, goodPacket] ∧
      ¬ Always (step oneTask) (BuffersInUse oneTask) (initial started [])
        [.userAlloc 4, goodPacket, .beginTask false, .endTask, goodPacket] := by
  refine ⟨powerUp_fresh oneTask, rfl, ⟨trivial, fun _ _ => ⟨trivial, fun _ _ => ⟨trivial,
    fun _ _ => ⟨trivial, fun _ _ => ⟨trivial, fun _ _ => trivial⟩⟩⟩⟩⟩, ?_⟩
  intro always
  obtain ⟨final, run, inUse⟩ := always.final
  obtain rfl := Option.some.inj run
  obtain ⟨first, _, extent, _⟩ := inUse.tasks ⟨.hspiRxCallback, 65536, some .hspiCleanup⟩
    (by decide) (.inr rfl)
  exact oneTask.ramx.addressOf_ne_zero first extent.address.symm

end WchCh56x.Hspi
