import WchCh56x.Hspi.Held
import WchCh56x.Support.Runs

/-!
# Nothing leaks while there is room

From `hspi_init` on, the argument blocks in use and the driver's references into
the RAMX pool are exactly those of its tasks and its four buffers, as long as no
step meets a full queue or an exhausted pool halfway.
-/

namespace WchCh56x.Hspi

open Memory InterruptQueue Support.Runs HspiSystem

/-- A driver on which `hspi_init` may be called: its pools are as their definitions lay them
out, the users own the RAMX allocations and the tasks in the queue. -/
structure Fresh (config : HspiConfig) (hspi : HspiScheduled) (userRefs : List Nat) : Prop where
  members : hspi.hspiArgPool.poolMembers = config.argPoolMembers
  size : hspi.hspiArgPool.size = config.interruptQueueSize
  typeSize : hspi.hspiArgPool.typeSize = 9
  manager : hspi.hspiArgPool.poolManager.length = config.interruptQueueSize
  ramxPool : hspi.ramxPool.OwnedBy config.ramx userRefs
  capacity : hspi.taskQueue.capacity = config.interruptQueueSize
  users : ∀ task ∈ hspi.taskQueue.tasks,
    (∃ address, task.task = .user address) ∧ task.cleanup ≠ some .hspiCleanup

def initial (hspi : HspiScheduled) (userRefs : List Nat) : HspiSystem where
  hspi := hspi
  running := []
  userRefs := userRefs
  accepted := []
  handed := []

theorem Fresh.argPool_valid {config : HspiConfig} {hspi : HspiScheduled} {userRefs : List Nat}
    (fresh : Fresh config hspi userRefs) : hspi.hspiArgPool.Valid := by
  refine ⟨fresh.manager.trans fresh.size.symm, ?_, ?_, ?_, ?_⟩
  · rw [fresh.size]
    exact config.interruptQueueSize_lt
  · rw [fresh.typeSize]
    decide
  · rw [fresh.members]
    exact config.argPoolMembers_pos
  · rw [fresh.members, fresh.size, fresh.typeSize]
    exact config.argPoolMembers_end

theorem hspiArgs_users {tasks : List Task}
    (users : ∀ task ∈ tasks, task.cleanup ≠ some CleanupFunction.hspiCleanup) :
    hspiArgs tasks = [] := by
  unfold hspiArgs
  rw [List.filter_eq_nil_iff.mpr]
  · rfl
  · intro task member
    simpa using users task member

def initialized (hspi : HspiScheduled) (size : Nat) (ramxPool : RamxPool)
    (rx0 rx1 tx0 tx1 : Nat) : HspiScheduled :=
  { hspi with
    ramxPool := ramxPool
    hspiArgPool := hydraPoolClean hspi.hspiArgPool
    args := fun _ => ⟨0, 0, 0⟩
    hspiPacketSize := u16 size
    hspiRxBuffer0 := rx0
    hspiRxBuffer1 := rx1
    hspiTxBuffer0 := tx0
    hspiTxBuffer1 := tx1
    rxAddr0 := rx0
    rxAddr1 := rx1
    txAddr0 := 0
    txAddr1 := 0
    udf0 := 0x3ABCDEF
    udf1 := 0x3456789 }

theorem hspiInit_eq {config : HspiConfig} {hspi : HspiScheduled} {size rx0 rx1 tx0 tx1 : Nat}
    {pool0 pool1 pool2 pool3 : RamxPool}
    (allocated0 : ramxPoolAllocBytes config.ramx hspi.ramxPool (u16 size) = some (rx0, pool0))
    (allocated1 : ramxPoolAllocBytes config.ramx pool0 (u16 size) = some (rx1, pool1))
    (allocated2 : ramxPoolAllocBytes config.ramx pool1 (u16 size) = some (tx0, pool2))
    (allocated3 : ramxPoolAllocBytes config.ramx pool2 (u16 size) = some (tx1, pool3)) :
    hspiInit config hspi size = some (initialized hspi size pool3 rx0 rx1 tx0 tx1) := by
  rw [hspiInit, allocated0]
  dsimp only [Option.bind_eq_bind, Option.bind_some]
  rw [allocated1]
  dsimp only [Option.bind_some]
  rw [allocated2]
  dsimp only [Option.bind_some]
  rw [allocated3]
  rfl

/-- `hspi_init` succeeds, and afterwards nothing is lost. -/
theorem hspiInit_held {config : HspiConfig} {hspi : HspiScheduled} {userRefs : List Nat}
    (fresh : Fresh config hspi userRefs) (size : Nat) :
    ∃ after, hspiInit config hspi size = some after ∧
      Held config (initial after userRefs) [] [] := by
  obtain ⟨rx0, pool0, allocated0, owned0, _⟩ := fresh.ramxPool.allocBytes (u16 size)
  obtain ⟨rx1, pool1, allocated1, owned1, _⟩ := owned0.allocBytes (u16 size)
  obtain ⟨tx0, pool2, allocated2, owned2, _⟩ := owned1.allocBytes (u16 size)
  obtain ⟨tx1, pool3, allocated3, owned3, _⟩ := owned2.allocBytes (u16 size)
  have none : hspiArgs hspi.taskQueue.tasks = [] :=
    hspiArgs_users fun task member => (fresh.users task member).2
  refine ⟨_, hspiInit_eq allocated0 allocated1 allocated2 allocated3, ?_⟩
  refine ⟨?_, ?_, ?_⟩
  · simp only [pending, initial, initialized, List.nil_append, none]
    exact HydraPool.OwnedBy.clean fresh.argPool_valid
  · simp only [driverRefs, hspiBuffers, pending, initial, initialized, List.nil_append, none]
    refine owned3.perm (List.perm_iff_count.mpr fun ptr => ?_)
    simp only [List.map_nil, List.append_nil, List.cons_append, List.nil_append,
      List.count_cons]
    ring
  · intro task member
    obtain ⟨⟨address, function⟩, cleanup⟩ := fresh.users task member
    simp [WellFormed, function, cleanup]

/-- The argument blocks in use are exactly the distinct ones of the driver's tasks, and the
owners of the live RAMX allocations are exactly the four buffers of the driver, the buffers of
its tasks and the users. -/
def NothingLost (config : HspiConfig) (system : HspiSystem) : Prop :=
  (∀ ptr, system.hspi.hspiArgPool.Used ptr ↔ ptr ∈ hspiArgs system.pending) ∧
    (hspiArgs system.pending).Nodup ∧
    system.hspi.ramxPool.OwnedBy config.ramx (system.driverRefs ++ system.userRefs)

theorem HspiSystem.Held.nothingLost {config : HspiConfig} {system : HspiSystem}
    (held : Held config system [] []) : NothingLost config system := by
  have args := held.args
  have refs := held.refs
  rw [List.append_nil] at args refs
  exact ⟨args.used_iff, args.distinct, refs⟩

/-- In every run from `hspi_init` whose steps meet the condition, nothing is lost in any state,
and no step leaves the arrays of the pools. -/
theorem hspi_loses_nothing_while_there_is_room {config : HspiConfig} {hspi : HspiScheduled}
    {userRefs : List Nat} (fresh : Fresh config hspi userRefs) (size : Nat) :
    ∃ start, hspiInit config hspi size = some start ∧ ∀ acts,
      EveryStep (step config)
        (fun system act => Admissible system act ∧ LosesNothing config system act)
        (initial start userRefs) acts →
      Always (step config) (NothingLost config) (initial start userRefs) acts := by
  obtain ⟨start, initialized, held⟩ := hspiInit_held fresh size
  refine ⟨start, initialized, fun acts every => ?_⟩
  have always := always_of_everyStep
    (fun system act (held : Held config system [] []) conditions => by
      obtain ⟨next, stepped, lostArgs, lostRefs, heldNext, kept⟩ :=
        step_held held act conditions.1
      obtain ⟨rfl, rfl⟩ := kept conditions.2
      exact ⟨next, stepped, heldNext⟩)
    held every
  exact always.imp fun _ heldThere => heldThere.nothingLost

def powerUp (config : HspiConfig) : HspiScheduled where
  ramxPool := ramxPoolInit config.ramx
  hspiArgPool := hydraPoolDef config.argPoolMembers config.interruptQueueSize 9
  args := fun _ => ⟨0, 0, 0⟩
  taskQueue := TaskQueue.empty config.interruptQueueSize
  hspiPacketSize := 0
  hspiRxBuffer0 := 0
  hspiRxBuffer1 := 0
  hspiTxBuffer0 := 0
  hspiTxBuffer1 := 0
  rxAddr0 := 0
  rxAddr1 := 0
  txAddr0 := 0
  txAddr1 := 0
  udf0 := 0
  udf1 := 0
  memory := fun _ => 0

theorem powerUp_fresh (config : HspiConfig) : Fresh config (powerUp config) [] where
  members := rfl
  size := u16_of_lt config.interruptQueueSize_lt
  typeSize := rfl
  manager := by simp [powerUp, hydraPoolDef]
  ramxPool := RamxPool.OwnedBy.nil config.ramx
  capacity := rfl
  users := by simp [powerUp, TaskQueue.empty]

def started : HspiScheduled :=
  { powerUp oneTask with
    ramxPool := ⟨4096, 4224, 16, 8, 4, [1, 1, 1, 1, 0, 0, 0, 0], [1, 1, 1, 1, 0, 0, 0, 0]⟩
    hspiPacketSize := 16
    hspiRxBuffer0 := 4096
    hspiRxBuffer1 := 4112
    hspiTxBuffer0 := 4128
    hspiTxBuffer1 := 4144
    rxAddr0 := 4096
    rxAddr1 := 4112
    udf0 := 0x3ABCDEF
    udf1 := 0x3456789 }

theorem hspiInit_started : hspiInit oneTask (powerUp oneTask) 16 = some started := rfl

/-- A send into an empty queue, whose task is run and cleaned up. -/
theorem hspi_loses_nothing_on_a_send :
    Always (step oneTask) (NothingLost oneTask) (initial started [])
      [.send 256 4 7, .beginTask false, .endTask] := by
  obtain ⟨start, initialized, always⟩ :=
    hspi_loses_nothing_while_there_is_room (powerUp_fresh oneTask) 16
  obtain rfl := Option.some.inj (initialized.symm.trans hspiInit_started)
  refine always _ ⟨⟨fun inPool => absurd inPool (by decide), fun _ => ⟨.inr ?_, by decide⟩⟩,
    fun _ _ => ⟨⟨trivial, trivial⟩, fun _ _ => ⟨⟨trivial, trivial⟩, fun _ _ => trivial⟩⟩⟩
  refine ⟨by decide, 4, by decide, ?_⟩
  intro j before
  obtain rfl : j = 0 := by
    have one : blocksNeeded oneTask.ramx (initial started []).hspi.hspiPacketSize = 1 := by decide
    omega
  decide

/-- A task of another user fills the queue, and the argument block and the buffer of the next
send are lost. -/
theorem hspi_leaks_into_a_full_queue :
    Fresh oneTask (powerUp oneTask) [] ∧
      hspiInit oneTask (powerUp oneTask) 16 = some started ∧
      EveryStep (step oneTask) Admissible (initial started [])
        [.submit ⟨.user 512, 0, none⟩, .send 256 4 7] ∧
      ¬ Always (step oneTask) (NothingLost oneTask) (initial started [])
        [.submit ⟨.user 512, 0, none⟩, .send 256 4 7] := by
  refine ⟨powerUp_fresh oneTask, rfl, ⟨⟨512, rfl, by decide⟩, ?_⟩, ?_⟩
  · rintro next ⟨rfl⟩
    exact ⟨fun inPool => absurd inPool (by decide), fun _ _ => trivial⟩
  · intro always
    obtain ⟨final, run, exactly, _⟩ := always.final
    obtain rfl := Option.some.inj run
    have listed := (exactly 65536).mp ⟨0, by decide, rfl, rfl⟩
    exact absurd listed (by decide)

end WchCh56x.Hspi
