import WchCh56x.Hspi.System

/-!
# What every step of the driver and its users keeps

Along any steps at all, the argument blocks and the RAMX references stay those
of the tasks, the buffers and the users, apart from a list of lost ones.  Each
step says what it adds to the lost ones.
-/

namespace WchCh56x.Hspi

open Memory InterruptQueue HspiSystem

namespace HspiSystem

theorem hspiArgs_perm {first second : List Task} (same : first.Perm second) :
    (hspiArgs first).Perm (hspiArgs second) :=
  (same.filter _).map _

theorem hspiBuffers_perm (hspi : HspiScheduled) {first second : List Task}
    (same : first.Perm second) : (hspiBuffers hspi first).Perm (hspiBuffers hspi second) :=
  (hspiArgs_perm same).map _

theorem hspiArgs_setNextTask (running : List Task) (queue : TaskQueue Task) (task : Task)
    (driver : task.cleanup = some .hspiCleanup) :
    hspiArgs (running ++ (queue.setNextTask task).2.tasks) =
      hspiArgs (running ++ queue.tasks) ++
        if queue.tasks.length < queue.capacity then [task.args] else [] := by
  by_cases room : queue.tasks.length < queue.capacity
  · rw [if_pos room, (TaskQueue.setNextTask_room room task).2, ← List.append_assoc, hspiArgs_append,
      hspiArgs_cons_driver driver, hspiArgs_nil]
  · rw [if_neg room, TaskQueue.setNextTask_full room, List.append_nil]

/-- The buffer of a new task joins the others, if there is room for the task. -/
theorem hspiBuffers_setTask {system : HspiSystem} {base : HspiScheduled} {ptr : Nat}
    (function : TaskFunction) (contents : HspiArgs) (fresh : ptr ∉ hspiArgs system.pending)
    (args : base.args = system.hspi.args) (queue : base.taskQueue = system.hspi.taskQueue) :
    hspiBuffers (hspiSetTask base function ptr contents)
        (system.running ++ (hspiSetTask base function ptr contents).taskQueue.tasks) =
      hspiBuffers system.hspi system.pending ++
        if system.hspi.taskQueue.tasks.length < system.hspi.taskQueue.capacity then
          [contents.buffer]
        else [] := by
  have queueNext : (hspiSetTask base function ptr contents).taskQueue =
      (system.hspi.taskQueue.setNextTask ⟨function, ptr, some .hspiCleanup⟩).2 := by
    rw [hspiSetTask, queue]
  have old : hspiBuffers (hspiSetTask base function ptr contents) system.pending =
      hspiBuffers system.hspi system.pending := by
    refine hspiBuffers_congr fun other member => ?_
    have away : other ≠ ptr := by
      rintro rfl
      exact fresh member
    exact (Function.update_of_ne away _ _).trans (congrFun args other)
  have listed := hspiArgs_setNextTask system.running system.hspi.taskQueue
    ⟨function, ptr, some .hspiCleanup⟩ rfl
  rw [← old, queueNext, hspiBuffers, listed, List.map_append]
  by_cases room : system.hspi.taskQueue.tasks.length < system.hspi.taskQueue.capacity
  · have written : (hspiSetTask base function ptr contents).args ptr = contents :=
      Function.update_self ..
    rw [if_pos room, if_pos room, List.map_cons, List.map_nil, written]
    rfl
  · rw [if_neg room, if_neg room]
    rfl

/-- A new argument block goes to the queue with its task, or is lost with its buffer. -/
theorem held_schedule (config : HspiConfig) (system : HspiSystem) (base : HspiScheduled)
    (contents : HspiArgs) {lostArgs lostRefs : List Nat} {function : TaskFunction} {ptr : Nat}
    (wellFormed : ∀ task ∈ system.pending, WellFormed task)
    (driver : function = .hspiSend ∨ function = .hspiRxCallback)
    (argPool : base.hspiArgPool.OwnedBy (ptr :: (hspiArgs system.pending ++ lostArgs)))
    (ramxPool : base.ramxPool.OwnedBy config.ramx
      (contents.buffer :: (system.driverRefs ++ system.userRefs ++ lostRefs)))
    (args : base.args = system.hspi.args) (queue : base.taskQueue = system.hspi.taskQueue)
    (slots : [base.hspiRxBuffer0, base.hspiRxBuffer1, base.hspiTxBuffer0, base.hspiTxBuffer1] =
      [system.hspi.hspiRxBuffer0, system.hspi.hspiRxBuffer1, system.hspi.hspiTxBuffer0,
        system.hspi.hspiTxBuffer1]) :
    if system.hspi.taskQueue.tasks.length < system.hspi.taskQueue.capacity then
      Held config { system with hspi := hspiSetTask base function ptr contents } lostArgs lostRefs
    else
      Held config { system with hspi := hspiSetTask base function ptr contents }
        (ptr :: lostArgs) (contents.buffer :: lostRefs) := by
  have fresh : ptr ∉ hspiArgs system.pending := fun member =>
    (List.nodup_cons.mp argPool.distinct).1 (List.mem_append_left _ member)
  have newBuffers := hspiBuffers_setTask function contents fresh args queue
  have newArgs := hspiArgs_setNextTask system.running system.hspi.taskQueue
    ⟨function, ptr, some .hspiCleanup⟩ rfl
  have queueNext : (hspiSetTask base function ptr contents).taskQueue =
      (system.hspi.taskQueue.setNextTask ⟨function, ptr, some .hspiCleanup⟩).2 := by
    rw [hspiSetTask, queue]
  rw [← queueNext] at newArgs
  have driverRefs : HspiSystem.driverRefs
        { system with hspi := hspiSetTask base function ptr contents } =
      [system.hspi.hspiRxBuffer0, system.hspi.hspiRxBuffer1, system.hspi.hspiTxBuffer0,
        system.hspi.hspiTxBuffer1] ++
        hspiBuffers (hspiSetTask base function ptr contents)
          (system.running ++ (hspiSetTask base function ptr contents).taskQueue.tasks) :=
    congrArg (· ++ _) slots
  have wellFormedNew : ∀ task ∈ system.running ++
      (hspiSetTask base function ptr contents).taskQueue.tasks, WellFormed task := by
    intro task member
    rw [queueNext] at member
    by_cases room : system.hspi.taskQueue.tasks.length < system.hspi.taskQueue.capacity
    · rw [(TaskQueue.setNextTask_room room _).2, ← List.append_assoc] at member
      rcases List.mem_append.mp member with old | new
      · exact wellFormed task old
      · obtain rfl := List.mem_singleton.mp new
        exact ⟨fun _ => driver, fun _ => rfl⟩
    · rw [TaskQueue.setNextTask_full room] at member
      exact wellFormed task member
  by_cases room : system.hspi.taskQueue.tasks.length < system.hspi.taskQueue.capacity
  · rw [if_pos room] at newArgs newBuffers ⊢
    refine ⟨?_, ?_, wellFormedNew⟩
    · refine argPool.perm ?_
      change List.Perm _ (hspiArgs (system.running ++ _) ++ lostArgs)
      rw [newArgs, List.append_assoc]
      exact List.perm_middle.symm
    · refine ramxPool.perm (List.perm_iff_count.mpr fun ptr => ?_)
      rw [driverRefs, newBuffers]
      simp only [HspiSystem.driverRefs, List.count_append, List.count_cons, List.count_nil]
      ring
  · rw [if_neg room] at newArgs newBuffers ⊢
    rw [List.append_nil] at newArgs newBuffers
    refine ⟨?_, ?_, wellFormedNew⟩
    · refine argPool.perm ?_
      change List.Perm _ (hspiArgs (system.running ++ _) ++ ptr :: lostArgs)
      rw [newArgs]
      exact List.perm_middle.symm
    · refine ramxPool.perm (List.perm_iff_count.mpr fun ptr => ?_)
      rw [driverRefs, newBuffers]
      simp only [HspiSystem.driverRefs, List.count_append, List.count_cons, List.count_nil]
      ring

/-- The cleanup of a task gives back its argument block and its buffer. -/
theorem cleanupTask_spec {config : HspiConfig} (hspi : HspiScheduled) {task : Task}
    {others : List Task} {lostArgs more : List Nat}
    (argPool : hspi.hspiArgPool.OwnedBy (hspiArgs (task :: others) ++ lostArgs))
    (ramxPool : hspi.ramxPool.OwnedBy config.ramx (hspiBuffers hspi (task :: others) ++ more)) :
    ∃ after, cleanupTask hspi task = some after ∧
      after = { hspi with ramxPool := after.ramxPool, hspiArgPool := after.hspiArgPool } ∧
      after.hspiArgPool.OwnedBy (hspiArgs others ++ lostArgs) ∧
      after.ramxPool.OwnedBy config.ramx (hspiBuffers hspi others ++ more) := by
  by_cases driver : task.cleanup = some .hspiCleanup
  · rw [hspiBuffers, hspiArgs_cons_driver driver] at ramxPool
    rw [hspiArgs_cons_driver driver] at argPool
    obtain ⟨pool, freed, ownedPool⟩ := ramxPool.free
    obtain ⟨args, freedArgs, ownedArgs⟩ := argPool.free
    refine ⟨{ hspi with ramxPool := pool, hspiArgPool := args }, ?_, rfl, ownedArgs, ownedPool⟩
    simp only [cleanupTask, driver, hspiCleanup, freed, freedArgs]
    rfl
  · rw [hspiBuffers, hspiArgs_cons_user driver] at ramxPool
    rw [hspiArgs_cons_user driver] at argPool
    refine ⟨hspi, ?_, rfl, argPool, ramxPool⟩
    unfold cleanupTask
    cases cleanup : task.cleanup with
    | none => rfl
    | some function =>
        cases function with
        | hspiCleanup => exact absurd cleanup driver
        | user address => rfl

/-- A cleanup touches neither the arguments nor the queue. -/
theorem cleanupTask_frame {hspi after : HspiScheduled} {task : Task}
    (cleaned : cleanupTask hspi task = some after) :
    after.args = hspi.args ∧ after.taskQueue = hspi.taskQueue := by
  unfold cleanupTask at cleaned
  split at cleaned
  · obtain ⟨_, _, rest⟩ := Option.bind_eq_some_iff.mp cleaned
    obtain ⟨_, _, same⟩ := Option.bind_eq_some_iff.mp rest
    obtain rfl := Option.some.inj same
    exact ⟨rfl, rfl⟩
  · obtain rfl := Option.some.inj cleaned
    exact ⟨rfl, rfl⟩
  · obtain rfl := Option.some.inj cleaned
    exact ⟨rfl, rfl⟩

/-- Freeing all tasks gives back what they held. -/
theorem freeTasks_spec {config : HspiConfig} {hspi : HspiScheduled} {others : List Task}
    {lostArgs more : List Nat} (tasks : List Task) (queued : hspi.taskQueue.tasks = tasks)
    (argPool : hspi.hspiArgPool.OwnedBy (hspiArgs (tasks ++ others) ++ lostArgs))
    (ramxPool : hspi.ramxPool.OwnedBy config.ramx (hspiBuffers hspi (tasks ++ others) ++ more)) :
    ∃ after, freeTasks hspi tasks = some after ∧ after.taskQueue.tasks = [] ∧
      after = { hspi with
        ramxPool := after.ramxPool
        hspiArgPool := after.hspiArgPool
        taskQueue := after.taskQueue } ∧
      after.hspiArgPool.OwnedBy (hspiArgs others ++ lostArgs) ∧
      after.ramxPool.OwnedBy config.ramx (hspiBuffers hspi others ++ more) := by
  induction tasks generalizing hspi with
  | nil => exact ⟨hspi, rfl, queued, rfl, argPool, ramxPool⟩
  | cons task rest ih =>
      obtain ⟨middle, cleaned, same, argsMiddle, poolMiddle⟩ := cleanupTask_spec
        { hspi with taskQueue := hspi.taskQueue.dropNextTask } argPool ramxPool
      have sameBuffers (tasks : List Task) :
          hspiBuffers middle tasks = hspiBuffers hspi tasks := by
        rw [same]
        rfl
      obtain ⟨after, freed, empty, sameAfter, argsAfter, poolAfter⟩ := ih
        (show middle.taskQueue.tasks = rest by rw [same]; simp [TaskQueue.dropNextTask, queued])
        argsMiddle (by rw [sameBuffers]; exact poolMiddle)
      refine ⟨after, ?_, empty, ?_, argsAfter, by rwa [sameBuffers] at poolAfter⟩
      · rw [freeTasks, cleaned]
        exact freed
      · rw [sameAfter, same]

def BufferAvailable (config : HspiConfig) (hspi : HspiScheduled) (buffer : Nat) : Prop :=
  ramxAddressInPool hspi.ramxPool buffer ∨
    hspi.ramxPool.HasRun config.ramx (blocksNeeded config.ramx hspi.hspiPacketSize)

/-- The room and the resources with which a step loses nothing: a send that gets an argument
block also gets a buffer and a place in the queue; a received packet that gets an argument block
gets a place in the queue, and without one there was no buffer to hand on. -/
def LosesNothing (config : HspiConfig) (system : HspiSystem) : HspiAct → Prop
  | .send buffer _ _ =>
      system.hspi.hspiArgPool.HasFree →
        BufferAvailable config system.hspi buffer ∧
          system.hspi.taskQueue.tasks.length < system.hspi.taskQueue.capacity
  | .interrupt interrupt =>
      interrupt.rDone = true → interrupt.crcOrNumError = false →
        (system.hspi.hspiArgPool.HasFree ∧
          system.hspi.taskQueue.tasks.length < system.hspi.taskQueue.capacity) ∨
        (¬ system.hspi.hspiArgPool.HasFree ∧ rxBuffer system.hspi interrupt.rxToggle = 0)
  | _ => True

section Steps

variable {config : HspiConfig} {system : HspiSystem} {lostArgs lostRefs : List Nat}

/-- What `held_schedule` gives, as a choice of the lost ones. -/
theorem exists_held_of_room {room : Prop} [Decidable room] {next : HspiSystem}
    {ptr buffer : Nat}
    (held : if room then Held config next lostArgs lostRefs
      else Held config next (ptr :: lostArgs) (buffer :: lostRefs)) :
    ∃ lostArgs' lostRefs', Held config next lostArgs' lostRefs' ∧
      (room → lostArgs' = lostArgs ∧ lostRefs' = lostRefs) := by
  by_cases enough : room
  · rw [if_pos enough] at held
    exact ⟨lostArgs, lostRefs, held, fun _ => ⟨rfl, rfl⟩⟩
  · rw [if_neg enough] at held
    exact ⟨_, _, held, fun there => absurd there enough⟩

/-- The driver `base` differs from the one in `system` in its pools, and took the argument block
at `ptr` from one of them. -/
structure TakesArgs (system : HspiSystem) (lostArgs : List Nat) (ptr : Nat)
    (base : HspiScheduled) : Prop where
  args : base.args = system.hspi.args
  queue : base.taskQueue = system.hspi.taskQueue
  slots : [base.hspiRxBuffer0, base.hspiRxBuffer1, base.hspiTxBuffer0, base.hspiTxBuffer1] =
    [system.hspi.hspiRxBuffer0, system.hspi.hspiRxBuffer1, system.hspi.hspiTxBuffer0,
      system.hspi.hspiTxBuffer1]
  owned : base.hspiArgPool.OwnedBy (ptr :: (hspiArgs system.pending ++ lostArgs))

theorem TakesArgs.fresh {ptr : Nat} {base : HspiScheduled}
    (takes : TakesArgs system lostArgs ptr base) : ptr ∉ hspiArgs system.pending := fun member =>
  (List.nodup_cons.mp takes.owned.distinct).1 (List.mem_append_left _ member)

/-- `after` differs from `hspi` in its pools and its memory, and only frees take marks of blocks
away. -/
structure ChangesPools (hspi after : HspiScheduled) : Prop where
  same : after = { hspi with
    hspiArgPool := after.hspiArgPool
    ramxPool := after.ramxPool
    memory := after.memory }
  marks : hspi.ramxPool.KeepsMarks after.ramxPool

/-- What `hspi_send` can do: refuse without an argument block, refuse without a buffer and keep
the argument block, or fill the argument block with a buffer it owns and submit the task. -/
theorem hspiSend_spec (held : Held config system lostArgs lostRefs)
    (buffer size customRegister : Nat)
    (admissible : Admissible system (.send buffer size customRegister)) :
    ∃ ret ptr after,
      hspiSend config system.hspi buffer size customRegister = some (ret, ptr, after) ∧
      ((ret = false ∧ ¬ system.hspi.hspiArgPool.HasFree ∧ after = system.hspi) ∨
        (system.hspi.hspiArgPool.HasFree ∧ ∃ base, TakesArgs system lostArgs ptr base ∧
          ChangesPools system.hspi base ∧
          ((ret = false ∧ after = base ∧ ¬ BufferAvailable config system.hspi buffer ∧
              base.ramxPool.OwnedBy config.ramx
                (system.driverRefs ++ system.userRefs ++ lostRefs)) ∨
            (ret = true ∧ BufferAvailable config system.hspi buffer ∧
              ∃ contents, after = hspiSetTask base .hspiSend ptr contents ∧
                base.ramxPool.OwnedBy config.ramx
                  (contents.buffer :: (system.driverRefs ++ system.userRefs ++ lostRefs)) ∧
                contents.buffer ≠ 0 ∧
                (ramxAddressInPool system.hspi.ramxPool buffer ∧ contents.buffer = buffer ∨
                  contents.buffer ∉ system.driverRefs ++ system.userRefs ++ lostRefs))))) := by
  obtain ⟨ptr, argPool, got, ⟨rfl, rfl, noArgs⟩ | ⟨nonNull, free, _, ownedArgs⟩⟩ :=
    held.args.get
  · exact ⟨false, 0, _, hspiSend_noArgs _ _ _ got, .inl ⟨rfl, noArgs, rfl⟩⟩
  by_cases inPool : ramxAddressInPool system.hspi.ramxPool buffer = true
  · obtain ⟨member, shareable⟩ := admissible inPool
    obtain ⟨ramxPool, taken, ownedRefs⟩ :=
      held.refs.takeOwnership (List.mem_append_left lostRefs member) shareable
    refine ⟨true, ptr, _, hspiSend_shared _ _ _ got nonNull inPool taken, .inr ⟨free,
      { system.hspi with hspiArgPool := argPool, ramxPool := ramxPool }, ⟨rfl, rfl, rfl, ownedArgs⟩,
      ⟨rfl, .of_blocks (ramxTakeOwnership_blocks taken)⟩,
      .inr ⟨rfl, .inl inPool, _, rfl, ownedRefs, ?_, .inl ⟨inPool, rfl⟩⟩⟩⟩
    rintro rfl
    exact held.refs.null_outside inPool
  obtain ⟨newBuffer, ramxPool, allocated, ownedRefs, unowned, null_iff⟩ :=
    held.refs.allocBytes system.hspi.hspiPacketSize
  have marks := (held.refs.allocBytes_marks allocated).1
  by_cases null : newBuffer = 0
  · subst null
    refine ⟨false, ptr, _, hspiSend_noBuffer _ _ _ got nonNull inPool allocated, .inr ⟨free,
      { system.hspi with hspiArgPool := argPool, ramxPool := ramxPool }, ⟨rfl, rfl, rfl, ownedArgs⟩,
      ⟨rfl, marks⟩, .inl ⟨rfl, rfl, ?_, ?_⟩⟩⟩
    · exact not_or.mpr ⟨inPool, null_iff.mp rfl⟩
    · exact RamxPool.OwnedBy.null_cons.mp ownedRefs
  · refine ⟨true, ptr, _, hspiSend_copied _ _ _ got nonNull inPool allocated null, .inr ⟨free,
      { system.hspi with
        hspiArgPool := argPool
        ramxPool := ramxPool
        memory := memcpyBytes system.hspi.memory newBuffer buffer (u16 size) },
      ⟨rfl, rfl, rfl, ownedArgs⟩, ⟨rfl, marks⟩,
      .inr ⟨rfl, .inr ?_, _, rfl, ownedRefs, null, .inr (unowned null)⟩⟩⟩
    exact not_not.mp (mt null_iff.mpr null)

theorem step_send (held : Held config system lostArgs lostRefs) (buffer size customRegister : Nat)
    (admissible : Admissible system (.send buffer size customRegister)) :
    ∃ next, step config system (.send buffer size customRegister) = some next ∧
      ∃ lostArgs' lostRefs', Held config next lostArgs' lostRefs' ∧
        (LosesNothing config system (.send buffer size customRegister) →
          lostArgs' = lostArgs ∧ lostRefs' = lostRefs) := by
  obtain ⟨ret, ptr, after, sent, outcome⟩ :=
    hspiSend_spec held buffer size customRegister admissible
  rcases outcome with ⟨rfl, _, rfl⟩ | ⟨free, base, takes, _,
      ⟨rfl, rfl, noBuffer, ownedRefs⟩ | ⟨rfl, _, contents, rfl, ownedRefs, _⟩⟩
  · exact ⟨system, by rw [step, sent]; rfl, lostArgs, lostRefs, held, fun _ => ⟨rfl, rfl⟩⟩
  · refine ⟨{ system with hspi := after }, by rw [step, sent]; rfl, ptr :: lostArgs, lostRefs,
      ?_, ?_⟩
    · have pendingNext : pending { system with hspi := after } = system.pending := by
        rw [pending, takes.queue]
        rfl
      have refsNext : driverRefs { system with hspi := after } = system.driverRefs := by
        unfold driverRefs
        rw [pendingNext]
        exact congrArg₂ (· ++ ·) takes.slots (hspiBuffers_congr fun _ _ => congrFun takes.args _)
      refine ⟨?_, ?_, by rw [pendingNext]; exact held.wellFormed⟩
      · rw [pendingNext]
        exact takes.owned.perm List.perm_middle.symm
      · rw [refsNext]
        exact ownedRefs
    · intro losesNothing
      exact absurd (losesNothing free).1 noBuffer
  · refine ⟨_, by rw [step, sent]; rfl, ?_⟩
    obtain ⟨lostArgs', lostRefs', heldNext, kept⟩ := exists_held_of_room
      (held_schedule config system base contents held.wellFormed (.inl rfl) takes.owned ownedRefs
        takes.args takes.queue takes.slots)
    exact ⟨lostArgs', lostRefs', ⟨heldNext.args, heldNext.refs, heldNext.wellFormed⟩,
      fun losesNothing => kept (losesNothing free).2⟩

/-- Putting a new buffer in place of `old` swaps the two among the references. -/
theorem driverRefs_setRxBuffer (system : HspiSystem) (argPool : HydraPool) (ramxPool : RamxPool)
    (rxToggle : Bool) (newBuffer : Nat) :
    (newBuffer :: system.driverRefs).Perm (rxBuffer system.hspi rxToggle ::
      driverRefs { system with
        hspi := setRxBuffer { system.hspi with hspiArgPool := argPool, ramxPool := ramxPool }
          rxToggle newBuffer }) := by
  refine List.perm_iff_count.mpr fun ptr => ?_
  cases rxToggle
  all_goals
    simp only [driverRefs, rxBuffer, setRxBuffer, pending, hspiBuffers, if_true, if_false,
      Bool.false_eq_true, List.count_append, List.count_cons, List.count_nil]
    ring

theorem step_interrupt (held : Held config system lostArgs lostRefs) (interrupt : HspiInterrupt) :
    ∃ next, step config system (.interrupt interrupt) = some next ∧
      ∃ lostArgs' lostRefs', Held config next lostArgs' lostRefs' ∧
        (LosesNothing config system (.interrupt interrupt) →
          lostArgs' = lostArgs ∧ lostRefs' = lostRefs) := by
  by_cases other : ¬ (interrupt.rDone = true ∧ interrupt.crcOrNumError = false)
  · refine ⟨system, ?_, lostArgs, lostRefs, held, fun _ => ⟨rfl, rfl⟩⟩
    rw [step, hspiIrqHandler_other other]
    rfl
  obtain ⟨received, good⟩ := not_not.mp other
  obtain ⟨newBuffer, ramxPool, allocated, ownedRefs, _, _⟩ :=
    held.refs.allocBytes system.hspi.hspiPacketSize
  -- the driver with the new buffer in place; the old one is the new task's or nobody's
  have swap (argPool : HydraPool) : ramxPool.OwnedBy config.ramx
      (rxBuffer system.hspi interrupt.rxToggle ::
        (driverRefs { system with
          hspi := setRxBuffer { system.hspi with hspiArgPool := argPool, ramxPool := ramxPool }
            interrupt.rxToggle newBuffer } ++ system.userRefs ++ lostRefs)) := by
    refine ownedRefs.perm ?_
    have swapped := driverRefs_setRxBuffer system argPool ramxPool interrupt.rxToggle newBuffer
    rw [List.append_assoc, List.append_assoc]
    exact swapped.append_right (system.userRefs ++ lostRefs)
  obtain ⟨ptr, argPool, got, ⟨rfl, rfl, none⟩ | ⟨nonNull, free, _, ownedArgs⟩⟩ := held.args.get
  · have handled := hspiIrqHandler_receive received good got allocated
    have swapped := swap system.hspi.hspiArgPool
    have heldWith {lost : List Nat}
        (refs : ramxPool.OwnedBy config.ramx
          (driverRefs { system with
            hspi := setRxBuffer { system.hspi with ramxPool := ramxPool } interrupt.rxToggle
              newBuffer } ++ system.userRefs ++ lost)) :
        Held config { system with
          hspi := setRxBuffer { system.hspi with ramxPool := ramxPool } interrupt.rxToggle
            newBuffer } lostArgs lost :=
      ⟨by simpa [pending] using held.args, by simpa using refs,
        by simpa [pending] using held.wellFormed⟩
    refine ⟨_, by rw [step, handled]; rfl, ?_⟩
    by_cases null : rxBuffer system.hspi interrupt.rxToggle = 0
    · rw [null] at swapped
      exact ⟨lostArgs, lostRefs, heldWith (RamxPool.OwnedBy.null_cons.mp swapped),
        fun _ => ⟨rfl, rfl⟩⟩
    · refine ⟨lostArgs, _, heldWith (swapped.perm List.perm_middle.symm), ?_⟩
      intro losesNothing
      rcases losesNothing received good with ⟨free, _⟩ | ⟨_, isNull⟩
      · exact absurd free none
      · exact absurd isNull null
  · have handled := hspiIrqHandler_receive received good got allocated
    rw [if_neg nonNull] at handled
    refine ⟨_, by rw [step, handled]; rfl, ?_⟩
    obtain ⟨lostArgs', lostRefs', heldNext, kept⟩ := exists_held_of_room
      (held_schedule config
        { system with
          hspi := setRxBuffer { system.hspi with hspiArgPool := argPool, ramxPool := ramxPool }
            interrupt.rxToggle newBuffer }
        (setRxBuffer { system.hspi with hspiArgPool := argPool, ramxPool := ramxPool }
          interrupt.rxToggle newBuffer)
        (rxContents (rxBuffer system.hspi interrupt.rxToggle) interrupt)
        (by simpa [pending] using held.wellFormed) (.inr rfl)
        (by simpa [pending] using ownedArgs) (by simpa using swap argPool) rfl rfl rfl)
    refine ⟨lostArgs', lostRefs', heldNext, ?_⟩
    intro losesNothing
    rcases losesNothing received good with ⟨_, room⟩ | ⟨none, _⟩
    · exact kept (by simpa using room)
    · exact absurd free none

/-- A change of the pending tasks to a permutation of them changes nothing that is held. -/
theorem Held.reorder {next : HspiSystem} (held : Held config system lostArgs lostRefs)
    (pending : system.pending.Perm next.pending) (argPool : next.hspi.hspiArgPool =
      system.hspi.hspiArgPool) (ramxPool : next.hspi.ramxPool = system.hspi.ramxPool)
    (args : next.hspi.args = system.hspi.args) (userRefs : next.userRefs = system.userRefs)
    (slots : [next.hspi.hspiRxBuffer0, next.hspi.hspiRxBuffer1, next.hspi.hspiTxBuffer0,
        next.hspi.hspiTxBuffer1] = [system.hspi.hspiRxBuffer0, system.hspi.hspiRxBuffer1,
        system.hspi.hspiTxBuffer0, system.hspi.hspiTxBuffer1]) :
    Held config next lostArgs lostRefs := by
  have sameBuffers : hspiBuffers next.hspi next.pending =
      hspiBuffers system.hspi next.pending :=
    hspiBuffers_congr fun _ _ => congrFun args _
  refine ⟨?_, ?_, fun task member => held.wellFormed task (pending.mem_iff.mpr member)⟩
  · rw [argPool]
    exact held.args.perm ((hspiArgs_perm pending).append_right lostArgs)
  · have refs : system.driverRefs.Perm next.driverRefs := by
      unfold driverRefs
      rw [slots, sameBuffers]
      exact (hspiBuffers_perm system.hspi pending).append_left _
    rw [ramxPool, userRefs]
    exact held.refs.perm ((refs.append_right system.userRefs).append_right lostRefs)

theorem step_beginTask (held : Held config system lostArgs lostRefs) (txToggle : Bool) :
    ∃ next, step config system (.beginTask txToggle) = some next ∧
      Held config next lostArgs lostRefs := by
  cases tasks : system.hspi.taskQueue.tasks with
  | nil =>
      refine ⟨system, ?_, held⟩
      simp [step, TaskQueue.peekNextTask, tasks]
  | cons task rest =>
      refine ⟨_, by rw [step, TaskQueue.peekNextTask, tasks]; rfl, ?_⟩
      obtain ⟨_, _, _, _, ran⟩ := runTask_eq
        { system.hspi with taskQueue := system.hspi.taskQueue.dropNextTask } txToggle task
      rw [ran]
      refine held.reorder ?_ rfl rfl rfl rfl rfl
      simp only [pending, TaskQueue.dropNextTask, tasks, List.tail_cons]
      exact List.perm_middle

/-- The references around the buffers of the pending tasks. -/
theorem Held.refs_split (held : Held config system lostArgs lostRefs) :
    system.hspi.ramxPool.OwnedBy config.ramx (hspiBuffers system.hspi system.pending ++
      ([system.hspi.hspiRxBuffer0, system.hspi.hspiRxBuffer1, system.hspi.hspiTxBuffer0,
        system.hspi.hspiTxBuffer1] ++ system.userRefs ++ lostRefs)) := by
  refine held.refs.perm (List.perm_iff_count.mpr fun ptr => ?_)
  simp only [driverRefs, List.count_append]
  ring

/-- The converse of `Held.refs_split`, for the tasks that are left. -/
theorem held_of_split {next : HspiSystem}
    (args : next.hspi.hspiArgPool.OwnedBy (hspiArgs next.pending ++ lostArgs))
    (refs : next.hspi.ramxPool.OwnedBy config.ramx (hspiBuffers next.hspi next.pending ++
      ([next.hspi.hspiRxBuffer0, next.hspi.hspiRxBuffer1, next.hspi.hspiTxBuffer0,
        next.hspi.hspiTxBuffer1] ++ next.userRefs ++ lostRefs)))
    (wellFormed : ∀ task ∈ next.pending, WellFormed task) :
    Held config next lostArgs lostRefs := by
  refine ⟨args, refs.perm (List.perm_iff_count.mpr fun ptr => ?_), wellFormed⟩
  simp only [driverRefs, List.count_append]
  ring

theorem step_endTask (held : Held config system lostArgs lostRefs) :
    ∃ next, step config system .endTask = some next ∧ Held config next lostArgs lostRefs := by
  cases running : system.running with
  | nil => exact ⟨system, by rw [step, running], held⟩
  | cons task rest =>
      have pending : system.pending = task :: (rest ++ system.hspi.taskQueue.tasks) := by
        rw [HspiSystem.pending, running]
        rfl
      have args := held.args
      have refs := held.refs_split
      rw [pending] at args refs
      obtain ⟨after, cleaned, same, argsAfter, refsAfter⟩ :=
        cleanupTask_spec system.hspi args refs
      refine ⟨_, by rw [step, running]; dsimp only; rw [cleaned]; rfl, ?_⟩
      rw [same]
      refine held_of_split argsAfter refsAfter fun other member => ?_
      exact held.wellFormed other (by rw [pending]; exact List.mem_cons_of_mem _ member)

theorem step_freeAll (held : Held config system lostArgs lostRefs) :
    ∃ next, step config system .freeAll = some next ∧ Held config next lostArgs lostRefs := by
  have swap : system.pending.Perm (system.hspi.taskQueue.tasks ++ system.running) :=
    List.perm_append_comm
  obtain ⟨after, freed, empty, same, argsAfter, refsAfter⟩ :=
    freeTasks_spec system.hspi.taskQueue.tasks rfl
      (held.args.perm ((hspiArgs_perm swap).append_right lostArgs))
      (held.refs_split.perm ((hspiBuffers_perm system.hspi swap).append_right _))
  refine ⟨_, by rw [step, hydraInterruptQueueFreeAll, freed]; rfl, ?_⟩
  have pending : HspiSystem.pending { system with hspi := after } = system.running := by
    rw [HspiSystem.pending, empty, List.append_nil]
  refine held_of_split ?_ ?_ ?_
  · rw [pending]
    exact argsAfter
  · rw [pending, same]
    exact refsAfter
  · rw [pending]
    exact fun task member => held.wellFormed task (List.mem_append_left _ member)

theorem step_submit (held : Held config system lostArgs lostRefs) {task : Task}
    (admissible : Admissible system (.submit task)) :
    ∃ next, step config system (.submit task) = some next ∧
      Held config next lostArgs lostRefs := by
  obtain ⟨address, function, cleanup⟩ := admissible
  refine ⟨_, rfl, ?_⟩
  by_cases room : system.hspi.taskQueue.tasks.length < system.hspi.taskQueue.capacity
  · have pendingNext : pending { system with
        hspi := { system.hspi with taskQueue := (system.hspi.taskQueue.setNextTask task).2 } } =
        system.pending ++ [task] := by
      rw [pending, (TaskQueue.setNextTask_room room task).2, pending, List.append_assoc]
    have none : hspiArgs (system.pending ++ [task]) = hspiArgs system.pending := by
      rw [hspiArgs_append, hspiArgs_cons_user cleanup, hspiArgs_nil, List.append_nil]
    refine held_of_split ?_ ?_ ?_
    · rw [pendingNext, none]
      exact held.args
    · rw [hspiBuffers, pendingNext, none]
      exact held.refs_split
    · intro other member
      rw [pendingNext] at member
      rcases List.mem_append.mp member with old | new
      · exact held.wellFormed other old
      · obtain rfl := List.mem_singleton.mp new
        simp [WellFormed, function, cleanup]
  · rw [TaskQueue.setNextTask_full room]
    exact held

theorem step_userAlloc (held : Held config system lostArgs lostRefs) (numBlocks : Nat) :
    ∃ next, step config system (.userAlloc numBlocks) = some next ∧
      Held config next lostArgs lostRefs := by
  obtain ⟨ret, ramxPool, allocated, owned, _⟩ := held.refs.allocBlocks numBlocks
  refine ⟨_, by rw [step, allocated]; rfl, ?_⟩
  refine ⟨held.args, ?_, held.wellFormed⟩
  refine owned.perm (List.perm_iff_count.mpr fun ptr => ?_)
  simp only [driverRefs, pending, hspiBuffers, List.count_append, List.count_cons]
  ring

theorem Held.taken (held : Held config system lostArgs lostRefs) {ptr : Nat}
    (admissible : Admissible system (.userTake ptr)) :
    ∃ ramxPool, ramxTakeOwnership system.hspi.ramxPool ptr = some ramxPool ∧
      ramxPool.OwnedBy config.ramx
        (ptr :: (system.driverRefs ++ system.userRefs ++ lostRefs)) := by
  rcases admissible with rfl | ⟨member, shareable⟩
  · exact ⟨_, rfl, RamxPool.OwnedBy.null_cons.mpr held.refs⟩
  · exact held.refs.takeOwnership (List.mem_append_left lostRefs member) shareable

theorem Held.freed (held : Held config system lostArgs lostRefs) {ptr : Nat}
    (admissible : Admissible system (.userFree ptr)) :
    ∃ ramxPool, ramxPoolFree system.hspi.ramxPool ptr = some ramxPool ∧
      ramxPool.OwnedBy config.ramx
        (system.driverRefs ++ system.userRefs.erase ptr ++ lostRefs) := by
  have owned : system.hspi.ramxPool.OwnedBy config.ramx
      (ptr :: (system.driverRefs ++ system.userRefs.erase ptr ++ lostRefs)) := by
    by_cases member : ptr ∈ system.userRefs
    · refine held.refs.perm ?_
      have split := List.perm_cons_erase member
      refine ((split.append_left system.driverRefs).append_right lostRefs).trans ?_
      rw [List.append_assoc, List.append_assoc]
      exact List.perm_middle
    · obtain rfl : ptr = 0 := admissible.resolve_right member
      rw [List.erase_of_not_mem member]
      exact RamxPool.OwnedBy.null_cons.mpr held.refs
  exact owned.free

theorem step_userTake (held : Held config system lostArgs lostRefs) {ptr : Nat}
    (admissible : Admissible system (.userTake ptr)) :
    ∃ next, step config system (.userTake ptr) = some next ∧
      Held config next lostArgs lostRefs := by
  obtain ⟨ramxPool, taken, owned⟩ := held.taken admissible
  refine ⟨_, by rw [step, taken]; rfl, ?_⟩
  refine ⟨held.args, ?_, held.wellFormed⟩
  refine owned.perm (List.perm_iff_count.mpr fun other => ?_)
  simp only [driverRefs, pending, hspiBuffers, List.count_append, List.count_cons]
  ring

theorem step_userFree (held : Held config system lostArgs lostRefs) {ptr : Nat}
    (admissible : Admissible system (.userFree ptr)) :
    ∃ next, step config system (.userFree ptr) = some next ∧
      Held config next lostArgs lostRefs := by
  obtain ⟨ramxPool, freed, owned⟩ := held.freed admissible
  refine ⟨_, by rw [step, freed]; rfl, ?_⟩
  exact ⟨held.args, owned, held.wellFormed⟩

/-- Every step of the driver and its users succeeds and keeps track of what is held; it loses
nothing where there is room and there are resources for it. -/
theorem step_held (held : Held config system lostArgs lostRefs) (act : HspiAct)
    (admissible : Admissible system act) :
    ∃ next, step config system act = some next ∧
      ∃ lostArgs' lostRefs', Held config next lostArgs' lostRefs' ∧
        (LosesNothing config system act → lostArgs' = lostArgs ∧ lostRefs' = lostRefs) := by
  have keeps (kept : ∃ next, step config system act = some next ∧
      Held config next lostArgs lostRefs) :
      ∃ next, step config system act = some next ∧
        ∃ lostArgs' lostRefs', Held config next lostArgs' lostRefs' ∧
          (LosesNothing config system act → lostArgs' = lostArgs ∧ lostRefs' = lostRefs) := by
    obtain ⟨next, stepped, heldNext⟩ := kept
    exact ⟨next, stepped, lostArgs, lostRefs, heldNext, fun _ => ⟨rfl, rfl⟩⟩
  cases act with
  | send buffer size customRegister => exact step_send held buffer size customRegister admissible
  | interrupt interrupt => exact step_interrupt held interrupt
  | beginTask txToggle => exact keeps (step_beginTask held txToggle)
  | endTask => exact keeps (step_endTask held)
  | freeAll => exact keeps (step_freeAll held)
  | submit task => exact keeps (step_submit held admissible)
  | userAlloc numBlocks => exact keeps (step_userAlloc held numBlocks)
  | userTake ptr => exact keeps (step_userTake held admissible)
  | userFree ptr => exact keeps (step_userFree held admissible)

end Steps

end HspiSystem

end WchCh56x.Hspi
