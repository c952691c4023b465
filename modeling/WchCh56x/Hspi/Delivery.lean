import WchCh56x.Hspi.Leaks

/-!
# Delivery of accepted packets

A send that returns true has submitted its task exactly if the task queue had a
free place: the result of the submission is not looked at.
-/

namespace WchCh56x.Hspi

open Memory InterruptQueue Support.Runs HspiSystem

inductive Reachable (config : HspiConfig) : HspiSystem → Prop where
  | init {hspi start : HspiScheduled} {userRefs : List Nat} {size : Nat} :
      Fresh config hspi userRefs → hspiInit config hspi size = some start →
      Reachable config (initial start userRefs)
  | step {system next : HspiSystem} {act : HspiAct} :
      Reachable config system → Admissible system act →
      HspiSystem.step config system act = some next → Reachable config next

theorem Reachable.held {config : HspiConfig} {system : HspiSystem}
    (reachable : Reachable config system) :
    ∃ lostArgs lostRefs, Held config system lostArgs lostRefs := by
  induction reachable with
  | init fresh initialized =>
      obtain ⟨start, others, held⟩ := hspiInit_held fresh _
      obtain rfl := Option.some.inj (others.symm.trans initialized)
      exact ⟨[], [], held⟩
  | step _ admissible stepped ih =>
      obtain ⟨lostArgs, lostRefs, held⟩ := ih
      obtain ⟨next, others, lostArgs', lostRefs', heldNext, _⟩ := step_held held _ admissible
      obtain rfl := Option.some.inj (others.symm.trans stepped)
      exact ⟨lostArgs', lostRefs', heldNext⟩

namespace HspiSystem

def packets (hspi : HspiScheduled) (tasks : List Task) : List Packet :=
  (tasks.filter fun task => task.task = .hspiSend).map fun task => packetOf hspi task.args

def queuedSends (system : HspiSystem) : List Packet :=
  packets system.hspi system.hspi.taskQueue.tasks

/-- The same state, with the accounts of accepted and handed packets starting here. -/
def watch (system : HspiSystem) : HspiSystem :=
  { system with accepted := system.queuedSends, handed := [] }

/-- The accepted packets are, in order, those handed to `_hspi_send` and those queued. -/
def Delivers (system : HspiSystem) : Prop :=
  system.accepted = system.handed ++ system.queuedSends

/-- A send that gets an argument block and a buffer finds a free place in the queue. -/
def SendHasRoom (config : HspiConfig) (system : HspiSystem) : HspiAct → Prop
  | .send buffer _ _ =>
      system.hspi.hspiArgPool.HasFree → BufferAvailable config system.hspi buffer →
        system.hspi.taskQueue.tasks.length < system.hspi.taskQueue.capacity
  | _ => True

/-- The steps of a continuation that runs the tasks and frees none unrun. -/
def RunsTasks : HspiAct → Prop
  | .freeAll => False
  | _ => True

section Packets

variable {config : HspiConfig} {system : HspiSystem} {lostArgs lostRefs : List Nat}

theorem packets_append (hspi : HspiScheduled) (first second : List Task) :
    packets hspi (first ++ second) = packets hspi first ++ packets hspi second := by
  simp [packets]

/-- The packets only depend on the argument blocks of the driver's tasks. -/
theorem packets_congr {hspi other : HspiScheduled} {tasks : List Task}
    (wellFormed : ∀ task ∈ tasks, WellFormed task)
    (same : ∀ ptr ∈ hspiArgs tasks, other.args ptr = hspi.args ptr) :
    packets other tasks = packets hspi tasks := by
  apply List.map_congr_left
  intro task member
  obtain ⟨inTasks, sends⟩ := List.mem_filter.mp member
  have driver := (wellFormed task inTasks).mpr (.inl (of_decide_eq_true sends))
  have listed : task.args ∈ hspiArgs tasks :=
    List.mem_map.mpr ⟨task, List.mem_filter.mpr ⟨inTasks, decide_eq_true driver⟩, rfl⟩
  rw [packetOf, packetOf, same task.args listed]

theorem Held.queue_wellFormed (held : Held config system lostArgs lostRefs) :
    ∀ task ∈ system.hspi.taskQueue.tasks, WellFormed task := fun task member =>
  held.wellFormed task (List.mem_append_right _ member)

/-- Submitting a task with a new argument block adds its packet to the queue, if it is a send
and there is room. -/
theorem queuedSends_setTask (held : Held config system lostArgs lostRefs) {base : HspiScheduled}
    {ptr : Nat} (args : base.args = system.hspi.args)
    (queue : base.taskQueue = system.hspi.taskQueue) (fresh : ptr ∉ hspiArgs system.pending)
    (function : TaskFunction) (contents : HspiArgs) :
    packets (hspiSetTask base function ptr contents)
        (hspiSetTask base function ptr contents).taskQueue.tasks =
      system.queuedSends ++
        if system.hspi.taskQueue.tasks.length < system.hspi.taskQueue.capacity ∧
            function = .hspiSend then
          [packetOf (hspiSetTask base function ptr contents) ptr]
        else [] := by
  have old : packets (hspiSetTask base function ptr contents) system.hspi.taskQueue.tasks =
      system.queuedSends := by
    refine packets_congr held.queue_wellFormed fun other member => ?_
    have away : other ≠ ptr := by
      rintro rfl
      refine fresh ?_
      rw [pending, hspiArgs_append]
      exact List.mem_append_right _ member
    exact (Function.update_of_ne away _ _).trans (congrFun args other)
  have queue : (hspiSetTask base function ptr contents).taskQueue =
      (system.hspi.taskQueue.setNextTask ⟨function, ptr, some .hspiCleanup⟩).2 := by
    rw [hspiSetTask, queue]
  rw [queue]
  by_cases room : system.hspi.taskQueue.tasks.length < system.hspi.taskQueue.capacity
  · rw [(TaskQueue.setNextTask_room room _).2, packets_append, old]
    by_cases sends : function = .hspiSend
    · rw [if_pos ⟨room, sends⟩]
      simp [packets, sends]
    · rw [if_neg fun both => sends both.2]
      simp [packets, sends]
  · rw [TaskQueue.setNextTask_full room, if_neg fun both => room both.1, List.append_nil]
    exact old

/-- A send keeps the packets accounted for exactly if there is room for its task. -/
theorem delivers_send (held : Held config system lostArgs lostRefs) (delivers : Delivers system)
    {buffer size customRegister : Nat}
    (admissible : Admissible system (.send buffer size customRegister)) {next : HspiSystem}
    (stepped : step config system (.send buffer size customRegister) = some next) :
    Delivers next ↔ SendHasRoom config system (.send buffer size customRegister) := by
  obtain ⟨ret, ptr, after, sent, outcome⟩ :=
    hspiSend_spec held buffer size customRegister admissible
  rw [step, sent] at stepped
  rcases outcome with ⟨rfl, noArgs, rfl⟩ | ⟨free, base, takes, _,
      ⟨rfl, rfl, noBuffer, _⟩ | ⟨rfl, available, contents, rfl, _⟩⟩
  · obtain rfl := Option.some.inj stepped
    exact ⟨fun _ free => absurd free noArgs, fun _ => delivers⟩
  · obtain rfl := Option.some.inj stepped
    refine ⟨fun _ _ available => absurd available noBuffer, fun _ => ?_⟩
    have same : packets after after.taskQueue.tasks = system.queuedSends := by
      rw [takes.queue]
      exact packets_congr held.queue_wellFormed fun _ _ => congrFun takes.args _
    rw [Delivers, queuedSends, same]
    exact delivers
  · obtain rfl := Option.some.inj stepped
    have queued := queuedSends_setTask held takes.args takes.queue takes.fresh .hspiSend contents
    rw [Delivers, queuedSends, queued, delivers]
    by_cases room : system.hspi.taskQueue.tasks.length < system.hspi.taskQueue.capacity
    · rw [if_pos ⟨room, rfl⟩]
      exact ⟨fun _ _ _ => room, fun _ => List.append_assoc ..⟩
    · rw [if_neg fun both => room both.1]
      constructor
      · intro same
        have lengths := congrArg List.length same
        simp at lengths
      · intro hasRoom
        exact absurd (hasRoom free available) room

/-- Every other step that frees no task unrun keeps the packets accounted for. -/
theorem delivers_interrupt (held : Held config system lostArgs lostRefs)
    (delivers : Delivers system) {interrupt : HspiInterrupt} {next : HspiSystem}
    (stepped : step config system (.interrupt interrupt) = some next) : Delivers next := by
  by_cases other : ¬ (interrupt.rDone = true ∧ interrupt.crcOrNumError = false)
  · rw [step, hspiIrqHandler_other other] at stepped
    obtain rfl := Option.some.inj stepped
    exact delivers
  obtain ⟨received, good⟩ := not_not.mp other
  obtain ⟨newBuffer, ramxPool, allocated, _⟩ :=
    held.refs.allocBytes system.hspi.hspiPacketSize
  obtain ⟨ptr, argPool, got, ⟨rfl, _⟩ | ⟨nonNull, _, _, ownedArgs⟩⟩ := held.args.get
  all_goals
    rw [step, hspiIrqHandler_receive received good got allocated] at stepped
    obtain rfl := Option.some.inj stepped
  · rw [Delivers, queuedSends, if_pos rfl, setRxBuffer_taskQueue]
    refine delivers.trans (congrArg _ (packets_congr held.queue_wellFormed fun _ _ => ?_)).symm
    rw [setRxBuffer_args]
  · have fresh : ptr ∉ hspiArgs system.pending := fun member =>
      (List.nodup_cons.mp ownedArgs.distinct).1 (List.mem_append_left _ member)
    rw [Delivers, queuedSends, if_neg nonNull, queuedSends_setTask held (by simp) (by simp) fresh,
      if_neg (by simp), List.append_nil]
    exact delivers

theorem delivers_beginTask (delivers : Delivers system) {txToggle : Bool} {next : HspiSystem}
    (stepped : step config system (.beginTask txToggle) = some next) : Delivers next := by
  unfold Delivers queuedSends at delivers
  cases tasks : system.hspi.taskQueue.tasks with
  | nil =>
      simp only [step, TaskQueue.peekNextTask, tasks, List.head?_nil] at stepped
      obtain rfl := Option.some.inj stepped
      exact delivers
  | cons task rest =>
      obtain ⟨_, _, _, _, ran⟩ := runTask_eq
        { system.hspi with taskQueue := system.hspi.taskQueue.dropNextTask } txToggle task
      simp only [step, TaskQueue.peekNextTask, tasks, List.head?_cons, ran] at stepped
      obtain rfl := Option.some.inj stepped
      rw [tasks] at delivers
      have rest_eq : system.hspi.taskQueue.dropNextTask.tasks = rest := by
        simp [TaskQueue.dropNextTask, tasks]
      simp only [Delivers, queuedSends, rest_eq]
      by_cases sends : task.task = .hspiSend
      · rw [if_pos sends, delivers]
        simp [packets, sends, packetOf]
      · rw [if_neg sends, delivers]
        simp [packets, sends, packetOf]

theorem delivers_endTask (delivers : Delivers system) {next : HspiSystem}
    (stepped : step config system .endTask = some next) : Delivers next := by
  cases running : system.running with
  | nil =>
      rw [step, running] at stepped
      obtain rfl := Option.some.inj stepped
      exact delivers
  | cons task rest =>
      rw [step, running] at stepped
      obtain ⟨after, cleaned, same⟩ := Option.bind_eq_some_iff.mp stepped
      obtain rfl := Option.some.inj same
      have untouched : after.args = system.hspi.args ∧
          after.taskQueue = system.hspi.taskQueue := cleanupTask_frame cleaned
      simp only [Delivers, queuedSends, packets, packetOf, untouched]
      exact delivers

theorem delivers_submit (delivers : Delivers system) {task : Task}
    (admissible : Admissible system (.submit task)) {next : HspiSystem}
    (stepped : step config system (.submit task) = some next) : Delivers next := by
  obtain ⟨address, function, _⟩ := admissible
  obtain rfl := Option.some.inj stepped
  unfold Delivers queuedSends at delivers ⊢
  by_cases room : system.hspi.taskQueue.tasks.length < system.hspi.taskQueue.capacity
  · simp only [(TaskQueue.setNextTask_room room task).2, delivers]
    simp [packets, packetOf, function]
  · simp only [TaskQueue.setNextTask_full room]
    exact delivers

/-- A step keeps the packets accounted for exactly if there is room for the task of a send. -/
theorem delivers_step (held : Held config system lostArgs lostRefs) (delivers : Delivers system)
    {act : HspiAct} (admissible : Admissible system act) (runs : RunsTasks act)
    {next : HspiSystem} (stepped : step config system act = some next) :
    Delivers next ↔ SendHasRoom config system act := by
  cases act with
  | send buffer size customRegister => exact delivers_send held delivers admissible stepped
  | interrupt interrupt =>
      exact iff_of_true (delivers_interrupt held delivers stepped) trivial
  | beginTask txToggle => exact iff_of_true (delivers_beginTask delivers stepped) trivial
  | endTask => exact iff_of_true (delivers_endTask delivers stepped) trivial
  | freeAll => exact runs.elim
  | submit task => exact iff_of_true (delivers_submit delivers admissible stepped) trivial
  | userAlloc numBlocks =>
      obtain ⟨_, _, same⟩ := Option.bind_eq_some_iff.mp stepped
      obtain rfl := Option.some.inj same
      exact iff_of_true delivers trivial
  | userTake ptr =>
      obtain ⟨_, _, same⟩ := Option.bind_eq_some_iff.mp stepped
      obtain rfl := Option.some.inj same
      exact iff_of_true delivers trivial
  | userFree ptr =>
      obtain ⟨_, _, same⟩ := Option.bind_eq_some_iff.mp stepped
      obtain rfl := Option.some.inj same
      exact iff_of_true delivers trivial

end Packets

end HspiSystem

/-- From every reachable state: a send that returns true has its task in the queue exactly if
the queue was not full, and in every continuation that only runs tasks the accepted packets are
those handed to `_hspi_send` followed by those in the queue, in order, after every step exactly
if no accepted send meets a full queue. -/
theorem hspi_delivers_iff_room {config : HspiConfig} {system : HspiSystem}
    (reachable : Reachable config system) :
    (∀ buffer size customRegister, Admissible system (.send buffer size customRegister) →
      ∃ ret ptr after,
        hspiSend config system.hspi buffer size customRegister = some (ret, ptr, after) ∧
        (ret = true →
          (⟨.hspiSend, ptr, some .hspiCleanup⟩ ∈ after.taskQueue.tasks ↔
            system.hspi.taskQueue.tasks.length < system.hspi.taskQueue.capacity))) ∧
      ∀ acts,
        EveryStep (step config) (fun system act => Admissible system act ∧ RunsTasks act)
          system.watch acts →
        (Always (step config) Delivers system.watch acts ↔
          EveryStep (step config) (SendHasRoom config) system.watch acts) := by
  obtain ⟨lostArgs, lostRefs, held⟩ := reachable.held
  constructor
  · intro buffer size customRegister admissible
    obtain ⟨ret, ptr, after, sent, outcome⟩ :=
      hspiSend_spec held buffer size customRegister admissible
    refine ⟨ret, ptr, after, sent, fun accepted => ?_⟩
    rcases outcome with ⟨rfl, _⟩ | ⟨_, base, takes, _, ⟨rfl, _⟩ | ⟨_, _, contents, rfl, _⟩⟩
    · cases accepted
    · cases accepted
    · rw [hspiSetTask, takes.queue]
      by_cases room : system.hspi.taskQueue.tasks.length < system.hspi.taskQueue.capacity
      · simp [(TaskQueue.setNextTask_room room _).2, room]
      · simp only [TaskQueue.setNextTask_full room, room, iff_false]
        intro member
        -- a task with this argument block would make the block one that is in use
        refine takes.fresh (List.mem_map.mpr ⟨_, List.mem_filter.mpr
          ⟨List.mem_append_right _ member, rfl⟩, rfl⟩)
  · intro acts every
    have tracked : ∃ lostArgs lostRefs, Held config system.watch lostArgs lostRefs :=
      ⟨lostArgs, lostRefs, held.args, held.refs, held.wellFormed⟩
    have keeps : ∀ system act, (∃ lostArgs lostRefs, Held config system lostArgs lostRefs) →
        Admissible system act ∧ RunsTasks act → ∃ next, step config system act = some next ∧
          ∃ lostArgs lostRefs, Held config next lostArgs lostRefs := by
      rintro system act ⟨lostArgs, lostRefs, held⟩ conditions
      obtain ⟨next, stepped, lostArgs', lostRefs', heldNext, _⟩ :=
        step_held held act conditions.1
      exact ⟨next, stepped, lostArgs', lostRefs', heldNext⟩
    refine always_iff_everyStep (fun _ delivers => delivers) keeps ?_ tracked rfl every
    rintro system act next ⟨lostArgs, lostRefs, held⟩ delivers conditions stepped
    have kept := delivers_step held delivers conditions.1 conditions.2 stepped
    exact ⟨kept.mp, kept.mpr⟩

theorem reachable_started : Reachable oneTask (initial started []) :=
  .init (powerUp_fresh oneTask) hspiInit_started

/-- A send into an empty queue is handed to `_hspi_send`. -/
theorem hspi_delivers_a_send :
    Always (step oneTask) Delivers (initial started []).watch
      [.send 256 4 7, .beginTask false, .endTask] := by
  refine ((hspi_delivers_iff_room reachable_started).2 _ ?_).mpr ?_
  · exact ⟨⟨fun inPool => absurd inPool (by decide), trivial⟩, fun _ _ =>
      ⟨⟨trivial, trivial⟩, fun _ _ => ⟨⟨trivial, trivial⟩, fun _ _ => trivial⟩⟩⟩
  · exact ⟨fun _ _ => by decide, fun _ _ => ⟨trivial, fun _ _ => ⟨trivial, fun _ _ => trivial⟩⟩⟩

/-- A task of another user fills the queue: the next send returns true, its task is not in the
queue and its packet is neither handed over nor queued. -/
theorem hspi_drops_into_a_full_queue :
    Reachable oneTask (initial started []) ∧
      EveryStep (step oneTask) (fun system act => Admissible system act ∧ RunsTasks act)
        (initial started []).watch [.submit ⟨.user 512, 0, none⟩, .send 256 4 7] ∧
      (∃ system, step oneTask (initial started []).watch (.submit ⟨.user 512, 0, none⟩) =
          some system ∧
        ∃ ptr after, hspiSend oneTask system.hspi 256 4 7 = some (true, ptr, after) ∧
          ⟨.hspiSend, ptr, some .hspiCleanup⟩ ∉ after.taskQueue.tasks) ∧
      ¬ Always (step oneTask) Delivers (initial started []).watch
        [.submit ⟨.user 512, 0, none⟩, .send 256 4 7] := by
  refine ⟨reachable_started, ⟨⟨⟨512, rfl, by decide⟩, trivial⟩, ?_⟩,
    ⟨_, rfl, 65536, _, rfl, by decide⟩, ?_⟩
  · rintro next ⟨rfl⟩
    exact ⟨⟨fun inPool => absurd inPool (by decide), trivial⟩, fun _ _ => trivial⟩
  · intro always
    obtain ⟨final, run, delivers⟩ := always.final
    obtain rfl := Option.some.inj run
    exact absurd (congrArg List.length delivers) (by decide)

end WchCh56x.Hspi
