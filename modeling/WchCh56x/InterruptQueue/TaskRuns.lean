import WchCh56x.InterruptQueue.TaskQueue
import WchCh56x.Support.Runs

/-!
# Running the tasks of the queue

The functions of `interrupt_queue.h` on the bytes of `task_queue`, with the calls
they make.  A task is executed with the tasks that it submits itself.
-/

namespace WchCh56x.InterruptQueue

open Memory Support

/-- The addresses of a `hydra_interrupt_queue_task_t`; a `cleanup` of 0 is `NULL`. -/
structure TaskWords where
  task : U32
  args : U32
  cleanup : U32
  deriving DecidableEq, Repr

/-- The bytes that the compiler gives a task. -/
structure TaskLayout where
  size : Nat
  encode : TaskWords → List U8
  decode : List U8 → TaskWords
  size_lt : size < 65536
  encode_length : ∀ task, (encode task).length = size
  decode_encode : ∀ task, decode (encode task) = task

def wordBytes (word : U32) : List U8 :=
  [word.extractLsb' 0 8, word.extractLsb' 8 8, word.extractLsb' 16 8, word.extractLsb' 24 8]

def readWord (bytes : List U8) (offset : Nat) : U32 :=
  bytes.getD (offset + 3) 0 ++ bytes.getD (offset + 2) 0 ++ bytes.getD (offset + 1) 0 ++
    bytes.getD offset 0

theorem append_wordBytes (word : U32) :
    word.extractLsb' 24 8 ++ word.extractLsb' 16 8 ++ word.extractLsb' 8 8 ++
      word.extractLsb' 0 8 = word := by
  rw [BitVec.extractLsb'_append_extractLsb'_eq_extractLsb' (by decide),
    BitVec.extractLsb'_append_extractLsb'_eq_extractLsb' (by decide),
    BitVec.extractLsb'_append_extractLsb'_eq_extractLsb' (by decide)]
  simp

/-- Three words behind `in_use` and its padding, whose bytes nothing reads. -/
def rv32Layout : TaskLayout where
  size := 16
  encode task :=
    List.replicate 4 0 ++ wordBytes task.task ++ wordBytes task.args ++ wordBytes task.cleanup
  decode bytes := ⟨readWord bytes 4, readWord bytes 8, readWord bytes 12⟩
  size_lt := by decide
  encode_length _ := rfl
  decode_encode _ := by
    simp only [readWord, wordBytes, List.replicate, List.cons_append, List.nil_append,
      Nat.reduceAdd, List.getD_cons_succ, List.getD_cons_zero, append_wordBytes]

inductive Call where
  | task (address args : U32)
  | cleanup (address args : U32)
  deriving DecidableEq, Repr

/-- `task_queue`, the tasks it has accepted and the calls it has made. -/
structure QueueState where
  taskQueue : HydraFifo
  accepted : List TaskWords
  calls : List Call

def hydraInterruptQueueInit (taskQueue : HydraFifo) : Option HydraFifo := fifoClean taskQueue

/-- `if (task.cleanup) task.cleanup(task.args)` -/
def cleanupCalls (task : TaskWords) : List Call :=
  if task.cleanup = 0#32 then [] else [.cleanup task.cleanup task.args]

variable (layout : TaskLayout)

def hydraInterruptQueueSetNextTask (queue : QueueState) (task : TaskWords) :
    Option (Bool × QueueState) := do
  let (accepted, taskQueue) ← fifoSetNextTask layout.encode queue.taskQueue task
  return (accepted, { queue with
    taskQueue := taskQueue
    accepted := if accepted then queue.accepted ++ [task] else queue.accepted })

/-- The submissions that a task makes while it is executed. -/
def submitAll (queue : QueueState) : List TaskWords → Option QueueState
  | [] => some queue
  | task :: rest => do
      let (_, queue) ← hydraInterruptQueueSetNextTask layout queue task
      submitAll queue rest

/-- `hydra_interrupt_queue_run`; an executed task submits `submitted`. -/
def hydraInterruptQueueRun (queue : QueueState) (submitted : List TaskWords) :
    Option QueueState := do
  let (read, taskQueue) ← fifoReadTask queue.taskQueue
  match read with
  | none => return { queue with taskQueue := taskQueue }
  | some bytes => do
      let task := layout.decode bytes
      let queue ← submitAll layout { queue with
        taskQueue := taskQueue
        calls := queue.calls ++ [.task task.task task.args] } submitted
      return { queue with calls := queue.calls ++ cleanupCalls task }

/-- The loop of `hydra_interrupt_queue_free_all`, for at most `fuel` rounds. -/
def freeAllLoop : Nat → QueueState → Option QueueState
  | 0, _ => none
  | fuel + 1, queue => do
      let (read, taskQueue) ← fifoReadTask queue.taskQueue
      match read with
      | none => return { queue with taskQueue := taskQueue }
      | some bytes =>
          freeAllLoop fuel { queue with
            taskQueue := taskQueue
            calls := queue.calls ++ cleanupCalls (layout.decode bytes) }

/-- `hydra_interrupt_queue_free_all`; the queue has fewer tasks than slots. -/
def hydraInterruptQueueFreeAll (queue : QueueState) : Option QueueState :=
  freeAllLoop layout queue.taskQueue.size queue

def hydraInterruptQueuePeekNextTaskPrio0 (queue : QueueState) : Option (Option TaskWords) := do
  let read ← fifoPeekNextTask queue.taskQueue
  return read.map layout.decode

inductive Act where
  | setNextTask (task : TaskWords)
  | run (submitted : List TaskWords)
  | peekNextTask
  | freeAll

def step (queue : QueueState) : Act → Option QueueState
  | .setNextTask task => do
      let (_, queue) ← hydraInterruptQueueSetNextTask layout queue task
      return queue
  | .run submitted => hydraInterruptQueueRun layout queue submitted
  | .peekNextTask => do
      let _ ← hydraInterruptQueuePeekNextTaskPrio0 layout queue
      return queue
  | .freeAll => hydraInterruptQueueFreeAll layout queue

/-! ## What becomes of a task -/

inductive Outcome where
  | ran | discarded
  deriving DecidableEq, Repr

def Outcome.calls (task : TaskWords) : Outcome → List Call
  | .ran => .task task.task task.args :: cleanupCalls task
  | .discarded => cleanupCalls task

/-- The tasks in the queue, and those that have left it, in the order of their submission. -/
structure Ledger where
  queued : TaskQueue TaskWords
  left : List (TaskWords × Outcome)

/-- The FIFO stores the queued tasks, and the accepted tasks are those that have left and those
that are queued. -/
structure Ledger.Stores (ledger : Ledger) (size : Nat) (queue : QueueState) : Prop where
  capacity : ledger.queued.capacity = size
  stored : ledger.queued.StoredIn layout.encode queue.taskQueue
  accepted : queue.accepted = ledger.left.map Prod.fst ++ ledger.queued.tasks

def Ledger.calls (ledger : Ledger) : List Call :=
  ledger.left.flatMap fun entry => entry.2.calls entry.1

section

variable {layout} {size : Nat} {queue : QueueState} {ledger : Ledger}

/-- A submission to a full queue changes nothing. -/
theorem setNextTask_full (stores : ledger.Stores layout size queue)
    (full : ledger.queued.tasks.length = size) (task : TaskWords) :
    hydraInterruptQueueSetNextTask layout queue task = some (false, queue) := by
  have slots := stores.stored.size
  have capacity := stores.capacity
  have written := fifoWrite_full stores.stored.represents
    (show queue.taskQueue.size ≤ (ledger.queued.tasks.map layout.encode).length + 1 by
      rw [List.length_map]
      omega) (layout.encode task)
  unfold hydraInterruptQueueSetNextTask fifoSetNextTask
  rw [written]
  rfl

theorem setNextTask_room (stores : ledger.Stores layout size queue)
    (room : ledger.queued.tasks.length ≠ size) (task : TaskWords) :
    ∃ after, hydraInterruptQueueSetNextTask layout queue task = some (true, after) ∧
      ({ ledger with queued := (ledger.queued.setNextTask task).2 } : Ledger).Stores layout size
        after ∧
      after.calls = queue.calls ∧ after.accepted = queue.accepted ++ [task] := by
  have less : ledger.queued.tasks.length < ledger.queued.capacity :=
    Nat.lt_of_le_of_ne ledger.queued.within (stores.capacity ▸ room)
  obtain ⟨taskQueue, submitted, stored⟩ := stores.stored.setNextTask task
  obtain ⟨isTrue, tasks⟩ := TaskQueue.setNextTask_room less task
  rw [isTrue] at submitted
  refine ⟨{ queue with taskQueue := taskQueue, accepted := queue.accepted ++ [task] }, ?_, ?_, rfl,
    rfl⟩
  · unfold hydraInterruptQueueSetNextTask
    rw [submitted]
    rfl
  · refine ⟨?_, stored, ?_⟩
    · rw [TaskQueue.setNextTask_capacity]
      exact stores.capacity
    · rw [tasks, ← List.append_assoc, ← stores.accepted]

theorem submitAll_stores (stores : ledger.Stores layout size queue) (submitted : List TaskWords) :
    ∃ after queued, submitAll layout queue submitted = some after ∧
      ({ ledger with queued := queued } : Ledger).Stores layout size after ∧
      after.calls = queue.calls := by
  induction submitted generalizing queue ledger with
  | nil => exact ⟨queue, ledger.queued, rfl, stores, rfl⟩
  | cons task rest ih =>
      by_cases full : ledger.queued.tasks.length = size
      · obtain ⟨after, queued, others, storesAfter, calls⟩ := ih stores
        refine ⟨after, queued, ?_, storesAfter, calls⟩
        unfold submitAll
        rw [setNextTask_full stores full task]
        exact others
      · obtain ⟨next, accepted, storesNext, callsNext, _⟩ := setNextTask_room stores full task
        obtain ⟨after, queued, others, storesAfter, calls⟩ := ih storesNext
        refine ⟨after, queued, ?_, storesAfter, calls.trans callsNext⟩
        unfold submitAll
        rw [accepted]
        exact others

/-- The next task is read and leaves the queue. -/
theorem readTask_stores (stores : ledger.Stores layout size queue) {task : TaskWords}
    {rest : List TaskWords} (tasks : ledger.queued.tasks = task :: rest) (outcome : Outcome) :
    ∃ taskQueue, fifoReadTask queue.taskQueue = some (some (layout.encode task), taskQueue) ∧
      (⟨ledger.queued.dropNextTask, ledger.left ++ [(task, outcome)]⟩ : Ledger).Stores layout size
        { queue with taskQueue := taskQueue } := by
  obtain ⟨taskQueue, read, stored⟩ := stores.stored.readTask
  rw [TaskQueue.peekNextTask, tasks] at read
  refine ⟨taskQueue, read, stores.capacity, stored, ?_⟩
  have tail : ledger.queued.dropNextTask.tasks = rest := congrArg List.tail tasks
  change queue.accepted = (ledger.left ++ [(task, outcome)]).map Prod.fst ++
    ledger.queued.dropNextTask.tasks
  rw [stores.accepted, tasks, tail, List.map_append, List.append_assoc]
  rfl

/-- Nothing is read from an empty queue. -/
theorem readTask_empty (stores : ledger.Stores layout size queue)
    (tasks : ledger.queued.tasks = []) :
    ∃ taskQueue, fifoReadTask queue.taskQueue = some (none, taskQueue) ∧
      ledger.Stores layout size { queue with taskQueue := taskQueue } := by
  obtain ⟨taskQueue, read, stored⟩ := stores.stored.readTask
  rw [TaskQueue.peekNextTask, tasks] at read
  have same : ledger.queued.dropNextTask = ledger.queued := by
    obtain ⟨⟨capacity, _, within⟩, left⟩ := ledger
    obtain rfl : _ = [] := tasks
    rfl
  rw [same] at stored
  exact ⟨taskQueue, read, stores.capacity, stored, stores.accepted⟩

/-- `hydra_interrupt_queue_run` executes the next task once, with its cleanup after it. -/
theorem run_next (stores : ledger.Stores layout size queue) {task : TaskWords}
    {rest : List TaskWords} (tasks : ledger.queued.tasks = task :: rest)
    (submitted : List TaskWords) :
    ∃ after queued, hydraInterruptQueueRun layout queue submitted = some after ∧
      (⟨queued, ledger.left ++ [(task, .ran)]⟩ : Ledger).Stores layout size after ∧
      after.calls = queue.calls ++ Outcome.ran.calls task := by
  obtain ⟨taskQueue, read, storesRead⟩ := readTask_stores stores tasks .ran
  have storesCalled : Ledger.Stores layout ⟨ledger.queued.dropNextTask,
      ledger.left ++ [(task, .ran)]⟩ size { queue with
        taskQueue := taskQueue
        calls := queue.calls ++ [.task task.task task.args] } :=
    ⟨storesRead.capacity, storesRead.stored, storesRead.accepted⟩
  obtain ⟨after, queued, others, storesAfter, calls⟩ := submitAll_stores storesCalled submitted
  refine ⟨{ after with calls := after.calls ++ cleanupCalls task }, queued, ?_,
    ⟨storesAfter.capacity, storesAfter.stored, storesAfter.accepted⟩, ?_⟩
  · unfold hydraInterruptQueueRun
    rw [read]
    simp only [Option.bind_eq_bind, Option.bind_some, layout.decode_encode, others]
    rfl
  · change after.calls ++ cleanupCalls task = _
    rw [calls, List.append_assoc]
    rfl

theorem run_empty (stores : ledger.Stores layout size queue) (tasks : ledger.queued.tasks = [])
    (submitted : List TaskWords) :
    ∃ after, hydraInterruptQueueRun layout queue submitted = some after ∧
      ledger.Stores layout size after ∧ after.calls = queue.calls := by
  obtain ⟨taskQueue, read, storesRead⟩ := readTask_empty stores tasks
  refine ⟨{ queue with taskQueue := taskQueue }, ?_, storesRead, rfl⟩
  unfold hydraInterruptQueueRun
  rw [read]
  rfl

/-- The loop of `hydra_interrupt_queue_free_all` empties the queue with every cleanup called. -/
theorem freeAllLoop_discards {fuel : Nat} {tasks : List TaskWords}
    (stores : ledger.Stores layout size queue) (isTasks : ledger.queued.tasks = tasks)
    (enough : tasks.length < fuel) :
    ∃ after queued, freeAllLoop layout fuel queue = some after ∧
      (⟨queued, ledger.left ++ tasks.map (·, .discarded)⟩ : Ledger).Stores layout size after ∧
      queued.tasks = [] ∧
      after.calls = queue.calls ++ tasks.flatMap cleanupCalls := by
  induction tasks generalizing fuel queue ledger with
  | nil =>
      obtain ⟨fuel, rfl⟩ := Nat.exists_eq_add_of_lt enough
      obtain ⟨taskQueue, read, storesRead⟩ := readTask_empty stores isTasks
      refine ⟨{ queue with taskQueue := taskQueue }, ledger.queued, ?_, ?_, isTasks, ?_⟩
      · rw [List.length_nil, Nat.zero_add]
        unfold freeAllLoop
        rw [read]
        rfl
      · rw [List.map_nil, List.append_nil]
        exact storesRead
      · rw [List.flatMap_nil, List.append_nil]
  | cons task rest ih =>
      cases fuel with
      | zero => exact absurd enough (Nat.not_lt_zero _)
      | succ fuel =>
          obtain ⟨taskQueue, read, storesRead⟩ := readTask_stores stores isTasks .discarded
          have storesCalled : Ledger.Stores layout ⟨ledger.queued.dropNextTask,
              ledger.left ++ [(task, .discarded)]⟩ size { queue with
                taskQueue := taskQueue
                calls := queue.calls ++ cleanupCalls task } :=
            ⟨storesRead.capacity, storesRead.stored, storesRead.accepted⟩
          obtain ⟨after, queued, others, storesAfter, emptied, calls⟩ :=
            ih storesCalled (congrArg List.tail isTasks) (Nat.lt_of_succ_lt_succ enough)
          refine ⟨after, queued, ?_, ?_, emptied, ?_⟩
          · unfold freeAllLoop
            rw [read]
            simp only [Option.bind_eq_bind, Option.bind_some, layout.decode_encode]
            exact others
          · rw [List.append_assoc] at storesAfter
            exact storesAfter
          · rw [calls, List.append_assoc, List.flatMap_cons]

end

/-! ## Runs -/

/-- `INTERRUPT_QUEUE_SIZE`; with the unused slot it fits the `uint16_t` size of a FIFO. -/
structure QueueConfig where
  interruptQueueSize : Nat
  positive : 1 ≤ interruptQueueSize
  fits : interruptQueueSize + 1 < 65536

/-- A submission is refused exactly when the queue is full, and then nothing changes. -/
def Ledger.Submits (ledger : Ledger) (size : Nat) (queue : QueueState) : Prop :=
  ∀ task, if ledger.queued.tasks.length = size then
    hydraInterruptQueueSetNextTask layout queue task = some (false, queue)
  else
    ∃ after, hydraInterruptQueueSetNextTask layout queue task = some (true, after) ∧
      after.accepted = queue.accepted ++ [task] ∧ after.calls = queue.calls

/-- The task that is peeked at is the one that the next run executes. -/
def Ledger.PeeksNext (ledger : Ledger) (queue : QueueState) : Prop :=
  hydraInterruptQueuePeekNextTaskPrio0 layout queue = some ledger.queued.tasks.head? ∧
    ∀ submitted, ∃ after, hydraInterruptQueueRun layout queue submitted = some after ∧
      after.calls = queue.calls ++ ledger.queued.tasks.head?.elim [] Outcome.ran.calls

/-- `hydra_interrupt_queue_free_all` takes the queued tasks out, with the call of each cleanup and
none of a task. -/
def Ledger.FreesAll (ledger : Ledger) (size : Nat) (queue : QueueState) : Prop :=
  ∃ after queued, hydraInterruptQueueFreeAll layout queue = some after ∧
    (⟨queued, ledger.left ++ ledger.queued.tasks.map (·, .discarded)⟩ : Ledger).Stores layout size
      after ∧
    queued.tasks = [] ∧ after.calls = queue.calls ++ ledger.queued.tasks.flatMap cleanupCalls

/-- Every accepted task is queued or has left the queue once, in order, with its calls and no
others. -/
def RunsEachTaskOnce (size : Nat) (queue : QueueState) : Prop :=
  ∃ ledger : Ledger, ledger.Stores layout size queue ∧ queue.calls = ledger.calls ∧
    ledger.Submits layout size queue ∧ ledger.PeeksNext layout queue ∧
      ledger.FreesAll layout size queue

section

variable {layout} {size : Nat} {queue : QueueState} {ledger : Ledger}

theorem submits_of_stores (stores : ledger.Stores layout size queue) :
    ledger.Submits layout size queue := by
  intro task
  split
  · next full => exact setNextTask_full stores full task
  · next room =>
      obtain ⟨after, accepted, _, calls, appended⟩ := setNextTask_room stores room task
      exact ⟨after, accepted, appended, calls⟩

theorem peeksNext_of_stores (stores : ledger.Stores layout size queue) :
    ledger.PeeksNext layout queue := by
  constructor
  · have decoded (task : Option TaskWords) :
        (task.map layout.encode).map layout.decode = task := by
      cases task with
      | none => rfl
      | some task => exact congrArg some (layout.decode_encode task)
    unfold hydraInterruptQueuePeekNextTaskPrio0
    rw [stores.stored.peekNextTask]
    exact congrArg some (decoded _)
  · intro submitted
    cases tasks : ledger.queued.tasks with
    | nil =>
        obtain ⟨after, ran, _, calls⟩ := run_empty stores tasks submitted
        exact ⟨after, ran, by rw [calls]; exact (List.append_nil _).symm⟩
    | cons task rest =>
        obtain ⟨after, _, ran, _, calls⟩ := run_next stores tasks submitted
        exact ⟨after, ran, calls⟩

theorem freesAll_of_stores (stores : ledger.Stores layout size queue) :
    ledger.FreesAll layout size queue := by
  have slots : ledger.queued.tasks.length < queue.taskQueue.size := by
    have bound := stores.stored.represents.queue_lt
    rwa [List.length_map] at bound
  exact freeAllLoop_discards stores rfl slots

/-- Every operation keeps the ledger balanced. -/
theorem balanced_step
    (balanced : ∃ ledger : Ledger, ledger.Stores layout size queue ∧ queue.calls = ledger.calls)
    (act : Act) : ∃ next, step layout queue act = some next ∧
      ∃ ledger : Ledger, ledger.Stores layout size next ∧ next.calls = ledger.calls := by
  obtain ⟨ledger, stores, calls⟩ := balanced
  cases act with
  | setNextTask task =>
      by_cases full : ledger.queued.tasks.length = size
      · refine ⟨queue, ?_, ledger, stores, calls⟩
        unfold step
        simp only []
        rw [setNextTask_full stores full task]
        rfl
      · obtain ⟨after, accepted, storesAfter, callsAfter, _⟩ := setNextTask_room stores full task
        refine ⟨after, ?_, _, storesAfter, callsAfter.trans calls⟩
        unfold step
        simp only []
        rw [accepted]
        rfl
  | run submitted =>
      cases tasks : ledger.queued.tasks with
      | nil =>
          obtain ⟨after, ran, storesAfter, callsAfter⟩ := run_empty stores tasks submitted
          exact ⟨after, ran, ledger, storesAfter, callsAfter.trans calls⟩
      | cons task rest =>
          obtain ⟨after, queued, ran, storesAfter, callsAfter⟩ := run_next stores tasks submitted
          refine ⟨after, ran, _, storesAfter, ?_⟩
          rw [callsAfter, calls, Ledger.calls, Ledger.calls, List.flatMap_append,
            List.flatMap_singleton]
  | peekNextTask =>
      refine ⟨queue, ?_, ledger, stores, calls⟩
      unfold step
      simp only []
      rw [(peeksNext_of_stores stores).1]
      rfl
  | freeAll =>
      obtain ⟨after, queued, freed, storesAfter, _, callsAfter⟩ := freesAll_of_stores stores
      refine ⟨after, freed, _, storesAfter, ?_⟩
      rw [callsAfter, calls, Ledger.calls, Ledger.calls, List.flatMap_append, List.flatMap_map]
      rfl

end

/-- The FIFO that `HYDRA_FIFO_DEF` defines, after `hydra_interrupt_queue_init`. -/
theorem init_stores (config : QueueConfig) :
    ∃ taskQueue, hydraInterruptQueueInit
        (hydraFifoDef config.interruptQueueSize layout.size) = some taskQueue ∧
      (⟨TaskQueue.empty config.interruptQueueSize, []⟩ : Ledger).Stores layout
        config.interruptQueueSize ⟨taskQueue, [], []⟩ := by
  have fits := config.fits
  have slots : u16 (config.interruptQueueSize + 1) = config.interruptQueueSize + 1 := u16_of_lt fits
  have powerUp : (hydraFifoDef config.interruptQueueSize layout.size).Represents [] := by
    refine ⟨?_, ?_, ?_, ?_, ?_, rfl⟩
    · exact slots.trans_lt fits
    · simp [hydraFifoDef, slots]
    · simp [hydraFifoDef, slots]
    · simp [hydraFifoDef, slots]
    · simp [hydraFifoDef, slots]
  obtain ⟨taskQueue, cleaned, represents, sameSize, sameWidth⟩ := fifoClean_spec powerUp
  refine ⟨taskQueue, cleaned, rfl, ⟨represents, ?_, ?_, ?_⟩, rfl⟩
  · exact sameSize.trans slots
  · intro task
    rw [sameWidth]
    exact layout.encode_length task
  · rw [sameWidth]
    exact layout.size_lt

/-- From `hydra_interrupt_queue_init` on the queue runs every accepted task once and cleans it up
once, whatever the tasks submit. -/
theorem interrupt_queue_runs_each_task_once (config : QueueConfig) (acts : List Act) :
    ∃ taskQueue, hydraInterruptQueueInit
        (hydraFifoDef config.interruptQueueSize layout.size) = some taskQueue ∧
      Runs.Always (step layout) (RunsEachTaskOnce layout config.interruptQueueSize)
        ⟨taskQueue, [], []⟩ acts := by
  obtain ⟨taskQueue, init, stores⟩ := init_stores layout config
  refine ⟨taskQueue, init, ?_⟩
  have balanced := Runs.always_of_keeps (fun _ act balanced => balanced_step balanced act)
    ⟨_, stores, rfl⟩ acts
  exact balanced.imp fun queue ⟨ledger, stores, calls⟩ =>
    ⟨ledger, stores, calls, submits_of_stores stores, peeksNext_of_stores stores,
      freesAll_of_stores stores⟩

/-- A queue for two tasks.  The first one submits another, and the last two are discarded. -/
theorem two_tasks_run_once :
    ∃ taskQueue, hydraInterruptQueueInit (hydraFifoDef 2 rv32Layout.size) = some taskQueue ∧
      Runs.Always (step rv32Layout) (RunsEachTaskOnce rv32Layout 2) ⟨taskQueue, [], []⟩
        [.setNextTask ⟨0x20001000#32, 1#32, 0x20001100#32⟩,
          .run [⟨0x20001200#32, 2#32, 0x20001100#32⟩],
          .setNextTask ⟨0x20001000#32, 3#32, 0#32⟩, .peekNextTask, .freeAll] :=
  interrupt_queue_runs_each_task_once rv32Layout ⟨2, by decide, by decide⟩ _

end WchCh56x.InterruptQueue
