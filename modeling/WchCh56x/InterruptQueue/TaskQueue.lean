import WchCh56x.Memory.FifoQueue

/-!
# The task queue of `interrupt_queue/interrupt_queue.h`

The queue as the list of its tasks, and the functions on `task_queue` as the
source has them, on the bytes of the FIFO.  The list is what the FIFO
represents, whatever bytes the compiler gives a task.
-/

namespace WchCh56x.InterruptQueue

open Memory

/-- `hydra_interrupt_queue_task_t`; no code reads its `in_use`. -/
structure HydraInterruptQueueTask (Function Cleanup : Type) where
  task : Function
  args : Nat
  cleanup : Option Cleanup
  deriving DecidableEq, Repr

/-- At most `capacity` tasks, the next one first. -/
structure TaskQueue (Task : Type) where
  capacity : Nat
  tasks : List Task
  within : tasks.length ≤ capacity

namespace TaskQueue

variable {Task : Type}

def empty (capacity : Nat) : TaskQueue Task := ⟨capacity, [], Nat.zero_le _⟩

def setNextTask (queue : TaskQueue Task) (task : Task) : Bool × TaskQueue Task :=
  if room : queue.tasks.length < queue.capacity then
    (true, { queue with tasks := queue.tasks ++ [task], within := by simpa using room })
  else
    (false, queue)

/-- `hydra_interrupt_queue_peek_next_task_prio0` -/
def peekNextTask (queue : TaskQueue Task) : Option Task := queue.tasks.head?

def dropNextTask (queue : TaskQueue Task) : TaskQueue Task where
  capacity := queue.capacity
  tasks := queue.tasks.tail
  within := by
    have within := queue.within
    simp
    omega

theorem setNextTask_room {queue : TaskQueue Task} (room : queue.tasks.length < queue.capacity)
    (task : Task) :
    (queue.setNextTask task).1 = true ∧
      (queue.setNextTask task).2.tasks = queue.tasks ++ [task] := by
  simp [setNextTask, room]

theorem setNextTask_full {queue : TaskQueue Task} (full : ¬ queue.tasks.length < queue.capacity)
    (task : Task) : queue.setNextTask task = (false, queue) := by
  simp [setNextTask, full]

@[simp] theorem setNextTask_capacity (queue : TaskQueue Task) (task : Task) :
    (queue.setNextTask task).2.capacity = queue.capacity := by
  unfold setNextTask
  split <;> rfl

end TaskQueue

/-! ## On the bytes of the FIFO -/

section Bytes

variable {Task : Type} (encode : Task → List U8)

/-- `hydra_interrupt_queue_set_next_task` on `task_queue`. -/
def fifoSetNextTask (taskQueue : HydraFifo) (task : Task) : Option (Bool × HydraFifo) := do
  let (written, taskQueue) ← fifoWrite taskQueue (encode task) 1
  if written = 0 then
    return (false, taskQueue)
  else
    return (true, taskQueue)

/-- `fifo_read_n(&task_queue, &task, 1)`: the bytes of the task, if there is one. -/
def fifoReadTask (taskQueue : HydraFifo) : Option (Option (List U8) × HydraFifo) := do
  let (read, task, taskQueue) ← fifoReadN taskQueue 1
  return (if read = 0 then none else some task, taskQueue)

/-- `hydra_interrupt_queue_peek_next_task_prio0` on `task_queue`. -/
def fifoPeekNextTask (taskQueue : HydraFifo) : Option (Option (List U8)) := do
  let (read, task) ← fifoPeekN taskQueue 1
  return if read = 0 then none else some task

structure TaskQueue.StoredIn (queue : TaskQueue Task) (taskQueue : HydraFifo) : Prop where
  represents : taskQueue.Represents (queue.tasks.map encode)
  size : taskQueue.size = queue.capacity + 1
  width : ∀ task, (encode task).length = taskQueue.typeSize
  narrow : taskQueue.typeSize < 65536

variable {encode} {queue : TaskQueue Task} {taskQueue : HydraFifo}

theorem TaskQueue.StoredIn.setNextTask (stored : queue.StoredIn encode taskQueue) (task : Task) :
    ∃ after, fifoSetNextTask encode taskQueue task = some ((queue.setNextTask task).1, after) ∧
      (queue.setNextTask task).2.StoredIn encode after := by
  have size := stored.size
  obtain ⟨after, write, represents, sameSize, sameWidth⟩ :=
    fifoWrite_spec stored.represents
      (show ∀ element ∈ [encode task], element.length = taskQueue.typeSize by simp [stored.width])
      (fun _ => by simpa using stored.narrow)
  rw [List.length_map] at write represents
  have storedAfter {next : TaskQueue Task} (capacity : next.capacity = queue.capacity)
      (holds : after.Represents (next.tasks.map encode)) : next.StoredIn encode after :=
    ⟨holds, by rw [sameSize, size, capacity], by simpa [sameWidth] using stored.width,
      by simpa [sameWidth] using stored.narrow⟩
  simp only [List.flatten_cons, List.flatten_nil, List.append_nil, List.length_singleton]
    at write represents
  unfold fifoSetNextTask
  rw [write]
  by_cases room : queue.tasks.length < queue.capacity
  · rw [if_pos (by omega)] at represents
    obtain ⟨accepted, tasks⟩ := TaskQueue.setNextTask_room room task
    rw [accepted]
    refine ⟨after, ?_, storedAfter (by simp) ?_⟩
    · simp only [Option.bind_eq_bind, Option.bind_some]
      rw [if_pos (show queue.tasks.length + 1 < taskQueue.size by omega)]
      rfl
    · rw [tasks, List.map_append]
      exact represents
  · rw [if_neg (by omega)] at represents
    rw [TaskQueue.setNextTask_full room]
    refine ⟨after, ?_, storedAfter rfl represents⟩
    simp only [Option.bind_eq_bind, Option.bind_some]
    rw [if_neg (show ¬ queue.tasks.length + 1 < taskQueue.size by omega)]
    rfl

theorem TaskQueue.StoredIn.readTask (stored : queue.StoredIn encode taskQueue) :
    ∃ after, fifoReadTask taskQueue = some (queue.peekNextTask.map encode, after) ∧
      queue.dropNextTask.StoredIn encode after := by
  obtain ⟨after, read, represents, sameSize, sameWidth⟩ :=
    fifoReadN_spec stored.represents 1 (fun _ => by simpa using stored.narrow)
  have storedAfter (holds : after.Represents (queue.tasks.tail.map encode)) :
      queue.dropNextTask.StoredIn encode after :=
    ⟨holds, by rw [sameSize]; exact stored.size, by simpa [sameWidth] using stored.width,
      by simpa [sameWidth] using stored.narrow⟩
  unfold fifoReadTask TaskQueue.peekNextTask
  rw [read]
  cases tasks : queue.tasks with
  | nil => exact ⟨after, by simp, storedAfter (by simpa [tasks] using represents)⟩
  | cons task rest => exact ⟨after, by simp, storedAfter (by simpa [tasks] using represents)⟩

theorem TaskQueue.StoredIn.peekNextTask (stored : queue.StoredIn encode taskQueue) :
    fifoPeekNextTask taskQueue = some (queue.peekNextTask.map encode) := by
  unfold fifoPeekNextTask fifoPeekN TaskQueue.peekNextTask
  rw [fifoReadNAt_spec stored.represents 1 (fun _ => by simpa using stored.narrow)]
  cases tasks : queue.tasks with
  | nil => simp
  | cons task rest => simp

end Bytes

end WchCh56x.InterruptQueue
