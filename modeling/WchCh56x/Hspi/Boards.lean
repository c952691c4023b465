import WchCh56x.Hspi.Messages

/-!
# Boards and what moves their messages

A board with the hardware that writes received packets and with users that write
to memory.  Every step keeps the bytes of the messages that wait, and adds at most
one message to the end of the queue.
-/

namespace WchCh56x.Hspi

open Memory InterruptQueue HspiSystem

inductive BoardAct where
  | driver (act : HspiAct)
  /-- The hardware writes a packet to the receive address, and its interrupt is handled. -/
  | packet (bytes : List U8) (interrupt : HspiInterrupt)
  /-- A user writes to memory. -/
  | store (address : Nat) (bytes : List U8)

def HspiInterrupt.Good (interrupt : HspiInterrupt) : Prop :=
  interrupt.rDone = true ∧ interrupt.crcOrNumError = false

def receivedMessage (bytes : List U8) (interrupt : HspiInterrupt) : Message :=
  let contents := rxContents 0 interrupt
  ⟨bytes.take contents.size, contents.customRegister⟩

namespace HspiSystem

def receiveBytes (system : HspiSystem) (bytes : List U8) (rxToggle : Bool) : HspiSystem :=
  system.setMemory (storeBytes system.hspi.memory (rxAddr system.hspi rxToggle) bytes)

def boardStep (config : HspiConfig) (system : HspiSystem) : BoardAct → Option HspiSystem
  | .driver act => step config system act
  | .packet bytes interrupt =>
      step config (system.receiveBytes bytes interrupt.rxToggle) (.interrupt interrupt)
  | .store address bytes => some (system.setMemory (storeBytes system.hspi.memory address bytes))

/-- No waiting message has any of these `count` bytes. -/
def Avoids (system : HspiSystem) (address count : Nat) : Prop :=
  ∀ task ∈ system.waiting, IsHspiTask task → ∀ offset < (system.hspi.args task.args).size,
    (system.hspi.args task.args).buffer + offset < address ∨
      address + count ≤ (system.hspi.args task.args).buffer + offset

/-- What is owed on a board: users send no more than a packet and no more than what their
allocation holds, and do not write to messages that wait; packets come with the bytes that their
header names, and there is room for the buffer that takes the place of theirs. -/
def Owed (config : HspiConfig) (packetSize : Nat) (system : HspiSystem) : BoardAct → Prop
  | .driver (.send buffer size customRegister) =>
      CallerOwns system (.send buffer size customRegister) ∧ size ≤ packetSize ∧
        (ramxAddressInPool system.hspi.ramxPool buffer →
          system.hspi.ramxPool.Fits config.ramx buffer (u16 size))
  | .driver (.interrupt interrupt) => ¬ interrupt.Good
  | .driver act => CallerOwns system act ∧ RunsTasks act
  | .packet bytes interrupt =>
      bytes.length ≤ packetSize ∧ (rxContents 0 interrupt).size ≤ bytes.length ∧
        FindsBuffer config system (.interrupt interrupt)
  | .store address bytes => system.Avoids address bytes.length

def begun (system : HspiSystem) : BoardAct → List Task
  | .driver (.beginTask _) => system.hspi.taskQueue.peekNextTask.toList
  | _ => []

def sentMessage (config : HspiConfig) (system : HspiSystem) (buffer size customRegister : Nat) :
    List Message :=
  match hspiSend config system.hspi buffer size customRegister with
  | some (true, _, _) =>
      [⟨bytesAt system.hspi.memory buffer (u16 size), u16 customRegister % 8192⟩]
  | _ => []

/-- What joins the queue of a function. -/
def Adds (config : HspiConfig) (system : HspiSystem) :
    BoardAct → TaskFunction → List Message → Prop
  | .driver (.send buffer size customRegister), .hspiSend, added =>
      added =
        if system.hspi.taskQueue.tasks.length < system.hspi.taskQueue.capacity then
          sentMessage config system buffer size customRegister
        else []
  | .packet bytes interrupt, .hspiRxCallback, added =>
      HandsOn system interrupt.rxToggle (.interrupt interrupt) ∧
          added = [receivedMessage bytes interrupt] ∨
        ¬ HandsOn system interrupt.rxToggle (.interrupt interrupt) ∧ added = []
  | _, _, added => added = []

/-- A step keeps the board sound and the bytes of waiting messages, takes the message of the task
that begins from the front of the queue and adds at most one at the end. -/
structure Moves (config : HspiConfig) (packetSize : Nat) (system : HspiSystem) (act : BoardAct)
    (next : HspiSystem) : Prop where
  sound : Sound config packetSize next
  keeps : Keeps system next.hspi
  queued : ∀ function, IsHspiFunction function → ∃ added, Adds config system act function added ∧
    messages function system.hspi (begun system act) ++ queued function next =
      queued function system ++ added

section Steps

variable {config : HspiConfig} {packetSize : Nat} {system next : HspiSystem}

theorem mem_waiting_of_queued {task : Task} (member : task ∈ system.hspi.taskQueue.tasks) :
    task ∈ system.waiting := List.mem_append_right _ member

/-- A step of the driver that keeps the waiting messages. -/
theorem Sound.step_of_keeps (sound : Sound config packetSize system) {act : HspiAct}
    (owns : CallerOwns system act) (finds : FindsBuffer config system act)
    (stepped : step config system act = some next) (keeps : Keeps system next.hspi)
    (tasks : ∀ task ∈ next.waiting, IsHspiTask task →
      task ∈ system.waiting ∨ Stored config packetSize next.hspi task) :
    Sound config packetSize next := by
  obtain ⟨lostArgs, lostRefs, held⟩ := sound.exclusive.held
  have effect := step_effect held (owns.admissible held) stepped
  obtain ⟨next', stepped', exclusive⟩ := sound.exclusive.step owns
  obtain rfl := Option.some.inj (stepped'.symm.trans stepped)
  exact sound.of_keeps exclusive (sound.ready.step effect exclusive.held finds) effect.marks keeps
    tasks

theorem Keeps.trans {middle : HspiSystem} {after : HspiScheduled}
    (first : Keeps system middle.hspi) (second : Keeps middle after)
    (same : middle.waiting = system.waiting) : Keeps system after := by
  refine ⟨fun task member driver => ?_, fun task member driver offset within => ?_⟩
  all_goals
    have inMiddle : task ∈ middle.waiting := same ▸ member
    have args := first.args task member driver
  · exact (second.args task inMiddle driver).trans args
  · have bytes := second.bytes task inMiddle driver offset
    rw [args] at bytes
    exact (bytes within).trans (first.bytes task member driver offset within)

/-- No message moves where the queue stays and the waiting messages do. -/
theorem Moves.of_keeps {act : BoardAct} (sound : Sound config packetSize next)
    (keeps : Keeps system next.hspi) (queue : next.hspi.taskQueue = system.hspi.taskQueue)
    (nothing : begun system act = [])
    (adds : ∀ function, IsHspiFunction function → Adds config system act function []) :
    Moves config packetSize system act next := by
  refine ⟨sound, keeps, fun function driver => ⟨[], adds function driver, ?_⟩⟩
  rw [nothing, List.append_nil]
  dsimp only [HspiSystem.queued]
  rw [queue]
  exact keeps.messages driver fun task member => mem_waiting_of_queued member

/-- A step of the driver that leaves tasks, arguments and memory alone. -/
theorem Sound.moves_quiet (sound : Sound config packetSize system) {act : HspiAct}
    (owns : CallerOwns system act) (nothing : ∀ rxToggle, ¬ Receives rxToggle act)
    (stepped : step config system act = some next) (args : next.hspi.args = system.hspi.args)
    (memory : next.hspi.memory = system.hspi.memory)
    (queue : next.hspi.taskQueue = system.hspi.taskQueue)
    (running : next.running.Sublist system.running) (noTask : begun system (.driver act) = [])
    (adds : ∀ function, IsHspiFunction function → Adds config system (.driver act) function []) :
    Moves config packetSize system (.driver act) next := by
  have keeps : Keeps system next.hspi := .of_same args memory
  refine .of_keeps ?_ keeps queue noTask adds
  refine sound.step_of_keeps owns (fun rxToggle receives => absurd receives (nothing rxToggle))
    stepped keeps fun task member _ => .inl ?_
  dsimp only [waiting] at member
  rw [queue] at member
  rcases List.mem_append.mp member with run | queued
  · exact List.mem_append_left _ ((running.filter _).subset run)
  · exact mem_waiting_of_queued queued

/-! ## Submitted messages -/

/-- A new argument block with a buffer of its own leaves the waiting messages alone. -/
theorem Keeps.setTask {lostArgs lostRefs : List Nat} (held : Held config system lostArgs lostRefs)
    {base : HspiScheduled} {ptr : Nat} (fresh : ptr ∉ hspiArgs system.pending)
    (base_keeps : Keeps system base) (function : TaskFunction) (contents : HspiArgs) :
    Keeps system (hspiSetTask base function ptr contents) := by
  refine ⟨fun task member driver => ?_, base_keeps.bytes⟩
  have away : task.args ≠ ptr := by
    rintro rfl
    exact fresh (held.args_mem member driver)
  exact (Function.update_of_ne away _ _).trans (base_keeps.args task member driver)

theorem queued_setTask {base : HspiScheduled} {ptr : Nat} {contents : HspiArgs}
    {added : TaskFunction} (keeps : Keeps system (hspiSetTask base added ptr contents))
    (queue : base.taskQueue = system.hspi.taskQueue) {function : TaskFunction}
    (driver : IsHspiFunction function) :
    messages function (hspiSetTask base added ptr contents)
        (hspiSetTask base added ptr contents).taskQueue.tasks =
      system.queued function ++
        if system.hspi.taskQueue.tasks.length < system.hspi.taskQueue.capacity ∧
            added = function then
          [messageOf (hspiSetTask base added ptr contents) ⟨added, ptr, some .hspiCleanup⟩]
        else [] := by
  have old : messages function (hspiSetTask base added ptr contents)
      system.hspi.taskQueue.tasks = system.queued function :=
    keeps.messages driver fun task member => mem_waiting_of_queued member
  have queueNext : (hspiSetTask base added ptr contents).taskQueue =
      (system.hspi.taskQueue.setNextTask ⟨added, ptr, some .hspiCleanup⟩).2 := by
    rw [hspiSetTask, queue]
  rw [queueNext]
  by_cases room : system.hspi.taskQueue.tasks.length < system.hspi.taskQueue.capacity
  · rw [(TaskQueue.setNextTask_room room _).2, messages_append, old]
    by_cases same : added = function
    · rw [if_pos ⟨room, same⟩, messages_of_eq _ same]
    · rw [if_neg fun both => same both.2, messages_of_ne _ same]
  · rw [TaskQueue.setNextTask_full room, if_neg fun both => room both.1, List.append_nil]
    exact old

/-- The tasks that wait after a submission. -/
theorem waiting_setTask {base : HspiScheduled} {ptr : Nat} {contents : HspiArgs}
    {added : TaskFunction} (queue : base.taskQueue = system.hspi.taskQueue) {task : Task}
    (member : task ∈ (system.running.filter fun task => task.task = .hspiSend) ++
      (hspiSetTask base added ptr contents).taskQueue.tasks) :
    task ∈ system.waiting ∨ task = ⟨added, ptr, some .hspiCleanup⟩ := by
  rw [hspiSetTask, queue] at member
  rcases List.mem_append.mp member with running | queued
  · exact .inl (List.mem_append_left _ running)
  by_cases room : system.hspi.taskQueue.tasks.length < system.hspi.taskQueue.capacity
  · rw [(TaskQueue.setNextTask_room room _).2] at queued
    rcases List.mem_append.mp queued with old | new
    · exact .inl (mem_waiting_of_queued old)
    · exact .inr (List.mem_singleton.mp new)
  · rw [TaskQueue.setNextTask_full room] at queued
    exact .inl (mem_waiting_of_queued queued)

/-! ## Sends -/

/-- A submitted send with a buffer that holds its bytes. -/
theorem moves_accepted {lostArgs lostRefs : List Nat} (sound : Sound config packetSize system)
    (held : Held config system lostArgs lostRefs) {buffer size customRegister : Nat}
    (owns : CallerOwns system (.send buffer size customRegister))
    {base : HspiScheduled} {ptr newBuffer : Nat}
    (sent : hspiSend config system.hspi buffer size customRegister = some (true, ptr,
      hspiSetTask base .hspiSend ptr ⟨newBuffer, u16 size, u16 customRegister⟩))
    (fresh : ptr ∉ hspiArgs system.pending) (queue : base.taskQueue = system.hspi.taskQueue)
    (keeps : Keeps system base) (size_le : size ≤ packetSize)
    (fits : base.ramxPool.Fits config.ramx newBuffer (u16 size))
    (copied : bytesAt base.memory newBuffer (u16 size) =
      bytesAt system.hspi.memory buffer (u16 size)) :
    ∃ next, step config system (.send buffer size customRegister) = some next ∧
      Moves config packetSize system (.driver (.send buffer size customRegister)) next := by
  have keepsNext := Keeps.setTask held fresh keeps .hspiSend
    ⟨newBuffer, u16 size, u16 customRegister⟩
  have written : (hspiSetTask base .hspiSend ptr
      ⟨newBuffer, u16 size, u16 customRegister⟩).args ptr =
        ⟨newBuffer, u16 size, u16 customRegister⟩ := Function.update_self ..
  refine ⟨_, by rw [step, sent]; rfl, ?_, keepsNext, fun function driver => ?_⟩
  · refine sound.step_of_keeps owns (fun _ => False.elim) (by rw [step, sent]; rfl) keepsNext
      fun task member _ => ?_
    refine (waiting_setTask queue member).imp_right ?_
    rintro rfl
    refine ⟨?_, fun _ => ?_, fun _ => ?_⟩
    all_goals
      dsimp only
      rw [written]
    · exact fits
    · exact (u16_le size).trans size_le
    · exact Nat.mod_lt _ (by decide)
  · have message : messageOf (hspiSetTask base .hspiSend ptr
        ⟨newBuffer, u16 size, u16 customRegister⟩) ⟨.hspiSend, ptr, some .hspiCleanup⟩ =
          ⟨bytesAt system.hspi.memory buffer (u16 size), u16 customRegister % 8192⟩ := by
      dsimp only [messageOf]
      rw [written, if_pos rfl]
      exact congrArg (Message.mk · _) copied
    have queuedNext := queued_setTask keepsNext queue driver
    rw [message] at queuedNext
    refine ⟨_, ?_, queuedNext⟩
    rcases driver with rfl | rfl
    · simp only [Adds, sentMessage, sent, and_true]
    · exact if_neg fun both => by cases both.2

/-- A send adds its message to the queue if it is accepted and there is room. -/
theorem Sound.moves_send (sound : Sound config packetSize system)
    {buffer size customRegister : Nat}
    (owed : Owed config packetSize system (.driver (.send buffer size customRegister))) :
    ∃ next, step config system (.send buffer size customRegister) = some next ∧
      Moves config packetSize system (.driver (.send buffer size customRegister)) next := by
  obtain ⟨owns, size_le, fits⟩ := owed
  obtain ⟨lostArgs, lostRefs, held⟩ := sound.exclusive.held
  have admissible := owns.admissible held
  have refused {ptr : Nat} {after : HspiScheduled}
      (sent : hspiSend config system.hspi buffer size customRegister = some (false, ptr, after))
      (args : after.args = system.hspi.args) (memory : after.memory = system.hspi.memory)
      (queue : after.taskQueue = system.hspi.taskQueue) :
      ∃ next, step config system (.send buffer size customRegister) = some next ∧
        Moves config packetSize system (.driver (.send buffer size customRegister)) next := by
    have stepped : step config system (.send buffer size customRegister) =
        some { system with hspi := after } := by
      rw [step, sent]
      rfl
    refine ⟨_, stepped, sound.moves_quiet owns (fun _ => id) stepped args memory queue (.refl _) rfl
      fun function driver => ?_⟩
    rcases driver with rfl | rfl
    · simp only [Adds, sentMessage, sent, ite_self]
    · rfl
  obtain ⟨ptr, argPool, got, ⟨rfl, rfl, _⟩ | ⟨nonNull, _, _, ownedArgs⟩⟩ := held.args.get
  · exact refused (hspiSend_noArgs _ _ _ got) rfl rfl rfl
  have fresh : ptr ∉ hspiArgs system.pending := fun member =>
    (List.nodup_cons.mp ownedArgs.distinct).1 (List.mem_append_left _ member)
  by_cases inPool : ramxAddressInPool system.hspi.ramxPool buffer = true
  · obtain ⟨member, shareable⟩ := admissible inPool
    obtain ⟨ramxPool, taken, _⟩ :=
      held.refs.takeOwnership (List.mem_append_left lostRefs member) shareable
    refine moves_accepted sound held owns (hspiSend_shared _ _ _ got nonNull inPool taken) fresh rfl
      (.of_same rfl rfl) size_le ?_ rfl
    obtain ⟨first, length, extent, enough⟩ := fits inPool
    refine ⟨first, length, ⟨extent.address, extent.nonempty, extent.inside, ?_⟩, enough⟩
    rw [ramxTakeOwnership_blocks taken]
    exact extent.marked
  obtain ⟨newBuffer, ramxPool, allocated, owned, unowned, _⟩ :=
    held.refs.allocBytes system.hspi.hspiPacketSize
  by_cases null : newBuffer = 0
  · subst null
    exact refused (hspiSend_noBuffer _ _ _ got nonNull inPool allocated) rfl rfl rfl
  · obtain ⟨marks, extent⟩ := held.refs.allocBytes_marks allocated
    obtain ⟨first, extent⟩ := extent null
    rw [sound.ready.packetSize_eq] at extent
    have enough : u16 size ≤ config.ramx.blockSize * blocksNeeded config.ramx packetSize :=
      ((u16_le size).trans size_le).trans sound.covers
    refine moves_accepted sound held owns (hspiSend_copied _ _ _ got nonNull inPool allocated null)
      fresh rfl ⟨fun _ _ _ => rfl, fun task member driver offset within => ?_⟩ size_le
      ⟨first, _, extent, enough⟩ (bytesAt_memcpyBytes buffer)
    -- the blocks of the copy are new
    have listed {other : Nat} (member : other ∈ hspiBuffers system.hspi system.pending) :
        other ∈ system.driverRefs ++ system.userRefs ++ lostRefs :=
      List.mem_append_left _ (List.mem_append_left _ (List.mem_append_right _ member))
    refine memcpyBytes_outside ?_
    exact @Sound.bytes_apart config packetSize system
      { system with hspi := { system.hspi with ramxPool := ramxPool } } sound marks _ newBuffer
      (u16 size) owned (List.mem_cons_self ..)
      (fun other member => List.mem_cons_of_mem _ (listed member))
      (fun member => unowned null (listed member)) ⟨first, _, extent, enough⟩ task member driver
      offset within

/-! ## Packets -/

/-- Nobody waits with a message in a receive buffer. -/
theorem Sound.keeps_receiveBytes (sound : Sound config packetSize system) {bytes : List U8}
    (small : bytes.length ≤ packetSize) (rxToggle : Bool) :
    Keeps system (system.receiveBytes bytes rxToggle).hspi := by
  obtain ⟨lostArgs, lostRefs, held⟩ := sound.exclusive.held
  obtain ⟨first, extent⟩ := sound.ready.extent rxToggle
  refine ⟨fun _ _ _ => rfl, fun task member driver offset within => storeBytes_outside ?_⟩
  rw [sound.ready.address]
  exact sound.bytes_apart (.of_blocks rfl) held.refs (mem_refs system lostRefs rxToggle)
    (fun buffer member =>
      List.mem_append_left _ (List.mem_append_left _ (List.mem_append_right _ member)))
    (sound.exclusive.alone held (sound.ready.nonNull rxToggle)).1
    ⟨first, _, extent, small.trans sound.covers⟩ member driver within

/-- A packet lies in its receive buffer, and nothing else has changed. -/
structure Arrived (config : HspiConfig) (packetSize : Nat) (system middle : HspiSystem)
    (bytes : List U8) (interrupt : HspiInterrupt) : Prop where
  sound : Sound config packetSize middle
  keeps : Keeps system middle.hspi
  waiting : middle.waiting = system.waiting
  queue : middle.hspi.taskQueue = system.hspi.taskQueue
  memory : middle.hspi.memory =
    storeBytes system.hspi.memory (rxBuffer middle.hspi interrupt.rxToggle) bytes
  small : bytes.length ≤ packetSize
  named : (rxContents 0 interrupt).size ≤ bytes.length
  finds : FindsBuffer config middle (.interrupt interrupt)
  handsOn_iff : HandsOn system interrupt.rxToggle (.interrupt interrupt) ↔
    interrupt.Good ∧ middle.hspi.hspiArgPool.HasFree ∧
      middle.hspi.taskQueue.tasks.length < middle.hspi.taskQueue.capacity

theorem Sound.arrived (sound : Sound config packetSize system) {bytes : List U8}
    {interrupt : HspiInterrupt} (owed : Owed config packetSize system (.packet bytes interrupt)) :
    Arrived config packetSize system (system.receiveBytes bytes interrupt.rxToggle) bytes
      interrupt := by
  obtain ⟨small, named, finds⟩ := owed
  refine ⟨sound.setMemory _, sound.keeps_receiveBytes small interrupt.rxToggle, rfl, rfl, ?_, small,
    named, finds, and_congr_left fun _ => ⟨fun receives => ⟨receives.1, receives.2.1⟩,
      fun good => ⟨good.1, good.2, rfl⟩⟩⟩
  rw [receiveBytes, HspiSystem.setMemory, sound.ready.address]
  rfl

section Packets

variable {middle : HspiSystem} {bytes : List U8} {interrupt : HspiInterrupt}
  (arrived : Arrived config packetSize system middle bytes interrupt)
include arrived

/-- A packet that is not handed on leaves the queue as it was. -/
theorem Arrived.moves_nothing (sound : Sound config packetSize next) (keeps : Keeps middle next.hspi)
    (queue : next.hspi.taskQueue = middle.hspi.taskQueue)
    (stays : ¬HandsOn system interrupt.rxToggle (.interrupt interrupt)) :
    Moves config packetSize system (.packet bytes interrupt) next := by
  refine .of_keeps sound (arrived.keeps.trans keeps arrived.waiting) (queue.trans arrived.queue) rfl
    fun function driver => ?_
  rcases driver with rfl | rfl
  · rfl
  · exact .inr ⟨stays, rfl⟩

/-- Without an argument block, only the receive buffer is a new one. -/
theorem Arrived.moves_of_noArgs (good : interrupt.Good) {newBuffer : Nat} {ramxPool : RamxPool}
    (got : hydraPoolGet middle.hspi.hspiArgPool = some (0, middle.hspi.hspiArgPool))
    (none : ¬middle.hspi.hspiArgPool.HasFree)
    (allocated : ramxPoolAllocBytes config.ramx middle.hspi.ramxPool middle.hspi.hspiPacketSize =
      some (newBuffer, ramxPool)) :
    ∃ next, step config middle (.interrupt interrupt) = some next ∧
      Moves config packetSize system (.packet bytes interrupt) next := by
  have owns : CallerOwns middle (.interrupt interrupt) := trivial
  have handled := hspiIrqHandler_receive good.1 good.2 got allocated
  rw [if_pos rfl] at handled
  have stepped : step config middle (.interrupt interrupt) = some { middle with
      hspi := setRxBuffer { middle.hspi with ramxPool := ramxPool } interrupt.rxToggle
        newBuffer } := by
    rw [step, handled]
    rfl
  have keepsNext : Keeps middle (setRxBuffer { middle.hspi with ramxPool := ramxPool }
      interrupt.rxToggle newBuffer) := by
    refine .of_same (by rw [setRxBuffer_args]) ?_
    cases interrupt.rxToggle <;> rfl
  have queue : (setRxBuffer { middle.hspi with ramxPool := ramxPool } interrupt.rxToggle
      newBuffer).taskQueue = middle.hspi.taskQueue := by rw [setRxBuffer_taskQueue]
  refine ⟨_, stepped, arrived.moves_nothing ?_ keepsNext queue
    fun handsOn => none (arrived.handsOn_iff.mp handsOn).2.1⟩
  refine arrived.sound.step_of_keeps owns arrived.finds stepped keepsNext
    fun task member _ => .inl ?_
  dsimp only [HspiSystem.waiting] at member
  rwa [queue] at member

/-- With an argument block, the packet is submitted as a task. -/
theorem Arrived.moves_of_args (good : interrupt.Good) {lostArgs lostRefs : List Nat}
    (held : Held config middle lostArgs lostRefs) {ptr newBuffer : Nat} {args : HydraPool}
    {ramxPool : RamxPool} (got : hydraPoolGet middle.hspi.hspiArgPool = some (ptr, args))
    (nonNull : ptr ≠ 0) (free : middle.hspi.hspiArgPool.HasFree)
    (fresh : ptr ∉ hspiArgs middle.pending)
    (allocated : ramxPoolAllocBytes config.ramx middle.hspi.ramxPool middle.hspi.hspiPacketSize =
      some (newBuffer, ramxPool))
    (owned : ramxPool.OwnedBy config.ramx
      (newBuffer :: (middle.driverRefs ++ middle.userRefs ++ lostRefs))) :
    ∃ next, step config middle (.interrupt interrupt) = some next ∧
      Moves config packetSize system (.packet bytes interrupt) next := by
  have owns : CallerOwns middle (.interrupt interrupt) := trivial
  have marks := (held.refs.allocBytes_marks allocated).1
  have handled := hspiIrqHandler_receive good.1 good.2 got allocated
  rw [if_neg nonNull] at handled
  generalize base_eq : setRxBuffer { middle.hspi with hspiArgPool := args, ramxPool := ramxPool }
    interrupt.rxToggle newBuffer = base at handled
  generalize contents_eq : rxContents (rxBuffer middle.hspi interrupt.rxToggle) interrupt =
    contents at handled
  have stepped : step config middle (.interrupt interrupt) = some { middle with
      hspi := hspiSetTask base .hspiRxCallback ptr contents } := by
    rw [step, handled]
    rfl
  have memory : base.memory = middle.hspi.memory := by
    rw [← base_eq]
    cases interrupt.rxToggle <;> rfl
  have baseQueue : base.taskQueue = middle.hspi.taskQueue := by
    rw [← base_eq, setRxBuffer_taskQueue]
  have baseArgs : base.args = middle.hspi.args := by rw [← base_eq, setRxBuffer_args]
  have keepsNext := Keeps.setTask held fresh (.of_same baseArgs memory) .hspiRxCallback contents
  have written : (hspiSetTask base .hspiRxCallback ptr contents).args ptr = contents :=
    Function.update_self ..
  have size : contents.size = (rxContents 0 interrupt).size := by rw [← contents_eq]; rfl
  have buffer : contents.buffer = rxBuffer middle.hspi interrupt.rxToggle := by
    rw [← contents_eq, rxContents_buffer]
  refine ⟨_, stepped, ?_, arrived.keeps.trans keepsNext arrived.waiting, fun function driver => ?_⟩
  · refine arrived.sound.step_of_keeps owns arrived.finds stepped keepsNext
      fun task member _ => ?_
    refine (waiting_setTask baseQueue member).imp_right ?_
    rintro rfl
    refine ⟨?_, TaskFunction.noConfusion, TaskFunction.noConfusion⟩
    dsimp only
    rw [written, buffer, size]
    obtain ⟨first, extent⟩ := arrived.sound.ready.extent interrupt.rxToggle
    have pool : (hspiSetTask base .hspiRxCallback ptr contents).ramxPool = ramxPool := by
      rw [hspiSetTask, ← base_eq, setRxBuffer_ramxPool]
    rw [pool]
    exact ⟨first, _, extent.kept marks owned (List.mem_cons_of_mem _
      (mem_refs middle lostRefs interrupt.rxToggle)),
      (arrived.named.trans arrived.small).trans arrived.sound.covers⟩
  · have message : messageOf (hspiSetTask base .hspiRxCallback ptr contents)
        ⟨.hspiRxCallback, ptr, some .hspiCleanup⟩ = receivedMessage bytes interrupt := by
      dsimp only [messageOf, receivedMessage]
      have notSend : TaskFunction.hspiRxCallback ≠ .hspiSend := TaskFunction.noConfusion
      have stored : (hspiSetTask base .hspiRxCallback ptr contents).memory =
          storeBytes system.hspi.memory (rxBuffer middle.hspi interrupt.rxToggle) bytes :=
        memory.trans arrived.memory
      rw [written, if_neg notSend, buffer, size, stored, bytesAt_storeBytes arrived.named,
        ← contents_eq]
      rfl
    have queuedNext := queued_setTask keepsNext baseQueue driver
    have old : middle.queued function = system.queued function := by
      dsimp only [HspiSystem.queued]
      rw [arrived.queue]
      exact arrived.keeps.messages driver fun task member => mem_waiting_of_queued member
    rw [message, old] at queuedNext
    refine ⟨_, ?_, queuedNext⟩
    rcases driver with rfl | rfl
    · exact if_neg fun both => by cases both.2
    · by_cases room : middle.hspi.taskQueue.tasks.length < middle.hspi.taskQueue.capacity
      · exact .inl ⟨arrived.handsOn_iff.mpr ⟨good, free, room⟩, if_pos ⟨room, rfl⟩⟩
      · exact .inr ⟨fun handsOn => room (arrived.handsOn_iff.mp handsOn).2.2,
          if_neg fun both => room both.1⟩

end Packets

/-- A packet adds its message to the queue if it is handed on. -/
theorem Sound.moves_packet (sound : Sound config packetSize system) {bytes : List U8}
    {interrupt : HspiInterrupt} (owed : Owed config packetSize system (.packet bytes interrupt)) :
    ∃ next, boardStep config system (.packet bytes interrupt) = some next ∧
      Moves config packetSize system (.packet bytes interrupt) next := by
  have arrived := sound.arrived owed
  rw [boardStep]
  generalize system.receiveBytes bytes interrupt.rxToggle = middle at arrived ⊢
  by_cases good : interrupt.Good
  · obtain ⟨lostArgs, lostRefs, held⟩ := arrived.sound.exclusive.held
    obtain ⟨newBuffer, ramxPool, allocated, owned, _⟩ :=
      held.refs.allocBytes middle.hspi.hspiPacketSize
    obtain ⟨ptr, args, got, ⟨rfl, rfl, none⟩ | ⟨nonNull, free, _, ownedArgs⟩⟩ := held.args.get
    · exact arrived.moves_of_noArgs good got none allocated
    · have fresh : ptr ∉ hspiArgs middle.pending := fun member =>
        (List.nodup_cons.mp ownedArgs.distinct).1 (List.mem_append_left _ member)
      exact arrived.moves_of_args good held got nonNull free fresh allocated owned
  · have stepped : step config middle (.interrupt interrupt) = some middle := by
      rw [step, hspiIrqHandler_other good]
      rfl
    exact ⟨middle, stepped, arrived.moves_nothing arrived.sound (.of_same rfl rfl) rfl
      fun handsOn => good (arrived.handsOn_iff.mp handsOn).1⟩

/-! ## The other steps -/

/-- The message of the task that begins was at the front of the queue. -/
theorem Sound.moves_beginTask (sound : Sound config packetSize system) (txToggle : Bool) :
    ∃ next, step config system (.beginTask txToggle) = some next ∧
      Moves config packetSize system (.driver (.beginTask txToggle)) next := by
  have owns : CallerOwns system (.beginTask txToggle) := trivial
  cases tasks : system.hspi.taskQueue.tasks with
  | nil =>
      have stepped : step config system (.beginTask txToggle) = some system := by
        simp only [step, TaskQueue.peekNextTask, tasks, List.head?_nil]
      refine ⟨system, stepped, sound.moves_quiet owns (fun _ => id) stepped rfl rfl rfl (.refl _) ?_
        fun function driver => ?_⟩
      · simp only [begun, TaskQueue.peekNextTask, tasks, List.head?_nil, Option.toList_none]
      · rcases driver with rfl | rfl <;> rfl
  | cons task rest =>
      obtain ⟨txAddr0, txAddr1, udf0, udf1, ran⟩ := runTask_eq
        { system.hspi with taskQueue := system.hspi.taskQueue.dropNextTask } txToggle task
      have stepped := show step config system (.beginTask txToggle) = some _ by
        simp only [step, TaskQueue.peekNextTask, tasks, List.head?_cons, ran]
        rfl
      have rest_eq : system.hspi.taskQueue.dropNextTask.tasks = rest := by
        simp only [TaskQueue.dropNextTask, tasks, List.tail_cons]
      refine ⟨_, stepped, ?_, .of_same rfl rfl, fun function driver => ⟨[], ?_, ?_⟩⟩
      · refine sound.step_of_keeps owns (fun _ => False.elim) stepped (.of_same rfl rfl)
          fun other member _ => .inl ?_
        dsimp only [waiting] at member
        rw [rest_eq] at member
        rcases List.mem_append.mp member with run | queued
        · obtain ⟨inRunning, isSend⟩ := List.mem_filter.mp run
          rcases List.mem_cons.mp inRunning with rfl | old
          · exact mem_waiting_of_queued (tasks ▸ List.mem_cons_self ..)
          · exact List.mem_append_left _ (List.mem_filter.mpr ⟨old, isSend⟩)
        · exact mem_waiting_of_queued (tasks ▸ List.mem_cons_of_mem _ queued)
      · rcases driver with rfl | rfl <;> rfl
      · simp only [begun, TaskQueue.peekNextTask, HspiSystem.queued, tasks, rest_eq,
          List.head?_cons, Option.toList_some, List.append_nil]
        exact (messages_append function system.hspi [task] rest).symm

theorem cleanupTask_memory {hspi after : HspiScheduled} {task : Task}
    (cleaned : cleanupTask hspi task = some after) : after.memory = hspi.memory := by
  unfold cleanupTask at cleaned
  split at cleaned
  · obtain ⟨_, _, rest⟩ := Option.bind_eq_some_iff.mp cleaned
    obtain ⟨_, _, same⟩ := Option.bind_eq_some_iff.mp rest
    obtain rfl := Option.some.inj same
    rfl
  · obtain rfl := Option.some.inj cleaned
    rfl
  · obtain rfl := Option.some.inj cleaned
    rfl

theorem Sound.moves_endTask (sound : Sound config packetSize system) :
    ∃ next, step config system .endTask = some next ∧
      Moves config packetSize system (.driver .endTask) next := by
  have owns : CallerOwns system .endTask := trivial
  obtain ⟨next, stepped, _⟩ := sound.exclusive.step owns
  refine ⟨next, stepped, ?_⟩
  have adds (function : TaskFunction) (driver : IsHspiFunction function) :
      Adds config system (.driver .endTask) function [] := by
    rcases driver with rfl | rfl <;> rfl
  cases running : system.running with
  | nil =>
      have same := stepped
      rw [step, running] at same
      obtain rfl := Option.some.inj same
      exact sound.moves_quiet owns (fun _ => id) stepped rfl rfl rfl (.refl _) rfl adds
  | cons task rest =>
      have same := stepped
      rw [step, running] at same
      obtain ⟨after, cleaned, same⟩ := Option.bind_eq_some_iff.mp same
      obtain rfl := Option.some.inj same
      obtain ⟨args, queue⟩ := cleanupTask_frame cleaned
      exact sound.moves_quiet owns (fun _ => id) stepped args (cleanupTask_memory cleaned) queue
        (running ▸ List.sublist_cons_self task rest) rfl adds

/-- A task of another user has no message. -/
theorem Sound.moves_submit (sound : Sound config packetSize system) {task : Task}
    (owns : CallerOwns system (.submit task)) :
    ∃ next, step config system (.submit task) = some next ∧
      Moves config packetSize system (.driver (.submit task)) next := by
  have isUser : ∃ address, task.task = .user address := by
    obtain ⟨address, isUser, _⟩ := owns
    exact ⟨address, isUser⟩
  obtain ⟨address, isUser⟩ := isUser
  have noMessage (function : TaskFunction) (driver : IsHspiFunction function) :
      messages function system.hspi [task] = [] := by
    refine messages_of_ne _ ?_
    rw [isUser]
    rcases driver with rfl | rfl
    · exact TaskFunction.noConfusion
    · exact TaskFunction.noConfusion
  have keeps : Keeps system
      { system.hspi with taskQueue := (system.hspi.taskQueue.setNextTask task).2 } :=
    .of_same rfl rfl
  refine ⟨_, rfl, ?_, keeps, fun function driver => ⟨[], ?_, ?_⟩⟩
  · refine sound.step_of_keeps owns (fun _ => False.elim) rfl keeps fun other member driver => ?_
    rcases List.mem_append.mp member with run | queued
    · exact .inl (List.mem_append_left _ run)
    by_cases room : system.hspi.taskQueue.tasks.length < system.hspi.taskQueue.capacity
    · rw [(TaskQueue.setNextTask_room room task).2] at queued
      rcases List.mem_append.mp queued with old | new
      · exact .inl (mem_waiting_of_queued old)
      · obtain rfl := List.mem_singleton.mp new
        unfold IsHspiTask at driver
        rw [isUser] at driver
        rcases driver with send | callback
        · cases send
        · cases callback
    · rw [TaskQueue.setNextTask_full room] at queued
      exact .inl (mem_waiting_of_queued queued)
  · rcases driver with rfl | rfl <;> rfl
  · dsimp only [begun, HspiSystem.queued]
    rw [List.append_nil]
    by_cases room : system.hspi.taskQueue.tasks.length < system.hspi.taskQueue.capacity
    · rw [(TaskQueue.setNextTask_room room task).2, messages_append]
      change [] ++ (messages function system.hspi _ ++ messages function system.hspi [task]) = _
      rw [noMessage function driver, List.append_nil]
      rfl
    · rw [TaskQueue.setNextTask_full room]
      rfl

/-- The pool is not where the messages are accounted for. -/
theorem Sound.moves_pool (sound : Sound config packetSize system) {act : HspiAct}
    (owns : CallerOwns system act)
    (pool : (∃ numBlocks, act = .userAlloc numBlocks) ∨ (∃ ptr, act = .userTake ptr) ∨
      ∃ ptr, act = .userFree ptr) :
    ∃ next, step config system act = some next ∧
      Moves config packetSize system (.driver act) next := by
  obtain ⟨next, stepped, _⟩ := sound.exclusive.step owns
  refine ⟨next, stepped, ?_⟩
  have same := stepped
  obtain ⟨numBlocks, rfl⟩ | ⟨ptr, rfl⟩ | ⟨ptr, rfl⟩ := pool
  all_goals
    obtain ⟨_, _, same⟩ := Option.bind_eq_some_iff.mp same
    obtain rfl := Option.some.inj same
    refine sound.moves_quiet owns (fun _ => id) stepped rfl rfl rfl (.refl _) rfl
      fun function driver => ?_
    rcases driver with rfl | rfl <;> rfl

/-- What every step of a board does to its messages. -/
theorem Sound.moves (sound : Sound config packetSize system) {act : BoardAct}
    (owed : Owed config packetSize system act) :
    ∃ next, boardStep config system act = some next ∧
      Moves config packetSize system act next := by
  cases act with
  | packet bytes interrupt => exact sound.moves_packet owed
  | store address bytes =>
      refine ⟨_, rfl, .of_keeps (sound.setMemory _) ?_ rfl rfl fun function driver => ?_⟩
      · exact ⟨fun _ _ _ => rfl, fun task member driver offset within =>
          storeBytes_outside (owed task member driver offset within)⟩
      · rcases driver with rfl | rfl <;> rfl
  | driver act =>
      cases act with
      | send buffer size customRegister => exact sound.moves_send owed
      | interrupt interrupt =>
          have stepped : step config system (.interrupt interrupt) = some system := by
            rw [step, hspiIrqHandler_other owed]
            rfl
          refine ⟨system, stepped, sound.moves_quiet trivial
            (fun _ receives => owed ⟨receives.1, receives.2.1⟩) stepped rfl rfl rfl (.refl _) rfl
            fun function driver => ?_⟩
          rcases driver with rfl | rfl <;> rfl
      | beginTask txToggle => exact sound.moves_beginTask txToggle
      | endTask => exact sound.moves_endTask
      | freeAll => exact owed.2.elim
      | submit task => exact sound.moves_submit owed.1
      | userAlloc numBlocks => exact sound.moves_pool owed.1 (.inl ⟨numBlocks, rfl⟩)
      | userTake ptr => exact sound.moves_pool owed.1 (.inr (.inl ⟨ptr, rfl⟩))
      | userFree ptr => exact sound.moves_pool owed.1 (.inr (.inr ⟨ptr, rfl⟩))

end Steps

end HspiSystem

end WchCh56x.Hspi
