import WchCh56x.Hspi.PacketHeaders
import WchCh56x.Hspi.ReceiverArmed
import WchCh56x.Hspi.SendBounds
import WchCh56x.Support.ByteMemory

/-!
# The messages in the queue of a board

A message is the bytes that a task of the driver is about and the part of the
custom value that the packet carries.  The bytes of a queued task stay what they
are: nothing writes into blocks that somebody else owns.
-/

namespace WchCh56x.Memory

open Support

/-- The runs of allocations that lie apart share no address. -/
theorem PoolConfig.not_mem_run_of_apart (config : PoolConfig) {first second : Interval}
    (apart : first.Apart second) {address : Nat}
    (inside : address ∈ config.run first.start first.length) :
    address ∉ config.run second.start second.length := by
  have ordered {before behind : Nat} (le : before ≤ behind) :
      config.addressOf before ≤ config.addressOf behind :=
    Nat.add_le_add_left (Nat.mul_le_mul_left _ le) _
  obtain ⟨low, high⟩ := inside
  rintro ⟨otherLow, otherHigh⟩
  rcases apart with below | above
  · have separate := ordered below
    unfold Interval.finish at separate
    omega
  · have separate := ordered above
    unfold Interval.finish at separate
    omega

/-- The blocks of two pointers that are owned share no address. -/
theorem RamxPool.OwnedBy.apart {config : PoolConfig} {pool : RamxPool} {refs : List Nat}
    (owned : pool.OwnedBy config refs) {ptr other : Nat} (member : ptr ∈ refs)
    (otherMember : other ∈ refs) (different : ptr ≠ other)
    {first length otherFirst otherLength : Nat} (extent : pool.Extent config ptr first length)
    (otherExtent : pool.Extent config other otherFirst otherLength) {address : Nat}
    (inside : address ∈ config.run first length) :
    address ∉ config.run otherFirst otherLength := by
  obtain ⟨ledger, accounts, live, _⟩ := owned
  -- the interval of a pointer is where its marks are
  have found {ptr first length : Nat} (member : ptr ∈ refs)
      (extent : pool.Extent config ptr first length) :
      ∃ interval ∈ ledger, interval.start = first ∧ interval.length = length := by
    obtain ⟨interval, intervalMember, same⟩ :=
      live ptr member (extent.address ▸ config.addressOf_ne_zero first)
    have start := config.addressOf_injective (same.symm.trans extent.address)
    have marked := accounts.live interval intervalMember _
      (accounts.valid.covers_start intervalMember)
    have marked' := extent.marked 0 extent.nonempty
    rw [Nat.add_zero, ← start, marked] at marked'
    exact ⟨interval, intervalMember, start, Option.some.inj marked'⟩
  obtain ⟨interval, intervalMember, rfl, rfl⟩ := found member extent
  obtain ⟨otherInterval, otherIntervalMember, rfl, rfl⟩ := found otherMember otherExtent
  refine config.not_mem_run_of_apart (accounts.valid.apart.forall intervalMember
    otherIntervalMember ?_) inside
  rintro rfl
  exact different (extent.address.trans otherExtent.address.symm)

/-- The region at `ptr` lies in the blocks of the allocation there. -/
def RamxPool.Fits (config : PoolConfig) (pool : RamxPool) (ptr size : Nat) : Prop :=
  ∃ first length, pool.Extent config ptr first length ∧ size ≤ config.blockSize * length

theorem RamxPool.Extent.mem_run {config : PoolConfig} {pool : RamxPool} {ptr first length : Nat}
    (extent : pool.Extent config ptr first length) {offset : Nat}
    (within : offset < config.blockSize * length) : ptr + offset ∈ config.run first length := by
  rw [PoolConfig.run, config.addressOf_add, extent.address]
  exact ⟨Nat.le_add_right _ _, Nat.add_lt_add_left within _⟩

/-- Regions in the blocks of two pointers that are owned share no address. -/
theorem RamxPool.OwnedBy.regions_apart {config : PoolConfig} {pool : RamxPool} {refs : List Nat}
    (owned : pool.OwnedBy config refs) {ptr other size otherSize : Nat} (member : ptr ∈ refs)
    (otherMember : other ∈ refs) (different : ptr ≠ other) (fits : pool.Fits config ptr size)
    (otherFits : pool.Fits config other otherSize) {offset : Nat} (within : offset < size) :
    ptr + offset < other ∨ other + otherSize ≤ ptr + offset := by
  obtain ⟨first, length, extent, enough⟩ := fits
  obtain ⟨otherFirst, otherLength, otherExtent, otherEnough⟩ := otherFits
  have away := owned.apart member otherMember different extent otherExtent
    (extent.mem_run (Nat.lt_of_lt_of_le within enough))
  by_contra overlap
  have start := otherExtent.address
  refine away ⟨by omega, ?_⟩
  rw [config.addressOf_add]
  omega

end WchCh56x.Memory

namespace WchCh56x.Hspi

open Memory InterruptQueue HspiSystem

/-- The bytes of a packet and the custom value in its header. -/
structure Message where
  bytes : List U8
  customRegister : Nat
  deriving DecidableEq, Repr

/-- The message of a task of the driver; of the custom value of a send, 13 bits go out. -/
def messageOf (hspi : HspiScheduled) (task : Task) : Message :=
  let args := hspi.args task.args
  ⟨bytesAt hspi.memory args.buffer args.size,
    if task.task = .hspiSend then args.customRegister % 8192 else args.customRegister⟩

def messages (function : TaskFunction) (hspi : HspiScheduled) (tasks : List Task) : List Message :=
  (tasks.filter fun task => task.task = function).map (messageOf hspi)

theorem messages_append (function : TaskFunction) (hspi : HspiScheduled)
    (first second : List Task) :
    messages function hspi (first ++ second) =
      messages function hspi first ++ messages function hspi second := by
  simp [messages]

theorem messages_of_ne {function : TaskFunction} (hspi : HspiScheduled) {task : Task}
    (other : task.task ≠ function) : messages function hspi [task] = [] := by
  simp [messages, other]

theorem messages_of_eq {function : TaskFunction} (hspi : HspiScheduled) {task : Task}
    (same : task.task = function) : messages function hspi [task] = [messageOf hspi task] := by
  simp [messages, same]

def IsHspiFunction (function : TaskFunction) : Prop :=
  function = .hspiSend ∨ function = .hspiRxCallback

namespace HspiSystem

def queued (function : TaskFunction) (system : HspiSystem) : List Message :=
  messages function system.hspi system.hspi.taskQueue.tasks

/-- The tasks in the queue, and the sends that are being transmitted. -/
def waiting (system : HspiSystem) : List Task :=
  (system.running.filter fun task => task.task = .hspiSend) ++ system.hspi.taskQueue.tasks

theorem mem_pending_of_waiting {system : HspiSystem} {task : Task}
    (member : task ∈ system.waiting) : task ∈ system.pending := by
  rcases List.mem_append.mp member with running | queued
  · exact List.mem_append_left _ (List.mem_filter.mp running).1
  · exact List.mem_append_right _ queued

/-- The arguments and the bytes of the waiting tasks are what they were. -/
structure Keeps (system : HspiSystem) (after : HspiScheduled) : Prop where
  args : ∀ task ∈ system.waiting, IsHspiTask task →
    after.args task.args = system.hspi.args task.args
  bytes : ∀ task ∈ system.waiting, IsHspiTask task →
    ∀ offset < (system.hspi.args task.args).size,
      after.memory ((system.hspi.args task.args).buffer + offset) =
        system.hspi.memory ((system.hspi.args task.args).buffer + offset)

theorem Keeps.of_same {system : HspiSystem} {after : HspiScheduled}
    (args : after.args = system.hspi.args) (memory : after.memory = system.hspi.memory) :
    Keeps system after :=
  ⟨fun _ _ _ => congrFun args _, fun _ _ _ _ _ => congrFun memory _⟩

theorem Keeps.messageOf {system : HspiSystem} {after : HspiScheduled} (keeps : Keeps system after)
    {task : Task} (member : task ∈ system.waiting) (driver : IsHspiTask task) :
    messageOf after task = messageOf system.hspi task := by
  dsimp only [Hspi.messageOf]
  rw [keeps.args task member driver, bytesAt_congr (keeps.bytes task member driver)]

theorem Keeps.messages {system : HspiSystem} {after : HspiScheduled} (keeps : Keeps system after)
    {function : TaskFunction} (driver : IsHspiFunction function) {tasks : List Task}
    (listed : ∀ task ∈ tasks, task ∈ system.waiting) :
    messages function after tasks = messages function system.hspi tasks := by
  refine List.map_congr_left fun task member => ?_
  obtain ⟨inTasks, runs⟩ := List.mem_filter.mp member
  have same : task.task = function := of_decide_eq_true runs
  refine keeps.messageOf (listed task inTasks) ?_
  unfold IsHspiTask
  rw [same]
  exact driver

def setMemory (system : HspiSystem) (memory : Nat → U8) : HspiSystem :=
  { system with hspi := { system.hspi with memory := memory } }

/-- The message of a waiting task lies in the blocks of its buffer, and a send fits a packet. -/
structure Stored (config : HspiConfig) (packetSize : Nat) (hspi : HspiScheduled) (task : Task) :
    Prop where
  fits : hspi.ramxPool.Fits config.ramx (hspi.args task.args).buffer (hspi.args task.args).size
  size_le : task.task = .hspiSend → (hspi.args task.args).size ≤ packetSize
  custom_lt : task.task = .hspiSend → (hspi.args task.args).customRegister < 65536

/-- The references are accounted for, the receive buffers are there, and what a waiting task is
about lies in its blocks. -/
structure Sound (config : HspiConfig) (packetSize : Nat) (system : HspiSystem) : Prop where
  exclusive : Exclusive config system
  ready : Ready config packetSize system
  covers : packetSize ≤ config.ramx.blockSize * blocksNeeded config.ramx packetSize
  stored : ∀ task ∈ system.waiting, IsHspiTask task → Stored config packetSize system.hspi task

section Sound

variable {config : HspiConfig} {packetSize : Nat} {system next : HspiSystem}

theorem Sound.setMemory (sound : Sound config packetSize system) (memory : Nat → U8) :
    Sound config packetSize (system.setMemory memory) := by
  obtain ⟨lostArgs, lostRefs, held⟩ := sound.exclusive.held
  have heldSame : Held config (system.setMemory memory) lostArgs lostRefs :=
    ⟨held.args, held.refs, held.wellFormed⟩
  exact ⟨⟨⟨_, _, heldSame⟩, sound.exclusive.sole⟩,
    ⟨⟨_, _, heldSame⟩, sound.ready.packetSize_eq, sound.ready.address, sound.ready.extent,
      sound.ready.given⟩,
    sound.covers, fun task member driver =>
      let old := sound.stored task member driver
      ⟨old.fits, old.size_le, old.custom_lt⟩⟩

/-- The buffers of waiting tasks are among the buffers of the tasks. -/
theorem Held.buffer_mem {lostArgs lostRefs : List Nat} (held : Held config system lostArgs lostRefs)
    {task : Task} (member : task ∈ system.waiting) (driver : IsHspiTask task) :
    (system.hspi.args task.args).buffer ∈ hspiBuffers system.hspi system.pending :=
  (mem_hspiBuffers held.wellFormed system.hspi).mpr
    ⟨task, mem_pending_of_waiting member, driver, rfl⟩

theorem Held.ref_mem {lostArgs lostRefs : List Nat} (held : Held config system lostArgs lostRefs)
    {task : Task} (member : task ∈ system.waiting) (driver : IsHspiTask task) :
    (system.hspi.args task.args).buffer ∈ system.driverRefs ++ system.userRefs ++ lostRefs :=
  List.mem_append_left _ (List.mem_append_left _
    (List.mem_append_right _ (held.buffer_mem member driver)))

theorem Held.args_mem {lostArgs lostRefs : List Nat} (held : Held config system lostArgs lostRefs)
    {task : Task} (member : task ∈ system.waiting) (driver : IsHspiTask task) :
    task.args ∈ hspiArgs system.pending := by
  have pending := mem_pending_of_waiting member
  refine List.mem_map.mpr ⟨task, List.mem_filter.mpr ⟨pending, ?_⟩, rfl⟩
  exact decide_eq_true ((held.wellFormed task pending).mpr driver)

/-- Tasks that go on waiting stay inside their blocks. -/
theorem Sound.of_keeps (sound : Sound config packetSize system) (exclusive : Exclusive config next)
    (ready : Ready config packetSize next)
    (marks : system.hspi.ramxPool.KeepsMarks next.hspi.ramxPool) (keeps : Keeps system next.hspi)
    (tasks : ∀ task ∈ next.waiting, IsHspiTask task →
      task ∈ system.waiting ∨ Stored config packetSize next.hspi task) :
    Sound config packetSize next := by
  obtain ⟨lostArgs, lostRefs, held⟩ := exclusive.held
  refine ⟨exclusive, ready, sound.covers, fun task member driver => ?_⟩
  rcases tasks task member driver with old | new
  · have listed := held.ref_mem member driver
    have same := keeps.args task old driver
    obtain ⟨fits, size_le, custom_lt⟩ := sound.stored task old driver
    obtain ⟨first, length, extent, enough⟩ := fits
    rw [same] at listed
    refine ⟨?_, ?_, ?_⟩
    all_goals rw [same]
    · exact ⟨first, length, extent.kept marks held.refs listed, enough⟩
    · exact size_le
    · exact custom_lt
  · exact new

/-- Bytes written into blocks of somebody else leave the waiting messages alone. -/
theorem Sound.bytes_apart (sound : Sound config packetSize system)
    (marks : system.hspi.ramxPool.KeepsMarks next.hspi.ramxPool) {refs : List Nat} {ptr size : Nat}
    (owned : next.hspi.ramxPool.OwnedBy config.ramx refs) (member : ptr ∈ refs)
    (listed : ∀ buffer ∈ hspiBuffers system.hspi system.pending, buffer ∈ refs)
    (other : ptr ∉ hspiBuffers system.hspi system.pending)
    (fits : next.hspi.ramxPool.Fits config.ramx ptr size) {task : Task}
    (waits : task ∈ system.waiting) (driver : IsHspiTask task) {offset : Nat}
    (within : offset < (system.hspi.args task.args).size) :
    (system.hspi.args task.args).buffer + offset < ptr ∨
      ptr + size ≤ (system.hspi.args task.args).buffer + offset := by
  obtain ⟨_, _, held⟩ := sound.exclusive.held
  have buffer := held.buffer_mem waits driver
  obtain ⟨first, length, extent, enough⟩ := (sound.stored task waits driver).fits
  have kept := extent.kept marks owned (listed _ buffer)
  refine owned.regions_apart (listed _ buffer) member ?_ ⟨first, length, kept, enough⟩ fits within
  rintro rfl
  exact other buffer

end Sound

end HspiSystem

end WchCh56x.Hspi
