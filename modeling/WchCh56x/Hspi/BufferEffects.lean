import WchCh56x.Hspi.Leaks

/-!
# What a step does to the buffers

One account of every step for the receive buffers, the buffers of the tasks and
the marks and owners of the allocations.
-/

namespace WchCh56x.Hspi

open Memory InterruptQueue

/-- The address that packets with this toggle are written to. -/
def rxAddr (hspi : HspiScheduled) (rxToggle : Bool) : Nat :=
  if rxToggle then hspi.rxAddr0 else hspi.rxAddr1

namespace HspiSystem

/-- A good packet with this toggle came in. -/
def Receives (rxToggle : Bool) : HspiAct → Prop
  | .interrupt interrupt =>
      interrupt.rDone = true ∧ interrupt.crcOrNumError = false ∧ interrupt.rxToggle = rxToggle
  | _ => False

/-- The packet gets an argument block and a place in the queue. -/
def HandsOn (system : HspiSystem) (rxToggle : Bool) (act : HspiAct) : Prop :=
  Receives rxToggle act ∧ system.hspi.hspiArgPool.HasFree ∧
    system.hspi.taskQueue.tasks.length < system.hspi.taskQueue.capacity

def Shares (system : HspiSystem) (ptr : Nat) : HspiAct → Prop
  | .send buffer _ _ => ramxAddressInPool system.hspi.ramxPool buffer ∧ ptr = buffer
  | .userTake taken => ptr = taken
  | _ => False

/-- The receive buffer for `rxToggle` was allocated anew, or there was no room for it. -/
structure Renewed (config : HspiConfig) (system : HspiSystem) (refs : List Nat)
    (next : HspiSystem) (rxToggle : Bool) : Prop where
  armed : rxAddr next.hspi rxToggle = rxBuffer next.hspi rxToggle
  null_iff : rxBuffer next.hspi rxToggle = 0 ↔
    ¬ system.hspi.ramxPool.HasRun config.ramx
      (blocksNeeded config.ramx system.hspi.hspiPacketSize)
  fresh : rxBuffer next.hspi rxToggle ≠ 0 → rxBuffer next.hspi rxToggle ∉ refs
  extent : rxBuffer next.hspi rxToggle ≠ 0 → ∃ start,
    next.hspi.ramxPool.Extent config.ramx (rxBuffer next.hspi rxToggle) start
      (blocksNeeded config.ramx system.hspi.hspiPacketSize)

/-- At most one owner is new: of nothing, of a new allocation, or of one that a caller names. -/
def OwnersAdded (config : HspiConfig) (system : HspiSystem) (act : HspiAct) (refs : List Nat)
    (next : HspiSystem) : Prop :=
  ∃ added others, next.hspi.ramxPool.OwnedBy config.ramx others ∧
    (∀ rxToggle, rxBuffer next.hspi rxToggle ∈ others) ∧
    (∀ ptr, others.count ptr ≤ (added :: refs).count ptr) ∧
    (added = 0 ∨ added ∉ refs ∨ Shares system added act)

/-- What a step does, where `refs` are the references before it. -/
structure Effect (config : HspiConfig) (system : HspiSystem) (act : HspiAct) (refs : List Nat)
    (next : HspiSystem) : Prop where
  packetSize : next.hspi.hspiPacketSize = system.hspi.hspiPacketSize
  kept : ∀ rxToggle, ¬ Receives rxToggle act →
    rxBuffer next.hspi rxToggle = rxBuffer system.hspi rxToggle ∧
      rxAddr next.hspi rxToggle = rxAddr system.hspi rxToggle
  renewed : ∀ rxToggle, Receives rxToggle act → Renewed config system refs next rxToggle
  marks : system.hspi.ramxPool.KeepsMarks next.hspi.ramxPool
  buffers : ∀ buffer ∈ hspiBuffers next.hspi next.pending,
    buffer ∈ hspiBuffers system.hspi system.pending ∨ buffer ≠ 0 ∨
      ∃ rxToggle, HandsOn system rxToggle act ∧ buffer = rxBuffer system.hspi rxToggle
  handedOn : ∀ rxToggle, HandsOn system rxToggle act →
    rxBuffer system.hspi rxToggle ∈ hspiBuffers next.hspi next.pending
  owners : OwnersAdded config system act refs next

theorem rxBuffer_mem_driverRefs (system : HspiSystem) (rxToggle : Bool) :
    rxBuffer system.hspi rxToggle ∈ system.driverRefs := by
  cases rxToggle <;> simp [rxBuffer, driverRefs]

section Effects

variable {config : HspiConfig} {system next : HspiSystem} {lostArgs lostRefs : List Nat}

/-- A step that receives nothing and leaves the receive buffers alone. -/
theorem Effect.quiet {act : HspiAct} {refs : List Nat}
    (nothing : ∀ rxToggle, ¬ Receives rxToggle act)
    (packetSize : next.hspi.hspiPacketSize = system.hspi.hspiPacketSize)
    (buffers : ∀ rxToggle, rxBuffer next.hspi rxToggle = rxBuffer system.hspi rxToggle)
    (addresses : ∀ rxToggle, rxAddr next.hspi rxToggle = rxAddr system.hspi rxToggle)
    (marks : system.hspi.ramxPool.KeepsMarks next.hspi.ramxPool)
    (taskBuffers : ∀ buffer ∈ hspiBuffers next.hspi next.pending,
      buffer ∈ hspiBuffers system.hspi system.pending ∨ buffer ≠ 0)
    (owners : OwnersAdded config system act refs next) : Effect config system act refs next where
  packetSize := packetSize
  kept := fun rxToggle _ => ⟨buffers rxToggle, addresses rxToggle⟩
  renewed := fun rxToggle receives => absurd receives (nothing rxToggle)
  marks := marks
  buffers := fun buffer member => (taskBuffers buffer member).imp_right .inl
  handedOn := fun rxToggle handsOn => absurd handsOn.1 (nothing rxToggle)
  owners := owners

/-- No owner is new where the references are among those before. -/
theorem OwnersAdded.none {act : HspiAct} {refs others : List Nat}
    (owned : next.hspi.ramxPool.OwnedBy config.ramx others)
    (slots : ∀ rxToggle, rxBuffer next.hspi rxToggle ∈ others)
    (fewer : ∀ ptr, others.count ptr ≤ refs.count ptr) :
    OwnersAdded config system act refs next := by
  refine ⟨0, others, owned, slots, fun ptr => ?_, .inl rfl⟩
  exact (fewer ptr).trans (List.count_le_count_cons ..)

theorem OwnersAdded.cons {act : HspiAct} {refs : List Nat} {added : Nat}
    (owned : next.hspi.ramxPool.OwnedBy config.ramx (added :: refs))
    (slots : ∀ rxToggle, rxBuffer next.hspi rxToggle ∈ added :: refs)
    (source : added = 0 ∨ added ∉ refs ∨ Shares system added act) :
    OwnersAdded config system act refs next :=
  ⟨added, added :: refs, owned, slots, fun _ => Nat.le_refl _, source⟩

theorem mem_refs (system : HspiSystem) (lostRefs : List Nat) (rxToggle : Bool) :
    rxBuffer system.hspi rxToggle ∈ system.driverRefs ++ system.userRefs ++ lostRefs :=
  List.mem_append_left _ (List.mem_append_left _ (rxBuffer_mem_driverRefs system rxToggle))

theorem effect_send (held : Held config system lostArgs lostRefs)
    {buffer size customRegister : Nat}
    (admissible : Admissible system (.send buffer size customRegister))
    (stepped : step config system (.send buffer size customRegister) = some next) :
    Effect config system (.send buffer size customRegister)
      (system.driverRefs ++ system.userRefs ++ lostRefs) next := by
  obtain ⟨ret, ptr, after, sent, outcome⟩ :=
    hspiSend_spec held buffer size customRegister admissible
  rw [step, sent] at stepped
  rcases outcome with ⟨rfl, _, rfl⟩ | ⟨_, base, takes, changes,
      ⟨rfl, rfl, _, owned⟩ | ⟨rfl, _, contents, rfl, owned, nonNull, source⟩⟩
  · obtain rfl := Option.some.inj stepped
    exact .quiet (fun _ => id) rfl (fun _ => rfl) (fun _ => rfl) (.of_blocks rfl)
      (fun _ => .inl) (.none held.refs (mem_refs system lostRefs) fun _ => Nat.le_refl _)
  · obtain rfl := Option.some.inj stepped
    have sameBuffers : hspiBuffers after (pending { system with hspi := after }) =
        hspiBuffers system.hspi system.pending := by
      rw [changes.same]
      rfl
    refine .quiet (fun _ => id) ?_ (fun _ => ?_) (fun _ => ?_) changes.marks
      (fun buffer member => .inl (sameBuffers ▸ member))
      (.none owned (fun rxToggle => ?_) fun _ => Nat.le_refl _)
    · rw [changes.same]
    · rw [changes.same]
      rfl
    · rw [changes.same]
      rfl
    · have slot := mem_refs system lostRefs rxToggle
      rw [changes.same]
      exact slot
  · obtain rfl := Option.some.inj stepped
    have slots (rxToggle : Bool) : rxBuffer (hspiSetTask base .hspiSend ptr contents) rxToggle =
        rxBuffer system.hspi rxToggle := by
      rw [changes.same]
      rfl
    refine .quiet (fun _ => id) ?_ slots (fun _ => ?_) changes.marks ?_
      (.cons owned (fun rxToggle => ?_) (.inr (source.symm)))
    · rw [changes.same]
      rfl
    · rw [changes.same]
      rfl
    · intro taskBuffer member
      rw [pending, hspiBuffers_setTask .hspiSend contents takes.fresh takes.args takes.queue]
        at member
      rcases List.mem_append.mp member with old | new
      · exact .inl old
      · split at new
        · rw [List.mem_singleton.mp new]
          exact .inr nonNull
        · exact absurd new List.not_mem_nil
    · change rxBuffer (hspiSetTask base .hspiSend ptr contents) rxToggle ∈ _
      rw [slots]
      exact List.mem_cons_of_mem _ (mem_refs system lostRefs rxToggle)

theorem rxBuffer_setRxBuffer (hspi : HspiScheduled) (rxToggle other : Bool) (buffer : Nat) :
    rxBuffer (setRxBuffer hspi rxToggle buffer) other =
      if rxToggle = other then buffer else rxBuffer hspi other := by
  cases rxToggle <;> cases other <;> rfl

theorem rxAddr_setRxBuffer (hspi : HspiScheduled) (rxToggle other : Bool) (buffer : Nat) :
    rxAddr (setRxBuffer hspi rxToggle buffer) other =
      if rxToggle = other then buffer else rxAddr hspi other := by
  cases rxToggle <;> cases other <;> rfl

/-- The interrupt for a good packet, in terms of the driver after it. -/
theorem effect_receive (held : Held config system lostArgs lostRefs) {interrupt : HspiInterrupt}
    (received : interrupt.rDone = true) (good : interrupt.crcOrNumError = false)
    {newBuffer : Nat} {ramxPool : RamxPool}
    (allocated : ramxPoolAllocBytes config.ramx system.hspi.ramxPool system.hspi.hspiPacketSize =
      some (newBuffer, ramxPool))
    {after : HspiScheduled} (pool : after.ramxPool = ramxPool)
    (packetSize : after.hspiPacketSize = system.hspi.hspiPacketSize)
    (slots : ∀ rxToggle, rxBuffer after rxToggle =
      if interrupt.rxToggle = rxToggle then newBuffer else rxBuffer system.hspi rxToggle)
    (addresses : ∀ rxToggle, rxAddr after rxToggle =
      if interrupt.rxToggle = rxToggle then newBuffer else rxAddr system.hspi rxToggle)
    {handed : List Nat}
    (buffers : hspiBuffers after (system.running ++ after.taskQueue.tasks) =
      hspiBuffers system.hspi system.pending ++ handed)
    (exactly : HandsOn system interrupt.rxToggle (.interrupt interrupt) ∧
        handed = [rxBuffer system.hspi interrupt.rxToggle] ∨
      ¬ HandsOn system interrupt.rxToggle (.interrupt interrupt) ∧ handed = []) :
    Effect config system (.interrupt interrupt)
      (system.driverRefs ++ system.userRefs ++ lostRefs) { system with hspi := after } := by
  obtain ⟨ret, granted, allocated', owned, unowned, null_iff⟩ :=
    held.refs.allocBytes system.hspi.hspiPacketSize
  obtain ⟨rfl, rfl⟩ := Prod.mk.inj (Option.some.inj (allocated'.symm.trans allocated))
  obtain ⟨marks, extent⟩ := held.refs.allocBytes_marks allocated
  subst pool
  refine ⟨packetSize, ?_, ?_, marks, ?_, ?_, ?_⟩
  · intro rxToggle others
    have away : interrupt.rxToggle ≠ rxToggle := fun same => others ⟨received, good, same⟩
    exact ⟨(slots rxToggle).trans (if_neg away), (addresses rxToggle).trans (if_neg away)⟩
  · rintro rxToggle ⟨_, _, rfl⟩
    have slot : rxBuffer after interrupt.rxToggle = ret := (slots _).trans (if_pos rfl)
    have address : rxAddr after interrupt.rxToggle = ret := (addresses _).trans (if_pos rfl)
    refine ⟨address.trans slot.symm, ?_, ?_, ?_⟩
    all_goals
      dsimp only
      rw [slot]
    · exact null_iff
    · exact unowned
    · exact extent
  · intro buffer member
    change buffer ∈ hspiBuffers after (system.running ++ after.taskQueue.tasks) at member
    rw [buffers] at member
    rcases List.mem_append.mp member with old | new
    · exact .inl old
    · rcases exactly with ⟨handsOn, rfl⟩ | ⟨_, rfl⟩
      · exact .inr (.inr ⟨_, handsOn, List.mem_singleton.mp new⟩)
      · nomatch new
  · intro rxToggle handsOn
    obtain ⟨_, _, rfl⟩ := handsOn.1
    rcases exactly with ⟨_, rfl⟩ | ⟨keeps, _⟩
    · change _ ∈ hspiBuffers after (system.running ++ after.taskQueue.tasks)
      rw [buffers]
      exact List.mem_append_right _ (List.mem_singleton_self _)
    · exact absurd handsOn keeps
  · refine .cons owned (fun rxToggle => ?_) ?_
    · dsimp only
      rw [slots]
      split
      · exact List.mem_cons_self ..
      · exact List.mem_cons_of_mem _ (mem_refs system lostRefs rxToggle)
    · by_cases null : ret = 0
      · exact .inl null
      · exact .inr (.inl (unowned null))

theorem effect_interrupt (held : Held config system lostArgs lostRefs) {interrupt : HspiInterrupt}
    (stepped : step config system (.interrupt interrupt) = some next) :
    Effect config system (.interrupt interrupt)
      (system.driverRefs ++ system.userRefs ++ lostRefs) next := by
  by_cases other : ¬ (interrupt.rDone = true ∧ interrupt.crcOrNumError = false)
  · rw [step, hspiIrqHandler_other other] at stepped
    obtain rfl := Option.some.inj stepped
    exact .quiet (fun _ receives => other ⟨receives.1, receives.2.1⟩) rfl (fun _ => rfl)
      (fun _ => rfl) (.of_blocks rfl) (fun _ => .inl)
      (.none held.refs (mem_refs system lostRefs) fun _ => Nat.le_refl _)
  obtain ⟨received, good⟩ := not_not.mp other
  obtain ⟨newBuffer, ramxPool, allocated, _⟩ :=
    held.refs.allocBytes system.hspi.hspiPacketSize
  obtain ⟨ptr, argPool, got, ⟨rfl, rfl, none⟩ | ⟨nonNull, free, _, ownedArgs⟩⟩ := held.args.get
  all_goals
    rw [step, hspiIrqHandler_receive received good got allocated] at stepped
    obtain rfl := Option.some.inj stepped
  · rw [if_pos rfl]
    refine effect_receive held received good allocated (by simp) ?_
      (rxBuffer_setRxBuffer _ _ · _) (rxAddr_setRxBuffer _ _ · _) ?_
      (.inr ⟨fun handsOn => none handsOn.2.1, rfl⟩)
    · cases interrupt.rxToggle <;> rfl
    · rw [List.append_nil, setRxBuffer_taskQueue]
      exact hspiBuffers_congr fun _ _ => by rw [setRxBuffer_args]
  · have fresh : ptr ∉ hspiArgs system.pending := fun member =>
      (List.nodup_cons.mp ownedArgs.distinct).1 (List.mem_append_left _ member)
    have buffers := @hspiBuffers_setTask system
      (setRxBuffer { system.hspi with hspiArgPool := argPool, ramxPool := ramxPool }
        interrupt.rxToggle newBuffer)
      ptr .hspiRxCallback (rxContents (rxBuffer system.hspi interrupt.rxToggle) interrupt) fresh
      (by simp) (by simp)
    rw [if_neg nonNull]
    refine effect_receive held received good allocated ?_ ?_
      (rxBuffer_setRxBuffer _ _ · _) (rxAddr_setRxBuffer _ _ · _) buffers ?_
    · rw [hspiSetTask, setRxBuffer_ramxPool]
    · cases interrupt.rxToggle <;> rfl
    · by_cases room : system.hspi.taskQueue.tasks.length < system.hspi.taskQueue.capacity
      · exact .inl ⟨⟨⟨received, good, rfl⟩, free, room⟩, if_pos room⟩
      · exact .inr ⟨fun handsOn => room handsOn.2.2, if_neg room⟩

theorem effect_beginTask (held : Held config system lostArgs lostRefs) {txToggle : Bool}
    (stepped : step config system (.beginTask txToggle) = some next) :
    Effect config system (.beginTask txToggle)
      (system.driverRefs ++ system.userRefs ++ lostRefs) next := by
  cases tasks : system.hspi.taskQueue.tasks with
  | nil =>
      simp only [step, TaskQueue.peekNextTask, tasks, List.head?_nil] at stepped
      obtain rfl := Option.some.inj stepped
      exact .quiet (fun _ => id) rfl (fun _ => rfl) (fun _ => rfl) (.of_blocks rfl) (fun _ => .inl)
        (.none held.refs (mem_refs system lostRefs) fun _ => Nat.le_refl _)
  | cons task rest =>
      obtain ⟨_, _, _, _, ran⟩ := runTask_eq
        { system.hspi with taskQueue := system.hspi.taskQueue.dropNextTask } txToggle task
      simp only [step, TaskQueue.peekNextTask, tasks, List.head?_cons, ran] at stepped
      obtain rfl := Option.some.inj stepped
      refine .quiet (fun _ => id) rfl (fun _ => rfl) (fun _ => rfl) (.of_blocks rfl)
        (fun buffer member => .inl ?_)
        (.none held.refs (mem_refs system lostRefs) fun _ => Nat.le_refl _)
      have moved : (task :: (system.running ++ rest)).Perm system.pending := by
        rw [pending, tasks]
        exact List.perm_middle.symm
      refine (hspiBuffers_perm system.hspi moved).mem_iff.mp ?_
      simp only [pending, TaskQueue.dropNextTask, tasks, List.tail_cons, List.cons_append]
        at member
      exact member

/-- A cleanup only takes marks away. -/
theorem cleanupTask_blocks {hspi after : HspiScheduled} {task : Task}
    (cleaned : cleanupTask hspi task = some after) (index : Nat) :
    after.ramxPool.blocks[index]? = hspi.ramxPool.blocks[index]? ∨
      after.ramxPool.blocks[index]? = some 0 := by
  unfold cleanupTask at cleaned
  split at cleaned
  · obtain ⟨ramxPool, freed, rest⟩ := Option.bind_eq_some_iff.mp cleaned
    obtain ⟨_, _, same⟩ := Option.bind_eq_some_iff.mp rest
    rw [← Option.some.inj same]
    exact ramxPoolFree_blocks freed index
  · rw [← Option.some.inj cleaned]
    exact .inl rfl
  · rw [← Option.some.inj cleaned]
    exact .inl rfl

theorem freeTasks_blocks {hspi after : HspiScheduled} (tasks : List Task)
    (freed : freeTasks hspi tasks = some after) (index : Nat) :
    after.ramxPool.blocks[index]? = hspi.ramxPool.blocks[index]? ∨
      after.ramxPool.blocks[index]? = some 0 := by
  induction tasks generalizing hspi with
  | nil =>
      rw [← Option.some.inj freed]
      exact .inl rfl
  | cons task rest ih =>
      obtain ⟨middle, cleaned, others⟩ := Option.bind_eq_some_iff.mp freed
      rcases ih others with kept | cleared
      · rw [kept]
        exact cleanupTask_blocks cleaned index
      · exact .inr cleared

theorem keepsMarks_of_cleared {pool after : RamxPool}
    (cleared : ∀ index : Nat, after.blocks[index]? = pool.blocks[index]? ∨
      after.blocks[index]? = some 0) : pool.KeepsMarks after := by
  intro index length _ marked
  rw [← marked]
  exact cleared index

/-- The tasks in `next` are some of those in `system`, and the rest gave back what they held. -/
theorem effect_settle {act : HspiAct} (nothing : ∀ rxToggle, ¬ Receives rxToggle act)
    {hspi : HspiScheduled} {running settled : List Task}
    (same : hspi = { system.hspi with
      ramxPool := hspi.ramxPool, hspiArgPool := hspi.hspiArgPool, taskQueue := hspi.taskQueue })
    (split : system.pending.Perm (settled ++ (running ++ hspi.taskQueue.tasks)))
    (owned : hspi.ramxPool.OwnedBy config.ramx
      (hspiBuffers system.hspi (running ++ hspi.taskQueue.tasks) ++
        ([system.hspi.hspiRxBuffer0, system.hspi.hspiRxBuffer1, system.hspi.hspiTxBuffer0,
          system.hspi.hspiTxBuffer1] ++ system.userRefs ++ lostRefs)))
    (marks : system.hspi.ramxPool.KeepsMarks hspi.ramxPool) :
    Effect config system act (system.driverRefs ++ system.userRefs ++ lostRefs)
      { system with hspi := hspi, running := running } := by
  have all := hspiBuffers_perm system.hspi split
  rw [hspiBuffers_append] at all
  refine .quiet nothing ?_ (fun _ => ?_) (fun _ => ?_) marks (fun buffer member => .inl ?_)
    (.none owned (fun rxToggle => ?_) fun ptr => ?_)
  · rw [same]
  · rw [same]
    rfl
  · rw [same]
    rfl
  · refine all.mem_iff.mpr (List.mem_append_right _ ?_)
    rw [same] at member
    exact member
  · refine List.mem_append_right _ (List.mem_append_left _ (List.mem_append_left _ ?_))
    rw [same]
    cases rxToggle <;> simp [rxBuffer]
  · have counted := all.count_eq ptr
    rw [List.count_append] at counted
    simp only [driverRefs, List.count_append]
    omega

theorem effect_endTask (held : Held config system lostArgs lostRefs)
    (stepped : step config system .endTask = some next) :
    Effect config system .endTask (system.driverRefs ++ system.userRefs ++ lostRefs) next := by
  cases running : system.running with
  | nil =>
      rw [step, running] at stepped
      obtain rfl := Option.some.inj stepped
      exact .quiet (fun _ => id) rfl (fun _ => rfl) (fun _ => rfl) (.of_blocks rfl) (fun _ => .inl)
        (.none held.refs (mem_refs system lostRefs) fun _ => Nat.le_refl _)
  | cons task rest =>
      have pending : system.pending = task :: (rest ++ system.hspi.taskQueue.tasks) := by
        rw [HspiSystem.pending, running]
        rfl
      have args := held.args
      have refs := held.refs_split
      rw [pending] at args refs
      obtain ⟨after, cleaned, same, _, refsAfter⟩ := cleanupTask_spec system.hspi args refs
      rw [step, running] at stepped
      dsimp only at stepped
      rw [cleaned] at stepped
      obtain rfl := Option.some.inj stepped
      have queue : after.taskQueue = system.hspi.taskQueue := by rw [same]
      rw [← queue] at refsAfter pending
      refine @effect_settle config system lostRefs .endTask (fun _ => id) after rest [task] ?_
        (.of_eq pending) refsAfter (keepsMarks_of_cleared (cleanupTask_blocks cleaned))
      rw [queue]
      exact same

theorem effect_freeAll (held : Held config system lostArgs lostRefs)
    (stepped : step config system .freeAll = some next) :
    Effect config system .freeAll (system.driverRefs ++ system.userRefs ++ lostRefs) next := by
  have swap : system.pending.Perm (system.hspi.taskQueue.tasks ++ system.running) :=
    List.perm_append_comm
  obtain ⟨after, freed, empty, same, _, refsAfter⟩ :=
    freeTasks_spec system.hspi.taskQueue.tasks rfl
      (held.args.perm ((hspiArgs_perm swap).append_right lostArgs))
      (held.refs_split.perm ((hspiBuffers_perm system.hspi swap).append_right _))
  rw [step, hydraInterruptQueueFreeAll, freed] at stepped
  obtain rfl := Option.some.inj stepped
  have left : system.running ++ after.taskQueue.tasks = system.running := by
    rw [empty, List.append_nil]
  refine @effect_settle config system lostRefs .freeAll (fun _ => id) after system.running
    system.hspi.taskQueue.tasks same ?_ ?_ (keepsMarks_of_cleared (freeTasks_blocks _ freed))
  · rw [left]
    exact swap
  · rw [left]
    exact refsAfter

theorem effect_submit (held : Held config system lostArgs lostRefs) {task : Task}
    (admissible : Admissible system (.submit task))
    (stepped : step config system (.submit task) = some next) :
    Effect config system (.submit task) (system.driverRefs ++ system.userRefs ++ lostRefs)
      next := by
  obtain ⟨address, function, cleanup⟩ := admissible
  obtain rfl := Option.some.inj stepped
  refine .quiet (fun _ => id) rfl (fun _ => rfl) (fun _ => rfl) (.of_blocks rfl)
    (fun buffer member => .inl ?_)
    (.none held.refs (mem_refs system lostRefs) fun _ => Nat.le_refl _)
  by_cases room : system.hspi.taskQueue.tasks.length < system.hspi.taskQueue.capacity
  · rw [pending, (TaskQueue.setNextTask_room room task).2, ← List.append_assoc, hspiBuffers,
      hspiArgs_append, hspiArgs_cons_user cleanup, hspiArgs_nil, List.append_nil] at member
    exact member
  · rw [TaskQueue.setNextTask_full room] at member
    exact member

theorem effect_userAlloc (held : Held config system lostArgs lostRefs) {numBlocks : Nat}
    (stepped : step config system (.userAlloc numBlocks) = some next) :
    Effect config system (.userAlloc numBlocks)
      (system.driverRefs ++ system.userRefs ++ lostRefs) next := by
  obtain ⟨ret, ramxPool, allocated, owned, unowned, _⟩ := held.refs.allocBlocks numBlocks
  rw [step, allocated] at stepped
  obtain rfl := Option.some.inj stepped
  refine .quiet (fun _ => id) rfl (fun _ => rfl) (fun _ => rfl)
    (held.refs.allocBlocks_marks allocated).1 (fun _ => .inl)
    (.cons owned (fun rxToggle => List.mem_cons_of_mem _ (mem_refs system lostRefs rxToggle)) ?_)
  by_cases null : ret = 0
  · exact .inl null
  · exact .inr (.inl (unowned null))

theorem effect_userTake (held : Held config system lostArgs lostRefs) {ptr : Nat}
    (admissible : Admissible system (.userTake ptr))
    (stepped : step config system (.userTake ptr) = some next) :
    Effect config system (.userTake ptr) (system.driverRefs ++ system.userRefs ++ lostRefs)
      next := by
  obtain ⟨ramxPool, taken, owned⟩ := held.taken admissible
  rw [step, taken] at stepped
  obtain rfl := Option.some.inj stepped
  exact .quiet (fun _ => id) rfl (fun _ => rfl) (fun _ => rfl)
    (.of_blocks (ramxTakeOwnership_blocks taken)) (fun _ => .inl)
    (.cons owned (fun rxToggle => List.mem_cons_of_mem _ (mem_refs system lostRefs rxToggle))
      (.inr (.inr rfl)))

theorem effect_userFree (held : Held config system lostArgs lostRefs) {ptr : Nat}
    (admissible : Admissible system (.userFree ptr))
    (stepped : step config system (.userFree ptr) = some next) :
    Effect config system (.userFree ptr) (system.driverRefs ++ system.userRefs ++ lostRefs)
      next := by
  obtain ⟨ramxPool, freed, owned⟩ := held.freed admissible
  rw [step, freed] at stepped
  obtain rfl := Option.some.inj stepped
  refine .quiet (fun _ => id) rfl (fun _ => rfl) (fun _ => rfl)
    (keepsMarks_of_cleared (ramxPoolFree_blocks freed)) (fun _ => .inl)
    (.none owned (fun rxToggle => ?_) fun other => ?_)
  · exact List.mem_append_left _ (List.mem_append_left _ (rxBuffer_mem_driverRefs system rxToggle))
  · have fewer : (system.userRefs.erase ptr).count other ≤ system.userRefs.count other :=
      List.erase_sublist.count_le other
    simp only [List.count_append]
    omega

/-- What every step does to the buffers. -/
theorem step_effect (held : Held config system lostArgs lostRefs) {act : HspiAct}
    (admissible : Admissible system act) (stepped : step config system act = some next) :
    Effect config system act (system.driverRefs ++ system.userRefs ++ lostRefs) next := by
  cases act with
  | send buffer size customRegister => exact effect_send held admissible stepped
  | interrupt interrupt => exact effect_interrupt held stepped
  | beginTask txToggle => exact effect_beginTask held stepped
  | endTask => exact effect_endTask held stepped
  | freeAll => exact effect_freeAll held stepped
  | submit task => exact effect_submit held admissible stepped
  | userAlloc numBlocks => exact effect_userAlloc held stepped
  | userTake ptr => exact effect_userTake held admissible stepped
  | userFree ptr => exact effect_userFree held admissible stepped

end Effects

/-- The receive buffers after `hspi_init`: armed, of the size of a packet, and each with one
owner. -/
theorem hspiInit_rxBuffers {config : HspiConfig} {hspi start : HspiScheduled} {userRefs : List Nat}
    {size : Nat} (fresh : Fresh config hspi userRefs)
    (initialized : hspiInit config hspi size = some start) :
    start.hspiPacketSize = u16 size ∧ hspiBuffers start start.taskQueue.tasks = [] ∧
      ∀ rxToggle, rxAddr start rxToggle = rxBuffer start rxToggle ∧
        (rxBuffer start rxToggle ≠ 0 →
          start.ramxPool.SoleOwner config.ramx (rxBuffer start rxToggle) ∧
          ∃ first, start.ramxPool.Extent config.ramx (rxBuffer start rxToggle) first
            (blocksNeeded config.ramx (u16 size))) := by
  obtain ⟨rx0, pool0, allocated0, owned0, fresh0, _⟩ := fresh.ramxPool.allocBytes (u16 size)
  obtain ⟨rx1, pool1, allocated1, owned1, fresh1, _⟩ := owned0.allocBytes (u16 size)
  obtain ⟨tx0, pool2, allocated2, owned2, fresh2, _⟩ := owned1.allocBytes (u16 size)
  obtain ⟨tx1, pool3, allocated3, owned3, fresh3, _⟩ := owned2.allocBytes (u16 size)
  have marks2 := (owned1.allocBytes_marks allocated2).1
  have marks3 := (owned2.allocBytes_marks allocated3).1
  have outcome := hspiInit_eq allocated0 allocated1 allocated2 allocated3
  obtain rfl := Option.some.inj (outcome.symm.trans initialized)
  have none : hspiArgs hspi.taskQueue.tasks = [] :=
    hspiArgs_users fun task member => (fresh.users task member).2
  -- the transmit buffers are other ones
  have later {ptr : Nat} (nonNull : ptr ≠ 0) (old : ptr ∈ rx1 :: rx0 :: userRefs) :
      tx0 ≠ ptr ∧ tx1 ≠ ptr := by
    constructor
    · rintro rfl
      exact fresh2 nonNull old
    · rintro rfl
      exact fresh3 nonNull (List.mem_cons_of_mem _ old)
  refine ⟨rfl, congrArg (List.map _) none, fun rxToggle => ?_⟩
  cases rxToggle with
  | true =>
      refine ⟨rfl, fun nonNull => ?_⟩
      change rx0 ≠ 0 at nonNull
      change pool3.SoleOwner config.ramx rx0 ∧ ∃ first, pool3.Extent config.ramx rx0 first _
      obtain ⟨first, extent⟩ := (fresh.ramxPool.allocBytes_marks allocated0).2 nonNull
      have kept1 := extent.kept (owned0.allocBytes_marks allocated1).1 owned1 (by simp)
      have kept3 := (kept1.kept marks2 owned2 (by simp)).kept marks3 owned3 (by simp)
      refine ⟨⟨_, owned3, ?_⟩, first, kept3⟩
      obtain ⟨other2, other3⟩ := later nonNull (by simp)
      have other1 : rx1 ≠ rx0 := by
        rintro rfl
        exact fresh1 nonNull (List.mem_cons_self ..)
      rw [List.count_cons_of_ne other3, List.count_cons_of_ne other2, List.count_cons_of_ne other1,
        List.count_cons_self, List.count_eq_zero_of_not_mem (fresh0 nonNull)]
  | false =>
      refine ⟨rfl, fun nonNull => ?_⟩
      change rx1 ≠ 0 at nonNull
      change pool3.SoleOwner config.ramx rx1 ∧ ∃ first, pool3.Extent config.ramx rx1 first _
      obtain ⟨first, extent⟩ := (owned0.allocBytes_marks allocated1).2 nonNull
      have kept3 := (extent.kept marks2 owned2 (by simp)).kept marks3 owned3 (by simp)
      refine ⟨⟨_, owned3, ?_⟩, first, kept3⟩
      obtain ⟨other2, other3⟩ := later nonNull (by simp)
      rw [List.count_cons_of_ne other3, List.count_cons_of_ne other2, List.count_cons_self,
        List.count_eq_zero_of_not_mem (fresh1 nonNull)]

end HspiSystem

end WchCh56x.Hspi
