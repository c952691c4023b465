import WchCh56x.Hspi.Boards

/-!
# Messages between two boards

One board sends to another one over the HSPI.  `_hspi_send` waits for the end of
the transmission, and meanwhile only interrupts run on its board.  The messages
that `hspi_send` accepted are those shown to the receive callback, those queued on
the other board, the one on the wire and those queued on this board, in order.
-/

namespace WchCh56x.Hspi

open Memory InterruptQueue Support.Runs Support.BitFields HspiSystem

def txRegisters (hspi : HspiScheduled) (txToggle : Bool) : Nat × U32 :=
  if txToggle then (hspi.txAddr1, hspi.udf1) else (hspi.txAddr0, hspi.udf0)

/-- What `HSPI_IRQHandler` finds when a packet with this header has come in. -/
def arrival (rxToggle error : Bool) (header otherUdf : U32) : HspiInterrupt where
  rDone := true
  crcOrNumError := error
  rxToggle := rxToggle
  udf0 := if rxToggle then header else otherUdf
  udf1 := if rxToggle then otherUdf else header

structure TwoBoards where
  sender : HspiSystem
  receiver : HspiSystem
  /-- The toggle of the packet whose end `_hspi_send` waits for. -/
  transmitting : Option Bool
  /-- The messages of the sends that returned true. -/
  accepted : List Message
  /-- The messages that the receive callback was called with. -/
  shown : List Message

inductive LinkAct where
  | sender (act : BoardAct)
  | receiver (act : BoardAct)
  /-- The packet on the wire arrives; `otherUdf` is in the register that it does not use. -/
  | arrive (rxToggle error : Bool) (otherUdf : U32)

namespace TwoBoards

def transmission (system : HspiSystem) : BoardAct → Option Bool
  | .driver (.beginTask txToggle) =>
      match system.hspi.taskQueue.peekNextTask with
      | some task => if task.task = .hspiSend ∧ task.args ≠ 0 then some txToggle else none
      | none => none
  | _ => none

def accepts (sending : HspiConfig) (system : HspiSystem) : BoardAct → List Message
  | .driver (.send buffer size customRegister) =>
      sentMessage sending system buffer size customRegister
  | _ => []

/-- The bytes that the hardware sends, `R16_HSPI_DMA_LEN` and one more. -/
def wireBytes (system : HspiSystem) (txToggle : Bool) : List U8 :=
  bytesAt system.hspi.memory (txRegisters system.hspi txToggle).1 system.hspi.hspiPacketSize

def linkStep (sending receiving : HspiConfig) (boards : TwoBoards) : LinkAct → Option TwoBoards
  | .sender act => do
      let sender ← boardStep sending boards.sender act
      return { boards with
        sender := sender
        transmitting := (transmission boards.sender act).or boards.transmitting
        accepted := boards.accepted ++ accepts sending boards.sender act }
  | .receiver act => do
      let receiver ← boardStep receiving boards.receiver act
      return { boards with
        receiver := receiver
        shown := boards.shown ++
          messages .hspiRxCallback boards.receiver.hspi (begun boards.receiver act) }
  | .arrive rxToggle error otherUdf =>
      match boards.transmitting with
      | none => some boards
      | some txToggle => do
          let header := (txRegisters boards.sender.hspi txToggle).2
          let receiver ← boardStep receiving boards.receiver
            (.packet (wireBytes boards.sender txToggle) (arrival rxToggle error header otherUdf))
          return { boards with receiver := receiver, transmitting := none }

/-- The caller of `_hspi_send` goes no further before the end of the transmission. -/
def Interrupts : BoardAct → Prop
  | .driver (.beginTask _) | .driver .endTask => False
  | _ => True

/-- What is owed on both boards; good packets only come over the wire. -/
def LinkOwed (sending receiving : HspiConfig) (packetSize : Nat) (boards : TwoBoards) :
    LinkAct → Prop
  | .sender act =>
      Owed sending packetSize boards.sender act ∧ (boards.transmitting.isSome → Interrupts act)
  | .receiver (.packet bytes interrupt) =>
      Owed receiving packetSize boards.receiver (.packet bytes interrupt) ∧ ¬ interrupt.Good
  | .receiver act => Owed receiving packetSize boards.receiver act
  | .arrive rxToggle error otherUdf =>
      FindsBuffer receiving boards.receiver (.interrupt (arrival rxToggle error 0 otherUdf))

/-- An accepted send finds a place in the queue, and a packet on the wire arrives without error
and finds an argument block and a place in the queue. -/
def FindsRoom (sending : HspiConfig) (boards : TwoBoards) : LinkAct → Prop
  | .sender (.driver act) => SendHasRoom sending boards.sender act
  | .arrive _ error _ =>
      boards.transmitting.isSome → error = false ∧ boards.receiver.hspi.hspiArgPool.HasFree ∧
        boards.receiver.hspi.taskQueue.tasks.length < boards.receiver.hspi.taskQueue.capacity
  | _ => True

def onWire (boards : TwoBoards) : List Message :=
  match boards.transmitting with
  | none => []
  | some txToggle =>
      [receivedMessage (wireBytes boards.sender txToggle)
        (arrival false false (txRegisters boards.sender.hspi txToggle).2 0)]

/-- The accepted messages are, in order, those shown, those in the receiver's queue, the one on the
wire and those in the sender's queue. -/
def Delivered (boards : TwoBoards) : Prop :=
  boards.accepted = boards.shown ++ boards.receiver.queued .hspiRxCallback ++ boards.onWire ++
    boards.sender.queued .hspiSend

/-- The task is a send that is running, and the registers hold its packet. -/
structure Transmits (system : HspiSystem) (txToggle : Bool) (task : Task) : Prop where
  running : task ∈ system.running
  isSend : task.task = .hspiSend
  address : (txRegisters system.hspi txToggle).1 = (system.hspi.args task.args).buffer
  header : (txRegisters system.hspi txToggle).2.toNat =
    (system.hspi.args task.args).size + (system.hspi.args task.args).customRegister % 8192 * 8192

/-- Both boards are sound, and what is on the wire is the packet of a send that is running. -/
structure Linked (sending receiving : HspiConfig) (packetSize : Nat) (boards : TwoBoards) :
    Prop where
  sender : Sound sending packetSize boards.sender
  receiver : Sound receiving packetSize boards.receiver
  wire : ∀ txToggle, boards.transmitting = some txToggle →
    ∃ task, Transmits boards.sender txToggle task

end TwoBoards

/-! ## The header -/

/-- The two parts of a header. -/
theorem rxContents_arrival (buffer : Nat) (rxToggle error : Bool) (header otherUdf : U32)
    {size custom : Nat} (small : size < 8192) (narrow : custom < 8192)
    (packed : header.toNat = size + custom * 8192) :
    rxContents buffer (arrival rxToggle error header otherUdf) = ⟨buffer, size, custom⟩ := by
  have selected : (if (arrival rxToggle error header otherUdf).rxToggle then
      (arrival rxToggle error header otherUdf).udf0
      else (arrival rxToggle error header otherUdf).udf1) = header := by
    cases rxToggle <;> rfl
  have mask := toNat_and_lowMask header (show 26 ≤ 32 by decide)
  have bits : (header &&& hspiUserDefinedMask).toNat = size + custom * 8192 := by
    rw [PacketHeaders.hspiUserDefinedMask_eq, mask, packed]
    exact Nat.mod_eq_of_lt (by omega)
  have low : ((header &&& hspiUserDefinedMask) &&& hspiSerdesTxSizeMask).toNat = size := by
    rw [PacketHeaders.hspiSerdesTxSizeMask_eq, toNat_and_lowMask _ (by decide), bits]
    omega
  have high : ((header &&& hspiUserDefinedMask) >>> 13).toNat = custom := by
    rw [BitVec.toNat_ushiftRight, Nat.shiftRight_eq_div_pow, bits]
    omega
  unfold rxContents
  dsimp only
  rw [selected, low, high, u16_of_lt (by omega), u16_of_lt (by omega)]

/-- What `_hspi_send` writes for the arguments at `data`. -/
theorem txRegisters_hspiSendTask {hspi : HspiScheduled} (txToggle : Bool) {data : Nat}
    (nonNull : data ≠ 0) (small : (hspi.args data).size < 8192)
    (wide : (hspi.args data).customRegister < 65536) :
    (txRegisters (hspiSendTask hspi txToggle data) txToggle).1 = (hspi.args data).buffer ∧
      (txRegisters (hspiSendTask hspi txToggle data) txToggle).2.toNat =
        (hspi.args data).size + (hspi.args data).customRegister % 8192 * 8192 := by
  have narrow (value : Nat) (fits : value < 65536) :
      (BitVec.ofNat 16 value).setWidth 32 = BitVec.ofNat 32 value := by
    apply BitVec.eq_of_toNat_eq
    rw [BitVec.toNat_setWidth, BitVec.toNat_ofNat, BitVec.toNat_ofNat, Nat.mod_eq_of_lt fits]
  have packed := PacketHeaders.toNat_hspiUdf (BitVec.ofNat 16 (hspi.args data).size)
    (BitVec.ofNat 16 (hspi.args data).customRegister)
  rw [PacketHeaders.hspiUdf, narrow _ (by omega), narrow _ wide, BitVec.toNat_ofNat,
    BitVec.toNat_ofNat, Nat.mod_eq_of_lt (show (hspi.args data).size < 2 ^ 16 by omega),
    Nat.mod_eq_of_lt small, Nat.mod_eq_of_lt (show (hspi.args data).customRegister < 2 ^ 16 from wide)]
    at packed
  unfold hspiSendTask
  rw [if_neg nonNull]
  cases txToggle with
  | true => exact ⟨rfl, packed⟩
  | false => exact ⟨rfl, packed⟩

namespace TwoBoards

section Sender

variable {config : HspiConfig} {packetSize : Nat} {system next : HspiSystem}

/-- `HSPI_IRQHandler` writes receive registers only. -/
theorem step_interrupt_keeps (other : HspiSystem) {interrupt : HspiInterrupt}
    (held : ∃ lostArgs lostRefs, Held config other lostArgs lostRefs)
    (stepped : step config other (.interrupt interrupt) = some next) :
    next.running = other.running ∧ txRegisters next.hspi = txRegisters other.hspi := by
  obtain ⟨_, _, held⟩ := held
  by_cases bad : ¬ (interrupt.rDone = true ∧ interrupt.crcOrNumError = false)
  · rw [step, hspiIrqHandler_other bad] at stepped
    obtain rfl := Option.some.inj stepped
    exact ⟨rfl, rfl⟩
  obtain ⟨received, good⟩ := not_not.mp bad
  obtain ⟨newBuffer, ramxPool, allocated, _⟩ := held.refs.allocBytes other.hspi.hspiPacketSize
  obtain ⟨ptr, args, got, _⟩ := held.args.get
  rw [step, hspiIrqHandler_receive received good got allocated] at stepped
  obtain rfl := Option.some.inj stepped
  refine ⟨rfl, ?_⟩
  by_cases null : ptr = 0
  · rw [if_pos null]
    cases interrupt.rxToggle <;> rfl
  · rw [if_neg null]
    cases interrupt.rxToggle <;> rfl

/-- Interrupts leave the running tasks and the registers of the transmission alone. -/
theorem boardStep_interrupts (sound : Sound config packetSize system) {act : BoardAct}
    (owed : Owed config packetSize system act) (interrupts : Interrupts act)
    (stepped : boardStep config system act = some next) :
    next.running = system.running ∧ txRegisters next.hspi = txRegisters system.hspi := by
  obtain ⟨lostArgs, lostRefs, held⟩ := sound.exclusive.held
  cases act with
  | packet bytes interrupt =>
      exact step_interrupt_keeps (system.receiveBytes bytes interrupt.rxToggle)
        (sound.setMemory _).exclusive.held stepped
  | store address bytes =>
      obtain rfl := Option.some.inj stepped
      exact ⟨rfl, rfl⟩
  | driver act =>
      cases act with
      | send buffer size customRegister =>
          obtain ⟨ret, ptr, after, sent, outcome⟩ :=
            hspiSend_spec held buffer size customRegister (owed.1.admissible held)
          rw [boardStep, step, sent] at stepped
          rcases outcome with ⟨rfl, _, rfl⟩ | ⟨_, base, _, changes,
              ⟨rfl, rfl, _⟩ | ⟨rfl, _, contents, rfl, _⟩⟩
          · obtain rfl := Option.some.inj stepped
            exact ⟨rfl, rfl⟩
          · obtain rfl := Option.some.inj stepped
            refine ⟨rfl, ?_⟩
            dsimp only
            rw [changes.same]
            rfl
          · obtain rfl := Option.some.inj stepped
            refine ⟨rfl, ?_⟩
            dsimp only
            rw [changes.same]
            rfl
      | interrupt interrupt => exact step_interrupt_keeps system ⟨_, _, held⟩ stepped
      | beginTask txToggle => exact interrupts.elim
      | endTask => exact interrupts.elim
      | freeAll => exact owed.2.elim
      | submit task =>
          obtain rfl := Option.some.inj stepped
          exact ⟨rfl, rfl⟩
      | userAlloc numBlocks =>
          obtain ⟨_, _, same⟩ := Option.bind_eq_some_iff.mp stepped
          obtain rfl := Option.some.inj same
          exact ⟨rfl, rfl⟩
      | userTake ptr =>
          obtain ⟨_, _, same⟩ := Option.bind_eq_some_iff.mp stepped
          obtain rfl := Option.some.inj same
          exact ⟨rfl, rfl⟩
      | userFree ptr =>
          obtain ⟨_, _, same⟩ := Option.bind_eq_some_iff.mp stepped
          obtain rfl := Option.some.inj same
          exact ⟨rfl, rfl⟩

theorem Transmits.waits {txToggle : Bool} {task : Task}
    (transmits : Transmits system txToggle task) : task ∈ system.waiting :=
  List.mem_append_left _
    (List.mem_filter.mpr ⟨transmits.running, decide_eq_true transmits.isSend⟩)

/-- A transmission goes on through interrupts. -/
theorem Transmits.kept {txToggle : Bool} {task : Task}
    (transmits : Transmits system txToggle task) (keeps : Keeps system next.hspi)
    (running : next.running = system.running)
    (registers : txRegisters next.hspi = txRegisters system.hspi) :
    Transmits next txToggle task := by
  have args := keeps.args task transmits.waits (.inl transmits.isSend)
  refine ⟨running ▸ transmits.running, transmits.isSend, ?_, ?_⟩
  · rw [registers, args]
    exact transmits.address
  · rw [registers, args]
    exact transmits.header

/-- The packet on the wire has the message of the send. -/
theorem Transmits.message (sound : Sound config packetSize system) (limit : packetSize ≤ 4096)
    {txToggle : Bool} {task : Task} (transmits : Transmits system txToggle task)
    (rxToggle error : Bool) (otherUdf : U32) :
    (rxContents 0
        (arrival rxToggle error (txRegisters system.hspi txToggle).2 otherUdf)).size ≤ packetSize ∧
      receivedMessage (wireBytes system txToggle)
        (arrival rxToggle error (txRegisters system.hspi txToggle).2 otherUdf) =
          messageOf system.hspi task := by
  have size_le := (sound.stored task transmits.waits (.inl transmits.isSend)).size_le
    transmits.isSend
  have contents := rxContents_arrival 0 rxToggle error (txRegisters system.hspi txToggle).2 otherUdf
    (by omega) (Nat.mod_lt _ (by decide)) transmits.header
  dsimp only [receivedMessage, messageOf]
  rw [contents, if_pos transmits.isSend]
  refine ⟨size_le, ?_⟩
  dsimp only [wireBytes]
  rw [transmits.address, take_bytesAt (by rw [sound.ready.packetSize_eq]; exact size_le)]

/-- A task of the driver that waits has an argument block. -/
theorem args_ne_zero_of_waits (sound : Sound config packetSize system) {task : Task}
    (waits : task ∈ system.waiting) (driver : IsHspiTask task) : task.args ≠ 0 := by
  obtain ⟨lostArgs, lostRefs, held⟩ := sound.exclusive.held
  obtain ⟨i, _, same, _⟩ := (held.args.used_iff task.args).mpr
    (List.mem_append_left _ (held.args_mem waits driver))
  rw [same]
  exact held.args.valid.member_ne_zero i

section BeginTask

variable {txToggle : Bool} {task : Task} {rest : List Task}
  (tasks : system.hspi.taskQueue.tasks = task :: rest)
include tasks

theorem begun_beginTask : begun system (.driver (.beginTask txToggle)) = [task] := by
  simp only [begun, TaskQueue.peekNextTask, tasks, List.head?_cons, Option.toList_some]

theorem transmission_beginTask :
    transmission system (.driver (.beginTask txToggle)) =
      if task.task = .hspiSend ∧ task.args ≠ 0 then some txToggle else none := by
  simp only [transmission, TaskQueue.peekNextTask, tasks, List.head?_cons]

/-- A send at the front of the queue is transmitted. -/
theorem transmits_beginTask (sound : Sound config packetSize system) (limit : packetSize ≤ 4096)
    (isSend : task.task = .hspiSend)
    (stepped : boardStep config system (.driver (.beginTask txToggle)) = some next) :
    Transmits next txToggle task := by
  have waits : task ∈ system.waiting := mem_waiting_of_queued (tasks ▸ List.mem_cons_self ..)
  have nonNull := args_ne_zero_of_waits sound waits (.inl isSend)
  have stored := sound.stored task waits (.inl isSend)
  have size_le := stored.size_le isSend
  simp only [boardStep, step, TaskQueue.peekNextTask, tasks, List.head?_cons, runTask, isSend]
    at stepped
  obtain rfl := Option.some.inj stepped
  have args : (hspiSendTask { system.hspi with
      taskQueue := system.hspi.taskQueue.dropNextTask } txToggle task.args).args =
        system.hspi.args := by
    unfold hspiSendTask
    rw [if_neg nonNull]
    cases txToggle <;> rfl
  have registers := @txRegisters_hspiSendTask { system.hspi with
    taskQueue := system.hspi.taskQueue.dropNextTask } txToggle task.args nonNull
    (show (system.hspi.args task.args).size < 8192 by omega) (stored.custom_lt isSend)
  refine ⟨List.mem_cons_self .., isSend, ?_, ?_⟩
  · dsimp only
    rw [args]
    exact registers.1
  · dsimp only
    rw [args]
    exact registers.2

end BeginTask

/-- What begins on a board is a transmission, or is no send. -/
theorem transmission_cases (sound : Sound config packetSize system) (limit : packetSize ≤ 4096)
    {act : BoardAct} (keeps : Keeps system next.hspi)
    (stepped : boardStep config system act = some next) :
    (transmission system act = none ∧ messages .hspiSend system.hspi (begun system act) = []) ∨
      ¬ Interrupts act ∧ ∃ txToggle task, transmission system act = some txToggle ∧
        Transmits next txToggle task ∧
        messages .hspiSend system.hspi (begun system act) = [messageOf next.hspi task] := by
  cases act with
  | packet bytes interrupt => exact .inl ⟨rfl, rfl⟩
  | store address bytes => exact .inl ⟨rfl, rfl⟩
  | driver act =>
      cases act with
      | beginTask txToggle =>
          cases tasks : system.hspi.taskQueue.tasks with
          | nil =>
              have noTask : begun system (.driver (.beginTask txToggle)) = [] := by
                simp only [begun, TaskQueue.peekNextTask, tasks, List.head?_nil, Option.toList_none]
              rw [noTask]
              refine .inl ⟨?_, rfl⟩
              simp only [transmission, TaskQueue.peekNextTask, tasks, List.head?_nil]
          | cons task rest =>
              rw [begun_beginTask tasks, transmission_beginTask tasks]
              by_cases isSend : task.task = .hspiSend
              · have waits : task ∈ system.waiting :=
                  mem_waiting_of_queued (tasks ▸ List.mem_cons_self ..)
                have nonNull := args_ne_zero_of_waits sound waits (.inl isSend)
                refine .inr ⟨id, txToggle, task, if_pos ⟨isSend, nonNull⟩,
                  transmits_beginTask tasks sound limit isSend stepped, ?_⟩
                rw [messages_of_eq _ isSend, keeps.messageOf waits (.inl isSend)]
              · exact .inl ⟨if_neg fun both => isSend both.1, messages_of_ne _ isSend⟩
      | send buffer size customRegister => exact .inl ⟨rfl, rfl⟩
      | interrupt interrupt => exact .inl ⟨rfl, rfl⟩
      | endTask => exact .inl ⟨rfl, rfl⟩
      | freeAll => exact .inl ⟨rfl, rfl⟩
      | submit task => exact .inl ⟨rfl, rfl⟩
      | userAlloc numBlocks => exact .inl ⟨rfl, rfl⟩
      | userTake ptr => exact .inl ⟨rfl, rfl⟩
      | userFree ptr => exact .inl ⟨rfl, rfl⟩

/-- A send is accepted exactly if it gets an argument block and a buffer. -/
theorem accepts_eq_nil_iff (sound : Sound config packetSize system)
    {buffer size customRegister : Nat}
    (owns : CallerOwns system (.send buffer size customRegister)) :
    sentMessage config system buffer size customRegister = [] ↔
      ¬ (system.hspi.hspiArgPool.HasFree ∧ BufferAvailable config system.hspi buffer) := by
  obtain ⟨lostArgs, lostRefs, held⟩ := sound.exclusive.held
  obtain ⟨ret, ptr, after, sent, outcome⟩ :=
    hspiSend_spec held buffer size customRegister (owns.admissible held)
  unfold sentMessage
  rw [sent]
  rcases outcome with ⟨rfl, noArgs, _⟩ | ⟨free, _, _, _,
      ⟨rfl, _, noBuffer, _⟩ | ⟨rfl, available, _⟩⟩
  · exact iff_of_true rfl fun both => noArgs both.1
  · exact iff_of_true rfl fun both => noBuffer both.2
  · exact iff_of_false (List.cons_ne_nil _ _) fun none => none ⟨free, available⟩

end Sender

/-! ## Steps of the two boards -/

section Link

variable {sending receiving : HspiConfig} {packetSize : Nat} {boards next : TwoBoards}

theorem onWire_of_transmits (linked : Linked sending receiving packetSize boards)
    (limit : packetSize ≤ 4096) {txToggle : Bool} {task : Task}
    (transmitting : boards.transmitting = some txToggle)
    (transmits : Transmits boards.sender txToggle task) :
    boards.onWire = [messageOf boards.sender.hspi task] := by
  unfold onWire
  rw [transmitting]
  dsimp only
  rw [(transmits.message linked.sender limit false false 0).2]

theorem onWire_of_none (idle : boards.transmitting = none) : boards.onWire = [] := by
  unfold onWire
  rw [idle]

/-- A step on the sending board moves messages from its queue to the wire. -/
theorem Linked.sender_step (linked : Linked sending receiving packetSize boards)
    (limit : packetSize ≤ 4096) {act : BoardAct}
    (owed : LinkOwed sending receiving packetSize boards (.sender act)) :
    ∃ next, linkStep sending receiving boards (.sender act) = some next ∧
      Linked sending receiving packetSize next ∧ next.receiver = boards.receiver ∧
      next.shown = boards.shown ∧
      next.accepted = boards.accepted ++ accepts sending boards.sender act ∧
      ∃ added, Adds sending boards.sender act .hspiSend added ∧
        next.onWire ++ next.sender.queued .hspiSend =
          boards.onWire ++ boards.sender.queued .hspiSend ++ added := by
  obtain ⟨owed, waits⟩ := owed
  obtain ⟨sender, stepped, moves⟩ := linked.sender.moves owed
  obtain ⟨added, adds, queued⟩ := moves.queued .hspiSend (.inl rfl)
  refine ⟨_, by rw [linkStep, stepped]; rfl, ?_⟩
  generalize next_eq : (TwoBoards.mk sender boards.receiver
    ((transmission boards.sender act).or boards.transmitting)
    (boards.accepted ++ accepts sending boards.sender act) boards.shown) = next
  have sender_eq : next.sender = sender := by rw [← next_eq]
  have transmitting_eq : next.transmitting =
      (transmission boards.sender act).or boards.transmitting := by rw [← next_eq]
  have linkedNext (wire : ∀ txToggle, next.transmitting = some txToggle →
      ∃ task, Transmits sender txToggle task) : Linked sending receiving packetSize next := by
    refine ⟨sender_eq ▸ moves.sound, ?_, sender_eq ▸ wire⟩
    rw [← next_eq]
    exact linked.receiver
  have frame : next.receiver = boards.receiver ∧ next.shown = boards.shown ∧
      next.accepted = boards.accepted ++ accepts sending boards.sender act := by
    rw [← next_eq]
    exact ⟨rfl, rfl, rfl⟩
  suffices all : Linked sending receiving packetSize next ∧
      next.onWire ++ next.sender.queued .hspiSend =
        boards.onWire ++ boards.sender.queued .hspiSend ++ added from
    ⟨all.1, frame.1, frame.2.1, frame.2.2, added, adds, all.2⟩
  rcases transmission_cases linked.sender limit moves.keeps stepped with
    ⟨none, noSend⟩ | ⟨begins, txToggle, task, some, transmits, began⟩
  · rw [noSend, List.nil_append] at queued
    rw [none, Option.none_or] at transmitting_eq
    cases transmitting : boards.transmitting with
    | none =>
        rw [transmitting] at transmitting_eq
        refine ⟨linkedNext fun txToggle started => ?_, ?_⟩
        · rw [transmitting_eq] at started
          cases started
        · rw [onWire_of_none transmitting, onWire_of_none transmitting_eq, sender_eq,
            List.nil_append, List.nil_append]
          exact queued
    | some txToggle =>
        obtain ⟨running, registers⟩ := boardStep_interrupts linked.sender owed
          (waits (by rw [transmitting]; rfl)) stepped
        rw [transmitting] at transmitting_eq
        obtain ⟨task, transmits⟩ := linked.wire txToggle transmitting
        have kept := transmits.kept moves.keeps running registers
        have linkedAfter := linkedNext fun other started => by
          obtain rfl := Option.some.inj (transmitting_eq.symm.trans started)
          exact ⟨task, kept⟩
        refine ⟨linkedAfter, ?_⟩
        rw [onWire_of_transmits linked limit transmitting transmits,
          onWire_of_transmits linkedAfter limit transmitting_eq (sender_eq ▸ kept), sender_eq,
          moves.keeps.messageOf transmits.waits (.inl transmits.isSend), queued, List.append_assoc]
  · have idle : boards.transmitting = none := by
      cases transmitting : boards.transmitting with
      | none => rfl
      | some other => exact absurd (waits (by rw [transmitting]; rfl)) begins
    rw [some, Option.some_or] at transmitting_eq
    have linkedAfter := linkedNext fun other started => by
      obtain rfl := Option.some.inj (transmitting_eq.symm.trans started)
      exact ⟨task, transmits⟩
    refine ⟨linkedAfter, ?_⟩
    rw [onWire_of_none idle,
      onWire_of_transmits linkedAfter limit transmitting_eq (sender_eq ▸ transmits), sender_eq,
      List.nil_append, ← began]
    exact queued

/-- A step on the receiving board shows messages from its queue. -/
theorem Linked.receiver_step (linked : Linked sending receiving packetSize boards)
    {act : BoardAct} (owed : LinkOwed sending receiving packetSize boards (.receiver act)) :
    ∃ next, linkStep sending receiving boards (.receiver act) = some next ∧
      Linked sending receiving packetSize next ∧ next.accepted = boards.accepted ∧
      next.onWire = boards.onWire ∧ next.sender = boards.sender ∧
      next.shown ++ next.receiver.queued .hspiRxCallback =
        boards.shown ++ boards.receiver.queued .hspiRxCallback := by
  have owedBoard : Owed receiving packetSize boards.receiver act := by
    cases act with
    | packet bytes interrupt => exact owed.1
    | store address bytes => exact owed
    | driver act => exact owed
  have nothing {added : List Message}
      (adds : Adds receiving boards.receiver act .hspiRxCallback added) : added = [] := by
    cases act with
    | packet bytes interrupt =>
        rcases adds with ⟨handsOn, _⟩ | ⟨_, none⟩
        · exact absurd ⟨handsOn.1.1, handsOn.1.2.1⟩ owed.2
        · exact none
    | store address bytes => exact adds
    | driver act => cases act <;> exact adds
  obtain ⟨receiver, stepped, moves⟩ := linked.receiver.moves owedBoard
  obtain ⟨added, adds, queued⟩ := moves.queued .hspiRxCallback (.inr rfl)
  obtain rfl := nothing adds
  have linkStepped : linkStep sending receiving boards (.receiver act) = some { boards with
      receiver := receiver
      shown := boards.shown ++
        messages .hspiRxCallback boards.receiver.hspi (begun boards.receiver act) } := by
    rw [linkStep, stepped]
    rfl
  refine ⟨_, linkStepped, ⟨linked.sender, moves.sound, linked.wire⟩, rfl, rfl, rfl, ?_⟩
  rw [List.append_assoc, queued, List.append_nil]

/-- An arrival moves the message from the wire to the queue, or loses it. -/
theorem Linked.arrive_step (linked : Linked sending receiving packetSize boards)
    (limit : packetSize ≤ 4096) {rxToggle error : Bool} {otherUdf : U32}
    (owed : LinkOwed sending receiving packetSize boards (.arrive rxToggle error otherUdf)) :
    ∃ next, linkStep sending receiving boards (.arrive rxToggle error otherUdf) = some next ∧
      Linked sending receiving packetSize next ∧ next.accepted = boards.accepted ∧
      next.shown = boards.shown ∧ next.sender = boards.sender ∧ next.onWire = [] ∧
      ∃ added, next.receiver.queued .hspiRxCallback =
          boards.receiver.queued .hspiRxCallback ++ added ∧
        (FindsRoom sending boards (.arrive rxToggle error otherUdf) ∧ added = boards.onWire ∨
          ¬ FindsRoom sending boards (.arrive rxToggle error otherUdf) ∧ added = [] ∧
            boards.onWire ≠ []) := by
  cases transmitting : boards.transmitting with
  | none =>
      have idle := onWire_of_none transmitting
      refine ⟨boards, by rw [linkStep, transmitting], linked, rfl, rfl, rfl, idle, [], ?_, .inl ⟨?_, ?_⟩⟩
      · rw [List.append_nil]
      · intro started
        rw [transmitting] at started
        cases started
      · rw [idle]
  | some txToggle =>
      obtain ⟨task, transmits⟩ := linked.wire txToggle transmitting
      obtain ⟨size_le, message⟩ :=
        transmits.message linked.sender limit rxToggle error otherUdf
      have length : (wireBytes boards.sender txToggle).length = packetSize := by
        rw [wireBytes, bytesAt_length, linked.sender.ready.packetSize_eq]
      have owedPacket : Owed receiving packetSize boards.receiver
          (.packet (wireBytes boards.sender txToggle)
            (arrival rxToggle error (txRegisters boards.sender.hspi txToggle).2 otherUdf)) :=
        ⟨length.le, by rw [length]; exact size_le, fun toggle receives => owed toggle receives⟩
      obtain ⟨receiver, stepped, moves⟩ := linked.receiver.moves owedPacket
      obtain ⟨added, adds, queued⟩ := moves.queued .hspiRxCallback (.inr rfl)
      have room_iff : FindsRoom sending boards (.arrive rxToggle error otherUdf) ↔
          HandsOn boards.receiver rxToggle (.interrupt
            (arrival rxToggle error (txRegisters boards.sender.hspi txToggle).2 otherUdf)) := by
        unfold FindsRoom
        rw [transmitting]
        exact ⟨fun room => ⟨⟨rfl, (room rfl).1, rfl⟩, (room rfl).2⟩,
          fun handsOn _ => ⟨handsOn.1.2.1, handsOn.2⟩⟩
      have wire := onWire_of_transmits linked limit transmitting transmits
      have linkStepped : linkStep sending receiving boards (.arrive rxToggle error otherUdf) =
          some { boards with receiver := receiver, transmitting := none } := by
        rw [linkStep, transmitting]
        dsimp only
        rw [stepped]
        rfl
      refine ⟨_, linkStepped, ⟨linked.sender, moves.sound, ?_⟩, rfl, rfl, rfl, rfl, added, queued,
        ?_⟩
      · intro _ started
        cases started
      rw [wire, room_iff]
      rcases adds with ⟨handsOn, rfl⟩ | ⟨dropped, rfl⟩
      · exact .inl ⟨handsOn, congrArg (List.cons · []) message⟩
      · exact .inr ⟨dropped, rfl, List.cons_ne_nil _ _⟩

theorem Linked.step (linked : Linked sending receiving packetSize boards)
    (limit : packetSize ≤ 4096) {act : LinkAct}
    (owed : LinkOwed sending receiving packetSize boards act) :
    ∃ next, linkStep sending receiving boards act = some next ∧
      Linked sending receiving packetSize next := by
  cases act with
  | sender act =>
      obtain ⟨next, stepped, linkedNext, _⟩ := linked.sender_step limit owed
      exact ⟨next, stepped, linkedNext⟩
  | receiver act =>
      obtain ⟨next, stepped, linkedNext, _⟩ := linked.receiver_step owed
      exact ⟨next, stepped, linkedNext⟩
  | arrive rxToggle error otherUdf =>
      obtain ⟨next, stepped, linkedNext, _⟩ := linked.arrive_step limit owed
      exact ⟨next, stepped, linkedNext⟩

/-- Every step of the two boards keeps the messages accounted for exactly if there is room. -/
theorem delivered_step (linked : Linked sending receiving packetSize boards)
    (limit : packetSize ≤ 4096) (delivered : boards.Delivered) {act : LinkAct}
    (owed : LinkOwed sending receiving packetSize boards act) :
    ∃ next, linkStep sending receiving boards act = some next ∧
      Linked sending receiving packetSize next ∧
      (next.Delivered ↔ FindsRoom sending boards act) := by
  unfold Delivered at delivered
  cases act with
  | receiver act =>
      obtain ⟨next, stepped, linkedNext, accepted, wire, sender, moved⟩ := linked.receiver_step owed
      refine ⟨next, stepped, linkedNext, iff_of_true ?_ trivial⟩
      unfold Delivered
      rw [accepted, wire, sender, moved]
      exact delivered
  | arrive rxToggle error otherUdf =>
      obtain ⟨next, stepped, linkedNext, accepted, shown, sender, wire, added, queued, outcome⟩ :=
        linked.arrive_step limit owed
      refine ⟨next, stepped, linkedNext, ?_⟩
      unfold Delivered
      rw [accepted, shown, sender, wire, queued, delivered]
      rcases outcome with ⟨room, rfl⟩ | ⟨noRoom, rfl, some⟩
      · refine iff_of_true ?_ room
        rw [List.append_nil, List.append_assoc boards.shown]
      · refine iff_of_false (fun same => some ?_) noRoom
        have lengths := congrArg List.length same
        simp only [List.length_append, List.length_nil] at lengths
        exact List.eq_nil_of_length_eq_zero (by omega)
  | sender act =>
      obtain ⟨next, stepped, linkedNext, receiver, shown, accepted, added, adds, moved⟩ :=
        linked.sender_step limit owed
      refine ⟨next, stepped, linkedNext, ?_⟩
      have regrouped : next.Delivered ↔
          boards.accepted ++ accepts sending boards.sender act = boards.accepted ++ added := by
        unfold Delivered
        rw [accepted, shown, receiver, List.append_assoc _ next.onWire, moved, ← List.append_assoc,
          ← List.append_assoc, ← delivered]
      rw [regrouped, List.append_cancel_left_eq]
      cases act with
      | packet bytes interrupt =>
          obtain rfl : added = [] := adds
          exact iff_of_true rfl trivial
      | store address bytes =>
          obtain rfl : added = [] := adds
          exact iff_of_true rfl trivial
      | driver act =>
          cases act with
          | send buffer size customRegister =>
              have none_iff := accepts_eq_nil_iff linked.sender owed.1.1
              dsimp only [accepts, FindsRoom, SendHasRoom]
              dsimp only [Adds] at adds
              rw [adds]
              by_cases room : boards.sender.hspi.taskQueue.tasks.length <
                  boards.sender.hspi.taskQueue.capacity
              · rw [if_pos room]
                exact iff_of_true rfl fun _ _ => room
              · rw [if_neg room, none_iff]
                exact ⟨fun refused free available => absurd ⟨free, available⟩ refused,
                  fun hasRoom both => room (hasRoom both.1 both.2)⟩
          | _ =>
              obtain rfl : added = [] := adds
              exact iff_of_true rfl trivial

end Link

end TwoBoards

open TwoBoards

structure Started (config : HspiConfig) (size : Nat) (system : HspiSystem) : Prop where
  ready : ∃ hspi start userRefs, Fresh config hspi userRefs ∧
    hspiInit config hspi size = some start ∧
    (∀ buffer ∈ [start.hspiRxBuffer0, start.hspiRxBuffer1, start.hspiTxBuffer0,
      start.hspiTxBuffer1], buffer ≠ 0) ∧
    system = initial start userRefs

/-- A board starts sound, with no message. -/
theorem Started.sound {config : HspiConfig} {size : Nat} {system : HspiSystem}
    (started : Started config size system) (fits : u16 size ≤ 255 * config.ramx.blockSize) :
    Sound config (u16 size) system ∧
      ∀ function, IsHspiFunction function → system.queued function = [] := by
  obtain ⟨hspi, start, userRefs, fresh, initialized, successful, rfl⟩ := started.ready
  obtain ⟨start', initialized', held⟩ := hspiInit_held fresh size
  obtain rfl := Option.some.inj (initialized'.symm.trans initialized)
  obtain ⟨packetSize, noBuffers, receive⟩ := hspiInit_rxBuffers fresh initialized
  have nonNull (rxToggle : Bool) : rxBuffer start' rxToggle ≠ 0 := by
    cases rxToggle <;> exact successful _ (by simp [rxBuffer])
  have given : 0 ∉ hspiBuffers start' (initial start' userRefs).pending := by
    change 0 ∉ hspiBuffers start' start'.taskQueue.tasks
    rw [noBuffers]
    exact List.not_mem_nil
  have noTask {task : Task} (member : task ∈ start'.taskQueue.tasks) : ¬ IsHspiTask task := by
    intro driver
    have buffer := (mem_hspiBuffers held.queue_wellFormed start').mpr ⟨task, member, driver, rfl⟩
    change _ ∈ hspiBuffers start' start'.taskQueue.tasks at buffer
    rw [noBuffers] at buffer
    cases buffer
  obtain ⟨first, extent⟩ := ((receive true).2 (nonNull true)).2
  have enough := blocksNeeded_covers config.ramx (Nat.mod_lt size (by decide)) fits extent.nonempty
  refine ⟨⟨⟨⟨[], [], held⟩, fun rxToggle null => ((receive rxToggle).2 null).1⟩,
    ⟨⟨[], [], held⟩, packetSize, fun rxToggle => (receive rxToggle).1,
      fun rxToggle => ((receive rxToggle).2 (nonNull rxToggle)).2, given⟩, ?_,
    fun task member driver => absurd driver (noTask member)⟩, fun function driver => ?_⟩
  · rw [Nat.mul_comm]
    exact enough
  · refine List.map_eq_nil_iff.mpr (List.filter_eq_nil_iff.mpr fun task member runs => ?_)
    have same : task.task = function := of_decide_eq_true runs
    refine noTask member ?_
    unfold IsHspiTask
    rw [same]
    exact driver

def connect (sender receiver : HspiSystem) : TwoBoards := ⟨sender, receiver, none, [], []⟩

theorem started_board : Started oneTask 16 (initial started []) :=
  ⟨powerUp oneTask, started, [], powerUp_fresh oneTask, hspiInit_started, by decide, rfl⟩

end WchCh56x.Hspi
