import WchCh56x.Memory.FifoQueue
import WchCh56x.Support.Runs

/-!
# The FIFO without a critical section

One side writes and the other one reads.  A call loads the two indices, copies and
stores its own index, and complete calls of the other side come between these
steps.  The other side can only have moved its own index, so an old copy of that
index shows fewer elements, or less room, than there is.
-/

namespace WchCh56x.Memory

open Support

namespace Geometry

variable {geometry : Geometry}

/-! ## Calls and their steps -/

inductive Role where
  | producer | consumer
  deriving DecidableEq, Repr

inductive Call (geometry : Geometry) where
  | write (batch : List geometry.Element)
  | read
  | readN (n : Nat)
  | peekN (n : Nat)

namespace Call

def role : Call geometry → Role
  | .write _ => .producer
  | .read | .readN _ | .peekN _ => .consumer

def batch : Call geometry → List geometry.Element
  | .write batch => batch
  | .read | .readN _ | .peekN _ => []

theorem eq_write {call : Call geometry} (writes : call.role = .producer) :
    ∃ batch, call = .write batch := by
  cases call with
  | write batch => exact ⟨batch, rfl⟩
  | read => exact nomatch writes
  | readN n => exact nomatch writes
  | peekN n => exact nomatch writes

structure Result where
  count : Nat
  shown : List U8

/-- `_fifo_read_n` or `_fifo_write_n` on the loaded indices. -/
def copy (fifo : HydraFifo) (rdIdx wrIdx : Nat) : Call geometry → Option (HydraFifo × Result)
  | .write batch => do
      let (count, buffer) ← fifoWriteNAt fifo (bytes batch) batch.length rdIdx wrIdx
      return ({ fifo with buffer := buffer }, ⟨count, []⟩)
  | .read => do
      let (count, shown) ← fifoReadNAt fifo (fifoGetCount rdIdx wrIdx fifo.size) rdIdx wrIdx
      return (fifo, ⟨count, shown⟩)
  | .readN n => do
      let (count, shown) ← fifoReadNAt fifo n rdIdx wrIdx
      return (fifo, ⟨count, shown⟩)
  | .peekN n => do
      let (count, shown) ← fifoReadNAt fifo n rdIdx wrIdx
      return (fifo, ⟨count, shown⟩)

/-- `_fifo_advance_read` or `_fifo_advance_write`, which loads the call's own index again. -/
def store (fifo : HydraFifo) (count : Nat) : Call geometry → HydraFifo
  | .write _ => fifoAdvanceWrite fifo count
  | .read | .readN _ => fifoAdvanceRead fifo count
  | .peekN _ => fifo

def whole (fifo : HydraFifo) (call : Call geometry) : Option (HydraFifo × Result) := do
  let (copied, result) ← call.copy fifo fifo.rdIdx fifo.wrIdx
  return (call.store copied result.count, result)

def request : Call geometry → BoundedQueue.Request geometry.Element
  | .write batch => .write batch
  | .read => .read
  | .readN n => .readN n
  | .peekN n => .peekN n

/-- A call that nothing interrupts is the operation of the header. -/
theorem serve_request (fifo : HydraFifo) (call : Call geometry) :
    geometry.serve fifo call.request =
      (call.whole fifo).map fun (after, result) => ((result.count, result.shown), after) := by
  cases call with
  | write batch =>
      simp only [request, serve, fifoWrite, whole, copy, store]
      cases fifoWriteNAt fifo (bytes batch) batch.length fifo.rdIdx fifo.wrIdx with
      | none => rfl
      | some written => rfl
  | read =>
      simp only [request, serve, fifoRead, fifoReadN, whole, copy, store]
      cases fifoReadNAt fifo (fifoGetCount fifo.rdIdx fifo.wrIdx fifo.size) fifo.rdIdx
          fifo.wrIdx with
      | none => rfl
      | some read => rfl
  | readN n =>
      simp only [request, serve, fifoReadN, whole, copy, store]
      cases fifoReadNAt fifo n fifo.rdIdx fifo.wrIdx with
      | none => rfl
      | some read => rfl
  | peekN n =>
      simp only [request, serve, fifoPeekN, whole, copy, store]
      cases fifoReadNAt fifo n fifo.rdIdx fifo.wrIdx with
      | none => rfl
      | some read => rfl

end Call

/-! ## Old copies of an index -/

section

variable {fifo : HydraFifo} {queue : List geometry.Element}

theorem Holds.rdIdx_lt (holds : geometry.Holds fifo queue) : fifo.rdIdx < fifo.size :=
  holds.1.rdIdx_lt

theorem Holds.wrIdx_eq (holds : geometry.Holds fifo queue) :
    fifo.wrIdx = (fifo.rdIdx + queue.length) % fifo.size := by
  rw [holds.1.wrIdx_eq, List.length_map]

theorem Holds.advanceRead (holds : geometry.Holds fifo queue) {count : Nat}
    (enough : count ≤ queue.length) :
    geometry.Holds (fifoAdvanceRead fifo count) (queue.drop count) := by
  refine ⟨?_, holds.2.1, holds.2.2⟩
  rw [List.map_drop]
  exact fifoAdvanceRead_spec holds.1 (by rwa [List.length_map])

/-- Up to an old write index the FIFO holds the oldest elements of the queue. -/
theorem Holds.take (holds : geometry.Holds fifo queue) {count : Nat}
    (within : count ≤ queue.length) :
    geometry.Holds { fifo with wrIdx := (fifo.rdIdx + count) % fifo.size } (queue.take count) := by
  have length : ((queue.map Subtype.val).take count).length = count := by
    rw [List.length_take, List.length_map, Nat.min_eq_left within]
  refine ⟨⟨holds.1.sizeFits, holds.1.length, holds.1.rdIdx_lt, ?_, ?_, ?_⟩, holds.2⟩
  · have bound := holds.1.queue_lt
    rw [List.length_map] at bound
    rw [List.map_take, length]
    exact Nat.lt_of_le_of_lt within bound
  · rw [List.map_take, length]
  · rw [List.map_take, length]
    conv_rhs => rw [← holds.1.contents]
    exact (RingBuffer.window_take _ _ _ (by rwa [List.length_map])).symm

/-- From an old read index on the FIFO holds elements that have been read since, then the queue. -/
def StaleRead (geometry : Geometry) (fifo : HydraFifo) (queue : List geometry.Element)
    (rdIdx : Nat) : Prop :=
  ∃ gone : List geometry.Element, geometry.Holds { fifo with rdIdx := rdIdx } (gone ++ queue) ∧
    fifo.rdIdx = (rdIdx + gone.length) % fifo.size

theorem Holds.staleRead (holds : geometry.Holds fifo queue) :
    geometry.StaleRead fifo queue fifo.rdIdx :=
  ⟨[], holds, (Nat.mod_eq_of_lt holds.rdIdx_lt).symm⟩

/-! ## The copy -/

/-- `_fifo_read_n` with its own read index and perhaps an old write index. -/
theorem fifoReadNAt_visible (holds : geometry.Holds fifo queue) {visible : Nat}
    (within : visible ≤ queue.length) (n : Nat) :
    ∃ count ≤ queue.length,
      fifoReadNAt fifo n fifo.rdIdx ((fifo.rdIdx + visible) % fifo.size) =
        some (count, bytes (queue.take count)) := by
  have shown := holds.take within
  have bound := holds.length_le
  have length : (queue.take visible).length = visible := by
    rw [List.length_take, Nat.min_eq_left within]
  have read := fifoReadNAt_spec shown.1 n (fun enough => shown.narrow (by
    rw [List.length_map, length] at enough
    omega))
  rw [List.length_map, length] at read
  by_cases enough : n ≤ visible
  · refine ⟨n, enough.trans within, ?_⟩
    rw [if_pos enough, ← List.map_take, List.take_take, Nat.min_eq_left enough] at read
    exact read
  · refine ⟨0, Nat.zero_le _, ?_⟩
    rw [if_neg enough] at read
    exact read

/-- A call of the consumer copies elements from the front of the queue. -/
theorem copy_consumer (holds : geometry.Holds fifo queue) {visible : Nat}
    (within : visible ≤ queue.length) {call : Call geometry} (reads : call.role = .consumer) :
    ∃ count ≤ queue.length,
      call.copy fifo fifo.rdIdx ((fifo.rdIdx + visible) % fifo.size) =
        some (fifo, ⟨count, bytes (queue.take count)⟩) := by
  cases call with
  | write batch => exact nomatch reads
  | read =>
      obtain ⟨count, enough, read⟩ := fifoReadNAt_visible holds within
        (fifoGetCount fifo.rdIdx ((fifo.rdIdx + visible) % fifo.size) fifo.size)
      exact ⟨count, enough, by simp only [Call.copy, read]; rfl⟩
  | readN n =>
      obtain ⟨count, enough, read⟩ := fifoReadNAt_visible holds within n
      exact ⟨count, enough, by simp only [Call.copy, read]; rfl⟩
  | peekN n =>
      obtain ⟨count, enough, read⟩ := fifoReadNAt_visible holds within n
      exact ⟨count, enough, by simp only [Call.copy, read]; rfl⟩

theorem fifoWrite_eq_some {source : List U8} {n count : Nat} {after : HydraFifo}
    (written : fifoWrite fifo source n = some (count, after)) :
    ∃ buffer, fifoWriteNAt fifo source n fifo.rdIdx fifo.wrIdx = some (count, buffer) ∧
      after = fifoAdvanceWrite { fifo with buffer := buffer } count := by
  unfold fifoWrite at written
  cases copied : fifoWriteNAt fifo source n fifo.rdIdx fifo.wrIdx with
  | none =>
      rw [copied] at written
      exact nomatch written
  | some result =>
      rw [copied] at written
      obtain ⟨rfl, rfl⟩ := Prod.mk.inj (Option.some.inj written)
      exact ⟨result.2, rfl, rfl⟩

/-- A write that has loaded its own index and perhaps an old read index appends its batch or
nothing, and before it stores its index the queue is as before. -/
theorem copy_producer (holds : geometry.Holds fifo queue) {rdIdx : Nat}
    (stale : geometry.StaleRead fifo queue rdIdx) (batch : List geometry.Element) :
    ∃ count buffer, (Call.write batch).copy fifo rdIdx fifo.wrIdx =
        some ({ fifo with buffer := buffer }, ⟨count, []⟩) ∧
      geometry.Holds { fifo with buffer := buffer } queue ∧
      geometry.Holds (fifoAdvanceWrite { fifo with buffer := buffer } count)
        (queue ++ batch.take count) := by
  obtain ⟨gone, goneHolds, isRd⟩ := stale
  obtain ⟨after, written, afterHolds⟩ := fifoWrite_holds goneHolds batch
  obtain ⟨buffer, copied, rfl⟩ := fifoWrite_eq_some written
  generalize isCount : (if (gone ++ queue).length + batch.length ≤ geometry.capacity then
    batch.length else 0) = count at copied afterHolds
  have appended : (if (gone ++ queue).length + batch.length ≤ geometry.capacity then
      gone ++ queue ++ batch else gone ++ queue) = gone ++ (queue ++ batch.take count) := by
    rw [← isCount]
    split
    · rw [List.take_length, List.append_assoc]
    · rw [List.take_zero, List.append_nil]
  rw [appended] at afterHolds
  -- reading what is gone takes the old read index to the present one
  have stored := afterHolds.advanceRead (List.length_append ▸ Nat.le_add_right _ _)
  have present : u16 ((rdIdx + gone.length) % fifo.size) = fifo.rdIdx := by
    rw [← isRd]
    exact u16_of_lt (holds.rdIdx_lt.trans holds.1.sizeFits)
  have same : fifoAdvanceRead (fifoAdvanceWrite { fifo with rdIdx := rdIdx, buffer := buffer }
      count) gone.length = fifoAdvanceWrite { fifo with buffer := buffer } count :=
    congrArg (fun rdIdx => { fifoAdvanceWrite { fifo with buffer := buffer } count with
      rdIdx := rdIdx }) present
  rw [List.drop_left] at stored
  have appends : geometry.Holds (fifoAdvanceWrite { fifo with buffer := buffer } count)
      (queue ++ batch.take count) := same ▸ stored
  refine ⟨count, buffer, ?_, ?_, appends⟩
  · have copiedHere : fifoWriteNAt fifo (bytes batch) batch.length rdIdx fifo.wrIdx =
        some (count, buffer) := copied
    simp only [Call.copy, copiedHere]
    rfl
  · have before := appends.take (List.length_append ▸ Nat.le_add_right queue.length _)
    rw [List.take_left] at before
    have wrIdx := holds.wrIdx_eq
    have unmoved : { fifo with buffer := buffer } =
        { fifoAdvanceWrite { fifo with buffer := buffer } count with
          wrIdx := (fifo.rdIdx + queue.length) % fifo.size } :=
      congrArg (fun wrIdx => { fifo with buffer := buffer, wrIdx := wrIdx }) wrIdx
    exact unmoved ▸ before

end

/-! ## The two sides -/

/-- A call between two of its steps, with its local variables. -/
inductive Frame (geometry : Geometry) where
  | entered (call : Call geometry)
  | rdLoaded (call : Call geometry) (rdIdx : Nat)
  | loaded (call : Call geometry) (rdIdx wrIdx : Nat)
  | copied (call : Call geometry) (result : Call.Result)

def Frame.call : Frame geometry → Call geometry
  | .entered call | .rdLoaded call _ | .loaded call _ _ | .copied call _ => call

/-- The FIFO, the call that is interrupted, and what the calls that have returned did. -/
structure System (geometry : Geometry) where
  fifo : HydraFifo
  frame : Option (Frame geometry)
  /-- The elements of the writes, in order. -/
  written : List geometry.Element
  readCount : Nat
  /-- What the reads returned, in order. -/
  received : List U8
  /-- What each peek returned, and how many elements had been read before it. -/
  peeked : List (Nat × Call.Result)

inductive Act (geometry : Geometry) where
  /-- The side that is interrupted enters a call. -/
  | enter (call : Call geometry)
  /-- It takes the next step of its call. -/
  | advance
  /-- The other side interrupts it with a complete call. -/
  | interrupt (call : Call geometry)

namespace System

def initial (geometry : Geometry) : System geometry where
  fifo := hydraFifoDef geometry.capacity geometry.typeSize
  frame := none
  written := []
  readCount := 0
  received := []
  peeked := []

def returned (system : System geometry) (result : Call.Result) : Call geometry → System geometry
  | .write batch => { system with written := system.written ++ batch.take result.count }
  | .read | .readN _ =>
      { system with
        readCount := system.readCount + result.count
        received := system.received ++ result.shown }
  | .peekN _ => { system with peeked := system.peeked ++ [(system.readCount, result)] }

def advance (system : System geometry) : Frame geometry → Option (System geometry)
  | .entered call => some { system with frame := some (.rdLoaded call system.fifo.rdIdx) }
  | .rdLoaded call rdIdx => some { system with frame := some (.loaded call rdIdx system.fifo.wrIdx) }
  | .loaded call rdIdx wrIdx => do
      let (fifo, result) ← call.copy system.fifo rdIdx wrIdx
      return { system with fifo := fifo, frame := some (.copied call result) }
  | .copied call result =>
      some ({ system with
        fifo := call.store system.fifo result.count
        frame := none }.returned result call)

/-- The system after an act; an act of the wrong side or at the wrong time does not happen. -/
def step (main : Role) (system : System geometry) : Act geometry → Option (System geometry)
  | .enter call =>
      if call.role = main ∧ system.frame.isNone then
        some { system with frame := some (.entered call) }
      else
        some system
  | .advance =>
      match system.frame with
      | none => some system
      | some frame => system.advance frame
  | .interrupt call =>
      if call.role ≠ main then do
        let (fifo, result) ← call.whole system.fifo
        return { system with fifo := fifo }.returned result call
      else
        some system

/-- The reads have returned a prefix of what was written, the rest is in the FIFO, and a peek
showed what comes next. -/
structure Delivers (system : System geometry) : Prop where
  read_le : system.readCount ≤ system.written.length
  inFlight_le : system.written.length - system.readCount ≤ geometry.capacity
  received_eq : system.received = bytes (system.written.take system.readCount)
  kept : geometry.Holds system.fifo (system.written.drop system.readCount)
  peeked_eq : ∀ peek ∈ system.peeked, peek.1 + peek.2.count ≤ system.written.length ∧
    peek.2.shown = bytes ((system.written.drop peek.1).take peek.2.count)

def inFlight (system : System geometry) : List geometry.Element :=
  system.written.drop system.readCount

namespace Delivers

variable {system : System geometry}

theorem initial (geometry : Geometry) : (initial geometry).Delivers where
  read_le := Nat.zero_le _
  inFlight_le := Nat.zero_le _
  received_eq := rfl
  kept := geometry.holds_initial
  peeked_eq _ member := absurd member List.not_mem_nil

theorem moved (delivers : system.Delivers) {fifo : HydraFifo}
    (holds : geometry.Holds fifo system.inFlight) (frame : Option (Frame geometry)) :
    ({ system with fifo := fifo, frame := frame } : System geometry).Delivers :=
  { delivers with kept := holds }

theorem written (delivers : system.Delivers) {fifo : HydraFifo} {more : List geometry.Element}
    (holds : geometry.Holds fifo (system.inFlight ++ more)) :
    ({ system with fifo := fifo, written := system.written ++ more } : System geometry).Delivers := by
  have kept : (system.written ++ more).drop system.readCount = system.inFlight ++ more :=
    List.drop_append_of_le_length delivers.read_le
  have bound := holds.length_le
  rw [← kept, List.length_drop] at bound
  constructor
  · rw [List.length_append]
    exact delivers.read_le.trans (Nat.le_add_right _ _)
  · exact bound
  · rw [List.take_append_of_le_length delivers.read_le]
    exact delivers.received_eq
  · rw [kept]
    exact holds
  · intro peek member
    obtain ⟨within, shown⟩ := delivers.peeked_eq peek member
    have early : peek.1 ≤ system.written.length := by omega
    constructor
    · rw [List.length_append]
      omega
    · rw [List.drop_append_of_le_length early, List.take_append_of_le_length]
      · exact shown
      · rw [List.length_drop]
        omega

theorem read (delivers : system.Delivers) {fifo : HydraFifo} {count : Nat}
    (enough : count ≤ system.inFlight.length) (holds : geometry.Holds fifo (system.inFlight.drop count)) :
    ({ system with
      fifo := fifo
      readCount := system.readCount + count
      received := system.received ++ bytes (system.inFlight.take count) } :
        System geometry).Delivers := by
  have length : system.inFlight.length = system.written.length - system.readCount :=
    List.length_drop
  have readLe := delivers.read_le
  have bound := delivers.inFlight_le
  constructor
  · change system.readCount + count ≤ system.written.length
    omega
  · change system.written.length - (system.readCount + count) ≤ geometry.capacity
    omega
  · change system.received ++ _ = bytes (system.written.take (system.readCount + count))
    rw [delivers.received_eq, List.take_add]
    simp [bytes, inFlight]
  · rw [inFlight, List.drop_drop] at holds
    exact holds
  · exact delivers.peeked_eq

theorem peek (delivers : system.Delivers) {count : Nat} (enough : count ≤ system.inFlight.length) :
    ({ system with
      peeked := system.peeked ++
        [(system.readCount, ⟨count, bytes (system.inFlight.take count)⟩)] } :
          System geometry).Delivers := by
  refine { delivers with peeked_eq := ?_ }
  intro peek member
  obtain earlier | isThis := List.mem_append.mp member
  · exact delivers.peeked_eq peek earlier
  · obtain rfl := List.mem_singleton.mp isThis
    have length : system.inFlight.length = system.written.length - system.readCount :=
      List.length_drop
    have readLe := delivers.read_le
    refine ⟨?_, rfl⟩
    change system.readCount + count ≤ system.written.length
    omega

end Delivers

end System

/-! ## What an interrupted call knows -/

section

variable {fifo : HydraFifo} {queue : List geometry.Element}

/-- What the call of an interrupted consumer has loaded and copied. -/
def Frame.ReaderFits (fifo : HydraFifo) (queue : List geometry.Element) : Frame geometry → Prop
  | .entered _ => True
  | .rdLoaded _ rdIdx => rdIdx = fifo.rdIdx
  | .loaded _ rdIdx wrIdx =>
      rdIdx = fifo.rdIdx ∧ ∃ visible ≤ queue.length, wrIdx = (fifo.rdIdx + visible) % fifo.size
  | .copied _ result =>
      result.count ≤ queue.length ∧ result.shown = bytes (queue.take result.count)

/-- What the call of an interrupted producer has loaded and copied. -/
def Frame.WriterFits (fifo : HydraFifo) (queue : List geometry.Element) : Frame geometry → Prop
  | .entered _ => True
  | .rdLoaded _ rdIdx => geometry.StaleRead fifo queue rdIdx
  | .loaded _ rdIdx wrIdx => geometry.StaleRead fifo queue rdIdx ∧ wrIdx = fifo.wrIdx
  | .copied call result =>
      geometry.Holds (fifoAdvanceWrite fifo result.count)
        (queue ++ call.batch.take result.count)

def Frame.Fits (main : Role) (fifo : HydraFifo) (queue : List geometry.Element)
    (frame : Frame geometry) : Prop :=
  frame.call.role = main ∧
    match main with
    | .consumer => frame.ReaderFits fifo queue
    | .producer => frame.WriterFits fifo queue

/-- A write in between only adds elements behind those that an old write index shows. -/
theorem ReaderFits.written {frame : Frame geometry} (fits : frame.ReaderFits fifo queue)
    {after : HydraFifo} (rdIdx : after.rdIdx = fifo.rdIdx) (size : after.size = fifo.size)
    (more : List geometry.Element) : frame.ReaderFits after (queue ++ more) := by
  cases frame with
  | entered call => trivial
  | rdLoaded call loadedRd => exact fits.trans rdIdx.symm
  | loaded call loadedRd loadedWr =>
      obtain ⟨isRd, visible, within, isWr⟩ := fits
      refine ⟨isRd.trans rdIdx.symm, visible, ?_, ?_⟩
      · rw [List.length_append]
        exact within.trans (Nat.le_add_right _ _)
      · rw [rdIdx, size]
        exact isWr
  | copied call result =>
      obtain ⟨enough, shown⟩ := fits
      constructor
      · rw [List.length_append]
        exact enough.trans (Nat.le_add_right _ _)
      · rw [List.take_append_of_le_length enough]
        exact shown

theorem StaleRead.read {rdIdx : Nat} (stale : geometry.StaleRead fifo queue rdIdx)
    (small : fifo.size < 65536) {count : Nat} (enough : count ≤ queue.length) :
    geometry.StaleRead (fifoAdvanceRead fifo count) (queue.drop count) rdIdx := by
  obtain ⟨gone, holds, isRd⟩ := stale
  have positive := Nat.lt_of_le_of_lt (Nat.zero_le _) holds.rdIdx_lt
  refine ⟨gone ++ queue.take count, ?_, ?_⟩
  · rw [List.append_assoc, List.take_append_drop]
    exact holds
  · have inside : (fifo.rdIdx + count) % fifo.size < fifo.size := Nat.mod_lt _ positive
    have advanced : (fifoAdvanceRead fifo count).rdIdx = (fifo.rdIdx + count) % fifo.size :=
      u16_of_lt (inside.trans small)
    rw [advanced, isRd, Nat.mod_add_mod, List.length_append, List.length_take,
      Nat.min_eq_left enough, Nat.add_assoc]
    rfl

/-- A read in between only makes room, and an old read index shows less of it. -/
theorem WriterFits.read {frame : Frame geometry} (fits : frame.WriterFits fifo queue)
    (small : fifo.size < 65536) {count : Nat} (enough : count ≤ queue.length) :
    frame.WriterFits (fifoAdvanceRead fifo count) (queue.drop count) := by
  cases frame with
  | entered call => trivial
  | rdLoaded call rdIdx => exact StaleRead.read fits small enough
  | loaded call rdIdx wrIdx => exact ⟨StaleRead.read fits.1 small enough, fits.2⟩
  | copied call result =>
      have within : count ≤ (queue ++ call.batch.take result.count).length := by
        rw [List.length_append]
        exact enough.trans (Nat.le_add_right _ _)
      have holds := Holds.advanceRead fits within
      rw [List.drop_append_of_le_length enough] at holds
      exact holds

end

/-! ## Runs -/

namespace System

variable {main : Role} {system : System geometry}

structure Sound (main : Role) (system : System geometry) : Prop where
  delivers : system.Delivers
  fits : ∀ frame ∈ system.frame, frame.Fits main system.fifo system.inFlight

/-- A call of the consumer returns. -/
theorem returned_consumer (delivers : system.Delivers) {call : Call geometry}
    (reads : call.role = .consumer) {count : Nat} (enough : count ≤ system.inFlight.length)
    (frame : Option (Frame geometry)) :
    let after := ({ system with
      fifo := call.store system.fifo count
      frame := frame } : System geometry).returned
        ⟨count, bytes (system.inFlight.take count)⟩ call
    after.Delivers ∧ after.frame = frame ∧
      ∀ other : Frame geometry, other.WriterFits system.fifo system.inFlight →
        other.WriterFits after.fifo after.inFlight := by
  have advanced := delivers.kept.advanceRead enough
  have rest : system.written.drop (system.readCount + count) = system.inFlight.drop count :=
    List.drop_drop.symm
  have read := (delivers.read enough advanced).moved (by rw [inFlight, rest]; exact advanced) frame
  have others (other : Frame geometry) (fits : other.WriterFits system.fifo system.inFlight) :
      other.WriterFits (fifoAdvanceRead system.fifo count)
        (system.written.drop (system.readCount + count)) := by
    rw [rest]
    exact WriterFits.read fits delivers.kept.1.sizeFits enough
  cases call with
  | write batch => exact nomatch reads
  | read => exact ⟨read, rfl, others⟩
  | readN n => exact ⟨read, rfl, others⟩
  | peekN n => exact ⟨(delivers.peek enough).moved delivers.kept frame, rfl, fun _ fits => fits⟩

/-- A call of the producer returns. -/
theorem returned_producer (delivers : system.Delivers) {fifo : HydraFifo}
    {batch : List geometry.Element} {count : Nat}
    (holds : geometry.Holds fifo (system.inFlight ++ batch.take count))
    (frame : Option (Frame geometry)) (shown : List U8) :
    let after := ({ system with fifo := fifo, frame := frame } : System geometry).returned
      ⟨count, shown⟩ (.write batch)
    after.Delivers ∧ after.inFlight = system.inFlight ++ batch.take count := by
  have kept : (system.written ++ batch.take count).drop system.readCount =
      system.inFlight ++ batch.take count := List.drop_append_of_le_length delivers.read_le
  exact ⟨(delivers.written holds).moved (by rw [inFlight, kept]; exact holds) frame, kept⟩

/-- A complete call of the other side. -/
theorem sound_interrupt (sound : system.Sound main) {call : Call geometry}
    (other : call.role ≠ main) :
    ∃ next, step main system (.interrupt call) = some next ∧ next.Sound main := by
  have holds := sound.delivers.kept
  have stepped : step main system (.interrupt call) = (do
      let (fifo, result) ← call.whole system.fifo
      return { system with fifo := fifo }.returned result call) := if_pos other
  rw [stepped]
  cases isRole : call.role with
  | consumer =>
      obtain ⟨count, enough, copied⟩ := copy_consumer holds (Nat.le_refl _) isRole
      rw [← holds.wrIdx_eq] at copied
      obtain ⟨delivers, sameFrame, fits⟩ :=
        returned_consumer sound.delivers isRole enough system.frame
      refine ⟨_, by simp only [Call.whole, copied]; rfl, delivers, fun frame member => ?_⟩
      obtain ⟨frameRole, frameFits⟩ := sound.fits frame (sameFrame ▸ member)
      cases main with
      | consumer => exact absurd isRole other
      | producer => exact ⟨frameRole, fits frame frameFits⟩
  | producer =>
      obtain ⟨batch, rfl⟩ := call.eq_write isRole
      obtain ⟨count, buffer, copied, _, stored⟩ := copy_producer holds holds.staleRead batch
      obtain ⟨delivers, kept⟩ := returned_producer sound.delivers stored system.frame []
      refine ⟨_, by simp only [Call.whole, copied]; rfl, delivers, fun frame member => ?_⟩
      obtain ⟨frameRole, frameFits⟩ := sound.fits frame member
      cases main with
      | producer => exact absurd isRole other
      | consumer =>
          refine ⟨frameRole, ?_⟩
          have fits : frame.ReaderFits _ (system.inFlight ++ batch.take count) :=
            ReaderFits.written frameFits rfl rfl _
          rw [← kept] at fits
          exact fits

/-- The next step of the interrupted call. -/
theorem sound_advance (sound : system.Sound main) {frame : Frame geometry}
    (isFrame : system.frame = some frame) :
    ∃ next, system.advance frame = some next ∧ next.Sound main := by
  have holds := sound.delivers.kept
  have moved (fifo : HydraFifo) (kept : geometry.Holds fifo system.inFlight)
      (frame : Frame geometry) (fits : frame.Fits main fifo system.inFlight) :
      ({ system with fifo := fifo, frame := some frame } : System geometry).Sound main := by
    refine ⟨sound.delivers.moved kept _, fun other member => ?_⟩
    obtain rfl := Option.some.inj member
    exact fits
  obtain ⟨role, fits⟩ := sound.fits frame isFrame
  cases frame with
  | entered call =>
      refine ⟨_, rfl, moved system.fifo holds _ ⟨role, ?_⟩⟩
      cases main with
      | consumer => rfl
      | producer => exact holds.staleRead
  | rdLoaded call rdIdx =>
      refine ⟨_, rfl, moved system.fifo holds _ ⟨role, ?_⟩⟩
      cases main with
      | consumer => exact ⟨fits, _, Nat.le_refl _, holds.wrIdx_eq⟩
      | producer => exact ⟨fits, rfl⟩
  | loaded call rdIdx wrIdx =>
      have callRole : call.role = main := role
      cases main with
      | consumer =>
          obtain ⟨rfl, visible, within, rfl⟩ := fits
          obtain ⟨count, enough, copied⟩ := copy_consumer holds within callRole
          refine ⟨_, ?_, moved system.fifo holds
            (.copied call ⟨count, bytes (system.inFlight.take count)⟩) ⟨role, enough, rfl⟩⟩
          simp only [advance, copied]
          rfl
      | producer =>
          obtain ⟨stale, rfl⟩ := fits
          obtain ⟨batch, rfl⟩ := call.eq_write callRole
          obtain ⟨count, buffer, copied, before, stored⟩ := copy_producer holds stale batch
          refine ⟨_, ?_, moved { system.fifo with buffer := buffer } before
            (.copied (.write batch) ⟨count, []⟩) ⟨role, stored⟩⟩
          simp only [advance, copied]
          rfl
  | copied call result =>
      have callRole : call.role = main := role
      cases main with
      | consumer =>
          obtain ⟨count, shown⟩ := result
          obtain ⟨enough, isShown⟩ := fits
          simp only [] at enough isShown
          subst isShown
          obtain ⟨delivers, noFrame, _⟩ := returned_consumer sound.delivers callRole enough none
          exact ⟨_, rfl, delivers, fun frame member => nomatch noFrame ▸ member⟩
      | producer =>
          obtain ⟨batch, rfl⟩ := call.eq_write callRole
          obtain ⟨delivers, _⟩ := returned_producer sound.delivers fits none result.shown
          exact ⟨_, rfl, delivers, fun frame member => nomatch member⟩

theorem sound_step (sound : system.Sound main) (act : Act geometry) :
    ∃ next, step main system act = some next ∧ next.Sound main := by
  cases act with
  | enter call =>
      by_cases allowed : call.role = main ∧ system.frame.isNone
      · refine ⟨_, if_pos allowed, sound.delivers.moved sound.delivers.kept _,
          fun frame member => ?_⟩
        obtain rfl := Option.some.inj member
        refine ⟨allowed.1, ?_⟩
        cases main with
        | producer => trivial
        | consumer => trivial
      · exact ⟨system, if_neg allowed, sound⟩
  | advance =>
      change ∃ next, (match system.frame with
        | none => some system
        | some frame => system.advance frame) = some next ∧ next.Sound main
      cases isFrame : system.frame with
      | none => exact ⟨system, rfl, sound⟩
      | some frame => exact sound_advance sound isFrame
  | interrupt call =>
      by_cases other : call.role ≠ main
      · exact sound_interrupt sound other
      · exact ⟨system, if_neg other, sound⟩

end System

end Geometry

open WchCh56x.Memory.Geometry

/-- Without a critical section the FIFO delivers what was written, in order, whichever side is
interrupted and wherever the other one comes in between. -/
theorem unprotected_fifo_delivers (geometry : Geometry) (main : Role)
    (acts : List (Act geometry)) :
    Runs.Always (System.step main) System.Delivers (System.initial geometry) acts := by
  have start : (System.initial geometry).Sound main :=
    ⟨System.Delivers.initial geometry, fun frame member => nomatch member⟩
  have sound := Runs.always_of_keeps (fun _ act sound => System.sound_step sound act) start acts
  exact sound.imp fun _ sound => sound.delivers

/-- A read comes between the load of the indices and the store of a write, and finds nothing. -/
theorem read_during_a_write :
    Runs.Always (System.step .producer) System.Delivers (System.initial twoPairs)
      [.enter (.write [pair 1 2]), .advance, .interrupt .read, .advance, .advance,
        .interrupt .read] :=
  unprotected_fifo_delivers twoPairs .producer _

end WchCh56x.Memory
