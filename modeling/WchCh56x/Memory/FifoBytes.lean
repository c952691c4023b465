import WchCh56x.Memory.FifoCopies
import WchCh56x.Support.Runs

/-!
# The byte counts of the FIFO's transfers

A call can return more elements than it has copied, because the lengths of its copies have
sixteen bits.  Its indices stay in the array all the same.
-/

namespace WchCh56x.Memory

open Support.RingBuffer
open Support.Runs

/-! ## Calls -/

/-- A call on a FIFO of elements of `typeSize` bytes; a writer's buffer holds the elements. -/
inductive FifoCall (typeSize : Nat) where
  | write (source : List U8) (n : Nat) (enough : n * typeSize ≤ source.length)
  | read
  | readN (n : Nat)
  | peekN (n : Nat)
  | clean

namespace FifoCall

variable {typeSize : Nat}

def run (fifo : HydraFifo) : FifoCall typeSize → Option (Nat × HydraFifo)
  | write source n _ => fifoWrite fifo source n
  | read => (fifoRead fifo).map fun (countRead, _, after) => (countRead, after)
  | readN n => (fifoReadN fifo n).map fun (countRead, _, after) => (countRead, after)
  | peekN n => (fifoPeekN fifo n).map fun (countRead, _) => (countRead, fifo)
  | clean => (fifoClean fifo).map fun after => (0, after)

def step (fifo : HydraFifo) (call : FifoCall typeSize) : Option HydraFifo :=
  (call.run fifo).map Prod.snd

def copies (fifo : HydraFifo) : FifoCall typeSize → List FifoCopy
  | write _ n _ => fifoWriteNCopies fifo n fifo.rdIdx fifo.wrIdx
  | read => fifoReadNCopies fifo (fifoCount fifo) fifo.rdIdx fifo.wrIdx
  | readN n | peekN n => fifoReadNCopies fifo n fifo.rdIdx fifo.wrIdx
  | clean => []

/-- A call that returns a count has copied every byte of that many elements. -/
def MovesAllBytes (fifo : HydraFifo) (call : FifoCall typeSize) : Prop :=
  ∀ returned after, call.run fifo = some (returned, after) → 0 < returned →
    copiedBytes (call.copies fifo) = returned * fifo.typeSize ∧
      ∀ copy ∈ call.copies fifo, copy.bytes = copy.count * fifo.typeSize

/-- Neither the part of the transfer up to the end of the array nor the part from its start has
64 KiB. -/
def BytesFit (fifo : HydraFifo) : FifoCall typeSize → Prop
  | write _ n _ =>
      n ≤ fifoGetFreeSpace fifo.rdIdx fifo.wrIdx fifo.size → PartsFit fifo fifo.wrIdx n
  | read => PartsFit fifo fifo.rdIdx (fifoCount fifo)
  | readN n | peekN n => n ≤ fifoCount fifo → PartsFit fifo fifo.rdIdx n
  | clean => True

instance (fifo : HydraFifo) : DecidablePred (@BytesFit typeSize fifo)
  | write _ n _ => inferInstanceAs (Decidable
      (n ≤ fifoGetFreeSpace fifo.rdIdx fifo.wrIdx fifo.size → PartsFit fifo fifo.wrIdx n))
  | read => inferInstanceAs (Decidable (PartsFit fifo fifo.rdIdx (fifoCount fifo)))
  | readN n => inferInstanceAs (Decidable (n ≤ fifoCount fifo → PartsFit fifo fifo.rdIdx n))
  | peekN n => inferInstanceAs (Decidable (n ≤ fifoCount fifo → PartsFit fifo fifo.rdIdx n))
  | clean => isTrue trivial

variable {fifo : HydraFifo} {index n : Nat} {call : FifoCall typeSize}

/-- A served call that copies `n` elements in two parts moves their bytes if the parts fit. -/
theorem movesAllBytes_iff_of_run {served : Prop} [Decidable served] {after : HydraFifo}
    (ran : call.run fifo = some (if served then n else 0, after))
    (copied : served → 0 < n → call.copies fifo = slotCopies fifo index n) :
    call.MovesAllBytes fifo ↔ (served → PartsFit fifo index n) := by
  unfold MovesAllBytes
  rw [ran]
  constructor
  · intro moves isServed
    rcases Nat.eq_zero_or_pos n with rfl | positive
    · exact partsFit_zero
    · have whole := moves n after (by rw [if_pos isServed]) positive
      rw [copied isServed positive] at whole
      exact slotCopies_whole_iff.mp whole
  · intro fits returned final same positive
    obtain ⟨rfl, rfl⟩ := Prod.mk.inj (Option.some.inj same)
    by_cases isServed : served
    · rw [if_pos isServed] at positive ⊢
      rw [copied isServed positive]
      exact slotCopies_whole_iff.mpr (fits isServed)
    · rw [if_neg isServed] at positive
      exact absurd positive (Nat.lt_irrefl 0)

theorem copies_readN (inRange : fifo.InRange) (served : n ≤ fifoCount fifo) (positive : 0 < n) :
    fifoReadNCopies fifo n fifo.rdIdx fifo.wrIdx = slotCopies fifo fifo.rdIdx n := by
  refine inRange.readNCopies served fun empty => ?_
  have none : fifoCount fifo = 0 := by
    simp [fifoCount, fifoGetCount, empty, u16]
  omega

/-- The FIFO after a call: its indices are in the array, of elements of the same size. -/
def Keeps (fifo after : HydraFifo) : Prop :=
  after.InRange ∧ after.typeSize = fifo.typeSize

theorem run_readN (inRange : fifo.InRange) (n : Nat) :
    ∃ after, (readN n : FifoCall typeSize).run fifo =
        some (if n ≤ fifoCount fifo then n else 0, after) ∧ Keeps fifo after := by
  obtain ⟨bytes, read⟩ := inRange.readNAt n
  have ran : (readN n : FifoCall typeSize).run fifo =
      some (if n ≤ fifoCount fifo then n else 0,
        fifoAdvanceRead fifo (if n ≤ fifoCount fifo then n else 0)) := by
    dsimp only [run]
    rw [fifoReadN, read]
    rfl
  exact ⟨_, ran, inRange.advanceRead _, rfl⟩

theorem run_peekN (inRange : fifo.InRange) (n : Nat) :
    (peekN n : FifoCall typeSize).run fifo = some (if n ≤ fifoCount fifo then n else 0, fifo) := by
  obtain ⟨bytes, read⟩ := inRange.readNAt n
  dsimp only [run]
  rw [fifoPeekN, read]
  rfl

theorem run_write (inRange : fifo.InRange) (width : fifo.typeSize = typeSize) (source : List U8)
    (n : Nat) (enough : n * typeSize ≤ source.length) :
    ∃ after, (write source n enough).run fifo =
        some (if n ≤ fifoGetFreeSpace fifo.rdIdx fifo.wrIdx fifo.size then n else 0, after) ∧
      Keeps fifo after := by
  obtain ⟨buffer, written, length⟩ := inRange.writeNAt (width ▸ enough)
  have ran : (write source n enough).run fifo =
      some (if n ≤ fifoGetFreeSpace fifo.rdIdx fifo.wrIdx fifo.size then n else 0,
        fifoAdvanceWrite { fifo with buffer := buffer }
          (if n ≤ fifoGetFreeSpace fifo.rdIdx fifo.wrIdx fifo.size then n else 0)) := by
    dsimp only [run]
    rw [fifoWrite, written]
    rfl
  exact ⟨_, ran, inRange.advanceWrite length _, rfl⟩

theorem run_clean (inRange : fifo.InRange) :
    ∃ after, (clean : FifoCall typeSize).run fifo = some (0, after) ∧ Keeps fifo after := by
  obtain ⟨fits, length, rd, wr⟩ := inRange
  have zeroes : 0 + (List.replicate (fifo.size * fifo.typeSize) (0 : U8)).length ≤
      fifo.buffer.length := by simp [length]
  dsimp only [run]
  rw [fifoClean, memcpyInto, if_pos zeroes]
  exact ⟨_, rfl, ⟨fits, (splice_length zeroes).trans length, Nat.zero_lt_of_lt rd,
    Nat.zero_lt_of_lt rd⟩, rfl⟩

/-- Every call ends with the indices in the array, however many bytes it has copied. -/
theorem run_keeps (inRange : fifo.InRange) (width : fifo.typeSize = typeSize)
    (call : FifoCall typeSize) :
    ∃ returned after, call.run fifo = some (returned, after) ∧ Keeps fifo after := by
  cases call with
  | write source n enough => exact ⟨_, run_write inRange width source n enough⟩
  | read => exact ⟨_, @run_readN typeSize fifo inRange (fifoCount fifo)⟩
  | readN n => exact ⟨_, run_readN inRange n⟩
  | peekN n => exact ⟨_, fifo, run_peekN inRange n, inRange, rfl⟩
  | clean => exact ⟨_, run_clean inRange⟩

/-- A call moves all bytes exactly if its parts fit. -/
theorem movesAllBytes_iff (inRange : fifo.InRange) (width : fifo.typeSize = typeSize)
    (call : FifoCall typeSize) : call.MovesAllBytes fifo ↔ call.BytesFit fifo := by
  cases call with
  | write source n enough =>
      obtain ⟨after, ran, _⟩ := run_write inRange width source n enough
      exact movesAllBytes_iff_of_run ran fun served _ => inRange.writeNCopies served
  | read =>
      obtain ⟨after, ran, _⟩ := @run_readN typeSize fifo inRange (fifoCount fifo)
      have whole : (read : FifoCall typeSize).MovesAllBytes fifo ↔
          (fifoCount fifo ≤ fifoCount fifo → PartsFit fifo fifo.rdIdx (fifoCount fifo)) :=
        movesAllBytes_iff_of_run ran (copies_readN inRange)
      exact whole.trans (forall_prop_of_true le_rfl)
  | readN n =>
      obtain ⟨after, ran, _⟩ := @run_readN typeSize fifo inRange n
      exact movesAllBytes_iff_of_run ran (copies_readN inRange)
  | peekN n =>
      exact movesAllBytes_iff_of_run (run_peekN inRange n) (copies_readN inRange)
  | clean =>
      obtain ⟨_, ran, _⟩ := @run_clean typeSize fifo inRange
      refine iff_of_true (fun returned after other positive => ?_) trivial
      obtain ⟨rfl, _⟩ := Prod.mk.inj (Option.some.inj (ran.symm.trans other))
      exact absurd positive (Nat.lt_irrefl 0)

/-! ## Runs -/

structure Invariant (typeSize : Nat) (fifo : HydraFifo) : Prop where
  inRange : fifo.InRange
  width : fifo.typeSize = typeSize

theorem invariant_start {capacity : Nat} (capacity_le : capacity ≤ 65534) (typeSize : Nat) :
    Invariant typeSize (hydraFifoDef capacity typeSize) := by
  have size : (hydraFifoDef capacity typeSize).size = capacity + 1 := u16_of_lt (by omega)
  refine ⟨⟨by omega, ?_, ?_, ?_⟩, rfl⟩
  · rw [size]
    exact List.length_replicate
  · rw [size]
    exact Nat.succ_pos capacity
  · rw [size]
    exact Nat.succ_pos capacity

theorem Invariant.step (invariant : Invariant typeSize fifo) {next : HydraFifo}
    (stepped : step fifo call = some next) : Invariant typeSize next := by
  obtain ⟨_, after, ran, inRange, width⟩ := run_keeps invariant.inRange invariant.width call
  obtain rfl : after = next := by
    rw [FifoCall.step, ran] at stepped
    exact Option.some.inj stepped
  exact ⟨inRange, width.trans invariant.width⟩

/-- In every run of calls on a FIFO, the calls copy all bytes of the elements they return exactly
if no part of a transfer has 64 KiB. -/
theorem moves_all_bytes_iff {capacity : Nat} (capacity_le : capacity ≤ 65534) (typeSize : Nat)
    (calls : List (FifoCall typeSize)) :
    EveryStep step MovesAllBytes (hydraFifoDef capacity typeSize) calls ↔
      EveryStep step BytesFit (hydraFifoDef capacity typeSize) calls :=
  @everyStep_iff _ _ step (Invariant typeSize) (fun _ _ => True) _ _
    (fun _ call invariant _ => movesAllBytes_iff invariant.inRange invariant.width call)
    (fun _ _ _ invariant _ _ stepped => invariant.step stepped) _ _
    (invariant_start capacity_le typeSize) (everyStep_of_forall (fun _ _ _ => trivial) _)

def wrappingRun : List (FifoCall 2) :=
  [write [1, 2, 3, 4, 5, 6] 3 (by decide), readN 2, write [7, 8, 9, 10, 11, 12] 3 (by decide),
    peekN 4, read, clean]

theorem wrappingRun_moves :
    EveryStep step MovesAllBytes (hydraFifoDef 4 2) wrappingRun :=
  (moves_all_bytes_iff (by decide) 2 wrappingRun).mpr (by decide)

/-- 256 elements of 256 bytes: the write takes them all and copies nothing. -/
def longBatch : FifoCall 256 :=
  write (List.replicate 65536 1#8) 256 (by rw [List.length_replicate])

theorem longBatch_lost :
    longBatch.copies (hydraFifoDef 256 256) = [⟨256, 0, 256, 0⟩] ∧
      (∃ after, longBatch.run (hydraFifoDef 256 256) = some (256, after)) ∧
        ¬ EveryStep step MovesAllBytes (hydraFifoDef 256 256) [longBatch] := by
  have start := @invariant_start 256 (by decide) 256
  refine ⟨by decide, ?_, fun every => ?_⟩
  · obtain ⟨after, ran, _⟩ := run_write start.inRange start.width (List.replicate 65536 1#8) 256
      (by rw [List.length_replicate])
    exact ⟨after, ran⟩
  · exact absurd ((movesAllBytes_iff start.inRange start.width longBatch).mp every.1) (by decide)

end FifoCall

end WchCh56x.Memory
