import WchCh56x.CTypes
import WchCh56x.Support.RingBuffer

/-!
# The FIFO of `memory/fifo.h`

The buffer is the byte array behind the `hydra_fifo_t`.  The read index is one
before the next readable slot and the write index is the last written slot, so
one slot is always unused.  `memcpy` and `memset` on the buffer are checked
against its length: `none` is an access outside the array.
-/

namespace WchCh56x.Memory

open Support.RingBuffer

structure HydraFifo where
  buffer : List U8
  size : Nat
  typeSize : Nat
  rdIdx : Nat
  wrIdx : Nat
  deriving DecidableEq, Repr

/-- `HYDRA_FIFO_DEF(_name, _type, _size)`; a global array starts zeroed. -/
def hydraFifoDef (size typeSize : Nat) : HydraFifo where
  buffer := List.replicate ((size + 1) * typeSize) 0
  size := u16 (size + 1)
  typeSize := typeSize
  rdIdx := 0
  wrIdx := 0

def memcpyFrom (array : List U8) (offset bytes : Nat) : Option (List U8) :=
  if offset + bytes ≤ array.length then some ((array.drop offset).take bytes) else none

/-- `memcpy` (or `memset`) of `data` into an array. -/
def memcpyInto (array : List U8) (offset : Nat) (data : List U8) : Option (List U8) :=
  if offset + data.length ≤ array.length then some (splice array offset data) else none

def fifoGetCount (rdIdx wrIdx size : Nat) : Nat :=
  if wrIdx ≥ rdIdx then u16 (wrIdx - rdIdx) else u16 (size - rdIdx + wrIdx)

def fifoGetFreeSpace (rdIdx wrIdx size : Nat) : Nat :=
  if rdIdx > wrIdx then u16 (rdIdx - wrIdx - 1) else u16 (size - wrIdx + rdIdx - 1)

/-- `_fifo_read_n` on a snapshot of the two indices: the count it returns and
the bytes it copies to the caller's buffer. -/
def fifoReadNAt (fifo : HydraFifo) (n rdIdx wrIdx : Nat) : Option (Nat × List U8) :=
  if rdIdx = wrIdx ∨ n > fifoGetCount rdIdx wrIdx fifo.size then
    some (0, [])
  else if wrIdx > rdIdx then do
    let linearCount := u16 (min n (wrIdx - rdIdx))
    let linearBytes := u16 (linearCount * fifo.typeSize)
    let linear ← memcpyFrom fifo.buffer ((rdIdx + 1) * fifo.typeSize) linearBytes
    return (linearCount, linear)
  else do
    let linearCount := u16 (min n (fifo.size - 1 - rdIdx))
    let linearBytes := u16 (linearCount * fifo.typeSize)
    let linear ← memcpyFrom fifo.buffer ((rdIdx + 1) * fifo.typeSize) linearBytes
    if n > linearCount then
      let wrapCount := u16 (min (wrIdx + 1) (n - linearCount))
      let wrapBytes := u16 (wrapCount * fifo.typeSize)
      let wrap ← memcpyFrom fifo.buffer 0 wrapBytes
      return (u16 (linearCount + wrapCount), linear ++ wrap)
    else
      return (linearCount, linear)

/-- `_fifo_write_n` on a snapshot of the two indices: the count it returns and
the buffer after its copies from the caller's buffer `source`. -/
def fifoWriteNAt (fifo : HydraFifo) (source : List U8) (n rdIdx wrIdx : Nat) :
    Option (Nat × List U8) :=
  let freeSpace := fifoGetFreeSpace rdIdx wrIdx fifo.size
  if freeSpace < n then
    some (0, fifo.buffer)
  else if rdIdx > wrIdx then do
    let linearCount := u16 (min freeSpace n)
    let linearBytes := u16 (linearCount * fifo.typeSize)
    let linear ← memcpyFrom source 0 linearBytes
    let buffer ← memcpyInto fifo.buffer ((wrIdx + 1) * fifo.typeSize) linear
    return (linearCount, buffer)
  else do
    let linearCount := u16 (min (fifo.size - 1 - wrIdx) n)
    let linearBytes := u16 (linearCount * fifo.typeSize)
    let linear ← memcpyFrom source 0 linearBytes
    let buffer ← memcpyInto fifo.buffer ((wrIdx + 1) * fifo.typeSize) linear
    if n > linearCount then
      let wrapCount := u16 (min rdIdx (n - linearCount))
      let wrapBytes := u16 (wrapCount * fifo.typeSize)
      let wrap ← memcpyFrom source linearBytes wrapBytes
      let buffer ← memcpyInto buffer 0 wrap
      return (u16 (linearCount + wrapCount), buffer)
    else
      return (linearCount, buffer)

def fifoAdvanceRead (fifo : HydraFifo) (offset : Nat) : HydraFifo :=
  { fifo with rdIdx := u16 ((fifo.rdIdx + offset) % fifo.size) }

def fifoAdvanceWrite (fifo : HydraFifo) (offset : Nat) : HydraFifo :=
  { fifo with wrIdx := u16 ((fifo.wrIdx + offset) % fifo.size) }

def fifoReadN (fifo : HydraFifo) (n : Nat) : Option (Nat × List U8 × HydraFifo) := do
  let (countRead, bytes) ← fifoReadNAt fifo n fifo.rdIdx fifo.wrIdx
  return (countRead, bytes, fifoAdvanceRead fifo countRead)

def fifoRead (fifo : HydraFifo) : Option (Nat × List U8 × HydraFifo) :=
  fifoReadN fifo (fifoGetCount fifo.rdIdx fifo.wrIdx fifo.size)

def fifoPeekN (fifo : HydraFifo) (n : Nat) : Option (Nat × List U8) :=
  fifoReadNAt fifo n fifo.rdIdx fifo.wrIdx

def fifoWrite (fifo : HydraFifo) (source : List U8) (n : Nat) : Option (Nat × HydraFifo) := do
  let (countWritten, buffer) ← fifoWriteNAt fifo source n fifo.rdIdx fifo.wrIdx
  return (countWritten, fifoAdvanceWrite { fifo with buffer := buffer } countWritten)

def fifoCount (fifo : HydraFifo) : Nat :=
  fifoGetCount fifo.rdIdx fifo.wrIdx fifo.size

def fifoClean (fifo : HydraFifo) : Option HydraFifo := do
  let buffer ← memcpyInto fifo.buffer 0 (List.replicate (fifo.size * fifo.typeSize) 0)
  return { fifo with rdIdx := 0, wrIdx := 0, buffer := buffer }

end WchCh56x.Memory
