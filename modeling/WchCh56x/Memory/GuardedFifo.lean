import WchCh56x.Memory.FifoPreemption
import WchCh56x.Support.Preemption

/-!
# The FIFO with its critical sections

The main program and interrupt handlers of any depth write, read, peek and clean.
Each call goes on step by step, and interrupts come wherever they are enabled.
-/

namespace WchCh56x.Memory

open Support Support.Preemption

namespace Geometry

variable {geometry : Geometry}

/-- The operations of the header with a critical section. -/
inductive GuardedCall (geometry : Geometry) where
  | transfer (call : Call geometry)
  | clean

inductive GuardedFrame (geometry : Geometry) where
  | transfer (frame : Frame geometry)
  | clean
  | rdCleared
  | wrCleared

namespace GuardedCall

def request : GuardedCall geometry → BoundedQueue.Request geometry.Element
  | .transfer call => call.request
  | .clean => .clean

def start : GuardedCall geometry → GuardedFrame geometry
  | .transfer call => .transfer (.entered call)
  | .clean => .clean

def advance (fifo : HydraFifo) : GuardedFrame geometry →
    Option (HydraFifo × (GuardedFrame geometry ⊕ Nat × List U8))
  | .transfer (.entered call) => some (fifo, .inl (.transfer (.rdLoaded call fifo.rdIdx)))
  | .transfer (.rdLoaded call rdIdx) => some (fifo, .inl (.transfer (.loaded call rdIdx fifo.wrIdx)))
  | .transfer (.loaded call rdIdx wrIdx) => do
      let (fifo, result) ← call.copy fifo rdIdx wrIdx
      return (fifo, .inl (.transfer (.copied call result)))
  | .transfer (.copied call result) =>
      some (call.store fifo result.count, .inr (result.count, result.shown))
  | .clean => some ({ fifo with rdIdx := 0 }, .inl .rdCleared)
  | .rdCleared => some ({ fifo with wrIdx := 0 }, .inl .wrCleared)
  | .wrCleared => do
      let buffer ← memcpyInto fifo.buffer 0 (List.replicate (fifo.size * fifo.typeSize) 0)
      return ({ fifo with buffer := buffer }, .inr (0, []))

variable (geometry) in
def machine : Machine HydraFifo (GuardedCall geometry) (GuardedFrame geometry) (Nat × List U8) where
  start := start
  advance := advance

def At (before : HydraFifo) : GuardedCall geometry → HydraFifo → GuardedFrame geometry → Prop
  | .transfer call, fifo, .transfer (.entered other) => other = call ∧ fifo = before
  | .transfer call, fifo, .transfer (.rdLoaded other rdIdx) =>
      other = call ∧ fifo = before ∧ rdIdx = before.rdIdx
  | .transfer call, fifo, .transfer (.loaded other rdIdx wrIdx) =>
      other = call ∧ fifo = before ∧ rdIdx = before.rdIdx ∧ wrIdx = before.wrIdx
  | .transfer call, fifo, .transfer (.copied other result) =>
      other = call ∧ call.copy before before.rdIdx before.wrIdx = some (fifo, result)
  | .clean, fifo, .clean => fifo = before
  | .clean, fifo, .rdCleared => fifo = { before with rdIdx := 0 }
  | .clean, fifo, .wrCleared => fifo = { before with rdIdx := 0, wrIdx := 0 }
  | _, _, _ => False

variable {before fifo : HydraFifo} {call : GuardedCall geometry} {frame : GuardedFrame geometry}

theorem at_of_within (within : Within (machine geometry) before call fifo frame) :
    call.At before fifo frame := by
  induction within with
  | start =>
      cases call with
      | transfer call => exact ⟨rfl, rfl⟩
      | clean => rfl
  | @step fifo after frame next _ advanced ih =>
      change advance fifo frame = some (after, .inl next) at advanced
      cases call with
      | clean =>
          cases frame with
          | transfer frame => exact ih.elim
          | clean =>
              obtain ⟨rfl, same⟩ := Prod.mk.inj (Option.some.inj advanced)
              obtain rfl := Sum.inl.inj same
              obtain rfl : fifo = before := ih
              rfl
          | rdCleared =>
              obtain ⟨rfl, same⟩ := Prod.mk.inj (Option.some.inj advanced)
              obtain rfl := Sum.inl.inj same
              obtain rfl : fifo = { before with rdIdx := 0 } := ih
              rfl
          | wrCleared =>
              obtain ⟨_, _, last⟩ := Option.bind_eq_some_iff.mp advanced
              cases (Prod.mk.inj (Option.some.inj last)).2
      | transfer call =>
          cases frame with
          | clean => exact ih.elim
          | rdCleared => exact ih.elim
          | wrCleared => exact ih.elim
          | transfer frame =>
              cases frame with
              | entered other =>
                  obtain ⟨rfl, rfl⟩ := ih
                  obtain ⟨rfl, same⟩ := Prod.mk.inj (Option.some.inj advanced)
                  obtain rfl := Sum.inl.inj same
                  exact ⟨rfl, rfl, rfl⟩
              | rdLoaded other rdIdx =>
                  obtain ⟨rfl, rfl, rfl⟩ := ih
                  obtain ⟨rfl, same⟩ := Prod.mk.inj (Option.some.inj advanced)
                  obtain rfl := Sum.inl.inj same
                  exact ⟨rfl, rfl, rfl, rfl⟩
              | loaded other rdIdx wrIdx =>
                  obtain ⟨rfl, rfl, rfl, rfl⟩ := ih
                  obtain ⟨⟨copied, result⟩, copy, last⟩ := Option.bind_eq_some_iff.mp advanced
                  obtain ⟨rfl, same⟩ := Prod.mk.inj (Option.some.inj last)
                  obtain rfl := Sum.inl.inj same
                  exact ⟨rfl, copy⟩
              | copied other result => cases (Prod.mk.inj (Option.some.inj advanced)).2

/-- The operation of the header without interruption. -/
theorem serve_of_returns {after : HydraFifo} {result : Nat × List U8}
    (returns : Returns (machine geometry) before call after result) :
    geometry.serve before call.request = some (result, after) := by
  obtain ⟨fifo, frame, within, advanced⟩ := returns
  have place := at_of_within within
  change advance fifo frame = some (after, .inr result) at advanced
  cases call with
  | clean =>
      cases frame with
      | transfer frame => exact place.elim
      | clean => cases (Prod.mk.inj (Option.some.inj advanced)).2
      | rdCleared => cases (Prod.mk.inj (Option.some.inj advanced)).2
      | wrCleared =>
          obtain rfl : fifo = { before with rdIdx := 0, wrIdx := 0 } := place
          obtain ⟨buffer, cleared, last⟩ := Option.bind_eq_some_iff.mp advanced
          obtain ⟨rfl, same⟩ := Prod.mk.inj (Option.some.inj last)
          obtain rfl := Sum.inr.inj same
          simp only [request, serve, fifoClean]
          rw [show memcpyInto before.buffer 0 _ = some buffer from cleared]
          rfl
  | transfer call =>
      cases frame with
      | clean => exact place.elim
      | rdCleared => exact place.elim
      | wrCleared => exact place.elim
      | transfer frame =>
          cases frame with
          | entered other => cases (Prod.mk.inj (Option.some.inj advanced)).2
          | rdLoaded other rdIdx => cases (Prod.mk.inj (Option.some.inj advanced)).2
          | loaded other rdIdx wrIdx =>
              obtain ⟨_, _, last⟩ := Option.bind_eq_some_iff.mp advanced
              cases (Prod.mk.inj (Option.some.inj last)).2
          | copied other counted =>
              obtain ⟨rfl, copied⟩ := place
              obtain ⟨rfl, same⟩ := Prod.mk.inj (Option.some.inj advanced)
              obtain rfl := Sum.inr.inj same
              rw [request, Call.serve_request, Call.whole, copied]
              rfl

/-- Where the FIFO holds a queue, a call goes on to its end. -/
theorem advances {queue : List geometry.Element} (holds : geometry.Holds before queue)
    (within : Within (machine geometry) before call fifo frame) :
    ∃ outcome, advance fifo frame = some outcome := by
  have place := at_of_within within
  obtain ⟨after, served, _⟩ := serve_step holds call.request
  cases call with
  | clean =>
      cases frame with
      | transfer frame => exact place.elim
      | clean => exact ⟨_, rfl⟩
      | rdCleared => exact ⟨_, rfl⟩
      | wrCleared =>
          obtain rfl : fifo = { before with rdIdx := 0, wrIdx := 0 } := place
          obtain ⟨cleaned, clean, _⟩ := Option.bind_eq_some_iff.mp served
          obtain ⟨buffer, cleared, _⟩ := Option.bind_eq_some_iff.mp clean
          exact ⟨_, Option.bind_eq_some_iff.mpr ⟨buffer, cleared, rfl⟩⟩
  | transfer call =>
      rw [request, Call.serve_request] at served
      obtain ⟨_, whole, _⟩ := Option.map_eq_some_iff.mp served
      obtain ⟨⟨copied, result⟩, copy, _⟩ := Option.bind_eq_some_iff.mp whole
      cases frame with
      | clean => exact place.elim
      | rdCleared => exact place.elim
      | wrCleared => exact place.elim
      | transfer frame =>
          cases frame with
          | entered other => exact ⟨_, rfl⟩
          | rdLoaded other rdIdx => exact ⟨_, rfl⟩
          | loaded other rdIdx wrIdx =>
              obtain ⟨rfl, rfl, rfl, rfl⟩ := place
              exact ⟨_, Option.bind_eq_some_iff.mpr ⟨_, copy, rfl⟩⟩
          | copied other counted => exact ⟨_, rfl⟩

end GuardedCall

def queueRun (calls : List (GuardedCall geometry × Nat × List U8)) :
    List (BoundedQueue.Reply geometry.Element) × List geometry.Element :=
  BoundedQueue.run geometry.capacity [] (calls.map fun call => call.1.request)

/-- The calls answered as the bounded queue does, and the FIFO holds what it holds. -/
def Answers (calls : List (GuardedCall geometry × Nat × List U8)) (fifo : HydraFifo) : Prop :=
  calls.map Prod.snd = (queueRun calls).1.map encode ∧ geometry.Holds fifo (queueRun calls).2

theorem answers_keeps :
    Keeps (GuardedCall.machine geometry) (fun _ _ => True) (@Answers geometry) where
  advances := fun _ _ _ _ _ answers _ within => GuardedCall.advances answers.2 within
  returns := by
    intro calls before call after result answers _ returns
    obtain ⟨next, served, holds⟩ := serve_step answers.2 call.request
    rw [GuardedCall.serve_of_returns returns] at served
    obtain ⟨rfl, rfl⟩ := Prod.mk.inj (Option.some.inj served)
    have run : queueRun (calls ++ [(call, encode
        (BoundedQueue.step geometry.capacity (queueRun calls).2 call.request).1)]) =
        ((queueRun calls).1 ++
            [(BoundedQueue.step geometry.capacity (queueRun calls).2 call.request).1],
          (BoundedQueue.step geometry.capacity (queueRun calls).2 call.request).2) := by
      unfold queueRun
      rw [List.map_append, BoundedQueue.run_append]
      rfl
    refine ⟨?_, run ▸ holds⟩
    rw [run, List.map_append, List.map_append, answers.1]
    rfl

/-- The calls that have returned answered as a bounded queue, one after the other, and interrupts
are disabled only inside a call; outside, the FIFO holds what the bounded queue holds. -/
structure Linearizes (core : Core HydraFifo (GuardedCall geometry) (GuardedFrame geometry)
    (Nat × List U8)) : Prop where
  answers : core.returned.map Prod.snd = (queueRun core.returned).1.map encode
  holds : core.Outside → geometry.Holds core.shared (queueRun core.returned).2
  enabled : core.critical.interruptsEnabled = true ↔ core.Outside

end Geometry

open WchCh56x.Memory.Geometry

/-- With its critical sections the FIFO has any number of producers and consumers: whatever calls
the main program and nested interrupt handlers make, and wherever interrupts come, the answers are
those of a bounded queue that is asked in the order in which the calls return. -/
theorem protected_fifo_linearizes (geometry : Geometry) (acts : List (Act (GuardedCall geometry))) :
    Runs.Always (Core.step (GuardedCall.machine geometry)) Linearizes
      (Core.initial (hydraFifoDef geometry.capacity geometry.typeSize)) acts := by
  have start : Answers [] (hydraFifoDef geometry.capacity geometry.typeSize) :=
    ⟨rfl, geometry.holds_initial⟩
  have admits : ∀ act ∈ acts, ∀ core : Core HydraFifo (GuardedCall geometry)
      (GuardedFrame geometry) (Nat × List U8), core.Admits (fun _ _ => True) act := by
    intro act _ core
    cases act with
    | call call => trivial
    | _ => trivial
  refine (always_atomic answers_keeps start (Runs.everyStep_of_forall admits _)).imp ?_
  rintro core ⟨before, answers, stands⟩
  exact ⟨answers.1, fun outside => stands.shared_eq outside ▸ answers.2, stands.enabled_iff⟩

/-- An interrupt that comes during a write waits for its end, and its handler reads what was
written. -/
theorem handler_reads_after_a_write :
    Runs.Always (Core.step (GuardedCall.machine twoPairs)) Linearizes
      (Core.initial (hydraFifoDef 2 2))
      [.call (.transfer (.write [pair 1 2])), .interrupt, .advance, .advance, .advance, .advance,
        .interrupt, .call (.transfer .read), .advance, .advance, .advance, .advance, .leave] :=
  protected_fifo_linearizes twoPairs _

end WchCh56x.Memory
