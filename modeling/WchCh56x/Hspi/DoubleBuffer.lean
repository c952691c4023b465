import WchCh56x.CTypes
import WchCh56x.Hspi.Scheduled
import WchCh56x.Support.Runs

/-!
# The double buffer of `hspi/hspi.c`

The hardware fills two receive buffers in turn, and the driver keeps a copy of
whose turn it is.  `hspi_init` arms the hardware at the first buffer and leaves the
copy as it is.
-/

namespace WchCh56x.Hspi.DoubleBuffer

open Support.Runs

/-! ## The driver -/

inductive CurrentDmaBuffer where
  | hspiDmaBuffer0 | hspiDmaBuffer1
  deriving DecidableEq, Repr

def CurrentDmaBuffer.other : CurrentDmaBuffer → CurrentDmaBuffer
  | hspiDmaBuffer0 => hspiDmaBuffer1
  | hspiDmaBuffer1 => hspiDmaBuffer0

inductive HspiType where
  | host | device
  deriving DecidableEq, Repr

/-- `HSPI_DATASIZE`, with the values that name no width. -/
inductive HspiDatasize where
  | bits8 | bits16 | bits32 | unknown
  deriving DecidableEq, Repr

structure RxBuffers where
  hspiRxBuffer0 : Nat
  hspiRxBuffer1 : Nat
  apart : hspiRxBuffer0 ≠ hspiRxBuffer1

def RxBuffers.ofTurn (buffers : RxBuffers) : CurrentDmaBuffer → Nat
  | .hspiDmaBuffer0 => buffers.hspiRxBuffer0
  | .hspiDmaBuffer1 => buffers.hspiRxBuffer1

theorem RxBuffers.ofTurn_injective (buffers : RxBuffers) {left right : CurrentDmaBuffer}
    (same : buffers.ofTurn left = buffers.ofTurn right) : left = right := by
  cases left with
  | hspiDmaBuffer0 =>
      cases right with
      | hspiDmaBuffer0 => rfl
      | hspiDmaBuffer1 => exact absurd same buffers.apart
  | hspiDmaBuffer1 =>
      cases right with
      | hspiDmaBuffer0 => exact absurd same.symm buffers.apart
      | hspiDmaBuffer1 => rfl

inductive HspiCall where
  | hspiRxCallback (buffer : Nat) (size customRegister : U16)
  | hspiErrCrcNumMismatchCallback
  deriving DecidableEq, Repr

/-- What `HSPI_DoubleDMA_Init` sets up, and the buffer of the next packet. -/
structure DoubleDma where
  type : HspiType
  datasize : HspiDatasize
  addr0 : Nat
  addr1 : Nat
  size : U16
  next : CurrentDmaBuffer
  deriving DecidableEq, Repr

structure HspiDriver where
  currentDmaBuffer : CurrentDmaBuffer
  dmaBuffer0 : Nat
  dmaBuffer1 : Nat
  /-- `R32_HSPI_UDF0` and `R32_HSPI_UDF1` -/
  udf : CurrentDmaBuffer → U32
  dma : Option DoubleDma

def HspiDriver.initial : HspiDriver where
  currentDmaBuffer := .hspiDmaBuffer0
  dmaBuffer0 := 0
  dmaBuffer1 := 0
  udf _ := 0#32
  dma := none

/-- `HSPI_DoubleDMA_Init`, which arms the hardware at buffer 0. -/
def doubleDmaInit (driver : HspiDriver) (type : HspiType) (datasize : HspiDatasize) (size : U16) :
    HspiDriver :=
  { driver with
    dma := some ⟨type, datasize, driver.dmaBuffer0, driver.dmaBuffer1, size, .hspiDmaBuffer0⟩ }

def hspiInit (buffers : RxBuffers) (driver : HspiDriver) (type : HspiType)
    (datasize : HspiDatasize) (size : U16) : HspiDriver :=
  let driver :=
    if type = .device then
      { driver with dmaBuffer0 := buffers.hspiRxBuffer0, dmaBuffer1 := buffers.hspiRxBuffer1 }
    else
      driver
  match datasize with
  | .bits8 | .bits16 | .bits32 => doubleDmaInit driver type datasize size
  | .unknown => driver

/-- The flags that `HSPI_IRQHandler` reads. -/
structure HspiFlags where
  tDone : Bool
  rDone : Bool
  crcErr : Bool
  numMis : Bool
  deriving DecidableEq, Repr

def rxCallbackWith (buffer : Nat) (udf : U32) : HspiCall :=
  .hspiRxCallback buffer ((udf &&& hspiSerdesTxSizeMask).setWidth 16)
    (((udf &&& ~~~hspiSerdesTxSizeMask) >>> 13).setWidth 16)

/-- `HSPI_IRQHandler` and the call into user code it makes. -/
def hspiIrqHandler (buffers : RxBuffers) (driver : HspiDriver) (flags : HspiFlags) :
    HspiDriver × Option HspiCall :=
  if flags.tDone then
    ({ driver with currentDmaBuffer := driver.currentDmaBuffer.other }, none)
  else if flags.rDone then
    if flags.crcErr = false ∧ flags.numMis = false then
      match driver.currentDmaBuffer with
      | .hspiDmaBuffer0 =>
          ({ driver with currentDmaBuffer := .hspiDmaBuffer1 },
            some (rxCallbackWith buffers.hspiRxBuffer0 (driver.udf .hspiDmaBuffer0)))
      | .hspiDmaBuffer1 =>
          ({ driver with currentDmaBuffer := .hspiDmaBuffer0 },
            some (rxCallbackWith buffers.hspiRxBuffer1 (driver.udf .hspiDmaBuffer1)))
    else
      (driver, some .hspiErrCrcNumMismatchCallback)
  else
    (driver, none)

/-! ## A receiving board -/

structure InitCall where
  datasize : HspiDatasize
  size : U16
  deriving DecidableEq, Repr

/-- What happens on the board; a callback may initialise the driver again. -/
inductive RxEvent where
  | init (call : InitCall)
  | good (udf : U32) (calls : List InitCall)
  | bad (crcErr numMis : Bool) (isError : (crcErr || numMis) = true) (udf : U32)
      (calls : List InitCall)

/-- The driver, and how many good packets came before the hardware was last armed and since. -/
structure Board where
  driver : HspiDriver
  before : Nat
  since : Nat

def DoubleDma.filled (dma : DoubleDma) : Nat :=
  match dma.next with
  | .hspiDmaBuffer0 => dma.addr0
  | .hspiDmaBuffer1 => dma.addr1

namespace Board

variable (buffers : RxBuffers)

def start : Board := ⟨.initial, 0, 0⟩

def init (board : Board) (call : InitCall) : Board :=
  let driver := hspiInit buffers board.driver .device call.datasize call.size
  if call.datasize = .unknown then
    { board with driver := driver }
  else
    { driver := driver, before := board.before + board.since, since := 0 }

/-- The hardware stores the header of a packet beside the buffer it fills. -/
def storeHeader (driver : HspiDriver) (dma : DoubleDma) (udf : U32) : HspiDriver :=
  { driver with udf := Function.update driver.udf dma.next udf }

/-- The hardware goes on to the other buffer after a packet without error. -/
def alternate (driver : HspiDriver) (dma : DoubleDma) : HspiDriver :=
  { driver with dma := some { dma with next := dma.next.other } }

def received (driver : HspiDriver) (dma : DoubleDma) (udf : U32) : HspiDriver :=
  alternate (storeHeader driver dma udf) dma

def goodFlags : HspiFlags := ⟨false, true, false, false⟩

/-- A board that is not armed receives nothing. -/
def step (board : Board) : RxEvent → Option Board
  | .init call => some (board.init buffers call)
  | .good udf calls =>
      match board.driver.dma with
      | none => some board
      | some dma =>
          let driver := (hspiIrqHandler buffers (received board.driver dma udf) goodFlags).1
          some (calls.foldl (init buffers) { board with driver := driver, since := board.since + 1 })
  | .bad crcErr numMis _ udf calls =>
      match board.driver.dma with
      | none => some board
      | some dma =>
          let driver := (hspiIrqHandler buffers (storeHeader board.driver dma udf)
            ⟨false, true, crcErr, numMis⟩).1
          some (calls.foldl (init buffers) { board with driver := driver })

/-- The receive callback gets the buffer that the hardware filled, with its header. -/
def DeliversFilled (board : Board) : RxEvent → Prop
  | .init _ => True
  | .good udf _ =>
      ∀ dma, board.driver.dma = some dma →
        (hspiIrqHandler buffers (received board.driver dma udf) goodFlags).2 =
          some (rxCallbackWith dma.filled udf)
  | .bad crcErr numMis _ udf _ =>
      ∀ dma, board.driver.dma = some dma →
        (hspiIrqHandler buffers (storeHeader board.driver dma udf)
          ⟨false, true, crcErr, numMis⟩).2 = some .hspiErrCrcNumMismatchCallback

/-- An even number of good packets came before the hardware was armed for this one. -/
def ArmedAfterEven (board : Board) : RxEvent → Prop
  | .good _ _ => board.driver.dma.isSome → Even board.before
  | .init _ | .bad _ _ _ _ _ => True

end Board

/-! ## Whose turn it is -/

def turn : Nat → CurrentDmaBuffer
  | 0 => .hspiDmaBuffer0
  | count + 1 => (turn count).other

theorem turn_eq (count : Nat) :
    turn count = if Even count then .hspiDmaBuffer0 else .hspiDmaBuffer1 := by
  induction count with
  | zero => rfl
  | succ count ih =>
      rw [turn, ih]
      by_cases even : Even count
      · rw [if_pos even, if_neg (Nat.even_add_one.not.mpr (not_not.mpr even))]
        rfl
      · rw [if_neg even, if_pos (Nat.even_add_one.mpr even)]
        rfl

theorem turn_eq_iff (left right : Nat) : turn left = turn right ↔ (Even left ↔ Even right) := by
  rw [turn_eq, turn_eq]
  by_cases leftEven : Even left
  · by_cases rightEven : Even right
    · simp [leftEven, rightEven]
    · simp [leftEven, rightEven]
  · by_cases rightEven : Even right
    · simp [leftEven, rightEven]
    · simp [leftEven, rightEven]

/-- The copy counts all good packets and the hardware those since it was armed. -/
structure Tracks (buffers : RxBuffers) (board : Board) : Prop where
  copy : board.driver.currentDmaBuffer = turn (board.before + board.since)
  hardware : ∀ dma, board.driver.dma = some dma →
    dma.next = turn board.since ∧ dma.addr0 = buffers.hspiRxBuffer0 ∧
      dma.addr1 = buffers.hspiRxBuffer1

variable {buffers : RxBuffers} {board : Board}

theorem tracks_start (buffers : RxBuffers) : Tracks buffers Board.start :=
  ⟨rfl, fun _ armed => nomatch armed⟩

theorem Tracks.same_turn_iff (tracks : Tracks buffers board) {dma : DoubleDma}
    (armed : board.driver.dma = some dma) :
    board.driver.currentDmaBuffer = dma.next ↔ Even board.before := by
  rw [tracks.copy, (tracks.hardware dma armed).1, turn_eq_iff, Nat.even_add]
  tauto

theorem Tracks.filled_eq (tracks : Tracks buffers board) {dma : DoubleDma}
    (armed : board.driver.dma = some dma) : dma.filled = buffers.ofTurn dma.next := by
  obtain ⟨_, addr0, addr1⟩ := tracks.hardware dma armed
  unfold DoubleDma.filled
  cases dma.next with
  | hspiDmaBuffer0 => exact addr0
  | hspiDmaBuffer1 => exact addr1

/-! ## One event -/

theorem Tracks.init (tracks : Tracks buffers board) (call : InitCall) :
    Tracks buffers (board.init buffers call) := by
  have armed {width : HspiDatasize} : Tracks buffers
      { driver := doubleDmaInit { board.driver with
          dmaBuffer0 := buffers.hspiRxBuffer0, dmaBuffer1 := buffers.hspiRxBuffer1 } .device width
            call.size
        before := board.before + board.since
        since := 0 } := by
    refine ⟨tracks.copy, fun dma isDma => ?_⟩
    obtain rfl := Option.some.inj isDma
    exact ⟨rfl, rfl, rfl⟩
  obtain ⟨datasize, size⟩ := call
  cases datasize with
  | bits8 => exact armed
  | bits16 => exact armed
  | bits32 => exact armed
  | unknown => exact ⟨tracks.copy, tracks.hardware⟩

theorem Tracks.inits (tracks : Tracks buffers board) (calls : List InitCall) :
    Tracks buffers (calls.foldl (Board.init buffers) board) := by
  induction calls generalizing board with
  | nil => exact tracks
  | cons call rest ih => exact ih (tracks.init call)

theorem irq_good (buffers : RxBuffers) (driver : HspiDriver) :
    (hspiIrqHandler buffers driver Board.goodFlags).1 =
      { driver with currentDmaBuffer := driver.currentDmaBuffer.other } := by
  unfold hspiIrqHandler
  cases current : driver.currentDmaBuffer with
  | hspiDmaBuffer0 => rfl
  | hspiDmaBuffer1 => rfl

theorem irq_bad (buffers : RxBuffers) (driver : HspiDriver) {crcErr numMis : Bool}
    (isError : (crcErr || numMis) = true) :
    hspiIrqHandler buffers driver ⟨false, true, crcErr, numMis⟩ =
      (driver, some .hspiErrCrcNumMismatchCallback) := by
  cases crcErr with
  | true => rfl
  | false =>
      cases numMis with
      | true => rfl
      | false => exact absurd isError Bool.false_ne_true

theorem Tracks.step (tracks : Tracks buffers board) {event : RxEvent} {next : Board}
    (stepped : board.step buffers event = some next) : Tracks buffers next := by
  cases event with
  | init call =>
      obtain rfl := Option.some.inj stepped
      exact tracks.init call
  | good udf calls =>
      unfold Board.step at stepped
      cases armed : board.driver.dma with
      | none =>
          rw [armed] at stepped
          obtain rfl := Option.some.inj stepped
          exact tracks
      | some dma =>
          rw [armed] at stepped
          obtain rfl := Option.some.inj stepped
          rw [irq_good]
          refine Tracks.inits ⟨?_, fun next isNext => ?_⟩ calls
          · exact congrArg CurrentDmaBuffer.other tracks.copy
          · obtain rfl := Option.some.inj isNext
            obtain ⟨isTurn, addr0, addr1⟩ := tracks.hardware dma armed
            exact ⟨congrArg CurrentDmaBuffer.other isTurn, addr0, addr1⟩
  | bad crcErr numMis isError udf calls =>
      unfold Board.step at stepped
      cases armed : board.driver.dma with
      | none =>
          rw [armed] at stepped
          obtain rfl := Option.some.inj stepped
          exact tracks
      | some dma =>
          rw [armed] at stepped
          obtain rfl := Option.some.inj stepped
          rw [irq_bad buffers _ isError]
          have stored : Tracks buffers
              { board with driver := Board.storeHeader board.driver dma udf } :=
            ⟨tracks.copy, tracks.hardware⟩
          exact stored.inits calls

/-- The callback gets the buffer of the copy, with the register of that buffer. -/
theorem callback_good (buffers : RxBuffers) (driver : HspiDriver) :
    (hspiIrqHandler buffers driver Board.goodFlags).2 =
      some (rxCallbackWith (buffers.ofTurn driver.currentDmaBuffer)
        (driver.udf driver.currentDmaBuffer)) := by
  unfold hspiIrqHandler
  cases current : driver.currentDmaBuffer with
  | hspiDmaBuffer0 => rfl
  | hspiDmaBuffer1 => rfl

theorem callback_iff (driver : HspiDriver) (dma : DoubleDma) (udf : U32)
    (filled : dma.filled = buffers.ofTurn dma.next) :
    (hspiIrqHandler buffers (Board.received driver dma udf) Board.goodFlags).2 =
        some (rxCallbackWith dma.filled udf) ↔
      driver.currentDmaBuffer = dma.next := by
  have current : (Board.received driver dma udf).currentDmaBuffer = driver.currentDmaBuffer := rfl
  have header : (Board.received driver dma udf).udf dma.next = udf := Function.update_self ..
  rw [callback_good, current, filled]
  constructor
  · intro same
    obtain ⟨buffer, _, _⟩ := HspiCall.hspiRxCallback.inj (Option.some.inj same)
    exact buffers.ofTurn_injective buffer
  · intro same
    rw [same, header]

theorem Tracks.deliversFilled_iff (tracks : Tracks buffers board) (event : RxEvent) :
    board.DeliversFilled buffers event ↔ board.ArmedAfterEven event := by
  cases event with
  | init call => exact Iff.rfl
  | bad crcErr numMis isError udf calls =>
      exact iff_of_true (fun dma _ => congrArg Prod.snd (irq_bad buffers _ isError)) trivial
  | good udf calls =>
      unfold Board.DeliversFilled Board.ArmedAfterEven
      dsimp only
      cases armed : board.driver.dma with
      | none => exact iff_of_true (fun _ isDma => nomatch isDma) fun isArmed => nomatch isArmed
      | some dma =>
          have filled := (callback_iff board.driver dma udf (tracks.filled_eq armed)).trans
            (tracks.same_turn_iff armed)
          constructor
          · exact fun delivers _ => filled.mp (delivers dma rfl)
          · intro even other isOther
            obtain rfl := Option.some.inj isOther
            exact filled.mpr (even rfl)

/-! ## Runs -/

/-- Over every run of a receiving board each receive callback gets the filled buffer and its header
exactly if the hardware was armed after an even number of good packets whenever one comes. -/
theorem delivers_filled_iff (buffers : RxBuffers) (events : List RxEvent) :
    EveryStep (Board.step buffers) (Board.DeliversFilled buffers) Board.start events ↔
      EveryStep (Board.step buffers) Board.ArmedAfterEven Board.start events :=
  @everyStep_iff _ _ (Board.step buffers) (Tracks buffers) (fun _ _ => True) _ _
    (fun _ event tracks _ => tracks.deliversFilled_iff event)
    (fun _ _ _ tracks _ _ stepped => tracks.step stepped) _ _ (tracks_start buffers)
    (everyStep_of_forall (fun _ _ _ => trivial) _)

def receiveBuffers : RxBuffers := ⟨0x20020000, 0x20021000, by decide⟩

def init32 : InitCall := ⟨.bits32, 4096#16⟩

/-- After one packet and an error whose callback initialises the driver again, the next packet lies
in the first buffer and the callback gets the second one. -/
theorem reinit_after_one_packet :
    ¬EveryStep (Board.step receiveBuffers) (Board.DeliversFilled receiveBuffers) Board.start
      [.init init32, .good 64#32 [], .bad true false rfl 0#32 [init32], .good 64#32 []] := by
  intro every
  have second := (everyStep_cons rfl).mp ((everyStep_cons rfl).mp
    ((everyStep_cons rfl).mp ((everyStep_cons rfl).mp every).2).2).2
  have delivered := second.1 ⟨.device, .bits32, 0x20020000, 0x20021000, 4096#16, .hspiDmaBuffer0⟩ rfl
  exact absurd delivered (by decide)

end WchCh56x.Hspi.DoubleBuffer
