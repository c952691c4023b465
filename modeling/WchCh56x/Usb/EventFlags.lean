import WchCh56x.Support.Runs
import WchCh56x.Usb.Usb2Irq

/-!
# The interrupt flags of the USB2 handler

A flag goes up when its event happens and goes down when the handler writes a one
to it.  More flags can go up while a branch of the handler runs; the branches for
a NAK and for a SETUP packet write back whatever is up at their end, and the one
for a FIFO overflow writes nothing.
-/

namespace WchCh56x.Usb

open Support.Runs

inductive Usb2Flag where
  | setupact | transfer | suspend | fifoov | busrst
  deriving DecidableEq, Repr

namespace Usb2IntFlags

def up (flags : Usb2IntFlags) : Usb2Flag → Bool
  | .setupact => flags.setupact
  | .transfer => flags.transfer
  | .suspend => flags.suspend
  | .fifoov => flags.fifoov
  | .busrst => flags.busrst

def ofUp (up : Usb2Flag → Bool) : Usb2IntFlags :=
  ⟨up .setupact, up .transfer, up .suspend, up .fifoov, up .busrst⟩

def raise (flags raised : Usb2IntFlags) : Usb2IntFlags :=
  ofUp fun flag => flags.up flag || raised.up flag

/-- A store of `written` to `R8_USB_INT_FG`. -/
def write (flags written : Usb2IntFlags) : Usb2IntFlags :=
  ofUp fun flag => flags.up flag && !written.up flag

def both (first second : Usb2IntFlags) : Usb2IntFlags :=
  ofUp fun flag => first.up flag && second.up flag

def only (flag : Usb2Flag) : Usb2IntFlags := ofUp fun other => other = flag

@[simp] theorem up_ofUp (up : Usb2Flag → Bool) (flag : Usb2Flag) :
    (ofUp up).up flag = up flag := by
  cases flag <;> rfl

@[simp] theorem up_none (flag : Usb2Flag) : none.up flag = false := by
  cases flag <;> rfl

@[simp] theorem up_raise (flags raised : Usb2IntFlags) (flag : Usb2Flag) :
    (flags.raise raised).up flag = (flags.up flag || raised.up flag) := up_ofUp ..

@[simp] theorem up_write (flags written : Usb2IntFlags) (flag : Usb2Flag) :
    (flags.write written).up flag = (flags.up flag && !written.up flag) := up_ofUp ..

@[simp] theorem up_both (first second : Usb2IntFlags) (flag : Usb2Flag) :
    (first.both second).up flag = (first.up flag && second.up flag) := up_ofUp ..

@[simp] theorem up_only (flag other : Usb2Flag) : (only flag).up other = decide (other = flag) :=
  up_ofUp ..

@[simp] theorem raise_none (flags : Usb2IntFlags) : flags.raise none = flags := by
  simp [raise, ofUp, up, none]

@[simp] theorem write_self (flags : Usb2IntFlags) : flags.write flags = none := by
  simp [write, ofUp, none]

@[simp] theorem write_none (flags : Usb2IntFlags) : flags.write none = flags := by
  simp [write, ofUp, up, none]

theorem write_transfer (flags : Usb2IntFlags) :
    flags.write (only .transfer) = { flags with transfer := false } := by
  simp [write, ofUp, up, only]

theorem write_suspend (flags : Usb2IntFlags) :
    flags.write (only .suspend) = { flags with suspend := false } := by
  simp [write, ofUp, up, only]

theorem write_busrst (flags : Usb2IntFlags) :
    flags.write (only .busrst) = { flags with busrst := false } := by
  simp [write, ofUp, up, only]

end Usb2IntFlags

/-! ## The handler while events happen -/

inductive Usb2Branch where
  | nak | setup | transfer | suspend | fifoov | busrst | none
  deriving DecidableEq, Repr

namespace Usb2Branch

/-- What the branch writes to `R8_USB_INT_FG` when `flags` are up at that point. -/
def written (flags : Usb2IntFlags) : Usb2Branch → Usb2IntFlags
  | .nak => flags
  | .setup => flags
  | .transfer => .only .transfer
  | .suspend => .only .suspend
  | .fifoov => .none
  | .busrst => .only .busrst
  | .none => .none

/-- The events that the branch is for; a NAK is the answer to a transaction. -/
def handled (event : Usb2IntFlags) : Usb2Branch → Usb2IntFlags
  | .nak => event.both (.only .transfer)
  | .setup => .only .setupact
  | .transfer => .only .transfer
  | .suspend => .only .suspend
  | .fifoov => .only .fifoov
  | .busrst => .only .busrst
  | .none => .none

end Usb2Branch

namespace Usb2Driver

variable (bsp : Usb2Bsp) (driver : Usb2Driver)

def branch (interrupt : Usb2Interrupt) : Usb2Branch :=
  let event := driver.intFg
  if event.setupact = false ∧ interrupt.nak then
    .nak
  else if event.setupact ∧ driver.device.state ≠ .powered then
    .setup
  else if event.transfer ∧ driver.device.state ≠ .powered then
    .transfer
  else if event.suspend then
    .suspend
  else if event.fifoov then
    .fifoov
  else if event.busrst then
    .busrst
  else
    .none

/-- What the branch does up to the interrupt flags. -/
def runBranch (interrupt : Usb2Interrupt) (reply : UserReply) : Usb2Branch → Usb2Driver
  | .nak => driver.invoke bsp (.nakCallback interrupt.devEndp) reply
  | .setup => driver.setupReceived bsp reply
  | .transfer => driver.transferDone bsp interrupt reply
  | .busrst => driver.busReset bsp reply
  | .suspend | .fifoov | .none => driver

/-- `USBHS_IRQHandler` with the events that happen between its first read of the flags and
its store to them. -/
def usbhsIrqHandlerAmid (interrupt : Usb2Interrupt) (reply : UserReply)
    (arrivals : Usb2IntFlags) : Usb2Driver :=
  let branch := driver.branch interrupt
  let flags := driver.intFg.raise arrivals
  { driver.runBranch bsp interrupt reply branch with intFg := flags.write (branch.written flags) }

/-- Without such events it is the handler as a whole. -/
theorem usbhsIrqHandlerAmid_none (interrupt : Usb2Interrupt) (reply : UserReply) :
    driver.usbhsIrqHandlerAmid bsp interrupt reply .none =
      driver.usbhsIrqHandler bsp interrupt reply := by
  unfold usbhsIrqHandlerAmid usbhsIrqHandler branch
  simp only [Usb2IntFlags.raise_none]
  split
  · rw [Usb2Branch.written, Usb2IntFlags.write_self]
    rfl
  split
  · rw [Usb2Branch.written, Usb2IntFlags.write_self]
    rfl
  split
  · rw [Usb2Branch.written, Usb2IntFlags.write_transfer]
    rfl
  split
  · rw [Usb2Branch.written, Usb2IntFlags.write_suspend]
    rfl
  split
  · rw [Usb2Branch.written, Usb2IntFlags.write_none]
    rfl
  split
  · rw [Usb2Branch.written, Usb2IntFlags.write_busrst]
    rfl
  · rw [Usb2Branch.written, Usb2IntFlags.write_none]
    rfl

end Usb2Driver

/-! ## Runs -/

/-- One run of the handler: the flags it read, the events its branch is for, and the flags it
took down. -/
structure Usb2Invocation where
  event : Usb2IntFlags
  powered : Bool
  handled : Usb2IntFlags
  cleared : Usb2IntFlags

/-- The driver with the account of its events. -/
structure Usb2Events where
  driver : Usb2Driver
  /-- The events for which no branch has run since their flag went up. -/
  unserviced : Usb2IntFlags
  invocations : List Usb2Invocation

inductive Usb2EventAct where
  /-- Events happen. -/
  | raise (flags : Usb2IntFlags)
  /-- The handler runs, and `arrivals` happen before it clears its flags. -/
  | enter (interrupt : Usb2Interrupt) (reply : UserReply) (arrivals : Usb2IntFlags)
  /-- The main program leaves the driver in this state, apart from the flags. -/
  | program (driver : Usb2Driver)

namespace Usb2Events

def start (driver : Usb2Driver) : Usb2Events := ⟨driver, driver.intFg, []⟩

/-- The account of an entry: an event whose flag is up already is not a new one. -/
def invocation (driver : Usb2Driver) (interrupt : Usb2Interrupt) (arrivals : Usb2IntFlags) :
    Usb2Invocation :=
  let branch := driver.branch interrupt
  let flags := driver.intFg.raise arrivals
  { event := driver.intFg
    powered := driver.device.state = .powered
    handled := branch.handled driver.intFg
    cleared := flags.both (branch.written flags) }

def step (bsp : Usb2Bsp) (events : Usb2Events) : Usb2EventAct → Option Usb2Events
  | .raise flags =>
      some { events with
        driver := { events.driver with intFg := events.driver.intFg.raise flags }
        unserviced := events.unserviced.raise (flags.write events.driver.intFg) }
  | .enter interrupt reply arrivals =>
      let invocation := invocation events.driver interrupt arrivals
      some
        { driver := events.driver.usbhsIrqHandlerAmid bsp interrupt reply arrivals
          unserviced := (events.unserviced.raise (arrivals.write events.driver.intFg)).write
            invocation.handled
          invocations := events.invocations ++ [invocation] }
  | .program driver =>
      some { events with driver := { driver with intFg := events.driver.intFg } }

/-- The run of the handler takes down what it handled, and outside of `POWERED` something that
was up. -/
def Exact (invocation : Usb2Invocation) : Prop :=
  (∀ flag, invocation.cleared.up flag → invocation.handled.up flag) ∧
    (invocation.powered = false → (∃ flag, invocation.event.up flag) →
      ∃ flag, invocation.cleared.up flag)

/-- Every event is up or was handled. -/
structure LosesNone (events : Usb2Events) : Prop where
  exact : ∀ invocation ∈ events.invocations, Exact invocation
  kept : ∀ flag, events.unserviced.up flag → events.driver.intFg.up flag

/-- The branches that write back all flags find only their own one up, and outside of `POWERED`
the branch for a FIFO overflow is not taken. -/
def ClearsOwn (events : Usb2Events) : Usb2EventAct → Prop
  | .enter interrupt _ arrivals =>
      let event := events.driver.intFg
      (event.setupact = false → interrupt.nak → ∀ flag, (event.raise arrivals).up flag →
        flag = .transfer ∧ event.transfer) ∧
      (event.setupact → events.driver.device.state ≠ .powered →
        ∀ flag, (event.raise arrivals).up flag → flag = .setupact) ∧
      (events.driver.device.state ≠ .powered → ¬ (interrupt.nak = false ∧
        event.setupact = false ∧ event.transfer = false ∧ event.suspend = false ∧ event.fifoov))
  | _ => True

variable {driver : Usb2Driver} {interrupt : Usb2Interrupt} {arrivals : Usb2IntFlags}

/-- A branch that writes back all flags takes down what it handled if nothing else is up. -/
theorem exact_of_all {branch : Usb2Branch} (taken : driver.branch interrupt = branch)
    (all : ∀ flags, branch.written flags = flags) :
    Exact (invocation driver interrupt arrivals) ↔
      ∀ flag, (driver.intFg.raise arrivals).up flag → (branch.handled driver.intFg).up flag := by
  unfold Exact invocation
  simp only [taken, all, Usb2IntFlags.up_both, Bool.and_self]
  constructor
  · exact And.left
  · refine fun handled => ⟨handled, fun _ some => ?_⟩
    obtain ⟨flag, up⟩ := some
    exact ⟨flag, by rw [Usb2IntFlags.up_raise, up, Bool.true_or]⟩

/-- A branch that writes its own flag, which is up, takes down what it handled. -/
theorem exact_of_only {branch : Usb2Branch} (flag : Usb2Flag)
    (taken : driver.branch interrupt = branch) (up : driver.intFg.up flag = true)
    (written : ∀ flags, branch.written flags = .only flag)
    (handled : branch.handled driver.intFg = .only flag) :
    Exact (invocation driver interrupt arrivals) := by
  unfold Exact invocation
  simp only [taken, written, handled, Usb2IntFlags.up_both, Usb2IntFlags.up_only]
  constructor
  · intro other cleared
    exact (Bool.and_eq_true_iff.mp cleared).2
  · exact fun _ _ => ⟨flag, by simp [up]⟩

/-- A branch that writes nothing takes nothing down. -/
theorem exact_of_none {branch : Usb2Branch} (taken : driver.branch interrupt = branch)
    (written : ∀ flags, branch.written flags = .none) :
    Exact (invocation driver interrupt arrivals) ↔
      (driver.device.state ≠ .powered → ¬ ∃ flag, driver.intFg.up flag = true) := by
  unfold Exact invocation
  simp [taken, written]

section

variable {events : Usb2Events} (reply : UserReply)

/-- The branch for a NAK writes back all flags. -/
theorem exact_iff_of_nak
    (nak : events.driver.intFg.setupact = false ∧ interrupt.nak = true) :
    Exact (invocation events.driver interrupt arrivals) ↔
      ClearsOwn events (.enter interrupt reply arrivals) := by
  have taken : events.driver.branch interrupt = .nak := if_pos nak
  rw [exact_of_all taken fun _ => rfl]
  constructor
  · intro own
    refine ⟨fun _ _ flag up => ?_, fun setup => ?_, fun _ quiet => ?_⟩
    · have handled := own flag up
      simp only [Usb2Branch.handled, Usb2IntFlags.up_both, Usb2IntFlags.up_only,
        Bool.and_eq_true, decide_eq_true_eq] at handled
      obtain ⟨event, rfl⟩ := handled
      exact ⟨rfl, event⟩
    · rw [nak.1] at setup
      nomatch setup
    · rw [nak.2] at quiet
      nomatch quiet.1
  · rintro ⟨own, _, _⟩ flag up
    obtain ⟨rfl, event⟩ := own nak.1 nak.2 flag up
    simp only [Usb2Branch.handled, Usb2IntFlags.up_both, Usb2IntFlags.up_only, decide_true,
      Bool.and_true]
    exact event

variable (notNak : ¬ (events.driver.intFg.setupact = false ∧ interrupt.nak = true))
include notNak

/-- So does the branch for a SETUP packet. -/
theorem exact_iff_of_setup
    (setup : events.driver.intFg.setupact = true ∧ events.driver.device.state ≠ .powered) :
    Exact (invocation events.driver interrupt arrivals) ↔
      ClearsOwn events (.enter interrupt reply arrivals) := by
  have taken : events.driver.branch interrupt = .setup := (if_neg notNak).trans (if_pos setup)
  rw [exact_of_all taken fun _ => rfl]
  constructor
  · intro own
    refine ⟨fun noSetup => ?_, fun _ _ flag up => ?_, fun _ quiet => ?_⟩
    · rw [setup.1] at noSetup
      nomatch noSetup
    · simpa [Usb2Branch.handled] using own flag up
    · rw [setup.1] at quiet
      nomatch quiet.2.1
  · rintro ⟨_, own, _⟩ flag up
    obtain rfl := own setup.1 setup.2 flag up
    simp [Usb2Branch.handled]

variable (notSetup : ¬ (events.driver.intFg.setupact = true ∧ events.driver.device.state ≠ .powered))
include notSetup

/-- In the other branches only the last part of the condition says anything. -/
theorem clearsOwn_iff :
    ClearsOwn events (.enter interrupt reply arrivals) ↔
      (events.driver.device.state ≠ .powered → ¬ (interrupt.nak = false ∧
        events.driver.intFg.setupact = false ∧ events.driver.intFg.transfer = false ∧
        events.driver.intFg.suspend = false ∧ events.driver.intFg.fifoov = true)) :=
  ⟨fun own => own.2.2, fun quiet => ⟨fun noSetup nak => absurd ⟨noSetup, nak⟩ notNak,
    fun setup state => absurd ⟨setup, state⟩ notSetup, quiet⟩⟩

/-- The branch for a FIFO overflow writes nothing. -/
theorem exact_iff_of_fifoov
    (notTransfer : ¬ (events.driver.intFg.transfer = true ∧ events.driver.device.state ≠ .powered))
    (notSuspend : ¬ events.driver.intFg.suspend = true) (fifoov : events.driver.intFg.fifoov = true) :
    Exact (invocation events.driver interrupt arrivals) ↔
      ClearsOwn events (.enter interrupt reply arrivals) := by
  have taken : events.driver.branch interrupt = .fifoov :=
    ((((if_neg notNak).trans (if_neg notSetup)).trans (if_neg notTransfer)).trans
      (if_neg notSuspend)).trans (if_pos fifoov)
  rw [exact_of_none taken fun _ => rfl, clearsOwn_iff reply notNak notSetup]
  refine forall_congr' fun state => not_congr (iff_of_true ⟨.fifoov, fifoov⟩ ?_)
  have noSetup : events.driver.intFg.setupact = false :=
    Bool.eq_false_iff.mpr fun setup => notSetup ⟨setup, state⟩
  exact ⟨Bool.eq_false_iff.mpr fun nak => notNak ⟨noSetup, nak⟩, noSetup,
    Bool.eq_false_iff.mpr fun transfer => notTransfer ⟨transfer, state⟩,
    Bool.eq_false_iff.mpr notSuspend, fifoov⟩

/-- A branch that writes its own flag is exact, and so is the handler that finds no flag. -/
theorem exact_iff_of_own :
    Exact (invocation events.driver interrupt arrivals) ↔
      ClearsOwn events (.enter interrupt reply arrivals) := by
  generalize taken : events.driver.branch interrupt = branch
  have chain := taken
  rw [clearsOwn_iff reply notNak notSetup]
  unfold Usb2Driver.branch at chain
  dsimp only at chain
  rw [if_neg notNak, if_neg notSetup] at chain
  split at chain
  · next transfer =>
      subst chain
      refine iff_of_true (exact_of_only .transfer taken transfer.1 (fun _ => rfl) rfl)
        fun _ quiet => ?_
      rw [transfer.1] at quiet
      nomatch quiet.2.2.1
  rename_i notTransfer
  split at chain
  · next suspend =>
      subst chain
      refine iff_of_true (exact_of_only .suspend taken suspend (fun _ => rfl) rfl)
        fun _ quiet => ?_
      rw [suspend] at quiet
      nomatch quiet.2.2.2.1
  rename_i notSuspend
  split at chain
  · next fifoov =>
      rw [← clearsOwn_iff reply notNak notSetup]
      exact exact_iff_of_fifoov reply notNak notSetup notTransfer notSuspend fifoov
  rename_i notFifoov
  have noOverflow : events.driver.device.state ≠ .powered → ¬ (interrupt.nak = false ∧
      events.driver.intFg.setupact = false ∧ events.driver.intFg.transfer = false ∧
      events.driver.intFg.suspend = false ∧ events.driver.intFg.fifoov = true) :=
    fun _ quiet => notFifoov quiet.2.2.2.2
  split at chain
  · next busrst =>
      subst chain
      exact iff_of_true (exact_of_only .busrst taken busrst (fun _ => rfl) rfl) noOverflow
  · next notBusrst =>
      subst chain
      rw [exact_of_none taken fun _ => rfl]
      refine iff_of_true (fun state some => ?_) noOverflow
      obtain ⟨flag, up⟩ := some
      cases flag with
      | setupact => exact notSetup ⟨up, state⟩
      | transfer => exact notTransfer ⟨up, state⟩
      | suspend => exact notSuspend up
      | fifoov => exact notFifoov up
      | busrst => exact notBusrst up

end

/-- A run of the handler is exact exactly under the condition. -/
theorem exact_iff {events : Usb2Events} (reply : UserReply) :
    Exact (invocation events.driver interrupt arrivals) ↔
      ClearsOwn events (.enter interrupt reply arrivals) := by
  by_cases nak : events.driver.intFg.setupact = false ∧ interrupt.nak = true
  · exact exact_iff_of_nak reply nak
  by_cases setup : events.driver.intFg.setupact = true ∧ events.driver.device.state ≠ .powered
  · exact exact_iff_of_setup reply nak setup
  · exact exact_iff_of_own reply nak setup

variable {bsp : Usb2Bsp} {events : Usb2Events}

/-- What the handler takes down is gone from the account if it was handled. -/
theorem enter_keeps (loses : LosesNone events) (reply : UserReply)
    (own : ClearsOwn events (.enter interrupt reply arrivals)) {next : Usb2Events}
    (stepped : step bsp events (.enter interrupt reply arrivals) = some next) :
    LosesNone next := by
  obtain rfl := Option.some.inj stepped
  have exact := (exact_iff reply).mpr own
  refine ⟨?_, fun flag waits => ?_⟩
  · intro invocation member
    rcases List.mem_append.mp member with old | new
    · exact loses.exact invocation old
    · rw [List.mem_singleton.mp new]
      exact exact
  · simp only [Usb2IntFlags.up_write, Usb2IntFlags.up_raise, Bool.and_eq_true,
      Bool.or_eq_true, Bool.not_eq_true'] at waits
    obtain ⟨raised, notHandled⟩ := waits
    have up : (events.driver.intFg.raise arrivals).up flag = true := by
      rw [Usb2IntFlags.up_raise, Bool.or_eq_true]
      rcases raised with old | new
      · exact .inl (loses.kept flag old)
      · exact .inr new.1
    have notCleared : (invocation events.driver interrupt arrivals).cleared.up flag ≠ true := by
      intro cleared
      rw [exact.1 flag cleared] at notHandled
      nomatch notHandled
    simp only [invocation, Usb2IntFlags.up_both, up, Bool.true_and] at notCleared
    simp [Usb2Driver.usbhsIrqHandlerAmid, up, Bool.eq_false_iff.mpr notCleared]

end Usb2Events

open Usb2Events

/-- Along a run, the handler takes down only what it handled, keeps every other event up and
always takes something down, exactly if its entries meet the condition. -/
theorem usb2_handler_loses_no_event_iff (bsp : Usb2Bsp) (driver : Usb2Driver)
    (acts : List Usb2EventAct) :
    Always (Usb2Events.step bsp) LosesNone (Usb2Events.start driver) acts ↔
      EveryStep (Usb2Events.step bsp) ClearsOwn (Usb2Events.start driver) acts := by
  have everything : EveryStep (Usb2Events.step bsp) (fun _ _ => True) (Usb2Events.start driver)
      acts := by
    generalize Usb2Events.start driver = events
    induction acts generalizing events with
    | nil => trivial
    | cons act rest ih => exact ⟨trivial, fun next _ => ih next⟩
  have total (events : Usb2Events) (act : Usb2EventAct) (_ : True) (_ : True) :
      ∃ next, Usb2Events.step bsp events act = some next ∧ True := by
    cases act <;> exact ⟨_, rfl, trivial⟩
  have begun : LosesNone (Usb2Events.start driver) := ⟨fun _ none => (nomatch none), fun _ => id⟩
  refine always_iff_everyStep (fun _ => id) total ?_ trivial begun everything
  intro events act next _ loses _ stepped
  cases act with
  | raise flags =>
      obtain rfl := Option.some.inj stepped
      refine ⟨fun _ => trivial, fun _ => ⟨loses.exact, fun flag waits => ?_⟩⟩
      simp only [Usb2IntFlags.up_raise, Usb2IntFlags.up_write, Bool.or_eq_true,
        Bool.and_eq_true] at waits ⊢
      exact waits.imp (loses.kept flag) And.left
  | enter interrupt reply arrivals =>
      refine ⟨fun losesNext => ?_, fun own => enter_keeps loses reply own stepped⟩
      obtain rfl := Option.some.inj stepped
      exact (exact_iff reply).mp
        (losesNext.exact _ (List.mem_append_right _ (List.mem_singleton_self _)))
  | program other =>
      obtain rfl := Option.some.inj stepped
      exact ⟨fun _ => trivial, fun _ => ⟨loses.exact, loses.kept⟩⟩

/-- A SETUP packet and a suspend come together, and the branch for the SETUP packet takes both
flags down; a FIFO overflow outside of `POWERED` stays up after its branch. -/
theorem usb2_handler_loses_a_suspend :
    ¬ Always (Usb2Events.step ⟨3, by decide, by decide⟩) LosesNone
        (Usb2Events.start (Usb2Driver.initial { usbDevice0 with state := .default } fun _ => 0))
        [.raise ⟨true, false, true, false, false⟩,
          .enter ⟨0, pidOut, false, true, 8⟩ ⟨[], 0, 0, 0⟩ .none] ∧
      ¬ Always (Usb2Events.step ⟨3, by decide, by decide⟩) LosesNone
        (Usb2Events.start (Usb2Driver.initial { usbDevice0 with state := .default } fun _ => 0))
        [.raise ⟨false, false, false, true, false⟩,
          .enter ⟨0, pidOut, false, true, 0⟩ ⟨[], 0, 0, 0⟩ .none] := by
  constructor
  · intro always
    obtain ⟨final, run, loses⟩ := always.final
    obtain rfl := Option.some.inj run
    exact absurd (loses.kept .suspend rfl) (by decide)
  · intro always
    obtain ⟨final, run, loses⟩ := always.final
    obtain rfl := Option.some.inj run
    obtain ⟨flag, cleared⟩ := (loses.exact _ (List.mem_singleton_self _)).2 rfl ⟨.fifoov, rfl⟩
    cases flag <;> nomatch cleared

end WchCh56x.Usb
