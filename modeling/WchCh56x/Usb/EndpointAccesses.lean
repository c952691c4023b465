import WchCh56x.Usb.EndpointFields
import WchCh56x.Usb.InBursts

/-!
# The registers that a USB3 endpoint's handlers use

The handlers find control registers by their distance from the one of endpoint 0,
and DMA addresses and counters in tables.  Here they run with a log of what they
read and write.
-/

namespace WchCh56x.Usb

/-! ## Accesses -/

inductive Usb30Access where
  /-- The word at a distance from UEP0_TX_CTRL, counted in endpoints. -/
  | txCtrl (endp : Nat)
  /-- The word at a distance from UEP0_RX_CTRL, counted in endpoints. -/
  | rxCtrl (endp : Nat)
  | dma (dir : EndpDir) (i : Fin 8)
  | counter (dir : EndpDir) (i : Fin 8)
  | usbFcCtrl
  deriving DecidableEq, Repr

/-- What an event of an endpoint in one direction may use. -/
def Usb30Access.Own (dir : EndpDir) (i : Fin 8) : Usb30Access → Prop
  | .txCtrl endp => endp = i.val
  | .rxCtrl endp => endp = i.val
  | .dma other j => other = dir ∧ j = i
  | .counter other j => other = dir ∧ j = i
  | .usbFcCtrl => True

instance (dir : EndpDir) (i : Fin 8) : (access : Usb30Access) → Decidable (access.Own dir i)
  | .txCtrl _ => inferInstanceAs (Decidable (_ = _))
  | .rxCtrl _ => inferInstanceAs (Decidable (_ = _))
  | .dma _ _ => inferInstanceAs (Decidable (_ ∧ _))
  | .counter _ _ => inferInstanceAs (Decidable (_ ∧ _))
  | .usbFcCtrl => inferInstanceAs (Decidable True)

/-- Code that uses the registers and logs what it uses. -/
abbrev Logged := StateM (Usb30Driver × List Usb30Access)

namespace Usb30Access

variable (dir other : EndpDir) (i j : Fin 8) (endp : Nat)

@[simp] theorem own_txCtrl : (txCtrl endp).Own dir i ↔ endp = i.val := Iff.rfl

@[simp] theorem own_rxCtrl : (rxCtrl endp).Own dir i ↔ endp = i.val := Iff.rfl

@[simp] theorem own_dma : (dma other j).Own dir i ↔ other = dir ∧ j = i := Iff.rfl

@[simp] theorem own_counter : (counter other j).Own dir i ↔ other = dir ∧ j = i := Iff.rfl

@[simp] theorem own_usbFcCtrl : usbFcCtrl.Own dir i := trivial

end Usb30Access

namespace Logged

def reads {α : Type} (access : Usb30Access) (value : Usb30Driver → α) : Logged α :=
  fun (driver, log) => (value driver, driver, log ++ [access])

def writes (access : Usb30Access) (change : Usb30Driver → Usb30Driver) : Logged Unit :=
  fun (driver, log) => ((), change driver, log ++ [access])

/-- `IN`, the direction bit of an endpoint number. -/
def dirIn : Nat := 0x80

/-- The control register of an IN endpoint; a word outside of the file reads as 0 here. -/
def uepTxCtrlAt (driver : Usb30Driver) (endp : Nat) : U32 :=
  if inFile : endp < 8 then driver.usb30.uepTxCtrl ⟨endp, inFile⟩ else 0#32

/-- A store to a word outside of the file changes no register of an endpoint. -/
def setUepTxCtrlAt (driver : Usb30Driver) (endp : Nat) (value : U32) : Usb30Driver :=
  if inFile : endp < 8 then driver.setUepTxCtrl ⟨endp, inFile⟩ value else driver

def uepRxCtrlAt (driver : Usb30Driver) (endp : Nat) : U32 :=
  if inFile : endp < 8 then driver.uepRxCtrl ⟨endp, inFile⟩ else 0#32

def setUepRxCtrlAt (driver : Usb30Driver) (endp : Nat) (value : U32) : Usb30Driver :=
  if inFile : endp < 8 then driver.setUepRxCtrl ⟨endp, inFile⟩ value else driver

/-! ## The functions of `usb30_utils.h` -/

def inNump (endp : Nat) : Logged Nat :=
  reads (.txCtrl endp) fun driver => usb30InNump (uepTxCtrlAt driver endp)

def inClearInterrupt (endp : Nat) : Logged Unit :=
  writes (.txCtrl endp) fun driver =>
    setUepTxCtrlAt driver endp (usb30InClearInterrupt (uepTxCtrlAt driver endp))

def inSet (endp : Nat) (lpf status nump txLen : U32) : Logged Unit :=
  writes (.txCtrl endp) fun driver =>
    setUepTxCtrlAt driver endp (usb30InSet (uepTxCtrlAt driver endp) lpf status nump txLen)

def outStatus (endp : Nat) : Logged U32 :=
  reads (.rxCtrl endp) fun driver => uepRxCtrlAt driver endp

def outClearInterrupt (endp : Nat) : Logged Unit :=
  writes (.rxCtrl endp) fun driver =>
    setUepRxCtrlAt driver endp (usb30OutClearInterrupt (uepRxCtrlAt driver endp))

def outSet (endp : Nat) (status nump : U32) : Logged Unit :=
  writes (.rxCtrl endp) fun driver =>
    setUepRxCtrlAt driver endp (usb30OutSet (uepRxCtrlAt driver endp) status nump)

def sendErdy (value : U32) : Logged Unit := writes .usbFcCtrl (·.setUsbFcCtrl value)

/-! ## The counters and addresses -/

def remainingLength (i : Fin 8) : Logged Nat :=
  reads (.counter .tx i) (·.usb30.txRemainingLength i)

def setRemainingLength (i : Fin 8) (length : Nat) : Logged Unit :=
  writes (.counter .tx i) fun driver =>
    { driver with toUsb2Driver := driver.setUsb30 (driver.usb30.setRemaining i length) }

def totalBursts (i : Fin 8) : Logged Nat := reads (.counter .tx i) (·.usb30.txTotalBursts i)

def setTotalBursts (i : Fin 8) (bursts : Nat) : Logged Unit :=
  writes (.counter .tx i) fun driver =>
    { driver with toUsb2Driver := driver.setUsb30 { driver.usb30 with
      txTotalBursts := Function.update driver.usb30.txTotalBursts i bursts } }

def setTxAddr (i : Fin 8) (address : Nat) : Logged Unit :=
  writes (.dma .tx i) fun driver =>
    { driver with toUsb2Driver := driver.setUsb30 { driver.usb30 with
      uepTxDma := Function.update driver.usb30.uepTxDma i address } }

def setRxAddr (i : Fin 8) (address : Nat) : Logged Unit :=
  writes (.dma .rx i) fun driver =>
    { driver with uepRxDma := Function.update driver.uepRxDma i address }

def totalLength (i : Fin 8) : Logged Nat := reads (.counter .rx i) (·.rxTotalLength i)

def setTotalLength (i : Fin 8) (length : Nat) : Logged Unit :=
  writes (.counter .rx i) (·.setRxTotalLength i length)

def previouslySetMaxBurst (i : Fin 8) : Logged Nat :=
  reads (.counter .rx i) (·.rxPreviouslySetMaxBurst i)

def setPreviouslySetMaxBurst (i : Fin 8) (burst : Nat) : Logged Unit :=
  writes (.counter .rx i) (·.setRxBurst i burst)

def idleCallback (userCall : Usb30Driver → UserCall) : Logged Unit := fun (driver, log) =>
  ((), { driver with
    toUsb2Driver := { driver.toUsb2Driver with
      userCalls := driver.userCalls ++ [userCall driver] } }, log)

/-! ## The handlers -/

/-- The loop of `usb30_ep_in_handler` over the packets that were sent. -/
def countPackets (i : Fin 8) (maxPacketSize : Nat) : Nat → Logged Unit
  | 0 => pure ()
  | sent + 1 => do
      let remaining ← remainingLength i
      if maxPacketSize ≤ remaining then
        setRemainingLength i (remaining - maxPacketSize)
      else
        setRemainingLength i 0
      countPackets i maxPacketSize sent

/-- The end of the handler when nothing is left. -/
def finishIn (i : Fin 8) : Logged Unit := do
  inClearInterrupt i.val
  idleCallback fun _ => .txComplete (usb30EndpNum i)
  let nump ← inNump i.val
  if nump = 0 then
    inSet (i.val ||| dirIn) usb30Disable usb30Nrdy 0#32 0#32
    setTxAddr i 0

/-- The end of the handler when packets are left. -/
def announceIn (endp : UsbEndpoint) (i : Fin 8) (nump numPacketSent : Nat) : Logged Unit := do
  let nump := if endp.maxBurst < nump then endp.maxBurst else nump
  inClearInterrupt i.val
  let remaining ← remainingLength i
  let txLen :=
    if nump * endp.maxPacketSize ≤ remaining then
      BitVec.ofNat 32 endp.maxPacketSize
    else
      BitVec.ofNat 32 remaining -
        (BitVec.ofNat 32 nump - 1#32) * BitVec.ofNat 32 endp.maxPacketSize
  inSet i.val usb30Enable usb30Ack (BitVec.ofNat 32 nump) txLen
  sendErdy (usb30SendErdyIn (BitVec.ofNat 32 i.val) (BitVec.ofNat 32 nump))
  let bursts ← totalBursts i
  setTotalBursts i (u8 (bursts + 256 - numPacketSent))

def usb30EpInHandler (endp : UsbEndpoint) (i : Fin 8) : Logged Unit := do
  let nump ← inNump i.val
  let bursts ← totalBursts i
  let numPacketSent := u8 (bursts + 256 - nump)
  countPackets i endp.maxPacketSize numPacketSent
  let remaining ← remainingLength i
  if remaining = 0 then finishIn i else announceIn endp i nump numPacketSent

def usb30EpOutHandler (endp : UsbEndpoint) (i : Fin 8) : Logged Unit := do
  let ctrl ← outStatus i.val
  let burst ← previouslySetMaxBurst i
  let nump := ((ctrl >>> 16) &&& 31#32).toNat
  let numpSent := u8 (burst + 256 - nump)
  let total ← totalLength i
  setTotalLength i (u16 (total + Usb30Driver.receivedLength endp.maxPacketSize numpSent
    (ctrl &&& 0xffff#32).toNat (ctrl.getLsbD 29)))
  if ctrl.getLsbD 29 = true ∨ nump = 0 ∨ ctrl.getLsbD 29 = false then
    outSet i.val usb30Nrdy 0#32
    let total ← totalLength i
    idleCallback fun _ => .rxCallback (usb30EndpNum i) endp.buffer total
    outClearInterrupt i.val
    setRxAddr i endp.buffer
    setPreviouslySetMaxBurst i endp.maxBurst
    setTotalLength i 0
    outSet i.val usb30Ack (BitVec.ofNat 32 endp.maxBurst)
    sendErdy (usb30SendErdyOut (BitVec.ofNat 32 i.val) (BitVec.ofNat 32 endp.maxBurst))
  else
    let nump := if endp.maxBurst < nump then endp.maxBurst else nump
    outClearInterrupt i.val
    setPreviouslySetMaxBurst i nump
    outSet i.val usb30Ack (BitVec.ofNat 32 nump)
    sendErdy (usb30SendErdyOut (BitVec.ofNat 32 i.val) (BitVec.ofNat 32 nump))

/-! ## Runs -/

/-- The code, started in one driver, gives a value and a driver and logs some accesses. -/
def Runs {α : Type} (code : Logged α) (before : Usb30Driver) (value : α) (after : Usb30Driver)
    (accesses : List Usb30Access) : Prop :=
  ∀ log, code (before, log) = (value, after, log ++ accesses)

namespace Runs

theorem bind {α β : Type} {first : Logged α} {next : α → Logged β}
    {before middle after : Usb30Driver} {value : α} {result : β}
    {accesses later : List Usb30Access} (runs : Runs first before value middle accesses)
    (runsNext : Runs (next value) middle result after later) :
    Runs (first >>= next) before result after (accesses ++ later) := by
  intro log
  have started : (first >>= next) (before, log) =
      next (first (before, log)).1 (first (before, log)).2 := rfl
  rw [started, runs, ← List.append_assoc]
  exact runsNext _

/-- One access, then the rest of the code. -/
theorem step {α β : Type} {first : Logged α} {next : α → Logged β}
    {before middle after : Usb30Driver} {value : α} {result : β} {access : Usb30Access}
    {later : List Usb30Access} (runs : Runs first before value middle [access])
    (runsNext : Runs (next value) middle result after later) :
    Runs (first >>= next) before result after (access :: later) := runs.bind runsNext

theorem ite_pos {condition : Prop} [Decidable condition] {α : Type} {first second : Logged α}
    {before after : Usb30Driver} {value : α} {accesses : List Usb30Access}
    (holds : condition) (runs : Runs first before value after accesses) :
    Runs (if condition then first else second) before value after accesses := by
  rwa [if_pos holds]

theorem done (driver : Usb30Driver) : Runs (pure ()) driver () driver [] := by
  intro log
  rw [List.append_nil]
  rfl

theorem result {α : Type} {code : Logged α} {before after : Usb30Driver} {value : α}
    {accesses : List Usb30Access} (runs : Runs code before value after accesses) :
    code (before, []) = (value, after, accesses) := runs []

theorem reads {α : Type} (access : Usb30Access) (value : Usb30Driver → α)
    (driver : Usb30Driver) :
    Runs (Logged.reads access value) driver (value driver) driver [access] := fun _ => rfl

theorem writes (access : Usb30Access) (change : Usb30Driver → Usb30Driver)
    (driver : Usb30Driver) :
    Runs (Logged.writes access change) driver () (change driver) [access] := fun _ => rfl

theorem idleCallback (userCall : Usb30Driver → UserCall) (driver : Usb30Driver) :
    Runs (Logged.idleCallback userCall) driver ()
      { driver with
        toUsb2Driver := { driver.toUsb2Driver with
          userCalls := driver.userCalls ++ [userCall driver] } } [] := by
  intro log
  rw [List.append_nil]
  rfl

end Runs

section

variable (driver : Usb30Driver) (i : Fin 8)

theorem uepTxCtrlAt_val : uepTxCtrlAt driver i.val = driver.usb30.uepTxCtrl i :=
  dif_pos i.isLt

theorem setUepTxCtrlAt_val (value : U32) :
    setUepTxCtrlAt driver i.val value = driver.setUepTxCtrl i value := dif_pos i.isLt

theorem uepRxCtrlAt_val : uepRxCtrlAt driver i.val = driver.uepRxCtrl i := dif_pos i.isLt

theorem setUepRxCtrlAt_val (value : U32) :
    setUepRxCtrlAt driver i.val value = driver.setUepRxCtrl i value := dif_pos i.isLt

/-- The direction bit leads out of the register file. -/
theorem outside_file : ¬(i.val ||| dirIn) < 8 := by
  have above : dirIn ≤ i.val ||| dirIn := Nat.right_le_or
  exact Nat.not_lt.mpr ((show 8 ≤ dirIn by decide).trans above)

theorem setUepTxCtrlAt_dirIn (value : U32) :
    setUepTxCtrlAt driver (i.val ||| dirIn) value = driver := dif_neg (outside_file i)

theorem inNump_runs :
    Runs (inNump i.val) driver (usb30InNump (driver.usb30.uepTxCtrl i)) driver
      [.txCtrl i.val] := by
  have runs := Runs.reads (.txCtrl i.val)
    (fun driver => usb30InNump (uepTxCtrlAt driver i.val)) driver
  rwa [uepTxCtrlAt_val] at runs

theorem inClearInterrupt_runs :
    Runs (inClearInterrupt i.val) driver ()
      (driver.setUepTxCtrl i (usb30InClearInterrupt (driver.usb30.uepTxCtrl i)))
      [.txCtrl i.val] := by
  have runs := Runs.writes (.txCtrl i.val) (fun driver =>
    setUepTxCtrlAt driver i.val (usb30InClearInterrupt (uepTxCtrlAt driver i.val))) driver
  rwa [uepTxCtrlAt_val, setUepTxCtrlAt_val] at runs

theorem inSet_runs (lpf status nump txLen : U32) :
    Runs (inSet i.val lpf status nump txLen) driver ()
      (driver.setUepTxCtrl i (usb30InSet (driver.usb30.uepTxCtrl i) lpf status nump txLen))
      [.txCtrl i.val] := by
  have runs := Runs.writes (.txCtrl i.val) (fun driver =>
    setUepTxCtrlAt driver i.val
      (usb30InSet (uepTxCtrlAt driver i.val) lpf status nump txLen)) driver
  rwa [uepTxCtrlAt_val, setUepTxCtrlAt_val] at runs

/-- The number with the direction bit reaches no register of the file. -/
theorem inSet_dirIn_runs (lpf status nump txLen : U32) :
    Runs (inSet (i.val ||| dirIn) lpf status nump txLen) driver () driver
      [.txCtrl (i.val ||| dirIn)] := by
  have runs := Runs.writes (.txCtrl (i.val ||| dirIn)) (fun driver =>
    setUepTxCtrlAt driver (i.val ||| dirIn)
      (usb30InSet (uepTxCtrlAt driver (i.val ||| dirIn)) lpf status nump txLen)) driver
  rwa [setUepTxCtrlAt_dirIn] at runs

theorem outStatus_runs :
    Runs (outStatus i.val) driver (driver.uepRxCtrl i) driver [.rxCtrl i.val] := by
  have runs := Runs.reads (.rxCtrl i.val) (fun driver => uepRxCtrlAt driver i.val) driver
  rwa [uepRxCtrlAt_val] at runs

theorem outClearInterrupt_runs :
    Runs (outClearInterrupt i.val) driver ()
      (driver.setUepRxCtrl i (usb30OutClearInterrupt (driver.uepRxCtrl i)))
      [.rxCtrl i.val] := by
  have runs := Runs.writes (.rxCtrl i.val) (fun driver =>
    setUepRxCtrlAt driver i.val (usb30OutClearInterrupt (uepRxCtrlAt driver i.val))) driver
  rwa [uepRxCtrlAt_val, setUepRxCtrlAt_val] at runs

theorem outSet_runs (status nump : U32) :
    Runs (outSet i.val status nump) driver ()
      (driver.setUepRxCtrl i (usb30OutSet (driver.uepRxCtrl i) status nump))
      [.rxCtrl i.val] := by
  have runs := Runs.writes (.rxCtrl i.val) (fun driver =>
    setUepRxCtrlAt driver i.val (usb30OutSet (uepRxCtrlAt driver i.val) status nump)) driver
  rwa [uepRxCtrlAt_val, setUepRxCtrlAt_val] at runs

end

section

variable (driver : Usb30Driver) (i : Fin 8)

def withRemaining (length : Nat) : Usb30Driver :=
  { driver with toUsb2Driver := driver.setUsb30 (driver.usb30.setRemaining i length) }

theorem withRemaining_self :
    withRemaining driver i (driver.usb30.txRemainingLength i) = driver := by
  unfold withRemaining Usb2Driver.setUsb30 Usb30Endpoints.setRemaining
  rw [Function.update_eq_self]

theorem withRemaining_idem (first second : Nat) :
    withRemaining (withRemaining driver i first) i second = withRemaining driver i second := by
  unfold withRemaining Usb2Driver.setUsb30 Usb30Endpoints.setRemaining
  dsimp only
  rw [Function.update_idem]

/-- The loop uses the remaining length of the endpoint only. -/
theorem countPackets_runs (maxPacketSize sent : Nat) :
    Runs (countPackets i maxPacketSize sent) driver ()
      (withRemaining driver i
        (usb30RemainingAfter maxPacketSize sent (driver.usb30.txRemainingLength i)))
      (List.replicate (2 * sent) (.counter .tx i)) := by
  induction sent generalizing driver with
  | zero =>
      rw [usb30RemainingAfter, withRemaining_self]
      exact Runs.done driver
  | succ sent ih =>
      have remaining (length : Nat) :
          (withRemaining driver i length).usb30.txRemainingLength i = length :=
        Usb30Endpoints.setRemaining_self ..
      have step (length : Nat) := ih (withRemaining driver i length)
      simp only [remaining, withRemaining_idem] at step
      rw [Nat.mul_succ, Nat.add_comm _ 2, List.replicate_add, usb30RemainingAfter]
      refine Runs.step (Runs.reads _ _ driver) ?_
      split
      · exact Runs.step (Runs.writes _ _ driver) (step _)
      · exact Runs.step (Runs.writes _ _ driver) (step _)

/-! ### `usb30_ep_in_handler` -/

def withUserCall (userCall : UserCall) : Usb30Driver :=
  { driver with
    toUsb2Driver := { driver.toUsb2Driver with userCalls := driver.userCalls ++ [userCall] } }

/-- The driver at the end of the handler when nothing is left. -/
def finishedIn : Usb30Driver :=
  let driver := withUserCall
    (driver.setUepTxCtrl i (usb30InClearInterrupt (driver.usb30.uepTxCtrl i)))
    (.txComplete (usb30EndpNum i))
  { driver with
    toUsb2Driver := driver.setUsb30 { driver.usb30 with
      uepTxDma := Function.update driver.usb30.uepTxDma i 0 } }

/-- The handler that finds nothing left also uses a word outside of the register file. -/
theorem finishIn_runs :
    Runs (finishIn i) driver () (finishedIn driver i)
      [.txCtrl i.val, .txCtrl i.val, .txCtrl (i.val ||| dirIn), .dma .tx i] := by
  have cleared := inClearInterrupt_runs driver i
  have called := Runs.idleCallback (fun _ => .txComplete (usb30EndpNum i))
    (driver.setUepTxCtrl i (usb30InClearInterrupt (driver.usb30.uepTxCtrl i)))
  have nump := inNump_runs (withUserCall
    (driver.setUepTxCtrl i (usb30InClearInterrupt (driver.usb30.uepTxCtrl i)))
    (.txComplete (usb30EndpNum i))) i
  have zero : usb30InNump ((withUserCall
      (driver.setUepTxCtrl i (usb30InClearInterrupt (driver.usb30.uepTxCtrl i)))
      (.txComplete (usb30EndpNum i))).usb30.uepTxCtrl i) = 0 := by
    change usb30InNump ((driver.setUepTxCtrl i _).usb30.uepTxCtrl i) = 0
    rw [driver.setUepTxCtrl_self]
    exact usb30InNump_clear _
  refine Runs.step cleared (called.bind (Runs.step nump (Runs.ite_pos zero ?_)))
  exact Runs.step (inSet_dirIn_runs _ i usb30Disable usb30Nrdy 0#32 0#32) (Runs.writes _ _ _)

def announcedIn (endp : UsbEndpoint) (nump : Nat) : Usb30Driver :=
  let nump := if endp.maxBurst < nump then endp.maxBurst else nump
  let driver := driver.setUepTxCtrl i (usb30InClearInterrupt (driver.usb30.uepTxCtrl i))
  let remaining := driver.usb30.txRemainingLength i
  let txLen :=
    if nump * endp.maxPacketSize ≤ remaining then
      BitVec.ofNat 32 endp.maxPacketSize
    else
      BitVec.ofNat 32 remaining -
        (BitVec.ofNat 32 nump - 1#32) * BitVec.ofNat 32 endp.maxPacketSize
  let driver := driver.setUepTxCtrl i
    (usb30InSet (driver.usb30.uepTxCtrl i) usb30Enable usb30Ack (BitVec.ofNat 32 nump) txLen)
  driver.setUsbFcCtrl (usb30SendErdyIn (BitVec.ofNat 32 i.val) (BitVec.ofNat 32 nump))

def withTotalBursts (bursts : Nat) : Usb30Driver :=
  { driver with toUsb2Driver := driver.setUsb30 { driver.usb30 with
    txTotalBursts := Function.update driver.usb30.txTotalBursts i bursts } }

theorem announceIn_runs (endp : UsbEndpoint) (nump numPacketSent : Nat) :
    Runs (announceIn endp i nump numPacketSent) driver ()
      (withTotalBursts (announcedIn driver i endp nump) i
        (u8 ((announcedIn driver i endp nump).usb30.txTotalBursts i + 256 - numPacketSent)))
      [.txCtrl i.val, .counter .tx i, .txCtrl i.val, .usbFcCtrl, .counter .tx i,
        .counter .tx i] := by
  refine Runs.step (inClearInterrupt_runs driver i) (Runs.step (Runs.reads _ _ _) ?_)
  refine Runs.step (inSet_runs _ i usb30Enable usb30Ack _ _) (Runs.step (Runs.writes _ _ _) ?_)
  exact Runs.step (Runs.reads _ _ (announcedIn driver i endp nump)) (Runs.writes _ _ _)

/-- The number of packets that the handler takes as sent. -/
def packetsSent : Nat :=
  u8 (driver.usb30.txTotalBursts i + 256 - usb30InNump (driver.usb30.uepTxCtrl i))

/-- What is left of the buffer when the packets that were sent have been counted. -/
def leftToSend : Nat :=
  driver.usb30.txRemainingLength i -
    packetsSent driver i * (driver.device.tx (usb30EndpNum i)).maxPacketSize

def countingLog : List Usb30Access :=
  .txCtrl i.val :: .counter .tx i ::
    (List.replicate (2 * packetsSent driver i) (.counter .tx i) ++ [.counter .tx i])

theorem countingIn_runs {endp : UsbEndpoint} {after : Usb30Driver} {accesses : List Usb30Access}
    (found : endp = driver.device.tx (usb30EndpNum i))
    (rest : Runs (if leftToSend driver i = 0 then finishIn i else
        announceIn endp i (usb30InNump (driver.usb30.uepTxCtrl i)) (packetsSent driver i))
      (withRemaining driver i (leftToSend driver i)) () after accesses) :
    Runs (usb30EpInHandler endp i) driver () after (countingLog driver i ++ accesses) := by
  have counted := countPackets_runs driver i endp.maxPacketSize (packetsSent driver i)
  rw [usb30RemainingAfter_eq, found] at counted
  have left : (withRemaining driver i (leftToSend driver i)).usb30.txRemainingLength i =
      leftToSend driver i := Usb30Endpoints.setRemaining_self ..
  have reads := Runs.reads (.counter .tx i) (·.usb30.txRemainingLength i)
    (withRemaining driver i (leftToSend driver i))
  rw [left] at reads
  rw [countingLog, List.cons_append, List.cons_append, List.append_assoc]
  refine Runs.step (inNump_runs driver i) (Runs.step (Runs.reads _ _ _) ?_)
  subst found
  exact counted.bind (Runs.step reads rest)

/-! ### `usb30_ep_out_handler` -/

/-- The driver that has added the length of the packets that were received. -/
def countedOut : Usb30Driver :=
  let endp := driver.device.rx (usb30EndpNum i)
  let ctrl := driver.uepRxCtrl i
  let numpSent := u8 (driver.rxPreviouslySetMaxBurst i + 256 - ((ctrl >>> 16) &&& 31#32).toNat)
  driver.setRxTotalLength i
    (u16 (driver.rxTotalLength i + Usb30Driver.receivedLength endp.maxPacketSize numpSent
      (ctrl &&& 0xffff#32).toNat (ctrl.getLsbD 29)))

/-- The driver after the callback, NRDY until then. -/
def calledOut (endp : UsbEndpoint) : Usb30Driver :=
  let driver := driver.setUepRxCtrl i (usb30OutSet (driver.uepRxCtrl i) usb30Nrdy 0#32)
  withUserCall driver (.rxCallback (usb30EndpNum i) endp.buffer (driver.rxTotalLength i))

/-- The driver that takes the next packets. -/
def rearmedOut (endp : UsbEndpoint) : Usb30Driver :=
  let driver := driver.outClearInterrupt i
  let driver := { driver with uepRxDma := Function.update driver.uepRxDma i endp.buffer }
  ((driver.setRxBurst i endp.maxBurst).setRxTotalLength i 0).acceptOut i endp.maxBurst

/-- Every burst is reported, whether its last packet was short or not. -/
theorem usb30EpOutHandler_runs (endp : UsbEndpoint)
    (found : endp = driver.device.rx (usb30EndpNum i)) :
    Runs (usb30EpOutHandler endp i) driver ()
      (rearmedOut (calledOut (countedOut driver i) i endp) i endp)
      [.rxCtrl i.val, .counter .rx i, .counter .rx i, .counter .rx i, .rxCtrl i.val,
        .counter .rx i, .rxCtrl i.val, .dma .rx i, .counter .rx i, .counter .rx i, .rxCtrl i.val,
        .usbFcCtrl] := by
  subst found
  refine Runs.step (outStatus_runs driver i) (Runs.step (Runs.reads _ _ _) ?_)
  refine Runs.step (Runs.reads _ _ _) (Runs.step (Runs.writes _ _ _) ?_)
  have every : (driver.uepRxCtrl i).getLsbD 29 = true ∨
      ((driver.uepRxCtrl i >>> 16) &&& 31#32).toNat = 0 ∨
        (driver.uepRxCtrl i).getLsbD 29 = false := by
    cases (driver.uepRxCtrl i).getLsbD 29
    · exact .inr (.inr rfl)
    · exact .inl rfl
  refine Runs.ite_pos every (Runs.step (outSet_runs _ i usb30Nrdy 0#32) ?_)
  refine Runs.step (Runs.reads _ _ _) (Runs.bind (Runs.idleCallback _ _) ?_)
  refine Runs.step (outClearInterrupt_runs _ i) (Runs.step (Runs.writes _ _ _) ?_)
  refine Runs.step (Runs.writes _ _ _) (Runs.step (Runs.writes _ _ _) ?_)
  exact Runs.step (outSet_runs _ i usb30Ack _) (Runs.writes _ _ _)

/-! ### The handlers of the model -/

variable (bsp : Usb2Bsp) {i}

theorem usb30EndpIndex_endpNum (notControl : i ≠ 0) :
    usb30EndpIndex (usb30EndpNum i) = some i := by
  have notZero : usb30EndpNum i ≠ 0 := fun zero =>
    notControl (Fin.castLE_injective _ zero)
  exact (dif_pos i.isLt).trans (if_neg notZero)

/-- The driver after `usb30_ep_in_handler`, whose callback does nothing. -/
def afterEpIn (i : Fin 8) : Usb30Driver :=
  { driver with toUsb2Driver := driver.usb30EpInHandler bsp (usb30EndpNum i) noReply }

/-- What `announceRest` writes, register by register. -/
theorem announced_eq (endp : UsbEndpoint) (nump sent : Nat) (i : Fin 8) :
    withTotalBursts (announcedIn driver i endp nump) i
        (u8 ((announcedIn driver i endp nump).usb30.txTotalBursts i + 256 - sent)) =
      { driver with toUsb2Driver :=
          driver.setUsb30 (driver.usb30.announceRest i endp (usb30EndpNum i) nump sent) } := by
  unfold withTotalBursts announcedIn Usb30Endpoints.announceRest Usb30Endpoints.inClearInterrupt
    Usb30Driver.setUsbFcCtrl Usb30Driver.setUepTxCtrl Usb2Driver.setUsb30
  rfl

theorem invoke_idle (driver : Usb2Driver) (userCall : UserCall) :
    driver.invoke bsp userCall noReply =
      { driver with userCalls := driver.userCalls ++ [userCall] } := rfl

/-- The handler of the model, in the words of the one that logs. -/
theorem usb30EpInHandler_split (notControl : i ≠ 0) :
    driver.usb30EpInHandler bsp (usb30EndpNum i) noReply =
      let counted := driver.usb30.setRemaining i (leftToSend driver i)
      let called :=
        { driver.setUsb30 (counted.inClearInterrupt i) with
          userCalls := driver.userCalls ++ [UserCall.txComplete (usb30EndpNum i)] }
      if leftToSend driver i = 0 then
        called.setUsb30 (called.usb30.afterTxComplete i)
      else
        driver.setUsb30 (counted.announceRest i (driver.device.tx (usb30EndpNum i))
          (usb30EndpNum i) (usb30InNump (driver.usb30.uepTxCtrl i)) (packetsSent driver i)) := by
  unfold Usb2Driver.usb30EpInHandler
  rw [usb30EndpIndex_endpNum notControl]
  dsimp only
  rw [usb30RemainingAfter_eq, invoke_idle]
  rfl

theorem afterTxComplete_clear (usb30 : Usb30Endpoints) :
    (usb30.inClearInterrupt i).afterTxComplete i =
      { usb30.inClearInterrupt i with
        uepTxDma := Function.update (usb30.inClearInterrupt i).uepTxDma i 0 } := by
  have zero : usb30InNump ((usb30.inClearInterrupt i).uepTxCtrl i) = 0 := by
    rw [Usb30Endpoints.inClearInterrupt_self]
    exact usb30InNump_clear _
  exact if_pos zero

theorem afterEpIn_of_done (notControl : i ≠ 0) (done : leftToSend driver i = 0) :
    afterEpIn driver bsp i = finishedIn (withRemaining driver i (leftToSend driver i)) i := by
  unfold afterEpIn
  rw [usb30EpInHandler_split driver bsp notControl, if_pos done]
  change Usb30Driver.mk (Usb2Driver.setUsb30 _ (Usb30Endpoints.afterTxComplete
    ((driver.usb30.setRemaining i (leftToSend driver i)).inClearInterrupt i) i))
    _ _ _ _ _ _ _ _ _ _ _ _ _ = _
  rw [afterTxComplete_clear]
  unfold finishedIn withUserCall Usb30Driver.setUepTxCtrl withRemaining Usb2Driver.setUsb30
    Usb30Endpoints.inClearInterrupt
  rfl

theorem afterEpIn_of_left (notControl : i ≠ 0) (left : leftToSend driver i ≠ 0) :
    afterEpIn driver bsp i =
      { driver with toUsb2Driver :=
        driver.setUsb30 ((driver.usb30.setRemaining i (leftToSend driver i)).announceRest i
          (driver.device.tx (usb30EndpNum i)) (usb30EndpNum i)
          (usb30InNump (driver.usb30.uepTxCtrl i)) (packetsSent driver i)) } := by
  unfold afterEpIn
  rw [usb30EpInHandler_split driver bsp notControl, if_neg left]

/-- The handler that logs computes what the handler of the model does. -/
theorem usb30EpInHandler_runs (notControl : i ≠ 0) :
    Runs (usb30EpInHandler (driver.device.tx (usb30EndpNum i)) i) driver ()
      (afterEpIn driver bsp i)
      (countingLog driver i ++
        if leftToSend driver i = 0 then
          [.txCtrl i.val, .txCtrl i.val, .txCtrl (i.val ||| dirIn), .dma .tx i]
        else
          [.txCtrl i.val, .counter .tx i, .txCtrl i.val, .usbFcCtrl, .counter .tx i,
            .counter .tx i]) := by
  refine countingIn_runs driver i rfl ?_
  by_cases done : leftToSend driver i = 0
  · rw [afterEpIn_of_done driver bsp notControl done, if_pos done, if_pos done]
    exact finishIn_runs (withRemaining driver i (leftToSend driver i)) i
  · have announced := announceIn_runs (withRemaining driver i (leftToSend driver i)) i
      (driver.device.tx (usb30EndpNum i)) (usb30InNump (driver.usb30.uepTxCtrl i))
      (packetsSent driver i)
    rw [announced_eq] at announced
    rw [afterEpIn_of_left driver bsp notControl done, if_neg done, if_neg done]
    exact announced

/-- The handler for OUT bursts, too. -/
theorem usb30EpOutHandler_eq_rearmed (i : Fin 8) :
    driver.usb30EpOutHandler bsp i noReply =
      rearmedOut (calledOut (countedOut driver i) i (driver.device.rx (usb30EndpNum i))) i
        (driver.device.rx (usb30EndpNum i)) := by
  rw [Usb30Driver.usb30EpOutHandler_eq]
  rfl

end

end Logged

/-! ## Everything else -/

namespace Usb30Driver

variable (driver : Usb30Driver) (i : Fin 8)

/-- The driver without the registers and counters of an IN endpoint, without USB_FC_CTRL and
without the record of the callbacks. -/
def withoutIn : Usb30Driver :=
  { driver with
    toUsb2Driver := { driver.toUsb2Driver with
      userCalls := []
      usb30 :=
        { uepTxCtrl := Function.update driver.usb30.uepTxCtrl i 0#32
          uepTxDma := Function.update driver.usb30.uepTxDma i 0
          usbFcCtrl := 0#32
          txRemainingLength := Function.update driver.usb30.txRemainingLength i 0
          txTotalBursts := Function.update driver.usb30.txTotalBursts i 0 } } }

def withoutOut : Usb30Driver :=
  { driver with
    toUsb2Driver := { driver.toUsb2Driver with
      userCalls := []
      usb30 := { driver.usb30 with usbFcCtrl := 0#32 } }
    uepRxCtrl := Function.update driver.uepRxCtrl i 0#32
    uepRxDma := Function.update driver.uepRxDma i 0
    rxTotalLength := Function.update driver.rxTotalLength i 0
    rxPreviouslySetMaxBurst := Function.update driver.rxPreviouslySetMaxBurst i 0 }

open Logged in
theorem withoutIn_finishedIn (remaining : Nat) :
    (finishedIn (withRemaining driver i remaining) i).withoutIn i = driver.withoutIn i := by
  unfold finishedIn withUserCall setUepTxCtrl withRemaining Usb2Driver.setUsb30
    Usb30Endpoints.setRemaining withoutIn
  simp only [Function.update_idem]

theorem withoutIn_announceRest (endp : UsbEndpoint) (remaining nump sent : Nat) :
    ({ driver with toUsb2Driver :=
      driver.setUsb30 ((driver.usb30.setRemaining i remaining).announceRest i endp
        (usb30EndpNum i) nump sent) } : Usb30Driver).withoutIn i = driver.withoutIn i := by
  unfold Usb30Endpoints.announceRest Usb30Endpoints.inClearInterrupt Usb2Driver.setUsb30
    Usb30Endpoints.setRemaining withoutIn
  simp only [Function.update_idem]

open Logged in
theorem withoutOut_rearmedOut (endp : UsbEndpoint) :
    (rearmedOut (calledOut (countedOut driver i) i endp) i endp).withoutOut i =
      driver.withoutOut i := by
  unfold rearmedOut calledOut countedOut withUserCall acceptOut outClearInterrupt setRxBurst
    setRxTotalLength setUepRxCtrl setUsbFcCtrl withoutOut
  simp only [Function.update_idem]

end Usb30Driver

/-! ## The exact condition -/

namespace EndpointAccesses

open Logged Support.Runs

section

variable (bsp : Usb2Bsp) (driver : Usb30Driver) (i : Fin 8)

/-- `usb30_ep_in_handler`, whose callback does nothing, uses what belongs to its endpoint and
changes nothing else. -/
structure KeepsToIn : Prop where
  own : ∀ access ∈ (usb30EpInHandler (driver.device.tx (usb30EndpNum i)) i (driver, [])).2.2,
    access.Own .tx i
  others : (afterEpIn driver bsp i).withoutIn i = driver.withoutIn i

/-- The same for `usb30_ep_out_handler`. -/
structure KeepsToOut : Prop where
  own : ∀ access ∈ (usb30EpOutHandler (driver.device.rx (usb30EndpNum i)) i (driver, [])).2.2,
    access.Own .rx i
  others : (driver.usb30EpOutHandler bsp i noReply).withoutOut i = driver.withoutOut i

theorem keepsToOut : KeepsToOut bsp driver i := by
  have runs := (usb30EpOutHandler_runs driver i _ rfl).result
  constructor
  · rw [runs]
    simp
  · rw [usb30EpOutHandler_eq_rearmed]
    exact driver.withoutOut_rearmedOut i _

theorem own_countingLog : ∀ access ∈ countingLog driver i, access.Own .tx i := by
  intro access used
  rw [countingLog, List.mem_cons, List.mem_cons, List.mem_append, List.mem_singleton] at used
  rcases used with rfl | rfl | counted | rfl
  · exact rfl
  · exact ⟨rfl, rfl⟩
  · obtain rfl := List.eq_of_mem_replicate counted
    exact ⟨rfl, rfl⟩
  · exact ⟨rfl, rfl⟩

variable {i}

theorem withoutIn_afterEpIn (notControl : i ≠ 0) :
    (afterEpIn driver bsp i).withoutIn i = driver.withoutIn i := by
  by_cases done : leftToSend driver i = 0
  · rw [afterEpIn_of_done driver bsp notControl done]
    exact driver.withoutIn_finishedIn i _
  · rw [afterEpIn_of_left driver bsp notControl done]
    exact driver.withoutIn_announceRest i _ _ _ _

/-- The word that the handler writes at the end of a transfer belongs to no endpoint. -/
theorem not_own_dirIn : ¬(Usb30Access.txCtrl (i.val ||| dirIn)).Own .tx i := fun own =>
  outside_file i (own.trans_lt i.isLt)

theorem keepsToIn_iff (notControl : i ≠ 0) :
    KeepsToIn bsp driver i ↔ leftToSend driver i ≠ 0 := by
  have runs := (usb30EpInHandler_runs driver bsp notControl).result
  constructor
  · intro keeps done
    have own := keeps.own
    rw [runs, if_pos done] at own
    exact not_own_dirIn (own _ (by simp))
  · intro left
    constructor
    · rw [runs, if_neg left]
      refine List.forall_mem_append.mpr ⟨own_countingLog driver i, ?_⟩
      simp
    · exact withoutIn_afterEpIn bsp driver notControl

end

/-! ### Runs -/

variable (bsp : Usb2Bsp)

/-- The handler of an endpoint's event keeps to its endpoint. -/
def KeepsToEndpoint (driver : Usb30Driver) : Usb30Event → Prop
  | .epIn i _ ctrl _ => KeepsToIn bsp (driver.setUepTxCtrl i ctrl) i
  | .epOut i _ ctrl _ => KeepsToOut bsp (driver.setUepRxCtrl i ctrl) i
  | _ => True

/-- A burst on an IN endpoint leaves some bytes of the transfer. -/
def LeavesSome (driver : Usb30Driver) : Usb30Event → Prop
  | .epIn i _ ctrl _ => leftToSend (driver.setUepTxCtrl i ctrl) i ≠ 0
  | _ => True

theorem keepsToEndpoint_iff (driver : Usb30Driver) (event : Usb30Event) :
    KeepsToEndpoint bsp driver event ↔ LeavesSome driver event := by
  cases event with
  | epIn i notControl ctrl reply =>
      exact keepsToIn_iff bsp (driver.setUepTxCtrl i ctrl) notControl
  | epOut i notControl ctrl reply =>
      exact iff_of_true (keepsToOut bsp (driver.setUepRxCtrl i ctrl) i) trivial
  | setup packet reply => exact Iff.rfl
  | ep0In => exact Iff.rfl
  | ep0Status => exact Iff.rfl
  | ep0Out => exact Iff.rfl
  | link interrupt => exact Iff.rfl
  | call apiCall => exact Iff.rfl

/-- In every run, the handlers of the endpoints keep to their own endpoint exactly while no burst
ends an IN transfer. -/
theorem keeps_to_endpoint_iff (driver : Usb30Driver) (events : List Usb30Event) :
    EveryStep (OutBursts.take bsp) (KeepsToEndpoint bsp) driver events ↔
      EveryStep (OutBursts.take bsp) LeavesSome driver events := by
  have every : EveryStep (OutBursts.take bsp) (fun _ _ => True) driver events :=
    everyStep_of_forall (fun _ _ _ => trivial) driver
  exact @everyStep_iff _ _ (OutBursts.take bsp) (fun _ => True) (fun _ _ => True)
    (KeepsToEndpoint bsp) LeavesSome
    (fun driver event _ _ => keepsToEndpoint_iff bsp driver event)
    (fun _ _ _ _ _ _ _ => trivial) driver events trivial every

/-- The only packet of a transfer on endpoint 1 is followed by a write far past its register. -/
theorem transfer_end_leaves_file :
    ¬EveryStep (OutBursts.take OutBursts.bulkOutBsp) (KeepsToEndpoint OutBursts.bulkOutBsp)
      (Usb30Driver.initial onePacket.started)
      [.epIn 1 (by decide) 0#32 noReply] := fun keeps =>
  (keepsToEndpoint_iff OutBursts.bulkOutBsp _ _).mp keeps.1 (by decide)

end EndpointAccesses

end WchCh56x.Usb
