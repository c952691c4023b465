import WchCh56x.Support.Runs
import WchCh56x.Usb.OutEndpoints
import WchCh56x.Usb.Usb30Chart

/-!
# The bursts of a USB3 OUT endpoint

The handler infers the packets of a burst from the number it has announced and the
number that is left.  It reports the length and announces the same number again.
-/

namespace WchCh56x.Usb

/-! ## The control register -/

/-- The number of packets that `usb30_out_status` reads. -/
def usb30OutNump (ctrl : U32) : Nat := ((ctrl >>> 16) &&& 31#32).toNat

theorem usb30OutSet_eq (ctrl status nump : U32) :
    usb30OutSet ctrl status nump = usb30InSet ctrl 0#32 status nump 0#32 := by
  rw [usb30OutSet, usb30InSet, BitVec.zero_and, BitVec.zero_shiftLeft, BitVec.or_zero,
    BitVec.or_zero]

/-- The announced number replaces the one before it. -/
theorem usb30OutNump_set (ctrl status : U32) {nump : Nat} (fits : nump < 32) :
    usb30OutNump (usb30OutSet (usb30OutClearInterrupt ctrl) status (BitVec.ofNat 32 nump)) =
      nump := by
  have field := usb30InNump_set ctrl 0#32 status (BitVec.ofNat 32 nump) 0#32
  have inWord : nump % 2 ^ 32 = nump := Nat.mod_eq_of_lt (by omega)
  rw [BitVec.toNat_ofNat, inWord, Nat.mod_eq_of_lt fits] at field
  rw [usb30OutSet_eq]
  exact field

/-! ## The accumulated length -/

namespace Usb30Driver

variable (bsp : Usb2Bsp) (driver : Usb30Driver)

def KeepsLengths (next : Usb30Driver) : Prop := next.rxTotalLength = driver.rxTotalLength

/-- What the SETUP stage leaves alone: these lengths, and the counter of the IN packets. -/
def aside : (Fin 8 → Nat) × U32 := (driver.rxTotalLength, driver.count)

def KeepsAside (next : Usb30Driver) : Prop := next.aside = driver.aside

variable {driver}

theorem KeepsLengths.trans {middle next : Usb30Driver} (first : driver.KeepsLengths middle)
    (second : middle.KeepsLengths next) : driver.KeepsLengths next :=
  Eq.trans second first

theorem KeepsAside.trans {middle next : Usb30Driver} (first : driver.KeepsAside middle)
    (second : middle.KeepsAside next) : driver.KeepsAside next :=
  Eq.trans second first

theorem KeepsAside.lengths {next : Usb30Driver} (keeps : driver.KeepsAside next) :
    driver.KeepsLengths next := congrArg Prod.fst keeps

theorem KeepsAside.count {next : Usb30Driver} (keeps : driver.KeepsAside next) :
    next.count = driver.count := congrArg Prod.snd keeps

variable (driver)

theorem keepsAside_initEndpoint (i : Fin 8) : driver.KeepsAside (driver.initEndpoint i) := by
  unfold initEndpoint
  dsimp only
  split
  · split
    · rfl
    · rfl
  · split
    · rfl
    · rfl

theorem keepsAside_usb30InitEndpoints : driver.KeepsAside driver.usb30InitEndpoints := by
  unfold usb30InitEndpoints
  exact foldl_keeps { driver with uepCfg := epREn 0 ||| epTEn 0, uep0Dma := driver.endp0Buffer }
    aside keepsAside_initEndpoint usb30Endpoints

theorem keepsAside_usb30ReinitEndpoints : driver.KeepsAside driver.usb30ReinitEndpoints := by
  have keeps (driver : Usb30Driver) (i : Fin 8) : driver.KeepsAside (driver.clearInterruptAll i) :=
    rfl
  have cleared : driver.KeepsAside (usb30Endpoints.foldl clearInterruptAll driver) :=
    foldl_keeps driver aside keeps usb30Endpoints
  exact cleared.trans (keepsAside_usb30InitEndpoints _)

theorem keepsAside_usb30GetDescriptor (setup : UsbSetup) :
    driver.KeepsAside (driver.usb30GetDescriptor setup).2 := by
  rcases driver.usb30GetDescriptor_cases setup with same | same | ⟨descr, size, same⟩
  · rw [same]
    rfl
  · rw [same]
    rfl
  · rw [same]
    rfl

theorem keepsAside_usb30SetConfiguration (setup : UsbSetup) :
    driver.KeepsAside (driver.usb30SetConfiguration setup) := by
  have again := driver.keepsAside_usb30ReinitEndpoints
  unfold usb30SetConfiguration
  dsimp only
  split
  · exact again
  · exact again

theorem keepsAside_usb30StandardReqHandler :
    driver.KeepsAside driver.usb30StandardReqHandler.2 := by
  unfold usb30StandardReqHandler
  dsimp only
  split
  · exact keepsAside_usb30GetDescriptor _ _
  · split
    · rfl
    · split
      · rfl
      · split
        · exact keepsAside_usb30SetConfiguration _ _
        · split
          · rfl
          · split
            · rfl
            · split
              · rfl
              · split
                · rfl
                · rfl

theorem keepsAside_usb30UserRequest (reply : UserReply) :
    driver.KeepsAside (driver.usb30UserRequest bsp reply).2 := by
  unfold usb30UserRequest
  dsimp only
  split
  · split
    · rfl
    · rfl
  · split
    · rfl
    · rfl

theorem keepsAside_answerSetup (isIn : Bool) (reqLen : Nat) :
    driver.KeepsAside (driver.answerSetup isIn reqLen) := by
  obtain ⟨usb30, uepRxCtrl, changes⟩ := driver.answerSetup_changes isIn reqLen
  rw [changes]
  rfl

theorem keepsAside_usb30SetupStage (reply : UserReply) :
    driver.KeepsAside (driver.usb30SetupStage bsp reply) := by
  have handled : driver.KeepsAside ((driver.setUepRxCtrl 0 0#32).usb30Request bsp reply).2 := by
    unfold usb30Request
    split
    · exact keepsAside_usb30StandardReqHandler (driver.setUepRxCtrl 0 0#32)
    · exact keepsAside_usb30UserRequest bsp (driver.setUepRxCtrl 0 0#32) reply
  exact handled.trans (keepsAside_answerSetup _ _ _)

theorem keepsLengths_usb30Ep0In : driver.KeepsLengths driver.usb30Ep0In := by
  have handled : driver.KeepsLengths driver.ep0InHandler.2 := by
    unfold ep0InHandler
    split
    · rfl
    · rfl
  unfold usb30Ep0In
  dsimp only
  split
  · exact handled
  · exact handled

theorem keepsLengths_usb30Ep0Status : driver.KeepsLengths driver.usb30Ep0Status := by
  unfold usb30Ep0Status ep0StatusStageHandler
  split
  · rfl
  · rfl

/-! The events of the link set the endpoints up again or not at all. -/

theorem keepsLengths_usb30DeviceInit (enableUsb2Fallback : Bool) :
    driver.KeepsLengths (driver.usb30DeviceInit enableUsb2Fallback) := by
  unfold usb30DeviceInit
  refine KeepsLengths.trans ?_ (keepsAside_usb30InitEndpoints _).lengths
  rfl

theorem keepsLengths_usb30BusReset : driver.KeepsLengths driver.usb30BusReset :=
  keepsLengths_usb30DeviceInit driver.usb30DeviceDeinit driver.usb2FallbackEnabled

theorem keepsLengths_notReady (i : Fin 8) : driver.KeepsLengths (driver.notReady i) := by
  unfold notReady
  dsimp only
  split
  · split
    · rfl
    · rfl
  · split
    · rfl
    · rfl

theorem keepsLengths_linkHotReset : driver.KeepsLengths driver.linkHotReset := by
  unfold linkHotReset
  exact foldl_keeps
    (setUepTxCtrl { driver with usbControl := driver.usbControl ||| (1#32 <<< 31) } 0 0#32)
    rxTotalLength keepsLengths_notReady usb30Endpoints

theorem keepsLengths_whenFlag (flag : Bool) {branch : Usb30Driver → Usb30Driver}
    (keeps : ∀ driver : Usb30Driver, driver.KeepsLengths (branch driver)) :
    driver.KeepsLengths (driver.whenFlag flag branch) := by
  unfold whenFlag
  split
  · exact keeps driver
  · rfl

theorem keepsLengths_linkChanges (interrupt : LinkInterrupt) :
    driver.KeepsLengths (driver.linkChanges interrupt) := by
  have term (driver : Usb30Driver) :
      driver.KeepsLengths (driver.linkTermPresent interrupt.linkPresent) := by
    unfold linkTermPresent
    split
    · rfl
    · exact driver.keepsLengths_usb30BusReset
  have txeq (driver : Usb30Driver) : driver.KeepsLengths driver.linkTxeq := rfl
  have warm (driver : Usb30Driver) : driver.KeepsLengths driver.linkWarmReset :=
    driver.keepsLengths_usb30BusReset
  exact (((driver.keepsLengths_whenFlag _ term).trans (keepsLengths_whenFlag _ _ txeq)).trans
    (keepsLengths_whenFlag _ _ warm)).trans (keepsLengths_whenFlag _ _ keepsLengths_linkHotReset)

theorem keepsLengths_linkIrqHandler (interrupt : LinkInterrupt) :
    driver.KeepsLengths (driver.linkIrqHandler interrupt) := by
  have ready : driver.KeepsLengths (driver.whenFlag interrupt.ready linkReady) := by
    refine driver.keepsLengths_whenFlag _ fun driver => ?_
    unfold linkReady
    split
    · rfl
    · rfl
  unfold linkIrqHandler
  dsimp only
  split
  · split
    · refine ready.trans (KeepsLengths.trans ?_ (keepsLengths_linkChanges _ interrupt))
      unfold linkFallback
      dsimp only
      split
      · rfl
      · rfl
      · rfl
      · rfl
      · rfl
    · exact ready.trans (keepsLengths_usb30DeviceInit _ false)
  · exact ready.trans (keepsLengths_linkChanges _ interrupt)

/-! ## `usb30_ep_out_handler` -/

variable (i : Fin 8) (reply : UserReply)

def countOut : Usb30Driver :=
  let endp := driver.device.rx (usb30EndpNum i)
  let ctrl := driver.uepRxCtrl i
  driver.setRxTotalLength i (u16 (driver.rxTotalLength i + receivedLength endp.maxPacketSize
    (u8 (driver.rxPreviouslySetMaxBurst i + 256 - usb30OutNump ctrl)) (ctrl &&& 0xffff#32).toNat
      (ctrl.getLsbD 29)))

/-- The test for a burst that is over is always true. -/
theorem usb30EpOutHandler_eq :
    driver.usb30EpOutHandler bsp i reply = (driver.countOut i).reportOut bsp i reply := by
  refine if_pos ?_
  cases (driver.uepRxCtrl i).getLsbD 29 with
  | false => exact .inr (.inr rfl)
  | true => exact .inl rfl

theorem rxTotalLength_usb30EpOutHandler :
    (driver.usb30EpOutHandler bsp i reply).rxTotalLength =
      Function.update driver.rxTotalLength i 0 := by
  rw [usb30EpOutHandler_eq]
  exact Function.update_idem ..

end Usb30Driver

namespace OutBursts

open Usb30Driver Support.Runs

variable (bsp : Usb2Bsp) (driver : Usb30Driver)

theorem step_epOut (i : Fin 8) (notControl : i ≠ 0) (ctrl : U32) (reply : UserReply) :
    Usb30Event.step bsp driver (.epOut i notControl ctrl reply) =
      ((driver.setUepRxCtrl i ctrl).countOut i).reportOut bsp i reply := by
  have entered := usbssIrqHandler_eq bsp (driver.setUepRxCtrl i ctrl) i false reply
  rw [if_pos notControl] at entered
  exact entered.trans (usb30EpOutHandler_eq bsp (driver.setUepRxCtrl i ctrl) i reply)

def NothingCounted : Prop := ∀ i, driver.rxTotalLength i = 0

variable {driver}

theorem NothingCounted.of_keeps {next : Usb30Driver} (nothing : NothingCounted driver)
    (keeps : driver.KeepsLengths next) : NothingCounted next := fun i =>
  (congrFun keeps i).trans (nothing i)

theorem nothingCounted_step (nothing : NothingCounted driver) (event : Usb30Event) :
    NothingCounted (event.step bsp driver) := by
  cases event with
  | setup packet reply =>
      rw [step_setup30]
      exact nothing.of_keeps
        (keepsAside_usb30SetupStage bsp (driver.setupPending30 packet) reply).lengths
  | ep0In =>
      rw [step_ep0In]
      exact nothing.of_keeps driver.keepsLengths_usb30Ep0In
  | ep0Status =>
      rw [step_ep0Status]
      exact nothing.of_keeps (keepsLengths_usb30Ep0Status (driver.ep0Received false true))
  | ep0Out =>
      rw [step_ep0Out]
      exact nothing
  | epIn i notControl ctrl reply =>
      have entered := usbssIrqHandler_eq bsp (driver.setUepTxCtrl i ctrl) i true reply
      rw [if_pos notControl] at entered
      exact nothing.of_keeps ((congrArg Usb30Driver.rxTotalLength entered).trans rfl)
  | epOut i notControl ctrl reply =>
      have handled := rxTotalLength_usb30EpOutHandler bsp (driver.setUepRxCtrl i ctrl) i reply
      rw [usb30EpOutHandler_eq] at handled
      intro other
      rw [step_epOut, handled]
      by_cases isIt : other = i
      · subst isIt
        exact Function.update_self ..
      · exact (Function.update_of_ne isIt ..).trans (nothing other)
  | link interrupt => exact nothing.of_keeps (driver.keepsLengths_linkIrqHandler interrupt)
  | call apiCall => exact nothing

/-- Every handler leaves the lengths at 0. -/
theorem nothingCounted_run (nothing : NothingCounted driver) (events : List Usb30Event) :
    NothingCounted (Usb30Event.run bsp driver events) := by
  induction events generalizing driver with
  | nil => exact nothing
  | cons event rest ih => exact ih (nothingCounted_step bsp nothing event)

/-! ## A burst -/

variable (driver) (i : Fin 8)

def endpoint : UsbEndpoint := driver.device.rx (usb30EndpNum i)

/-- What the driver needs to count the next burst, where it has announced packets. -/
structure Armed : Prop where
  counted : driver.rxTotalLength i = 0
  announced : driver.rxPreviouslySetMaxBurst i = (endpoint driver i).maxBurst
  nump : usb30OutNump (driver.uepRxCtrl i) = (endpoint driver i).maxBurst
  address : driver.uepRxDma i = (endpoint driver i).buffer

/-- The word that `packets` packets leave in the control register, of which the last has `last`
bytes. -/
structure Received (ctrl : U32) (packets last : Nat) : Prop where
  some : 1 ≤ packets
  announced : packets ≤ usb30OutNump (driver.uepRxCtrl i)
  fits : last ≤ (endpoint driver i).maxPacketSize
  nump : usb30OutNump ctrl = usb30OutNump (driver.uepRxCtrl i) - packets
  length : (ctrl &&& 0xffff#32).toNat = last
  status : ctrl.getLsbD 29 = decide (last < (endpoint driver i).maxPacketSize)

/-- The burst is reported once with its length, and the endpoint is ready for the next one. -/
structure Reported (after : Usb30Driver) (packets last : Nat) : Prop where
  calls : after.userCalls = driver.userCalls ++
    [.rxCallback (usb30EndpNum i) (endpoint driver i).buffer
      ((packets - 1) * (endpoint driver i).maxPacketSize + last)]
  armed : Armed after i

/-- A burst of the endpoint fits the 16 bits of its length and the five bits of its number. -/
structure Sizes : Prop where
  packetSize_pos : 0 < (endpoint driver i).maxPacketSize
  burst_pos : 1 ≤ (endpoint driver i).maxBurst
  burst_le : (endpoint driver i).maxBurst ≤ 16
  fits : (endpoint driver i).maxPacketSize * (endpoint driver i).maxBurst ≤ 65535

variable {driver} {i}

/-- A handler leaves the OUT endpoints but for their states. -/
theorem sameOutEndpoints_reportOut (driver : Usb30Driver) (i : Fin 8) (reply : UserReply) :
    driver.SameOutEndpoints (driver.reportOut bsp i reply).toUsb2Driver := by
  have called := driver.toUsb2Driver.sameOutEndpoints_invoke bsp
    (.rxCallback (usb30EndpNum i) (endpoint driver i).buffer (driver.rxTotalLength i)) reply
  exact called

/-- The packets are inferred from the announced number, and the bytes from the packets. -/
theorem counted_eq (sizes : Sizes driver i) (armed : Armed driver i) {ctrl : U32}
    {packets last : Nat} (received : Received driver i ctrl packets last) :
    ((driver.setUepRxCtrl i ctrl).countOut i).rxTotalLength i =
      (packets - 1) * (endpoint driver i).maxPacketSize + last := by
  have ctrlIs : (driver.setUepRxCtrl i ctrl).uepRxCtrl i = ctrl := setUepRxCtrl_self ..
  have counted : ((driver.setUepRxCtrl i ctrl).countOut i).rxTotalLength i =
      u16 (0 + receivedLength (endpoint driver i).maxPacketSize
        (u8 ((endpoint driver i).maxBurst + 256 - usb30OutNump ctrl)) last
          (decide (last < (endpoint driver i).maxPacketSize))) := by
    unfold countOut
    dsimp only
    rw [ctrlIs, received.length, received.status, ← armed.announced, ← armed.counted]
    exact Function.update_self ..
  have announced := received.announced
  have burst_le := sizes.burst_le
  have isSent : u8 ((endpoint driver i).maxBurst + 256 - usb30OutNump ctrl) = packets := by
    rw [received.nump, armed.nump]
    rw [armed.nump] at announced
    unfold u8
    omega
  have fits := received.fits
  have inBurst : packets * (endpoint driver i).maxPacketSize ≤ 65535 := by
    rw [armed.nump] at announced
    rw [Nat.mul_comm]
    exact (Nat.mul_le_mul_left _ announced).trans sizes.fits
  obtain ⟨before, rfl⟩ : ∃ before, packets = before + 1 :=
    Nat.exists_eq_succ_of_ne_zero (Nat.pos_iff_ne_zero.mp received.some)
  rw [Nat.succ_mul] at inBurst
  rw [counted, isSent, Nat.zero_add, Nat.add_sub_cancel, receivedLength, Nat.mul_succ,
    Nat.mul_comm _ before]
  unfold u16
  split
  · omega
  · next notShort =>
      have isFull : last = (endpoint driver i).maxPacketSize :=
        le_antisymm fits (Nat.le_of_not_lt (of_decide_eq_false (Bool.not_eq_true _ ▸ notShort)))
      omega

/-- The handler announces the bursts of the endpoint on a control register that it has cleared. -/
theorem uepRxCtrl_reportOut (driver : Usb30Driver) (i : Fin 8) (reply : UserReply) :
    ∃ before, (driver.reportOut bsp i reply).uepRxCtrl i =
      usb30OutSet (usb30OutClearInterrupt before) usb30Ack
        (BitVec.ofNat 32 (endpoint (driver.reportOut bsp i reply) i).maxBurst) := by
  refine ⟨usb30OutSet (driver.uepRxCtrl i) usb30Nrdy 0#32, ?_⟩
  have notReady := setUepRxCtrl_self driver i (usb30OutSet (driver.uepRxCtrl i) usb30Nrdy 0#32)
  have cleared (driver : Usb30Driver) : (driver.outClearInterrupt i).uepRxCtrl i =
      usb30OutClearInterrupt (driver.uepRxCtrl i) := setUepRxCtrl_self ..
  have accepted (driver : Usb30Driver) (nump : Nat) : (driver.acceptOut i nump).uepRxCtrl i =
      usb30OutSet (driver.uepRxCtrl i) usb30Ack (BitVec.ofNat 32 nump) := setUepRxCtrl_self ..
  unfold reportOut
  dsimp only
  rw [accepted]
  refine congrArg (usb30OutSet · usb30Ack _) ((cleared _).trans ?_)
  exact congrArg usb30OutClearInterrupt notReady

theorem armed_reportOut (driver : Usb30Driver) (i : Fin 8) (reply : UserReply)
    (burst_le : (endpoint driver i).maxBurst ≤ 16) :
    Armed (driver.reportOut bsp i reply) i := by
  obtain ⟨state, same⟩ := sameOutEndpoints_reportOut bsp driver i reply (usb30EndpNum i)
  have burst : (endpoint (driver.reportOut bsp i reply) i).maxBurst = (endpoint driver i).maxBurst :=
    (congrArg UsbEndpoint.maxBurst same).trans rfl
  refine ⟨Function.update_self .., Function.update_self .., ?_, Function.update_self ..⟩
  have inField : (endpoint (driver.reportOut bsp i reply) i).maxBurst < 32 := by omega
  obtain ⟨before, isSet⟩ := uepRxCtrl_reportOut bsp driver i reply
  rw [isSet]
  exact usb30OutNump_set before usb30Ack inField

/-- A burst of an armed endpoint is reported, and the endpoint is armed again. -/
theorem reported_step (sizes : Sizes driver i) (armed : Armed driver i) (notControl : i ≠ 0)
    {ctrl : U32} {packets last : Nat} (received : Received driver i ctrl packets last)
    (reply : UserReply) :
    Reported driver i (Usb30Event.step bsp driver (.epOut i notControl ctrl reply)) packets last := by
  rw [step_epOut]
  refine ⟨?_, armed_reportOut bsp _ i reply sizes.burst_le⟩
  rw [← counted_eq sizes armed received]
  exact congrArg Fixed.userCalls (Usb2Driver.fixed_invoke bsp
    ((driver.setUepRxCtrl i ctrl).countOut i).toUsb2Driver
    (.rxCallback (usb30EndpNum i) (endpoint driver i).buffer
      (((driver.setUepRxCtrl i ctrl).countOut i).rxTotalLength i)) reply)

/-! ## The endpoints apart from each other -/

/-- What the bursts of one endpoint read. -/
structure OutView where
  ctrl : U32
  burst : Nat
  dma : Nat
  total : Nat
  buffer : Nat
  maxBurst : Nat
  maxPacketSize : Nat
  mask : U32

def outView (driver : Usb30Driver) (i : Fin 8) : OutView where
  ctrl := driver.uepRxCtrl i
  burst := driver.rxPreviouslySetMaxBurst i
  dma := driver.uepRxDma i
  total := driver.rxTotalLength i
  buffer := (endpoint driver i).buffer
  maxBurst := (endpoint driver i).maxBurst
  maxPacketSize := (endpoint driver i).maxPacketSize
  mask := driver.device.endpointMask

variable {next : Usb30Driver}

theorem Armed.of_view (armed : Armed driver i) (same : outView next i = outView driver i) :
    Armed next i := by
  have burst := congrArg OutView.maxBurst same
  have buffer := congrArg OutView.buffer same
  constructor
  · exact (congrArg OutView.total same).trans armed.counted
  · exact ((congrArg OutView.burst same).trans armed.announced).trans burst.symm
  · have ctrl := congrArg (fun view : OutView => usb30OutNump view.ctrl) same
    exact (ctrl.trans armed.nump).trans burst.symm
  · exact ((congrArg OutView.dma same).trans armed.address).trans buffer.symm

theorem Sizes.of_same (sizes : Sizes driver i) (same : driver.SameOutEndpoints next.toUsb2Driver) :
    Sizes next i := by
  obtain ⟨state, isNext⟩ := same (usb30EndpNum i)
  have next_eq : endpoint next i = { endpoint driver i with state := state } := isNext
  constructor
  · rw [next_eq]
    exact sizes.packetSize_pos
  · rw [next_eq]
    exact sizes.burst_pos
  · rw [next_eq]
    exact sizes.burst_le
  · rw [next_eq]
    exact sizes.fits

theorem outView_reportOut_of_ne (driver : Usb30Driver) {other : Fin 8} (apart : i ≠ other)
    (reply : UserReply) : outView (driver.reportOut bsp other reply) i = outView driver i := by
  obtain ⟨state, same⟩ := sameOutEndpoints_reportOut bsp driver other reply (usb30EndpNum i)
  have isEndpoint : endpoint (driver.reportOut bsp other reply) i =
      { endpoint driver i with state := state } := same
  have ctrl : (driver.reportOut bsp other reply).uepRxCtrl i = driver.uepRxCtrl i :=
    ((Function.update_of_ne apart ..).trans (Function.update_of_ne apart ..)).trans
      (Function.update_of_ne apart ..)
  have burst : (driver.reportOut bsp other reply).rxPreviouslySetMaxBurst i =
      driver.rxPreviouslySetMaxBurst i := Function.update_of_ne apart ..
  have dma : (driver.reportOut bsp other reply).uepRxDma i = driver.uepRxDma i :=
    Function.update_of_ne apart ..
  have total : (driver.reportOut bsp other reply).rxTotalLength i = driver.rxTotalLength i :=
    Function.update_of_ne apart ..
  have mask : (driver.reportOut bsp other reply).device.endpointMask =
      driver.device.endpointMask := congrArg Config.endpointMask (Usb2Driver.config_invoke bsp
        (driver.setUepRxCtrl other (usb30OutSet (driver.uepRxCtrl other) usb30Nrdy 0#32)).toUsb2Driver
        (.rxCallback (usb30EndpNum other) (endpoint driver other).buffer
          (driver.rxTotalLength other)) reply)
  unfold outView
  rw [isEndpoint, ctrl, burst, dma, total, mask]

/-! ## `usb30_reinit_endpoints` -/

theorem endpoint_initOut (driver : Usb30Driver) (i other : Fin 8) :
    ∃ state, endpoint (driver.initOut other) i = { endpoint driver i with state := state } :=
  driver.sameOutEndpoints_setRx (usb30EndpNum other) endpStateAck (usb30EndpNum i)

theorem outView_initEndpoint_of_ne (driver : Usb30Driver) {other : Fin 8} (apart : i ≠ other) :
    outView (driver.initEndpoint other) i = outView driver i := by
  have out (driver : Usb30Driver) : outView (driver.initOut other) i = outView driver i := by
    obtain ⟨state, isEndpoint⟩ := endpoint_initOut driver i other
    have ctrl : (driver.initOut other).uepRxCtrl i = driver.uepRxCtrl i :=
      Function.update_of_ne apart ..
    have burst : (driver.initOut other).rxPreviouslySetMaxBurst i =
        driver.rxPreviouslySetMaxBurst i := Function.update_of_ne apart ..
    have dma : (driver.initOut other).uepRxDma i = driver.uepRxDma i := Function.update_of_ne apart ..
    have total : (driver.initOut other).rxTotalLength i = driver.rxTotalLength i := rfl
    have mask : (driver.initOut other).device.endpointMask = driver.device.endpointMask := rfl
    unfold outView
    rw [isEndpoint, ctrl, burst, dma, total, mask]
  have both : outView (if EnabledIn driver.device.endpointMask .tx (usb30EndpNum other) then
      driver.initIn other else driver) i = outView driver i := by
    split
    · rfl
    · rfl
  unfold initEndpoint
  dsimp only
  split
  · exact (out _).trans both
  · exact both

/-- The endpoint has announced its bursts, or nothing if the device does not have it. -/
def SetUp (driver : Usb30Driver) (i : Fin 8) : Prop :=
  usb30OutNump (driver.uepRxCtrl i) ≠ 0 → Armed driver i

theorem SetUp.of_view (setUp : SetUp driver i) (same : outView next i = outView driver i) :
    SetUp next i := by
  intro announced
  have ctrl : next.uepRxCtrl i = driver.uepRxCtrl i := congrArg OutView.ctrl same
  rw [ctrl] at announced
  exact (setUp announced).of_view same

theorem setUp_of_cleared (cleared : driver.uepRxCtrl i = 0#32) : SetUp driver i := by
  intro announced
  rw [cleared] at announced
  exact absurd rfl announced

theorem setUp_initEndpoint (driver : Usb30Driver) (i : Fin 8) (cleared : driver.uepRxCtrl i = 0#32)
    (nothing : driver.rxTotalLength i = 0) (burst_le : (endpoint driver i).maxBurst ≤ 16) :
    SetUp (driver.initEndpoint i) i := by
  have out (driver : Usb30Driver) (cleared : driver.uepRxCtrl i = 0#32)
      (nothing : driver.rxTotalLength i = 0) (burst_le : (endpoint driver i).maxBurst ≤ 16) :
      Armed (driver.initOut i) i := by
    obtain ⟨state, isEndpoint⟩ := endpoint_initOut driver i i
    have burst : (endpoint (driver.initOut i) i).maxBurst = (endpoint driver i).maxBurst :=
      (congrArg UsbEndpoint.maxBurst isEndpoint).trans rfl
    have buffer : (endpoint (driver.initOut i) i).buffer = (endpoint driver i).buffer :=
      (congrArg UsbEndpoint.buffer isEndpoint).trans rfl
    have ctrl : (driver.initOut i).uepRxCtrl i = usb30OutSet (usb30OutClearInterrupt 0#32) usb30Ack
        (BitVec.ofNat 32 (endpoint driver i).maxBurst) := by
      rw [usb30OutClearInterrupt, BitVec.zero_and, ← cleared]
      exact Function.update_self ..
    constructor
    · exact nothing
    · rw [burst]
      exact Function.update_self ..
    · rw [burst, ctrl]
      exact usb30OutNump_set 0#32 usb30Ack (by omega)
    · rw [buffer]
      exact Function.update_self ..
  unfold initEndpoint
  dsimp only
  split
  · intro _
    refine out _ ?_ ?_ ?_
    · split
      · exact cleared
      · exact cleared
    · split
      · exact nothing
      · exact nothing
    · split
      · exact burst_le
      · exact burst_le
  · refine setUp_of_cleared ?_
    split
    · exact cleared
    · exact cleared

theorem outView_foldl_of_notMem (driver : Usb30Driver) {endpoints : List (Fin 8)}
    (apart : i ∉ endpoints) : outView (endpoints.foldl initEndpoint driver) i = outView driver i := by
  induction endpoints generalizing driver with
  | nil => rfl
  | cons other rest ih =>
      obtain ⟨notThis, notRest⟩ := not_or.mp fun both => apart (List.mem_cons.mpr both)
      exact (ih (driver.initEndpoint other) notRest).trans
        (outView_initEndpoint_of_ne driver notThis)

theorem setUp_foldl (driver : Usb30Driver) {endpoints : List (Fin 8)} (nodup : endpoints.Nodup)
    (cleared : driver.uepRxCtrl i = 0#32) (nothing : driver.rxTotalLength i = 0)
    (burst_le : (endpoint driver i).maxBurst ≤ 16) :
    SetUp (endpoints.foldl initEndpoint driver) i := by
  induction endpoints generalizing driver with
  | nil => exact setUp_of_cleared cleared
  | cons other rest ih =>
      obtain ⟨notRest, restNodup⟩ := List.nodup_cons.mp nodup
      by_cases isIt : i = other
      · subst isIt
        exact (setUp_initEndpoint driver i cleared nothing burst_le).of_view
          (outView_foldl_of_notMem (driver.initEndpoint i) notRest)
      · have same := outView_initEndpoint_of_ne driver isIt
        refine ih (driver.initEndpoint other) restNodup ?_ ?_ ?_
        · exact (congrArg OutView.ctrl same).trans cleared
        · exact (congrArg OutView.total same).trans nothing
        · exact (congrArg OutView.maxBurst same).trans_le burst_le

theorem uepRxCtrl_clearAll (driver : Usb30Driver) {endpoints : List (Fin 8)}
    (clears : i ∈ endpoints ∨ driver.uepRxCtrl i = 0#32) :
    (endpoints.foldl clearInterruptAll driver).uepRxCtrl i = 0#32 := by
  induction endpoints generalizing driver with
  | nil => exact clears.resolve_left (List.not_mem_nil)
  | cons other rest ih =>
      apply ih
      by_cases isIt : i = other
      · subst isIt
        right
        exact Function.update_self ..
      · rcases clears with member | cleared
        · left
          exact (List.mem_cons.mp member).resolve_left isIt
        · right
          exact (Function.update_of_ne isIt ..).trans cleared

theorem device_clearAll (driver : Usb30Driver) :
    (usb30Endpoints.foldl clearInterruptAll driver).device = driver.device := by
  have keeps (driver : Usb30Driver) (i : Fin 8) :
      (driver.clearInterruptAll i).device = driver.device := rfl
  exact foldl_keeps driver (fun driver => driver.device) keeps usb30Endpoints

theorem setUp_reinit (driver : Usb30Driver) (notControl : i ≠ 0)
    (nothing : driver.rxTotalLength i = 0) (burst_le : (endpoint driver i).maxBurst ≤ 16) :
    SetUp driver.usb30ReinitEndpoints i := by
  have inFile : ∀ i : Fin 8, i ≠ 0 → i ∈ usb30Endpoints := by decide
  have cleared := uepRxCtrl_clearAll driver (.inl (inFile i notControl))
  have keeps (driver : Usb30Driver) (i : Fin 8) :
      (driver.clearInterruptAll i).rxTotalLength = driver.rxTotalLength := rfl
  have lengths := foldl_keeps driver rxTotalLength keeps usb30Endpoints
  have device := device_clearAll driver
  unfold usb30ReinitEndpoints usb30InitEndpoints
  refine setUp_foldl _ (by decide) cleared ?_ ?_
  · exact (congrFun lengths i).trans nothing
  · exact (congrArg (fun device : UsbDevice => (device.rx (usb30EndpNum i)).maxBurst)
      device).trans_le burst_le

theorem sameOutEndpoints_initEndpoint (driver : Usb30Driver) (i : Fin 8) :
    driver.SameOutEndpoints (driver.initEndpoint i).toUsb2Driver := by
  have first : driver.SameOutEndpoints (if EnabledIn driver.device.endpointMask .tx (usb30EndpNum i)
      then driver.initIn i else driver).toUsb2Driver := by
    split
    · exact .refl
    · exact .refl
  unfold initEndpoint
  dsimp only
  split
  · exact first.trans (Usb2Driver.sameOutEndpoints_setRx _ (usb30EndpNum i) endpStateAck)
  · exact first

theorem sameOutEndpoints_usb30InitEndpoints (driver : Usb30Driver) :
    driver.SameOutEndpoints driver.usb30InitEndpoints.toUsb2Driver := by
  have initAll (driver : Usb30Driver) (endpoints : List (Fin 8)) :
      driver.SameOutEndpoints (endpoints.foldl initEndpoint driver).toUsb2Driver := by
    induction endpoints generalizing driver with
    | nil => exact .refl
    | cons i rest ih =>
        exact (sameOutEndpoints_initEndpoint driver i).trans (ih (driver.initEndpoint i))
  unfold usb30InitEndpoints
  exact initAll { driver with uepCfg := epREn 0 ||| epTEn 0, uep0Dma := driver.endp0Buffer }
    usb30Endpoints

theorem sameOutEndpoints_reinit (driver : Usb30Driver) :
    driver.SameOutEndpoints driver.usb30ReinitEndpoints.toUsb2Driver := by
  have device := device_clearAll driver
  have cleared : driver.SameOutEndpoints
      (usb30Endpoints.foldl clearInterruptAll driver).toUsb2Driver :=
    .of_eq (congrArg UsbDevice.rx device)
  unfold usb30ReinitEndpoints
  exact cleared.trans (sameOutEndpoints_usb30InitEndpoints _)

/-! ## Runs -/

def take (driver : Usb30Driver) (event : Usb30Event) : Option Usb30Driver :=
  some (event.step bsp driver)

/-- The host sends bursts on OUT endpoints, on this one no more packets than announced. -/
def HostSends (i : Fin 8) (driver : Usb30Driver) : Usb30Event → Prop
  | .epOut other _ ctrl _ => other = i → ∃ packets last, Received driver i ctrl packets last
  | _ => False

def BurstReported (i : Fin 8) (driver : Usb30Driver) : Usb30Event → Prop
  | .epOut other notControl ctrl reply => other = i → ∀ packets last,
      Received driver i ctrl packets last →
        Reported driver i (Usb30Event.step bsp driver (.epOut other notControl ctrl reply)) packets
          last
  | _ => True

theorem setUp_step (sizes : Sizes driver i) (setUp : SetUp driver i) {event : Usb30Event}
    (host : HostSends i driver event) :
    SetUp (event.step bsp driver) i ∧ Sizes (event.step bsp driver) i := by
  cases event with
  | epOut other notControl ctrl reply =>
      have same := sameOutEndpoints_reportOut bsp ((driver.setUepRxCtrl other ctrl).countOut other)
        other reply
      rw [step_epOut]
      refine ⟨?_, sizes.of_same same⟩
      by_cases isIt : other = i
      · subst isIt
        exact fun _ => armed_reportOut bsp _ other reply sizes.burst_le
      · have apart : i ≠ other := fun same => isIt same.symm
        have counted : outView ((driver.setUepRxCtrl other ctrl).countOut other) i =
            outView driver i := by
          have ctrlKept : ((driver.setUepRxCtrl other ctrl).countOut other).uepRxCtrl i =
              driver.uepRxCtrl i := Function.update_of_ne apart ..
          have totalKept : ((driver.setUepRxCtrl other ctrl).countOut other).rxTotalLength i =
              driver.rxTotalLength i := Function.update_of_ne apart ..
          unfold outView
          rw [ctrlKept, totalKept]
          rfl
        exact setUp.of_view ((outView_reportOut_of_ne bsp _ apart reply).trans counted)
  | setup packet reply => exact host.elim
  | ep0In => exact host.elim
  | ep0Status => exact host.elim
  | ep0Out => exact host.elim
  | epIn other notControl ctrl reply => exact host.elim
  | link interrupt => exact host.elim
  | call apiCall => exact host.elim

/-- A burst that a host sends for the announced packets is reported. -/
theorem burstReported_step (sizes : Sizes driver i) (setUp : SetUp driver i) (event : Usb30Event) :
    BurstReported bsp i driver event := by
  cases event with
  | epOut other notControl ctrl reply =>
      rintro rfl packets last received
      have announced : usb30OutNump (driver.uepRxCtrl other) ≠ 0 :=
        Nat.pos_iff_ne_zero.mp (received.some.trans received.announced)
      exact reported_step bsp sizes (setUp announced) notControl received reply
  | setup packet reply => trivial
  | ep0In => trivial
  | ep0Status => trivial
  | ep0Out => trivial
  | epIn other notControl ctrl reply => trivial
  | link interrupt => trivial
  | call apiCall => trivial

/-- After `usb30_reinit_endpoints` every burst on an OUT endpoint is reported with its length. -/
theorem bursts_reported (bsp : Usb2Bsp) (usb2 : Usb2Driver) (earlier : List Usb30Event) (i : Fin 8)
    (notControl : i ≠ 0)
    (sizes : Sizes (Usb30Event.run bsp (Usb30Driver.initial usb2) earlier) i)
    (events : List Usb30Event)
    (host : EveryStep (take bsp) (HostSends i)
      (Usb30Event.run bsp (Usb30Driver.initial usb2) earlier).usb30ReinitEndpoints events) :
    EveryStep (take bsp) (BurstReported bsp i)
      (Usb30Event.run bsp (Usb30Driver.initial usb2) earlier).usb30ReinitEndpoints events := by
  have nothing := nothingCounted_run bsp (fun i => rfl : NothingCounted (Usb30Driver.initial usb2))
    earlier
  have setUp := setUp_reinit _ notControl (nothing i) sizes.burst_le
  have startSizes := sizes.of_same (sameOutEndpoints_reinit _)
  have start : SetUp _ i ∧ Sizes _ i := ⟨setUp, startSizes⟩
  refine @everyStep_of_everyStep _ _ (take bsp) (fun driver => SetUp driver i ∧ Sizes driver i)
    (HostSends i) (HostSends i) (BurstReported bsp i) ?_ ?_ _ events start host host
  · rintro driver event ⟨ready, sizes⟩ _ _
    exact burstReported_step bsp sizes ready event
  · rintro driver event next ⟨ready, sizes⟩ sends stepped
    obtain rfl := Option.some.inj stepped
    exact setUp_step bsp sizes ready sends

/-! ## Two bursts -/

def bulkOut : UsbDevice :=
  { usbDevice0 with
    endpointMask := endpointBit .rx 1
    rx := Function.update usbDevice0.rx 1 ⟨0x20021000, 4, 1024, 4096, endpStateAck⟩ }

def twoBursts : List Usb30Event :=
  [.epOut 1 (by decide) 0x20020064#32 noReply,
    .epOut 1 (by decide) 0x00000400#32 noReply]

def bulkOutBsp : Usb2Bsp := .bit3

def bulkOutStart : Usb30Driver :=
  (Usb30Event.run bulkOutBsp (Usb30Driver.initial (Usb2Driver.initial bulkOut fun _ => 0#8))
    []).usb30ReinitEndpoints

theorem two_bursts_reported :
    EveryStep (take bulkOutBsp) (BurstReported bulkOutBsp 1) bulkOutStart twoBursts := by
  refine bursts_reported bulkOutBsp (Usb2Driver.initial bulkOut fun _ => 0#8) [] 1 (by decide)
    ⟨by decide, by decide, by decide, by decide⟩ twoBursts ?_
  refine ⟨fun _ => ⟨2, 100, by decide, by decide, by decide, by decide, by decide, by decide⟩,
    fun next stepped => ⟨fun _ => ⟨4, 1024, ?_⟩, fun _ _ => trivial⟩⟩
  obtain rfl := Option.some.inj stepped
  exact ⟨by decide, by decide, by decide, by decide, by decide, by decide⟩

end OutBursts

end WchCh56x.Usb
