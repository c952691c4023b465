import WchCh56x.Support.Runs
import WchCh56x.Usb.TransferCtrl
import Mathlib.Data.Nat.Bits

/-!
# The data toggle of an OUT endpoint

The toggle an endpoint expects is flipped when a packet is answered with ACK, or,
after another answer, when the state is set to ACK later.
-/

namespace WchCh56x.Usb.OutToggle

open Support.Runs

structure OutEndpoint where
  driver : Usb2Driver
  /-- The packets accepted. -/
  accepted : Nat
  /-- The last packet was not answered with ACK, and ACK has not been set since. -/
  deferred : Bool

inductive OutAct where
  /-- An OUT packet with the expected toggle. -/
  | packet (numBytesReceived : Nat) (reply : UserReply)
  | setState (state : U8)

section

variable (bsp : Usb2Bsp) (endpNum : Fin 16)

def OutEndpoint.ctrl (endp : OutEndpoint) : U8 :=
  endp.driver.rxCtrl (usb2EndpointReg endpNum)

/-- The hardware takes a packet only while the endpoint answers ACK. -/
def step (endp : OutEndpoint) : OutAct → Option OutEndpoint
  | .packet numBytesReceived reply =>
      if response (endp.ctrl endpNum) = uepResAck then
        some {
          driver := endp.driver.usb2OutTransferHandler bsp endpNum numBytesReceived reply
          accepted := endp.accepted + 1
          deferred := reply.state ≠ endpStateAck }
      else
        none
  | .setState state =>
      some {
        driver := endp.driver.endpRxSetState bsp endpNum state
        accepted := endp.accepted
        deferred := endp.deferred && state ≠ endpStateAck }

/-- Packets come only while the endpoint answers ACK; callbacks and callers use the three states. -/
def Admissible (endp : OutEndpoint) : OutAct → Prop
  | .packet _ reply => response (endp.ctrl endpNum) = uepResAck ∧ EndpState reply.state
  | .setState state => EndpState state

instance (endp : OutEndpoint) (act : OutAct) : Decidable (Admissible endpNum endp act) :=
  match act with
  | .packet _ _ => inferInstanceAs (Decidable (_ ∧ _))
  | .setState _ => inferInstanceAs (Decidable (EndpState _))

/-- Whenever the endpoint answers ACK, it expects the toggle of the next packet. -/
def InStep (endp : OutEndpoint) : Prop :=
  response (endp.ctrl endpNum) = uepResAck → toggle bsp (endp.ctrl endpNum) = endp.accepted.bodd

instance (endp : OutEndpoint) : Decidable (InStep bsp endpNum endp) :=
  inferInstanceAs (Decidable (_ → _))

/-- ACK is set on an endpoint that does not answer ACK only to finish a packet. -/
def AcksAPacket (endp : OutEndpoint) : OutAct → Prop
  | .packet _ _ => True
  | .setState state =>
      state = endpStateAck → response (endp.ctrl endpNum) = uepResAck ∨ endp.deferred = true

instance (endp : OutEndpoint) (act : OutAct) : Decidable (AcksAPacket endpNum endp act) :=
  match act with
  | .packet _ _ => inferInstanceAs (Decidable True)
  | .setState _ => inferInstanceAs (Decidable (_ → _))

/-! ## One step -/

/-- The toggle is behind by the flip that is still to come. -/
structure Tracked (endp : OutEndpoint) : Prop where
  toggle_eq : toggle bsp (endp.ctrl endpNum) = (endp.accepted.bodd ^^ endp.deferred)
  not_deferred : response (endp.ctrl endpNum) = uepResAck → endp.deferred = false

structure Usable (driver : Usb2Driver) : Prop where
  speed : driver.device.speed ≠ .usb30Superspeed
  buffer : (driver.device.rx endpNum).buffer ≠ 0

variable {bsp endpNum}

theorem Tracked.inStep {endp : OutEndpoint} (tracked : Tracked bsp endpNum endp) :
    InStep bsp endpNum endp := by
  intro answersAck
  rw [tracked.toggle_eq, tracked.not_deferred answersAck, Bool.xor_false]

theorem Usable.of_config {before after : Usb2Driver} (usable : Usable endpNum before)
    (same : after.config = before.config) : Usable endpNum after := by
  have speed : after.device.speed = before.device.speed := congrArg Config.speed same
  have buffers : (after.device.rx endpNum).buffer = (before.device.rx endpNum).buffer :=
    congrFun (congrArg Config.rxBuffer same) endpNum
  exact ⟨speed ▸ usable.speed, buffers ▸ usable.buffer⟩

/-- A packet flips the toggle at once or leaves the flip to be done. -/
theorem tracked_packet {endp : OutEndpoint} (notControl : endpNum ≠ 0)
    (usable : Usable endpNum endp.driver) (tracked : Tracked bsp endpNum endp)
    (answersAck : response (endp.ctrl endpNum) = uepResAck) (numBytesReceived : Nat)
    {reply : UserReply} (valid : EndpState reply.state) :
    Tracked bsp endpNum {
      driver := endp.driver.usb2OutTransferHandler bsp endpNum numBytesReceived reply
      accepted := endp.accepted + 1
      deferred := reply.state ≠ endpStateAck } := by
  have ctrl := Usb2Driver.usb2OutTransferHandler_rxCtrl bsp numBytesReceived reply notControl
    usable.buffer
  have current : toggle bsp (endp.ctrl endpNum) = endp.accepted.bodd := by
    rw [tracked.toggle_eq, tracked.not_deferred answersAck, Bool.xor_false]
  constructor
  · unfold OutEndpoint.ctrl
    rw [ctrl, Usb2Driver.outPacketCtrl, Nat.bodd_succ, ← current]
    by_cases acks : reply.state = endpStateAck
    · rw [if_pos acks, toggle_xor_tog, toggle_setResponse bsp _ valid]
      simp [acks, OutEndpoint.ctrl]
    · rw [if_neg acks, toggle_setResponse bsp _ valid]
      simp [acks, OutEndpoint.ctrl]
  · unfold OutEndpoint.ctrl
    rw [ctrl, Usb2Driver.outPacketCtrl]
    by_cases acks : reply.state = endpStateAck
    · simp [acks]
    · rw [if_neg acks, response_setResponse _ valid]
      exact fun isAck => absurd isAck acks

def setStateNext (bsp : Usb2Bsp) (endpNum : Fin 16) (endp : OutEndpoint) (state : U8) :
    OutEndpoint where
  driver := endp.driver.endpRxSetState bsp endpNum state
  accepted := endp.accepted
  deferred := endp.deferred && state ≠ endpStateAck

/-- NAK and STALL leave the toggle and the flip that is still to come. -/
theorem tracked_setState_of_not_ack {endp : OutEndpoint} (usable : Usable endpNum endp.driver)
    (tracked : Tracked bsp endpNum endp) {state : U8} (valid : EndpState state)
    (notAck : state ≠ endpStateAck) : Tracked bsp endpNum (setStateNext bsp endpNum endp state) := by
  have ctrl : (setStateNext bsp endpNum endp state).ctrl endpNum =
      setResponse (endp.ctrl endpNum) state := by
    unfold OutEndpoint.ctrl setStateNext
    rw [Usb2Driver.rxCtrl_endpRxSetState bsp _ usable.speed, rxCtrlForState,
      if_neg (fun flips => notAck flips.2)]
  constructor
  · rw [ctrl, toggle_setResponse bsp _ valid, tracked.toggle_eq]
    simp [setStateNext, notAck]
  · rw [ctrl, response_setResponse _ valid]
    exact fun isAck => absurd isAck notAck

/-- ACK on an endpoint that answers ACK changes nothing. -/
theorem tracked_setState_of_answersAck {endp : OutEndpoint} (usable : Usable endpNum endp.driver)
    (tracked : Tracked bsp endpNum endp) (answersAck : response (endp.ctrl endpNum) = uepResAck) :
    Tracked bsp endpNum (setStateNext bsp endpNum endp endpStateAck) := by
  have ctrl : (setStateNext bsp endpNum endp endpStateAck).ctrl endpNum =
      setResponse (endp.ctrl endpNum) endpStateAck := by
    unfold OutEndpoint.ctrl setStateNext
    rw [Usb2Driver.rxCtrl_endpRxSetState bsp _ usable.speed, rxCtrlForState,
      if_neg (fun flips => flips.1 answersAck)]
  constructor
  · rw [ctrl, toggle_setResponse bsp _ (Or.inl rfl), tracked.toggle_eq,
      tracked.not_deferred answersAck]
    simp [setStateNext]
  · intro _
    simp [setStateNext]

variable (bsp) in
/-- ACK on an endpoint that does not answer ACK flips the toggle, whatever came before. -/
theorem ctrl_setState_of_not_answersAck {endp : OutEndpoint} (usable : Usable endpNum endp.driver)
    (answers : response (endp.ctrl endpNum) ≠ uepResAck) :
    response ((setStateNext bsp endpNum endp endpStateAck).ctrl endpNum) = uepResAck ∧
      toggle bsp ((setStateNext bsp endpNum endp endpStateAck).ctrl endpNum) =
        !toggle bsp (endp.ctrl endpNum) := by
  have ctrl : (setStateNext bsp endpNum endp endpStateAck).ctrl endpNum =
      setResponse (endp.ctrl endpNum ^^^ bsp.rbUepTog1) endpStateAck := by
    unfold OutEndpoint.ctrl setStateNext
    rw [Usb2Driver.rxCtrl_endpRxSetState bsp _ usable.speed, rxCtrlForState,
      if_pos ⟨answers, rfl⟩]
  rw [ctrl]
  exact ⟨response_setResponse _ (Or.inl rfl), by
    rw [toggle_setResponse bsp _ (Or.inl rfl), toggle_xor_tog]⟩

/-- Setting a state shows the toggle in step only if it sets ACK to finish a packet, and then
keeps it in step. -/
theorem tracked_setState_iff {endp : OutEndpoint} (usable : Usable endpNum endp.driver)
    (tracked : Tracked bsp endpNum endp) {state : U8} (valid : EndpState state) :
    (InStep bsp endpNum (setStateNext bsp endpNum endp state) →
        AcksAPacket endpNum endp (.setState state)) ∧
      (AcksAPacket endpNum endp (.setState state) →
        Tracked bsp endpNum (setStateNext bsp endpNum endp state)) := by
  by_cases notAck : state ≠ endpStateAck
  · exact ⟨fun _ isAck => absurd isAck notAck,
      fun _ => tracked_setState_of_not_ack usable tracked valid notAck⟩
  · obtain rfl : state = endpStateAck := not_not.mp notAck
    by_cases answersAck : response (endp.ctrl endpNum) = uepResAck
    · exact ⟨fun _ _ => Or.inl answersAck,
        fun _ => tracked_setState_of_answersAck usable tracked answersAck⟩
    · obtain ⟨acks, flipped⟩ := ctrl_setState_of_not_answersAck bsp usable answersAck
      constructor
      · intro inStep _
        right
        have expected := inStep acks
        rw [flipped, tracked.toggle_eq] at expected
        change (!(endp.accepted.bodd ^^ endp.deferred)) = endp.accepted.bodd at expected
        cases deferred : endp.deferred with
        | false => simp [deferred] at expected
        | true => rfl
      · intro acksAPacket
        have deferred := (acksAPacket rfl).resolve_left answersAck
        constructor
        · rw [flipped, tracked.toggle_eq, deferred]
          simp [setStateNext]
        · intro _
          simp [setStateNext]

/-! ## Runs -/

theorem step_keeps_usable (endp : OutEndpoint) (act : OutAct) (usable : Usable endpNum endp.driver)
    (admissible : Admissible endpNum endp act) :
    ∃ next, step bsp endpNum endp act = some next ∧ Usable endpNum next.driver := by
  cases act with
  | packet numBytesReceived reply =>
      refine ⟨_, if_pos admissible.1, ?_⟩
      exact usable.of_config (endp.driver.config_usb2OutTransferHandler bsp endpNum _ reply)
  | setState state =>
      refine ⟨_, rfl, ?_⟩
      exact usable.of_config (congrArg Fixed.config (endp.driver.fixed_endpRxSetState bsp endpNum state))

theorem step_exactly (notControl : endpNum ≠ 0) (endp : OutEndpoint) (act : OutAct)
    (next : OutEndpoint) (usable : Usable endpNum endp.driver) (tracked : Tracked bsp endpNum endp)
    (admissible : Admissible endpNum endp act) (stepped : step bsp endpNum endp act = some next) :
    (InStep bsp endpNum next → AcksAPacket endpNum endp act) ∧
      (AcksAPacket endpNum endp act → Tracked bsp endpNum next) := by
  cases act with
  | packet numBytesReceived reply =>
      obtain ⟨answersAck, valid⟩ := admissible
      obtain rfl := Option.some.inj ((if_pos answersAck).symm.trans stepped)
      exact ⟨fun _ => trivial,
        fun _ => tracked_packet notControl usable tracked answersAck numBytesReceived valid⟩
  | setState state =>
      obtain rfl := Option.some.inj stepped
      exact tracked_setState_iff usable tracked admissible

def afterSetup (driver : Usb2Driver) : OutEndpoint where
  driver := driver.usb2SetupEndpoints
  accepted := 0
  deferred := false

end

/-- The setup accepts the mask and the enabled endpoint, which has a buffer and a valid state. -/
structure SetUp (driver : Usb2Driver) (endpNum : Fin 16) : Prop where
  notControl : endpNum ≠ 0
  speed : driver.device.speed ≠ .usb30Superspeed
  compatible : Compatible driver.device.endpointMask
  small : ∀ other, EnabledIn driver.device.endpointMask .rx other →
    (driver.device.rx other).maxPacketSize ≤ usb2EpMaxPacketSize
  enabled : EnabledIn driver.device.endpointMask .rx endpNum
  buffer : (driver.device.rx endpNum).buffer ≠ 0
  state : EndpState (driver.device.rx endpNum).state

theorem SetUp.tracked {bsp : Usb2Bsp} {driver : Usb2Driver} {endpNum : Fin 16}
    (setUp : SetUp driver endpNum) : Tracked bsp endpNum (afterSetup driver) := by
  have ctrl : (afterSetup driver).ctrl endpNum = (driver.device.rx endpNum).state := by
    unfold OutEndpoint.ctrl afterSetup
    exact (driver.usb2SetupEndpoints_ctrl setUp.compatible setUp.small setUp.enabled
      setUp.notControl).trans BitVec.or_zero
  constructor
  · rw [ctrl]
    simpa [afterSetup, toggle] using setUp.state.bit_eq_false bsp
  · intro _
    rfl

theorem SetUp.usable {driver : Usb2Driver} {endpNum : Fin 16} (setUp : SetUp driver endpNum) :
    Usable endpNum (afterSetup driver).driver := by
  constructor
  · change driver.usb2SetupEndpoints.device.speed ≠ _
    rw [driver.usb2SetupEndpoints_device]
    exact setUp.speed
  · change (driver.usb2SetupEndpoints.device.rx endpNum).buffer ≠ 0
    rw [driver.usb2SetupEndpoints_device]
    exact setUp.buffer

/-- From the endpoint setup on, the toggle stays in step with the packets exactly if ACK is never
set on an endpoint that answers NAK or STALL for another reason than a packet. -/
theorem out_toggle_in_step_iff (bsp : Usb2Bsp) {driver : Usb2Driver} {endpNum : Fin 16}
    (setUp : SetUp driver endpNum) {acts : List OutAct}
    (every : EveryStep (step bsp endpNum) (Admissible endpNum) (afterSetup driver) acts) :
    Always (step bsp endpNum) (InStep bsp endpNum) (afterSetup driver) acts ↔
      EveryStep (step bsp endpNum) (AcksAPacket endpNum) (afterSetup driver) acts :=
  always_iff_everyStep (fun _ tracked => tracked.inStep) step_keeps_usable
    (step_exactly setUp.notControl) setUp.usable setUp.tracked every

/-! ## One bulk endpoint -/

def bulkOut : Usb2Driver :=
  .initial { usbDevice0 with
    endpointMask := endpointBit .rx 1
    rx := Function.update usbDevice0.rx 1 ⟨0x20020000, 1, 512, 512, endpStateAck⟩ } fun _ => 0#8

def tog1Bit3 : Usb2Bsp := .bit3

theorem setUp_bulkOut : SetUp bulkOut 1 where
  notControl := by decide
  speed := by decide
  compatible := by decide
  small := by decide
  enabled := by decide
  buffer := by decide
  state := Or.inl rfl

/-- A packet answered with NAK and a delayed ACK keep the toggle in step. -/
theorem delayed_ack_in_step :
    Always (step tog1Bit3 1) (InStep tog1Bit3 1) (afterSetup bulkOut)
      [.packet 512 ⟨[], endpStateNak, 0, 0⟩, .setState endpStateAck] :=
  (out_toggle_in_step_iff tog1Bit3 setUp_bulkOut (by decide)).mpr (by decide)

/-- NAK and then ACK without a packet in between leave the endpoint expecting DATA1. -/
theorem nak_then_ack_flips :
    SetUp bulkOut 1 ∧
      EveryStep (step tog1Bit3 1) (Admissible 1) (afterSetup bulkOut)
        [.setState endpStateNak, .setState endpStateAck] ∧
      ¬Always (step tog1Bit3 1) (InStep tog1Bit3 1) (afterSetup bulkOut)
        [.setState endpStateNak, .setState endpStateAck] :=
  ⟨setUp_bulkOut, by decide, by decide⟩

end WchCh56x.Usb.OutToggle
