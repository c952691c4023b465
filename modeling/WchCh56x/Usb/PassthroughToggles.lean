import WchCh56x.Support.Runs
import WchCh56x.Usb.ControlIn
import WchCh56x.Usb.DeviceChart
import WchCh56x.Usb.Interleaving
import WchCh56x.Usb.TransferCtrl

/-!
# The toggles at the start of a passthrough control transfer

A SETUP packet sets the IN toggle to DATA1.  The OUT toggle is flipped when the transfer
is acknowledged for the first time, so that it depends on what the transfer before left.
-/

namespace WchCh56x.Usb.Usb2Driver

variable (bsp : Usb2Bsp) (driver : Usb2Driver) (userCall : UserCall) (reply : UserReply)

theorem rxCtrl_invoke (reg : Fin 8) :
    (driver.invoke bsp userCall reply).rxCtrl reg =
      rxCtrlAfter bsp (driver.rxCtrl reg) (driver.config.rxStates reg reply.calls) :=
  rxCtrl_runCalls bsp { driver with userCalls := driver.userCalls ++ [userCall] } reply.calls reg

theorem txCtrl_invoke (reg : Fin 8) :
    (driver.invoke bsp userCall reply).txCtrl reg =
      txCtrlAfter (driver.txCtrl reg) (driver.config.txStates reg reply.calls) :=
  txCtrl_runCalls bsp { driver with userCalls := driver.userCalls ++ [userCall] } reply.calls reg

theorem rxCtrl_clearFlags : driver.clearFlags.rxCtrl = driver.rxCtrl := rfl

theorem txCtrl_clearFlags : driver.clearFlags.txCtrl = driver.txCtrl := rfl

theorem txCtrl_setRxCtrl (reg : Fin 8) (value : U8) :
    (driver.setRxCtrl reg value).txCtrl = driver.txCtrl := rfl

/-- The driver when the SETUP callback has returned and its state is stored. -/
def setupCallbackDone : Usb2Driver :=
  let called := driver.invoke bsp (.endp0PassthroughSetupCallback driver.endp0Buffer) reply
  called.setRx 0 { called.device.rx 0 with state := reply.state }

theorem passthroughSetup_eq : driver.passthroughSetup bsp reply =
    ((driver.setupCallbackDone bsp reply).setTxCtrl 0 (uepResNak ||| bsp.rbUepTog1)).setRxCtrl 0
      (outPacketCtrl bsp ((driver.setupCallbackDone bsp reply).rxCtrl 0) reply.state) := rfl

theorem rxCtrl_passthroughSetup :
    (driver.passthroughSetup bsp reply).rxCtrl 0 =
      outPacketCtrl bsp (rxCtrlAfter bsp (driver.rxCtrl 0) (driver.config.rxStates 0 reply.calls))
        reply.state := by
  rw [passthroughSetup_eq, setRxCtrl_self, ← rxCtrl_invoke bsp driver
    (.endp0PassthroughSetupCallback driver.endp0Buffer)]
  rfl

theorem txCtrl_passthroughSetup :
    (driver.passthroughSetup bsp reply).txCtrl 0 = uepResNak ||| bsp.rbUepTog1 := by
  rw [passthroughSetup_eq]
  exact (driver.setupCallbackDone bsp reply).setTxCtrl_self 0 _

end WchCh56x.Usb.Usb2Driver

namespace WchCh56x.Usb.PassthroughToggles

open Support.Runs Usb2Driver Interleaving

/-- How far endpoint 0 is with the control transfer. -/
inductive Phase where
  /-- No transfer has begun, or the status stage of the last one is over. -/
  | idle
  /-- Since the SETUP packet endpoint 0 has answered ACK to OUT, and sent an IN packet. -/
  | serving (acked sent : Bool)
  deriving DecidableEq, Repr

structure Stage where
  driver : Usb2Driver
  phase : Phase

inductive StageAct where
  | setup (packet : UsbSetup) (reply : UserReply)
  | inDone (reply : UserReply)
  | outDone (numBytesReceived : Nat) (togok : Bool) (reply : UserReply)
  /-- `endp_tx_set_new_buffer` for endpoint 0. -/
  | txSetNewBuffer (ptr size : Nat)
  /-- `endp_rx_set_state` for endpoint 0. -/
  | rxSetState (state : U8)
  /-- A completion on another endpoint. -/
  | elsewhere (event : Usb2Event)

def StageAct.event : StageAct → Usb2Event
  | .setup packet reply => .setup packet reply
  | .inDone reply => .inDone 0 reply
  | .outDone numBytesReceived togok reply => .outDone 0 numBytesReceived togok reply
  | .txSetNewBuffer ptr size => .call (.endpTxSetNewBuffer 0 ptr size)
  | .rxSetState state => .call (.endpRxSetState 0 state)
  | .elsewhere event => event

/-- The completion is that of the status stage, after which both toggles are set for the next SETUP
packet. -/
def EndsTransfer (driver : Usb2Driver) : StageAct → Prop
  | .inDone _ => driver.EndsIn 0 ∧ ¬driver.usbSetupReq.IsIn
  | .outDone _ togok _ => togok = true ∧ (driver.device.rx 0).buffer ≠ 0 ∧ driver.usbSetupReq.IsIn
  | _ => False

instance (driver : Usb2Driver) : (act : StageAct) → Decidable (EndsTransfer driver act)
  | .inDone _ => inferInstanceAs (Decidable (_ ∧ _))
  | .outDone _ _ _ => inferInstanceAs (Decidable (_ ∧ _ ∧ _))
  | .setup _ _ | .txSetNewBuffer _ _ | .rxSetState _ | .elsewhere _ =>
      inferInstanceAs (Decidable False)

def StageAct.isInDone : StageAct → Bool
  | .inDone _ => true
  | _ => false

/-- The phase after an act other than a SETUP packet. -/
def Phase.goesOn : Phase → (ends answers sends : Bool) → Phase
  | .idle, _, _, _ => .idle
  | .serving _ _, true, _, _ => .idle
  | .serving acked sent, false, answers, sends => .serving (acked || answers) (sent || sends)

/-- The phase after an act that leaves the driver `next`. -/
def Stage.phaseAfter (stage : Stage) (next : Usb2Driver) : StageAct → Phase
  | .setup _ _ => .serving (AcksOut next) false
  | act => stage.phase.goesOn (EndsTransfer stage.driver act) (AcksOut next) act.isInDone

section

variable (bsp : Usb2Bsp)

def Stage.next (stage : Stage) (act : StageAct) : Usb2Driver :=
  Usb2Event.step bsp stage.driver act.event

def step (stage : Stage) (act : StageAct) : Option Stage :=
  some ⟨stage.next bsp act, stage.phaseAfter (stage.next bsp act) act⟩

/-- Endpoint 0 has not answered ACK to OUT since the SETUP packet. -/
def Stage.AwaitsAck (stage : Stage) : StageAct → Prop
  | .setup _ _ => True
  | _ => ∃ sent, stage.phase = .serving false sent

instance (stage : Stage) : (act : StageAct) → Decidable (stage.AwaitsAck act)
  | .setup _ _ => inferInstanceAs (Decidable True)
  | .inDone _ | .outDone _ _ _ | .txSetNewBuffer _ _ | .rxSetState _ | .elsewhere _ =>
      inferInstanceAs (Decidable (∃ _, _))

/-- No IN packet has been sent since the SETUP packet. -/
def Stage.AwaitsIn (stage : Stage) : Prop := ∃ acked, stage.phase = .serving acked false

instance (stage : Stage) : Decidable stage.AwaitsIn := inferInstanceAs (Decidable (∃ _, _))

/-- The first ACK to OUT after a SETUP packet expects DATA1, and the first IN packet is DATA1. -/
def StartsWithData1 (stage : Stage) (act : StageAct) : Prop :=
  (stage.AwaitsAck act → ¬EndsTransfer stage.driver act → AcksOut (stage.next bsp act) →
    toggle bsp ((stage.next bsp act).rxCtrl 0) = true) ∧
  (act.isInDone = true → stage.AwaitsIn → toggle bsp (stage.driver.txCtrl 0) = true)

instance (stage : Stage) (act : StageAct) : Decidable (StartsWithData1 bsp stage act) :=
  inferInstanceAs (Decidable (_ ∧ _))

/-- The OUT toggle when the SETUP callback has returned. -/
def toggleAfterCallback (driver : Usb2Driver) (reply : UserReply) : Bool :=
  toggle bsp (rxCtrlAfter bsp (driver.rxCtrl 0) (driver.config.rxStates 0 reply.calls))

/-- Where the SETUP packet or a later call gives the first ACK, the toggle is still at DATA0. -/
def AcksOnData0 (stage : Stage) : StageAct → Prop
  | .setup _ reply => reply.state = endpStateAck → toggleAfterCallback bsp stage.driver reply = false
  | .rxSetState state =>
      state = endpStateAck → (∃ sent, stage.phase = .serving false sent) →
        toggle bsp (stage.driver.rxCtrl 0) = false
  | _ => True

instance (stage : Stage) : (act : StageAct) → Decidable (AcksOnData0 bsp stage act)
  | .setup _ _ => inferInstanceAs (Decidable (_ → _))
  | .rxSetState _ => inferInstanceAs (Decidable (_ → _ → _))
  | .inDone _ | .outDone _ _ _ | .txSetNewBuffer _ _ | .elsewhere _ =>
      inferInstanceAs (Decidable True)

/-- OUT packets complete only while endpoint 0 answers ACK; callbacks and callers use the three
states. -/
def Admissible (stage : Stage) : StageAct → Prop
  | .setup _ reply => EndpState reply.state
  | .inDone _ => True
  | .outDone _ _ reply => AcksOut stage.driver ∧ ∀ apiCall ∈ reply.calls, apiCall.Valid
  | .txSetNewBuffer _ _ => True
  | .rxSetState state => EndpState state
  | .elsewhere event => Elsewhere event

instance (stage : Stage) : (act : StageAct) → Decidable (Admissible stage act)
  | .setup _ _ => inferInstanceAs (Decidable (EndpState _))
  | .inDone _ => inferInstanceAs (Decidable True)
  | .outDone _ _ _ => inferInstanceAs (Decidable (_ ∧ _))
  | .txSetNewBuffer _ _ => inferInstanceAs (Decidable True)
  | .rxSetState _ => inferInstanceAs (Decidable (EndpState _))
  | .elsewhere event => inferInstanceAs (Decidable (Elsewhere event))

end

/-! ## One step -/

/-- Endpoint 0 of a running USB2 device in passthrough mode. -/
structure Usable (driver : Usb2Driver) : Prop where
  passthrough : Passthrough driver
  speed : driver.device.speed ≠ .usb30Superspeed

/-- What is known of the control registers during a transfer. -/
structure Tracked (stage : Stage) (bsp : Usb2Bsp) : Prop where
  usable : Usable stage.driver
  notAcked : ∀ sent, stage.phase = .serving false sent → ¬AcksOut stage.driver
  data1 : ∀ acked, stage.phase = .serving acked false →
    toggle bsp (stage.driver.txCtrl 0) = true

section

variable (bsp : Usb2Bsp) {driver : Usb2Driver}

theorem Usable.step (usable : Usable driver) (event : Usb2Event)
    (passthrough : Passthrough (Usb2Event.step bsp driver event)) :
    Usable (Usb2Event.step bsp driver event) := by
  have speed : (Usb2Event.step bsp driver event).device.speed = driver.device.speed :=
    congrArg Config.speed (config_step bsp driver event)
  exact ⟨passthrough, speed ▸ usable.speed⟩

theorem Usable.next {stage : Stage} (usable : Usable stage.driver) (act : StageAct) :
    Usable (stage.next bsp act) := by
  have config := config_step bsp stage.driver act.event
  have running := running_step bsp usable.passthrough.running act.event
  exact usable.step bsp act.event
    ⟨(congrArg Config.ep0PassthroughEnabled config).trans usable.passthrough.enabled, running⟩

/-! ### SETUP -/

theorem setup_eq (usable : Usable driver) (packet : UsbSetup) (reply : UserReply) :
    Usb2Event.step bsp driver (.setup packet reply) =
      ((driver.setupRead packet).passthroughSetup bsp reply).clearFlags := by
  rw [step_setup bsp usable.passthrough.running, if_pos usable.passthrough.enabled]

theorem rxCtrl_setup (usable : Usable driver) (packet : UsbSetup) (reply : UserReply) :
    (Usb2Event.step bsp driver (.setup packet reply)).rxCtrl 0 =
      outPacketCtrl bsp (rxCtrlAfter bsp (driver.rxCtrl 0) (driver.config.rxStates 0 reply.calls))
        reply.state := by
  rw [setup_eq bsp usable]
  exact (driver.setupRead packet).rxCtrl_passthroughSetup bsp reply

theorem txCtrl_setup (usable : Usable driver) (packet : UsbSetup) (reply : UserReply) :
    (Usb2Event.step bsp driver (.setup packet reply)).txCtrl 0 = uepResNak ||| bsp.rbUepTog1 := by
  rw [setup_eq bsp usable]
  exact (driver.setupRead packet).txCtrl_passthroughSetup bsp reply

theorem toggle_or_tog1 (ctrl : U8) : toggle bsp (ctrl ||| bsp.rbUepTog1) = true := by
  rw [toggle, BitVec.getLsbD_or, rbUepTog1_eq, BitVec.getLsbD_twoPow]
  simp [bsp.insideByte]

theorem answersAck_outPacketCtrl (ctrl : U8) {state : U8} (valid : EndpState state) :
    response (outPacketCtrl bsp ctrl state) = uepResAck ↔ state = endpStateAck := by
  have answers : response (outPacketCtrl bsp ctrl state) = state := by
    rw [outPacketCtrl_eq bsp ctrl valid, response_ctrlWith bsp ctrl _ valid]
  rw [answers]
  rfl

theorem toggle_outPacketCtrl_ack (ctrl : U8) :
    toggle bsp (outPacketCtrl bsp ctrl endpStateAck) = !toggle bsp ctrl := by
  rw [outPacketCtrl, if_pos rfl, toggle_xor_tog, toggle_setResponse bsp ctrl (.inl rfl)]

/-! ### IN and OUT packets -/

theorem rxCtrl_inDone (usable : Usable driver) (reply : UserReply) :
    (Usb2Event.step bsp driver (.inDone 0 reply)).rxCtrl 0 =
      if driver.EndsIn 0 then (driver.inTransferStored bsp 0).1 else driver.rxCtrl 0 := by
  have last : (driver.transferPending.countInPacket 0).endpTxRemainingBytes 0 = 0 ↔
      driver.endpTxRemainingBytes 0 ≤ (driver.device.tx 0).maxPacketSize :=
    Callbacks.countInPacket_remaining_eq_zero (0 : Fin 16)
  rw [step_inDone bsp usable.passthrough.running, if_pos (.inr usable.passthrough.enabled)]
  by_cases armed : driver.dma .uep0Rt ≠ 0
  · by_cases isLast : driver.endpTxRemainingBytes 0 ≤ (driver.device.tx 0).maxPacketSize
    · have after := @usb2InTransferHandler_endp0_last bsp driver.transferPending reply armed
        (last.mpr isLast)
      rw [after, if_pos ⟨armed, isLast⟩, rxCtrl_clearFlags, setRxCtrl_self]
      rfl
    · have after := @usb2InTransferHandler_endp0_more bsp driver.transferPending reply armed
        (mt last.mp isLast)
      rw [after, if_neg fun ends => isLast ends.2, rxCtrl_clearFlags, setRxCtrl_self]
      rfl
  · have after := @usb2InTransferHandler_endp0_idle bsp driver.transferPending reply
      (not_not.mp armed)
    rw [after, if_neg fun ends => armed ends.1, rxCtrl_clearFlags, setRxCtrl_self]
    rfl

/-- In the data stage of a control-IN transfer the last packet prepares the status stage. -/
theorem rxStored_of_isIn (isIn : driver.usbSetupReq.IsIn) :
    (driver.inTransferStored bsp 0).1 = uepResAck ||| bsp.rbUepTog1 ∨
      (driver.inTransferStored bsp 0).1 = driver.rxCtrl 0 := by
  have counted : (driver.countInPacket 0).usbSetupReq.IsIn := isIn
  unfold inTransferStored inTransferCtrl
  rw [if_neg fun outRequest => outRequest.2 counted]
  split
  · exact .inl rfl
  · exact .inr rfl

theorem outDone_eq (usable : Usable driver) (numBytesReceived : Nat) (reply : UserReply) :
    Usb2Event.step bsp driver (.outDone 0 numBytesReceived true reply) =
      (driver.transferPending.usb2OutTransferHandler bsp 0 numBytesReceived reply).clearFlags := by
  rw [step_outDone bsp usable.passthrough.running, if_pos (.inr usable.passthrough.enabled)]

/-- The OUT packets of a data stage leave the first IN packet at DATA1. -/
theorem data1_usb2OutTransferHandler {reply : UserReply} (numBytesReceived : Nat)
    (valid : ∀ apiCall ∈ reply.calls, apiCall.Valid)
    (more : ¬((driver.device.rx 0).buffer ≠ 0 ∧ driver.usbSetupReq.IsIn))
    (data1 : toggle bsp (driver.txCtrl 0) = true) :
    toggle bsp ((driver.usb2OutTransferHandler bsp 0 numBytesReceived reply).txCtrl 0) = true := by
  by_cases armed : (driver.device.rx 0).buffer ≠ 0
  · have request : (driver.rxCallbackDone bsp numBytesReceived reply).usbSetupReq =
        driver.usbSetupReq := congrArg Fixed.usbSetupReq (fixed_invoke bsp
          (driver.beforeRxCallback 0 numBytesReceived)
          (.rxCallback 0 (driver.device.rx 0).buffer numBytesReceived) reply)
    have txCtrl : (driver.rxCallbackDone bsp numBytesReceived reply).txCtrl 0 =
        txCtrlAfter (driver.txCtrl 0)
          ((driver.beforeRxCallback 0 numBytesReceived).config.txStates 0 reply.calls) :=
      txCtrl_invoke bsp (driver.beforeRxCallback 0 numBytesReceived)
        (.rxCallback 0 (driver.device.rx 0).buffer numBytesReceived) reply 0
    rw [driver.usb2OutTransferHandler_endp0 bsp armed]
    dsimp only
    rw [request, if_neg fun isIn => more ⟨armed, isIn⟩]
    split
    · rw [txCtrl_setRxCtrl, setTxCtrl_self]
      exact toggle_or_tog1 bsp uepResNak
    · rw [txCtrl_setRxCtrl, txCtrl, toggle_txCtrlAfter bsp _ (Config.txStates_valid _ 0 valid)]
      exact data1
  · rw [driver.usb2OutTransferHandler_endp0_idle bsp (not_not.mp armed)]
    exact data1

theorem data1_outDone (usable : Usable driver) (numBytesReceived : Nat) (togok : Bool)
    {reply : UserReply} (valid : ∀ apiCall ∈ reply.calls, apiCall.Valid)
    (more : ¬EndsTransfer driver (.outDone numBytesReceived togok reply))
    (data1 : toggle bsp (driver.txCtrl 0) = true) :
    toggle bsp ((Usb2Event.step bsp driver
      (.outDone 0 numBytesReceived togok reply)).txCtrl 0) = true := by
  cases togok with
  | false =>
      rw [step_outDone_wrongToggle bsp usable.passthrough.running]
      exact data1
  | true =>
      rw [outDone_eq bsp usable, txCtrl_clearFlags]
      exact @data1_usb2OutTransferHandler bsp driver.transferPending reply numBytesReceived valid
        (fun ends => more ⟨rfl, ends⟩) data1

/-! ### Calls -/

theorem rxCtrl_txSetNewBuffer (driver : Usb2Driver) (ptr size : Nat) :
    (Usb2Event.step bsp driver (.call (.endpTxSetNewBuffer 0 ptr size))).rxCtrl = driver.rxCtrl :=
  driver.endpTxSetNewBuffer_rxCtrl 0 ptr size

theorem toggle_txSetNewBuffer (driver : Usb2Driver) (ptr size : Nat) :
    toggle bsp ((Usb2Event.step bsp driver (.call (.endpTxSetNewBuffer 0 ptr size))).txCtrl 0) =
      toggle bsp (driver.txCtrl 0) := by
  have called := driver.txCtrl_call bsp (.endpTxSetNewBuffer 0 ptr size) 0
  refine (congrArg (toggle bsp) called).trans (toggle_txCtrlAfter bsp _ fun state isSet => ?_)
  have valid := @Config.txStates_valid driver.config 0 [.endpTxSetNewBuffer 0 ptr size]
    fun apiCall member => by
      obtain rfl := List.mem_singleton.mp member
      trivial
  refine valid state ?_
  rw [txStates_cons]
  exact List.mem_append_left _ isSet

theorem rxCtrl_rxSetState (usable : Usable driver) (state : U8) :
    (Usb2Event.step bsp driver (.call (.endpRxSetState 0 state))).rxCtrl 0 =
      rxCtrlForState bsp (driver.rxCtrl 0) state :=
  @rxCtrl_endpRxSetState bsp driver 0 usable.speed state

theorem txCtrl_rxSetState (driver : Usb2Driver) (state : U8) :
    (Usb2Event.step bsp driver (.call (.endpRxSetState 0 state))).txCtrl = driver.txCtrl :=
  driver.endpRxSetState_txCtrl bsp 0 state

/-! ### The phase -/

theorem Phase.goesOn_serving {phase : Phase} {ends answers sends acked sent : Bool}
    (serving : phase.goesOn ends answers sends = .serving acked sent) :
    ends = false ∧ ∃ before first, phase = .serving before first ∧
      acked = (before || answers) ∧ sent = (first || sends) := by
  cases phase with
  | idle => cases serving
  | serving before first =>
      cases ends with
      | true => cases serving
      | false =>
          obtain ⟨isAcked, isSent⟩ := Phase.serving.inj serving
          exact ⟨rfl, before, first, rfl, isAcked.symm, isSent.symm⟩

/-- The act goes on with a transfer that has been going on. -/
structure GoesOn (stage : Stage) (act : StageAct) (sent : Bool) : Prop where
  more : ¬EndsTransfer stage.driver act
  serving : ∃ before first, stage.phase = .serving before first ∧ sent = (first || act.isInDone)

theorem phaseAfter_serving {stage : Stage} {next : Usb2Driver} {act : StageAct} {acked sent : Bool}
    (serving : stage.phaseAfter next act = .serving acked sent) :
    (acked = false → ¬AcksOut next) ∧
      ((∃ packet reply, act = .setup packet reply) ∨ GoesOn stage act sent) := by
  have other (serving : stage.phase.goesOn (EndsTransfer stage.driver act) (AcksOut next)
      act.isInDone = .serving acked sent) :
      (acked = false → ¬AcksOut next) ∧ GoesOn stage act sent := by
    obtain ⟨more, before, first, isPhase, rfl, rfl⟩ := Phase.goesOn_serving serving
    refine ⟨fun notAcked => ?_, ⟨of_decide_eq_false more, before, first, isPhase, rfl⟩⟩
    exact of_decide_eq_false (Bool.or_eq_false_iff.mp notAcked).2
  cases act with
  | setup packet reply =>
      obtain ⟨rfl, rfl⟩ := Phase.serving.inj serving
      exact ⟨of_decide_eq_false, .inl ⟨packet, reply, rfl⟩⟩
  | inDone reply => exact (other serving).imp_right .inr
  | outDone numBytesReceived togok reply => exact (other serving).imp_right .inr
  | txSetNewBuffer ptr size => exact (other serving).imp_right .inr
  | rxSetState state => exact (other serving).imp_right .inr
  | elsewhere event => exact (other serving).imp_right .inr

variable {bsp} {stage : Stage}

/-- An act that goes on with a transfer in which nothing has been sent leaves the first IN packet at
DATA1. -/
theorem data1_of_goesOn (tracked : Tracked stage bsp) {act : StageAct}
    (admissible : Admissible stage act) (goesOn : GoesOn stage act false) :
    toggle bsp ((stage.next bsp act).txCtrl 0) = true := by
  obtain ⟨more, before, first, isPhase, isSent⟩ := goesOn
  obtain ⟨rfl, notSending⟩ := Bool.or_eq_false_iff.mp isSent.symm
  have data1 := tracked.data1 before isPhase
  cases act with
  | setup packet reply =>
      rw [Stage.next, StageAct.event, txCtrl_setup bsp tracked.usable]
      exact toggle_or_tog1 bsp uepResNak
  | inDone reply => exact Bool.noConfusion notSending
  | outDone numBytesReceived togok reply =>
      exact data1_outDone bsp tracked.usable numBytesReceived togok admissible.2 more data1
  | txSetNewBuffer ptr size => exact (toggle_txSetNewBuffer bsp stage.driver ptr size).trans data1
  | rxSetState state =>
      rw [Stage.next, StageAct.event, txCtrl_rxSetState]
      exact data1
  | elsewhere event =>
      have view := endp0_step_elsewhere bsp tracked.usable.passthrough admissible
      have txCtrl : (stage.next bsp (.elsewhere event)).txCtrl 0 = stage.driver.txCtrl 0 :=
        congrArg Endp0.txCtrl view
      rw [txCtrl]
      exact data1

theorem tracked_next (tracked : Tracked stage bsp) {act : StageAct}
    (admissible : Admissible stage act) :
    Tracked ⟨stage.next bsp act, stage.phaseAfter (stage.next bsp act) act⟩ bsp := by
  constructor
  · exact tracked.usable.next bsp act
  · intro sent serving
    exact (phaseAfter_serving serving).1 rfl
  · intro acked serving
    obtain ⟨packet, reply, rfl⟩ | goesOn := (phaseAfter_serving serving).2
    · change toggle bsp ((stage.next bsp (.setup packet reply)).txCtrl 0) = true
      rw [Stage.next, StageAct.event, txCtrl_setup bsp tracked.usable]
      exact toggle_or_tog1 bsp uepResNak
    · exact data1_of_goesOn tracked admissible goesOn

/-- A transfer that comes to its end leaves DATA0 for the next one. -/
theorem data0_of_ends (tracked : Tracked stage bsp) {act : StageAct}
    (ends : EndsTransfer stage.driver act) :
    toggle bsp ((stage.next bsp act).rxCtrl 0) = false := by
  have toggle0 : toggle bsp (uepResAck ||| rbUepTog0) = false := BitVec.getLsbD_zero
  cases act with
  | inDone reply =>
      obtain ⟨isLast, isOut⟩ := ends
      have rxCtrl : (stage.next bsp (.inDone reply)).rxCtrl 0 = _ :=
        rxCtrl_inDone bsp tracked.usable reply
      have stored : (stage.driver.inTransferStored bsp 0).1 = uepResAck ||| rbUepTog0 :=
        congrArg Prod.fst (if_pos ⟨rfl, isOut⟩)
      rw [rxCtrl, if_pos isLast, stored]
      exact toggle0
  | outDone numBytesReceived togok reply =>
      obtain ⟨rfl, armed, isIn⟩ := ends
      have request : (stage.driver.transferPending.rxCallbackDone bsp numBytesReceived
          reply).usbSetupReq = stage.driver.usbSetupReq :=
        congrArg Fixed.usbSetupReq (fixed_invoke bsp
          (stage.driver.transferPending.beforeRxCallback 0 numBytesReceived)
          (.rxCallback 0 (stage.driver.device.rx 0).buffer numBytesReceived) reply)
      have handled := @usb2OutTransferHandler_endp0 bsp stage.driver.transferPending
        numBytesReceived reply armed
      dsimp only at handled
      rw [request, if_pos isIn] at handled
      rw [Stage.next, StageAct.event, outDone_eq bsp tracked.usable, handled, rxCtrl_clearFlags,
        setRxCtrl_self]
      exact toggle0
  | setup packet reply => exact ends.elim
  | txSetNewBuffer ptr size => exact ends.elim
  | rxSetState state => exact ends.elim
  | elsewhere event => exact ends.elim

/-! ### The exact condition -/

theorem exactly_setup (tracked : Tracked stage bsp) (packet : UsbSetup) {reply : UserReply}
    (valid : EndpState reply.state) :
    StartsWithData1 bsp stage (.setup packet reply) ↔
      AcksOnData0 bsp stage (.setup packet reply) := by
  have rxCtrl : (stage.next bsp (.setup packet reply)).rxCtrl 0 = _ :=
    rxCtrl_setup bsp tracked.usable packet reply
  have answers : AcksOut (stage.next bsp (.setup packet reply)) ↔ reply.state = endpStateAck := by
    rw [AcksOut, rxCtrl]
    exact answersAck_outPacketCtrl bsp _ valid
  unfold StartsWithData1 AcksOnData0
  rw [answers]
  have flips (acks : reply.state = endpStateAck) :
      toggle bsp ((stage.next bsp (.setup packet reply)).rxCtrl 0) =
        !toggleAfterCallback bsp stage.driver reply := by
    rw [rxCtrl, acks]
    exact toggle_outPacketCtrl_ack bsp _
  constructor
  · rintro ⟨first, -⟩ acks
    have data1 := first trivial not_false acks
    rw [flips acks] at data1
    exact (Bool.not_eq_true' _).mp data1
  · intro data0
    refine ⟨fun _ _ acks => ?_, Bool.noConfusion⟩
    rw [flips acks, data0 acks]
    rfl

theorem exactly_rxSetState (tracked : Tracked stage bsp) {state : U8} (valid : EndpState state) :
    StartsWithData1 bsp stage (.rxSetState state) ↔ AcksOnData0 bsp stage (.rxSetState state) := by
  have rxCtrl : (stage.next bsp (.rxSetState state)).rxCtrl 0 =
      rxCtrlForState bsp (stage.driver.rxCtrl 0) state :=
    rxCtrl_rxSetState bsp tracked.usable state
  have answers : AcksOut (stage.next bsp (.rxSetState state)) ↔ state = endpStateAck := by
    rw [AcksOut, rxCtrl, rxCtrlForState_eq, response_ctrlWith bsp _ _ valid]
    rfl
  have flips (acks : state = endpStateAck) (waits : ¬AcksOut stage.driver) :
      toggle bsp ((stage.next bsp (.rxSetState state)).rxCtrl 0) =
        !toggle bsp (stage.driver.rxCtrl 0) := by
    rw [rxCtrl, rxCtrlForState, if_pos ⟨waits, acks⟩, toggle_setResponse bsp _ valid,
      toggle_xor_tog]
  unfold StartsWithData1 AcksOnData0
  rw [answers]
  constructor
  · rintro ⟨first, -⟩ acks awaits
    obtain ⟨sent, isPhase⟩ := awaits
    have data1 := first ⟨sent, isPhase⟩ not_false acks
    rw [flips acks (tracked.notAcked sent isPhase)] at data1
    exact (Bool.not_eq_true' _).mp data1
  · intro data0
    refine ⟨fun awaits _ acks => ?_, Bool.noConfusion⟩
    obtain ⟨sent, isPhase⟩ := awaits
    rw [flips acks (tracked.notAcked sent isPhase), data0 acks ⟨sent, isPhase⟩]
    rfl

/-- Every other act starts with DATA1. -/
theorem startsWithData1_inDone (tracked : Tracked stage bsp) (reply : UserReply) :
    StartsWithData1 bsp stage (.inDone reply) := by
  constructor
  · rintro ⟨sent, isPhase⟩ more answers
    have rxCtrl : (stage.next bsp (.inDone reply)).rxCtrl 0 = _ :=
      rxCtrl_inDone bsp tracked.usable reply
    have waits := tracked.notAcked sent isPhase
    by_cases ends : stage.driver.EndsIn 0
    · have isIn : stage.driver.usbSetupReq.IsIn := by
        by_contra isOut
        exact more ⟨ends, isOut⟩
      rw [if_pos ends] at rxCtrl
      rcases rxStored_of_isIn bsp isIn with status | same
      · rw [rxCtrl, status]
        exact toggle_or_tog1 bsp uepResAck
      · exact absurd ((congrArg response (rxCtrl.trans same)).symm.trans answers) waits
    · rw [if_neg ends] at rxCtrl
      exact absurd ((congrArg response rxCtrl).symm.trans answers) waits
  · rintro - ⟨acked, isPhase⟩
    exact tracked.data1 acked isPhase

theorem startsWithData1_of_same {act : StageAct} (tracked : Tracked stage bsp)
    (notSetup : ∀ packet reply, act ≠ .setup packet reply) (notIn : act.isInDone = false)
    (same : (stage.next bsp act).rxCtrl 0 = stage.driver.rxCtrl 0) :
    StartsWithData1 bsp stage act := by
  refine ⟨fun awaits _ answers => ?_, fun isIn => absurd (notIn.symm.trans isIn) Bool.false_ne_true⟩
  have waits : ∃ sent, stage.phase = .serving false sent := by
    cases act with
    | setup packet reply => exact absurd rfl (notSetup packet reply)
    | inDone reply => exact awaits
    | outDone numBytesReceived togok reply => exact awaits
    | txSetNewBuffer ptr size => exact awaits
    | rxSetState state => exact awaits
    | elsewhere event => exact awaits
  obtain ⟨sent, isPhase⟩ := waits
  exact absurd ((congrArg response same).symm.trans answers) (tracked.notAcked sent isPhase)

theorem step_exactly (stage : Stage) (act : StageAct) (tracked : Tracked stage bsp)
    (admissible : Admissible stage act) :
    StartsWithData1 bsp stage act ↔ AcksOnData0 bsp stage act := by
  cases act with
  | setup packet reply => exact exactly_setup tracked packet admissible
  | inDone reply => exact iff_of_true (startsWithData1_inDone tracked reply) trivial
  | outDone numBytesReceived togok reply =>
      refine iff_of_true ⟨?_, Bool.noConfusion⟩ trivial
      rintro ⟨sent, isPhase⟩
      exact absurd admissible.1 (tracked.notAcked sent isPhase)
  | txSetNewBuffer ptr size =>
      refine iff_of_true (startsWithData1_of_same tracked (fun _ _ => nofun) rfl ?_) trivial
      exact congrFun (rxCtrl_txSetNewBuffer bsp stage.driver ptr size) 0
  | rxSetState state => exact exactly_rxSetState tracked admissible
  | elsewhere event =>
      refine iff_of_true (startsWithData1_of_same tracked (fun _ _ => nofun) rfl ?_) trivial
      exact congrArg Endp0.rxCtrl (endp0_step_elsewhere bsp tracked.usable.passthrough admissible)

end

def before (driver : Usb2Driver) : Stage := ⟨driver, .idle⟩

theorem tracked_before {driver : Usb2Driver} (usable : Usable driver) (bsp : Usb2Bsp) :
    Tracked (before driver) bsp := ⟨usable, fun _ => nofun, fun _ => nofun⟩

/-- Every control transfer of a run starts with DATA1 in both directions exactly if endpoint 0 gives
its first ACK to OUT only while its toggle is still at DATA0. -/
theorem starts_with_data1_iff (bsp : Usb2Bsp) {driver : Usb2Driver} (usable : Usable driver)
    {acts : List StageAct} (every : EveryStep (step bsp) Admissible (before driver) acts) :
    EveryStep (step bsp) (StartsWithData1 bsp) (before driver) acts ↔
      EveryStep (step bsp) (AcksOnData0 bsp) (before driver) acts :=
  @everyStep_iff _ _ (step bsp) (fun stage => Tracked stage bsp) Admissible (StartsWithData1 bsp)
    (AcksOnData0 bsp) step_exactly
    (fun _ _ _ tracked admissible _ stepped =>
      Option.some.inj stepped ▸ tracked_next tracked admissible)
    (before driver) acts (tracked_before usable bsp) every

/-! ## Two requests -/

def tog1Bit3 : Usb2Bsp := .bit3

def idleDevice : Usb2Driver :=
  { initial { usbDevice0 with
      rx := Function.update usbDevice0.rx 0 ⟨0x20020000, 1, 64, 64, 0#8⟩
      tx := Function.update usbDevice0.tx 0 ⟨0x20020000, 1, 64, 64, 0#8⟩ } (fun _ => 0#8) with
    dma := fun _ => 0x20020000
    ep0PassthroughEnabled := true }

theorem usable_idleDevice : Usable idleDevice where
  passthrough := ⟨rfl, by decide⟩
  speed := by decide

def answers (state : U8) : UserReply := ⟨[], state, 0, 0⟩

/-- A vendor request for eight bytes, sent and acknowledged, and a vendor request with eight bytes
after it. -/
theorem finished_request_first :
    EveryStep (step tog1Bit3) (StartsWithData1 tog1Bit3) (before idleDevice)
      [.setup ⟨0xc0#8, 1#8, ⟨0#8, 0#8⟩, ⟨0#8, 0#8⟩, 8#16⟩ (answers endpStateNak),
        .txSetNewBuffer 0x20030000 8, .inDone (answers endpStateNak),
        .outDone 0 true (answers endpStateAck),
        .setup ⟨0x40#8, 1#8, ⟨0#8, 0#8⟩, ⟨0#8, 0#8⟩, 8#16⟩ (answers endpStateAck)] :=
  (starts_with_data1_iff tog1Bit3 usable_idleDevice (by decide)).mpr (by decide)

/-- Where the first request is given up before its status stage, the second one expects DATA0. -/
theorem abandoned_request_first :
    Usable idleDevice ∧
      EveryStep (step tog1Bit3) Admissible (before idleDevice)
        [.setup ⟨0xc0#8, 1#8, ⟨0#8, 0#8⟩, ⟨0#8, 0#8⟩, 8#16⟩ (answers endpStateNak),
          .txSetNewBuffer 0x20030000 8, .inDone (answers endpStateNak),
          .setup ⟨0x40#8, 1#8, ⟨0#8, 0#8⟩, ⟨0#8, 0#8⟩, 8#16⟩ (answers endpStateAck)] ∧
      ¬EveryStep (step tog1Bit3) (StartsWithData1 tog1Bit3) (before idleDevice)
        [.setup ⟨0xc0#8, 1#8, ⟨0#8, 0#8⟩, ⟨0#8, 0#8⟩, 8#16⟩ (answers endpStateNak),
          .txSetNewBuffer 0x20030000 8, .inDone (answers endpStateNak),
          .setup ⟨0x40#8, 1#8, ⟨0#8, 0#8⟩, ⟨0#8, 0#8⟩, 8#16⟩ (answers endpStateAck)] :=
  ⟨usable_idleDevice, by decide, by decide⟩

end WchCh56x.Usb.PassthroughToggles
