import WchCh56x.Usb.EventFrames
import WchCh56x.Usb.TransferCtrl

/-!
# Setting an endpoint's state while the interrupt handler runs

`endp_rx_set_state` and `endp_tx_set_state` read a control register, change the copy
and write it back with interrupts enabled.  The endpoint's state is volatile and read
again for the test and for the value that is stored.
-/

namespace WchCh56x.Usb

/-- The points after the read of the control register at which an interrupt can enter. -/
inductive RacePoint : EndpDir → Type where
  /-- Before `endp->state` is read for the test, which only the OUT side has. -/
  | beforeTest : RacePoint .rx
  /-- Before `endp->state` is read for the new response. -/
  | beforeStore {dir : EndpDir} : RacePoint dir
  | beforeWrite {dir : EndpDir} : RacePoint dir
  deriving DecidableEq

namespace Usb2Driver

variable (bsp : Usb2Bsp) (driver : Usb2Driver) (endpNum : Fin 16) (state : U8)

/-- `endp_rx_set_state` with what happens at each point of its backend callback. -/
def endpRxSetStateInterrupted (interrupt : RacePoint .rx → Usb2Driver → Usb2Driver) : Usb2Driver :=
  let driver := driver.setRx endpNum { driver.device.rx endpNum with state := state }
  let reg := usb2EndpointReg endpNum
  let ctrl := driver.rxCtrl reg
  let driver := interrupt .beforeTest driver
  let ctrl :=
    if response ctrl ≠ uepResAck ∧ (driver.device.rx endpNum).state = endpStateAck then
      ctrl ^^^ bsp.rbUepTog1
    else
      ctrl
  let driver := interrupt .beforeStore driver
  let ctrl := setResponse ctrl (driver.device.rx endpNum).state
  let driver := interrupt .beforeWrite driver
  driver.setRxCtrl reg ctrl

/-- `endp_tx_set_state` with what happens at each point of its backend callback. -/
def endpTxSetStateInterrupted (interrupt : RacePoint .tx → Usb2Driver → Usb2Driver) : Usb2Driver :=
  let driver := driver.setTx endpNum { driver.device.tx endpNum with state := state }
  let reg := usb2EndpointReg endpNum
  let ctrl := driver.txCtrl reg
  let driver := interrupt .beforeStore driver
  let ctrl := setResponse ctrl (driver.device.tx endpNum).state
  let driver := interrupt .beforeWrite driver
  driver.setTxCtrl reg ctrl

/-- Without an interrupt these are the functions of the device interface. -/
theorem endpRxSetStateInterrupted_undisturbed (speed : driver.device.speed ≠ .usb30Superspeed) :
    driver.endpRxSetStateInterrupted bsp endpNum state (fun _ => id) =
      driver.endpRxSetState bsp endpNum state :=
  (driver.endpRxSetState_of_usb2 bsp speed endpNum state).symm

theorem endpTxSetStateInterrupted_undisturbed (speed : driver.device.speed ≠ .usb30Superspeed) :
    driver.endpTxSetStateInterrupted endpNum state (fun _ => id) =
      driver.endpTxSetState endpNum state :=
  (driver.endpTxSetState_of_usb2 speed endpNum state).symm

end Usb2Driver

namespace StateRace

open Usb2Driver

/-- A packet that the interrupt handler completes. -/
inductive Completion where
  | inDone (reply : UserReply)
  | outDone (numBytesReceived : Nat) (reply : UserReply)

namespace Completion

def reply : Completion → UserReply
  | inDone reply => reply
  | outDone _ reply => reply

def event (endpNum : Fin 16) : Completion → Usb2Event
  | inDone reply => .inDone endpNum reply
  | outDone numBytesReceived reply => .outDone endpNum numBytesReceived true reply

def handle (bsp : Usb2Bsp) (endpNum : Fin 16) (completion : Completion) (driver : Usb2Driver) :
    Usb2Driver :=
  Usb2Event.step bsp driver (completion.event endpNum)

end Completion

section

variable (bsp : Usb2Bsp) (driver : Usb2Driver) (endpNum : Fin 16) (state : U8)
  (completion : Completion)

/-- `endp_rx_set_state` or `endp_tx_set_state`. -/
def setState : EndpDir → Usb2Driver
  | .tx => driver.endpTxSetState endpNum state
  | .rx => driver.endpRxSetState bsp endpNum state

/-- The same with the handler at one point. -/
def setStateInterrupted : (dir : EndpDir) → RacePoint dir → Usb2Driver
  | .tx, point => driver.endpTxSetStateInterrupted endpNum state fun other =>
      if other = point then completion.handle bsp endpNum else id
  | .rx, point => driver.endpRxSetStateInterrupted bsp endpNum state fun other =>
      if other = point then completion.handle bsp endpNum else id

/-- The register ends as if one had run after the other. -/
def Serializable (dir : EndpDir) (point : RacePoint dir) : Prop :=
  let final (driver : Usb2Driver) := driver.ctrl dir (usb2EndpointReg endpNum)
  let interrupted := setStateInterrupted bsp driver endpNum state completion dir point
  final interrupted = final (completion.handle bsp endpNum (setState bsp driver endpNum state dir)) ∨
    final interrupted = final (setState bsp (completion.handle bsp endpNum driver) endpNum state dir)

/-- A packet completed on a running USB2 endpoint other than 0; all states are ACK, NAK or STALL. -/
structure Racing : Prop where
  notControl : endpNum ≠ 0
  speed : driver.device.speed ≠ .usb30Superspeed
  running : driver.device.state ≠ .powered
  state : EndpState state
  replied : EndpState completion.reply.state
  calls : ∀ apiCall ∈ completion.reply.calls, apiCall.Valid

/-! ## When the register ends well -/

/-- An OUT packet with a buffer, against `endp_rx_set_state`. -/
def OutHarmless (ctrl replied : U8) : RacePoint .rx → Prop
  | .beforeTest =>
      if replied = endpStateAck then response ctrl ≠ uepResAck
      else ¬(response ctrl ≠ uepResAck ∧ state = endpStateAck)
  | .beforeStore => replied = endpStateAck → state = endpStateAck ∧ response ctrl ≠ uepResAck
  | .beforeWrite => if state = endpStateAck then response ctrl ≠ uepResAck else replied ≠ endpStateAck

/-- The completions after which the register is that of one of the two orders. -/
def Harmless : (dir : EndpDir) → RacePoint dir → Completion → Prop
  | .rx, point, .outDone _ reply =>
      if (driver.device.rx endpNum).buffer ≠ 0 then
        OutHarmless state (driver.rxCtrl (usb2EndpointReg endpNum)) reply.state point
      else
        state = endpStateAck → response (driver.rxCtrl (usb2EndpointReg endpNum)) ≠ uepResAck
  | .rx, point, .inDone reply =>
      driver.EndsIn endpNum → point ≠ .beforeWrite →
        reply.calls.foldl (ApiCall.rxEndpState endpNum) state = state
  | .tx, _, .inDone _ => driver.dma (usb2TxEndpointAddrReg endpNum) = 0
  | .tx, point, .outDone _ reply =>
      let left := reply.calls.foldl (ApiCall.txEndpState endpNum) state
      (driver.device.rx endpNum).buffer ≠ 0 → point ≠ .beforeWrite → left = state ∨
        left = (driver.config.txStates (usb2EndpointReg endpNum) reply.calls).getLastD state

end

/-! ## What the handler leaves -/

section Handler

variable (bsp : Usb2Bsp) {driver : Usb2Driver} {endpNum : Fin 16} {reply : UserReply}
  {numBytesReceived : Nat} (notControl : endpNum ≠ 0) (running : driver.device.state ≠ .powered)

include notControl running

theorem handle_inDone : (Completion.inDone reply).handle bsp endpNum driver =
    (driver.transferPending.usb2InTransferHandler bsp endpNum reply).clearFlags :=
  (step_inDone bsp running endpNum reply).trans
    (congrArg Usb2Driver.clearFlags (if_pos (.inl notControl)))

theorem handle_outDone : (Completion.outDone numBytesReceived reply).handle bsp endpNum driver =
    (driver.transferPending.usb2OutTransferHandler bsp endpNum numBytesReceived reply).clearFlags :=
  (step_outDone bsp running endpNum numBytesReceived reply).trans
    (congrArg Usb2Driver.clearFlags (if_pos (.inl notControl)))

theorem handle_inDone_rx :
    ((Completion.inDone reply).handle bsp endpNum driver).rxCtrl (usb2EndpointReg endpNum) =
        driver.rxCtrl (usb2EndpointReg endpNum) ∧
      (((Completion.inDone reply).handle bsp endpNum driver).device.rx endpNum).state =
        if driver.EndsIn endpNum then
          reply.calls.foldl (ApiCall.rxEndpState endpNum) (driver.device.rx endpNum).state
        else
          (driver.device.rx endpNum).state := by
  rw [handle_inDone bsp notControl running]
  constructor
  · exact @usb2InTransferHandler_rxCtrl bsp driver.transferPending endpNum notControl reply
  · exact (@usb2InTransferHandler_state bsp driver.transferPending endpNum reply).1

theorem handle_inDone_txState :
    (((Completion.inDone reply).handle bsp endpNum driver).device.tx endpNum).state =
      if driver.EndsIn endpNum then
        reply.calls.foldl (ApiCall.txEndpState endpNum) (driver.device.tx endpNum).state
      else
        (driver.device.tx endpNum).state := by
  rw [handle_inDone bsp notControl running]
  exact (@usb2InTransferHandler_state bsp driver.transferPending endpNum reply).2

theorem handle_inDone_tx_unarmed (unarmed : driver.dma (usb2TxEndpointAddrReg endpNum) = 0) :
    ((Completion.inDone reply).handle bsp endpNum driver).txCtrl (usb2EndpointReg endpNum) =
      ctrlWith bsp (driver.txCtrl (usb2EndpointReg endpNum)) false uepResNak := by
  have more : ¬driver.transferPending.EndsIn endpNum := fun ends => ends.1 unarmed
  rw [handle_inDone bsp notControl running]
  refine (@usb2InTransferHandler_txCtrl bsp driver.transferPending endpNum notControl reply).trans ?_
  rw [if_neg more]
  exact if_pos unarmed

theorem handle_inDone_tx_armed (armed : driver.dma (usb2TxEndpointAddrReg endpNum) ≠ 0)
    (valid : ∀ apiCall ∈ reply.calls, apiCall.Valid) :
    toggle bsp (((Completion.inDone reply).handle bsp endpNum driver).txCtrl
        (usb2EndpointReg endpNum)) =
      !toggle bsp (driver.txCtrl (usb2EndpointReg endpNum)) := by
  rw [handle_inDone bsp notControl running]
  exact @toggle_usb2InTransferHandler bsp driver.transferPending endpNum notControl armed reply valid

theorem handle_outDone_rx (buffer : (driver.device.rx endpNum).buffer ≠ 0) :
    ((Completion.outDone numBytesReceived reply).handle bsp endpNum driver).rxCtrl
        (usb2EndpointReg endpNum) =
      outPacketCtrl bsp (driver.rxCtrl (usb2EndpointReg endpNum)) reply.state ∧
    (((Completion.outDone numBytesReceived reply).handle bsp endpNum driver).device.rx
      endpNum).state = reply.state := by
  rw [handle_outDone bsp notControl running]
  constructor
  · exact @usb2OutTransferHandler_rxCtrl bsp driver.transferPending endpNum numBytesReceived reply
      notControl buffer
  · exact (@usb2OutTransferHandler_state bsp driver.transferPending endpNum numBytesReceived reply
      notControl buffer).1

theorem handle_outDone_tx (buffer : (driver.device.rx endpNum).buffer ≠ 0) :
    ((Completion.outDone numBytesReceived reply).handle bsp endpNum driver).txCtrl
        (usb2EndpointReg endpNum) =
      txCtrlAfter (driver.txCtrl (usb2EndpointReg endpNum))
        (driver.config.txStates (usb2EndpointReg endpNum) reply.calls) ∧
    (((Completion.outDone numBytesReceived reply).handle bsp endpNum driver).device.tx
      endpNum).state = reply.calls.foldl (ApiCall.txEndpState endpNum) (driver.device.tx endpNum).state := by
  rw [handle_outDone bsp notControl running]
  constructor
  · exact @usb2OutTransferHandler_txCtrl bsp driver.transferPending endpNum numBytesReceived reply
      notControl buffer
  · exact (@usb2OutTransferHandler_state bsp driver.transferPending endpNum numBytesReceived reply
      notControl buffer).2

theorem handle_outDone_noBuffer (noBuffer : (driver.device.rx endpNum).buffer = 0) :
    (Completion.outDone numBytesReceived reply).handle bsp endpNum driver =
      (driver.setRxCtrl (usb2EndpointReg endpNum)
        (setResponse (driver.rxCtrl (usb2EndpointReg endpNum)) uepResNak)).clearFlags := by
  have stored := @usb2OutTransferHandler_of_noBuffer bsp driver.transferPending endpNum
    numBytesReceived reply noBuffer
  rw [handle_outDone bsp notControl running, stored]
  rfl

theorem handle_outDone_noBuffer_rx (noBuffer : (driver.device.rx endpNum).buffer = 0) :
    ((Completion.outDone numBytesReceived reply).handle bsp endpNum driver).rxCtrl
        (usb2EndpointReg endpNum) =
      ctrlWith bsp (driver.rxCtrl (usb2EndpointReg endpNum)) false uepResNak ∧
    (((Completion.outDone numBytesReceived reply).handle bsp endpNum driver).device.rx
      endpNum).state = (driver.device.rx endpNum).state := by
  rw [handle_outDone_noBuffer bsp notControl running noBuffer]
  exact ⟨setRxCtrl_self .., rfl⟩

theorem handle_outDone_noBuffer_tx (noBuffer : (driver.device.rx endpNum).buffer = 0) :
    ((Completion.outDone numBytesReceived reply).handle bsp endpNum driver).txCtrl
        (usb2EndpointReg endpNum) = driver.txCtrl (usb2EndpointReg endpNum) ∧
    (((Completion.outDone numBytesReceived reply).handle bsp endpNum driver).device.tx
      endpNum).state = (driver.device.tx endpNum).state := by
  rw [handle_outDone_noBuffer bsp notControl running noBuffer]
  exact ⟨rfl, rfl⟩

end Handler

theorem handle_speed (bsp : Usb2Bsp) (driver : Usb2Driver) (endpNum : Fin 16)
    (completion : Completion) :
    (completion.handle bsp endpNum driver).device.speed = driver.device.speed :=
  congrArg Config.speed (@config_step bsp driver (completion.event endpNum))

/-! ## What the main program leaves -/

/-- Valid calls keep a valid state, where each of them does. -/
theorem foldl_endpState {after : U8 → ApiCall → U8}
    (keeps : ∀ apiCall : ApiCall, apiCall.Valid → ∀ state, EndpState state →
      EndpState (after state apiCall)) {calls : List ApiCall}
    (valid : ∀ apiCall ∈ calls, apiCall.Valid) {state : U8} (isState : EndpState state) :
    EndpState (calls.foldl after state) :=
  List.foldlRecOn calls after isState fun before isState apiCall member =>
    keeps apiCall (valid apiCall member) before isState

theorem rxEndpState_valid {endpNum : Fin 16} (apiCall : ApiCall) (valid : apiCall.Valid)
    (state : U8) (isState : EndpState state) : EndpState (apiCall.rxEndpState endpNum state) := by
  cases apiCall with
  | endpTxSetNewBuffer other ptr size => exact isState
  | endpRxSetState other set => exact iteInduction (fun _ => valid) fun _ => isState
  | endpTxSetState other set => exact isState

theorem txEndpState_valid {endpNum : Fin 16} (apiCall : ApiCall) (valid : apiCall.Valid)
    (state : U8) (isState : EndpState state) : EndpState (apiCall.txEndpState endpNum state) := by
  cases apiCall with
  | endpTxSetNewBuffer other ptr size => exact isState
  | endpRxSetState other set => exact isState
  | endpTxSetState other set => exact iteInduction (fun _ => valid) fun _ => isState

/-- A response set after others is the only one left. -/
theorem setResponse_txCtrlAfter (ctrl : U8) {states : List U8}
    (valid : ∀ state ∈ states, EndpState state) (state : U8) :
    setResponse (txCtrlAfter ctrl states) state = setResponse ctrl state := by
  induction states generalizing ctrl with
  | nil => rfl
  | cons first rest ih =>
      obtain ⟨isValid, restValid⟩ := List.forall_mem_cons.mp valid
      exact (ih (setResponse ctrl first) restValid).trans (setResponse_setResponse ctrl isValid state)

section Main

variable (bsp : Usb2Bsp) {driver : Usb2Driver} {endpNum : Fin 16} {state : U8}
  {completion : Completion}

def rxStateSet (driver : Usb2Driver) (endpNum : Fin 16) (state : U8) : Usb2Driver :=
  driver.setRx endpNum { driver.device.rx endpNum with state := state }

def txStateSet (driver : Usb2Driver) (endpNum : Fin 16) (state : U8) : Usb2Driver :=
  driver.setTx endpNum { driver.device.tx endpNum with state := state }

theorem rxStateSet_state : ((rxStateSet driver endpNum state).device.rx endpNum).state = state :=
  (state_update driver.device.rx endpNum endpNum _).trans (if_pos rfl)

theorem txStateSet_state : ((txStateSet driver endpNum state).device.tx endpNum).state = state :=
  (state_update driver.device.tx endpNum endpNum _).trans (if_pos rfl)

theorem rxStateSet_buffer :
    ((rxStateSet driver endpNum state).device.rx endpNum).buffer =
      (driver.device.rx endpNum).buffer :=
  congrFun (@update_endpoint Nat UsbEndpoint.buffer driver.device.rx endpNum
    { driver.device.rx endpNum with state := state } rfl) endpNum

/-- `endp_rx_set_state` flips the toggle of an endpoint that it sets back to ACK. -/
def lateFlip (ctrl state : U8) : Bool := response ctrl ≠ uepResAck ∧ state = endpStateAck

theorem rxCtrl_setState (speed : driver.device.speed ≠ .usb30Superspeed) :
    (setState bsp driver endpNum state .rx).rxCtrl (usb2EndpointReg endpNum) =
      ctrlWith bsp (driver.rxCtrl (usb2EndpointReg endpNum))
        (lateFlip (driver.rxCtrl (usb2EndpointReg endpNum)) state) state :=
  (driver.rxCtrl_endpRxSetState bsp speed state).trans (rxCtrlForState_eq bsp _ state)

theorem txCtrl_setState (speed : driver.device.speed ≠ .usb30Superspeed) :
    (setState bsp driver endpNum state .tx).txCtrl (usb2EndpointReg endpNum) =
      ctrlWith bsp (driver.txCtrl (usb2EndpointReg endpNum)) false state :=
  driver.txCtrl_endpTxSetState speed state

/-- What `endp_rx_set_state` writes if the handler has left another state at the point. -/
def interruptedCtrl (bsp : Usb2Bsp) (ctrl state left : U8) : RacePoint .rx → U8
  | .beforeTest => ctrlWith bsp ctrl (lateFlip ctrl left) left
  | .beforeStore => ctrlWith bsp ctrl (lateFlip ctrl state) left
  | .beforeWrite => ctrlWith bsp ctrl (lateFlip ctrl state) state

/-- RX_CTRL after `endp_rx_set_state` with the handler at one point. -/
theorem rxCtrl_interrupted (point : RacePoint .rx) :
    (setStateInterrupted bsp driver endpNum state completion .rx point).rxCtrl
        (usb2EndpointReg endpNum) =
      interruptedCtrl bsp (driver.rxCtrl (usb2EndpointReg endpNum)) state
        ((completion.handle bsp endpNum (rxStateSet driver endpNum state)).device.rx endpNum).state
        point := by
  have set := @rxStateSet_state driver endpNum state
  have tested : (if response (driver.rxCtrl (usb2EndpointReg endpNum)) ≠ uepResAck ∧
        ((rxStateSet driver endpNum state).device.rx endpNum).state = endpStateAck then
      driver.rxCtrl (usb2EndpointReg endpNum) ^^^ bsp.rbUepTog1
    else
      driver.rxCtrl (usb2EndpointReg endpNum)) =
        flipIf bsp (driver.rxCtrl (usb2EndpointReg endpNum))
          (lateFlip (driver.rxCtrl (usb2EndpointReg endpNum)) state) := by
    rw [set, flipIf, lateFlip]
    simp only [decide_eq_true_eq]
  cases point with
  | beforeTest => exact (setRxCtrl_self ..).trans (rxCtrlForState_eq bsp _ _)
  | beforeStore =>
      refine (setRxCtrl_self ..).trans ?_
      exact congrArg (fun ctrl => setResponse ctrl ((completion.handle bsp endpNum
        (rxStateSet driver endpNum state)).device.rx endpNum).state) tested
  | beforeWrite =>
      refine (setRxCtrl_self ..).trans (Eq.trans ?_ (rxCtrlForState_eq bsp _ state))
      exact congrArg (rxCtrlForState bsp (driver.rxCtrl (usb2EndpointReg endpNum))) set

/-- TX_CTRL after `endp_tx_set_state` with the handler at one point. -/
theorem txCtrl_interrupted (point : RacePoint .tx) :
    (setStateInterrupted bsp driver endpNum state completion .tx point).txCtrl
        (usb2EndpointReg endpNum) =
      ctrlWith bsp (driver.txCtrl (usb2EndpointReg endpNum)) false
        (if point = .beforeWrite then state else
          ((completion.handle bsp endpNum (txStateSet driver endpNum state)).device.tx
            endpNum).state) := by
  have set := @txStateSet_state driver endpNum state
  cases point with
  | beforeStore => exact setTxCtrl_self ..
  | beforeWrite =>
      refine (setTxCtrl_self ..).trans ?_
      exact congrArg (setResponse (driver.txCtrl (usb2EndpointReg endpNum))) set

theorem serializable_iff (dir : EndpDir) {point : RacePoint dir} {final mainFirst handlerFirst : U8}
    (isFinal : (setStateInterrupted bsp driver endpNum state completion dir point).ctrl dir
      (usb2EndpointReg endpNum) = final)
    (isMainFirst : (completion.handle bsp endpNum (setState bsp driver endpNum state dir)).ctrl dir
      (usb2EndpointReg endpNum) = mainFirst)
    (isHandlerFirst : (setState bsp (completion.handle bsp endpNum driver) endpNum state dir).ctrl
      dir (usb2EndpointReg endpNum) = handlerFirst) :
    Serializable bsp driver endpNum state completion dir point ↔
      final = mainFirst ∨ final = handlerFirst := by
  rw [← isFinal, ← isMainFirst, ← isHandlerFirst]
  exact Iff.rfl

theorem setState_fixed (dir : EndpDir) :
    (setState bsp driver endpNum state dir).fixed = driver.fixed := by
  cases dir with
  | tx => exact driver.fixed_endpTxSetState endpNum state
  | rx => exact driver.fixed_endpRxSetState bsp endpNum state

theorem setState_buffer (dir : EndpDir) :
    ((setState bsp driver endpNum state dir).device.rx endpNum).buffer =
      (driver.device.rx endpNum).buffer :=
  congrArg (fun fixed : Fixed => fixed.config.rxBuffer endpNum)
    (@setState_fixed bsp driver endpNum state dir)

theorem Racing.running_setState (racing : Racing driver endpNum state completion) (dir : EndpDir) :
    (setState bsp driver endpNum state dir).device.state ≠ .powered := by
  have kept : (setState bsp driver endpNum state dir).device.state = driver.device.state :=
    congrArg Fixed.state (setState_fixed bsp dir)
  rw [kept]
  exact racing.running

theorem Racing.speed_handle (racing : Racing driver endpNum state completion) :
    (completion.handle bsp endpNum driver).device.speed ≠ .usb30Superspeed :=
  (handle_speed bsp driver endpNum completion).symm ▸ racing.speed

end Main

/-! ## Each pair of accesses -/

section Pairs

variable (bsp : Usb2Bsp) {driver : Usb2Driver} {endpNum : Fin 16} {state : U8}
  {numBytesReceived : Nat} {reply : UserReply}

theorem interruptedCtrl_eq_iff (ctrl : U8) {left : U8} (valid : EndpState state)
    (leftValid : EndpState left) (point : RacePoint .rx) :
    interruptedCtrl bsp ctrl state left point = ctrlWith bsp ctrl (lateFlip ctrl state) state ↔
      (point ≠ .beforeWrite → left = state) := by
  cases point with
  | beforeTest =>
      refine (ctrlWith_inj bsp ctrl leftValid valid).trans ⟨fun same _ => same.2, fun same => ?_⟩
      rw [same nofun]
      exact ⟨rfl, rfl⟩
  | beforeStore =>
      refine (ctrlWith_inj bsp ctrl leftValid valid).trans ⟨fun same _ => same.2, fun same => ?_⟩
      exact ⟨rfl, same nofun⟩
  | beforeWrite => exact ⟨fun _ apart => absurd rfl apart, fun _ => rfl⟩

theorem rx_inDone_iff (racing : Racing driver endpNum state (.inDone reply)) (point : RacePoint .rx) :
    Serializable bsp driver endpNum state (.inDone reply) .rx point ↔
      Harmless driver endpNum state .rx point (.inDone reply) := by
  have left := (@handle_inDone_rx bsp (rxStateSet driver endpNum state) endpNum reply
    racing.notControl racing.running).2
  rw [rxStateSet_state] at left
  have sets := racing.state
  have leaves := @foldl_endpState _ (@rxEndpState_valid endpNum) reply.calls racing.calls state sets
  have mainFirst := (@handle_inDone_rx bsp _ endpNum reply racing.notControl
    (racing.running_setState bsp .rx)).1.trans (rxCtrl_setState bsp racing.speed)
  have handled := (@handle_inDone_rx bsp driver endpNum reply racing.notControl racing.running).1
  have handlerFirst := @rxCtrl_setState bsp _ endpNum state (racing.speed_handle bsp)
  rw [handled] at handlerFirst
  rw [serializable_iff bsp .rx (rxCtrl_interrupted bsp point) mainFirst handlerFirst, or_self, left]
  change _ ↔ (driver.EndsIn endpNum → point ≠ .beforeWrite → _)
  by_cases ends : driver.EndsIn endpNum
  · have called : (rxStateSet driver endpNum state).EndsIn endpNum := ends
    rw [if_pos called, interruptedCtrl_eq_iff bsp _ sets leaves]
    exact ⟨fun kept _ => kept, fun kept => kept ends⟩
  · have notCalled : ¬(rxStateSet driver endpNum state).EndsIn endpNum := ends
    rw [if_neg notCalled, interruptedCtrl_eq_iff bsp _ sets sets]
    exact ⟨fun _ isEnd => absurd isEnd ends, fun _ _ => rfl⟩

/-- The flips of the two orders and of the overlap, compared. -/
theorem interruptedCtrl_out_iff (ctrl : U8) {replied : U8} (valid : EndpState state)
    (repliedValid : EndpState replied) (point : RacePoint .rx) :
    interruptedCtrl bsp ctrl state replied point =
          ctrlWith bsp ctrl (lateFlip ctrl state ^^ replied = endpStateAck) replied ∨
        interruptedCtrl bsp ctrl state replied point =
          ctrlWith bsp ctrl
            (decide (replied = endpStateAck) ^^ (replied ≠ endpStateAck ∧ state = endpStateAck)) state ↔
      OutHarmless state ctrl replied point := by
  have swap : endpStateAck = replied ↔ replied = endpStateAck := eq_comm
  cases point with
  | beforeTest =>
      refine (or_congr (ctrlWith_inj bsp ctrl repliedValid repliedValid)
        (ctrlWith_inj bsp ctrl repliedValid valid)).trans ?_
      by_cases acks : replied = endpStateAck <;> by_cases sets : state = endpStateAck <;>
        by_cases answers : response ctrl = uepResAck <;>
        simp [lateFlip, OutHarmless, acks, sets, answers]
  | beforeStore =>
      refine (or_congr (ctrlWith_inj bsp ctrl repliedValid repliedValid)
        (ctrlWith_inj bsp ctrl repliedValid valid)).trans ?_
      by_cases acks : replied = endpStateAck <;> by_cases sets : state = endpStateAck <;>
        by_cases answers : response ctrl = uepResAck <;>
        simp [lateFlip, OutHarmless, acks, sets, answers]
  | beforeWrite =>
      refine (or_congr (ctrlWith_inj bsp ctrl valid repliedValid)
        (ctrlWith_inj bsp ctrl valid valid)).trans ?_
      by_cases acks : replied = endpStateAck <;> by_cases sets : state = endpStateAck <;>
        by_cases answers : response ctrl = uepResAck <;>
        simp [lateFlip, OutHarmless, acks, sets, answers, swap]

/-- `endp_rx_set_state` after a handler that has left a response. -/
theorem rxCtrl_setState_after (speed : driver.device.speed ≠ .usb30Superspeed) {ctrl answered : U8}
    {flips : Bool} (valid : EndpState answered)
    (found : driver.rxCtrl (usb2EndpointReg endpNum) = ctrlWith bsp ctrl flips answered) :
    (setState bsp driver endpNum state .rx).rxCtrl (usb2EndpointReg endpNum) =
      ctrlWith bsp ctrl (flips ^^ (answered ≠ endpStateAck ∧ state = endpStateAck)) state := by
  rw [rxCtrl_setState bsp speed, found, ctrlWith_ctrlWith bsp ctrl flips _ valid, lateFlip,
    response_ctrlWith bsp ctrl flips valid]
  rfl

theorem rx_outDone_buffer_iff (racing : Racing driver endpNum state (.outDone numBytesReceived reply))
    (buffer : (driver.device.rx endpNum).buffer ≠ 0) (point : RacePoint .rx) :
    Serializable bsp driver endpNum state (.outDone numBytesReceived reply) .rx point ↔
      OutHarmless state (driver.rxCtrl (usb2EndpointReg endpNum)) reply.state point := by
  have sets := racing.state
  have replied : EndpState reply.state := racing.replied
  have left := (@handle_outDone_rx bsp (rxStateSet driver endpNum state) endpNum reply
    numBytesReceived racing.notControl racing.running (rxStateSet_buffer.trans_ne buffer)).2
  have mainFirst := (@handle_outDone_rx bsp _ endpNum reply numBytesReceived racing.notControl
    (racing.running_setState bsp .rx) ((setState_buffer bsp .rx).trans_ne buffer)).1
  rw [rxCtrl_setState bsp racing.speed, outPacketCtrl_eq bsp _ replied,
    ctrlWith_ctrlWith bsp _ _ _ sets] at mainFirst
  have handled := (@handle_outDone_rx bsp driver endpNum reply numBytesReceived racing.notControl
    racing.running buffer).1.trans (outPacketCtrl_eq bsp _ replied)
  have handlerFirst := @rxCtrl_setState_after bsp _ endpNum state (racing.speed_handle bsp) _ _ _
    replied handled
  rw [serializable_iff bsp .rx (rxCtrl_interrupted bsp point) mainFirst handlerFirst, left]
  exact interruptedCtrl_out_iff bsp _ sets replied point

theorem rx_outDone_noBuffer_iff
    (racing : Racing driver endpNum state (.outDone numBytesReceived reply))
    (noBuffer : (driver.device.rx endpNum).buffer = 0) (point : RacePoint .rx) :
    Serializable bsp driver endpNum state (.outDone numBytesReceived reply) .rx point ↔
      (state = endpStateAck → response (driver.rxCtrl (usb2EndpointReg endpNum)) ≠ uepResAck) := by
  have sets := racing.state
  have nak : EndpState uepResNak := .inr (.inl rfl)
  have left := (@handle_outDone_noBuffer_rx bsp (rxStateSet driver endpNum state) endpNum reply
    numBytesReceived racing.notControl racing.running (rxStateSet_buffer.trans noBuffer)).2.trans
      rxStateSet_state
  have mainFirst := (@handle_outDone_noBuffer_rx bsp _ endpNum reply numBytesReceived
    racing.notControl (racing.running_setState bsp .rx)
      ((setState_buffer bsp .rx).trans noBuffer)).1
  rw [rxCtrl_setState bsp racing.speed, ctrlWith_ctrlWith bsp _ _ _ sets] at mainFirst
  have handled := (@handle_outDone_noBuffer_rx bsp driver endpNum reply numBytesReceived
    racing.notControl racing.running noBuffer).1
  have handlerFirst := @rxCtrl_setState_after bsp _ endpNum state (racing.speed_handle bsp) _ _ _
    nak handled
  have written := (interruptedCtrl_eq_iff bsp (driver.rxCtrl (usb2EndpointReg endpNum)) sets sets
    point).mpr fun _ => rfl
  rw [serializable_iff bsp .rx (rxCtrl_interrupted bsp point) mainFirst handlerFirst, left, written,
    ctrlWith_inj bsp _ sets nak, ctrlWith_inj bsp _ sets sets]
  by_cases acks : state = endpStateAck
  · have notNak : endpStateAck ≠ uepResNak := by decide
    have naks : uepResNak ≠ endpStateAck := notNak.symm
    simp [lateFlip, acks, notNak, naks]
  · simp [lateFlip, acks]

theorem rx_outDone_iff (racing : Racing driver endpNum state (.outDone numBytesReceived reply))
    (point : RacePoint .rx) :
    Serializable bsp driver endpNum state (.outDone numBytesReceived reply) .rx point ↔
      Harmless driver endpNum state .rx point (.outDone numBytesReceived reply) := by
  by_cases noBuffer : (driver.device.rx endpNum).buffer = 0
  · exact (rx_outDone_noBuffer_iff bsp racing noBuffer point).trans
      (iff_of_eq (if_neg (not_not.mpr noBuffer))).symm
  · exact (rx_outDone_buffer_iff bsp racing noBuffer point).trans (iff_of_eq (if_pos noBuffer)).symm

theorem setState_txDma (dmaReg : DmaReg) :
    (setState bsp driver endpNum state .tx).dma dmaReg = driver.dma dmaReg := by
  change (driver.endpTxSetState endpNum state).dma dmaReg = _
  unfold endpTxSetState
  dsimp only
  split
  · rfl
  · rfl

/-- Where the handler flips, the toggle that the main program has read is the old one. -/
theorem tx_inDone_iff (racing : Racing driver endpNum state (.inDone reply)) (point : RacePoint .tx) :
    Serializable bsp driver endpNum state (.inDone reply) .tx point ↔
      driver.dma (usb2TxEndpointAddrReg endpNum) = 0 := by
  have sets := racing.state
  have nak : EndpState uepResNak := .inr (.inl rfl)
  have left := @handle_inDone_txState bsp (txStateSet driver endpNum state) endpNum reply
    racing.notControl racing.running
  rw [txStateSet_state] at left
  have leaves := @foldl_endpState _ (@txEndpState_valid endpNum) reply.calls racing.calls state sets
  have handlerFirst := @txCtrl_setState bsp _ endpNum state (racing.speed_handle bsp)
  by_cases unarmed : driver.dma (usb2TxEndpointAddrReg endpNum) = 0
  · refine iff_of_true ?_ unarmed
    have more : ¬(txStateSet driver endpNum state).EndsIn endpNum := fun ends => ends.1 unarmed
    rw [if_neg more] at left
    rw [@handle_inDone_tx_unarmed bsp driver endpNum reply racing.notControl racing.running unarmed,
      ctrlWith_ctrlWith bsp _ _ _ nak] at handlerFirst
    refine (serializable_iff bsp .tx (txCtrl_interrupted bsp point) rfl handlerFirst).mpr (.inr ?_)
    rw [left, ite_self]
    rfl
  · refine iff_of_false ?_ unarmed
    have armedSet : (setState bsp driver endpNum state .tx).dma (usb2TxEndpointAddrReg endpNum) ≠ 0 :=
      (setState_txDma bsp _).trans_ne unarmed
    have mainToggle := @handle_inDone_tx_armed bsp _ endpNum reply racing.notControl
      (racing.running_setState bsp .tx) armedSet racing.calls
    have handledToggle := @handle_inDone_tx_armed bsp driver endpNum reply racing.notControl
      racing.running unarmed racing.calls
    have written : EndpState (if point = .beforeWrite then state else
        if (txStateSet driver endpNum state).EndsIn endpNum then
          reply.calls.foldl (ApiCall.txEndpState endpNum) state
        else
          state) := by
      split
      · exact sets
      · split
        · exact leaves
        · exact sets
    have finalToggle := toggle_ctrlWith bsp (driver.txCtrl (usb2EndpointReg endpNum)) false written
    rw [Bool.xor_false] at finalToggle
    rw [txCtrl_setState bsp racing.speed, toggle_ctrlWith bsp _ false sets, Bool.xor_false] at mainToggle
    have handlerToggle := toggle_ctrlWith bsp (((Completion.inDone reply).handle bsp endpNum
      driver).txCtrl (usb2EndpointReg endpNum)) false sets
    rw [Bool.xor_false, handledToggle] at handlerToggle
    rw [serializable_iff bsp .tx (txCtrl_interrupted bsp point) rfl handlerFirst, left]
    rintro (same | same)
    · have toggles := congrArg (toggle bsp) same
      rw [finalToggle] at toggles
      exact Bool.not_ne_self _ (toggles.trans mainToggle).symm
    · have toggles := congrArg (toggle bsp) same
      rw [finalToggle, handlerToggle] at toggles
      exact Bool.not_ne_self _ toggles.symm

theorem tx_outDone_iff (racing : Racing driver endpNum state (.outDone numBytesReceived reply))
    (point : RacePoint .tx) :
    Serializable bsp driver endpNum state (.outDone numBytesReceived reply) .tx point ↔
      Harmless driver endpNum state .tx point (.outDone numBytesReceived reply) := by
  have sets := racing.state
  have handlerFirst := @txCtrl_setState bsp _ endpNum state (racing.speed_handle bsp)
  change _ ↔ ((driver.device.rx endpNum).buffer ≠ 0 → point ≠ .beforeWrite → _)
  by_cases noBuffer : (driver.device.rx endpNum).buffer = 0
  · have left := (@handle_outDone_noBuffer_tx bsp (txStateSet driver endpNum state) endpNum reply
      numBytesReceived racing.notControl racing.running noBuffer).2.trans txStateSet_state
    rw [(@handle_outDone_noBuffer_tx bsp driver endpNum reply numBytesReceived racing.notControl
      racing.running noBuffer).1] at handlerFirst
    refine iff_of_true ?_ fun buffer => absurd noBuffer buffer
    refine (serializable_iff bsp .tx (txCtrl_interrupted bsp point) rfl handlerFirst).mpr (.inr ?_)
    rw [left, ite_self]
  · have calls : ∀ apiCall ∈ reply.calls, apiCall.Valid := racing.calls
    have validStates := driver.config.txStates_valid (usb2EndpointReg endpNum) calls
    have last : EndpState ((driver.config.txStates (usb2EndpointReg endpNum) reply.calls).getLastD
        state) :=
      List.forall_mem_cons.mpr ⟨sets, validStates⟩ _ List.getLastD_mem_cons
    have leaves := @foldl_endpState _ (@txEndpState_valid endpNum) reply.calls racing.calls state sets
    have left := (@handle_outDone_tx bsp (txStateSet driver endpNum state) endpNum reply
      numBytesReceived racing.notControl racing.running noBuffer).2
    rw [txStateSet_state] at left
    have mainFirst := (@handle_outDone_tx bsp _ endpNum reply numBytesReceived racing.notControl
      (racing.running_setState bsp .tx) ((setState_buffer bsp .tx).trans_ne noBuffer)).1
    have config : (setState bsp driver endpNum state .tx).config = driver.config :=
      congrArg Fixed.config (setState_fixed bsp .tx)
    rw [txCtrl_setState bsp racing.speed, config,
      txCtrlAfter_ctrlWith bsp _ false sets validStates] at mainFirst
    rw [(@handle_outDone_tx bsp driver endpNum reply numBytesReceived racing.notControl
      racing.running noBuffer).1] at handlerFirst
    have responses := setResponse_txCtrlAfter (driver.txCtrl (usb2EndpointReg endpNum)) validStates
      state
    rw [serializable_iff bsp .tx (txCtrl_interrupted bsp point) mainFirst
      (handlerFirst.trans responses), left]
    cases point with
    | beforeStore =>
        have toLast := @ctrlWith_inj bsp (driver.txCtrl (usb2EndpointReg endpNum)) false false _ _
          leaves last
        have toSet := @ctrlWith_inj bsp (driver.txCtrl (usb2EndpointReg endpNum)) false false _ _
          leaves sets
        refine (or_congr toLast toSet).trans ?_
        constructor
        · rintro (isLast | isSet) _ _
          · exact .inr isLast.2
          · exact .inl isSet.2
        · intro harmless
          exact (harmless noBuffer nofun).elim (fun isSet => .inr ⟨rfl, isSet⟩)
            fun isLast => .inl ⟨rfl, isLast⟩
    | beforeWrite => exact iff_of_true (.inr rfl) fun _ apart => absurd rfl apart

end Pairs

/-- A state set while a packet completes leaves the register of one of the two orders exactly
under the condition of its direction and the packet's. -/
theorem setState_serializable_iff (bsp : Usb2Bsp) {driver : Usb2Driver} {endpNum : Fin 16}
    {state : U8} {completion : Completion} (racing : Racing driver endpNum state completion)
    (dir : EndpDir) (point : RacePoint dir) :
    Serializable bsp driver endpNum state completion dir point ↔
      Harmless driver endpNum state dir point completion := by
  cases dir with
  | tx =>
      cases completion with
      | inDone reply => exact tx_inDone_iff bsp racing point
      | outDone numBytesReceived reply => exact tx_outDone_iff bsp racing point
  | rx =>
      cases completion with
      | inDone reply => exact rx_inDone_iff bsp racing point
      | outDone numBytesReceived reply => exact rx_outDone_iff bsp racing point

/-! ## A lost flip -/

def streaming : Usb2Driver :=
  let device := { usbDevice0 with
    state := .configured
    endpointMask := endpointBit .tx 1
    tx := Function.update usbDevice0.tx 1 ⟨0x20020000, 1, 512, 512, endpStateAck⟩ }
  ((Usb2Driver.initial device fun _ => 0#8).usb2SetupEndpoints.endpTxSetNewBuffer 1 0x20020000 64).2

theorem racing_streaming :
    Racing streaming 1 endpStateNak (.inDone noReply) where
  notControl := by decide
  speed := by decide
  running := by decide
  state := .inr (.inl rfl)
  replied := .inl rfl
  calls := nofun

/-- NAK set before the packet's completion is stored costs the flip of the packet. -/
theorem nak_loses_flip :
    Racing streaming 1 endpStateNak (.inDone noReply) ∧
      ¬Serializable ⟨3, by decide, by decide⟩ streaming 1 endpStateNak
        (.inDone noReply) .tx .beforeWrite :=
  ⟨racing_streaming, by unfold Serializable; decide⟩

/-- The completion leaves the OUT side, so a state set there meanwhile takes effect. -/
theorem nak_set_for_out :
    Serializable ⟨3, by decide, by decide⟩ streaming 1 endpStateNak
      (.inDone noReply) .rx .beforeTest :=
  (setState_serializable_iff _ racing_streaming .rx .beforeTest).mpr fun _ _ => rfl

end StateRace

end WchCh56x.Usb
