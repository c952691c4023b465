import WchCh56x.Usb.Callbacks

/-!
# The control registers of an endpoint after a completion

A response replaces the one before it and leaves the toggle, and a flip leaves the
response.  So a register that has been read once is known by its flips and its last
response.
-/

namespace WchCh56x.Usb

/-! ## Flips and responses -/

section Values

variable (bsp : Usb2Bsp) (ctrl : U8)

def flipIf (flips : Bool) : U8 := if flips then ctrl ^^^ bsp.rbUepTog1 else ctrl

def ctrlWith (flips : Bool) (state : U8) : U8 := setResponse (flipIf bsp ctrl flips) state

theorem setResponse_setResponse {first : U8} (valid : EndpState first) (second : U8) :
    setResponse (setResponse ctrl first) second = setResponse ctrl second := by
  have gone : first &&& ~~~rbUepResMask = 0#8 := by
    rw [← valid.inMask, BitVec.and_assoc, show rbUepResMask &&& ~~~rbUepResMask = 0#8 from rfl]
    exact BitVec.and_zero
  rw [setResponse, setResponse, BitVec.and_or_distrib_right, BitVec.and_assoc, BitVec.and_self,
    gone, BitVec.or_zero, setResponse]

theorem setResponse_xor_tog {state : U8} (valid : EndpState state) :
    setResponse ctrl state ^^^ bsp.rbUepTog1 = setResponse (ctrl ^^^ bsp.rbUepTog1) state := by
  ext bit inRange
  rw [setResponse, setResponse, rbUepTog1_eq, BitVec.getElem_xor, BitVec.getElem_or,
    BitVec.getElem_or, BitVec.getElem_and, BitVec.getElem_and, BitVec.getElem_not,
    BitVec.getElem_xor, BitVec.getElem_twoPow]
  by_cases isTog : bit = bsp.togBit
  · subst isTog
    have masked := rbUepResMask_togBit bsp
    have outside := valid.bit_eq_false bsp
    rw [BitVec.getLsbD_eq_getElem inRange] at masked outside
    simp [masked, outside]
  · simp [isTog]

theorem toggle_flipIf (flips : Bool) : toggle bsp (flipIf bsp ctrl flips) = (toggle bsp ctrl ^^ flips) := by
  cases flips with
  | false => exact (Bool.xor_false _).symm
  | true => exact (toggle_xor_tog bsp ctrl).trans (Bool.xor_true _).symm

theorem toggle_ctrlWith (flips : Bool) {state : U8} (valid : EndpState state) :
    toggle bsp (ctrlWith bsp ctrl flips state) = (toggle bsp ctrl ^^ flips) :=
  (toggle_setResponse bsp _ valid).trans (toggle_flipIf bsp ctrl flips)

/-- The register is known by its flips and its response. -/
theorem ctrlWith_inj {left right : Bool} {first second : U8} (firstValid : EndpState first)
    (secondValid : EndpState second) :
    ctrlWith bsp ctrl left first = ctrlWith bsp ctrl right second ↔ left = right ∧ first = second := by
  constructor
  · intro same
    have toggles := congrArg (toggle bsp) same
    have responses := congrArg response same
    rw [toggle_ctrlWith bsp ctrl left firstValid, toggle_ctrlWith bsp ctrl right secondValid,
      Bool.xor_right_inj] at toggles
    unfold ctrlWith at responses
    rw [response_setResponse _ firstValid, response_setResponse _ secondValid] at responses
    exact ⟨toggles, responses⟩
  · rintro ⟨rfl, rfl⟩
    rfl

theorem flipIf_flipIf (first second : Bool) :
    flipIf bsp (flipIf bsp ctrl first) second = flipIf bsp ctrl (first ^^ second) := by
  cases first with
  | false =>
      rw [Bool.false_xor]
      rfl
  | true =>
      cases second with
      | false => rfl
      | true =>
          change ctrl ^^^ bsp.rbUepTog1 ^^^ bsp.rbUepTog1 = ctrl
          rw [BitVec.xor_assoc, BitVec.xor_self, BitVec.xor_zero]

theorem flipIf_setResponse (flips : Bool) {state : U8} (valid : EndpState state) :
    flipIf bsp (setResponse ctrl state) flips = setResponse (flipIf bsp ctrl flips) state := by
  cases flips with
  | false => rfl
  | true => exact setResponse_xor_tog bsp ctrl valid

/-- A second response after more flips. -/
theorem ctrlWith_ctrlWith (first second : Bool) {state : U8} (valid : EndpState state) (other : U8) :
    ctrlWith bsp (ctrlWith bsp ctrl first state) second other =
      ctrlWith bsp ctrl (first ^^ second) other := by
  unfold ctrlWith
  rw [flipIf_setResponse bsp _ second valid, setResponse_setResponse _ valid, flipIf_flipIf]

theorem rxCtrlForState_eq (state : U8) :
    rxCtrlForState bsp ctrl state =
      ctrlWith bsp ctrl (response ctrl ≠ uepResAck ∧ state = endpStateAck) state := by
  unfold rxCtrlForState ctrlWith flipIf
  simp only [decide_eq_true_eq]

theorem outPacketCtrl_eq {state : U8} (valid : EndpState state) :
    Usb2Driver.outPacketCtrl bsp ctrl state = ctrlWith bsp ctrl (state = endpStateAck) state := by
  unfold Usb2Driver.outPacketCtrl ctrlWith flipIf
  simp only [decide_eq_true_eq]
  split
  · exact setResponse_xor_tog bsp ctrl valid
  · rfl

theorem response_ctrlWith (flips : Bool) {state : U8} (valid : EndpState state) :
    response (ctrlWith bsp ctrl flips state) = state := response_setResponse _ valid

end Values

/-! ## The calls of a callback -/

def ApiCall.Valid : ApiCall → Prop
  | .endpTxSetNewBuffer _ _ _ => True
  | .endpRxSetState _ state => EndpState state
  | .endpTxSetState _ state => EndpState state

instance : (apiCall : ApiCall) → Decidable apiCall.Valid
  | .endpTxSetNewBuffer _ _ _ => inferInstanceAs (Decidable True)
  | .endpRxSetState _ _ | .endpTxSetState _ _ => inferInstanceAs (Decidable (EndpState _))

theorem Config.txStates_valid (config : Config) (reg : Fin 8) {calls : List ApiCall}
    (valid : ∀ apiCall ∈ calls, apiCall.Valid) : ∀ state ∈ config.txStates reg calls, EndpState state := by
  intro state isState
  obtain ⟨apiCall, member, found⟩ := List.mem_filterMap.mp isState
  have isValid := valid apiCall member
  cases apiCall with
  | endpTxSetNewBuffer endpNum ptr size =>
      unfold Config.txState at found
      dsimp only at found
      split at found
      · obtain rfl := Option.some.inj found
        exact .inl rfl
      · cases found
  | endpRxSetState endpNum other => cases found
  | endpTxSetState endpNum other =>
      unfold Config.txState at found
      dsimp only at found
      split at found
      · obtain rfl := Option.some.inj found
        exact isValid
      · cases found

/-- TX_CTRL keeps its flips and ends with the last response. -/
theorem txCtrlAfter_ctrlWith (bsp : Usb2Bsp) (ctrl : U8) (flips : Bool) {first : U8}
    (firstValid : EndpState first) {states : List U8} (valid : ∀ state ∈ states, EndpState state) :
    txCtrlAfter (ctrlWith bsp ctrl flips first) states =
      ctrlWith bsp ctrl flips (states.getLastD first) := by
  induction states generalizing first with
  | nil => rfl
  | cons state rest ih =>
      obtain ⟨isValid, restValid⟩ := List.forall_mem_cons.mp valid
      have next : setResponse (ctrlWith bsp ctrl flips first) state = ctrlWith bsp ctrl flips state :=
        setResponse_setResponse _ firstValid state
      rw [txCtrlAfter, List.foldl_cons, next, List.getLastD_cons]
      exact ih isValid restValid

theorem toggle_txCtrlAfter (bsp : Usb2Bsp) (ctrl : U8) {states : List U8}
    (valid : ∀ state ∈ states, EndpState state) :
    toggle bsp (txCtrlAfter ctrl states) = toggle bsp ctrl := by
  induction states generalizing ctrl with
  | nil => rfl
  | cons state rest ih =>
      obtain ⟨isValid, restValid⟩ := List.forall_mem_cons.mp valid
      exact (ih (setResponse ctrl state) restValid).trans (toggle_setResponse bsp ctrl isValid)

/-- The state of an OUT endpoint after a call. -/
def ApiCall.rxEndpState (endpNum : Fin 16) (before : U8) : ApiCall → U8
  | .endpRxSetState other state => if other = endpNum then state else before
  | .endpTxSetNewBuffer _ _ _ | .endpTxSetState _ _ => before

/-- The state of an IN endpoint after a call. -/
def ApiCall.txEndpState (endpNum : Fin 16) (before : U8) : ApiCall → U8
  | .endpTxSetState other state => if other = endpNum then state else before
  | .endpTxSetNewBuffer _ _ _ | .endpRxSetState _ _ => before

namespace Usb2Driver

variable (bsp : Usb2Bsp) (driver : Usb2Driver)

theorem device_endpTxReady (endpNum : Fin 16) (size : Nat) :
    (driver.endpTxReady endpNum size).device = driver.device := by
  unfold endpTxReady usb2EndpTxReady
  dsimp only
  split
  · split
    · rfl
    · rfl
  · split
    · rfl
    · rfl

theorem state_update (endps : Fin 16 → UsbEndpoint) (endpNum other : Fin 16) (endp : UsbEndpoint) :
    (Function.update endps endpNum endp other).state =
      if endpNum = other then endp.state else (endps other).state := by
  by_cases isIt : endpNum = other
  · subst isIt
    rw [Function.update_self, if_pos rfl]
  · rw [Function.update_of_ne (Ne.symm isIt), if_neg isIt]

/-- A request for a new buffer sets the buffer pointer of its endpoint or leaves the device alone. -/
theorem device_endpTxSetNewBuffer (endpNum : Fin 16) (ptr size : Nat) :
    (driver.endpTxSetNewBuffer endpNum ptr size).2.device = driver.device ∨
      (driver.endpTxSetNewBuffer endpNum ptr size).2.device =
        (driver.setTx endpNum { driver.device.tx endpNum with buffer := ptr }).device := by
  unfold endpTxSetNewBuffer
  dsimp only
  split
  · exact Or.inl rfl
  · right
    split
    · rfl
    · have ready := device_endpTxReady ((driver.enterCritical.setTx endpNum
        { driver.device.tx endpNum with buffer := ptr }).copyToEndp0 endpNum ptr size) endpNum size
      refine ready.trans ?_
      unfold copyToEndp0
      split
      · rfl
      · rfl

theorem state_endpTxSetNewBuffer (endpNum other : Fin 16) (ptr size : Nat) :
    ((driver.endpTxSetNewBuffer endpNum ptr size).2.device.rx other).state =
        (driver.device.rx other).state ∧
      ((driver.endpTxSetNewBuffer endpNum ptr size).2.device.tx other).state =
        (driver.device.tx other).state := by
  have filled : ((driver.setTx endpNum
      { driver.device.tx endpNum with buffer := ptr }).device.tx other).state =
        (driver.device.tx other).state := by
    refine (state_update driver.device.tx endpNum other _).trans ?_
    split
    · next isIt => rw [isIt]
    · rfl
  rcases driver.device_endpTxSetNewBuffer endpNum ptr size with same | set
  · rw [same]
    exact ⟨rfl, rfl⟩
  · rw [set]
    exact ⟨rfl, filled⟩

theorem rxState_call (endpNum : Fin 16) (apiCall : ApiCall) :
    ((driver.call bsp apiCall).device.rx endpNum).state =
      apiCall.rxEndpState endpNum (driver.device.rx endpNum).state := by
  cases apiCall with
  | endpTxSetNewBuffer other ptr size => exact (driver.state_endpTxSetNewBuffer other endpNum ptr size).1
  | endpRxSetState other state =>
      have set := state_update driver.device.rx other endpNum
        { driver.device.rx other with state := state }
      change ((driver.endpRxSetState bsp other state).device.rx endpNum).state = _
      unfold endpRxSetState
      dsimp only
      split
      · exact set
      · exact set
  | endpTxSetState other state =>
      change ((driver.endpTxSetState other state).device.rx endpNum).state = _
      unfold endpTxSetState
      dsimp only
      split
      · rfl
      · rfl

theorem txState_call (endpNum : Fin 16) (apiCall : ApiCall) :
    ((driver.call bsp apiCall).device.tx endpNum).state =
      apiCall.txEndpState endpNum (driver.device.tx endpNum).state := by
  cases apiCall with
  | endpTxSetNewBuffer other ptr size => exact (driver.state_endpTxSetNewBuffer other endpNum ptr size).2
  | endpRxSetState other state =>
      change ((driver.endpRxSetState bsp other state).device.tx endpNum).state = _
      unfold endpRxSetState
      dsimp only
      split
      · rfl
      · rfl
  | endpTxSetState other state =>
      have set := state_update driver.device.tx other endpNum
        { driver.device.tx other with state := state }
      change ((driver.endpTxSetState other state).device.tx endpNum).state = _
      unfold endpTxSetState
      dsimp only
      split
      · exact set
      · exact set

theorem rxState_runCalls (endpNum : Fin 16) (calls : List ApiCall) :
    ((driver.runCalls bsp calls).device.rx endpNum).state =
      calls.foldl (ApiCall.rxEndpState endpNum) (driver.device.rx endpNum).state := by
  induction calls generalizing driver with
  | nil => rfl
  | cons apiCall rest ih =>
      have first := driver.rxState_call bsp endpNum apiCall
      have others := ih (driver.call bsp apiCall)
      rw [first] at others
      exact others

theorem txState_runCalls (endpNum : Fin 16) (calls : List ApiCall) :
    ((driver.runCalls bsp calls).device.tx endpNum).state =
      calls.foldl (ApiCall.txEndpState endpNum) (driver.device.tx endpNum).state := by
  induction calls generalizing driver with
  | nil => rfl
  | cons apiCall rest ih =>
      have first := driver.txState_call bsp endpNum apiCall
      have others := ih (driver.call bsp apiCall)
      rw [first] at others
      exact others

/-! ## IN completions -/

/-- The completion ends a transfer, so that the handler calls `tx_complete`. -/
def EndsIn (endpNum : Fin 16) : Prop :=
  driver.dma (usb2TxEndpointAddrReg endpNum) ≠ 0 ∧
    driver.endpTxRemainingBytes endpNum ≤ (driver.device.tx endpNum).maxPacketSize

instance (endpNum : Fin 16) : Decidable (driver.EndsIn endpNum) := inferInstanceAs (Decidable (_ ∧ _))

section In

variable {driver} {endpNum : Fin 16} (notControl : endpNum ≠ 0) (reply : UserReply)

def txCompleteDone (driver : Usb2Driver) (endpNum : Fin 16) (reply : UserReply) : Usb2Driver :=
  (driver.beforeTxComplete bsp endpNum).invoke bsp (.txComplete endpNum) reply

theorem usb2InTransferHandler_of_ends (ends : driver.EndsIn endpNum) :
    driver.usb2InTransferHandler bsp endpNum reply =
      (if endpNum ≠ 0 then
        (driver.txCompleteDone bsp endpNum reply).setDma (usb2TxEndpointAddrReg endpNum)
          ((driver.txCompleteDone bsp endpNum reply).device.tx endpNum).buffer
      else
        driver.txCompleteDone bsp endpNum reply).setRxCtrl (usb2EndpointReg endpNum)
          (driver.inTransferStored bsp endpNum).1 := by
  have last := (Callbacks.countInPacket_remaining_eq_zero endpNum).mpr ends.2
  exact (if_pos ends.1).trans (if_pos last)

theorem usb2InTransferHandler_of_more (armed : driver.dma (usb2TxEndpointAddrReg endpNum) ≠ 0)
    (more : ¬driver.EndsIn endpNum) :
    driver.usb2InTransferHandler bsp endpNum reply =
      (((driver.countInPacket endpNum).setDma (usb2TxEndpointAddrReg endpNum)
        (u32 (driver.dma (usb2TxEndpointAddrReg endpNum) + driver.inPacketLen endpNum))).setTxCtrl
          (usb2EndpointReg endpNum)
          (setResponse (driver.txCtrl (usb2EndpointReg endpNum)) uepResAck ^^^
            bsp.rbUepTog1)).setRxCtrl (usb2EndpointReg endpNum)
              (driver.rxCtrl (usb2EndpointReg endpNum)) := by
  have left : ¬(driver.countInPacket endpNum).endpTxRemainingBytes endpNum = 0 := fun last =>
    more ⟨armed, (Callbacks.countInPacket_remaining_eq_zero endpNum).mp last⟩
  exact (if_pos armed).trans (if_neg left)

theorem usb2InTransferHandler_of_unarmed (unarmed : driver.dma (usb2TxEndpointAddrReg endpNum) = 0) :
    driver.usb2InTransferHandler bsp endpNum reply =
      (driver.setTxCtrl (usb2EndpointReg endpNum)
        (setResponse (driver.txCtrl (usb2EndpointReg endpNum)) uepResNak)).setRxCtrl
          (usb2EndpointReg endpNum) (driver.rxCtrl (usb2EndpointReg endpNum)) :=
  if_neg (not_not.mpr unarmed)

include notControl

theorem inTransferStored_eq : driver.inTransferStored bsp endpNum =
    (driver.rxCtrl (usb2EndpointReg endpNum),
      driver.txCtrl (usb2EndpointReg endpNum) ^^^ bsp.rbUepTog1) :=
  (if_neg fun both => notControl both.1).trans (if_neg fun both => notControl both.1)

/-- An IN completion leaves the OUT side of its endpoint. -/
theorem usb2InTransferHandler_rxCtrl :
    (driver.usb2InTransferHandler bsp endpNum reply).rxCtrl (usb2EndpointReg endpNum) =
      driver.rxCtrl (usb2EndpointReg endpNum) := by
  by_cases ends : driver.EndsIn endpNum
  · rw [usb2InTransferHandler_of_ends bsp reply ends, setRxCtrl_self,
      inTransferStored_eq bsp notControl]
  by_cases unarmed : driver.dma (usb2TxEndpointAddrReg endpNum) = 0
  · rw [usb2InTransferHandler_of_unarmed bsp reply unarmed, setRxCtrl_self]
  · rw [usb2InTransferHandler_of_more bsp reply unarmed ends, setRxCtrl_self]

theorem txCompleteDone_txCtrl :
    (driver.txCompleteDone bsp endpNum reply).txCtrl (usb2EndpointReg endpNum) =
      txCtrlAfter (ctrlWith bsp (driver.txCtrl (usb2EndpointReg endpNum)) true uepResNak)
        (driver.config.txStates (usb2EndpointReg endpNum) reply.calls) := by
  have found : (driver.beforeTxComplete bsp endpNum).txCtrl (usb2EndpointReg endpNum) =
      ctrlWith bsp (driver.txCtrl (usb2EndpointReg endpNum)) true uepResNak := by
    unfold beforeTxComplete
    rw [setTxCtrl_self, inTransferStored_eq bsp notControl]
    rfl
  rw [← found]
  exact txCtrl_runCalls bsp _ reply.calls _

/-- An IN completion flips the toggle once and the callback may set a response after it. -/
theorem usb2InTransferHandler_txCtrl :
    (driver.usb2InTransferHandler bsp endpNum reply).txCtrl (usb2EndpointReg endpNum) =
      if driver.EndsIn endpNum then
        txCtrlAfter (ctrlWith bsp (driver.txCtrl (usb2EndpointReg endpNum)) true uepResNak)
          (driver.config.txStates (usb2EndpointReg endpNum) reply.calls)
      else if driver.dma (usb2TxEndpointAddrReg endpNum) = 0 then
        ctrlWith bsp (driver.txCtrl (usb2EndpointReg endpNum)) false uepResNak
      else
        ctrlWith bsp (driver.txCtrl (usb2EndpointReg endpNum)) true uepResAck := by
  by_cases ends : driver.EndsIn endpNum
  · rw [usb2InTransferHandler_of_ends bsp reply ends, if_pos ends, if_pos notControl]
    exact txCompleteDone_txCtrl bsp notControl reply
  rw [if_neg ends]
  by_cases unarmed : driver.dma (usb2TxEndpointAddrReg endpNum) = 0
  · rw [usb2InTransferHandler_of_unarmed bsp reply unarmed, if_pos unarmed]
    exact setTxCtrl_self ..
  · rw [usb2InTransferHandler_of_more bsp reply unarmed ends, if_neg unarmed]
    exact (setTxCtrl_self ..).trans (setResponse_xor_tog bsp _ (.inl rfl))

/-- An IN completion of an armed endpoint flips the toggle, whatever the callback does. -/
theorem toggle_usb2InTransferHandler (armed : driver.dma (usb2TxEndpointAddrReg endpNum) ≠ 0)
    {reply : UserReply} (valid : ∀ apiCall ∈ reply.calls, apiCall.Valid) :
    toggle bsp ((driver.usb2InTransferHandler bsp endpNum reply).txCtrl (usb2EndpointReg endpNum)) =
      !toggle bsp (driver.txCtrl (usb2EndpointReg endpNum)) := by
  have nak : EndpState uepResNak := .inr (.inl rfl)
  have ack : EndpState uepResAck := .inl rfl
  rw [usb2InTransferHandler_txCtrl bsp notControl, if_neg armed]
  split
  · have validStates := driver.config.txStates_valid (usb2EndpointReg endpNum) valid
    rw [toggle_txCtrlAfter bsp _ validStates, toggle_ctrlWith bsp _ true nak, Bool.xor_true]
  · rw [toggle_ctrlWith bsp _ true ack, Bool.xor_true]

omit notControl in
/-- The states of the endpoints after an IN completion are those the callback's calls leave. -/
theorem usb2InTransferHandler_state :
    ((driver.usb2InTransferHandler bsp endpNum reply).device.rx endpNum).state =
        (if driver.EndsIn endpNum then
          reply.calls.foldl (ApiCall.rxEndpState endpNum) (driver.device.rx endpNum).state
        else
          (driver.device.rx endpNum).state) ∧
      ((driver.usb2InTransferHandler bsp endpNum reply).device.tx endpNum).state =
        if driver.EndsIn endpNum then
          reply.calls.foldl (ApiCall.txEndpState endpNum) (driver.device.tx endpNum).state
        else
          (driver.device.tx endpNum).state := by
  by_cases ends : driver.EndsIn endpNum
  · have device : (driver.usb2InTransferHandler bsp endpNum reply).device =
        (driver.txCompleteDone bsp endpNum reply).device := by
      rw [usb2InTransferHandler_of_ends bsp reply ends]
      split
      · rfl
      · rfl
    rw [device, if_pos ends, if_pos ends]
    exact ⟨rxState_runCalls bsp _ endpNum reply.calls, txState_runCalls bsp _ endpNum reply.calls⟩
  rw [if_neg ends, if_neg ends]
  by_cases unarmed : driver.dma (usb2TxEndpointAddrReg endpNum) = 0
  · rw [usb2InTransferHandler_of_unarmed bsp reply unarmed]
    exact ⟨rfl, rfl⟩
  · rw [usb2InTransferHandler_of_more bsp reply unarmed ends]
    exact ⟨rfl, rfl⟩

end In

/-! ## OUT packets -/

section Out

variable {driver} {endpNum : Fin 16} (numBytesReceived : Nat) (reply : UserReply)

theorem usb2OutTransferHandler_of_noBuffer (noBuffer : (driver.device.rx endpNum).buffer = 0) :
    driver.usb2OutTransferHandler bsp endpNum numBytesReceived reply =
      driver.setRxCtrl (usb2EndpointReg endpNum)
        (setResponse (driver.rxCtrl (usb2EndpointReg endpNum)) uepResNak) :=
  if_neg (not_not.mpr noBuffer)

variable (notControl : endpNum ≠ 0) (buffer : (driver.device.rx endpNum).buffer ≠ 0)
include notControl buffer

theorem usb2OutTransferHandler_of_buffer :
    driver.usb2OutTransferHandler bsp endpNum numBytesReceived reply =
      ((driver.invoke bsp (.rxCallback endpNum (driver.device.rx endpNum).buffer numBytesReceived)
        reply).afterRxCallback endpNum reply.state).setRxCtrl (usb2EndpointReg endpNum)
          (outPacketCtrl bsp (driver.rxCtrl (usb2EndpointReg endpNum)) reply.state) := by
  have found : driver.beforeRxCallback endpNum numBytesReceived = driver := if_neg notControl
  rw [Callbacks.usb2OutTransferHandler_called buffer, Callbacks.rxCallbackDone, found]
  exact (if_neg fun both => notControl both.1).trans (if_neg fun both => notControl both.1)

theorem usb2OutTransferHandler_rxCtrl :
    (driver.usb2OutTransferHandler bsp endpNum numBytesReceived reply).rxCtrl
        (usb2EndpointReg endpNum) =
      outPacketCtrl bsp (driver.rxCtrl (usb2EndpointReg endpNum)) reply.state := by
  rw [usb2OutTransferHandler_of_buffer bsp numBytesReceived reply notControl buffer, setRxCtrl_self]

theorem usb2OutTransferHandler_txCtrl :
    (driver.usb2OutTransferHandler bsp endpNum numBytesReceived reply).txCtrl
        (usb2EndpointReg endpNum) =
      txCtrlAfter (driver.txCtrl (usb2EndpointReg endpNum))
        (driver.config.txStates (usb2EndpointReg endpNum) reply.calls) := by
  rw [usb2OutTransferHandler_of_buffer bsp numBytesReceived reply notControl buffer]
  exact txCtrl_runCalls bsp _ reply.calls _

theorem usb2OutTransferHandler_state :
    ((driver.usb2OutTransferHandler bsp endpNum numBytesReceived reply).device.rx endpNum).state =
        reply.state ∧
      ((driver.usb2OutTransferHandler bsp endpNum numBytesReceived reply).device.tx endpNum).state =
        reply.calls.foldl (ApiCall.txEndpState endpNum) (driver.device.tx endpNum).state := by
  rw [usb2OutTransferHandler_of_buffer bsp numBytesReceived reply notControl buffer]
  constructor
  · exact (state_update _ endpNum endpNum _).trans (if_pos rfl)
  · exact txState_runCalls bsp _ endpNum reply.calls

end Out

end Usb2Driver

end WchCh56x.Usb
