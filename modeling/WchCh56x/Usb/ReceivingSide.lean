import WchCh56x.Usb.EventFrames
import WchCh56x.Usb.TransferCtrl

/-!
# The receiving side of an endpoint

Events elsewhere keep the control register and the address with which an endpoint
receives.  An IN completion of the same endpoint stores the control register that
it has read.
-/

namespace WchCh56x.Usb

structure RxSide where
  rxCtrl : U8
  rxDma : Nat

def Usb2Driver.rxSide (driver : Usb2Driver) (reg : Fin 8) : RxSide where
  rxCtrl := driver.rxCtrl reg
  rxDma := driver.dma (.rx reg)

/-- The buffer and the length with which `rx_callback` is called. -/
def UserCall.received (endpNum : Fin 16) : UserCall → Option (Nat × Nat)
  | .rxCallback other ptr numBytesReceived =>
      if other = endpNum then some (ptr, numBytesReceived) else none
  | _ => none

def Usb2Driver.rxCalls (driver : Usb2Driver) (endpNum : Fin 16) : List (Nat × Nat) :=
  driver.userCalls.filterMap (UserCall.received endpNum)

/-- The call does not set the state of an OUT endpoint of the register index. -/
def ApiCall.RxApart (reg : Fin 8) : ApiCall → Prop
  | .endpRxSetState endpNum _ => usb2EndpointReg endpNum ≠ reg
  | .endpTxSetNewBuffer _ _ _ | .endpTxSetState _ _ => True

instance (reg : Fin 8) : (apiCall : ApiCall) → Decidable (apiCall.RxApart reg)
  | .endpRxSetState _ _ => inferInstanceAs (Decidable (_ ≠ _))
  | .endpTxSetNewBuffer _ _ _ | .endpTxSetState _ _ => inferInstanceAs (Decidable True)

def UserReply.RxApart (reg : Fin 8) (reply : UserReply) : Prop :=
  ∀ apiCall ∈ reply.calls, apiCall.RxApart reg

instance (reg : Fin 8) (reply : UserReply) : Decidable (reply.RxApart reg) :=
  inferInstanceAs (Decidable (∀ apiCall ∈ _, _))

/-- The event does not receive on the endpoints of a register index or set them up. -/
def Usb2Event.RxApart (reg : Fin 8) : Usb2Event → Prop
  | .setup packet reply => ¬packet.ResetsEndpoints ∧ reply.RxApart reg
  | .inDone _ reply => reply.RxApart reg
  | .outDone endpNum _ _ reply => usb2EndpointReg endpNum ≠ reg ∧ reply.RxApart reg
  | .nak _ reply => reply.RxApart reg
  | .busReset _ => False
  | .call apiCall => apiCall.RxApart reg

instance (reg : Fin 8) : (event : Usb2Event) → Decidable (event.RxApart reg)
  | .setup _ _ => inferInstanceAs (Decidable (_ ∧ _))
  | .inDone _ reply => inferInstanceAs (Decidable (reply.RxApart reg))
  | .outDone _ _ _ _ => inferInstanceAs (Decidable (_ ∧ _))
  | .nak _ reply => inferInstanceAs (Decidable (reply.RxApart reg))
  | .busReset _ => inferInstanceAs (Decidable False)
  | .call apiCall => inferInstanceAs (Decidable (apiCall.RxApart reg))

namespace Usb2Driver

variable (bsp : Usb2Bsp) {driver : Usb2Driver} {reg : Fin 8} {endpNum : Fin 16} {reply : UserReply}

/-! ## Calls -/

theorem rxSide_eq {next : Usb2Driver} (ctrl : next.rxCtrl reg = driver.rxCtrl reg)
    (dma : next.dma (.rx reg) = driver.dma (.rx reg)) : next.rxSide reg = driver.rxSide reg := by
  unfold rxSide
  rw [ctrl, dma]

theorem rxStates_eq_nil (config : Config) {calls : List ApiCall}
    (apart : ∀ apiCall ∈ calls, apiCall.RxApart reg) : config.rxStates reg calls = [] := by
  refine List.filterMap_eq_nil_iff.mpr fun apiCall member => ?_
  have isApart := apart apiCall member
  cases apiCall with
  | endpTxSetNewBuffer other ptr size => rfl
  | endpRxSetState other state => exact if_neg fun both => isApart both.1
  | endpTxSetState other state => rfl

theorem rxSide_runCalls {calls : List ApiCall} (apart : ∀ apiCall ∈ calls, apiCall.RxApart reg) :
    (driver.runCalls bsp calls).rxSide reg = driver.rxSide reg := by
  refine rxSide_eq ?_ (congrFun (congrArg Fixed.rxDma (driver.fixed_runCalls bsp calls)) reg)
  rw [rxCtrl_runCalls, rxStates_eq_nil _ apart]
  rfl

theorem rxSide_invoke {userCall : UserCall} (apart : reply.RxApart reg) :
    (driver.invoke bsp userCall reply).rxSide reg = driver.rxSide reg :=
  rxSide_runCalls bsp apart

/-! ## Registers -/

theorem rxSide_setRxCtrl {other : Fin 8} (apart : other ≠ reg) (value : U8) :
    (driver.setRxCtrl other value).rxSide reg = driver.rxSide reg :=
  rxSide_eq (Function.update_of_ne apart.symm ..) rfl

theorem rxSide_setDma {dmaReg : DmaReg} (apart : dmaReg ≠ .rx reg) (value : Nat) :
    (driver.setDma dmaReg value).rxSide reg = driver.rxSide reg :=
  rxSide_eq rfl (Function.update_of_ne apart.symm ..)

theorem usb2TxEndpointAddrReg_ne_rx : usb2TxEndpointAddrReg endpNum ≠ .rx reg := by
  unfold usb2TxEndpointAddrReg
  split
  · exact fun same => by cases same
  · exact fun same => by cases same

theorem usb2RxEndpointAddrReg_ne_rx (apart : usb2EndpointReg endpNum ≠ reg) :
    usb2RxEndpointAddrReg endpNum ≠ .rx reg := by
  unfold usb2RxEndpointAddrReg
  split
  · exact fun same => by cases same
  · exact fun same => apart (DmaReg.rx.inj same)

/-! ## Handlers -/

/-- An IN completion stores the control register that it has read. -/
theorem rxSide_usb2InTransferHandler (notControl : 0 ≠ reg) (apart : reply.RxApart reg) :
    (driver.usb2InTransferHandler bsp endpNum reply).rxSide reg = driver.rxSide reg := by
  have called : ((driver.beforeTxComplete bsp endpNum).invoke bsp (.txComplete endpNum)
      reply).rxSide reg = driver.rxSide reg := rxSide_invoke bsp apart
  have addressed (before : Usb2Driver) (same : before.rxSide reg = driver.rxSide reg) (ptr : Nat) :
      (before.setDma (usb2TxEndpointAddrReg endpNum) ptr).rxSide reg = driver.rxSide reg :=
    (rxSide_setDma usb2TxEndpointAddrReg_ne_rx ptr).trans same
  by_cases isIt : usb2EndpointReg endpNum = reg
  · have other : endpNum ≠ 0 := fun isControl => notControl (by rw [← isIt, isControl]; rfl)
    refine rxSide_eq ?_ ?_
    · rw [← isIt]
      exact usb2InTransferHandler_rxCtrl bsp other reply
    · unfold usb2InTransferHandler
      dsimp only
      split
      · split
        · exact congrArg RxSide.rxDma (addressed _ called _)
        · exact congrArg RxSide.rxDma (addressed (driver.countInPacket endpNum) rfl _)
      · rfl
  · unfold usb2InTransferHandler
    dsimp only
    split
    · split
      · rw [rxSide_setRxCtrl isIt]
        split
        · exact addressed _ called _
        · exact called
      · rw [rxSide_setRxCtrl isIt]
        exact addressed (driver.countInPacket endpNum) rfl _
    · exact rxSide_setRxCtrl isIt _

theorem rxSide_usb2OutTransferHandler (apart : usb2EndpointReg endpNum ≠ reg)
    (callsApart : reply.RxApart reg) (numBytesReceived : Nat) :
    (driver.usb2OutTransferHandler bsp endpNum numBytesReceived reply).rxSide reg =
      driver.rxSide reg := by
  have before : (driver.beforeRxCallback endpNum numBytesReceived).rxSide reg = driver.rxSide reg := by
    unfold beforeRxCallback
    split
    · rfl
    · rfl
  have received : (((driver.beforeRxCallback endpNum numBytesReceived).invoke bsp
      (.rxCallback endpNum (driver.device.rx endpNum).buffer numBytesReceived)
        reply).afterRxCallback endpNum reply.state).rxSide reg = driver.rxSide reg :=
    (rxSide_setDma (usb2RxEndpointAddrReg_ne_rx apart) _).trans
      ((rxSide_invoke bsp callsApart).trans before)
  unfold usb2OutTransferHandler
  dsimp only
  split
  · split
    · exact (rxSide_setRxCtrl apart _).trans received
    · split
      · exact (rxSide_setRxCtrl apart _).trans received
      · exact (rxSide_setRxCtrl apart _).trans received
  · exact rxSide_setRxCtrl apart _

theorem aside_rxSide (apart : 0 ≠ reg) : Aside fun driver => driver.rxSide reg where
  tLen _ _ := rfl
  txCtrl _ _ := rfl
  rxCtrl _ := rxSide_setRxCtrl apart
  progress _ _ _ _ _ := rfl

/-- A standard request leaves the receiving side alone unless it sets the endpoints up again. -/
theorem rxSide_standardRequest (standard : driver.usbSetupReq.TreatedAsStandard)
    (keepsEndpoints : ¬driver.usbSetupReq.ResetsEndpoints) :
    driver.standardRequest.2.rxSide reg = driver.rxSide reg := by
  unfold standardRequest
  dsimp only
  split
  · obtain ⟨head, remaining, memory, changes⟩ := getDescriptor_changes driver
    rw [changes]
    rfl
  · split
    · rfl
    · rw [if_neg fun isIt => keepsEndpoints ⟨standard, .inl isIt⟩,
        if_neg fun isIt => keepsEndpoints ⟨standard, .inr isIt⟩]

/-- An event elsewhere leaves the receiving side of an endpoint alone. -/
theorem rxSide_step (notControl : 0 ≠ reg) {event : Usb2Event} (apart : event.RxApart reg) :
    (event.step bsp driver).rxSide reg = driver.rxSide reg := by
  let view (driver : Usb2Driver) := driver.rxSide reg
  have aside := @aside_rxSide reg notControl
  cases event with
  | setup packet reply =>
      obtain ⟨keepsEndpoints, callsApart⟩ := apart
      refine step_setup_leaves bsp view (fun _ _ => rfl) reply packet rfl (fun _ => ?_) fun _ => ?_
      · exact (rxSide_setRxCtrl notControl _).trans (rxSide_invoke bsp callsApart)
      · have handled := @Aside.usb2Ep0RequestHandler bsp (driver.setupRead packet) _ _ aside reply
          (fun standard => rxSide_standardRequest standard keepsEndpoints)
          (fun _ => rxSide_invoke bsp callsApart)
        exact (aside.usb2Ep0SetupStageHandler bsp _ reply).trans handled
  | inDone endpNum reply =>
      refine step_inDone_leaves bsp view (fun _ _ => rfl) endpNum reply (fun _ => ?_) ?_
      · exact rxSide_usb2InTransferHandler bsp notControl apart
      · exact aside.usb2Ep0InHandler bsp (fun _ _ _ => rfl) _
  | outDone endpNum numBytesReceived togok reply =>
      obtain ⟨endpApart, callsApart⟩ := apart
      refine step_outDone_leaves bsp view (fun _ _ => rfl) endpNum reply numBytesReceived togok ?_ ?_
      · exact rxSide_usb2OutTransferHandler bsp endpApart callsApart numBytesReceived
      · exact aside.usb2Ep0OutHandler bsp (fun _ => rxSide_setDma fun same => by cases same) _
          (fun _ => rxSide_invoke bsp callsApart) numBytesReceived
  | nak endpNum reply =>
      rw [step_nak]
      exact rxSide_invoke bsp apart
  | busReset reply => exact apart.elim
  | call apiCall =>
      exact @rxSide_runCalls bsp driver reg [apiCall] (List.forall_mem_singleton.mpr apart)

/-! ## Calls of `rx_callback` -/

theorem rxCalls_invoke {userCall : UserCall} (other : userCall.received endpNum = none) :
    (driver.invoke bsp userCall reply).rxCalls endpNum = driver.rxCalls endpNum := by
  unfold rxCalls
  rw [userCalls_invoke, List.filterMap_append, List.filterMap_cons_none other, List.filterMap_nil,
    List.append_nil]

theorem apart_rxCalls : ApartFromTransfers fun driver => driver.rxCalls endpNum where
  registers _ _ _ _ _ _ _ := rfl
  rxState _ _ _ := rfl

theorem aside_rxCalls : Aside fun driver => driver.rxCalls endpNum where
  tLen _ _ := rfl
  txCtrl _ _ := rfl
  rxCtrl _ _ := rfl
  progress _ _ _ _ _ := rfl

/-- Only a packet for an OUT endpoint calls its `rx_callback`. -/
theorem rxCalls_step {event : Usb2Event} (apart : event.RxApart (usb2EndpointReg endpNum)) :
    (event.step bsp driver).rxCalls endpNum = driver.rxCalls endpNum := by
  let view (driver : Usb2Driver) := driver.rxCalls endpNum
  have aside := @aside_rxCalls endpNum
  have transfers := @apart_rxCalls endpNum
  cases event with
  | setup packet reply =>
      refine step_setup_leaves bsp view (fun _ _ => rfl) reply packet rfl (fun _ => ?_) fun _ => ?_
      · exact rxCalls_invoke bsp rfl
      · have handled := @Aside.usb2Ep0RequestHandler bsp (driver.setupRead packet) _ _ aside reply
          (fun _ => congrArg (List.filterMap _) (userCalls_standardRequest _))
          (fun _ => rxCalls_invoke bsp rfl)
        exact (aside.usb2Ep0SetupStageHandler bsp _ reply).trans handled
  | inDone other reply =>
      refine step_inDone_leaves bsp view (fun _ _ => rfl) other reply (fun _ => ?_) ?_
      · exact transfers.usb2InTransferHandler bsp (rxCalls_invoke bsp rfl)
      · exact aside.usb2Ep0InHandler bsp (fun _ _ _ => rfl) _
  | outDone other numBytesReceived togok reply =>
      have different : other ≠ endpNum := fun same => apart.1 (congrArg usb2EndpointReg same)
      refine step_outDone_leaves bsp view (fun _ _ => rfl) other reply numBytesReceived togok ?_ ?_
      · exact transfers.usb2OutTransferHandler bsp fun ptr =>
          rxCalls_invoke bsp (if_neg different)
      · exact aside.usb2Ep0OutHandler bsp (fun _ _ => rfl) _ (fun _ => rxCalls_invoke bsp rfl)
          numBytesReceived
  | nak other reply =>
      rw [step_nak]
      exact rxCalls_invoke bsp rfl
  | busReset reply => exact apart.elim
  | call apiCall =>
      exact congrArg (List.filterMap _) (congrArg Fixed.userCalls (driver.fixed_call bsp apiCall))

end Usb2Driver

end WchCh56x.Usb
