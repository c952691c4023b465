import WchCh56x.Support.Runs
import WchCh56x.Usb.TransferCtrl
import Mathlib.Data.Nat.Bits

/-!
# The data toggle of an IN endpoint

Only a completion flips the toggle that an IN endpoint sends.  A callback may set
the response or arm the next transfer between the flip and the return of the handler.
-/

namespace WchCh56x.Usb.InToggle

open Support.Runs

/-- An IN endpoint and the completions since the setup. -/
structure InEndpoint where
  driver : Usb2Driver
  completed : Nat

inductive InAct where
  /-- `endp_tx_set_new_buffer` or `endp_tx_set_state` outside of callbacks. -/
  | call (apiCall : ApiCall)
  /-- An IN completion with what `tx_complete` does. -/
  | completion (reply : UserReply)

section

variable (bsp : Usb2Bsp) (endpNum : Fin 16)

def step (endp : InEndpoint) : InAct → Option InEndpoint
  | .call apiCall => some ⟨endp.driver.call bsp apiCall, endp.completed⟩
  | .completion reply =>
      some ⟨endp.driver.usb2InTransferHandler bsp endpNum reply, endp.completed + 1⟩

/-- The calls set one of the three states, and completions find a DMA address. -/
def Admissible (endp : InEndpoint) : InAct → Prop
  | .call apiCall => apiCall.Valid
  | .completion reply =>
      endp.driver.dma (usb2TxEndpointAddrReg endpNum) ≠ 0 ∧ ∀ apiCall ∈ reply.calls, apiCall.Valid

instance (endp : InEndpoint) (act : InAct) : Decidable (Admissible endpNum endp act) :=
  match act with
  | .call apiCall => inferInstanceAs (Decidable apiCall.Valid)
  | .completion _ => inferInstanceAs (Decidable (_ ≠ _ ∧ ∀ _ ∈ _, _))

/-- The endpoint sends the toggle of the next packet. -/
def InStep (endp : InEndpoint) : Prop :=
  toggle bsp (endp.driver.txCtrl (usb2EndpointReg endpNum)) = endp.completed.bodd

variable {endpNum}

/-- A call sets the response at most. -/
theorem toggle_call (driver : Usb2Driver) {apiCall : ApiCall} (valid : apiCall.Valid) (reg : Fin 8) :
    toggle bsp ((driver.call bsp apiCall).txCtrl reg) = toggle bsp (driver.txCtrl reg) := by
  have set := driver.txCtrl_runCalls bsp [apiCall] reg
  have validStates := driver.config.txStates_valid reg (List.forall_mem_singleton.mpr valid)
  exact (congrArg (toggle bsp) set).trans (toggle_txCtrlAfter bsp _ validStates)

theorem inStep_step (notControl : endpNum ≠ 0) (endp : InEndpoint) (act : InAct)
    (inStep : InStep bsp endpNum endp) (admissible : Admissible endpNum endp act) :
    ∃ next, step bsp endpNum endp act = some next ∧ InStep bsp endpNum next := by
  cases act with
  | call apiCall => exact ⟨_, rfl, (toggle_call bsp endp.driver admissible _).trans inStep⟩
  | completion reply =>
      obtain ⟨armed, valid⟩ := admissible
      have flipped := Usb2Driver.toggle_usb2InTransferHandler bsp notControl armed valid
      refine ⟨_, rfl, flipped.trans ?_⟩
      rw [inStep]
      exact (Nat.bodd_succ endp.completed).symm

def afterSetup (driver : Usb2Driver) : InEndpoint where
  driver := driver.usb2SetupEndpoints
  completed := 0

end

/-- The setup accepts the mask and the enabled endpoint, whose state is valid. -/
structure SetUp (driver : Usb2Driver) (endpNum : Fin 16) : Prop where
  notControl : endpNum ≠ 0
  compatible : Compatible driver.device.endpointMask
  small : ∀ other, EnabledIn driver.device.endpointMask .rx other →
    (driver.device.rx other).maxPacketSize ≤ usb2EpMaxPacketSize
  enabled : EnabledIn driver.device.endpointMask .tx endpNum
  state : EndpState (driver.device.tx endpNum).state

theorem SetUp.inStep (bsp : Usb2Bsp) {driver : Usb2Driver} {endpNum : Fin 16}
    (setUp : SetUp driver endpNum) : InStep bsp endpNum (afterSetup driver) := by
  have ctrl : (afterSetup driver).driver.txCtrl (usb2EndpointReg endpNum) =
      (driver.device.tx endpNum).state :=
    (@Usb2Driver.usb2SetupEndpoints_ctrl driver setUp.compatible setUp.small .tx endpNum
      setUp.enabled setUp.notControl).trans BitVec.or_zero
  have data0 : toggle bsp (driver.device.tx endpNum).state = false := setUp.state.bit_eq_false bsp
  exact ((congrArg (toggle bsp) ctrl).trans data0).trans Nat.bodd_zero.symm

/-- From the endpoint setup on, the toggle is the parity of the completions. -/
theorem in_toggle_in_step (bsp : Usb2Bsp) {driver : Usb2Driver} {endpNum : Fin 16}
    (setUp : SetUp driver endpNum) {acts : List InAct}
    (every : EveryStep (step bsp endpNum) (Admissible endpNum) (afterSetup driver) acts) :
    Always (step bsp endpNum) (InStep bsp endpNum) (afterSetup driver) acts :=
  always_of_everyStep (inStep_step bsp setUp.notControl) (setUp.inStep bsp) every

/-! ## One bulk endpoint -/

def bulkIn : Usb2Driver :=
  .initial { usbDevice0 with
    endpointMask := endpointBit .tx 1
    tx := Function.update usbDevice0.tx 1 ⟨0x20020000, 1, 512, 512, endpStateNak⟩ } fun _ => 0#8

theorem setUp_bulkIn : SetUp bulkIn 1 where
  notControl := by decide
  compatible := by decide
  small := by decide
  enabled := by decide
  state := .inr (.inl rfl)

/-- A buffer replaced under way, a stall, and a callback that arms the next transfer. -/
theorem rearmed_in_step :
    Always (step ⟨3, by decide, by decide⟩ 1) (InStep ⟨3, by decide, by decide⟩ 1) (afterSetup bulkIn)
      [.call (.endpTxSetNewBuffer 1 0x20020000 512), .call (.endpTxSetNewBuffer 1 0x20020200 64),
        .completion ⟨[.endpTxSetNewBuffer 1 0x20020400 512, .endpTxSetState 1 endpStateStall],
          endpStateAck, 0, 0⟩,
        .completion noReply] :=
  in_toggle_in_step _ setUp_bulkIn (by decide)

end WchCh56x.Usb.InToggle
