import WchCh56x.Usb.UserCalls

/-!
# What a callback's calls leave in the control registers

The calls act on one control register as the list of the states they set in it.
-/

namespace WchCh56x.Usb

namespace Config

variable (config : Config) (reg : Fin 8)

/-- `endp_tx_set_new_buffer` does not refuse the buffer. -/
def Accepts (endpNum : Fin 16) (ptr size : Nat) : Prop :=
  size ≤ config.txMaxPacketSizeWithBurst endpNum ∧ ptr ≠ 0 ∧
    (endpNum = 0 → config.rxBuffer 0 ≠ 0)

instance (endpNum : Fin 16) (ptr size : Nat) : Decidable (config.Accepts endpNum ptr size) :=
  inferInstanceAs (Decidable (_ ∧ _ ∧ (_ → _)))

def rxState : ApiCall → Option U8
  | .endpTxSetNewBuffer _ _ _ => none
  | .endpRxSetState endpNum state =>
      if usb2EndpointReg endpNum = reg ∧ config.speed ≠ .usb30Superspeed then some state else none
  | .endpTxSetState _ _ => none

def txState : ApiCall → Option U8
  | .endpTxSetNewBuffer endpNum ptr size =>
      if usb2EndpointReg endpNum = reg ∧ config.speed ≠ .usb30Superspeed ∧
          config.Accepts endpNum ptr size then
        some uepResAck
      else
        none
  | .endpRxSetState _ _ => none
  | .endpTxSetState endpNum state =>
      if usb2EndpointReg endpNum = reg ∧ config.speed ≠ .usb30Superspeed then some state else none

def rxStates (calls : List ApiCall) : List U8 := calls.filterMap (config.rxState reg)

def txStates (calls : List ApiCall) : List U8 := calls.filterMap (config.txState reg)

end Config

/-- RX_CTRL after `endp_rx_set_state` with each of the states. -/
def rxCtrlAfter (bsp : Usb2Bsp) (ctrl : U8) (states : List U8) : U8 :=
  states.foldl (rxCtrlForState bsp) ctrl

/-- TX_CTRL after the responses have been set in it. -/
def txCtrlAfter (ctrl : U8) (responses : List U8) : U8 := responses.foldl setResponse ctrl

namespace Usb2Driver

variable (bsp : Usb2Bsp) (driver : Usb2Driver)

/-! ## One call -/

/-- The driver when `endp_tx_set_new_buffer` calls the backend. -/
def bufferSet (endpNum : Fin 16) (ptr size : Nat) : Usb2Driver :=
  (driver.enterCritical.setTx endpNum { driver.device.tx endpNum with buffer := ptr }).copyToEndp0
    endpNum ptr size

theorem endpTxSetNewBuffer_of_accepts {endpNum : Fin 16} {ptr size : Nat}
    (accepts : driver.config.Accepts endpNum ptr size) :
    driver.endpTxSetNewBuffer endpNum ptr size =
      (true, ((driver.bufferSet endpNum ptr size).endpTxReady endpNum size).exitCritical) := by
  obtain ⟨small, notNull, endp0⟩ := accepts
  change size ≤ (driver.device.tx endpNum).maxPacketSizeWithBurst at small
  unfold endpTxSetNewBuffer
  simp only []
  rw [if_neg (fun refuses => refuses.elim (Nat.not_lt.mpr small) notNull),
    if_neg (fun refuses => endp0 refuses.1 refuses.2)]
  rfl

/-- A refused buffer changes the buffer pointer at most. -/
theorem endpTxSetNewBuffer_of_refuses {endpNum : Fin 16} {ptr size : Nat}
    (refuses : ¬driver.config.Accepts endpNum ptr size) :
    driver.endpTxSetNewBuffer endpNum ptr size = (false, driver.enterCritical.exitCritical) ∨
      driver.endpTxSetNewBuffer endpNum ptr size =
        (false, driver.enterCritical.setTx endpNum
          { driver.device.tx endpNum with buffer := ptr }) := by
  unfold endpTxSetNewBuffer
  simp only []
  split
  · exact Or.inl rfl
  · next fits =>
      right
      rw [if_pos]
      by_contra filled
      obtain ⟨small, notNull⟩ := not_or.mp fits
      exact refuses ⟨Nat.not_lt.mp small, notNull, fun isControl noBuffer =>
        filled ⟨isControl, noBuffer⟩⟩

theorem endpTxSetNewBuffer_of_tooLong {endpNum : Fin 16} {ptr size : Nat}
    (tooLong : (driver.device.tx endpNum).maxPacketSizeWithBurst < size ∨ ptr = 0) :
    driver.endpTxSetNewBuffer endpNum ptr size = (false, driver.enterCritical.exitCritical) :=
  if_pos tooLong

theorem endpTxSetNewBuffer_of_noBuffer {ptr size : Nat}
    (fits : ¬((driver.device.tx 0).maxPacketSizeWithBurst < size ∨ ptr = 0))
    (noBuffer : driver.endp0Buffer = 0) :
    driver.endpTxSetNewBuffer 0 ptr size =
      (false, driver.enterCritical.setTx 0 { driver.device.tx 0 with buffer := ptr }) := by
  unfold endpTxSetNewBuffer
  simp only []
  rw [if_neg fits]
  exact if_pos ⟨trivial, noBuffer⟩

theorem bufferSet_rxCtrl (endpNum : Fin 16) (ptr size : Nat) :
    (driver.bufferSet endpNum ptr size).rxCtrl = driver.rxCtrl := by
  unfold bufferSet copyToEndp0
  split
  · rfl
  · rfl

theorem bufferSet_txCtrl (endpNum : Fin 16) (ptr size : Nat) :
    (driver.bufferSet endpNum ptr size).txCtrl = driver.txCtrl := by
  unfold bufferSet copyToEndp0
  split
  · rfl
  · rfl

theorem bufferSet_speed (endpNum : Fin 16) (ptr size : Nat) :
    (driver.bufferSet endpNum ptr size).device.speed = driver.device.speed := by
  unfold bufferSet copyToEndp0
  split
  · rfl
  · rfl

theorem endpTxReady_rxCtrl (endpNum : Fin 16) (size : Nat) :
    (driver.endpTxReady endpNum size).rxCtrl = driver.rxCtrl := by
  unfold endpTxReady usb2EndpTxReady
  split
  · split
    · rfl
    · rfl
  · simp only []
    split
    · rfl
    · rfl

theorem usb2EndpTxReady_txCtrl (endpNum : Fin 16) (size : Nat) :
    (driver.usb2EndpTxReady endpNum size).txCtrl =
      Function.update driver.txCtrl (usb2EndpointReg endpNum)
        (setResponse (driver.txCtrl (usb2EndpointReg endpNum)) uepResAck) := by
  unfold usb2EndpTxReady
  simp only []
  split
  · rfl
  · rfl

theorem endpTxSetNewBuffer_rxCtrl (endpNum : Fin 16) (ptr size : Nat) :
    (driver.endpTxSetNewBuffer endpNum ptr size).2.rxCtrl = driver.rxCtrl := by
  by_cases accepts : driver.config.Accepts endpNum ptr size
  · rw [driver.endpTxSetNewBuffer_of_accepts accepts]
    exact (endpTxReady_rxCtrl _ endpNum size).trans (driver.bufferSet_rxCtrl endpNum ptr size)
  · rcases driver.endpTxSetNewBuffer_of_refuses accepts with refused | refused
    · rw [refused]
      rfl
    · rw [refused]
      rfl

theorem endpTxSetNewBuffer_txCtrl_of_superspeed (speed : driver.device.speed = .usb30Superspeed)
    (endpNum : Fin 16) (ptr size : Nat) :
    (driver.endpTxSetNewBuffer endpNum ptr size).2.txCtrl = driver.txCtrl := by
  by_cases accepts : driver.config.Accepts endpNum ptr size
  · rw [driver.endpTxSetNewBuffer_of_accepts accepts, endpTxReady_of_superspeed _
      ((driver.bufferSet_speed endpNum ptr size).trans speed)]
    split
    · exact driver.bufferSet_txCtrl endpNum ptr size
    · exact driver.bufferSet_txCtrl endpNum ptr size
  · rcases driver.endpTxSetNewBuffer_of_refuses accepts with refused | refused
    · rw [refused]
      rfl
    · rw [refused]
      rfl

theorem endpTxSetNewBuffer_txCtrl {endpNum : Fin 16} {ptr size : Nat}
    (accepts : driver.config.Accepts endpNum ptr size)
    (speed : driver.device.speed ≠ .usb30Superspeed) :
    (driver.endpTxSetNewBuffer endpNum ptr size).2.txCtrl (usb2EndpointReg endpNum) =
      setResponse (driver.txCtrl (usb2EndpointReg endpNum)) uepResAck := by
  have filledSpeed : (driver.bufferSet endpNum ptr size).device.speed ≠ .usb30Superspeed :=
    (driver.bufferSet_speed endpNum ptr size).symm ▸ speed
  rw [driver.endpTxSetNewBuffer_of_accepts accepts, endpTxReady_of_usb2 _ filledSpeed]
  change ((driver.bufferSet endpNum ptr size).usb2EndpTxReady endpNum size).txCtrl _ = _
  rw [usb2EndpTxReady_txCtrl, Function.update_self, bufferSet_txCtrl]

theorem endpTxSetState_rxCtrl (endpNum : Fin 16) (state : U8) :
    (driver.endpTxSetState endpNum state).rxCtrl = driver.rxCtrl := by
  unfold endpTxSetState
  simp only []
  split
  · rfl
  · rfl

theorem endpRxSetState_txCtrl (endpNum : Fin 16) (state : U8) :
    (driver.endpRxSetState bsp endpNum state).txCtrl = driver.txCtrl := by
  unfold endpRxSetState
  simp only []
  split
  · rfl
  · rfl

theorem rxCtrl_endpRxSetState {endpNum : Fin 16}
    (speed : driver.device.speed ≠ .usb30Superspeed) (state : U8) :
    (driver.endpRxSetState bsp endpNum state).rxCtrl (usb2EndpointReg endpNum) =
      rxCtrlForState bsp (driver.rxCtrl (usb2EndpointReg endpNum)) state := by
  rw [driver.endpRxSetState_of_usb2 bsp speed]
  simp [usb2EndpRxSetStateCallback, setRxCtrl, setRx]

theorem txCtrl_endpTxSetState {endpNum : Fin 16}
    (speed : driver.device.speed ≠ .usb30Superspeed) (state : U8) :
    (driver.endpTxSetState endpNum state).txCtrl (usb2EndpointReg endpNum) =
      setResponse (driver.txCtrl (usb2EndpointReg endpNum)) state := by
  rw [driver.endpTxSetState_of_usb2 speed]
  simp [usb2EndpTxSetStateCallback, setTxCtrl, setTx]

/-! ## All calls of a callback -/

theorem rxCtrl_call (apiCall : ApiCall) (reg : Fin 8) :
    (driver.call bsp apiCall).rxCtrl reg =
      rxCtrlAfter bsp (driver.rxCtrl reg) (driver.config.rxState reg apiCall).toList := by
  cases apiCall with
  | endpTxSetNewBuffer endpNum ptr size =>
      exact congrFun (driver.endpTxSetNewBuffer_rxCtrl endpNum ptr size) reg
  | endpRxSetState endpNum state =>
      by_cases sets : usb2EndpointReg endpNum = reg ∧ driver.config.speed ≠ .usb30Superspeed
      · rw [Config.rxState, if_pos sets]
        obtain ⟨rfl, speed⟩ := sets
        exact driver.rxCtrl_endpRxSetState bsp speed state
      · rw [Config.rxState, if_neg sets]
        by_cases apart : usb2EndpointReg endpNum ≠ reg
        · exact congrArg Bank.rxCtrl (bank_endpRxSetState bsp apart state)
        · have speed : driver.device.speed = .usb30Superspeed := by
            by_contra speed
            exact sets ⟨not_not.mp apart, speed⟩
          exact congrArg (fun after => after.rxCtrl reg)
            (driver.endpRxSetState_of_superspeed bsp speed endpNum state)
  | endpTxSetState endpNum state => exact congrFun (driver.endpTxSetState_rxCtrl endpNum state) reg

theorem txCtrl_call (apiCall : ApiCall) (reg : Fin 8) :
    (driver.call bsp apiCall).txCtrl reg =
      txCtrlAfter (driver.txCtrl reg) (driver.config.txState reg apiCall).toList := by
  cases apiCall with
  | endpTxSetNewBuffer endpNum ptr size =>
      by_cases sets : usb2EndpointReg endpNum = reg ∧ driver.config.speed ≠ .usb30Superspeed ∧
          driver.config.Accepts endpNum ptr size
      · rw [Config.txState, if_pos sets]
        obtain ⟨rfl, speed, accepts⟩ := sets
        exact driver.endpTxSetNewBuffer_txCtrl accepts speed
      · rw [Config.txState, if_neg sets]
        by_cases apart : usb2EndpointReg endpNum ≠ reg
        · exact congrArg Bank.txCtrl (bank_endpTxSetNewBuffer apart ptr size)
        by_cases speed : driver.device.speed = .usb30Superspeed
        · exact congrFun (driver.endpTxSetNewBuffer_txCtrl_of_superspeed speed endpNum ptr size) reg
        · have refuses : ¬driver.config.Accepts endpNum ptr size := fun accepts =>
            sets ⟨not_not.mp apart, speed, accepts⟩
          change (driver.endpTxSetNewBuffer endpNum ptr size).2.txCtrl reg = driver.txCtrl reg
          rcases driver.endpTxSetNewBuffer_of_refuses refuses with refused | refused
          · rw [refused]
            rfl
          · rw [refused]
            rfl
  | endpRxSetState endpNum state =>
      exact congrFun (driver.endpRxSetState_txCtrl bsp endpNum state) reg
  | endpTxSetState endpNum state =>
      by_cases sets : usb2EndpointReg endpNum = reg ∧ driver.config.speed ≠ .usb30Superspeed
      · rw [Config.txState, if_pos sets]
        obtain ⟨rfl, speed⟩ := sets
        exact driver.txCtrl_endpTxSetState speed state
      · rw [Config.txState, if_neg sets]
        by_cases apart : usb2EndpointReg endpNum ≠ reg
        · exact congrArg Bank.txCtrl (bank_endpTxSetState apart state)
        · have speed : driver.device.speed = .usb30Superspeed := by
            by_contra speed
            exact sets ⟨not_not.mp apart, speed⟩
          exact congrArg (fun after => after.txCtrl reg)
            (driver.endpTxSetState_of_superspeed speed endpNum state)

theorem rxStates_cons (config : Config) (reg : Fin 8) (apiCall : ApiCall) (rest : List ApiCall) :
    config.rxStates reg (apiCall :: rest) =
      (config.rxState reg apiCall).toList ++ config.rxStates reg rest := by
  unfold Config.rxStates
  cases found : config.rxState reg apiCall with
  | none => rw [List.filterMap_cons_none found]; rfl
  | some state => rw [List.filterMap_cons_some found]; rfl

theorem txStates_cons (config : Config) (reg : Fin 8) (apiCall : ApiCall) (rest : List ApiCall) :
    config.txStates reg (apiCall :: rest) =
      (config.txState reg apiCall).toList ++ config.txStates reg rest := by
  unfold Config.txStates
  cases found : config.txState reg apiCall with
  | none => rw [List.filterMap_cons_none found]; rfl
  | some state => rw [List.filterMap_cons_some found]; rfl

theorem config_call (apiCall : ApiCall) : (driver.call bsp apiCall).config = driver.config :=
  congrArg Fixed.config (driver.fixed_call bsp apiCall)

theorem rxCtrl_runCalls (calls : List ApiCall) (reg : Fin 8) :
    (driver.runCalls bsp calls).rxCtrl reg =
      rxCtrlAfter bsp (driver.rxCtrl reg) (driver.config.rxStates reg calls) := by
  induction calls generalizing driver with
  | nil => rfl
  | cons apiCall rest ih =>
      rw [rxStates_cons, rxCtrlAfter, List.foldl_append]
      have first := driver.rxCtrl_call bsp apiCall reg
      have others := ih (driver.call bsp apiCall)
      rw [first, config_call] at others
      exact others

theorem txCtrl_runCalls (calls : List ApiCall) (reg : Fin 8) :
    (driver.runCalls bsp calls).txCtrl reg =
      txCtrlAfter (driver.txCtrl reg) (driver.config.txStates reg calls) := by
  induction calls generalizing driver with
  | nil => rfl
  | cons apiCall rest ih =>
      rw [txStates_cons, txCtrlAfter, List.foldl_append]
      have first := driver.txCtrl_call bsp apiCall reg
      have others := ih (driver.call bsp apiCall)
      rw [first, config_call] at others
      exact others

end Usb2Driver

end WchCh56x.Usb
