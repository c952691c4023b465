import WchCh56x.Usb.CallEffects

/-!
# What a callback set and what the handler leaves of it

A transfer handler stores values made from its copies of the control registers
after the callback has returned.
-/

namespace WchCh56x.Usb.Callbacks

open Usb2Driver

/-! ## What is set and what must hold -/

/-- The values that the interface calls set. -/
inductive Cell where
  | rxCtrl (reg : Fin 8)
  | txCtrl (reg : Fin 8)
  | tLen (reg : Fin 8)
  | remaining (endpNum : Fin 16)
  deriving DecidableEq, Repr

def value (driver : Usb2Driver) : Cell → Nat
  | .rxCtrl reg => (driver.rxCtrl reg).toNat
  | .txCtrl reg => (driver.txCtrl reg).toNat
  | .tLen reg => driver.tLen reg
  | .remaining endpNum => driver.endpTxRemainingBytes endpNum

def sets (config : Config) : ApiCall → List Cell
  | .endpTxSetNewBuffer endpNum ptr size =>
      if config.speed ≠ .usb30Superspeed ∧ config.Accepts endpNum ptr size then
        [.remaining endpNum, .tLen (usb2EndpointReg endpNum), .txCtrl (usb2EndpointReg endpNum)]
      else
        []
  | .endpRxSetState endpNum _ =>
      if config.speed ≠ .usb30Superspeed then [.rxCtrl (usb2EndpointReg endpNum)] else []
  | .endpTxSetState endpNum _ =>
      if config.speed ≠ .usb30Superspeed then [.txCtrl (usb2EndpointReg endpNum)] else []

/-- The calls of the two transfer handlers. -/
inductive Invocation where
  | inTransfer (endpNum : Fin 16)
  | outTransfer (endpNum : Fin 16) (numBytesReceived : Nat)

namespace Invocation

def handle (bsp : Usb2Bsp) (driver : Usb2Driver) (reply : UserReply) : Invocation → Usb2Driver
  | inTransfer endpNum => driver.usb2InTransferHandler bsp endpNum reply
  | outTransfer endpNum numBytesReceived =>
      driver.usb2OutTransferHandler bsp endpNum numBytesReceived reply

/-- The driver as the callback finds it, if the handler calls one. -/
def callback (bsp : Usb2Bsp) (driver : Usb2Driver) : Invocation → Option Usb2Driver
  | inTransfer endpNum =>
      if driver.dma (usb2TxEndpointAddrReg endpNum) ≠ 0 ∧
          (driver.countInPacket endpNum).endpTxRemainingBytes endpNum = 0 then
        some { driver.beforeTxComplete bsp endpNum with
          userCalls := driver.userCalls ++ [.txComplete endpNum] }
      else
        none
  | outTransfer endpNum numBytesReceived =>
      if (driver.device.rx endpNum).buffer ≠ 0 then
        some { driver.beforeRxCallback endpNum numBytesReceived with
          userCalls := driver.userCalls ++
            [.rxCallback endpNum (driver.device.rx endpNum).buffer numBytesReceived] }
      else
        none

/-- RX_CTRL of the endpoint whose receive callback ran is decided by what it returned. -/
def exempt : Invocation → Option Cell
  | inTransfer _ => none
  | outTransfer endpNum _ => some (.rxCtrl (usb2EndpointReg endpNum))

end Invocation

/-- Every value the callback's calls set still holds when the handler returns. -/
def NotOverwritten (bsp : Usb2Bsp) (driver : Usb2Driver) (reply : UserReply)
    (invocation : Invocation) : Prop :=
  ∀ found, invocation.callback bsp driver = some found →
    ∀ cell ∈ reply.calls.flatMap (sets driver.config), invocation.exempt ≠ some cell →
      value (invocation.handle bsp driver reply) cell =
        value (found.runCalls bsp reply.calls) cell

/-! ## The condition -/

/-- The value of RX_CTRL that the IN handler stores when the transfer is over. -/
def storedRxCtrl (bsp : Usb2Bsp) (driver : Usb2Driver) (endpNum : Fin 16) : U8 :=
  if endpNum = 0 ∧ ¬driver.usbSetupReq.IsIn then
    uepResAck ||| rbUepTog0
  else if endpNum = 0 ∧ (driver.usbSetupReq.wLength.toNat ≤
        u16 (driver.usbSetupReqDataSize + driver.inPacketLen endpNum) ∨
      driver.inPacketLen endpNum < (driver.device.tx endpNum).maxPacketSize) then
    uepResAck ||| bsp.rbUepTog1
  else
    driver.rxCtrl (usb2EndpointReg endpNum)

/-- A register that starts at `ctrl` is left alone, or left at `stored`. -/
def LeftAt (after : U8 → List U8 → U8) (ctrl stored : U8) (states : List U8) : Prop :=
  states = [] ∨ after ctrl states = stored

/-- If the IN handler calls back, the callback leaves RX_CTRL of the endpoint alone or at the
value stored over it.  If the OUT handler of endpoint 0 calls back for a status stage or for the
end of the data, the callback leaves TX_CTRL alone or at the value stored over it. -/
def LeavesStored (bsp : Usb2Bsp) (driver : Usb2Driver) (reply : UserReply) : Invocation → Prop
  | .inTransfer endpNum =>
      driver.dma (usb2TxEndpointAddrReg endpNum) ≠ 0 →
      driver.endpTxRemainingBytes endpNum ≤ (driver.device.tx endpNum).maxPacketSize →
      LeftAt (rxCtrlAfter bsp) (driver.rxCtrl (usb2EndpointReg endpNum))
        (storedRxCtrl bsp driver endpNum)
        (driver.config.rxStates (usb2EndpointReg endpNum) reply.calls)
  | .outTransfer endpNum numBytesReceived =>
      endpNum = 0 → driver.endp0Buffer ≠ 0 →
      if driver.usbSetupReq.IsIn then
        LeftAt txCtrlAfter (driver.txCtrl 0) (uepResNak ||| rbUepTog0)
          (driver.config.txStates 0 reply.calls)
      else
        driver.usbSetupReq.wLength.toNat ≤ u16 (driver.usbSetupReqDataSize + numBytesReceived) →
        LeftAt txCtrlAfter (driver.txCtrl 0) (uepResNak ||| bsp.rbUepTog1)
          (driver.config.txStates 0 reply.calls)

/-! ## The registers a list of calls sets -/

theorem rxCtrl_mem_sets_call (config : Config) (reg : Fin 8) (apiCall : ApiCall) :
    .rxCtrl reg ∈ sets config apiCall ↔ config.rxState reg apiCall ≠ none := by
  cases apiCall with
  | endpTxSetNewBuffer endpNum ptr size =>
      simp only [sets, Config.rxState]
      split
      · simp
      · simp
  | endpRxSetState endpNum state =>
      simp only [sets, Config.rxState]
      by_cases speed : config.speed = .usb30Superspeed
      · simp [speed]
      · simp [speed, eq_comm]
  | endpTxSetState endpNum state =>
      simp only [sets, Config.rxState]
      split
      · simp
      · simp

theorem txCtrl_mem_sets_call (config : Config) (reg : Fin 8) (apiCall : ApiCall) :
    .txCtrl reg ∈ sets config apiCall ↔ config.txState reg apiCall ≠ none := by
  cases apiCall with
  | endpTxSetNewBuffer endpNum ptr size =>
      simp only [sets, Config.txState]
      by_cases speed : config.speed = .usb30Superspeed
      · simp [speed]
      · by_cases accepts : config.Accepts endpNum ptr size
        · simp [speed, accepts, eq_comm]
        · simp [speed, accepts]
  | endpRxSetState endpNum state =>
      simp only [sets, Config.txState]
      split
      · simp
      · simp
  | endpTxSetState endpNum state =>
      simp only [sets, Config.txState]
      by_cases speed : config.speed = .usb30Superspeed
      · simp [speed]
      · simp [speed, eq_comm]

theorem rxCtrl_mem_sets (config : Config) (reg : Fin 8) (calls : List ApiCall) :
    .rxCtrl reg ∈ calls.flatMap (sets config) ↔ config.rxStates reg calls ≠ [] := by
  simp only [List.mem_flatMap, rxCtrl_mem_sets_call, Config.rxStates, ne_eq,
    List.filterMap_eq_nil_iff, not_forall, exists_prop]

theorem txCtrl_mem_sets (config : Config) (reg : Fin 8) (calls : List ApiCall) :
    .txCtrl reg ∈ calls.flatMap (sets config) ↔ config.txStates reg calls ≠ [] := by
  simp only [List.mem_flatMap, txCtrl_mem_sets_call, Config.txStates, ne_eq,
    List.filterMap_eq_nil_iff, not_forall, exists_prop]

/-! ## Storing over the callback's values -/

theorem value_setRxCtrl_of_ne {driver : Usb2Driver} {reg : Fin 8} {cell : Cell}
    (other : .rxCtrl reg ≠ cell) (stored : U8) :
    value (driver.setRxCtrl reg stored) cell = value driver cell := by
  cases cell with
  | rxCtrl otherReg =>
      have apart : otherReg ≠ reg := fun same => other (same ▸ rfl)
      exact congrArg BitVec.toNat (Function.update_of_ne apart ..)
  | txCtrl otherReg => rfl
  | tLen otherReg => rfl
  | remaining endpNum => rfl

theorem value_setTxCtrl_of_ne {driver : Usb2Driver} {reg : Fin 8} {cell : Cell}
    (other : .txCtrl reg ≠ cell) (stored : U8) :
    value (driver.setTxCtrl reg stored) cell = value driver cell := by
  cases cell with
  | rxCtrl otherReg => rfl
  | txCtrl otherReg =>
      have apart : otherReg ≠ reg := fun same => other (same ▸ rfl)
      exact congrArg BitVec.toNat (Function.update_of_ne apart ..)
  | tLen otherReg => rfl
  | remaining endpNum => rfl

theorem value_setDma (driver : Usb2Driver) (reg : DmaReg) (addr : Nat) (cell : Cell) :
    value (driver.setDma reg addr) cell = value driver cell := by
  cases cell with
  | rxCtrl _ => rfl
  | txCtrl _ => rfl
  | tLen _ => rfl
  | remaining _ => rfl

theorem value_afterRxCallback (driver : Usb2Driver) (endpNum : Fin 16) (state : U8) (cell : Cell) :
    value (driver.afterRxCallback endpNum state) cell = value driver cell := by
  cases cell with
  | rxCtrl _ => rfl
  | txCtrl _ => rfl
  | tLen _ => rfl
  | remaining _ => rfl

/-- Storing RX_CTRL keeps a list of values exactly if it is not among them or does not change. -/
theorem kept_setRxCtrl_iff (driver : Usb2Driver) (reg : Fin 8) (stored : U8) (cells : List Cell) :
    (∀ cell ∈ cells, value (driver.setRxCtrl reg stored) cell = value driver cell) ↔
      (.rxCtrl reg ∈ cells → driver.rxCtrl reg = stored) := by
  constructor
  · intro kept member
    have same := kept _ member
    change ((driver.setRxCtrl reg stored).rxCtrl reg).toNat = (driver.rxCtrl reg).toNat at same
    rw [setRxCtrl_self] at same
    exact (BitVec.eq_of_toNat_eq same).symm
  · intro same cell member
    by_cases isIt : .rxCtrl reg = cell
    · subst isIt
      change ((driver.setRxCtrl reg stored).rxCtrl reg).toNat = (driver.rxCtrl reg).toNat
      rw [setRxCtrl_self, same member]
    · exact value_setRxCtrl_of_ne isIt stored

/-- The same for TX_CTRL, where RX_CTRL of another register index is stored too. -/
theorem kept_setTxCtrl_iff (driver : Usb2Driver) (reg : Fin 8) (stored rxStored : U8)
    (cells : List Cell) :
    (∀ cell ∈ cells, some (Cell.rxCtrl reg) ≠ some cell →
        value ((driver.setTxCtrl reg stored).setRxCtrl reg rxStored) cell = value driver cell) ↔
      (.txCtrl reg ∈ cells → driver.txCtrl reg = stored) := by
  constructor
  · intro kept member
    have same := kept _ member (by simp)
    change ((driver.setTxCtrl reg stored).txCtrl reg).toNat = (driver.txCtrl reg).toNat at same
    rw [setTxCtrl_self] at same
    exact (BitVec.eq_of_toNat_eq same).symm
  · intro same cell member notExempt
    rw [value_setRxCtrl_of_ne (fun isIt => notExempt (congrArg some isIt))]
    by_cases isIt : .txCtrl reg = cell
    · subst isIt
      change ((driver.setTxCtrl reg stored).txCtrl reg).toNat = (driver.txCtrl reg).toNat
      rw [setTxCtrl_self, same member]
    · exact value_setTxCtrl_of_ne isIt stored

/-! ## The handlers -/

variable {bsp : Usb2Bsp} {driver : Usb2Driver} {reply : UserReply}

theorem inTransferStored_fst (endpNum : Fin 16) :
    (driver.inTransferStored bsp endpNum).1 = storedRxCtrl bsp driver endpNum := by
  unfold inTransferStored inTransferCtrl storedRxCtrl
  rw [apply_ite Prod.fst, apply_ite Prod.fst]
  rfl

theorem countInPacket_remaining_eq_zero (endpNum : Fin 16) :
    (driver.countInPacket endpNum).endpTxRemainingBytes endpNum = 0 ↔
      driver.endpTxRemainingBytes endpNum ≤ (driver.device.tx endpNum).maxPacketSize := by
  unfold countInPacket
  rw [setRemaining_self]
  change driver.endpTxRemainingBytes endpNum -
    min (driver.endpTxRemainingBytes endpNum) (driver.device.tx endpNum).maxPacketSize = 0 ↔ _
  omega

/-- The last packet of an IN transfer: the callback, then the DMA address and RX_CTRL. -/
theorem usb2InTransferHandler_last {endpNum : Fin 16}
    (armed : driver.dma (usb2TxEndpointAddrReg endpNum) ≠ 0)
    (last : (driver.countInPacket endpNum).endpTxRemainingBytes endpNum = 0) :
    ∃ after : Usb2Driver,
      driver.usb2InTransferHandler bsp endpNum reply =
        after.setRxCtrl (usb2EndpointReg endpNum) (storedRxCtrl bsp driver endpNum) ∧
      ∀ cell, value after cell =
        value ((driver.beforeTxComplete bsp endpNum).invoke bsp (.txComplete endpNum) reply) cell := by
  let called := (driver.beforeTxComplete bsp endpNum).invoke bsp (.txComplete endpNum) reply
  refine ⟨if endpNum ≠ 0 then
      called.setDma (usb2TxEndpointAddrReg endpNum) (called.device.tx endpNum).buffer
    else called, ?_, fun cell => ?_⟩
  · rw [← inTransferStored_fst]
    unfold usb2InTransferHandler
    simp only []
    rw [if_pos armed, if_pos last]
  · split
    · exact value_setDma ..
    · rfl

theorem inTransfer_not_overwritten_iff (bsp : Usb2Bsp) (driver : Usb2Driver) (reply : UserReply)
    (endpNum : Fin 16) :
    NotOverwritten bsp driver reply (.inTransfer endpNum) ↔
      LeavesStored bsp driver reply (.inTransfer endpNum) := by
  unfold NotOverwritten LeavesStored
  by_cases called : driver.dma (usb2TxEndpointAddrReg endpNum) ≠ 0 ∧
      (driver.countInPacket endpNum).endpTxRemainingBytes endpNum = 0
  · obtain ⟨armed, last⟩ := called
    obtain ⟨after, handled, same⟩ := @usb2InTransferHandler_last bsp driver reply endpNum armed last
    let found : Usb2Driver := { driver.beforeTxComplete bsp endpNum with
      userCalls := driver.userCalls ++ [.txComplete endpNum] }
    have calledBack : (Invocation.inTransfer endpNum).callback bsp driver = some found :=
      if_pos ⟨armed, last⟩
    have left : after.rxCtrl (usb2EndpointReg endpNum) =
        rxCtrlAfter bsp (driver.rxCtrl (usb2EndpointReg endpNum))
          (driver.config.rxStates (usb2EndpointReg endpNum) reply.calls) :=
      (BitVec.eq_of_toNat_eq (same (.rxCtrl _))).trans (found.rxCtrl_runCalls bsp reply.calls _)
    have kept := kept_setRxCtrl_iff after (usb2EndpointReg endpNum)
      (storedRxCtrl bsp driver endpNum) (reply.calls.flatMap (sets driver.config))
    rw [rxCtrl_mem_sets, left, ← or_iff_not_imp_left] at kept
    constructor
    · intro notOverwritten _ _
      refine kept.mp fun cell member => ?_
      have holds := notOverwritten found calledBack cell member (by simp [Invocation.exempt])
      rw [same, ← handled]
      exact holds
    · rintro leaves other found' cell member -
      obtain rfl := Option.some.inj (calledBack.symm.trans found')
      have holds := kept.mpr
        (leaves armed ((countInPacket_remaining_eq_zero endpNum).mp last)) cell member
      rw [same, ← handled] at holds
      exact holds
  · constructor
    · intro _ armed last
      exact absurd ⟨armed, (countInPacket_remaining_eq_zero endpNum).mpr last⟩ called
    · intro _ found calledBack
      exact absurd (calledBack.symm.trans (if_neg called)) (by simp)

def rxCallbackDone (bsp : Usb2Bsp) (driver : Usb2Driver) (reply : UserReply) (endpNum : Fin 16)
    (numBytesReceived : Nat) : Usb2Driver :=
  ((driver.beforeRxCallback endpNum numBytesReceived).invoke bsp
    (.rxCallback endpNum (driver.device.rx endpNum).buffer numBytesReceived) reply).afterRxCallback
      endpNum reply.state

/-- The stores of the OUT handler after the callback. -/
theorem usb2OutTransferHandler_called {endpNum : Fin 16}
    (buffer : (driver.device.rx endpNum).buffer ≠ 0) (numBytesReceived : Nat) :
    driver.usb2OutTransferHandler bsp endpNum numBytesReceived reply =
      let after := rxCallbackDone bsp driver reply endpNum numBytesReceived
      if endpNum = 0 ∧ after.usbSetupReq.IsIn then
        (after.setTxCtrl (usb2EndpointReg endpNum) (uepResNak ||| rbUepTog0)).setRxCtrl
          (usb2EndpointReg endpNum) (uepResAck ||| rbUepTog0)
      else if endpNum = 0 ∧ after.usbSetupReq.wLength.toNat ≤ after.usbSetupReqDataSize then
        (after.setTxCtrl (usb2EndpointReg endpNum) (uepResNak ||| bsp.rbUepTog1)).setRxCtrl
          (usb2EndpointReg endpNum) (uepResNak ||| bsp.rbUepTog1)
      else
        after.setRxCtrl (usb2EndpointReg endpNum)
          (outPacketCtrl bsp (driver.rxCtrl (usb2EndpointReg endpNum)) reply.state) :=
  if_pos buffer

theorem fixed_rxCallbackDone (endpNum : Fin 16) (numBytesReceived : Nat) :
    let after := rxCallbackDone bsp driver reply endpNum numBytesReceived
    after.usbSetupReq = driver.usbSetupReq ∧ after.usbSetupReqDataSize =
      (driver.beforeRxCallback endpNum numBytesReceived).usbSetupReqDataSize := by
  have kept := (driver.beforeRxCallback endpNum numBytesReceived).fixed_invoke bsp
    (.rxCallback endpNum (driver.device.rx endpNum).buffer numBytesReceived) reply
  have request : (driver.beforeRxCallback endpNum numBytesReceived).usbSetupReq =
      driver.usbSetupReq := by
    unfold beforeRxCallback
    split
    · rfl
    · rfl
  exact ⟨(congrArg Fixed.usbSetupReq kept).trans request,
    congrArg Fixed.usbSetupReqDataSize kept⟩

theorem rxCallbackDone_txCtrl (bsp : Usb2Bsp) (driver : Usb2Driver) (reply : UserReply)
    (endpNum : Fin 16) (numBytesReceived : Nat) (reg : Fin 8) :
    (rxCallbackDone bsp driver reply endpNum numBytesReceived).txCtrl reg =
      txCtrlAfter (driver.txCtrl reg) (driver.config.txStates reg reply.calls) := by
  have before : (driver.beforeRxCallback endpNum numBytesReceived).config = driver.config ∧
      (driver.beforeRxCallback endpNum numBytesReceived).txCtrl = driver.txCtrl := by
    unfold beforeRxCallback
    split
    · exact ⟨rfl, rfl⟩
    · exact ⟨rfl, rfl⟩
  rw [← before.1, ← before.2]
  exact txCtrl_runCalls bsp _ reply.calls reg

theorem outTransfer_not_overwritten_called {endpNum : Fin 16}
    (buffer : (driver.device.rx endpNum).buffer ≠ 0) (numBytesReceived : Nat) :
    NotOverwritten bsp driver reply (.outTransfer endpNum numBytesReceived) ↔
      ∀ cell ∈ reply.calls.flatMap (sets driver.config),
        some (Cell.rxCtrl (usb2EndpointReg endpNum)) ≠ some cell →
          value (driver.usb2OutTransferHandler bsp endpNum numBytesReceived reply) cell =
            value (rxCallbackDone bsp driver reply endpNum numBytesReceived) cell := by
  let found : Usb2Driver := { driver.beforeRxCallback endpNum numBytesReceived with
    userCalls := driver.userCalls ++
      [.rxCallback endpNum (driver.device.rx endpNum).buffer numBytesReceived] }
  have calledBack : (Invocation.outTransfer endpNum numBytesReceived).callback bsp driver =
      some found := if_pos buffer
  have same (cell : Cell) : value (rxCallbackDone bsp driver reply endpNum numBytesReceived) cell =
      value (found.runCalls bsp reply.calls) cell := by
    have users : (driver.beforeRxCallback endpNum numBytesReceived).userCalls = driver.userCalls := by
      unfold beforeRxCallback
      split
      · rfl
      · rfl
    rw [rxCallbackDone, value_afterRxCallback, invoke, users]
  constructor
  · intro notOverwritten cell member notExempt
    rw [same]
    exact notOverwritten found calledBack cell member notExempt
  · intro kept other found' cell member notExempt
    obtain rfl := Option.some.inj (calledBack.symm.trans found')
    rw [← same]
    exact kept cell member notExempt

theorem outTransfer_not_overwritten_iff (bsp : Usb2Bsp) (driver : Usb2Driver) (reply : UserReply)
    (endpNum : Fin 16) (numBytesReceived : Nat) :
    NotOverwritten bsp driver reply (.outTransfer endpNum numBytesReceived) ↔
      LeavesStored bsp driver reply (.outTransfer endpNum numBytesReceived) := by
  by_cases buffer : (driver.device.rx endpNum).buffer ≠ 0
  · rw [outTransfer_not_overwritten_called buffer, usb2OutTransferHandler_called buffer]
    obtain ⟨request, dataSize⟩ := @fixed_rxCallbackDone bsp driver reply endpNum numBytesReceived
    simp only [request, dataSize]
    by_cases isControl : endpNum = 0
    · subst isControl
      have left := rxCallbackDone_txCtrl bsp driver reply 0 numBytesReceived 0
      have kept (stored rxStored : U8) := kept_setTxCtrl_iff
        (rxCallbackDone bsp driver reply 0 numBytesReceived) 0 stored rxStored
        (reply.calls.flatMap (sets driver.config))
      have setsTx := txCtrl_mem_sets driver.config 0 reply.calls
      have counted : (driver.beforeRxCallback 0 numBytesReceived).usbSetupReqDataSize =
          u16 (driver.usbSetupReqDataSize + numBytesReceived) := rfl
      rw [LeavesStored, counted]
      by_cases isIn : driver.usbSetupReq.IsIn
      · rw [if_pos ⟨rfl, isIn⟩, if_pos isIn]
        have stores := kept (uepResNak ||| rbUepTog0) (uepResAck ||| rbUepTog0)
        rw [setsTx, left, ← or_iff_not_imp_left] at stores
        constructor
        · intro notOverwritten _ _
          exact stores.mp notOverwritten
        · intro leaves
          exact stores.mpr (leaves rfl buffer)
      · rw [if_neg (fun both => isIn both.2), if_neg isIn]
        by_cases complete : driver.usbSetupReq.wLength.toNat ≤
            u16 (driver.usbSetupReqDataSize + numBytesReceived)
        · rw [if_pos ⟨rfl, complete⟩]
          have stores := kept (uepResNak ||| bsp.rbUepTog1) (uepResNak ||| bsp.rbUepTog1)
          rw [setsTx, left, ← or_iff_not_imp_left] at stores
          constructor
          · intro notOverwritten _ _ _
            exact stores.mp notOverwritten
          · intro leaves
            exact stores.mpr (leaves rfl buffer complete)
        · rw [if_neg (fun both => complete both.2)]
          constructor
          · intro _ _ _ isComplete
            exact absurd isComplete complete
          · intro _ cell _ notExempt
            exact value_setRxCtrl_of_ne (fun isIt => notExempt (congrArg some isIt)) _
    · rw [if_neg (fun both => isControl both.1), if_neg (fun both => isControl both.1)]
      constructor
      · intro _ control
        exact absurd control isControl
      · intro _ cell _ notExempt
        exact value_setRxCtrl_of_ne (fun isIt => notExempt (congrArg some isIt)) _
  · constructor
    · rintro - rfl endp0
      exact absurd endp0 buffer
    · intro _ found calledBack
      exact absurd (calledBack.symm.trans (if_neg buffer)) (by simp)

/-- What a callback sets is left alone by the handler exactly if the callback leaves the register
that the handler stores over alone or at the stored value. -/
theorem callback_not_overwritten_iff (bsp : Usb2Bsp) (driver : Usb2Driver) (reply : UserReply)
    (invocation : Invocation) :
    NotOverwritten bsp driver reply invocation ↔ LeavesStored bsp driver reply invocation := by
  cases invocation with
  | inTransfer endpNum => exact inTransfer_not_overwritten_iff bsp driver reply endpNum
  | outTransfer endpNum numBytesReceived =>
      exact outTransfer_not_overwritten_iff bsp driver reply endpNum numBytesReceived

/-- The last packet of an IN transfer on endpoint 1 has been sent, and a control-IN request is in
its status stage. -/
def sentOnEndpoint1 : Usb2Driver :=
  { Usb2Driver.initial { usbDevice0 with
      tx := fun _ => ⟨0x20020000, 1, 512, 512, endpStateNak⟩
      rx := fun _ => ⟨0x20020200, 1, 512, 512, endpStateAck⟩ } fun _ => 0#8
    with
    dma := fun _ => 0x20020000
    usbSetupReq := ⟨0x80#8, 0#8, ⟨0#8, 0#8⟩, ⟨0#8, 0#8⟩, 0#16⟩ }

/-- A `tx_complete` that stops the OUT side of its endpoint finds it answering ACK again, and a
packet that `rx_callback` arms on endpoint 0 is not sent. -/
theorem handlers_overwrite_callbacks :
    ¬NotOverwritten ⟨3, by decide, by decide⟩ sentOnEndpoint1
        ⟨[.endpRxSetState 1 endpStateNak], 0#8, 0, 0⟩ (.inTransfer 1) ∧
      ¬NotOverwritten ⟨3, by decide, by decide⟩ sentOnEndpoint1
        ⟨[.endpTxSetNewBuffer 0 0x20020400 8], 0#8, 0, 0⟩ (.outTransfer 0 0) := by
  rw [inTransfer_not_overwritten_iff, outTransfer_not_overwritten_iff]
  constructor
  · intro leaves
    have left := leaves (by decide) (by decide)
    exact left.elim (by decide) (by decide)
  · intro leaves
    have left := leaves rfl (by decide)
    rw [if_pos (by decide)] at left
    exact left.elim (by decide) (by decide)

end WchCh56x.Usb.Callbacks
