import WchCh56x.Usb.EndpointSetup

/-!
# The register maps of the endpoints

A getter is a switch over the endpoint number whose default is `NULL`.  Its
result is the register that the pointer names.
-/

namespace WchCh56x.Usb

/-! ## USB2 -/

/-- The registers with the enable bits. -/
inductive ModReg where
  | uep41 | uep23 | uep56 | uep7
  deriving DecidableEq, Repr

/-- In which of them the bits `RB_UEPn_TX_EN` and `RB_UEPn_RX_EN` are. -/
def modRegOf : Fin 8 → Option ModReg :=
  ![none, some .uep41, some .uep23, some .uep23, some .uep41, some .uep56, some .uep56, some .uep7]

/-- The registers of the endpoints; of an enable register, each bit on its own. -/
inductive Usb2Reg where
  | enable (modReg : ModReg) (dir : EndpDir) (reg : Fin 8)
  | dma (reg : DmaReg)
  | tLen (reg : Fin 8)
  | maxLen (reg : Fin 8)
  | ctrl (dir : EndpDir) (reg : Fin 8)
  deriving DecidableEq, Repr

def Usb2Reg.Value : Usb2Reg → Type
  | .enable .. => Bool
  | .dma _ => Nat
  | .tLen _ => Nat
  | .maxLen _ => Nat
  | .ctrl .. => U8

/-- The switch of the five getters. -/
def usb2EndpointSwitch (endpNum : Nat) : Option (Fin 8) :=
  match endpNum with
  | 0 => some 0
  | 1 | 9 => some 1
  | 2 | 10 => some 2
  | 3 | 11 => some 3
  | 4 | 8 | 12 => some 4
  | 5 | 13 => some 5
  | 6 | 14 => some 6
  | 7 | 15 => some 7
  | _ => none

def usb2GetRxEndpointCtrlReg (endpNum : Nat) : Option Usb2Reg :=
  (usb2EndpointSwitch endpNum).map (.ctrl .rx)

def usb2GetTxEndpointCtrlReg (endpNum : Nat) : Option Usb2Reg :=
  (usb2EndpointSwitch endpNum).map (.ctrl .tx)

/-- `usb2_get_tx_endpoint_addr_reg`, where endpoint 0 has `R32_UEP0_RT_DMA`. -/
def usb2GetTxEndpointAddrReg (endpNum : Nat) : Option Usb2Reg :=
  (usb2EndpointSwitch endpNum).map fun reg => .dma (if reg = 0 then .uep0Rt else .tx reg)

/-- `usb2_get_rx_endpoint_addr_reg`, where endpoint 0 has `R32_UEP0_RT_DMA`. -/
def usb2GetRxEndpointAddrReg (endpNum : Nat) : Option Usb2Reg :=
  (usb2EndpointSwitch endpNum).map fun reg => .dma (if reg = 0 then .uep0Rt else .rx reg)

def usb2GetTxEndpointLenReg (endpNum : Nat) : Option Usb2Reg :=
  (usb2EndpointSwitch endpNum).map .tLen

def usb2GetEndpointCtrlReg : EndpDir → Nat → Option Usb2Reg
  | .tx => usb2GetTxEndpointCtrlReg
  | .rx => usb2GetRxEndpointCtrlReg

def usb2GetEndpointAddrReg : EndpDir → Nat → Option Usb2Reg
  | .tx => usb2GetTxEndpointAddrReg
  | .rx => usb2GetRxEndpointAddrReg

theorem usb2EndpointSwitch_val : ∀ endpNum : Fin 16,
    usb2EndpointSwitch endpNum.val = some (usb2EndpointReg endpNum) := by
  decide

/-- Two endpoints have one control register if they have the same set of registers. -/
theorem usb2GetEndpointCtrlReg_eq_iff (dir : EndpDir) (left right : Fin 16) :
    usb2GetEndpointCtrlReg dir left = usb2GetEndpointCtrlReg dir right ↔
      usb2EndpointReg left = usb2EndpointReg right := by
  cases dir with
  | tx =>
      simp [usb2GetEndpointCtrlReg, usb2GetTxEndpointCtrlReg, usb2EndpointSwitch_val]
  | rx =>
      simp [usb2GetEndpointCtrlReg, usb2GetRxEndpointCtrlReg, usb2EndpointSwitch_val]

/-! ## USB3 -/

/-- What `usb3_endp_tx_ready` writes through pointers. -/
inductive Usb30TxCell where
  | txDma (endp : Fin 8)
  | remainingLength (endp : Fin 8)
  | totalBursts (endp : Fin 8)
  deriving DecidableEq, Repr

def usb30EndpointSwitch (endp : Nat) : Option (Fin 8) :=
  match endp with
  | 1 => some 1
  | 2 => some 2
  | 3 => some 3
  | 4 => some 4
  | 5 => some 5
  | 6 => some 6
  | 7 => some 7
  | _ => none

def usb30GetTxEndpointAddrReg (endp : Nat) : Option Usb30TxCell :=
  (usb30EndpointSwitch endp).map .txDma

def usb30GetTxEndpointRemainingLength (endp : Nat) : Option Usb30TxCell :=
  (usb30EndpointSwitch endp).map .remainingLength

def usb30GetTxEndpointTotalBursts (endp : Nat) : Option Usb30TxCell :=
  (usb30EndpointSwitch endp).map .totalBursts

theorem usb30EndpointSwitch_val : ∀ endpNum : Fin 16,
    usb30EndpointSwitch endpNum.val = usb30EndpIndex endpNum := by
  decide

theorem usb30EndpointSwitch_isSome : ∀ endpNum : Fin 16,
    (usb30EndpointSwitch endpNum.val).isSome ↔ 1 ≤ endpNum.val ∧ endpNum.val ≤ 7 := by
  decide

end WchCh56x.Usb
