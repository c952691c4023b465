import WchCh56x.Usb.Types
import Mathlib.Logic.Function.Basic

/-!
# USB3 endpoint registers

The register file is indexed by the endpoint number.  Endpoints 8 to 15 and,
for the DMA addresses and the counters, endpoint 0 have no entry.
-/

namespace WchCh56x.Usb

/-! ## Register fields -/

def usb30Nrdy : U32 := 0#32
def usb30Ack : U32 := 1#32

def usb30Disable : U32 := 0#32
def usb30Enable : U32 := 1#32

/-- `usb30_in_set`, on the control register of the endpoint. -/
def usb30InSet (ctrl lpf status nump txLen : U32) : U32 :=
  ctrl ||| (nump <<< 16) ||| (status <<< 26) ||| (txLen &&& 0x7ff#32) ||| (lpf <<< 28)

/-- `usb30_in_nump`, on the control register of the endpoint. -/
def usb30InNump (ctrl : U32) : Nat := ((ctrl >>> 16) &&& 0x1f#32).toNat

/-- The length of the last packet in the control register of an IN endpoint. -/
def usb30InTxLen (ctrl : U32) : Nat := (ctrl &&& 0x7ff#32).toNat

/-- `usb30_in_clear_interrupt`, which keeps the sequence number. -/
def usb30InClearInterrupt (ctrl : U32) : U32 := ctrl &&& 0x03e00000#32

/-- The value `usb30_send_erdy` writes for an IN endpoint. -/
def usb30SendErdyIn (endp nump : U32) : U32 := ((endp &&& 0xf#32) <<< 2) ||| (nump <<< 6) ||| 3#32

/-- `usb30_device_set_address`, on `USB_CONTROL`. -/
def usb30DeviceSetAddress (usbControl address : U32) : U32 :=
  (usbControl &&& 0x00ffffff#32) ||| (address <<< 24)

/-- The bits of `USB_CONTROL` that hold the device address. -/
def usb30DeviceAddress (usbControl : U32) : U8 := usbControl.extractLsb' 24 8

theorem usb30DeviceAddress_set (usbControl address : U32) :
    usb30DeviceAddress (usb30DeviceSetAddress usbControl address) = address.setWidth 8 := by
  have cleared : ∀ i < 8, (0x00ffffff#32).getLsbD (24 + i) = false := by decide
  ext i inRange
  have inWord : 24 + i < 32 := by omega
  rw [usb30DeviceAddress, usb30DeviceSetAddress, BitVec.getElem_extractLsb', BitVec.getLsbD_or,
    BitVec.getLsbD_and, cleared i inRange, BitVec.getLsbD_shiftLeft, BitVec.getElem_setWidth]
  simp [inWord]

theorem toNat_and_lowMask (value : U32) {width : Nat} (inWord : width ≤ 32) :
    (value &&& BitVec.ofNat 32 (2 ^ width - 1)).toNat = value.toNat % 2 ^ width := by
  have power := Nat.pow_le_pow_right (show 0 < 2 by decide) inWord
  have positive := Nat.two_pow_pos width
  rw [BitVec.toNat_and, BitVec.toNat_ofNat, Nat.mod_eq_of_lt (by omega),
    Nat.and_two_pow_sub_one_eq_mod]

theorem getLsbD_lowMask (width i : Nat) (inWord : width ≤ 32) :
    (BitVec.ofNat 32 (2 ^ width - 1)).getLsbD i = decide (i < width) := by
  rw [BitVec.getLsbD_ofNat, Nat.testBit_two_pow_sub_one, ← Bool.decide_and]
  exact decide_eq_decide.mpr ⟨And.right, fun inside => ⟨inside.trans_le inWord, inside⟩⟩

section InSet

variable (ctrl lpf status nump txLen : U32)

theorem usb30InNump_set :
    usb30InNump (usb30InSet (usb30InClearInterrupt ctrl) lpf status nump txLen) =
      nump.toNat % 32 := by
  have sequence : ∀ i < 5, (0x03e00000#32).getLsbD (16 + i) = false := by decide
  have length : ∀ i < 5, (0x7ff#32).getLsbD (16 + i) = false := by decide
  have field : (usb30InSet (usb30InClearInterrupt ctrl) lpf status nump txLen >>> 16) &&& 0x1f#32 =
      nump &&& 0x1f#32 := by
    apply BitVec.eq_of_getLsbD_eq
    intro i _
    have mask : (0x1f#32).getLsbD i = decide (i < 5) := getLsbD_lowMask 5 i (by decide)
    rw [BitVec.getLsbD_and, BitVec.getLsbD_and, mask]
    by_cases inField : i < 5
    · have inWord : 16 + i < 32 := by omega
      have beforeStatus : 16 + i < 26 := by omega
      have beforeBurst : 16 + i < 28 := by omega
      simp only [usb30InSet, usb30InClearInterrupt, BitVec.getLsbD_ushiftRight, BitVec.getLsbD_or,
        BitVec.getLsbD_and, BitVec.getLsbD_shiftLeft, sequence i inField, length i inField, inWord,
        beforeStatus, beforeBurst, Nat.add_sub_cancel_left]
      simp
    · simp [inField]
  rw [usb30InNump, field]
  exact toNat_and_lowMask nump (show 5 ≤ 32 by decide)

theorem usb30InTxLen_set :
    usb30InTxLen (usb30InSet (usb30InClearInterrupt ctrl) lpf status nump txLen) =
      txLen.toNat % 2048 := by
  have sequence : ∀ i < 11, (0x03e00000#32).getLsbD i = false := by decide
  have field : usb30InSet (usb30InClearInterrupt ctrl) lpf status nump txLen &&& 0x7ff#32 =
      txLen &&& 0x7ff#32 := by
    apply BitVec.eq_of_getLsbD_eq
    intro i _
    have mask : (0x7ff#32).getLsbD i = decide (i < 11) := getLsbD_lowMask 11 i (by decide)
    rw [BitVec.getLsbD_and, BitVec.getLsbD_and, mask]
    by_cases inField : i < 11
    · have beforeNump : i < 16 := by omega
      have beforeStatus : i < 26 := by omega
      have beforeBurst : i < 28 := by omega
      simp only [usb30InSet, usb30InClearInterrupt, BitVec.getLsbD_or, BitVec.getLsbD_and,
        BitVec.getLsbD_shiftLeft, sequence i inField, mask, inField, beforeNump, beforeStatus,
        beforeBurst]
      simp
    · simp [inField]
  rw [usb30InTxLen, field]
  exact toNat_and_lowMask txLen (show 11 ≤ 32 by decide)

theorem usb30InNump_clear : usb30InNump (usb30InClearInterrupt ctrl) = 0 := by
  have field : (usb30InClearInterrupt ctrl >>> 16) &&& 0x1f#32 = 0#32 := by
    have masks : (0x03e00000#32 >>> 16) &&& 0x1f#32 = 0#32 := by decide
    rw [usb30InClearInterrupt, BitVec.ushiftRight_and_distrib, BitVec.and_assoc, masks, BitVec.and_zero]
  rw [usb30InNump, field]
  rfl

end InSet

/-! ## Sending -/

structure Usb30Endpoints where
  uepTxCtrl : Fin 8 → U32
  uepTxDma : Fin 8 → Nat
  usbFcCtrl : U32
  txRemainingLength : Fin 8 → Nat
  txTotalBursts : Fin 8 → Nat

def Usb30Endpoints.initial : Usb30Endpoints where
  uepTxCtrl _ := 0#32
  uepTxDma _ := 0
  usbFcCtrl := 0#32
  txRemainingLength _ := 0
  txTotalBursts _ := 0

/-- Of what index an endpoint has a DMA address register and counters. -/
def usb30EndpIndex (endpNum : Fin 16) : Option (Fin 8) :=
  if inFile : endpNum.val < 8 then
    if endpNum = 0 then none else some ⟨endpNum.val, inFile⟩
  else
    none

/-- `usb3_endp_tx_ready`; `none` where it divides by zero or writes through `NULL`. -/
def usb3EndpTxReady (endp : UsbEndpoint) (usb30 : Usb30Endpoints) (endpNum : Fin 16)
    (size : Nat) : Option Usb30Endpoints :=
  match usb30EndpIndex endpNum with
  | none => none
  | some i =>
      if endp.maxPacketSize = 0 then
        none
      else
        let maxFullPackets := size / endp.maxPacketSize
        let remainder := size % endp.maxPacketSize
        let lastPacketSize :=
          if 0 < maxFullPackets ∧ remainder = 0 then endp.maxPacketSize else remainder
        let totalNumPackets :=
          u8 (maxFullPackets + if lastPacketSize ≠ endp.maxPacketSize then 1 else 0)
        some { usb30 with
          uepTxDma := Function.update usb30.uepTxDma i endp.buffer
          txRemainingLength := Function.update usb30.txRemainingLength i size
          txTotalBursts := Function.update usb30.txTotalBursts i totalNumPackets
          uepTxCtrl := Function.update usb30.uepTxCtrl i
            (usb30InSet (usb30.uepTxCtrl i) usb30Enable usb30Ack (BitVec.ofNat 32 totalNumPackets)
              (BitVec.ofNat 32 lastPacketSize))
          usbFcCtrl := usb30SendErdyIn (BitVec.ofNat 32 endpNum.val)
            (BitVec.ofNat 32 totalNumPackets) }

end WchCh56x.Usb
