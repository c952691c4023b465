import WchCh56x.Usb.Driver

/-!
# IN transfers on the USB3 endpoints

After a burst the handler counts the packets that the host took and announces the
rest.
-/

namespace WchCh56x.Usb

/-! ## `usb30_ep_in_handler` -/

/-- The loop over the packets that were sent. -/
def usb30RemainingAfter (maxPacketSize : Nat) : Nat → Nat → Nat
  | 0, remaining => remaining
  | sent + 1, remaining =>
      usb30RemainingAfter maxPacketSize sent
        (if maxPacketSize ≤ remaining then remaining - maxPacketSize else 0)

theorem usb30RemainingAfter_eq (maxPacketSize sent remaining : Nat) :
    usb30RemainingAfter maxPacketSize sent remaining = remaining - sent * maxPacketSize := by
  induction sent generalizing remaining with
  | zero => rw [Nat.zero_mul, Nat.sub_zero, usb30RemainingAfter]
  | succ sent ih =>
      rw [usb30RemainingAfter, ih, Nat.succ_mul]
      split
      · omega
      · omega

namespace Usb30Endpoints

variable (usb30 : Usb30Endpoints) (i : Fin 8)

def setRemaining (remaining : Nat) : Usb30Endpoints :=
  { usb30 with txRemainingLength := Function.update usb30.txRemainingLength i remaining }

def inClearInterrupt : Usb30Endpoints :=
  { usb30 with
    uepTxCtrl := Function.update usb30.uepTxCtrl i (usb30InClearInterrupt (usb30.uepTxCtrl i)) }

/-- What the handler announces when packets are left. -/
def announceRest (endp : UsbEndpoint) (endpNum : Fin 16) (nump sent : Nat) : Usb30Endpoints :=
  let nump := if endp.maxBurst < nump then endp.maxBurst else nump
  let remaining := usb30.txRemainingLength i
  let usb30 := usb30.inClearInterrupt i
  let txLen :=
    if nump * endp.maxPacketSize ≤ remaining then
      BitVec.ofNat 32 endp.maxPacketSize
    else
      -- an `int` of which only the low bits are written
      BitVec.ofNat 32 remaining - (BitVec.ofNat 32 nump - 1#32) * BitVec.ofNat 32 endp.maxPacketSize
  { usb30 with
    uepTxCtrl := Function.update usb30.uepTxCtrl i
      (usb30InSet (usb30.uepTxCtrl i) usb30Enable usb30Ack (BitVec.ofNat 32 nump) txLen)
    usbFcCtrl := usb30SendErdyIn (BitVec.ofNat 32 endpNum.val) (BitVec.ofNat 32 nump)
    txTotalBursts := Function.update usb30.txTotalBursts i
      (u8 (usb30.txTotalBursts i + 256 - sent)) }

/-- The end of the handler when no packet is left.  The control register it writes lies outside
of the file, since the endpoint number has the direction bit set. -/
def afterTxComplete : Usb30Endpoints :=
  if usb30InNump (usb30.uepTxCtrl i) = 0 then
    { usb30 with uepTxDma := Function.update usb30.uepTxDma i 0 }
  else
    usb30

@[simp] theorem setRemaining_self (remaining : Nat) :
    (usb30.setRemaining i remaining).txRemainingLength i = remaining := Function.update_self ..

@[simp] theorem inClearInterrupt_self :
    (usb30.inClearInterrupt i).uepTxCtrl i = usb30InClearInterrupt (usb30.uepTxCtrl i) :=
  Function.update_self ..

section AnnounceRest

variable {endp : UsbEndpoint} (endpNum : Fin 16) {nump : Nat} (sent : Nat)

theorem announceRest_totalBursts :
    (usb30.announceRest i endp endpNum nump sent).txTotalBursts i =
      u8 (usb30.txTotalBursts i + 256 - sent) := Function.update_self ..

theorem announceRest_uepTxCtrl (within : ¬ endp.maxBurst < nump) :
    (usb30.announceRest i endp endpNum nump sent).uepTxCtrl i =
      usb30InSet (usb30InClearInterrupt (usb30.uepTxCtrl i)) usb30Enable usb30Ack
        (BitVec.ofNat 32 nump)
        (if nump * endp.maxPacketSize ≤ usb30.txRemainingLength i then
          BitVec.ofNat 32 endp.maxPacketSize
        else
          BitVec.ofNat 32 (usb30.txRemainingLength i) -
            (BitVec.ofNat 32 nump - 1#32) * BitVec.ofNat 32 endp.maxPacketSize) := by
  unfold announceRest
  dsimp only
  rw [if_neg within, Function.update_self, inClearInterrupt_self]

end AnnounceRest

end Usb30Endpoints

namespace Usb2Driver

def setUsb30 (driver : Usb2Driver) (usb30 : Usb30Endpoints) : Usb2Driver :=
  { driver with usb30 := usb30 }

/-- `usb30_ep_in_handler`, with the reply of `tx_complete`. -/
def usb30EpInHandler (bsp : Usb2Bsp) (driver : Usb2Driver) (endpNum : Fin 16)
    (reply : UserReply) : Usb2Driver :=
  match usb30EndpIndex endpNum with
  | none => { driver with undefinedBehaviour := true }
  | some i =>
      let endp := driver.device.tx endpNum
      let nump := usb30InNump (driver.usb30.uepTxCtrl i)
      let numPacketSent := u8 (driver.usb30.txTotalBursts i + 256 - nump)
      let remaining :=
        usb30RemainingAfter endp.maxPacketSize numPacketSent (driver.usb30.txRemainingLength i)
      let counted := driver.usb30.setRemaining i remaining
      if remaining = 0 then
        let driver := (driver.setUsb30 (counted.inClearInterrupt i)).invoke bsp
          (.txComplete endpNum) reply
        driver.setUsb30 (driver.usb30.afterTxComplete i)
      else
        driver.setUsb30 (counted.announceRest i endp endpNum nump numPacketSent)

end Usb2Driver

end WchCh56x.Usb
