import WchCh56x.Usb.CallEffects
import WchCh56x.Usb.RegisterMaps

/-!
# The registers behind a transmit request

A request is checked against the burst size of its endpoint.  The backends rely
on the register maps and, for USB3, on the packet size.
-/

namespace WchCh56x.Usb

/-- What `usb3_endp_tx_ready` needs: its pointers are not `NULL` and it divides by the packet size. -/
def Usb3TxReadySafe (endp : UsbEndpoint) (endpNum : Fin 16) : Prop :=
  (usb30GetTxEndpointAddrReg endpNum).isSome ∧ endp.maxPacketSize ≠ 0 ∧
    (usb30GetTxEndpointRemainingLength endpNum).isSome ∧
    (usb30GetTxEndpointTotalBursts endpNum).isSome

/-- What `usb2_endp_tx_ready` needs, which divides by nothing and counts in an array of 16. -/
def Usb2TxReadySafe (endpNum : Fin 16) : Prop :=
  (usb2GetTxEndpointCtrlReg endpNum).isSome ∧ (usb2GetTxEndpointLenReg endpNum).isSome ∧
    (endpNum ≠ 0 → (usb2GetTxEndpointAddrReg endpNum).isSome)

/-- The backend that belongs to the speed of the device has what it needs. -/
def BackendCallSafe (device : UsbDevice) (endpNum : Fin 16) : Prop :=
  if device.speed = .usb30Superspeed then
    Usb3TxReadySafe (device.tx endpNum) endpNum
  else
    Usb2TxReadySafe endpNum

theorem usb3TxReadySafe_iff (endp : UsbEndpoint) (endpNum : Fin 16) :
    Usb3TxReadySafe endp endpNum ↔
      (1 ≤ endpNum.val ∧ endpNum.val ≤ 7) ∧ endp.maxPacketSize ≠ 0 := by
  rw [← usb30EndpointSwitch_isSome, Usb3TxReadySafe, usb30GetTxEndpointAddrReg,
    usb30GetTxEndpointRemainingLength, usb30GetTxEndpointTotalBursts, Option.isSome_map,
    Option.isSome_map, Option.isSome_map]
  constructor
  · rintro ⟨present, sized, _, _⟩
    exact ⟨present, sized⟩
  · rintro ⟨present, sized⟩
    exact ⟨present, sized, present, present⟩

/-- The switches of USB2 have a case for every endpoint. -/
theorem usb2TxReadySafe (endpNum : Fin 16) : Usb2TxReadySafe endpNum := by
  refine ⟨?_, ?_, fun _ => ?_⟩
  · rw [usb2GetTxEndpointCtrlReg, usb2EndpointSwitch_val]
    rfl
  · rw [usb2GetTxEndpointLenReg, usb2EndpointSwitch_val]
    rfl
  · rw [usb2GetTxEndpointAddrReg, usb2EndpointSwitch_val]
    rfl

theorem backendCallSafe_iff (device : UsbDevice) (endpNum : Fin 16) :
    BackendCallSafe device endpNum ↔
      (device.speed = .usb30Superspeed →
        (1 ≤ endpNum.val ∧ endpNum.val ≤ 7) ∧ (device.tx endpNum).maxPacketSize ≠ 0) := by
  unfold BackendCallSafe
  split
  · next superspeed =>
      rw [usb3TxReadySafe_iff]
      exact ⟨fun safe _ => safe, fun safe => safe superspeed⟩
  · next usb2 => exact ⟨fun _ superspeed => absurd superspeed usb2, fun _ => usb2TxReadySafe endpNum⟩

theorem usb3EndpTxReady_isSome_iff (endp : UsbEndpoint) (usb30 : Usb30Endpoints)
    (endpNum : Fin 16) (size : Nat) :
    (usb3EndpTxReady endp usb30 endpNum size).isSome ↔ Usb3TxReadySafe endp endpNum := by
  rw [usb3TxReadySafe_iff, ← usb30EndpointSwitch_isSome, usb30EndpointSwitch_val]
  unfold usb3EndpTxReady
  split
  · next missing => simp [missing]
  · next present =>
      split
      · next unset => simp [unset]
      · next sized => simp [present, sized]

namespace Usb2Driver

variable (driver : Usb2Driver)

theorem usb2EndpTxReady_undefinedBehaviour (endpNum : Fin 16) (size : Nat) :
    (driver.usb2EndpTxReady endpNum size).undefinedBehaviour = driver.undefinedBehaviour := by
  unfold usb2EndpTxReady
  dsimp only
  split
  · rfl
  · rfl

/-- The backend call goes wrong where it does not have what it needs, and nowhere else. -/
theorem endpTxReady_undefinedBehaviour (endpNum : Fin 16) (size : Nat) :
    (driver.endpTxReady endpNum size).undefinedBehaviour = true ↔
      driver.undefinedBehaviour = true ∨ ¬BackendCallSafe driver.device endpNum := by
  unfold BackendCallSafe
  split
  · next superspeed =>
      rw [driver.endpTxReady_of_superspeed superspeed,
        ← usb3EndpTxReady_isSome_iff _ driver.usb30 endpNum size]
      split
      · next written => simp [written]
      · next missing => simp [missing]
  · next usb2 =>
      rw [driver.endpTxReady_of_usb2 usb2, usb2EndpTxReady_undefinedBehaviour]
      simp [usb2TxReadySafe endpNum]

theorem bufferSet_undefinedBehaviour (endpNum : Fin 16) (ptr size : Nat) :
    (driver.bufferSet endpNum ptr size).undefinedBehaviour = driver.undefinedBehaviour := by
  unfold bufferSet copyToEndp0
  split
  · rfl
  · rfl

theorem backendCallSafe_bufferSet (endpNum : Fin 16) (ptr size : Nat) :
    BackendCallSafe (driver.bufferSet endpNum ptr size).device endpNum ↔
      BackendCallSafe driver.device endpNum := by
  have packets : ((driver.bufferSet endpNum ptr size).device.tx endpNum).maxPacketSize =
      (driver.device.tx endpNum).maxPacketSize := by
    unfold bufferSet copyToEndp0
    split
    · simp only [setTx, enterCritical, Function.update_self]
    · simp only [setTx, enterCritical, Function.update_self]
  rw [backendCallSafe_iff, backendCallSafe_iff, bufferSet_speed, packets]

theorem accepts_of_accepted {endpNum : Fin 16} {ptr size : Nat}
    (accepted : (driver.endpTxSetNewBuffer endpNum ptr size).1 = true) :
    driver.config.Accepts endpNum ptr size := by
  by_contra refuses
  rcases driver.endpTxSetNewBuffer_of_refuses refuses with early | late
  · rw [early] at accepted
    exact Bool.false_ne_true accepted
  · rw [late] at accepted
    exact Bool.false_ne_true accepted

/-- A request goes wrong in the backend or not at all. -/
theorem endpTxSetNewBuffer_undefinedBehaviour {endpNum : Fin 16} {ptr size : Nat}
    (accepted : (driver.endpTxSetNewBuffer endpNum ptr size).1 = true) :
    (driver.endpTxSetNewBuffer endpNum ptr size).2.undefinedBehaviour = true ↔
      driver.undefinedBehaviour = true ∨ ¬BackendCallSafe driver.device endpNum := by
  rw [driver.endpTxSetNewBuffer_of_accepts (driver.accepts_of_accepted accepted),
    ← driver.bufferSet_undefinedBehaviour endpNum ptr size,
    ← driver.backendCallSafe_bufferSet endpNum ptr size]
  exact endpTxReady_undefinedBehaviour ..

/-- A request that is not refused is safe at the speeds of USB2, and for USB3 only on the endpoints 1
to 7 with a packet size. -/
theorem accepted_request_safe_iff (endpNum : Fin 16) (ptr size : Nat)
    (accepted : (driver.endpTxSetNewBuffer endpNum ptr size).1 = true) :
    BackendCallSafe driver.device endpNum ∧
        ((driver.endpTxSetNewBuffer endpNum ptr size).2.undefinedBehaviour = true →
          driver.undefinedBehaviour = true) ↔
      (driver.device.speed = .usb30Superspeed →
        (1 ≤ endpNum.val ∧ endpNum.val ≤ 7) ∧ (driver.device.tx endpNum).maxPacketSize ≠ 0) := by
  rw [← backendCallSafe_iff, driver.endpTxSetNewBuffer_undefinedBehaviour accepted]
  constructor
  · exact And.left
  · intro safe
    exact ⟨safe, fun wrong => wrong.resolve_right (not_not_intro safe)⟩

def unsetSuperspeed : Usb2Driver :=
  initial { usbDevice0 with speed := .usb30Superspeed } fun _ => 0#8

/-- A device at the speed of USB3 whose IN endpoint 1 has bursts of four packets of 1024 bytes. -/
def bursting : Usb2Driver :=
  initial { usbDevice0 with
    speed := .usb30Superspeed
    tx := Function.update usbDevice0.tx 1 ⟨0, 4, 1024, 4096, endpStateNak⟩ } fun _ => 0#8

/-- At the speeds of USB2 the condition is empty, and endpoint 8 may send.  At that of USB3 an
endpoint with a packet size may. -/
theorem accepted_request_safe_at_both_speeds :
    (BackendCallSafe usbDevice0 8 ∧
      (((initial usbDevice0 fun _ => 0#8).endpTxSetNewBuffer 8 0x20020000 0).2.undefinedBehaviour = true →
        false = true)) ∧
      BackendCallSafe bursting.device 1 ∧
        ((bursting.endpTxSetNewBuffer 1 0x20020000 3000).2.undefinedBehaviour = true →
          bursting.undefinedBehaviour = true) :=
  ⟨((initial usbDevice0 fun _ => 0#8).accepted_request_safe_iff 8 0x20020000 0 rfl).mpr
      fun superspeed => absurd superspeed (by decide),
    (bursting.accepted_request_safe_iff 1 0x20020000 3000 rfl).mpr
      fun _ => ⟨by decide, by decide⟩⟩

/-- For an endpoint at its initial values the backend of USB3 divides by zero. -/
theorem accepted_request_not_safe :
    ¬ (∀ (driver : Usb2Driver) (endpNum : Fin 16) (ptr size : Nat), ptr ≠ 0 →
      (driver.endpTxSetNewBuffer endpNum ptr size).1 = true →
        BackendCallSafe driver.device endpNum) := by
  intro always
  have safe := always unsetSuperspeed 1 0x20020400 0 (by decide) rfl
  exact ((backendCallSafe_iff _ _).mp safe rfl).2 rfl

end Usb2Driver

end WchCh56x.Usb
