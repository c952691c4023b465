import WchCh56x.Usb.EventFrames

/-!
# What a control transfer leaves behind

`desc_head`, `endp0_remaining_bytes` and `endp0_current_transfer_size` outlive the
transfer they were set for.  A driver is compared with itself under other leftovers.
-/

namespace WchCh56x.Usb

structure Leftovers where
  descHead : Nat
  endp0RemainingBytes : Nat
  endp0CurrentTransferSize : Nat

namespace Usb2Driver

variable (bsp : Usb2Bsp) (driver : Usb2Driver) (left : Leftovers)

def withLeftovers : Usb2Driver :=
  { driver with
    descHead := left.descHead
    endp0RemainingBytes := left.endp0RemainingBytes
    endp0CurrentTransferSize := left.endp0CurrentTransferSize }

/-! ## User code does not see the leftovers -/

theorem withLeftovers_endpTxReady (endpNum : Fin 16) (size : Nat) :
    (driver.withLeftovers left).endpTxReady endpNum size =
      (driver.endpTxReady endpNum size).withLeftovers left := by
  by_cases speed : driver.device.speed = .usb30Superspeed
  · rw [endpTxReady_of_superspeed _ speed,
      endpTxReady_of_superspeed (driver.withLeftovers left) speed]
    have same : (driver.withLeftovers left).usb30 = driver.usb30 := rfl
    have sameEndp : (driver.withLeftovers left).device.tx endpNum = driver.device.tx endpNum := rfl
    rw [same, sameEndp]
    cases usb3EndpTxReady (driver.device.tx endpNum) driver.usb30 endpNum size with
    | some usb30 => rfl
    | none => rfl
  · rw [endpTxReady_of_usb2 _ speed, endpTxReady_of_usb2 (driver.withLeftovers left) speed]
    unfold usb2EndpTxReady
    simp only []
    split
    · rfl
    · rfl

theorem withLeftovers_bufferSet (endpNum : Fin 16) (ptr size : Nat) :
    (driver.withLeftovers left).bufferSet endpNum ptr size =
      (driver.bufferSet endpNum ptr size).withLeftovers left := by
  unfold bufferSet copyToEndp0
  split
  · rfl
  · rfl

theorem withLeftovers_endpTxSetNewBuffer (endpNum : Fin 16) (ptr size : Nat) :
    ((driver.withLeftovers left).endpTxSetNewBuffer endpNum ptr size).2 =
      (driver.endpTxSetNewBuffer endpNum ptr size).2.withLeftovers left := by
  by_cases accepts : driver.config.Accepts endpNum ptr size
  · rw [driver.endpTxSetNewBuffer_of_accepts accepts,
      (driver.withLeftovers left).endpTxSetNewBuffer_of_accepts accepts, withLeftovers_bufferSet,
      withLeftovers_endpTxReady]
    rfl
  by_cases tooLong : (driver.device.tx endpNum).maxPacketSizeWithBurst < size ∨ ptr = 0
  · rw [driver.endpTxSetNewBuffer_of_tooLong tooLong,
      (driver.withLeftovers left).endpTxSetNewBuffer_of_tooLong tooLong]
    rfl
  · obtain ⟨fits, notNull⟩ := not_or.mp tooLong
    obtain ⟨rfl, noBuffer⟩ : endpNum = 0 ∧ driver.endp0Buffer = 0 := by
      by_contra filled
      exact accepts ⟨Nat.le_of_not_lt fits, notNull, fun isControl noBuffer =>
        filled ⟨isControl, noBuffer⟩⟩
    rw [driver.endpTxSetNewBuffer_of_noBuffer tooLong noBuffer,
      (driver.withLeftovers left).endpTxSetNewBuffer_of_noBuffer tooLong noBuffer]
    rfl

theorem withLeftovers_call (apiCall : ApiCall) :
    (driver.withLeftovers left).call bsp apiCall = (driver.call bsp apiCall).withLeftovers left := by
  cases apiCall with
  | endpTxSetNewBuffer endpNum ptr size => exact withLeftovers_endpTxSetNewBuffer ..
  | endpRxSetState endpNum state =>
      change (driver.withLeftovers left).endpRxSetState bsp endpNum state =
        (driver.endpRxSetState bsp endpNum state).withLeftovers left
      by_cases speed : driver.device.speed = .usb30Superspeed
      · rw [driver.endpRxSetState_of_superspeed bsp speed,
          (driver.withLeftovers left).endpRxSetState_of_superspeed bsp speed]
        rfl
      · rw [driver.endpRxSetState_of_usb2 bsp speed,
          (driver.withLeftovers left).endpRxSetState_of_usb2 bsp speed]
        rfl
  | endpTxSetState endpNum state =>
      change (driver.withLeftovers left).endpTxSetState endpNum state =
        (driver.endpTxSetState endpNum state).withLeftovers left
      by_cases speed : driver.device.speed = .usb30Superspeed
      · rw [driver.endpTxSetState_of_superspeed speed,
          (driver.withLeftovers left).endpTxSetState_of_superspeed speed]
        rfl
      · rw [driver.endpTxSetState_of_usb2 speed,
          (driver.withLeftovers left).endpTxSetState_of_usb2 speed]
        rfl

theorem withLeftovers_runCalls (calls : List ApiCall) :
    (driver.withLeftovers left).runCalls bsp calls =
      (driver.runCalls bsp calls).withLeftovers left := by
  induction calls generalizing driver with
  | nil => rfl
  | cons apiCall rest ih =>
      refine (congrArg (runCalls bsp · rest) (driver.withLeftovers_call bsp left apiCall)).trans ?_
      exact ih (driver.call bsp apiCall)

theorem withLeftovers_invoke (userCall : UserCall) (reply : UserReply) :
    (driver.withLeftovers left).invoke bsp userCall reply =
      (driver.invoke bsp userCall reply).withLeftovers left :=
  withLeftovers_runCalls bsp { driver with userCalls := driver.userCalls ++ [userCall] } left
    reply.calls

end Usb2Driver

end WchCh56x.Usb
