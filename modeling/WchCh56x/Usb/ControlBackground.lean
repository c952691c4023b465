import WchCh56x.Usb.Endp0View
import WchCh56x.Usb.MemoryWrites

/-!
# What goes on beside a control transfer

Without passthrough the driver keeps the control transfer in variables of its own.
Traffic on the other endpoints and calls of the main program for them change neither
these nor the registers of endpoint 0.
-/

namespace WchCh56x.Usb

open Usb2Driver

/-- Everything that the handlers of endpoint 0 go by. -/
structure ControlView where
  endp0 : Endp0
  view : Usb2View
  descHead : Nat
  endp0RemainingBytes : Nat
  endp0CurrentTransferSize : Nat
  memory : Nat → U8

/-- An event of the other endpoints, or a NAK, whose user code leaves endpoint 0 alone. -/
def Usb2Event.Beside : Usb2Event → Prop
  | .inDone endpNum reply => endpNum ≠ 0 ∧ reply.LeavesEndp0
  | .outDone endpNum _ _ reply => endpNum ≠ 0 ∧ reply.LeavesEndp0
  | .nak _ reply => reply.LeavesEndp0
  | .call apiCall => apiCall.endpNum ≠ 0
  | .setup _ _ | .busReset _ => False

instance : (event : Usb2Event) → Decidable event.Beside
  | .inDone _ _ => inferInstanceAs (Decidable (_ ∧ _))
  | .outDone _ _ _ _ => inferInstanceAs (Decidable (_ ∧ _))
  | .nak _ reply => inferInstanceAs (Decidable reply.LeavesEndp0)
  | .call _ => inferInstanceAs (Decidable (_ ≠ _))
  | .setup _ _ | .busReset _ => inferInstanceAs (Decidable False)

namespace Usb2Driver

variable (bsp : Usb2Bsp) (driver : Usb2Driver)

def control : ControlView where
  endp0 := driver.endp0
  view := driver.view
  descHead := driver.descHead
  endp0RemainingBytes := driver.endp0RemainingBytes
  endp0CurrentTransferSize := driver.endp0CurrentTransferSize
  memory := driver.memory

/-- The progress of a control transfer, and the memory. -/
def progress : Nat × Nat × Nat × (Nat → U8) :=
  (driver.descHead, driver.endp0RemainingBytes, driver.endp0CurrentTransferSize, driver.memory)

theorem control_eq_of {driver other : Usb2Driver} (endp0 : driver.endp0 = other.endp0)
    (view : driver.view = other.view) (progress : driver.progress = other.progress) :
    driver.control = other.control := by
  obtain ⟨head, rest⟩ := Prod.mk.inj progress
  obtain ⟨remaining, rest⟩ := Prod.mk.inj rest
  obtain ⟨size, memory⟩ := Prod.mk.inj rest
  simp only [control, endp0, view, head, remaining, size, memory]

theorem apart_progress : ApartFromTransfers progress where
  registers _ _ _ _ _ _ _ := rfl
  rxState _ _ _ := rfl

theorem memory_call {apiCall : ApiCall} (other : apiCall.endpNum ≠ 0) :
    (driver.call bsp apiCall).memory = driver.memory := by
  have inside := @writesInside_call bsp 0 driver apiCall fun isControl => absurd isControl other
  funext address
  exact inside.kept address (Nat.lt_or_ge address driver.endp0Buffer)

theorem progress_call {apiCall : ApiCall} (other : apiCall.endpNum ≠ 0) :
    (driver.call bsp apiCall).progress = driver.progress := by
  have fixed := driver.fixed_call bsp apiCall
  have memory := driver.memory_call bsp other
  have head : (driver.call bsp apiCall).descHead = driver.descHead := congrArg Fixed.descHead fixed
  have remaining : (driver.call bsp apiCall).endp0RemainingBytes = driver.endp0RemainingBytes :=
    congrArg Fixed.endp0RemainingBytes fixed
  have size : (driver.call bsp apiCall).endp0CurrentTransferSize =
      driver.endp0CurrentTransferSize := congrArg Fixed.endp0CurrentTransferSize fixed
  simp only [progress, head, remaining, size, memory]

theorem progress_invoke (userCall : UserCall) {reply : UserReply} (leaves : reply.LeavesEndp0) :
    (driver.invoke bsp userCall reply).progress = driver.progress := by
  have runCalls (driver : Usb2Driver) {calls : List ApiCall}
      (apart : ∀ apiCall ∈ calls, apiCall.endpNum ≠ 0) :
      (driver.runCalls bsp calls).progress = driver.progress := by
    induction calls generalizing driver with
    | nil => rfl
    | cons apiCall rest ih =>
        obtain ⟨first, others⟩ := List.forall_mem_cons.mp apart
        exact (ih (driver.call bsp apiCall) others).trans (driver.progress_call bsp first)
  exact runCalls { driver with userCalls := driver.userCalls ++ [userCall] } leaves

/-- A control transfer goes on undisturbed. -/
theorem control_step {driver : Usb2Driver} (running : driver.device.state ≠ .powered)
    {event : Usb2Event} (beside : event.Beside) :
    (event.step bsp driver).control = driver.control := by
  have view : (event.step bsp driver).view = driver.view := by
    rw [view_step]
    cases event with
    | setup packet reply => exact beside.elim
    | busReset reply => exact beside.elim
    | inDone endpNum reply => exact if_pos (.inr (.inl beside.1))
    | outDone endpNum numBytesReceived togok reply => rfl
    | nak endpNum reply => rfl
    | call apiCall => rfl
  cases event with
  | setup packet reply => exact beside.elim
  | busReset reply => exact beside.elim
  | call apiCall =>
      exact control_eq_of (endp0_call_of_ne bsp beside) view (driver.progress_call bsp beside)
  | nak endpNum reply =>
      rw [step_nak] at view ⊢
      exact control_eq_of (endp0_invoke_of_leaves bsp (.nakCallback endpNum) beside) view
        (driver.transferPending.progress_invoke bsp (.nakCallback endpNum) beside)
  | inDone endpNum reply =>
      obtain ⟨other, leaves⟩ := beside
      rw [step_inDone bsp running, if_pos (.inl other)] at view ⊢
      exact control_eq_of (endp0_usb2InTransferHandler_of_ne bsp other leaves) view
        (apart_progress.usb2InTransferHandler bsp (progress_invoke bsp _ _ leaves))
  | outDone endpNum numBytesReceived togok reply =>
      obtain ⟨other, leaves⟩ := beside
      cases togok with
      | false =>
          rw [step_outDone_wrongToggle bsp running]
          rfl
      | true =>
          rw [step_outDone bsp running, if_pos (.inl other)] at view ⊢
          exact control_eq_of (endp0_usb2OutTransferHandler_of_ne bsp other leaves _) view
            (apart_progress.usb2OutTransferHandler bsp fun _ => progress_invoke bsp _ _ leaves)

end Usb2Driver

end WchCh56x.Usb
