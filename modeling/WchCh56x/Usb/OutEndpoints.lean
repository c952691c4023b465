import WchCh56x.Usb.TransferCtrl

/-!
# The OUT endpoints

The functions of the driver and the calls of user code change the states of the OUT
endpoints only.
-/

namespace WchCh56x.Usb

namespace Usb2Driver

variable (bsp : Usb2Bsp) (driver : Usb2Driver)

/-- The OUT endpoints are the same but for their states. -/
def SameOutEndpoints (other : Usb2Driver) : Prop :=
  ∀ n, ∃ state, other.device.rx n = { driver.device.rx n with state := state }

variable {driver}

theorem SameOutEndpoints.refl : driver.SameOutEndpoints driver := fun n =>
  ⟨(driver.device.rx n).state, rfl⟩

theorem SameOutEndpoints.of_eq {other : Usb2Driver} (same : other.device.rx = driver.device.rx) :
    driver.SameOutEndpoints other := fun n => ⟨(driver.device.rx n).state, congrFun same n⟩

theorem SameOutEndpoints.trans {middle other : Usb2Driver} (first : driver.SameOutEndpoints middle)
    (second : middle.SameOutEndpoints other) : driver.SameOutEndpoints other := by
  intro n
  obtain ⟨before, isMiddle⟩ := first n
  obtain ⟨after, isOther⟩ := second n
  exact ⟨after, by rw [isOther, isMiddle]⟩

variable (driver)

theorem sameOutEndpoints_setRx (endpNum : Fin 16) (state : U8) :
    driver.SameOutEndpoints
      (driver.setRx endpNum { driver.device.rx endpNum with state := state }) := by
  intro n
  by_cases isIt : n = endpNum
  · subst isIt
    exact ⟨state, Function.update_self ..⟩
  · exact ⟨(driver.device.rx n).state, Function.update_of_ne isIt ..⟩

theorem sameOutEndpoints_call (apiCall : ApiCall) :
    driver.SameOutEndpoints (driver.call bsp apiCall) := by
  cases apiCall with
  | endpTxSetNewBuffer endpNum ptr size =>
      refine .of_eq ?_
      change (driver.endpTxSetNewBuffer endpNum ptr size).2.device.rx = _
      rcases driver.device_endpTxSetNewBuffer endpNum ptr size with same | set
      · rw [same]
      · rw [set]
        rfl
  | endpRxSetState endpNum state =>
      change driver.SameOutEndpoints (driver.endpRxSetState bsp endpNum state)
      unfold endpRxSetState
      dsimp only
      split
      · exact driver.sameOutEndpoints_setRx endpNum state
      · exact driver.sameOutEndpoints_setRx endpNum state
  | endpTxSetState endpNum state =>
      refine .of_eq ?_
      change (driver.endpTxSetState endpNum state).device.rx = _
      unfold endpTxSetState
      dsimp only
      split
      · rfl
      · rfl

theorem sameOutEndpoints_runCalls (calls : List ApiCall) :
    driver.SameOutEndpoints (driver.runCalls bsp calls) := by
  induction calls generalizing driver with
  | nil => exact .refl
  | cons apiCall rest ih =>
      exact (driver.sameOutEndpoints_call bsp apiCall).trans (ih (driver.call bsp apiCall))

theorem sameOutEndpoints_invoke (userCall : UserCall) (reply : UserReply) :
    driver.SameOutEndpoints (driver.invoke bsp userCall reply) :=
  sameOutEndpoints_runCalls bsp { driver with userCalls := driver.userCalls ++ [userCall] }
    reply.calls

end Usb2Driver

end WchCh56x.Usb
