import WchCh56x.Usb.DeviceChart
import WchCh56x.Usb.Usb30Irq

/-!
# The state chart on a USB3 link

The events of the link move the chart of the device as those of the USB2 bus do,
and the resets of the link clear the address.
-/

namespace WchCh56x.Usb

def usb30Idle : Session Usb30Driver :=
  ⟨Usb30Driver.initial (Usb2Driver.initial usbDevice0 fun _ => 0#8), none⟩

/-- The chart and what the status stage reads. -/
structure Usb30View where
  chart : Chart
  setupReqCode : U8
  setupLen : Nat
  deriving DecidableEq, Repr

namespace Usb30Driver

variable (bsp : Usb2Bsp) (driver : Usb30Driver)

def chart : Chart :=
  ⟨driver.device.state, driver.device.currentConfig, usb30DeviceAddress driver.usbControl⟩

def view : Usb30View := ⟨driver.chart, driver.setupReqCode, driver.setupLen⟩

theorem view_of_usb2 {usb2 : Usb2Driver} (same : usb2.view = driver.toUsb2Driver.view) :
    view { driver with toUsb2Driver := usb2 } = driver.view :=
  congrArg (fun usb2 : Usb2View =>
    (⟨⟨usb2.chart.state, usb2.chart.currentConfig, usb30DeviceAddress driver.usbControl⟩,
      driver.setupReqCode, driver.setupLen⟩ : Usb30View)) same

theorem view_invokeUser (userCall : UserCall) (reply : UserReply) :
    (driver.invokeUser bsp userCall reply).view = driver.view :=
  driver.view_of_usb2 (driver.toUsb2Driver.view_invoke bsp userCall reply)

/-- What every step leaves alone, all steps leave alone. -/
theorem foldl_keeps {Kept : Type} (kept : Usb30Driver → Kept)
    {step : Usb30Driver → Fin 8 → Usb30Driver}
    (keeps : ∀ driver i, kept (step driver i) = kept driver) (endpoints : List (Fin 8)) :
    kept (endpoints.foldl step driver) = kept driver := by
  induction endpoints generalizing driver with
  | nil => rfl
  | cons i rest ih => exact (ih (step driver i)).trans (keeps driver i)

theorem view_initIn (i : Fin 8) : (driver.initIn i).view = driver.view := rfl

theorem view_initOut (i : Fin 8) : (driver.initOut i).view = driver.view := rfl

theorem view_initEndpoint (i : Fin 8) : (driver.initEndpoint i).view = driver.view := by
  have inBlock (enabled : Prop) [Decidable enabled] :
      view (if enabled then driver.initIn i else driver) = driver.view := by
    split
    · exact driver.view_initIn i
    · rfl
  have first := inBlock (EnabledIn driver.device.endpointMask .tx (usb30EndpNum i))
  unfold initEndpoint
  dsimp only
  split
  · exact (view_initOut _ i).trans first
  · exact first

theorem view_usb30InitEndpoints : driver.usb30InitEndpoints.view = driver.view := by
  rw [usb30InitEndpoints, foldl_keeps _ view view_initEndpoint]
  rfl

theorem view_clearInterruptAll (i : Fin 8) : (driver.clearInterruptAll i).view = driver.view := rfl

theorem view_usb30ReinitEndpoints : driver.usb30ReinitEndpoints.view = driver.view := by
  rw [usb30ReinitEndpoints, view_usb30InitEndpoints, foldl_keeps _ view view_clearInterruptAll]

def requestMove (setup : UsbSetup) : Move :=
  if setup.IsStandard ∧ setup.bRequest = usbSetConfiguration then
    .configure setup.wValue.bb1
  else
    .stay

structure AfterSetup (setup : UsbSetup) (after : Usb30Driver) : Prop where
  chart : after.chart = (requestMove setup).apply driver.chart
  code : after.setupReqCode = usbSetAddress ↔ setup.bRequest = usbSetAddress
  address : setup.IsStandard → setup.bRequest = usbSetAddress →
    after.setupLen = setup.wValue.bb1.toNat

variable {driver} {setup : UsbSetup} {after : Usb30Driver}

/-- Requests other than SET_CONFIGURATION and SET_ADDRESS leave the chart alone. -/
theorem afterSetup_of_other (notConfig : ¬ (setup.IsStandard ∧ setup.bRequest = usbSetConfiguration))
    (notAddress : ¬ (setup.IsStandard ∧ setup.bRequest = usbSetAddress))
    (chart : after.chart = driver.chart)
    (code : after.setupReqCode = usbSetAddress ↔ setup.bRequest = usbSetAddress) :
    driver.AfterSetup setup after := by
  refine ⟨?_, code, fun standard isAddress => absurd ⟨standard, isAddress⟩ notAddress⟩
  rw [requestMove, if_neg notConfig]
  exact chart

theorem chart_usb30GetDescriptor (driver : Usb30Driver) (setup : UsbSetup) :
    (driver.usb30GetDescriptor setup).2.chart = driver.chart ∧
      ((driver.usb30GetDescriptor setup).2.setupReqCode = driver.setupReqCode ∨
        (driver.usb30GetDescriptor setup).2.setupReqCode = invalidReqCode) := by
  rcases driver.usb30GetDescriptor_cases setup with same | same | ⟨descr, size, same⟩
  · rw [same]
    exact ⟨rfl, .inr rfl⟩
  · rw [same]
    exact ⟨rfl, .inl rfl⟩
  · rw [same]
    exact ⟨rfl, .inl rfl⟩

/-- Another request number than those of SET_CONFIGURATION and SET_ADDRESS. -/
theorem afterSetup_of_number {number : U8} (isNumber : setup.bRequest = number)
    (other : number ≠ usbSetConfiguration ∧ number ≠ usbSetAddress)
    (chart : after.chart = driver.chart)
    (code : after.setupReqCode = setup.bRequest ∨ after.setupReqCode = invalidReqCode) :
    driver.AfterSetup setup after := by
  subst isNumber
  refine afterSetup_of_other (fun both => other.1 both.2) (fun both => other.2 both.2) chart ?_
  rcases code with same | invalid
  · rw [same]
  · rw [invalid]
    exact ⟨fun is => absurd is (by decide), fun is => absurd is other.2⟩

theorem afterSetup_usb30SetConfiguration (standard : setup.IsStandard)
    (isConfig : setup.bRequest = usbSetConfiguration) (code : driver.setupReqCode = setup.bRequest) :
    driver.AfterSetup setup (driver.usb30SetConfiguration setup) := by
  have reinit := driver.view_usb30ReinitEndpoints
  have moves : requestMove setup = .configure setup.wValue.bb1 := if_pos ⟨standard, isConfig⟩
  have kept : (driver.usb30SetConfiguration setup).setupReqCode = driver.setupReqCode := by
    unfold usb30SetConfiguration
    dsimp only
    split
    · exact congrArg Usb30View.setupReqCode reinit
    · exact congrArg Usb30View.setupReqCode reinit
  refine ⟨?_, ?_, fun _ isAddress => ?_⟩
  · rw [moves]
    unfold usb30SetConfiguration
    dsimp only
    split
    · next selected =>
        rw [Move.apply_configure_of_ne _ selected]
        exact congrArg (fun view : Usb30View =>
          Chart.mk .configured setup.wValue.bb1 view.chart.address) reinit
    · next none =>
        rw [Move.apply_configure_of_eq _ none]
        exact congrArg (fun view : Usb30View =>
          Chart.mk view.chart.state setup.wValue.bb1 view.chart.address) reinit
  · rw [kept, code]
  · rw [isConfig] at isAddress
    exact absurd isAddress (by decide)

variable (driver) in
theorem afterSetup_usb30StandardReqHandler (standard : driver.usbSetupBuf.IsStandard) :
    driver.AfterSetup driver.usbSetupBuf driver.usb30StandardReqHandler.2 := by
  unfold usb30StandardReqHandler
  dsimp only
  split
  · next isGet =>
      obtain ⟨chart, code⟩ := chart_usb30GetDescriptor
        { driver with
          setupReqCode := driver.usbSetupBuf.bRequest
          setupLen := driver.usbSetupBuf.wLength.toNat } driver.usbSetupBuf
      exact afterSetup_of_number isGet (by decide) chart code
  · next notGet =>
      split
      · next isAddress =>
          refine ⟨?_, Iff.rfl, fun _ _ => rfl⟩
          rw [requestMove, if_neg]
          · rfl
          · rw [isAddress]
            exact fun both => absurd both.2 (by decide)
      · next notAddress =>
          split
          · next isGetConfig => exact afterSetup_of_number isGetConfig (by decide) rfl (.inl rfl)
          · split
            · next isConfig =>
                obtain ⟨chart, code, address⟩ := @afterSetup_usb30SetConfiguration { driver with
                  setupReqCode := driver.usbSetupBuf.bRequest
                  setupLen := driver.usbSetupBuf.wLength.toNat } _ standard isConfig rfl
                exact ⟨chart, code, address⟩
            · next notConfig =>
                have kept {after : Usb30Driver} := @afterSetup_of_other driver driver.usbSetupBuf
                  after (fun both => notConfig both.2) (fun both => notAddress both.2)
                split
                · exact kept rfl Iff.rfl
                · split
                  · exact kept rfl Iff.rfl
                  · split
                    · exact kept rfl Iff.rfl
                    · split
                      · exact kept rfl Iff.rfl
                      · exact kept rfl
                          ⟨fun is => absurd (show invalidReqCode = usbSetAddress from is) (by decide),
                            fun is => absurd is notAddress⟩

variable (driver) in
theorem afterSetup_usb30UserRequest (reply : UserReply) (user : ¬driver.usbSetupBuf.IsStandard) :
    driver.AfterSetup driver.usbSetupBuf (driver.usb30UserRequest bsp reply).2 := by
  have kept {after : Usb30Driver} := @afterSetup_of_other driver driver.usbSetupBuf after
    (fun both => user both.1) (fun both => user both.1)
  have called := view_invokeUser bsp
    { driver with
      setupReqCode := driver.usbSetupBuf.bRequest
      setupLen := driver.usbSetupBuf.wLength.toNat }
    (.endp0UserHandledControlRequest driver.usbSetupBuf true) reply
  have chart := congrArg Usb30View.chart called
  unfold usb30UserRequest
  dsimp only
  split
  · split
    · exact kept chart Iff.rfl
    · exact kept chart Iff.rfl
  · split
    · exact kept chart Iff.rfl
    · exact kept chart Iff.rfl

variable (driver) in
theorem view_answerSetup (isIn : Bool) (reqLen : Nat) :
    (driver.answerSetup isIn reqLen).view = driver.view := by
  obtain ⟨usb30, uepRxCtrl, changes⟩ := driver.answerSetup_changes isIn reqLen
  rw [changes]
  rfl

variable (driver) in
theorem afterSetup_usb30SetupStage (reply : UserReply) :
    driver.AfterSetup driver.usbSetupBuf (driver.usb30SetupStage bsp reply) := by
  have handled : driver.AfterSetup driver.usbSetupBuf
      ((driver.setUepRxCtrl 0 0#32).usb30Request bsp reply).2 := by
    unfold usb30Request
    split
    · next standard =>
        obtain ⟨chart, code, address⟩ :=
          (driver.setUepRxCtrl 0 0#32).afterSetup_usb30StandardReqHandler standard
        exact ⟨chart, code, address⟩
    · next user =>
        obtain ⟨chart, code, address⟩ :=
          (driver.setUepRxCtrl 0 0#32).afterSetup_usb30UserRequest bsp reply user
        exact ⟨chart, code, address⟩
  have answered := view_answerSetup ((driver.setUepRxCtrl 0 0#32).usb30Request bsp reply).2
    (decide driver.usbSetupBuf.IsIn) ((driver.setUepRxCtrl 0 0#32).usb30Request bsp reply).1
  refine ⟨(congrArg Usb30View.chart answered).trans handled.chart, ?_, fun standard isAddress => ?_⟩
  · exact (Eq.congr_left (congrArg Usb30View.setupReqCode answered)).trans handled.code
  · exact (congrArg Usb30View.setupLen answered).trans (handled.address standard isAddress)

/-! ## The branches of the interrupt handler -/

theorem usbStatusFor_reads : ∀ (i : Fin 8) (isIn : Bool),
    (usbStatusFor i isIn).getLsbD 0 = true ∧
      Fin.ofNat 8 (((usbStatusFor i isIn) >>> 8) &&& 7#32).toNat = i ∧
      (usbStatusFor i isIn).getLsbD 12 = isIn := by
  decide

variable (driver) in
theorem usbssIrqHandler_eq (i : Fin 8) (isIn : Bool) (reply : UserReply) :
    driver.usbssIrqHandler bsp (usbStatusFor i isIn) reply =
      if i ≠ 0 then
        if isIn = false then
          driver.usb30EpOutHandler bsp i reply
        else
          { driver with toUsb2Driver := driver.usb30EpInHandler bsp (usb30EndpNum i) reply }
      else if isIn then
        driver.usb30Ep0In
      else if (driver.uepRxCtrl 0).getLsbD 30 = false then
        if (driver.uepRxCtrl 0).getLsbD 29 then driver.usb30Ep0Status else driver.usb30Ep0Out
      else
        driver.usb30SetupStage bsp reply := by
  obtain ⟨pending, endpoint, direction⟩ := usbStatusFor_reads i isIn
  unfold usbssIrqHandler
  dsimp only
  rw [pending, endpoint, direction]
  rfl

variable (driver)

def ep0Received (isSetup isStatus : Bool) : Usb30Driver :=
  driver.setUepRxCtrl 0 (Usb30Event.ep0RxCtrl isSetup isStatus)

theorem usbssIrqHandler_ep0Received (isSetup isStatus : Bool) (reply : UserReply) :
    (driver.ep0Received isSetup isStatus).usbssIrqHandler bsp (usbStatusFor 0 false) reply =
      if isSetup then
        (driver.ep0Received isSetup isStatus).usb30SetupStage bsp reply
      else if isStatus then
        (driver.ep0Received isSetup isStatus).usb30Ep0Status
      else
        (driver.ep0Received isSetup isStatus).usb30Ep0Out := by
  have flags : (driver.ep0Received isSetup isStatus).uepRxCtrl 0 =
      Usb30Event.ep0RxCtrl isSetup isStatus := setUepRxCtrl_self ..
  rw [usbssIrqHandler_eq, flags]
  cases isSetup with
  | false =>
      cases isStatus with
      | false => rfl
      | true => rfl
  | true =>
      cases isStatus with
      | false => rfl
      | true => rfl

def setupPending30 (packet : UsbSetup) : Usb30Driver :=
  ep0Received
    { driver with memory := storeBytes driver.memory driver.endp0Buffer packet.bytes } true false

theorem usbSetupBuf_setupPending30 (packet : UsbSetup) :
    (driver.setupPending30 packet).usbSetupBuf = packet :=
  readUsbSetup_storeBytes ..

theorem step_setup30 (packet : UsbSetup) (reply : UserReply) :
    Usb30Event.step bsp driver (.setup packet reply) =
      (driver.setupPending30 packet).usb30SetupStage bsp reply :=
  usbssIrqHandler_ep0Received bsp
    { driver with memory := storeBytes driver.memory driver.endp0Buffer packet.bytes } true false
    reply

theorem step_ep0In : Usb30Event.step bsp driver .ep0In = driver.usb30Ep0In :=
  driver.usbssIrqHandler_eq bsp 0 true noReply

theorem step_ep0Status :
    Usb30Event.step bsp driver .ep0Status = (driver.ep0Received false true).usb30Ep0Status :=
  usbssIrqHandler_ep0Received bsp driver false true noReply

theorem step_ep0Out :
    Usb30Event.step bsp driver .ep0Out = (driver.ep0Received false false).usb30Ep0Out :=
  usbssIrqHandler_ep0Received bsp driver false false noReply

/-! ## The events -/

theorem afterSetup_step (packet : UsbSetup) (reply : UserReply) :
    driver.AfterSetup packet (Usb30Event.step bsp driver (.setup packet reply)) := by
  have handled := (driver.setupPending30 packet).afterSetup_usb30SetupStage bsp reply
  rw [usbSetupBuf_setupPending30] at handled
  rw [step_setup30]
  exact ⟨handled.chart, handled.code, handled.address⟩

theorem chart_ep0In :
    (Usb30Event.step bsp driver .ep0In).chart = driver.chart ∧
      (Usb30Event.step bsp driver .ep0In).setupReqCode = driver.setupReqCode := by
  rw [step_ep0In]
  have handled : driver.ep0InHandler.2.chart = driver.chart ∧
      driver.ep0InHandler.2.setupReqCode = driver.setupReqCode := by
    unfold ep0InHandler
    split
    · exact ⟨rfl, rfl⟩
    · exact ⟨rfl, rfl⟩
  rw [← handled.1, ← handled.2]
  unfold usb30Ep0In chart
  dsimp only
  split
  · dsimp only [setUepTxCtrl, setUepRxCtrl, setUsbFcCtrl]
    exact ⟨rfl, rfl⟩
  · dsimp only [setUepTxCtrl, setUepRxCtrl, setUsbFcCtrl]
    exact ⟨rfl, rfl⟩

def statusMove : Move :=
  if driver.setupReqCode = usbSetAddress then
    .enterAddress (BitVec.ofNat 8 driver.setupLen)
  else
    .stay

theorem view_ep0StatusStageHandler :
    driver.ep0StatusStageHandler.view =
      { driver.view with chart := driver.statusMove.apply driver.chart } := by
  unfold ep0StatusStageHandler statusMove
  split
  · have address := usb30DeviceAddress_set driver.usbControl (BitVec.ofNat 32 driver.setupLen)
    have low : (BitVec.ofNat 32 driver.setupLen).setWidth 8 = BitVec.ofNat 8 driver.setupLen := by
      simp
    exact congrArg (fun address => Usb30View.mk ⟨.address, driver.device.currentConfig, address⟩
      driver.setupReqCode driver.setupLen) (address.trans low)
  · rfl

theorem view_ep0Status :
    (Usb30Event.step bsp driver .ep0Status).view =
      { driver.view with chart := driver.statusMove.apply driver.chart } := by
  rw [step_ep0Status]
  exact view_ep0StatusStageHandler (driver.ep0Received false true)

theorem view_ep0Out : (Usb30Event.step bsp driver .ep0Out).view = driver.view := by
  rw [step_ep0Out]
  rfl

end Usb30Driver

namespace Usb2Driver

theorem view_usb30EpInHandler (bsp : Usb2Bsp) (driver : Usb2Driver) (endpNum : Fin 16)
    (reply : UserReply) :
    (driver.usb30EpInHandler bsp endpNum reply).view = driver.view := by
  unfold usb30EpInHandler
  cases usb30EndpIndex endpNum with
  | none => rfl
  | some i =>
      dsimp only
      split
      · exact view_invoke bsp (driver.setUsb30 _) (.txComplete endpNum) reply
      · rfl

end Usb2Driver

namespace Usb30Driver

variable (bsp : Usb2Bsp) (driver : Usb30Driver) (i : Fin 8) (notControl : i ≠ 0) (ctrl : U32)
  (reply : UserReply)

theorem view_reportOut : (driver.reportOut bsp i reply).view = driver.view :=
  view_invokeUser bsp (driver.setUepRxCtrl i (usb30OutSet (driver.uepRxCtrl i) usb30Nrdy 0#32))
    (.rxCallback (usb30EndpNum i) (driver.device.rx (usb30EndpNum i)).buffer
      (driver.rxTotalLength i)) reply

theorem view_usb30EpOutHandler : (driver.usb30EpOutHandler bsp i reply).view = driver.view := by
  unfold usb30EpOutHandler
  dsimp only
  -- the status bit is set or it is not
  rw [if_pos]
  · exact view_reportOut ..
  · cases (driver.uepRxCtrl i).getLsbD 29 with
    | false => exact Or.inr (Or.inr rfl)
    | true => exact Or.inl rfl

theorem view_epIn :
    (Usb30Event.step bsp driver (.epIn i notControl ctrl reply)).view = driver.view := by
  have entered := usbssIrqHandler_eq bsp (driver.setUepTxCtrl i ctrl) i true reply
  rw [if_pos notControl] at entered
  exact (congrArg view entered).trans (view_of_usb2 (driver.setUepTxCtrl i ctrl)
    (Usb2Driver.view_usb30EpInHandler bsp _ (usb30EndpNum i) reply))

theorem view_epOut :
    (Usb30Event.step bsp driver (.epOut i notControl ctrl reply)).view = driver.view := by
  have entered := usbssIrqHandler_eq bsp (driver.setUepRxCtrl i ctrl) i false reply
  rw [if_pos notControl] at entered
  exact (congrArg view entered).trans
    (view_usb30EpOutHandler bsp (driver.setUepRxCtrl i ctrl) i reply)

theorem view_call (apiCall : ApiCall) :
    (Usb30Event.step bsp driver (.call apiCall)).view = driver.view :=
  driver.view_of_usb2 (Usb2Driver.view_of_fixed _ (driver.toUsb2Driver.fixed_call bsp apiCall))

end Usb30Driver

/-! ## The link -/

/-- The link takes the device out of states and may clear the address. -/
structure Relinks (before after : Usb30View) : Prop where
  state : after.chart.state = before.chart.state ∨ after.chart.state ≠ .address
  currentConfig : after.chart.currentConfig = before.chart.currentConfig
  address : after.chart.address = before.chart.address ∨ after.chart.address = 0#8
  code : after.setupReqCode = before.setupReqCode
  setupLen : after.setupLen = before.setupLen

theorem Relinks.refl (view : Usb30View) : Relinks view view :=
  ⟨.inl rfl, rfl, .inl rfl, rfl, rfl⟩

theorem Relinks.trans {before middle after : Usb30View} (first : Relinks before middle)
    (second : Relinks middle after) : Relinks before after where
  state := by
    rcases second.state with same | left
    · rw [same]
      exact first.state
    · exact .inr left
  currentConfig := second.currentConfig.trans first.currentConfig
  address := by
    rcases second.address with same | cleared
    · rw [same]
      exact first.address
    · exact .inr cleared
  code := second.code.trans first.code
  setupLen := second.setupLen.trans first.setupLen

namespace Usb30Driver

variable (driver : Usb30Driver)

theorem relinks_whenFlag (flag : Bool) {branch : Usb30Driver → Usb30Driver}
    (relinks : Relinks driver.view (branch driver).view) :
    Relinks driver.view (driver.whenFlag flag branch).view := by
  cases flag with
  | false => exact .refl _
  | true => exact relinks

theorem view_usb30DeviceInit (enableUsb2Fallback : Bool) :
    (driver.usb30DeviceInit enableUsb2Fallback).view =
      { driver.view with chart := { driver.chart with address := 0#8 } } := by
  have cleared : usb30DeviceAddress 0x30021#32 = 0#8 := by decide
  rw [usb30DeviceInit, view_usb30InitEndpoints, ← cleared]
  rfl

theorem relinks_linkReady : Relinks driver.view driver.linkReady.view := by
  unfold linkReady
  split
  · exact ⟨.inr UsbDeviceState.noConfusion, rfl, .inl rfl, rfl, rfl⟩
  · exact .refl _

theorem relinks_setState {state : UsbDeviceState} (left : state ≠ .address) :
    Relinks driver.view (driver.setState state).view := ⟨.inr left, rfl, .inl rfl, rfl, rfl⟩

theorem relinks_usb30DeviceInit (enableUsb2Fallback : Bool) :
    Relinks driver.view (driver.usb30DeviceInit enableUsb2Fallback).view := by
  rw [view_usb30DeviceInit]
  exact ⟨.inl rfl, rfl, .inr rfl, rfl, rfl⟩

theorem relinks_usb30DeviceDeinit : Relinks driver.view driver.usb30DeviceDeinit.view :=
  ⟨.inl rfl, rfl, .inr (show usb30DeviceAddress 0x6#32 = 0#8 by decide), rfl, rfl⟩

theorem relinks_linkRetry : Relinks driver.view driver.linkRetry.view :=
  ((driver.relinks_setState UsbDeviceState.noConfusion).trans (relinks_usb30DeviceDeinit _)).trans
    (relinks_usb30DeviceInit _ false)

theorem relinks_usb2DeviceInit :
    Relinks driver.view (view { driver with toUsb2Driver := driver.usb2DeviceInit }) := by
  have initialized := driver.toUsb2Driver.view_usb2DeviceInit
  have state := congrArg (fun view : Usb2View => view.chart.state) initialized
  have config := congrArg (fun view : Usb2View => view.chart.currentConfig) initialized
  exact ⟨.inr fun address => UsbDeviceState.noConfusion (state.symm.trans address), config, .inl rfl,
    rfl, rfl⟩

theorem relinks_linkFallback : Relinks driver.view driver.linkFallback.view := by
  have detached := (driver.relinks_setState (show UsbDeviceState.detached ≠ .address from
    UsbDeviceState.noConfusion)).trans (relinks_usb30DeviceDeinit _)
  have again := detached.trans (relinks_usb2DeviceInit _)
  unfold linkFallback
  dsimp only
  split
  · exact again
  · exact again
  · exact again
  · exact detached
  · exact detached

theorem relinks_usb30BusReset : Relinks driver.view driver.usb30BusReset.view :=
  driver.relinks_usb30DeviceDeinit.trans (relinks_usb30DeviceInit ..)

theorem relinks_linkTermPresent (linkPresent : Bool) :
    Relinks driver.view (driver.linkTermPresent linkPresent).view := by
  cases linkPresent with
  | false =>
      exact driver.relinks_usb30BusReset.trans (relinks_setState _ UsbDeviceState.noConfusion)
  | true => exact .refl _

theorem address_setAddress_zero : (driver.setAddress 0#32).chart.address = 0#8 :=
  usb30DeviceAddress_set driver.usbControl 0#32

theorem relinks_setAddress_zero : Relinks driver.view (driver.setAddress 0#32).view :=
  ⟨.inl rfl, rfl, .inr driver.address_setAddress_zero, rfl, rfl⟩

theorem relinks_linkWarmReset : Relinks driver.view driver.linkWarmReset.view :=
  driver.relinks_usb30BusReset.trans (relinks_setAddress_zero _)

theorem view_notReady (i : Fin 8) : (driver.notReady i).view = driver.view := by
  have first (enabled : Prop) [Decidable enabled] : view
      (if enabled then
        driver.setUepTxCtrl i
          (usb30InSet (driver.usb30.uepTxCtrl i) usb30Disable usb30Nrdy 0#32 0#32)
      else
        driver) = driver.view := by
    split
    · rfl
    · rfl
  have inBlock := first (EnabledIn driver.device.endpointMask .tx (usb30EndpNum i))
  unfold notReady
  dsimp only
  split
  · exact inBlock
  · exact inBlock

/-- Setting an address overwrites the one that was there. -/
theorem view_setAddress_zero :
    (driver.setAddress 0#32).view =
      { driver.view with chart := { driver.chart with address := 0#8 } } := by
  rw [← driver.address_setAddress_zero]
  rfl

theorem view_linkHotReset :
    driver.linkHotReset.view =
      { driver.view with chart := { driver.chart with address := 0#8 } } := by
  have folded := foldl_keeps (setUepTxCtrl
    { driver with usbControl := driver.usbControl ||| (1#32 <<< 31) } 0 0#32) view view_notReady
      usb30Endpoints
  exact (view_setAddress_zero _).trans (congrArg (fun view : Usb30View =>
    { view with chart := { view.chart with address := 0#8 } }) folded)

theorem relinks_linkHotReset : Relinks driver.view driver.linkHotReset.view := by
  rw [view_linkHotReset]
  exact ⟨.inl rfl, rfl, .inr rfl, rfl, rfl⟩

theorem relinks_linkChanges (interrupt : LinkInterrupt) :
    Relinks driver.view (driver.linkChanges interrupt).view := by
  unfold linkChanges
  refine ((Relinks.trans ?_ (relinks_whenFlag _ _ ?_)).trans (relinks_whenFlag _ _ ?_)).trans
    (relinks_whenFlag _ _ ?_)
  · exact driver.relinks_whenFlag _ (driver.relinks_linkTermPresent _)
  · exact .refl _
  · exact relinks_linkWarmReset _
  · exact relinks_linkHotReset _

theorem relinks_linkIrqHandler (interrupt : LinkInterrupt) :
    Relinks driver.view (driver.linkIrqHandler interrupt).view := by
  have ready := driver.relinks_whenFlag interrupt.ready driver.relinks_linkReady
  unfold linkIrqHandler
  dsimp only
  split
  · split
    · exact (ready.trans (relinks_linkFallback _)).trans (relinks_linkChanges _ interrupt)
    · exact ready.trans (relinks_linkRetry _)
  · exact ready.trans (relinks_linkChanges _ interrupt)

end Usb30Driver

namespace Usb30Event

/-- The warm and the hot reset are the bus resets of a USB3 link. -/
def stage (request : Option UsbSetup) : Usb30Event → Stage
  | .setup packet _ => .setup packet
  | .ep0Status =>
      match request with
      | some request => .status request
      | none => .other
  | .link interrupt => if interrupt.warmReset || interrupt.hotReset then .busReset else .other
  | .ep0In | .ep0Out | .epIn _ _ _ _ | .epOut _ _ _ _ | .call _ => .other

def IsLink : Usb30Event → Prop
  | .link _ => True
  | _ => False

instance : (event : Usb30Event) → Decidable event.IsLink
  | .link _ => inferInstanceAs (Decidable True)
  | .setup _ _ | .ep0In | .ep0Status | .ep0Out | .epIn _ _ _ _ | .epOut _ _ _ _ | .call _ =>
      inferInstanceAs (Decidable False)

end Usb30Event

/-- The move of an event of the endpoints. -/
def Usb30Driver.move (driver : Usb30Driver) : Usb30Event → Move
  | .setup packet _ => requestMove packet
  | .ep0Status => driver.statusMove
  | _ => .stay

theorem Usb30Driver.chart_step (bsp : Usb2Bsp) (driver : Usb30Driver) {event : Usb30Event}
    (notLink : ¬event.IsLink) :
    (event.step bsp driver).chart = (driver.move event).apply driver.chart := by
  cases event with
  | setup packet reply => exact (driver.afterSetup_step bsp packet reply).chart
  | ep0In => exact (driver.chart_ep0In bsp).1
  | ep0Status => exact congrArg Usb30View.chart (driver.view_ep0Status bsp)
  | ep0Out => exact congrArg Usb30View.chart (driver.view_ep0Out bsp)
  | epIn i notControl ctrl reply =>
      exact congrArg Usb30View.chart (driver.view_epIn bsp i notControl ctrl reply)
  | epOut i notControl ctrl reply =>
      exact congrArg Usb30View.chart (driver.view_epOut bsp i notControl ctrl reply)
  | link interrupt => exact absurd trivial notLink
  | call apiCall => exact congrArg Usb30View.chart (driver.view_call bsp apiCall)

/-- An event with the request that it belongs to. -/
def Usb30Event.serve (bsp : Usb2Bsp) (session : Session Usb30Driver) (event : Usb30Event) :
    Option (Session Usb30Driver) :=
  some
    { driver := event.step bsp session.driver
      request := match event with
        | .setup packet _ => some packet
        | _ => session.request }

end WchCh56x.Usb
