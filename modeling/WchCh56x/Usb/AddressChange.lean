import WchCh56x.Support.Runs
import WchCh56x.Usb.Usb30Chart

/-!
# Who changes the address

Both backends program the address in the status stage of a request with the number
of SET_ADDRESS.  They look at the number alone, which other requests may share.
-/

namespace WchCh56x.Usb.AddressChange

open Support.Runs

/-- The address stays, and the device does not enter ADDRESS. -/
structure Quiet (before after : Chart) : Prop where
  address : after.address = before.address
  state : after.state = .address → before.state = .address

/-- What an event may do to the address. -/
def FollowsAddress (before after : Chart) : Stage → Prop
  | .status request =>
      if request.IsSetAddress then
        after.address = before.address ∨ after.address = request.wValue.bb1
      else
        Quiet before after
  | .busReset => after.address = 0#8 ∧ (after.state = .address → before.state = .address)
  | .setup _ | .other => Quiet before after

/-! ## The moves -/

section Moves

variable {chart : Chart}

theorem quiet_stay : Quiet chart (Move.stay.apply chart) := ⟨rfl, id⟩

theorem quiet_configure (value : U8) : Quiet chart ((Move.configure value).apply chart) := by
  unfold Move.apply
  dsimp only
  split
  · exact ⟨rfl, UsbDeviceState.noConfusion⟩
  · exact ⟨rfl, id⟩

theorem quiet_enterAddress (address : U8) :
    Quiet chart ((Move.enterAddress address).apply chart) ↔
      address = chart.address ∧ chart.state = .address :=
  ⟨fun quiet => ⟨quiet.address, quiet.state rfl⟩, fun same => ⟨same.1, fun _ => same.2⟩⟩

theorem followsAddress_stay {stage : Stage} (notReset : stage ≠ .busReset) :
    FollowsAddress chart (Move.stay.apply chart) stage := by
  cases stage with
  | setup packet => exact quiet_stay
  | status request =>
      unfold FollowsAddress
      dsimp only
      split
      · exact .inl rfl
      · exact quiet_stay
  | busReset => exact absurd rfl notReset
  | other => exact quiet_stay

/-- A request enters ADDRESS with its own address, or with the one that was there. -/
theorem followsAddress_enterAddress (request : UsbSetup) (address : U8) :
    FollowsAddress chart ((Move.enterAddress address).apply chart) (.status request) ↔
      if request.IsSetAddress then
        address = chart.address ∨ address = request.wValue.bb1
      else
        address = chart.address ∧ chart.state = .address := by
  unfold FollowsAddress
  dsimp only
  split
  · exact Iff.rfl
  · exact quiet_enterAddress address

end Moves

/-! ## USB2 -/

section Usb2

variable (bsp : Usb2Bsp)

def Usb2FollowsAddress (session : Session Usb2Driver) (event : Usb2Event) : Prop :=
  FollowsAddress session.driver.chart (event.step bsp session.driver).chart
    (event.stage session.request)

/-- Packets of endpoint 0 belong to a request. -/
def Usb2Issued (session : Session Usb2Driver) : Usb2Event → Prop
  | .inDone endpNum _ => endpNum = 0 → session.request ≠ none
  | .setup _ _ | .outDone _ _ _ _ | .nak _ _ | .busReset _ | .call _ => True

instance (session : Session Usb2Driver) : (event : Usb2Event) → Decidable (Usb2Issued session event)
  | .inDone _ _ => inferInstanceAs (Decidable (_ → _))
  | .setup _ _ | .outDone _ _ _ _ | .nak _ _ | .busReset _ | .call _ =>
      inferInstanceAs (Decidable True)

/-- No other request with the number of SET_ADDRESS ends with an address that differs. -/
def Usb2AsksForAddress (session : Session Usb2Driver) : Usb2Event → Prop
  | .inDone endpNum _ =>
      let request := session.driver.usbSetupReq
      endpNum = 0 → session.driver.device.state ≠ .powered →
        session.driver.ep0PassthroughEnabled = false → ¬request.IsIn →
          request.bRequest = usbSetAddress → session.driver.device.addr ≤ 0x7f#8 →
            request.IsStandard ∨ session.driver.device.addr = session.driver.chart.address ∧
              session.driver.chart.state = .address
  | .setup _ _ | .outDone _ _ _ _ | .nak _ _ | .busReset _ | .call _ => True

instance (session : Session Usb2Driver) :
    (event : Usb2Event) → Decidable (Usb2AsksForAddress session event)
  | .inDone _ _ => inferInstanceAs (Decidable (_ → _))
  | .setup _ _ | .outDone _ _ _ _ | .nak _ _ | .busReset _ | .call _ =>
      inferInstanceAs (Decidable True)

/-- The backend serves the request of the host, and has stored its address. -/
def Usb2Serves (session : Session Usb2Driver) : Prop :=
  ∀ request ∈ session.request, session.driver.device.state ≠ .powered →
    session.driver.usbSetupReq = request ∧
      (session.driver.ep0PassthroughEnabled = false → request.IsSetAddress →
        session.driver.device.addr = request.wValue.bb1)

variable {session : Session Usb2Driver}

theorem usb2FollowsAddress_inDone (serves : Usb2Serves session) (endpNum : Fin 16)
    (reply : UserReply) (issued : endpNum = 0 → session.request ≠ none) :
    Usb2FollowsAddress bsp session (.inDone endpNum reply) ↔
      Usb2AsksForAddress session (.inDone endpNum reply) := by
  have notReset : Usb2Event.stage session.request (.inDone endpNum reply) ≠ .busReset := by
    unfold Usb2Event.stage
    dsimp only
    split
    · split
      · nofun
      · nofun
    · nofun
  unfold Usb2FollowsAddress Usb2AsksForAddress
  rw [Usb2Driver.chart_step]
  unfold Usb2Driver.move
  dsimp only
  split
  · next apart =>
      refine iff_of_true (followsAddress_stay notReset) fun control running off => ?_
      rcases apart with powered | other | on
      · exact absurd powered running
      · exact absurd control other
      · exact absurd (off.symm.trans on) Bool.false_ne_true
  · next control =>
      obtain ⟨running, isControl⟩ := not_or.mp control
      obtain ⟨isControl, off⟩ := not_or.mp isControl
      obtain rfl := Decidable.not_not.mp isControl
      obtain ⟨request, isRequest⟩ := Option.ne_none_iff_exists'.mp (issued rfl)
      obtain ⟨served, stored⟩ := serves request isRequest running
      have stored := stored (Bool.eq_false_iff.mpr off)
      by_cases enters : ¬request.IsIn ∧ request.bRequest = usbSetAddress ∧
          session.driver.device.addr ≤ 0x7f#8
      · have moves : session.driver.statusMove = .enterAddress session.driver.device.addr := by
          rw [Usb2Driver.statusMove, served, if_pos enters]
        have stage : Usb2Event.stage session.request (.inDone 0 reply) = .status request := by
          rw [isRequest]
          exact if_pos ⟨rfl, enters.1⟩
        rw [moves, stage, followsAddress_enterAddress, served]
        by_cases standard : request.IsStandard
        · have isSet : request.IsSetAddress := ⟨standard, enters.2.1⟩
          rw [if_pos isSet]
          exact iff_of_true (.inr (stored isSet)) fun _ _ _ _ _ _ => .inl standard
        · rw [if_neg fun isSet : request.IsSetAddress => standard isSet.1]
          constructor
          · intro same _ _ _ _ _ _
            exact .inr same
          · intro asks
            exact (asks rfl running (Bool.eq_false_iff.mpr off) enters.1 enters.2.1
              enters.2.2).resolve_left standard
      · have stays : session.driver.statusMove = .stay := by
          rw [Usb2Driver.statusMove, served, if_neg enters]
        rw [stays, served]
        exact iff_of_true (followsAddress_stay notReset) fun _ _ _ isOut isAddress small =>
          absurd ⟨isOut, isAddress, small⟩ enters

theorem usb2FollowsAddress_iff (serves : Usb2Serves session) {event : Usb2Event}
    (issued : Usb2Issued session event) :
    Usb2FollowsAddress bsp session event ↔ Usb2AsksForAddress session event := by
  have quiet {event : Usb2Event} (isOther : event.stage session.request = .other)
      (stays : session.driver.move event = .stay) : Usb2FollowsAddress bsp session event := by
    unfold Usb2FollowsAddress
    rw [Usb2Driver.chart_step, isOther, stays]
    exact quiet_stay
  cases event with
  | setup packet reply =>
      refine iff_of_true ?_ trivial
      unfold Usb2FollowsAddress
      rw [Usb2Driver.chart_step]
      unfold Usb2Driver.move Usb2Driver.requestMove
      dsimp only
      split
      · exact quiet_stay
      · split
        · exact quiet_configure packet.wValue.bb1
        · exact quiet_stay
  | inDone endpNum reply => exact usb2FollowsAddress_inDone bsp serves endpNum reply issued
  | outDone endpNum numBytesReceived togok reply => exact iff_of_true (quiet rfl rfl) trivial
  | nak endpNum reply => exact iff_of_true (quiet rfl rfl) trivial
  | call apiCall => exact iff_of_true (quiet rfl rfl) trivial
  | busReset reply =>
      refine iff_of_true ?_ trivial
      unfold Usb2FollowsAddress
      rw [Usb2Driver.chart_step]
      exact ⟨rfl, UsbDeviceState.noConfusion⟩

/-- The session after an event. -/
theorem usb2Serves_step (serves : Usb2Serves session) (event : Usb2Event)
    {next : Session Usb2Driver} (stepped : Usb2Event.serve bsp session event = some next) :
    Usb2Serves next := by
  obtain rfl := Option.some.inj stepped
  intro request isRequest running
  have off := congrArg Config.ep0PassthroughEnabled (config_step bsp session.driver event)
  have kept (notSetup : ∀ packet reply, event ≠ .setup packet reply)
      (notReset : ∀ reply, event ≠ .busReset reply) (isRequest : request ∈ session.request) :
      (event.step bsp session.driver).usbSetupReq = request ∧
        ((event.step bsp session.driver).ep0PassthroughEnabled = false → request.IsSetAddress →
          (event.step bsp session.driver).device.addr = request.wValue.bb1) := by
    obtain ⟨served, stored⟩ := serves request isRequest
      (Usb2Driver.running_of_step bsp notReset running)
    refine ⟨(session.driver.request_step bsp notSetup).trans served, fun passthrough isSet => ?_⟩
    exact (session.driver.addr_step bsp notSetup notReset).trans
      (stored (off.symm.trans passthrough) isSet)
  cases event with
  | setup packet reply =>
      obtain rfl := Option.mem_some_iff.mp isRequest
      have wasRunning := @Usb2Driver.running_of_step bsp session.driver (.setup packet reply)
        (fun _ => nofun) running
      obtain ⟨served, stored⟩ := Usb2Driver.request_step_setup bsp wasRunning packet reply
      refine ⟨served, fun passthrough isSet => ?_⟩
      rw [stored (off.symm.trans passthrough)]
      exact if_pos ⟨isSet.1.treatedAsStandard, isSet.2⟩
  | busReset reply => exact absurd isRequest (Option.not_mem_none request)
  | inDone endpNum reply => exact kept (fun _ _ => nofun) (fun _ => nofun) isRequest
  | outDone endpNum numBytesReceived togok reply =>
      exact kept (fun _ _ => nofun) (fun _ => nofun) isRequest
  | nak endpNum reply => exact kept (fun _ _ => nofun) (fun _ => nofun) isRequest
  | call apiCall => exact kept (fun _ _ => nofun) (fun _ => nofun) isRequest

end Usb2

/-! ## USB3 -/

section Usb30

variable (bsp : Usb2Bsp)

/-- The link may clear the address; its bus resets do. -/
structure LinkFollows (before after : Chart) (stage : Stage) : Prop where
  address : after.address = before.address ∨ after.address = 0#8
  cleared : stage = .busReset → after.address = 0#8
  state : after.state = .address → before.state = .address

def Usb30FollowsAddress (session : Session Usb30Driver) (event : Usb30Event) : Prop :=
  if event.IsLink then
    LinkFollows session.driver.chart (event.step bsp session.driver).chart
      (event.stage session.request)
  else
    FollowsAddress session.driver.chart (event.step bsp session.driver).chart
      (event.stage session.request)

/-- Status stages belong to a request. -/
def Usb30Issued (session : Session Usb30Driver) : Usb30Event → Prop
  | .ep0Status => session.request ≠ none
  | _ => True

instance (session : Session Usb30Driver) :
    (event : Usb30Event) → Decidable (Usb30Issued session event)
  | .ep0Status => inferInstanceAs (Decidable (_ ≠ _))
  | .setup _ _ | .ep0In | .ep0Out | .epIn _ _ _ _ | .epOut _ _ _ _ | .link _ | .call _ =>
      inferInstanceAs (Decidable True)

/-- SET_ADDRESS finds its address in `SetupLen`; another request with its number finds the address
that is programmed already. -/
def Usb30AsksForAddress (session : Session Usb30Driver) : Usb30Event → Prop
  | .ep0Status =>
      let pending := BitVec.ofNat 8 session.driver.setupLen
      session.driver.setupReqCode = usbSetAddress → ∀ request ∈ session.request,
        (request.IsStandard → pending = session.driver.chart.address ∨ pending = request.wValue.bb1) ∧
          (¬request.IsStandard → pending = session.driver.chart.address ∧
            session.driver.chart.state = .address)
  | _ => True

instance (session : Session Usb30Driver) :
    (event : Usb30Event) → Decidable (Usb30AsksForAddress session event)
  | .ep0Status => inferInstanceAs (Decidable (_ → ∀ _ ∈ _, (_ → _) ∧ (_ → _)))
  | .setup _ _ | .ep0In | .ep0Out | .epIn _ _ _ _ | .epOut _ _ _ _ | .link _ | .call _ =>
      inferInstanceAs (Decidable True)

/-- The backend remembers whether the request has the number of SET_ADDRESS. -/
def Usb30Serves (session : Session Usb30Driver) : Prop :=
  ∀ request ∈ session.request,
    session.driver.setupReqCode = usbSetAddress ↔ request.bRequest = usbSetAddress

variable {session : Session Usb30Driver}

theorem usb30FollowsAddress_of_endpoints {event : Usb30Event} (notLink : ¬event.IsLink) :
    Usb30FollowsAddress bsp session event ↔
      FollowsAddress session.driver.chart ((session.driver.move event).apply session.driver.chart)
        (event.stage session.request) := by
  rw [← Usb30Driver.chart_step bsp session.driver notLink]
  exact iff_of_eq (if_neg notLink)

theorem usb30FollowsAddress_ep0Status (serves : Usb30Serves session)
    (issued : session.request ≠ none) :
    Usb30FollowsAddress bsp session .ep0Status ↔ Usb30AsksForAddress session .ep0Status := by
  obtain ⟨request, isRequest⟩ := Option.ne_none_iff_exists'.mp issued
  have code := serves request isRequest
  have stage : Usb30Event.stage session.request .ep0Status = .status request := by
    rw [isRequest]
    rfl
  rw [usb30FollowsAddress_of_endpoints bsp id, stage]
  unfold Usb30AsksForAddress Usb30Driver.move
  dsimp only
  by_cases enters : session.driver.setupReqCode = usbSetAddress
  · have moves : session.driver.statusMove =
        .enterAddress (BitVec.ofNat 8 session.driver.setupLen) := if_pos enters
    rw [moves, followsAddress_enterAddress]
    by_cases standard : request.IsStandard
    · have isSet : request.IsSetAddress := ⟨standard, code.mp enters⟩
      rw [if_pos isSet]
      constructor
      · intro stored _ other isOther
        obtain rfl := Option.some.inj (isRequest.symm.trans isOther)
        exact ⟨fun _ => stored, fun notStandard => absurd standard notStandard⟩
      · intro asks
        exact (asks enters request isRequest).1 standard
    · rw [if_neg fun isSet : request.IsSetAddress => standard isSet.1]
      constructor
      · intro same _ other isOther
        obtain rfl := Option.some.inj (isRequest.symm.trans isOther)
        exact ⟨fun is => absurd is standard, fun _ => same⟩
      · intro asks
        exact (asks enters request isRequest).2 standard
  · have stays : session.driver.statusMove = .stay := if_neg enters
    rw [stays]
    exact iff_of_true (followsAddress_stay nofun) fun isAddress => absurd isAddress enters

theorem address_linkChanges {driver : Usb30Driver} {interrupt : Usb30Driver.LinkInterrupt}
    (reset : (interrupt.warmReset || interrupt.hotReset) = true) :
    (driver.linkChanges interrupt).chart.address = 0#8 := by
  unfold Usb30Driver.linkChanges
  cases hot : interrupt.hotReset with
  | true => exact congrArg (fun view : Usb30View => view.chart.address) (Usb30Driver.view_linkHotReset _)
  | false =>
      rw [hot, Bool.or_false] at reset
      rw [reset]
      exact Usb30Driver.address_setAddress_zero _

theorem address_linkIrqHandler {driver : Usb30Driver} {interrupt : Usb30Driver.LinkInterrupt}
    (reset : (interrupt.warmReset || interrupt.hotReset) = true) :
    (driver.linkIrqHandler interrupt).chart.address = 0#8 := by
  unfold Usb30Driver.linkIrqHandler
  dsimp only
  split
  · split
    · exact address_linkChanges reset
    · exact congrArg (fun view : Usb30View => view.chart.address)
        (Usb30Driver.view_usb30DeviceInit _ false)
  · exact address_linkChanges reset

theorem usb30FollowsAddress_iff (serves : Usb30Serves session) {event : Usb30Event}
    (issued : Usb30Issued session event) :
    Usb30FollowsAddress bsp session event ↔ Usb30AsksForAddress session event := by
  have quiet {event : Usb30Event} (notLink : ¬event.IsLink)
      (isOther : event.stage session.request = .other)
      (stays : session.driver.move event = .stay) : Usb30FollowsAddress bsp session event := by
    rw [usb30FollowsAddress_of_endpoints bsp notLink, isOther, stays]
    exact quiet_stay
  cases event with
  | setup packet reply =>
      refine iff_of_true ((usb30FollowsAddress_of_endpoints bsp id).mpr ?_) trivial
      unfold Usb30Driver.move Usb30Driver.requestMove
      dsimp only
      split
      · exact quiet_configure packet.wValue.bb1
      · exact quiet_stay
  | ep0Status => exact usb30FollowsAddress_ep0Status bsp serves issued
  | ep0In => exact iff_of_true (quiet id rfl rfl) trivial
  | ep0Out => exact iff_of_true (quiet id rfl rfl) trivial
  | epIn i notControl ctrl reply => exact iff_of_true (quiet id rfl rfl) trivial
  | epOut i notControl ctrl reply => exact iff_of_true (quiet id rfl rfl) trivial
  | link interrupt =>
      have relinks := session.driver.relinks_linkIrqHandler interrupt
      refine iff_of_true ⟨relinks.address, fun isReset => ?_, fun entered => ?_⟩ trivial
      · refine address_linkIrqHandler ?_
        by_contra other
        exact Stage.noConfusion ((if_neg other).symm.trans isReset)
      · exact (relinks.state.resolve_right (not_not.mpr entered)).symm.trans entered
  | call apiCall => exact iff_of_true (quiet id rfl rfl) trivial

theorem usb30Serves_step (serves : Usb30Serves session) (event : Usb30Event)
    {next : Session Usb30Driver} (stepped : Usb30Event.serve bsp session event = some next) :
    Usb30Serves next := by
  obtain rfl := Option.some.inj stepped
  intro request isRequest
  have kept (same : (event.step bsp session.driver).setupReqCode = session.driver.setupReqCode)
      (isRequest : request ∈ session.request) :
      (event.step bsp session.driver).setupReqCode = usbSetAddress ↔
        request.bRequest = usbSetAddress := by
    rw [same]
    exact serves request isRequest
  cases event with
  | setup packet reply =>
      obtain rfl := Option.mem_some_iff.mp isRequest
      exact (session.driver.afterSetup_step bsp packet reply).code
  | ep0In => exact kept (session.driver.chart_ep0In bsp).2 isRequest
  | ep0Status => exact kept (congrArg Usb30View.setupReqCode (session.driver.view_ep0Status bsp)) isRequest
  | ep0Out => exact kept (congrArg Usb30View.setupReqCode (session.driver.view_ep0Out bsp)) isRequest
  | epIn i notControl ctrl reply =>
      exact kept (congrArg Usb30View.setupReqCode
        (session.driver.view_epIn bsp i notControl ctrl reply)) isRequest
  | epOut i notControl ctrl reply =>
      exact kept (congrArg Usb30View.setupReqCode
        (session.driver.view_epOut bsp i notControl ctrl reply)) isRequest
  | link interrupt => exact kept (session.driver.relinks_linkIrqHandler interrupt).code isRequest
  | call apiCall => exact kept (congrArg Usb30View.setupReqCode (session.driver.view_call bsp apiCall)) isRequest

end Usb30

/-! ## Runs -/

def tog1Bit3 : Usb2Bsp := .bit3

/-- An OUT request without data, with the number of SET_ADDRESS. -/
def numberedSetAddress (bRequestType address : U8) : UsbSetup :=
  ⟨bRequestType, usbSetAddress, ⟨address, 0#8⟩, ⟨0#8, 0#8⟩, 0#16⟩

end WchCh56x.Usb.AddressChange
