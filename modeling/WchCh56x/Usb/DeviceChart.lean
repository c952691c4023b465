import WchCh56x.Usb.EventFrames

/-!
# The state chart of the device

State, configuration and address move by a few requests and by resets.  A backend
remembers what the status stage of SET_ADDRESS will need.
-/

namespace WchCh56x.Usb

structure Chart where
  state : UsbDeviceState
  currentConfig : U8
  address : U8
  deriving DecidableEq, Repr

inductive Move where
  | stay
  | configure (value : U8)
  | enterAddress (address : U8)
  /-- A reset into a state, which may clear the address. -/
  | reset (state : UsbDeviceState) (clears : Bool)
  deriving DecidableEq, Repr

def Move.apply (chart : Chart) : Move → Chart
  | .stay => chart
  | .configure value =>
      { chart with
        currentConfig := value
        state := if value ≠ 0#8 then .configured else chart.state }
  | .enterAddress address => { chart with state := .address, address := address }
  | .reset state clears =>
      { chart with state := state, address := if clears then 0#8 else chart.address }

theorem Move.apply_configure_of_ne (chart : Chart) {value : U8} (selected : value ≠ 0#8) :
    (Move.configure value).apply chart =
      { chart with currentConfig := value, state := .configured } := by
  rw [Move.apply, if_pos selected]

theorem Move.apply_configure_of_eq (chart : Chart) {value : U8} (none : ¬ value ≠ 0#8) :
    (Move.configure value).apply chart = { chart with currentConfig := value } := by
  rw [Move.apply, if_neg none]

/-- A device that runs is not powered down by a move that resets it to another state. -/
theorem Move.not_powered {chart : Chart} {move : Move} (running : chart.state ≠ .powered)
    (elsewhere : ∀ state clears, move = .reset state clears → state ≠ .powered) :
    (move.apply chart).state ≠ .powered := by
  cases move with
  | stay => exact running
  | configure value =>
      unfold Move.apply
      dsimp only
      split
      · exact UsbDeviceState.noConfusion
      · exact running
  | enterAddress address => exact UsbDeviceState.noConfusion
  | reset state clears => exact elsewhere state clears rfl

/-! ## Requests and their stages -/

/-- A driver with the request of the last SETUP packet, which a bus reset ends. -/
structure Session (Driver : Type) where
  driver : Driver
  request : Option UsbSetup

def usb2Idle : Session Usb2Driver := ⟨Usb2Driver.initial usbDevice0 fun _ => 0#8, none⟩

def UsbSetup.IsSetAddress (setup : UsbSetup) : Prop :=
  setup.IsStandard ∧ setup.bRequest = usbSetAddress

instance (setup : UsbSetup) : Decidable setup.IsSetAddress := inferInstanceAs (Decidable (_ ∧ _))

def UsbSetup.IsSetConfiguration (setup : UsbSetup) : Prop :=
  setup.IsStandard ∧ setup.bRequest = usbSetConfiguration

instance (setup : UsbSetup) : Decidable setup.IsSetConfiguration :=
  inferInstanceAs (Decidable (_ ∧ _))

/-- What an event is to the requests of the host. -/
inductive Stage where
  | setup (packet : UsbSetup)
  | status (request : UsbSetup)
  | busReset
  | other
  deriving DecidableEq, Repr

/-! ## USB2 -/

/-- The chart, the pending address and the request that is being served. -/
structure Usb2View where
  chart : Chart
  addr : U8
  request : UsbSetup
  deriving DecidableEq, Repr

namespace Usb2Driver

variable (bsp : Usb2Bsp) (driver : Usb2Driver)

def chart : Chart := ⟨driver.device.state, driver.device.currentConfig, driver.devAd⟩

def view : Usb2View := ⟨driver.chart, driver.device.addr, driver.usbSetupReq⟩

theorem view_of_fixed {other : Usb2Driver} (same : other.fixed = driver.fixed) :
    other.view = driver.view :=
  congrArg (fun fixed : Fixed =>
    (⟨⟨fixed.state, fixed.currentConfig, fixed.devAd⟩, fixed.addr, fixed.usbSetupReq⟩ :
      Usb2View)) same

theorem view_invoke (userCall : UserCall) (reply : UserReply) :
    (driver.invoke bsp userCall reply).view = driver.view :=
  view_of_fixed { driver with userCalls := driver.userCalls ++ [userCall] }
    (driver.fixed_invoke bsp userCall reply)

theorem apart_view : ApartFromTransfers view where
  registers _ _ _ _ _ _ _ := rfl
  rxState _ _ _ := rfl

theorem view_usb2InTransferHandler (endpNum : Fin 16) (reply : UserReply) :
    (driver.usb2InTransferHandler bsp endpNum reply).view = driver.view :=
  apart_view.usb2InTransferHandler bsp (view_invoke ..)

theorem view_usb2OutTransferHandler (endpNum : Fin 16) (numBytesReceived : Nat)
    (reply : UserReply) :
    (driver.usb2OutTransferHandler bsp endpNum numBytesReceived reply).view = driver.view :=
  apart_view.usb2OutTransferHandler bsp fun _ => view_invoke ..

theorem view_usb2SetupEndpoints : driver.usb2SetupEndpoints.view = driver.view :=
  (congrArg view (usb2SetupEndpoints_changes driver)).trans rfl

theorem view_usb2DeviceInit :
    driver.usb2DeviceInit.view =
      ⟨⟨.powered, driver.device.currentConfig, driver.devAd⟩, 0#8, driver.usbSetupReq⟩ := by
  unfold usb2DeviceInit
  dsimp only
  rw [view_usb2SetupEndpoints]
  rfl

/-- The move of a request that the backend handles itself. -/
def requestMove (request : UsbSetup) : Move :=
  if request.TreatedAsStandard ∧ request.bRequest = usbSetConfiguration then
    .configure request.wValue.bb1
  else
    .stay

/-- The pending address after a request. -/
def requestAddr (request : UsbSetup) (addr : U8) : U8 :=
  if request.TreatedAsStandard ∧ request.bRequest = usbSetAddress then
    request.wValue.bb1
  else
    addr

def afterRequest (request : UsbSetup) (view : Usb2View) : Usb2View where
  chart := (requestMove request).apply view.chart
  addr := requestAddr request view.addr
  request := request

section Request

variable {request : UsbSetup} (view : Usb2View)

theorem afterRequest_of_setConfiguration (standard : request.TreatedAsStandard)
    (isConfig : request.bRequest = usbSetConfiguration) :
    afterRequest request view =
      ⟨(Move.configure request.wValue.bb1).apply view.chart, view.addr, request⟩ := by
  have notAddress : ¬ (request.TreatedAsStandard ∧ request.bRequest = usbSetAddress) := by
    rw [isConfig]
    exact fun both => absurd both.2 (by decide)
  rw [afterRequest, requestMove, requestAddr, if_pos ⟨standard, isConfig⟩, if_neg notAddress]

theorem afterRequest_of_setAddress (standard : request.TreatedAsStandard)
    (isAddress : request.bRequest = usbSetAddress) :
    afterRequest request view = ⟨view.chart, request.wValue.bb1, request⟩ := by
  have notConfig : ¬ (request.TreatedAsStandard ∧ request.bRequest = usbSetConfiguration) := by
    rw [isAddress]
    exact fun both => absurd both.2 (by decide)
  rw [afterRequest, requestMove, requestAddr, if_neg notConfig, if_pos ⟨standard, isAddress⟩]
  rfl

theorem afterRequest_of_other
    (notConfig : ¬ (request.TreatedAsStandard ∧ request.bRequest = usbSetConfiguration))
    (notAddress : ¬ (request.TreatedAsStandard ∧ request.bRequest = usbSetAddress)) :
    afterRequest request view = { view with request := request } := by
  rw [afterRequest, requestMove, requestAddr, if_neg notConfig, if_neg notAddress]
  rfl

end Request

theorem view_standardRequest (standard : driver.usbSetupReq.TreatedAsStandard) :
    driver.standardRequest.2.view = afterRequest driver.usbSetupReq driver.view := by
  unfold standardRequest usb2ResetEndpoints
  dsimp only
  split
  · next isGet =>
      rw [afterRequest_of_other]
      · obtain ⟨head, remaining, memory, changes⟩ := getDescriptor_changes driver
        rw [changes]
        rfl
      · rw [isGet]
        exact fun both => absurd both.2 (by decide)
      · rw [isGet]
        exact fun both => absurd both.2 (by decide)
  · split
    · next isAddress =>
        rw [afterRequest_of_setAddress _ standard isAddress]
        rfl
    · next notAddress =>
        split
        · next isConfig =>
            rw [afterRequest_of_setConfiguration _ standard isConfig, usb2SetupEndpoints_changes]
            split
            · next selected =>
                rw [Move.apply_configure_of_ne _ selected]
                rfl
            · next none =>
                rw [Move.apply_configure_of_eq _ none]
                rfl
        · next notConfig =>
            have other := afterRequest_of_other driver.view (fun both => notConfig both.2)
              (fun both => notAddress both.2)
            rw [other]
            split
            · exact driver.view_usb2SetupEndpoints
            · rfl

theorem aside_view : Aside view where
  tLen _ _ := rfl
  txCtrl _ _ := rfl
  rxCtrl _ _ := rfl
  progress _ _ _ _ _ := rfl

theorem view_usb2Ep0RequestHandler (reply : UserReply) :
    (driver.usb2Ep0RequestHandler bsp reply).2.view =
      afterRequest driver.usbSetupReq driver.view := by
  by_cases standard : driver.usbSetupReq.TreatedAsStandard
  · exact (aside_view.request_of_standard bsp standard).trans (driver.view_standardRequest standard)
  · rw [afterRequest_of_other _ (fun both => standard both.1) (fun both => standard both.1)]
    exact aside_view.request_of_user bsp standard fun _ => view_invoke bsp driver _ reply

theorem request_usb2Ep0RequestHandler (reply : UserReply) :
    (driver.usb2Ep0RequestHandler bsp reply).2.usbSetupReq = driver.usbSetupReq :=
  congrArg Usb2View.request (driver.view_usb2Ep0RequestHandler bsp reply)

theorem view_usb2Ep0SetupStageHandler (reply : UserReply) :
    (driver.usb2Ep0SetupStageHandler bsp reply).view =
      afterRequest driver.usbSetupReq driver.view :=
  (aside_view.usb2Ep0SetupStageHandler bsp driver reply).trans
    (driver.view_usb2Ep0RequestHandler bsp reply)

def statusMove : Move :=
  if ¬driver.usbSetupReq.IsIn ∧ driver.usbSetupReq.bRequest = usbSetAddress ∧
      driver.device.addr ≤ 0x7f#8 then
    .enterAddress driver.device.addr
  else
    .stay

theorem view_usb2Ep0InHandler :
    (driver.usb2Ep0InHandler bsp).view =
      { driver.view with chart := driver.statusMove.apply driver.chart } := by
  unfold usb2Ep0InHandler
  split
  · next isIn =>
      rw [statusMove, if_neg fun all => all.1 isIn]
      exact aside_view.ep0DataInHandler bsp driver
  · next isOut =>
      unfold ep0StatusInHandler usb2SetDeviceAddress
      dsimp only
      by_cases isAddress : driver.usbSetupReq.bRequest = usbSetAddress
      · by_cases small : driver.device.addr ≤ 0x7f#8
        · have enters : driver.statusMove = .enterAddress driver.device.addr :=
            if_pos ⟨isOut, isAddress, small⟩
          rw [enters, if_pos isAddress, if_pos small]
          rfl
        · have stays : driver.statusMove = .stay := if_neg fun all => small all.2.2
          rw [stays, if_pos isAddress, if_neg small]
          rfl
      · have stays : driver.statusMove = .stay := if_neg fun all => isAddress all.2.1
        rw [stays, if_neg isAddress]
        rfl

theorem view_usb2Ep0OutHandler (numBytesReceived : Nat) (reply : UserReply) :
    (driver.usb2Ep0OutHandler bsp numBytesReceived reply).view = driver.view :=
  aside_view.usb2Ep0OutHandler bsp (fun _ _ => rfl) driver
    (fun other => view_invoke bsp other _ reply) numBytesReceived

theorem view_passthroughSetup (reply : UserReply) :
    (driver.passthroughSetup bsp reply).view = driver.view :=
  view_invoke bsp driver (.endp0PassthroughSetupCallback driver.endp0Buffer) reply

theorem view_busReset (reply : UserReply) :
    (driver.busReset bsp reply).view =
      ⟨(Move.reset .default true).apply driver.chart, 0#8, driver.usbSetupReq⟩ := by
  have called := driver.view_invoke bsp .usb2DeviceHandleBusReset reply
  have config := congrArg (fun view : Usb2View => view.chart.currentConfig) called
  have request := congrArg Usb2View.request called
  unfold busReset usb2SetDeviceAddress
  dsimp only
  rw [if_pos (by decide), usb2SetupEndpoints_changes]
  change Usb2View.mk ⟨.default, _, 0#8⟩ 0#8 _ = ⟨⟨.default, _, 0#8⟩, 0#8, _⟩
  exact congrArg₂ (fun currentConfig request =>
    Usb2View.mk ⟨.default, currentConfig, 0#8⟩ 0#8 request) config request

def afterEvent : Usb2Event → Usb2View
  | .setup packet _ =>
      if driver.device.state = .powered then
        driver.view
      else if driver.ep0PassthroughEnabled then
        { driver.view with request := packet }
      else
        afterRequest packet driver.view
  | .inDone endpNum _ =>
      if driver.device.state = .powered ∨ endpNum ≠ 0 ∨ driver.ep0PassthroughEnabled then
        driver.view
      else
        { driver.view with chart := driver.statusMove.apply driver.chart }
  | .busReset _ => ⟨(Move.reset .default true).apply driver.chart, 0#8, driver.usbSetupReq⟩
  | .outDone _ _ _ _ | .nak _ _ | .call _ => driver.view

theorem view_step (event : Usb2Event) : (event.step bsp driver).view = driver.afterEvent event := by
  cases event with
  | setup packet reply =>
      by_cases powered : driver.device.state = .powered
      · rw [step_setup_powered bsp powered, afterEvent, if_pos powered]
        rfl
      · rw [step_setup bsp powered, afterEvent, if_neg powered]
        change (if _ then _ else _ : Usb2Driver).view = _
        split
        · exact view_passthroughSetup ..
        · exact view_usb2Ep0SetupStageHandler ..
  | inDone endpNum reply =>
      by_cases powered : driver.device.state = .powered
      · rw [step_inDone_powered bsp powered, afterEvent, if_pos (.inl powered)]
        rfl
      · rw [step_inDone bsp powered, afterEvent]
        change (if _ then _ else _ : Usb2Driver).view = _
        split
        · next apart =>
            rw [if_pos (.inr apart)]
            exact view_usb2InTransferHandler ..
        · next control =>
            rw [if_neg (not_or.mpr ⟨powered, control⟩)]
            exact driver.transferPending.view_usb2Ep0InHandler bsp
  | outDone endpNum numBytesReceived togok reply =>
      exact step_outDone_leaves bsp view (fun _ _ => rfl) endpNum reply numBytesReceived togok
        (view_usb2OutTransferHandler ..) (view_usb2Ep0OutHandler ..)
  | nak endpNum reply =>
      rw [step_nak]
      exact view_invoke ..
  | busReset reply =>
      rw [step_busReset]
      exact view_busReset ..
  | call apiCall => exact driver.view_of_fixed (driver.fixed_call bsp apiCall)

def move : Usb2Event → Move
  | .setup packet _ =>
      if driver.device.state = .powered ∨ driver.ep0PassthroughEnabled then
        .stay
      else
        requestMove packet
  | .inDone endpNum _ =>
      if driver.device.state = .powered ∨ endpNum ≠ 0 ∨ driver.ep0PassthroughEnabled then
        .stay
      else
        driver.statusMove
  | .busReset _ => .reset .default true
  | .outDone _ _ _ _ | .nak _ _ | .call _ => .stay

theorem chart_step (event : Usb2Event) :
    (event.step bsp driver).chart = (driver.move event).apply driver.chart := by
  have moved : (driver.afterEvent event).chart = (driver.move event).apply driver.chart := by
    cases event with
    | setup packet reply =>
        unfold afterEvent move
        dsimp only
        by_cases powered : driver.device.state = .powered
        · rw [if_pos powered, if_pos (.inl powered)]
          rfl
        · rw [if_neg powered]
          by_cases passthrough : driver.ep0PassthroughEnabled = true
          · rw [if_pos passthrough, if_pos (.inr passthrough)]
            rfl
          · rw [if_neg passthrough, if_neg (not_or.mpr ⟨powered, passthrough⟩)]
            rfl
    | inDone endpNum reply =>
        unfold afterEvent move
        dsimp only
        split
        · rfl
        · rfl
    | outDone endpNum numBytesReceived togok reply => rfl
    | nak endpNum reply => rfl
    | busReset reply => rfl
    | call apiCall => rfl
  exact (congrArg Usb2View.chart (driver.view_step bsp event)).trans moved

theorem running_step {driver : Usb2Driver} (running : driver.chart.state ≠ .powered) (event : Usb2Event) :
    (event.step bsp driver).chart.state ≠ .powered := by
  rw [chart_step]
  refine Move.not_powered running fun state clears isReset => ?_
  cases event with
  | setup packet reply =>
      unfold move requestMove at isReset
      dsimp only at isReset
      split at isReset
      · exact Move.noConfusion isReset
      · split at isReset
        · exact Move.noConfusion isReset
        · exact Move.noConfusion isReset
  | inDone endpNum reply =>
      unfold move statusMove at isReset
      dsimp only at isReset
      split at isReset
      · exact Move.noConfusion isReset
      · split at isReset
        · exact Move.noConfusion isReset
        · exact Move.noConfusion isReset
  | busReset reply =>
      obtain ⟨rfl, -⟩ := Move.reset.inj isReset
      exact UsbDeviceState.noConfusion
  | outDone endpNum numBytesReceived togok reply => exact Move.noConfusion isReset
  | nak endpNum reply => exact Move.noConfusion isReset
  | call apiCall => exact Move.noConfusion isReset

/-- A device that is powered down takes notice of a bus reset only. -/
theorem view_step_of_powered {driver : Usb2Driver} (powered : driver.device.state = .powered)
    {event : Usb2Event} (notReset : ∀ reply, event ≠ .busReset reply) :
    (event.step bsp driver).view = driver.view := by
  rw [view_step]
  cases event with
  | setup packet reply => exact if_pos powered
  | inDone endpNum reply => exact if_pos (.inl powered)
  | outDone endpNum numBytesReceived togok reply => rfl
  | nak endpNum reply => rfl
  | busReset reply => exact absurd rfl (notReset reply)
  | call apiCall => rfl

theorem running_of_step {driver : Usb2Driver} {event : Usb2Event}
    (notReset : ∀ reply, event ≠ .busReset reply)
    (running : (event.step bsp driver).device.state ≠ .powered) :
    driver.device.state ≠ .powered := by
  intro powered
  have kept := driver.view_step_of_powered bsp powered notReset
  exact running ((congrArg (fun view : Usb2View => view.chart.state) kept).trans powered)

/-- The request that is being served stays while no SETUP packet comes. -/
theorem request_step {event : Usb2Event} (notSetup : ∀ packet reply, event ≠ .setup packet reply) :
    (event.step bsp driver).usbSetupReq = driver.usbSetupReq := by
  refine (congrArg Usb2View.request (driver.view_step bsp event)).trans ?_
  cases event with
  | setup packet reply => exact absurd rfl (notSetup packet reply)
  | inDone endpNum reply =>
      unfold afterEvent
      dsimp only
      split
      · rfl
      · rfl
  | outDone endpNum numBytesReceived togok reply => rfl
  | nak endpNum reply => rfl
  | busReset reply => rfl
  | call apiCall => rfl

theorem addr_step {event : Usb2Event} (notSetup : ∀ packet reply, event ≠ .setup packet reply)
    (notReset : ∀ reply, event ≠ .busReset reply) :
    (event.step bsp driver).device.addr = driver.device.addr := by
  refine (congrArg Usb2View.addr (driver.view_step bsp event)).trans ?_
  cases event with
  | setup packet reply => exact absurd rfl (notSetup packet reply)
  | inDone endpNum reply =>
      unfold afterEvent
      dsimp only
      split
      · rfl
      · rfl
  | outDone endpNum numBytesReceived togok reply => rfl
  | nak endpNum reply => rfl
  | busReset reply => exact absurd rfl (notReset reply)
  | call apiCall => rfl

theorem request_step_setup {driver : Usb2Driver} (running : driver.device.state ≠ .powered)
    (packet : UsbSetup) (reply : UserReply) :
    (Usb2Event.step bsp driver (.setup packet reply)).usbSetupReq = packet ∧
      (driver.ep0PassthroughEnabled = false →
        (Usb2Event.step bsp driver (.setup packet reply)).device.addr =
          requestAddr packet driver.device.addr) := by
  have view := driver.view_step bsp (.setup packet reply)
  have after : driver.afterEvent (.setup packet reply) =
      if driver.ep0PassthroughEnabled then { driver.view with request := packet }
      else afterRequest packet driver.view := if_neg running
  rw [after] at view
  cases passthrough : driver.ep0PassthroughEnabled with
  | false =>
      rw [passthrough] at view
      exact ⟨congrArg Usb2View.request view, fun _ => congrArg Usb2View.addr view⟩
  | true =>
      rw [passthrough] at view
      exact ⟨congrArg Usb2View.request view, Bool.noConfusion⟩

end Usb2Driver

/-- An IN completion on endpoint 0 is the status stage of a control-OUT request. -/
def Usb2Event.stage (request : Option UsbSetup) : Usb2Event → Stage
  | .setup packet _ => .setup packet
  | .inDone endpNum _ =>
      match request with
      | some request => if endpNum = 0 ∧ ¬request.IsIn then .status request else .other
      | none => .other
  | .busReset _ => .busReset
  | .outDone _ _ _ _ | .nak _ _ | .call _ => .other

/-- An event with the request that it belongs to. -/
def Usb2Event.serve (bsp : Usb2Bsp) (session : Session Usb2Driver) (event : Usb2Event) :
    Option (Session Usb2Driver) :=
  some
    { driver := event.step bsp session.driver
      request := match event with
        | .setup packet _ => some packet
        | .busReset _ => none
        | _ => session.request }

end WchCh56x.Usb
