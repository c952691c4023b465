import WchCh56x.Support.Runs
import WchCh56x.Usb.DeviceChart

/-!
# The stored and the programmed address

SET_ADDRESS stores the address when its SETUP packet arrives and programs it in
the status stage, where alone it is checked.
-/

namespace WchCh56x.Usb.StoredAddress

open Support.Runs

/-- A driver with the SET_ADDRESS that waits for its status stage. -/
structure Addressing where
  driver : Usb2Driver
  pending : Option UsbSetup

/-- A SETUP packet replaces what was pending; a status stage and a bus reset end it. -/
def pendingAfter (pending : Option UsbSetup) : Usb2Event → Option UsbSetup
  | .setup packet _ => if packet.IsSetAddress then some packet else none
  | .inDone endpNum _ => pending.filter fun request => ¬(endpNum = 0 ∧ ¬request.IsIn)
  | .outDone endpNum _ togok _ =>
      pending.filter fun request => ¬(endpNum = 0 ∧ togok ∧ request.IsIn)
  | .busReset _ => none
  | .nak _ _ | .call _ => pending

def step (bsp : Usb2Bsp) (session : Addressing) (event : Usb2Event) : Option Addressing :=
  some ⟨event.step bsp session.driver, pendingAfter session.pending event⟩

/-- The stored address is valid, and programmed unless a SET_ADDRESS is under way. -/
def Programmed (session : Addressing) : Prop :=
  session.driver.device.addr ≤ 0x7f#8 ∧
    (session.pending = none → session.driver.device.addr = session.driver.devAd)

instance (session : Addressing) : Decidable (Programmed session) :=
  inferInstanceAs (Decidable (_ ∧ (_ → _)))

/-- The event stores a valid address, and leaves no other one behind. -/
def KeepsAddress (session : Addressing) : Usb2Event → Prop
  | .setup packet _ =>
      session.driver.device.state ≠ .powered →
        (packet.TreatedAsStandard ∧ packet.bRequest = usbSetAddress →
          packet.wValue.bb1 ≤ 0x7f#8 ∧
            (packet.IsSetAddress ∨ packet.wValue.bb1 = session.driver.devAd)) ∧
        (¬(packet.TreatedAsStandard ∧ packet.bRequest = usbSetAddress) →
          session.driver.device.addr = session.driver.devAd)
  | .outDone endpNum _ togok _ =>
      endpNum = 0 → togok = true → (session.pending.any fun request => request.IsIn) = true →
        session.driver.device.addr = session.driver.devAd
  | .inDone _ _ | .busReset _ | .nak _ _ | .call _ => True

instance (session : Addressing) : (event : Usb2Event) → Decidable (KeepsAddress session event)
  | .setup _ _ => inferInstanceAs (Decidable (_ → (_ → _) ∧ (_ → _)))
  | .outDone _ _ _ _ => inferInstanceAs (Decidable (_ → _))
  | .inDone _ _ | .busReset _ | .nak _ _ | .call _ => inferInstanceAs (Decidable True)

/-- What every event keeps: the pending request is the one that the backend serves. -/
structure Served (session : Addressing) : Prop where
  passthrough : session.driver.ep0PassthroughEnabled = false
  pending : ∀ request ∈ session.pending, request.IsSetAddress ∧
    (session.driver.device.state ≠ .powered → session.driver.usbSetupReq = request)
  powered : session.driver.device.state = .powered →
    session.driver.device.addr = session.driver.devAd

/-! ## One event -/

theorem inDone_ended_iff (pending : Option UsbSetup) (endpNum : Fin 16) (reply : UserReply) :
    pendingAfter pending (.inDone endpNum reply) = none ↔
      ∀ request, pending = some request → endpNum = 0 ∧ ¬request.IsIn := by
  refine Option.filter_eq_none_iff.trans (forall_congr' fun request => ?_)
  simp only [decide_eq_true_eq, not_not]

theorem outDone_ended_iff (pending : Option UsbSetup) (endpNum : Fin 16) (numBytesReceived : Nat)
    (togok : Bool) (reply : UserReply) :
    pendingAfter pending (.outDone endpNum numBytesReceived togok reply) = none ↔
      ∀ request, pending = some request → endpNum = 0 ∧ togok = true ∧ request.IsIn := by
  refine Option.filter_eq_none_iff.trans (forall_congr' fun request => ?_)
  simp only [decide_eq_true_eq, not_not]

/-- Only a SETUP packet makes a request pending. -/
theorem mem_of_mem_pendingAfter {pending : Option UsbSetup} {event : Usb2Event}
    (notSetup : ∀ packet reply, event ≠ .setup packet reply) {request : UsbSetup}
    (member : request ∈ pendingAfter pending event) : request ∈ pending := by
  cases event with
  | setup packet reply => exact absurd rfl (notSetup packet reply)
  | inDone endpNum reply => exact (Option.mem_filter_iff.mp member).1
  | outDone endpNum numBytesReceived togok reply => exact (Option.mem_filter_iff.mp member).1
  | nak endpNum reply => exact member
  | busReset reply => exact absurd member (Option.not_mem_none request)
  | call apiCall => exact member

section

variable (bsp : Usb2Bsp) {session : Addressing}

/-- The property of a session is a statement about the view. -/
theorem programmed_iff {driver : Usb2Driver} {view : Usb2View} (same : driver.view = view)
    (pending : Option UsbSetup) :
    Programmed ⟨driver, pending⟩ ↔
      view.addr ≤ 0x7f#8 ∧ (pending = none → view.addr = view.chart.address) := by
  subst same
  exact Iff.rfl

theorem requestMove_address (request : UsbSetup) (chart : Chart) :
    ((Usb2Driver.requestMove request).apply chart).address = chart.address := by
  unfold Usb2Driver.requestMove
  split
  · rfl
  · rfl

variable (served : Served session) (programmed : Programmed session)

include served programmed

/-- A SETUP packet of any kind. -/
theorem programmed_setup (packet : UsbSetup) (reply : UserReply) :
    Programmed ⟨Usb2Event.step bsp session.driver (.setup packet reply),
        pendingAfter session.pending (.setup packet reply)⟩ ↔
      KeepsAddress session (.setup packet reply) := by
  have view := session.driver.view_step bsp (.setup packet reply)
  rw [programmed_iff view]
  unfold Usb2Driver.afterEvent KeepsAddress pendingAfter
  dsimp only
  by_cases powered : session.driver.device.state = .powered
  · rw [if_pos powered]
    exact iff_of_true ⟨programmed.1, fun _ => served.powered powered⟩ fun running =>
      absurd powered running
  rw [if_neg powered, if_neg (ne_true_of_eq_false served.passthrough)]
  unfold Usb2Driver.afterRequest Usb2Driver.requestAddr
  dsimp only
  rw [requestMove_address]
  by_cases handled : packet.TreatedAsStandard ∧ packet.bRequest = usbSetAddress
  · rw [if_pos handled]
    by_cases isSet : packet.IsSetAddress
    · rw [if_pos isSet]
      constructor
      · rintro ⟨small, -⟩ -
        exact ⟨fun _ => ⟨small, .inl isSet⟩, fun other => absurd handled other⟩
      · intro keeps
        exact ⟨((keeps powered).1 handled).1, nofun⟩
    · rw [if_neg isSet]
      constructor
      · rintro ⟨small, same⟩ -
        exact ⟨fun _ => ⟨small, .inr (same rfl)⟩, fun other => absurd handled other⟩
      · intro keeps
        obtain ⟨small, same⟩ := (keeps powered).1 handled
        exact ⟨small, fun _ => same.resolve_left isSet⟩
  · have notSet : ¬packet.IsSetAddress := fun isSet => handled ⟨isSet.1.treatedAsStandard, isSet.2⟩
    rw [if_neg handled, if_neg notSet]
    constructor
    · rintro ⟨-, same⟩ -
      exact ⟨fun isHandled => absurd isHandled handled, fun _ => same rfl⟩
    · intro keeps
      exact ⟨programmed.1, fun _ => (keeps powered).2 handled⟩

/-- The status stage of SET_ADDRESS programs what is stored. -/
theorem programmed_inDone (endpNum : Fin 16) (reply : UserReply) :
    Programmed ⟨Usb2Event.step bsp session.driver (.inDone endpNum reply),
        pendingAfter session.pending (.inDone endpNum reply)⟩ := by
  have view := session.driver.view_step bsp (.inDone endpNum reply)
  rw [programmed_iff view]
  unfold Usb2Driver.afterEvent
  dsimp only
  by_cases idle : session.driver.device.state = .powered ∨ endpNum ≠ 0 ∨
      session.driver.ep0PassthroughEnabled = true
  · rw [if_pos idle]
    refine ⟨programmed.1, fun ended => ?_⟩
    rcases idle with powered | other | passthrough
    · exact served.powered powered
    · refine programmed.2 (Option.eq_none_iff_forall_ne_some.mpr fun request isPending => ?_)
      exact other ((inDone_ended_iff _ _ _).mp ended request isPending).1
    · exact absurd passthrough (ne_true_of_eq_false served.passthrough)
  rw [if_neg idle]
  refine ⟨programmed.1, fun ended => ?_⟩
  have running : session.driver.device.state ≠ .powered := fun powered => idle (.inl powered)
  unfold Usb2Driver.statusMove
  split
  · rfl
  · next stays =>
      refine programmed.2 (Option.eq_none_iff_forall_ne_some.mpr fun request isPending => stays ?_)
      obtain ⟨isSet, isServed⟩ := served.pending request isPending
      rw [isServed running]
      exact ⟨((inDone_ended_iff _ _ _).mp ended request isPending).2, isSet.2, programmed.1⟩

omit served in
theorem programmed_outDone (endpNum : Fin 16) (numBytesReceived : Nat) (togok : Bool)
    (reply : UserReply) :
    Programmed ⟨Usb2Event.step bsp session.driver (.outDone endpNum numBytesReceived togok reply),
        pendingAfter session.pending (.outDone endpNum numBytesReceived togok reply)⟩ ↔
      KeepsAddress session (.outDone endpNum numBytesReceived togok reply) := by
  have view := session.driver.view_step bsp (.outDone endpNum numBytesReceived togok reply)
  rw [programmed_iff view, outDone_ended_iff]
  unfold KeepsAddress
  dsimp only
  cases pending : session.pending with
  | none =>
      exact iff_of_true ⟨programmed.1, fun _ => programmed.2 pending⟩ fun _ _ isIn => nomatch isIn
  | some request =>
      constructor
      · rintro ⟨-, same⟩ isControl toggled isIn
        refine same ?_
        rintro other ⟨⟩
        exact ⟨isControl, toggled, of_decide_eq_true isIn⟩
      · intro keeps
        refine ⟨programmed.1, fun ended => ?_⟩
        obtain ⟨isControl, toggled, isIn⟩ := ended request rfl
        exact keeps isControl toggled (decide_eq_true isIn)

/-- An event keeps the property exactly under its condition. -/
theorem programmed_step (event : Usb2Event) :
    Programmed ⟨event.step bsp session.driver, pendingAfter session.pending event⟩ ↔
      KeepsAddress session event := by
  cases event with
  | setup packet reply => exact programmed_setup bsp served programmed packet reply
  | inDone endpNum reply =>
      exact iff_of_true (programmed_inDone bsp served programmed endpNum reply) trivial
  | outDone endpNum numBytesReceived togok reply =>
      exact programmed_outDone bsp programmed endpNum numBytesReceived togok reply
  | nak endpNum reply =>
      have view := session.driver.view_step bsp (.nak endpNum reply)
      exact iff_of_true ((programmed_iff view _).mpr programmed) trivial
  | busReset reply =>
      have view := session.driver.view_step bsp (.busReset reply)
      have cleared : (0#8 : U8) ≤ 0x7f#8 := by decide
      exact iff_of_true ((programmed_iff view _).mpr ⟨cleared, fun _ => rfl⟩) trivial
  | call apiCall =>
      have view := session.driver.view_step bsp (.call apiCall)
      exact iff_of_true ((programmed_iff view _).mpr programmed) trivial

end

/-! ## Runs -/

theorem Served.step (bsp : Usb2Bsp) {session : Addressing} (served : Served session)
    (event : Usb2Event) :
    Served ⟨event.step bsp session.driver, pendingAfter session.pending event⟩ := by
  constructor
  · exact (congrArg Config.ep0PassthroughEnabled (config_step bsp session.driver event)).trans
      served.passthrough
  · intro request member
    by_cases isSetup : ∃ packet reply, event = .setup packet reply
    · obtain ⟨packet, reply, rfl⟩ := isSetup
      change request ∈ (if packet.IsSetAddress then some packet else none) at member
      split at member
      · next isSet =>
          obtain rfl := Option.mem_some_iff.mp member
          refine ⟨isSet, fun running => ?_⟩
          have wasRunning := @Usb2Driver.running_of_step bsp session.driver (.setup packet reply)
            (fun _ => nofun) running
          exact (Usb2Driver.request_step_setup bsp wasRunning packet reply).1
      · exact absurd member (Option.not_mem_none request)
    · have notSetup : ∀ packet reply, event ≠ .setup packet reply := fun packet reply is =>
        isSetup ⟨packet, reply, is⟩
      have notReset : ∀ reply, event ≠ .busReset reply := by
        rintro reply rfl
        exact absurd member (Option.not_mem_none request)
      obtain ⟨isSet, isServed⟩ := served.pending request (mem_of_mem_pendingAfter notSetup member)
      refine ⟨isSet, fun running => ?_⟩
      exact (session.driver.request_step bsp notSetup).trans
        (isServed (Usb2Driver.running_of_step bsp notReset running))
  · intro powered
    have wasPowered : session.driver.device.state = .powered := by
      by_contra running
      exact session.driver.running_step bsp running event powered
    by_cases isReset : ∃ reply, event = .busReset reply
    · obtain ⟨reply, rfl⟩ := isReset
      have view := session.driver.view_step bsp (.busReset reply)
      have stored := congrArg Usb2View.addr view
      have programmed := congrArg (fun view : Usb2View => view.chart.address) view
      exact stored.trans programmed.symm
    · have kept := session.driver.view_step_of_powered bsp wasPowered
        fun reply is => isReset ⟨reply, is⟩
      have stored := congrArg Usb2View.addr kept
      have programmed := congrArg (fun view : Usb2View => view.chart.address) kept
      exact (stored.trans (served.powered wasPowered)).trans programmed.symm

def initialized (driver : Usb2Driver) : Addressing := ⟨driver.usb2DeviceInit, none⟩

section Initialized

variable {driver : Usb2Driver} (unaddressed : driver.devAd = 0#8)

include unaddressed

theorem addr_initialized :
    (initialized driver).driver.device.addr = 0#8 ∧ (initialized driver).driver.devAd = 0#8 := by
  have view := driver.view_usb2DeviceInit
  exact ⟨congrArg Usb2View.addr view,
    (congrArg (fun view : Usb2View => view.chart.address) view).trans unaddressed⟩

theorem programmed_initialized : Programmed (initialized driver) := by
  obtain ⟨stored, programmed⟩ := addr_initialized unaddressed
  have cleared : (0#8 : U8) ≤ 0x7f#8 := by decide
  exact ⟨stored.symm ▸ cleared, fun _ => stored.trans programmed.symm⟩

theorem served_initialized (off : driver.ep0PassthroughEnabled = false) :
    Served (initialized driver) := by
  obtain ⟨stored, programmed⟩ := addr_initialized unaddressed
  refine ⟨?_, nofun, fun _ => stored.trans programmed.symm⟩
  change driver.usb2DeviceInit.ep0PassthroughEnabled = false
  unfold Usb2Driver.usb2DeviceInit
  dsimp only
  rw [usb2SetupEndpoints_changes]
  exact off

end Initialized

/-- From `usb2_device_init` on, the stored address is valid and the programmed one exactly if no
request stores an invalid address or leaves a SET_ADDRESS behind that another one does not replace. -/
theorem stored_address_programmed_iff (bsp : Usb2Bsp) {driver : Usb2Driver}
    (off : driver.ep0PassthroughEnabled = false) (unaddressed : driver.devAd = 0#8)
    (events : List Usb2Event) :
    Always (step bsp) Programmed (initialized driver) events ↔
      EveryStep (step bsp) KeepsAddress (initialized driver) events := by
  refine @always_iff_everyStep _ _ (step bsp) Served Programmed Programmed (fun _ _ => True)
    KeepsAddress (fun _ => id) ?_ ?_ _ _ (served_initialized unaddressed off)
    (programmed_initialized unaddressed) (everyStep_of_forall (fun _ _ _ => trivial) _)
  · intro session event served _
    exact ⟨_, rfl, served.step bsp event⟩
  · intro session event next served programmed _ stepped
    obtain rfl := Option.some.inj stepped
    have exactly := programmed_step bsp served programmed event
    exact ⟨exactly.mp, exactly.mpr⟩

/-! ## A host that assigns addresses -/

def connected : Usb2Driver := .initial usbDevice0 fun _ => 0#8

/-- SET_ADDRESS, or another OUT request without data. -/
def outRequest (bRequest address : U8) : UsbSetup := ⟨0#8, bRequest, ⟨address, 0#8⟩, ⟨0#8, 0#8⟩, 0#16⟩

/-- An address is assigned, and replaced by a second SET_ADDRESS before it is programmed. -/
theorem replaced_address_programmed :
    Always (step ⟨3, by decide, by decide⟩) Programmed (initialized connected)
      [.busReset noReply, .setup (outRequest usbSetAddress 5#8) noReply,
        .setup (outRequest usbSetAddress 6#8) noReply, .inDone 0 noReply] :=
  (stored_address_programmed_iff _ rfl rfl _).mpr (by decide)

/-- An abandoned SET_ADDRESS leaves its address stored, and address 200 is stored as well. -/
theorem abandoned_address_stored :
    ¬Always (step ⟨3, by decide, by decide⟩) Programmed (initialized connected)
        [.busReset noReply, .setup (outRequest usbSetAddress 5#8) noReply,
          .setup (outRequest usbSetFeature 0#8) noReply] ∧
      ¬Always (step ⟨3, by decide, by decide⟩) Programmed (initialized connected)
        [.busReset noReply, .setup (outRequest usbSetAddress 200#8) noReply] :=
  ⟨by decide, by decide⟩

end WchCh56x.Usb.StoredAddress
