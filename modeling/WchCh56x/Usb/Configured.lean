import WchCh56x.Support.Runs
import WchCh56x.Usb.Usb30Chart

/-!
# CONFIGURED and the selected configuration

The state and the selected configuration are written in different places.  They
agree along a run exactly if no event leaves CONFIGURED behind with a
configuration, or a configuration behind without CONFIGURED.
-/

namespace WchCh56x.Usb

open Support.Runs

namespace Chart

def Configured (chart : Chart) : Prop := chart.state = .configured

instance (chart : Chart) : Decidable chart.Configured := inferInstanceAs (Decidable (_ = _))

/-- The device is CONFIGURED exactly while a configuration is selected. -/
def Consistent (chart : Chart) : Prop := chart.Configured ↔ chart.currentConfig ≠ 0#8

instance (chart : Chart) : Decidable chart.Consistent := inferInstanceAs (Decidable (_ ↔ _))

structure Unselected (chart : Chart) : Prop where
  state : chart.state = .detached ∨ chart.state = .default
  currentConfig : chart.currentConfig = 0#8

theorem not_configured_of_state {chart : Chart} {state : UsbDeviceState}
    (isState : chart.state = state) (other : state ≠ .configured) : ¬chart.Configured :=
  fun configured => other (isState.symm.trans configured)

theorem Unselected.not_configured {chart : Chart} (unselected : chart.Unselected) :
    ¬chart.Configured := by
  rcases unselected.state with detached | default
  · exact not_configured_of_state detached UsbDeviceState.noConfusion
  · exact not_configured_of_state default UsbDeviceState.noConfusion

theorem Unselected.consistent {chart : Chart} (unselected : chart.Unselected) :
    chart.Consistent :=
  ⟨fun configured => absurd configured unselected.not_configured,
    fun selected => absurd unselected.currentConfig selected⟩

theorem Unselected.not_powered {chart : Chart} (unselected : chart.Unselected) :
    chart.state ≠ .powered := by
  intro powered
  rcases unselected.state with detached | default
  · exact UsbDeviceState.noConfusion (detached.symm.trans powered)
  · exact UsbDeviceState.noConfusion (default.symm.trans powered)

/-- Outside CONFIGURED no configuration is selected. -/
theorem Consistent.currentConfig_eq {chart : Chart} (consistent : chart.Consistent)
    (outside : ¬chart.Configured) : chart.currentConfig = 0#8 :=
  Decidable.not_not.mp fun selected => outside (consistent.mpr selected)

end Chart

def Stage.Unselects : Stage → Prop
  | .setup packet => packet.IsSetConfiguration ∧ packet.wValue.bb1 = 0#8
  | .busReset => True
  | .status _ | .other => False

/-- The event may lead into CONFIGURED or out of it. -/
def Stage.MayCross : Stage → Prop
  | .setup packet => packet.IsSetConfiguration
  | .status request => request.IsSetAddress
  | .busReset => True
  | .other => False

/-- What an event may do to the state and to the configuration. -/
structure FollowsSelection (stage : Stage) (before after : Chart) : Prop where
  consistent : after.Consistent
  unselects : stage.Unselects → ¬after.Configured ∧ after.currentConfig = 0#8
  crosses : ¬stage.MayCross → (after.Configured ↔ before.Configured)

/-! ## The moves -/

section Moves

variable {stage : Stage} {chart : Chart}

/-- Without a configuration the device has to be outside CONFIGURED already. -/
theorem followsSelection_deselect :
    FollowsSelection stage chart ((Move.configure 0#8).apply chart) ↔ ¬chart.Configured := by
  constructor
  · intro follows configured
    exact follows.consistent.mp configured rfl
  · intro outside
    exact ⟨⟨fun configured => absurd configured outside, fun selected => absurd rfl selected⟩,
      fun _ => ⟨outside, rfl⟩, fun _ => Iff.rfl⟩

theorem followsSelection_select {value : U8} (selected : value ≠ 0#8) :
    FollowsSelection stage chart ((Move.configure value).apply chart) ↔
      ¬stage.Unselects ∧ (stage.MayCross ∨ chart.Configured) := by
  rw [Move.apply_configure_of_ne chart selected]
  constructor
  · intro follows
    refine ⟨fun unselects => (follows.unselects unselects).1 rfl, ?_⟩
    by_cases mayCross : stage.MayCross
    · exact .inl mayCross
    · exact .inr ((follows.crosses mayCross).mp rfl)
  · rintro ⟨keeps, crosses⟩
    refine ⟨⟨fun _ => selected, fun _ => rfl⟩, fun unselects => absurd unselects keeps, ?_⟩
    intro stays
    exact ⟨fun _ => crosses.resolve_left stays, fun _ => rfl⟩

/-- A move under SET_CONFIGURATION of any value, which the host may send or not. -/
theorem followsSelection_configure (value : U8) {asked : Prop}
    (unselects : stage.Unselects ↔ asked ∧ value = 0#8) (mayCross : stage.MayCross ↔ asked) :
    FollowsSelection stage chart ((Move.configure value).apply chart) ↔
      (asked → value = 0#8 → ¬chart.Configured) ∧ (¬asked → (value ≠ 0#8 ↔ chart.Configured)) := by
  by_cases none : value = 0#8
  · subst none
    rw [followsSelection_deselect]
    constructor
    · intro outside
      exact ⟨fun _ _ => outside,
        fun _ => ⟨fun selected => absurd rfl selected, fun configured => absurd configured outside⟩⟩
    · rintro ⟨byHost, byOther⟩ configured
      by_cases isAsked : asked
      · exact byHost isAsked rfl configured
      · exact (byOther isAsked).mpr configured rfl
  · rw [followsSelection_select none, unselects, mayCross]
    constructor
    · rintro ⟨-, crosses⟩
      exact ⟨fun _ isNone => absurd isNone none,
        fun notAsked => ⟨fun _ => crosses.resolve_left notAsked, fun _ => none⟩⟩
    · rintro ⟨-, byOther⟩
      refine ⟨fun both => none both.2, ?_⟩
      by_cases isAsked : asked
      · exact .inl isAsked
      · exact .inr ((byOther isAsked).mp none)

variable (consistent : chart.Consistent)

include consistent

theorem followsSelection_stay :
    FollowsSelection stage chart (Move.stay.apply chart) ↔
      (stage.Unselects → ¬chart.Configured) := by
  constructor
  · intro follows unselects
    exact (follows.unselects unselects).1
  · intro outside
    exact ⟨consistent, fun unselects => ⟨outside unselects,
      consistent.currentConfig_eq (outside unselects)⟩, fun _ => Iff.rfl⟩

/-- A move to another state leaves the configuration selected. -/
theorem followsSelection_leave {after : Chart} (left : ¬after.Configured)
    (kept : after.currentConfig = chart.currentConfig) :
    FollowsSelection stage chart after ↔ ¬chart.Configured := by
  constructor
  · intro follows configured
    have selected : after.currentConfig ≠ 0#8 := kept.symm ▸ consistent.mp configured
    exact left (follows.consistent.mpr selected)
  · intro outside
    have none : after.currentConfig = 0#8 := kept.trans (consistent.currentConfig_eq outside)
    exact ⟨⟨fun configured => absurd configured left, fun selected => absurd none selected⟩,
      fun _ => ⟨left, none⟩,
      fun _ => ⟨fun configured => absurd configured left, fun configured => absurd configured outside⟩⟩

theorem followsSelection_enterAddress (address : U8) :
    FollowsSelection stage chart ((Move.enterAddress address).apply chart) ↔ ¬chart.Configured :=
  followsSelection_leave consistent
    (Chart.not_configured_of_state rfl UsbDeviceState.noConfusion) rfl

theorem followsSelection_reset {state : UsbDeviceState} (left : state ≠ .configured)
    (clears : Bool) :
    FollowsSelection stage chart ((Move.reset state clears).apply chart) ↔ ¬chart.Configured :=
  followsSelection_leave consistent (Chart.not_configured_of_state rfl left) rfl

end Moves

/-! ## USB2 -/

/-- The condition on an event of the USB2 backend. -/
def Usb2KeepsSelection (session : Session Usb2Driver) : Usb2Event → Prop
  | .setup packet _ =>
      (packet.IsSetConfiguration → packet.wValue.bb1 = 0#8 → ¬session.driver.chart.Configured) ∧
        (packet.TreatedAsStandard → ¬packet.IsStandard → packet.bRequest = usbSetConfiguration →
          session.driver.ep0PassthroughEnabled = false →
            (packet.wValue.bb1 ≠ 0#8 ↔ session.driver.chart.Configured))
  | .inDone endpNum _ =>
      endpNum = 0 → session.driver.ep0PassthroughEnabled = false →
        ¬session.driver.usbSetupReq.IsIn → session.driver.usbSetupReq.bRequest = usbSetAddress →
          session.driver.device.addr ≤ 0x7f#8 → ¬session.driver.chart.Configured
  | .busReset _ => ¬session.driver.chart.Configured
  | .outDone _ _ _ _ | .nak _ _ | .call _ => True

instance (session : Session Usb2Driver) :
    (event : Usb2Event) → Decidable (Usb2KeepsSelection session event)
  | .setup _ _ => inferInstanceAs (Decidable (_ ∧ _))
  | .inDone _ _ => inferInstanceAs (Decidable (_ → _))
  | .busReset _ => inferInstanceAs (Decidable (¬_))
  | .outDone _ _ _ _ | .nak _ _ | .call _ => inferInstanceAs (Decidable True)

/-- The event does to the chart what the host asked for. -/
def Usb2FollowsSelection (bsp : Usb2Bsp) (session : Session Usb2Driver) (event : Usb2Event) : Prop :=
  FollowsSelection (event.stage session.request) session.driver.chart
    (event.step bsp session.driver).chart

section Usb2

variable (bsp : Usb2Bsp) {session : Session Usb2Driver}
  (consistent : session.driver.chart.Consistent) (running : session.driver.device.state ≠ .powered)

include consistent running

theorem usb2FollowsSelection_setup (packet : UsbSetup) (reply : UserReply) :
    Usb2FollowsSelection bsp session (.setup packet reply) ↔
      Usb2KeepsSelection session (.setup packet reply) := by
  unfold Usb2FollowsSelection Usb2KeepsSelection
  rw [Usb2Driver.chart_step]
  unfold Usb2Driver.move
  dsimp only [Usb2Event.stage]
  cases passthrough : session.driver.ep0PassthroughEnabled with
  | true =>
      rw [if_pos (.inr rfl), followsSelection_stay consistent]
      constructor
      · intro outside
        exact ⟨fun isSet none => outside ⟨isSet, none⟩, fun _ _ _ off => Bool.noConfusion off⟩
      · rintro ⟨byHost, -⟩ ⟨isSet, none⟩
        exact byHost isSet none
  | false =>
      rw [if_neg (not_or.mpr ⟨running, Bool.false_ne_true⟩)]
      by_cases handled : packet.TreatedAsStandard ∧ packet.bRequest = usbSetConfiguration
      · have moves : Usb2Driver.requestMove packet = .configure packet.wValue.bb1 := if_pos handled
        rw [moves, @followsSelection_configure (.setup packet) _ packet.wValue.bb1
          packet.IsSetConfiguration Iff.rfl Iff.rfl]
        refine and_congr_right fun _ => ?_
        constructor
        · intro byOther _ notStandard _ _
          exact byOther fun isSet => notStandard isSet.1
        · intro byOther notSet
          exact byOther handled.1 (fun standard => notSet ⟨standard, handled.2⟩) handled.2 rfl
      · have stays : Usb2Driver.requestMove packet = .stay := if_neg handled
        have notSet : ¬packet.IsSetConfiguration := fun isSet =>
          handled ⟨isSet.1.treatedAsStandard, isSet.2⟩
        rw [stays, followsSelection_stay consistent]
        constructor
        · intro _
          exact ⟨fun isSet => absurd isSet notSet,
            fun treated _ isRequest => absurd ⟨treated, isRequest⟩ handled⟩
        · intro _ unselects
          exact absurd unselects.1 notSet

theorem usb2FollowsSelection_inDone (endpNum : Fin 16) (reply : UserReply) :
    Usb2FollowsSelection bsp session (.inDone endpNum reply) ↔
      Usb2KeepsSelection session (.inDone endpNum reply) := by
  have noUnselect : ¬(Usb2Event.stage session.request (.inDone endpNum reply)).Unselects := by
    unfold Usb2Event.stage
    dsimp only
    split
    · split
      · exact id
      · exact id
    · exact id
  unfold Usb2FollowsSelection Usb2KeepsSelection
  rw [Usb2Driver.chart_step]
  generalize Usb2Event.stage session.request (.inDone endpNum reply) = stage at noUnselect ⊢
  have stay : FollowsSelection stage session.driver.chart (Move.stay.apply session.driver.chart) :=
    (followsSelection_stay consistent).mpr fun unselects => absurd unselects noUnselect
  unfold Usb2Driver.move
  dsimp only
  split
  · next apart =>
      refine ⟨fun _ control off => ?_, fun _ => stay⟩
      rcases apart with powered | other | on
      · exact absurd powered running
      · exact absurd control other
      · exact absurd (off.symm.trans on) Bool.false_ne_true
  · next control =>
      obtain ⟨isControl, off⟩ := not_or.mp (not_or.mp control).2
      by_cases enters : ¬session.driver.usbSetupReq.IsIn ∧
          session.driver.usbSetupReq.bRequest = usbSetAddress ∧ session.driver.device.addr ≤ 0x7f#8
      · have moves : session.driver.statusMove = .enterAddress session.driver.device.addr :=
          if_pos enters
        rw [moves, followsSelection_enterAddress consistent]
        exact ⟨fun outside _ _ _ _ _ => outside,
          fun outside => outside (Decidable.not_not.mp isControl) (Bool.eq_false_iff.mpr off) enters.1
            enters.2.1 enters.2.2⟩
      · have stays : session.driver.statusMove = .stay := if_neg enters
        rw [stays]
        exact ⟨fun _ _ _ isOut isAddress small => absurd ⟨isOut, isAddress, small⟩ enters,
          fun _ => stay⟩

theorem usb2FollowsSelection_iff (event : Usb2Event) :
    Usb2FollowsSelection bsp session event ↔ Usb2KeepsSelection session event := by
  have quiet {event : Usb2Event} (isOther : event.stage session.request = .other)
      (stays : session.driver.move event = .stay) : Usb2FollowsSelection bsp session event := by
    unfold Usb2FollowsSelection
    rw [Usb2Driver.chart_step, isOther, stays]
    exact (followsSelection_stay consistent).mpr fun unselects => unselects.elim
  cases event with
  | setup packet reply => exact usb2FollowsSelection_setup bsp consistent running packet reply
  | inDone endpNum reply => exact usb2FollowsSelection_inDone bsp consistent running endpNum reply
  | outDone endpNum numBytesReceived togok reply => exact iff_of_true (quiet rfl rfl) trivial
  | nak endpNum reply => exact iff_of_true (quiet rfl rfl) trivial
  | call apiCall => exact iff_of_true (quiet rfl rfl) trivial
  | busReset reply =>
      unfold Usb2FollowsSelection
      rw [Usb2Driver.chart_step]
      exact followsSelection_reset consistent UsbDeviceState.noConfusion true

end Usb2

/-! ## USB3 -/

/-- The condition on an event of the USB3 backend. -/
def Usb30KeepsSelection (session : Session Usb30Driver) : Usb30Event → Prop
  | .setup packet _ =>
      packet.IsSetConfiguration → packet.wValue.bb1 = 0#8 → ¬session.driver.chart.Configured
  | .ep0Status => session.driver.setupReqCode = usbSetAddress → ¬session.driver.chart.Configured
  | .ep0In | .ep0Out | .epIn _ _ _ _ | .epOut _ _ _ _ | .link _ | .call _ => True

instance (session : Session Usb30Driver) :
    (event : Usb30Event) → Decidable (Usb30KeepsSelection session event)
  | .setup _ _ | .ep0Status => inferInstanceAs (Decidable (_ → _))
  | .ep0In | .ep0Out | .epIn _ _ _ _ | .epOut _ _ _ _ | .link _ | .call _ =>
      inferInstanceAs (Decidable True)

def Usb30FollowsSelection (bsp : Usb2Bsp) (session : Session Usb30Driver) (event : Usb30Event) :
    Prop :=
  FollowsSelection (event.stage session.request) session.driver.chart
    (event.step bsp session.driver).chart

section Usb30

variable (bsp : Usb2Bsp) {session : Session Usb30Driver}
  (consistent : session.driver.chart.Consistent)

include consistent

theorem usb30FollowsSelection_setup (packet : UsbSetup) (reply : UserReply) :
    Usb30FollowsSelection bsp session (.setup packet reply) ↔
      Usb30KeepsSelection session (.setup packet reply) := by
  unfold Usb30FollowsSelection Usb30KeepsSelection
  rw [Usb30Driver.chart_step bsp session.driver id]
  unfold Usb30Driver.move
  dsimp only [Usb30Event.stage]
  by_cases isSet : packet.IsSetConfiguration
  · have moves : Usb30Driver.requestMove packet = .configure packet.wValue.bb1 := if_pos isSet
    rw [moves, @followsSelection_configure (.setup packet) _ packet.wValue.bb1
      packet.IsSetConfiguration Iff.rfl Iff.rfl]
    exact and_iff_left fun notSet => absurd isSet notSet
  · have stays : Usb30Driver.requestMove packet = .stay := if_neg isSet
    rw [stays, followsSelection_stay consistent]
    exact ⟨fun _ is => absurd is isSet, fun _ unselects => absurd unselects.1 isSet⟩

theorem usb30FollowsSelection_ep0Status :
    Usb30FollowsSelection bsp session .ep0Status ↔ Usb30KeepsSelection session .ep0Status := by
  have noUnselect : ¬(Usb30Event.stage session.request .ep0Status).Unselects := by
    unfold Usb30Event.stage
    dsimp only
    split
    · exact id
    · exact id
  unfold Usb30FollowsSelection Usb30KeepsSelection
  rw [Usb30Driver.chart_step bsp session.driver id]
  unfold Usb30Driver.move
  dsimp only
  by_cases enters : session.driver.setupReqCode = usbSetAddress
  · have moves : session.driver.statusMove =
        .enterAddress (BitVec.ofNat 8 session.driver.setupLen) := if_pos enters
    rw [moves, followsSelection_enterAddress consistent]
    exact ⟨fun outside _ => outside, fun outside => outside enters⟩
  · have stays : session.driver.statusMove = .stay := if_neg enters
    rw [stays, followsSelection_stay consistent]
    exact ⟨fun _ isAddress => absurd isAddress enters,
      fun _ unselects => absurd unselects noUnselect⟩

theorem usb30FollowsSelection_iff {event : Usb30Event} (notLink : ¬event.IsLink) :
    Usb30FollowsSelection bsp session event ↔ Usb30KeepsSelection session event := by
  have quiet {event : Usb30Event} (notLink : ¬event.IsLink)
      (isOther : event.stage session.request = .other)
      (stays : session.driver.move event = .stay) : Usb30FollowsSelection bsp session event := by
    unfold Usb30FollowsSelection
    rw [Usb30Driver.chart_step bsp session.driver notLink, isOther, stays]
    exact (followsSelection_stay consistent).mpr fun unselects => unselects.elim
  cases event with
  | setup packet reply => exact usb30FollowsSelection_setup bsp consistent packet reply
  | ep0Status => exact usb30FollowsSelection_ep0Status bsp consistent
  | ep0In => exact iff_of_true (quiet id rfl rfl) trivial
  | ep0Out => exact iff_of_true (quiet id rfl rfl) trivial
  | epIn i notControl ctrl reply => exact iff_of_true (quiet id rfl rfl) trivial
  | epOut i notControl ctrl reply => exact iff_of_true (quiet id rfl rfl) trivial
  | link interrupt => exact absurd trivial notLink
  | call apiCall => exact iff_of_true (quiet id rfl rfl) trivial

end Usb30

/-! ## Runs -/

/-- From a device that is not configured, CONFIGURED and the selected configuration agree after
every event exactly if the device is never CONFIGURED when the host deselects the configuration,
resets the bus or ends a request for another address. -/
theorem configured_while_selected (bsp : Usb2Bsp) :
    (∀ (session : Session Usb2Driver) (events : List Usb2Event),
      session.driver.chart.Unselected →
        (EveryStep (Usb2Event.serve bsp) (Usb2FollowsSelection bsp) session events ↔
          EveryStep (Usb2Event.serve bsp) Usb2KeepsSelection session events)) ∧
    (∀ (session : Session Usb30Driver) (events : List Usb30Event),
      session.driver.chart.Unselected → (∀ event ∈ events, ¬event.IsLink) →
        (EveryStep (Usb30Event.serve bsp) (Usb30FollowsSelection bsp) session events ↔
          EveryStep (Usb30Event.serve bsp) Usb30KeepsSelection session events)) := by
  constructor
  · intro session events unselected
    refine @everyStep_iff _ _ (Usb2Event.serve bsp)
      (fun session => session.driver.chart.Consistent ∧ session.driver.chart.state ≠ .powered)
      (fun _ _ => True) _ _ ?_ ?_ _ _ ⟨unselected.consistent, unselected.not_powered⟩
      (everyStep_of_forall (fun _ _ _ => trivial) session)
    · rintro session event ⟨consistent, running⟩ -
      exact usb2FollowsSelection_iff bsp consistent running event
    · rintro session event next ⟨consistent, running⟩ - met stepped
      obtain rfl := Option.some.inj stepped
      have follows := (usb2FollowsSelection_iff bsp consistent running event).mpr met
      exact ⟨follows.consistent, Usb2Driver.running_step bsp running event⟩
  · intro session events unselected notLink
    refine @everyStep_iff _ _ (Usb30Event.serve bsp)
      (fun session => session.driver.chart.Consistent) (fun _ event => ¬event.IsLink) _ _ ?_ ?_ _ _
      unselected.consistent (everyStep_of_forall (fun event inRun _ => notLink event inRun) session)
    · intro session event consistent notLink
      exact usb30FollowsSelection_iff bsp consistent notLink
    · intro session event next consistent notLink met stepped
      obtain rfl := Option.some.inj stepped
      exact ((usb30FollowsSelection_iff bsp consistent notLink).mpr met).consistent

/-! ## Short runs -/

namespace Configured

def bsp : Usb2Bsp := .bit3

def request (bRequest value : U8) : UsbSetup := ⟨0#8, bRequest, ⟨value, 0#8⟩, ⟨0#8, 0#8⟩, 0#16⟩

theorem usb2Idle_unselected : usb2Idle.driver.chart.Unselected := ⟨.inl rfl, rfl⟩

theorem usb30Idle_unselected : usb30Idle.driver.chart.Unselected := ⟨.inl rfl, rfl⟩

/-- The enumeration of a device with one configuration. -/
def usb2Enumeration : List Usb2Event :=
  [.busReset noReply, .setup (request usbSetAddress 7#8) noReply, .inDone 0 noReply,
    .setup (request usbSetConfiguration 1#8) noReply]

def usb30Enumeration : List Usb30Event :=
  [.setup (request usbSetAddress 7#8) noReply, .ep0Status,
    .setup (request usbSetConfiguration 1#8) noReply, .ep0Status]

theorem enumeration_configures :
    EveryStep (Usb2Event.serve bsp) (Usb2FollowsSelection bsp) usb2Idle usb2Enumeration ∧
      EveryStep (Usb30Event.serve bsp) (Usb30FollowsSelection bsp) usb30Idle
        usb30Enumeration := by
  refine ⟨((configured_while_selected bsp).1 _ _ usb2Idle_unselected).mpr ?_,
    ((configured_while_selected bsp).2 _ _ usb30Idle_unselected ?_).mpr ?_⟩
  · decide
  · decide
  · decide

/-- SET_CONFIGURATION of value 0 leaves the device CONFIGURED, and a bus reset leaves the
configuration selected. -/
theorem deselection_is_missed :
    (¬EveryStep (Usb2Event.serve bsp) (Usb2FollowsSelection bsp) usb2Idle
      [.setup (request usbSetConfiguration 1#8) noReply,
        .setup (request usbSetConfiguration 0#8) noReply]) ∧
    (¬EveryStep (Usb2Event.serve bsp) (Usb2FollowsSelection bsp) usb2Idle
      [.setup (request usbSetConfiguration 1#8) noReply, .busReset noReply]) ∧
    ¬EveryStep (Usb30Event.serve bsp) (Usb30FollowsSelection bsp) usb30Idle
      [.setup (request usbSetConfiguration 1#8) noReply,
        .setup (request usbSetConfiguration 0#8) noReply] := by
  refine ⟨fun every => ?_, fun every => ?_, fun every => ?_⟩
  · obtain ⟨follows, -⟩ := (everyStep_cons rfl).mp ((everyStep_cons rfl).mp every).2
    exact follows.consistent.mp rfl rfl
  · obtain ⟨follows, -⟩ := (everyStep_cons rfl).mp ((everyStep_cons rfl).mp every).2
    exact UsbDeviceState.noConfusion (follows.consistent.mpr (by decide))
  · obtain ⟨follows, -⟩ := (everyStep_cons rfl).mp ((everyStep_cons rfl).mp every).2
    exact follows.consistent.mp rfl rfl

end Configured

end WchCh56x.Usb
