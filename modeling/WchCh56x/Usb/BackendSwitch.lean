import WchCh56x.Usb.Backends
import WchCh56x.Usb.Usb30Chart

/-!
# The switch from USB3 to USB2

USB2 is started once, from the driver that USB3 leaves, and only one backend is on: unless
the fallback finds a device that has no speed of USB2, or the interrupt that falls back
resets the link as well.
-/

namespace WchCh56x.Usb

open Support.Runs

/-! ## What the reset of a link leaves of USB2 -/

namespace Usb2Driver

theorem eq_of_usb2Only {left right : Usb2Driver} (same : left.usb2Only = right.usb2Only) :
    left = right.setUsb30 left.usb30 := by
  change left.usb2Only.setUsb30 left.usb30 = right.usb2Only.setUsb30 left.usb30
  rw [same]

section

variable (driver : Usb2Driver) (usb30 : Usb30Endpoints)

theorem setupTx_setUsb30 (endpNum : Fin 16) :
    (driver.setUsb30 usb30).setupTx endpNum = (driver.setupTx endpNum).setUsb30 usb30 := rfl

theorem setupRx_setUsb30 (endpNum : Fin 16) :
    (driver.setUsb30 usb30).setupRx endpNum = (driver.setupRx endpNum).setUsb30 usb30 := rfl

theorem setupEndp0_setUsb30 :
    (driver.setUsb30 usb30).setupEndp0 = driver.setupEndp0.setUsb30 usb30 := rfl

theorem setupBlocks_setUsb30 (mask : U32) (blocks : List (EndpDir × Fin 16)) :
    (driver.setUsb30 usb30).setupBlocks mask blocks =
      (driver.setupBlocks mask blocks).setUsb30 usb30 := by
  induction blocks generalizing driver with
  | nil => rfl
  | cons block rest ih =>
      obtain ⟨dir, endpNum⟩ := block
      cases dir with
      | tx =>
          unfold setupBlocks
          rw [setupTx_setUsb30, ih, ih]
          split
          · rfl
          · rfl
      | rx =>
          unfold setupBlocks
          have same : (driver.setUsb30 usb30).device = driver.device := rfl
          rw [setupRx_setUsb30, ih, ih, same]
          split
          · split
            · rfl
            · rfl
          · rfl

theorem usb2SetupEndpoints_setUsb30 :
    (driver.setUsb30 usb30).usb2SetupEndpoints = driver.usb2SetupEndpoints.setUsb30 usb30 := by
  have same : (driver.setUsb30 usb30).device = driver.device := rfl
  unfold usb2SetupEndpoints usb2SetupEndpointsInMask
  rw [setupEndp0_setUsb30, setupBlocks_setUsb30, same]
  split
  · rfl
  · rfl

/-- `usb2_device_init` leaves the endpoints of USB3 alone. -/
theorem usb2DeviceInit_setUsb30 :
    (driver.setUsb30 usb30).usb2DeviceInit = driver.usb2DeviceInit.setUsb30 usb30 :=
  usb2SetupEndpoints_setUsb30
    { driver with
      device := { driver.device with addr := 0#8, state := .powered }
      usb2Endp0MaxPacketSize :=
        (bMaxPacketSize0 driver.memory driver.device.usbDescriptors.usb2DeviceDescr).toNat } usb30

end

end Usb2Driver

namespace Usb30Driver

variable (driver : Usb30Driver) (interrupt : LinkInterrupt)

theorem usb2Only_notReady (i : Fin 8) :
    (driver.notReady i).toUsb2Driver.usb2Only = driver.toUsb2Driver.usb2Only := by
  have first (enabled : Prop) [Decidable enabled] :
      (if enabled then
        driver.setUepTxCtrl i
          (usb30InSet (driver.usb30.uepTxCtrl i) usb30Disable usb30Nrdy 0#32 0#32)
      else
        driver).toUsb2Driver.usb2Only = driver.toUsb2Driver.usb2Only := by
    split
    · rfl
    · rfl
  have inBlock := first (EnabledIn driver.device.endpointMask .tx (usb30EndpNum i))
  unfold notReady
  dsimp only
  split
  · exact inBlock
  · exact inBlock

theorem usb2Only_linkHotReset :
    driver.linkHotReset.toUsb2Driver.usb2Only = driver.toUsb2Driver.usb2Only :=
  foldl_keeps (setUepTxCtrl
    { driver with usbControl := driver.usbControl ||| (1#32 <<< 31) } 0 0#32)
      (fun driver => driver.toUsb2Driver.usb2Only) usb2Only_notReady usb30Endpoints

/-- Without a reset, the rest of `LINK_IRQHandler` does not touch USB2. -/
theorem usb2Only_linkChanges (stays : ¬Backends.Resets interrupt) :
    (driver.linkChanges interrupt).toUsb2Driver.usb2Only = driver.toUsb2Driver.usb2Only := by
  have term : driver.whenFlag interrupt.termPresent (linkTermPresent · interrupt.linkPresent) =
      driver := by
    cases termPresent : interrupt.termPresent with
    | false => rfl
    | true =>
        cases linkPresent : interrupt.linkPresent with
        | false => exact absurd (.inr ⟨termPresent, linkPresent⟩) stays
        | true => rfl
  have warm : interrupt.warmReset = false := Bool.eq_false_of_not_eq_true fun warm => stays (.inl warm)
  have txeq : (driver.whenFlag interrupt.txeq linkTxeq).toUsb2Driver = driver.toUsb2Driver := by
    cases interrupt.txeq with
    | false => rfl
    | true => rfl
  unfold linkChanges
  rw [term, warm, ← txeq]
  cases interrupt.hotReset with
  | false => rfl
  | true => exact (driver.whenFlag interrupt.txeq linkTxeq).usb2Only_linkHotReset

/-- A fallback to USB2 starts it from what USB3 left. -/
theorem linkIrqHandler_of_fallback (disable : interrupt.disable = true)
    (fallback : driver.usb2FallbackEnabled = true)
    (isUsb2 : Backends.IsUsb2 (driver.whenFlag interrupt.ready linkReady).device.speed)
    (stays : ¬Backends.Resets interrupt) :
    ∃ usb30, (driver.linkIrqHandler interrupt).toUsb2Driver =
      ((driver.whenFlag interrupt.ready linkReady).toUsb2Driver.setUsb30 usb30).usb2DeviceInit := by
  have enabled : (driver.whenFlag interrupt.ready linkReady).usb2FallbackEnabled = true := by
    rw [← fallback]
    cases interrupt.ready with
    | false => rfl
    | true =>
        change driver.linkReady.usb2FallbackEnabled = _
        unfold linkReady
        split
        · rfl
        · rfl
  unfold linkIrqHandler
  dsimp only
  generalize driver.whenFlag interrupt.ready linkReady = found at enabled isUsb2 ⊢
  rw [if_pos disable, if_pos enabled, Backends.usb30_linkFallback_of_usb2 _ isUsb2]
  have same := Usb2Driver.eq_of_usb2Only (usb2Only_linkChanges
    { (found.setState .detached).usb30DeviceDeinit with
      toUsb2Driver := (found.setState .detached).usb30DeviceDeinit.usb2DeviceInit } interrupt stays)
  generalize ({ (found.setState .detached).usb30DeviceDeinit with
    toUsb2Driver := (found.setState .detached).usb30DeviceDeinit.usb2DeviceInit } :
      Usb30Driver).linkChanges interrupt = next at same ⊢
  exact ⟨next.usb30, same.trans (found.toUsb2Driver.usb2DeviceInit_setUsb30 next.usb30).symm⟩

end Usb30Driver

namespace Backends

variable {bsp : Usb2Bsp} {started : Usb30Driver} {backends next : Backends}

/-! ## Steps -/

theorem oneBackend_of_usb30 (isOn : next.pfic = ⟨true, true, false⟩)
    (ran : ∃ events, next.toUsb30Driver = Usb30Event.run bsp started events) :
    next.OneBackend bsp started where
  together := by rw [isOn]
  one := by rw [isOn]; rfl
  usb30 _ := ran
  usb2 isUsb2 := by
    rw [isOn] at isUsb2
    exact absurd isUsb2 Bool.false_ne_true

theorem oneBackend_of_usb2 (isOn : next.pfic = ⟨false, false, true⟩)
    (ran : HandedOver bsp started next.toUsb2Driver) : next.OneBackend bsp started where
  together := by rw [isOn]
  one := by rw [isOn]; rfl
  usb30 isUsb30 := by
    rw [isOn] at isUsb30
    exact absurd isUsb30 Bool.false_ne_true
  usb2 _ := ran

theorem OneBackend.pfic_cases (one : backends.OneBackend bsp started) :
    backends.pfic = ⟨true, true, false⟩ ∨ backends.pfic = ⟨false, false, true⟩ := by
  have together := one.together
  have others := one.one
  cases isOn : backends.pfic with
  | mk usbss link usbhs =>
      rw [isOn] at together others
      dsimp only at together others
      subst together others
      cases usbss with
      | false => exact .inr rfl
      | true => exact .inl rfl

theorem handle_usb30_driver (event : Usb30Event) :
    (backends.handle bsp (.usb30 event)).toUsb30Driver = event.step bsp backends.toUsb30Driver := by
  cases event with
  | link interrupt => exact backends.linkIrqHandler_driver interrupt
  | setup packet reply => rfl
  | ep0In => rfl
  | ep0Status => rfl
  | ep0Out => rfl
  | epIn i notControl ctrl reply => rfl
  | epOut i notControl ctrl reply => rfl
  | call apiCall => rfl

theorem ran_handle_usb30 (event : Usb30Event)
    (ran : ∃ events, backends.toUsb30Driver = Usb30Event.run bsp started events) :
    ∃ events, (backends.handle bsp (.usb30 event)).toUsb30Driver =
      Usb30Event.run bsp started events := by
  obtain ⟨events, ran⟩ := ran
  refine ⟨events ++ [event], ?_⟩
  rw [handle_usb30_driver, ran, Usb30Event.run, Usb30Event.run, List.foldl_append]
  rfl

theorem HandedOver.step {driver : Usb2Driver} (ran : HandedOver bsp started driver)
    (event : Usb2Event) : HandedOver bsp started (event.step bsp driver) := by
  obtain ⟨before, usb30, events, isUsb2, ran⟩ := ran
  refine ⟨before, usb30, events ++ [event], isUsb2, ?_⟩
  rw [ran, Usb2Event.run, Usb2Event.run, List.foldl_append]
  rfl

/-- The branch for `LINK_RDY_FLAG` alone is a run, too. -/
theorem ran_whenFlag_linkReady (flag : Bool) {driver : Usb30Driver}
    (ran : ∃ events, driver = Usb30Event.run bsp started events) :
    ∃ events, driver.whenFlag flag Usb30Driver.linkReady = Usb30Event.run bsp started events := by
  obtain ⟨events, ran⟩ := ran
  refine ⟨events ++ [.link ⟨flag, false, false, false, false, false, false⟩], ?_⟩
  rw [ran, Usb30Event.run, Usb30Event.run, List.foldl_append]
  rfl

/-- The fallback leaves one backend on exactly under its condition. -/
theorem oneBackend_linkIrqHandler (isOn : backends.pfic = ⟨true, true, false⟩)
    (ran : ∃ events, backends.toUsb30Driver = Usb30Event.run bsp started events)
    (interrupt : Usb30Driver.LinkInterrupt) :
    (backends.linkIrqHandler interrupt).OneBackend bsp started ↔
      backends.FallsBack (.usb30 (.link interrupt)) := by
  have linkOn : backends.pfic.link = true := by rw [isOn]
  have ranNext := ran_handle_usb30 (.link interrupt) ran
  by_cases falls : interrupt.disable = true ∧ backends.usb2FallbackEnabled = true
  · obtain ⟨disable, fallback⟩ := falls
    have left := backends.linkIrqHandler_pfic_of_fallback interrupt disable fallback
    have condition : backends.FallsBack (.usb30 (.link interrupt)) ↔
        (IsUsb2 (backends.speedAfterReady interrupt) ↔ ¬Resets interrupt) :=
      ⟨fun met => met linkOn disable fallback, fun met _ _ _ => met⟩
    rw [condition]
    by_cases resets : Resets interrupt
    · rw [if_pos resets] at left
      by_cases isUsb2 : IsUsb2 (backends.speedAfterReady interrupt)
      · -- both are on
        rw [decide_eq_true isUsb2] at left
        refine iff_of_false (fun one => ?_) fun met => met.mp isUsb2 resets
        have others := one.one
        rw [left] at others
        exact absurd others.symm Bool.false_ne_true
      · rw [decide_eq_false isUsb2] at left
        exact iff_of_true (oneBackend_of_usb30 left ranNext)
          ⟨fun isUsb2' => absurd isUsb2' isUsb2, fun stays => absurd resets stays⟩
    · rw [if_neg resets] at left
      by_cases isUsb2 : IsUsb2 (backends.speedAfterReady interrupt)
      · rw [decide_eq_true isUsb2] at left
        refine iff_of_true (oneBackend_of_usb2 left ?_) ⟨fun _ => resets, fun _ => isUsb2⟩
        obtain ⟨usb30, init⟩ := backends.toUsb30Driver.linkIrqHandler_of_fallback interrupt disable
          fallback isUsb2 resets
        obtain ⟨before, ranReady⟩ := ran_whenFlag_linkReady interrupt.ready ran
        unfold speedAfterReady at isUsb2
        rw [ranReady] at init isUsb2
        refine ⟨before, usb30, [], isUsb2, ?_⟩
        rw [linkIrqHandler_driver]
        exact init
      · -- none is on
        rw [decide_eq_false isUsb2] at left
        refine iff_of_false (fun one => ?_) fun met => isUsb2 (met.mpr resets)
        have others := one.one
        rw [left] at others
        exact absurd others Bool.false_ne_true
  · have left := backends.linkIrqHandler_pfic_of_not_fallback interrupt falls isOn
    exact iff_of_true (oneBackend_of_usb30 left ranNext)
      fun _ disable fallback => absurd ⟨disable, fallback⟩ falls

theorem oneBackend_handle_of_usb30 (isOn : backends.pfic = ⟨true, true, false⟩)
    (ran : ∃ events, backends.toUsb30Driver = Usb30Event.run bsp started events)
    (event : BackendsEvent) (enters : backends.Enters event) :
    (backends.handle bsp event).OneBackend bsp started ↔ backends.FallsBack event := by
  have usbhsOff : ¬backends.pfic.usbhs = true := by
    rw [isOn]
    exact Bool.false_ne_true
  have stays (event : Usb30Event) (kept : (backends.handle bsp (.usb30 event)).pfic = backends.pfic) :
      (backends.handle bsp (.usb30 event)).OneBackend bsp started :=
    oneBackend_of_usb30 (kept.trans isOn) (ran_handle_usb30 event ran)
  cases event with
  | usb30 event =>
      cases event with
      | link interrupt => exact oneBackend_linkIrqHandler isOn ran interrupt
      | setup packet reply => exact iff_of_true (stays (.setup packet reply) rfl) trivial
      | ep0In => exact iff_of_true (stays .ep0In rfl) trivial
      | ep0Status => exact iff_of_true (stays .ep0Status rfl) trivial
      | ep0Out => exact iff_of_true (stays .ep0Out rfl) trivial
      | epIn i notControl ctrl reply =>
          exact iff_of_true (stays (.epIn i notControl ctrl reply) rfl) trivial
      | epOut i notControl ctrl reply =>
          exact iff_of_true (stays (.epOut i notControl ctrl reply) rfl) trivial
      | call apiCall => exact iff_of_true (stays (.call apiCall) rfl) trivial
  | usb2 event =>
      cases event with
      | call apiCall => exact iff_of_true (stays (.call apiCall) rfl) trivial
      | setup packet reply => exact absurd enters usbhsOff
      | inDone endpNum reply => exact absurd enters usbhsOff
      | outDone endpNum numBytesReceived togok reply => exact absurd enters usbhsOff
      | nak endpNum reply => exact absurd enters usbhsOff
      | busReset reply => exact absurd enters usbhsOff

/-- After the switch, the driver runs on as one of USB2. -/
theorem oneBackend_handle_of_usb2 (isOn : backends.pfic = ⟨false, false, true⟩)
    (ran : HandedOver bsp started backends.toUsb2Driver) (event : BackendsEvent)
    (enters : backends.Enters event) :
    (backends.handle bsp event).OneBackend bsp started ∧ backends.FallsBack event := by
  have linkOff : ¬backends.pfic.link = true := by
    rw [isOn]
    exact Bool.false_ne_true
  have usbssOff : ¬backends.pfic.usbss = true := by
    rw [isOn]
    exact Bool.false_ne_true
  cases event with
  | usb30 event =>
      cases event with
      | call apiCall => exact ⟨oneBackend_of_usb2 isOn (ran.step (.call apiCall)), trivial⟩
      | link interrupt => exact absurd enters linkOff
      | setup packet reply => exact absurd enters usbssOff
      | ep0In => exact absurd enters usbssOff
      | ep0Status => exact absurd enters usbssOff
      | ep0Out => exact absurd enters usbssOff
      | epIn i notControl ctrl reply => exact absurd enters usbssOff
      | epOut i notControl ctrl reply => exact absurd enters usbssOff
  | usb2 event => exact ⟨oneBackend_of_usb2 isOn (ran.step event), trivial⟩

theorem fallsBack_of_not_enters {event : BackendsEvent} (stays : ¬backends.Enters event) :
    backends.FallsBack event := by
  cases event with
  | usb30 event =>
      cases event with
      | link interrupt => exact fun linkOn => absurd linkOn stays
      | setup packet reply => trivial
      | ep0In => trivial
      | ep0Status => trivial
      | ep0Out => trivial
      | epIn i notControl ctrl reply => trivial
      | epOut i notControl ctrl reply => trivial
      | call apiCall => trivial
  | usb2 event => trivial

theorem oneBackend_step (one : backends.OneBackend bsp started) {event : BackendsEvent}
    (stepped : backends.step bsp event = some next) :
    next.OneBackend bsp started ↔ backends.FallsBack event := by
  obtain rfl := Option.some.inj stepped
  by_cases enters : backends.Enters event
  · rw [if_pos enters]
    rcases one.pfic_cases with isOn | isOn
    · exact oneBackend_handle_of_usb30 isOn (one.usb30 (by rw [isOn])) event enters
    · have both := oneBackend_handle_of_usb2 isOn (one.usb2 (by rw [isOn])) event enters
      exact iff_of_true both.1 both.2
  · rw [if_neg enters]
    exact iff_of_true one (fallsBack_of_not_enters enters)

/-- Another fallback leaves both backends on, or none. -/
theorem handle_pfic_of_not_fallsBack {event : BackendsEvent} (fails : ¬backends.FallsBack event) :
    (backends.handle bsp event).pfic = ⟨true, true, true⟩ ∨
      (backends.handle bsp event).pfic = ⟨false, false, false⟩ := by
  rcases event with usb30 | usb2
  swap
  · exact absurd trivial fails
  cases usb30 with
  | link interrupt =>
      have met : ¬(backends.pfic.link = true → interrupt.disable = true →
          backends.usb2FallbackEnabled = true →
            (IsUsb2 (backends.speedAfterReady interrupt) ↔ ¬Resets interrupt)) := fails
      simp only [Classical.not_imp] at met
      obtain ⟨_, disable, fallback, uneven⟩ := met
      change (backends.linkIrqHandler interrupt).pfic = _ ∨
        (backends.linkIrqHandler interrupt).pfic = _
      rw [backends.linkIrqHandler_pfic_of_fallback interrupt disable fallback]
      by_cases resets : Resets interrupt
      · have isUsb2 : IsUsb2 (backends.speedAfterReady interrupt) := by
          by_contra notUsb2
          exact uneven ⟨fun isUsb2 => absurd isUsb2 notUsb2, fun stays => absurd resets stays⟩
        rw [if_pos resets, decide_eq_true isUsb2]
        exact .inl rfl
      · have notUsb2 : ¬IsUsb2 (backends.speedAfterReady interrupt) := fun isUsb2 =>
          uneven ⟨fun _ => resets, fun _ => isUsb2⟩
        rw [if_neg resets, decide_eq_false notUsb2]
        exact .inr rfl
  | setup packet reply => exact absurd trivial fails
  | ep0In => exact absurd trivial fails
  | ep0Status => exact absurd trivial fails
  | ep0Out => exact absurd trivial fails
  | epIn i notControl ctrl reply => exact absurd trivial fails
  | epOut i notControl ctrl reply => exact absurd trivial fails
  | call apiCall => exact absurd trivial fails

/-! ## Runs -/

/-- In every run, one backend is on and serves the device alone, exactly if every fallback finds a
speed of USB2 and leaves the link alone, or finds none and starts USB3 once more.  Any other
fallback leaves both backends on, or none. -/
theorem one_backend_serves (bsp : Usb2Bsp) (driver : Usb30Driver) (enableUsb2Fallback : Bool)
    (events : List BackendsEvent) :
    (Always (step bsp)
          (fun backends => backends.OneBackend bsp (driver.usb30DeviceInit enableUsb2Fallback))
          (start driver enableUsb2Fallback) events ↔
        EveryStep (step bsp) FallsBack (start driver enableUsb2Fallback) events) ∧
      ∀ (backends : Backends) (event : BackendsEvent), ¬backends.FallsBack event →
        (backends.handle bsp event).pfic = ⟨true, true, true⟩ ∨
          (backends.handle bsp event).pfic = ⟨false, false, false⟩ := by
  have started : (start driver enableUsb2Fallback).OneBackend bsp
      (driver.usb30DeviceInit enableUsb2Fallback) := oneBackend_of_usb30 rfl ⟨[], rfl⟩
  refine ⟨?_, fun backends event fails => handle_pfic_of_not_fallsBack fails⟩
  refine @always_iff_everyStep _ _ _ (fun _ => True) _ _ (fun _ _ => True) _ (fun _ one => one)
    (fun _ _ _ _ => ⟨_, rfl, trivial⟩) ?_ _ _ trivial started
    (everyStep_of_forall (fun _ _ _ => trivial) _)
  intro backends event next _ one _ stepped
  have exactly := oneBackend_step one stepped
  exact ⟨exactly.mp, exactly.mpr⟩

end Backends

end WchCh56x.Usb
