import WchCh56x.Support.Runs
import WchCh56x.Usb.EventFrames
import WchCh56x.Usb.Usb30Irq

/-!
# Two backends on one device

The device starts with USB3 and falls back to USB2 when the link is disabled.  The
functions that start and stop a backend enable and disable its interrupts, and an
event of a backend whose interrupts are disabled does not enter its handler.
-/

namespace WchCh56x.Usb

open Support.Runs

structure Pfic where
  usbss : Bool
  link : Bool
  usbhs : Bool
  deriving DecidableEq, Repr

/-- `usb30_device_init` enables the interrupts of USB3. -/
def Pfic.withUsb30 (pfic : Pfic) : Pfic := { pfic with usbss := true, link := true }

/-- The drivers with the interrupts of both backends. -/
structure Backends extends Usb30Driver where
  pfic : Pfic

namespace Usb2Driver

def usb2Only (driver : Usb2Driver) : Usb2Driver := driver.setUsb30 .initial

end Usb2Driver

namespace Backends

section

variable (backends : Backends)

/-- A step of the USB3 driver that leaves the interrupts alone. -/
def on (change : Usb30Driver → Usb30Driver) : Backends :=
  { backends with toUsb30Driver := change backends.toUsb30Driver }

def usb2DeviceDeinit : Backends := { backends with pfic := { backends.pfic with usbhs := false } }

def usb2DeviceInit : Backends :=
  let backends := { backends with pfic := { backends.pfic with usbhs := true } }
  match backends.device.speed with
  | .usb2Highspeed | .usb2Fullspeed | .usb2Lowspeed =>
      { backends with toUsb2Driver := backends.toUsb2Driver.usb2DeviceInit }
  | .none | .usb30Superspeed => backends.usb2DeviceDeinit

def usb30DeviceInit (enableUsb2Fallback : Bool) : Backends :=
  let backends := { backends with pfic := backends.pfic.withUsb30 }
  backends.on fun driver => driver.usb30DeviceInit enableUsb2Fallback

def usb30DeviceDeinit : Backends :=
  let backends := { backends with pfic := { backends.pfic with usbss := false, link := false } }
  backends.on Usb30Driver.usb30DeviceDeinit

def usb30BusReset : Backends := backends.usb30DeviceDeinit.usb30DeviceInit backends.usb2FallbackEnabled

/-- The branch of `LINK_IRQHandler` for `LINK_DISABLE_FLAG`, up to the test for the fallback. -/
def linkDisabled : Backends := (backends.on (·.setState .detached)).usb30DeviceDeinit

/-- The end of that branch with the USB2 fallback. -/
def linkFallback : Backends :=
  { backends.linkDisabled with
    pfic := { backends.linkDisabled.pfic with usbss := false, link := false } }.usb2DeviceInit

/-- The branch for `TERM_PRESENT_FLAG`. -/
def linkTermPresent (linkPresent : Bool) : Backends :=
  if linkPresent then backends else backends.usb30BusReset.on (·.setState .default)

/-- The branch for `WARM_RESET_FLAG`. -/
def linkWarmReset : Backends := backends.usb30BusReset.on (·.setAddress 0#32)

def whenFlag (flag : Bool) (branch : Backends → Backends) : Backends :=
  if flag then branch backends else backends

/-- The branches of `LINK_IRQHandler` after the one for `LINK_DISABLE_FLAG`. -/
def linkChanges (interrupt : Usb30Driver.LinkInterrupt) : Backends :=
  (((backends.whenFlag interrupt.termPresent (linkTermPresent · interrupt.linkPresent)).whenFlag
    interrupt.txeq (·.on Usb30Driver.linkTxeq)).whenFlag interrupt.warmReset linkWarmReset).whenFlag
      interrupt.hotReset (·.on Usb30Driver.linkHotReset)

/-- `LINK_IRQHandler` without the settings of the physical layer. -/
def linkIrqHandler (interrupt : Usb30Driver.LinkInterrupt) : Backends :=
  let backends := backends.whenFlag interrupt.ready (·.on Usb30Driver.linkReady)
  if interrupt.disable then
    if backends.usb2FallbackEnabled then
      backends.linkFallback.linkChanges interrupt
    else
      backends.linkDisabled.usb30DeviceInit false
  else
    backends.linkChanges interrupt

end

/-! ## Runs -/

end Backends

inductive BackendsEvent where
  | usb30 (event : Usb30Event)
  | usb2 (event : Usb2Event)

namespace Backends

section

variable (bsp : Usb2Bsp) (backends : Backends)

/-- The interrupt of the event is enabled; calls of the user need none. -/
def Enters : BackendsEvent → Prop
  | .usb30 (.link _) => backends.pfic.link
  | .usb30 (.call _) | .usb2 (.call _) => True
  | .usb30 _ => backends.pfic.usbss
  | .usb2 _ => backends.pfic.usbhs

instance : (event : BackendsEvent) → Decidable (backends.Enters event)
  | .usb30 (.link _) => inferInstanceAs (Decidable (_ = true))
  | .usb30 (.call _) | .usb2 (.call _) => inferInstanceAs (Decidable True)
  | .usb30 (.setup _ _) | .usb30 .ep0In | .usb30 .ep0Status | .usb30 .ep0Out |
      .usb30 (.epIn _ _ _ _) | .usb30 (.epOut _ _ _ _) => inferInstanceAs (Decidable (_ = true))
  | .usb2 (.setup _ _) | .usb2 (.inDone _ _) | .usb2 (.outDone _ _ _ _) | .usb2 (.nak _ _) |
      .usb2 (.busReset _) => inferInstanceAs (Decidable (_ = true))

def handle : BackendsEvent → Backends
  | .usb30 (.link interrupt) => backends.linkIrqHandler interrupt
  | .usb30 event => backends.on fun driver => event.step bsp driver
  | .usb2 event => { backends with toUsb2Driver := event.step bsp backends.toUsb2Driver }

def step (event : BackendsEvent) : Option Backends :=
  some (if backends.Enters event then backends.handle bsp event else backends)

def start (driver : Usb30Driver) (enableUsb2Fallback : Bool) : Backends :=
  usb30DeviceInit ⟨driver, ⟨false, false, false⟩⟩ enableUsb2Fallback

def IsUsb2 (speed : UsbDeviceSpeed) : Prop :=
  speed = .usb2Highspeed ∨ speed = .usb2Fullspeed ∨ speed = .usb2Lowspeed

instance (speed : UsbDeviceSpeed) : Decidable (IsUsb2 speed) :=
  inferInstanceAs (Decidable (_ ∨ _ ∨ _))

/-- The interrupt starts USB3 once more. -/
def Resets (interrupt : Usb30Driver.LinkInterrupt) : Prop :=
  interrupt.warmReset = true ∨ interrupt.termPresent = true ∧ interrupt.linkPresent = false

instance (interrupt : Usb30Driver.LinkInterrupt) : Decidable (Resets interrupt) :=
  inferInstanceAs (Decidable (_ ∨ _ ∧ _))

/-- The speed of the device when `LINK_DISABLE_FLAG` is looked at. -/
def speedAfterReady (interrupt : Usb30Driver.LinkInterrupt) : UsbDeviceSpeed :=
  (backends.toUsb30Driver.whenFlag interrupt.ready Usb30Driver.linkReady).device.speed

/-- The fallback finds a speed of USB2 and no reset of the link in the same interrupt, or neither. -/
def FallsBack : BackendsEvent → Prop
  | .usb30 (.link interrupt) =>
      backends.pfic.link = true → interrupt.disable = true → backends.usb2FallbackEnabled = true →
        (IsUsb2 (backends.speedAfterReady interrupt) ↔ ¬Resets interrupt)
  | _ => True

/-- A run of USB3, and after it a run of USB2 from what USB3 left. -/
def HandedOver (started : Usb30Driver) (driver : Usb2Driver) : Prop :=
  ∃ before usb30 events, IsUsb2 (Usb30Event.run bsp started before).device.speed ∧
    driver = Usb2Event.run bsp
      ((Usb30Event.run bsp started before).toUsb2Driver.setUsb30 usb30).usb2DeviceInit events

/-- One backend is on, and its driver is one that this backend alone leads to. -/
structure OneBackend (started : Usb30Driver) : Prop where
  together : backends.pfic.usbss = backends.pfic.link
  one : backends.pfic.usbhs = !backends.pfic.usbss
  usb30 : backends.pfic.usbss = true → ∃ events,
    backends.toUsb30Driver = Usb30Event.run bsp started events
  usb2 : backends.pfic.usbhs = true → HandedOver bsp started backends.toUsb2Driver

end

/-! ## The handler of the link -/

section

variable (backends : Backends) (interrupt : Usb30Driver.LinkInterrupt)

theorem whenFlag_driver (flag : Bool) {branch : Backends → Backends}
    {change : Usb30Driver → Usb30Driver}
    (same : ∀ backends : Backends, (branch backends).toUsb30Driver = change backends.toUsb30Driver) :
    (backends.whenFlag flag branch).toUsb30Driver = backends.toUsb30Driver.whenFlag flag change := by
  cases flag with
  | false => rfl
  | true => exact same backends

theorem linkTermPresent_driver (linkPresent : Bool) :
    (backends.linkTermPresent linkPresent).toUsb30Driver =
      backends.toUsb30Driver.linkTermPresent linkPresent := by
  cases linkPresent with
  | false => rfl
  | true => rfl

theorem linkChanges_driver :
    (backends.linkChanges interrupt).toUsb30Driver = backends.toUsb30Driver.linkChanges interrupt := by
  unfold linkChanges Usb30Driver.linkChanges
  rw [@whenFlag_driver _ _ _ Usb30Driver.linkHotReset fun _ => rfl,
    @whenFlag_driver _ _ _ Usb30Driver.linkWarmReset fun _ => rfl,
    @whenFlag_driver _ _ _ Usb30Driver.linkTxeq fun _ => rfl,
    @whenFlag_driver _ _ _ (·.linkTermPresent interrupt.linkPresent)
      fun backends => backends.linkTermPresent_driver interrupt.linkPresent]

theorem usb2DeviceInit_of_usb2 (isUsb2 : IsUsb2 backends.device.speed) :
    backends.usb2DeviceInit =
      { backends with
        toUsb2Driver := backends.toUsb2Driver.usb2DeviceInit
        pfic := { backends.pfic with usbhs := true } } := by
  unfold usb2DeviceInit
  dsimp only
  rcases isUsb2 with isSpeed | isSpeed | isSpeed
  · rw [isSpeed]
  · rw [isSpeed]
  · rw [isSpeed]

theorem usb2DeviceInit_of_not_usb2 (notUsb2 : ¬IsUsb2 backends.device.speed) :
    backends.usb2DeviceInit = { backends with pfic := { backends.pfic with usbhs := false } } := by
  unfold usb2DeviceInit
  dsimp only
  cases isSpeed : backends.device.speed with
  | none => rfl
  | usb2Lowspeed => exact absurd (.inr (.inr isSpeed)) notUsb2
  | usb2Fullspeed => exact absurd (.inr (.inl isSpeed)) notUsb2
  | usb2Highspeed => exact absurd (.inl isSpeed) notUsb2
  | usb30Superspeed => rfl

theorem usb30_linkFallback_of_usb2 (driver : Usb30Driver) (isUsb2 : IsUsb2 driver.device.speed) :
    driver.linkFallback =
      { (driver.setState .detached).usb30DeviceDeinit with
        toUsb2Driver := (driver.setState .detached).usb30DeviceDeinit.usb2DeviceInit } := by
  have same : (driver.setState .detached).usb30DeviceDeinit.device.speed = driver.device.speed := rfl
  unfold Usb30Driver.linkFallback
  dsimp only
  rw [same]
  rcases isUsb2 with isSpeed | isSpeed | isSpeed
  · rw [isSpeed]
  · rw [isSpeed]
  · rw [isSpeed]

theorem usb30_linkFallback_of_not_usb2 (driver : Usb30Driver)
    (notUsb2 : ¬IsUsb2 driver.device.speed) :
    driver.linkFallback = (driver.setState .detached).usb30DeviceDeinit := by
  have same : (driver.setState .detached).usb30DeviceDeinit.device.speed = driver.device.speed := rfl
  unfold Usb30Driver.linkFallback
  dsimp only
  rw [same]
  cases isSpeed : driver.device.speed with
  | none => rfl
  | usb2Lowspeed => exact absurd (.inr (.inr isSpeed)) notUsb2
  | usb2Fullspeed => exact absurd (.inr (.inl isSpeed)) notUsb2
  | usb2Highspeed => exact absurd (.inl isSpeed) notUsb2
  | usb30Superspeed => rfl

theorem linkFallback_of_usb2 (isUsb2 : IsUsb2 backends.device.speed) :
    backends.linkFallback =
      { backends.linkDisabled with
        toUsb2Driver := backends.linkDisabled.toUsb2Driver.usb2DeviceInit
        pfic := ⟨false, false, true⟩ } :=
  @usb2DeviceInit_of_usb2 { backends.linkDisabled with
    pfic := { backends.linkDisabled.pfic with usbss := false, link := false } } isUsb2

theorem linkFallback_of_not_usb2 (notUsb2 : ¬IsUsb2 backends.device.speed) :
    backends.linkFallback = { backends.linkDisabled with pfic := ⟨false, false, false⟩ } :=
  @usb2DeviceInit_of_not_usb2 { backends.linkDisabled with
    pfic := { backends.linkDisabled.pfic with usbss := false, link := false } } notUsb2

theorem linkFallback_driver :
    backends.linkFallback.toUsb30Driver = backends.toUsb30Driver.linkFallback := by
  by_cases isUsb2 : IsUsb2 backends.device.speed
  · rw [linkFallback_of_usb2 _ isUsb2, usb30_linkFallback_of_usb2 _ isUsb2]
    rfl
  · rw [linkFallback_of_not_usb2 _ isUsb2, usb30_linkFallback_of_not_usb2 _ isUsb2]
    rfl

/-- The driver goes on as in the model without the interrupts. -/
theorem linkIrqHandler_driver :
    (backends.linkIrqHandler interrupt).toUsb30Driver =
      backends.toUsb30Driver.linkIrqHandler interrupt := by
  have ready := @whenFlag_driver backends interrupt.ready (·.on Usb30Driver.linkReady)
    Usb30Driver.linkReady fun _ => rfl
  unfold linkIrqHandler Usb30Driver.linkIrqHandler
  dsimp only
  rw [← ready]
  generalize backends.whenFlag interrupt.ready (·.on Usb30Driver.linkReady) = found
  cases interrupt.disable with
  | false =>
      rw [if_neg Bool.false_ne_true, if_neg Bool.false_ne_true]
      exact found.linkChanges_driver interrupt
  | true =>
      rw [if_pos rfl, if_pos rfl]
      split
      · rw [linkChanges_driver, linkFallback_driver]
      · rfl

/-! ### The interrupts -/

theorem whenFlag_on_pfic (flag : Bool) (change : Usb30Driver → Usb30Driver) :
    (backends.whenFlag flag (·.on change)).pfic = backends.pfic := by
  cases flag with
  | false => rfl
  | true => rfl

/-- A reset of the link enables the interrupts of USB3. -/
theorem linkChanges_pfic :
    (backends.linkChanges interrupt).pfic =
      if Resets interrupt then backends.pfic.withUsb30 else backends.pfic := by
  unfold linkChanges
  rw [whenFlag_on_pfic]
  have term : (backends.whenFlag interrupt.termPresent
      (·.linkTermPresent interrupt.linkPresent)).pfic =
        if interrupt.termPresent = true ∧ interrupt.linkPresent = false then
          backends.pfic.withUsb30
        else
          backends.pfic := by
    cases interrupt.termPresent with
    | false => rfl
    | true =>
        cases interrupt.linkPresent with
        | false => rfl
        | true => rfl
  have txeq := whenFlag_on_pfic (backends.whenFlag interrupt.termPresent
    (·.linkTermPresent interrupt.linkPresent)) interrupt.txeq Usb30Driver.linkTxeq
  rw [term] at txeq
  generalize (backends.whenFlag interrupt.termPresent
    (·.linkTermPresent interrupt.linkPresent)).whenFlag interrupt.txeq
      (·.on Usb30Driver.linkTxeq) = found at txeq ⊢
  unfold whenFlag
  by_cases warmReset : interrupt.warmReset = true
  · have resets : Resets interrupt := .inl warmReset
    rw [if_pos warmReset, if_pos resets]
    refine (congrArg Pfic.withUsb30 txeq).trans ?_
    split
    · rfl
    · rfl
  · rw [if_neg warmReset, txeq]
    by_cases noLink : interrupt.termPresent = true ∧ interrupt.linkPresent = false
    · have resets : Resets interrupt := .inr noLink
      rw [if_pos noLink, if_pos resets]
    · have stays : ¬Resets interrupt := fun resets => noLink (resets.resolve_left warmReset)
      rw [if_neg noLink, if_neg stays]

theorem whenFlag_linkReady_fallback (flag : Bool) :
    (backends.whenFlag flag (·.on Usb30Driver.linkReady)).usb2FallbackEnabled =
      backends.usb2FallbackEnabled := by
  cases flag with
  | false => rfl
  | true =>
      change backends.linkReady.usb2FallbackEnabled = _
      unfold Usb30Driver.linkReady
      split
      · rfl
      · rfl

/-- The fallback leaves the backend that `usb2_device_init` starts, or that of a reset. -/
theorem linkIrqHandler_pfic_of_fallback (disable : interrupt.disable = true)
    (fallback : backends.usb2FallbackEnabled = true) :
    (backends.linkIrqHandler interrupt).pfic =
      if Resets interrupt then
        ⟨true, true, decide (IsUsb2 (backends.speedAfterReady interrupt))⟩
      else
        ⟨false, false, decide (IsUsb2 (backends.speedAfterReady interrupt))⟩ := by
  have ready := @whenFlag_driver backends interrupt.ready (·.on Usb30Driver.linkReady)
    Usb30Driver.linkReady fun _ => rfl
  have speed : backends.speedAfterReady interrupt =
      (backends.whenFlag interrupt.ready (·.on Usb30Driver.linkReady)).device.speed :=
    congrArg (fun driver : Usb30Driver => driver.device.speed) ready.symm
  have enabled : (backends.whenFlag interrupt.ready
      (·.on Usb30Driver.linkReady)).usb2FallbackEnabled = true :=
    (backends.whenFlag_linkReady_fallback interrupt.ready).trans fallback
  unfold linkIrqHandler
  dsimp only
  rw [speed]
  generalize backends.whenFlag interrupt.ready (·.on Usb30Driver.linkReady) = found at enabled ⊢
  rw [if_pos disable, if_pos enabled, linkChanges_pfic]
  by_cases isUsb2 : IsUsb2 found.device.speed
  · rw [linkFallback_of_usb2 _ isUsb2, decide_eq_true isUsb2]
    rfl
  · rw [linkFallback_of_not_usb2 _ isUsb2, decide_eq_false isUsb2]
    rfl

/-- Otherwise USB3 stays on. -/
theorem linkIrqHandler_pfic_of_not_fallback
    (stays : ¬(interrupt.disable = true ∧ backends.usb2FallbackEnabled = true))
    (usb30 : backends.pfic = ⟨true, true, false⟩) :
    (backends.linkIrqHandler interrupt).pfic = ⟨true, true, false⟩ := by
  have ready := whenFlag_on_pfic backends interrupt.ready Usb30Driver.linkReady
  rw [← backends.whenFlag_linkReady_fallback interrupt.ready] at stays
  rw [usb30] at ready
  unfold linkIrqHandler
  dsimp only
  generalize backends.whenFlag interrupt.ready (·.on Usb30Driver.linkReady) = found at stays ready ⊢
  by_cases disable : interrupt.disable = true
  · rw [if_pos disable, if_neg fun fallback => stays ⟨disable, fallback⟩]
    refine Eq.trans (b := found.linkDisabled.pfic.withUsb30) rfl ?_
    change Pfic.withUsb30 { found.pfic with usbss := false, link := false } = _
    rw [ready]
    rfl
  · rw [if_neg disable, linkChanges_pfic, ready]
    split
    · rfl
    · rfl

end

end Backends

end WchCh56x.Usb
