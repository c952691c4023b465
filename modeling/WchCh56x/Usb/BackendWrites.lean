import WchCh56x.Usb.BackendSwitch
import WchCh56x.Usb.MemoryWrites

/-!
# What the backends leave of the user's device

Both backends write to the buffer of endpoint 0 only, and of what the user has set up
they change the speed alone.
-/

namespace WchCh56x.Usb

open Support.Runs

/-- The configuration apart from the speed, and from what `usb2_device_init` reads from the device
descriptor. -/
def Config.byUser (config : Config) : Config :=
  { config with speed := .none, usb2Endp0MaxPacketSize := 0 }

/-! ## USB3 -/

namespace Usb30Driver

open Usb2Driver

variable (bsp : Usb2Bsp) {limit : Nat} (driver : Usb30Driver)

def stored : Config × (Nat → U8) := (driver.config, driver.memory)

theorem writesInside_of_stored {next : Usb30Driver} (same : next.stored = driver.stored) :
    WritesInside limit driver.toUsb2Driver next.toUsb2Driver :=
  .of_memory (congrArg Prod.fst same) (congrArg Prod.snd same)

theorem stored_of_usb2Only {next : Usb30Driver}
    (same : next.toUsb2Driver.usb2Only = driver.toUsb2Driver.usb2Only) :
    next.stored = driver.stored := by
  have config := congrArg Usb2Driver.config same
  have memory := congrArg Usb2Driver.memory same
  exact Prod.ext config memory

/-! ### The endpoints -/

theorem stored_initIn (i : Fin 8) : (driver.initIn i).stored = driver.stored := by
  have config : (driver.initIn i).config = driver.config := congrArg Fixed.config
    (@fixed_setTx { driver.toUsb2Driver with usb30 := (driver.initIn i).usb30 } (usb30EndpNum i)
      { driver.device.tx (usb30EndpNum i) with state := endpStateNak } rfl rfl)
  exact Prod.ext config rfl

theorem stored_initOut (i : Fin 8) : (driver.initOut i).stored = driver.stored := by
  have config : (driver.initOut i).config = driver.config := congrArg Fixed.config
    (@fixed_setRx driver.toUsb2Driver (usb30EndpNum i)
      { driver.device.rx (usb30EndpNum i) with state := endpStateAck } rfl rfl)
  exact Prod.ext config rfl

theorem stored_initEndpoint (i : Fin 8) : (driver.initEndpoint i).stored = driver.stored := by
  have inBlock (enabled : Prop) [Decidable enabled] :
      stored (if enabled then driver.initIn i else driver) = driver.stored := by
    split
    · exact driver.stored_initIn i
    · rfl
  have first := inBlock (EnabledIn driver.device.endpointMask .tx (usb30EndpNum i))
  unfold initEndpoint
  dsimp only
  split
  · exact (stored_initOut _ i).trans first
  · exact first

theorem stored_usb30InitEndpoints : driver.usb30InitEndpoints.stored = driver.stored := by
  rw [usb30InitEndpoints, foldl_keeps _ stored stored_initEndpoint]
  rfl

theorem stored_clearInterruptAll (i : Fin 8) : (driver.clearInterruptAll i).stored = driver.stored :=
  rfl

theorem stored_usb30ReinitEndpoints : driver.usb30ReinitEndpoints.stored = driver.stored := by
  rw [usb30ReinitEndpoints, stored_usb30InitEndpoints, foldl_keeps _ stored stored_clearInterruptAll]

theorem stored_usb30DeviceInit (enableUsb2Fallback : Bool) :
    (driver.usb30DeviceInit enableUsb2Fallback).stored = driver.stored :=
  (stored_usb30InitEndpoints _).trans rfl

theorem stored_usb30BusReset : driver.usb30BusReset.stored = driver.stored :=
  stored_usb30DeviceInit _ _

/-! ### Endpoint 0 -/

section

variable (room : endp0MaxPacketSize ≤ limit)
include room

theorem writesInside_loadPacket :
    WritesInside limit driver.toUsb2Driver driver.loadPacket.2.toUsb2Driver := by
  have fits : driver.loadPacket.1 ≤ limit := by
    unfold loadPacket
    dsimp only
    split
    · exact room
    · next short => exact (Nat.le_of_not_le short).trans room
  exact .of_copy rfl fits rfl

theorem writesInside_usb30GetDescriptor (setup : UsbSetup) :
    WritesInside limit driver.toUsb2Driver (driver.usb30GetDescriptor setup).2.toUsb2Driver := by
  rcases driver.usb30GetDescriptor_cases setup with same | same | ⟨descr, size, same⟩
  · rw [same]
    exact .refl _
  · rw [same]
    exact driver.writesInside_loadPacket room
  · rw [same]
    exact writesInside_loadPacket (driver.pointAt descr size) room

theorem writesInside_writeEndp0 {bytes : List U8} (short : bytes.length ≤ 2) :
    WritesInside limit driver.toUsb2Driver (driver.writeEndp0 bytes).toUsb2Driver :=
  .of_store rfl ((short.trans (by decide)).trans room) rfl

theorem writesInside_usb30StandardReqHandler :
    WritesInside limit driver.toUsb2Driver driver.usb30StandardReqHandler.2.toUsb2Driver := by
  unfold usb30StandardReqHandler
  dsimp only
  split
  · exact writesInside_usb30GetDescriptor
      { driver with
        setupReqCode := driver.usbSetupBuf.bRequest
        setupLen := driver.usbSetupBuf.wLength.toNat } room driver.usbSetupBuf
  · split
    · exact .refl _
    · split
      · exact driver.writesInside_writeEndp0 room (Nat.le_succ 1)
      · split
        · have kept := stored_usb30ReinitEndpoints
            { driver with
              setupReqCode := driver.usbSetupBuf.bRequest
              setupLen := driver.usbSetupBuf.wLength.toNat }
          have config := congrArg Prod.fst kept
          have memory := congrArg Prod.snd kept
          unfold usb30SetConfiguration
          dsimp only
          split
          · exact .of_memory config memory
          · exact .of_memory config memory
        · split
          · exact .refl _
          · split
            · exact driver.writesInside_writeEndp0 room le_rfl
            · split
              · exact .refl _
              · split
                · exact .refl _
                · exact .refl _

theorem writesInside_usb30UserRequest {reply : UserReply}
    (fit : CallsFit limit driver.toUsb2Driver reply.calls) :
    WritesInside limit driver.toUsb2Driver (driver.usb30UserRequest bsp reply).2.toUsb2Driver := by
  have called := driver.toUsb2Driver.writesInside_invoke bsp
    (.endp0UserHandledControlRequest driver.usbSetupBuf true) fit
  unfold usb30UserRequest
  dsimp only
  split
  · split
    · exact called
    · refine WritesInside.trans ?_ (writesInside_loadPacket _ room)
      exact called
  · split
    · exact called
    · exact called

theorem writesInside_usb30SetupStage {reply : UserReply}
    (fit : CallsFit limit driver.toUsb2Driver reply.calls) :
    WritesInside limit driver.toUsb2Driver (driver.usb30SetupStage bsp reply).toUsb2Driver := by
  have handled : WritesInside limit driver.toUsb2Driver
      ((driver.setUepRxCtrl 0 0#32).usb30Request bsp reply).2.toUsb2Driver := by
    unfold usb30Request
    split
    · exact (driver.setUepRxCtrl 0 0#32).writesInside_usb30StandardReqHandler room
    · exact (driver.setUepRxCtrl 0 0#32).writesInside_usb30UserRequest bsp room fit
  obtain ⟨usb30, uepRxCtrl, changes⟩ :=
    ((driver.setUepRxCtrl 0 0#32).usb30Request bsp reply).2.answerSetup_changes
      (decide driver.usbSetupBuf.IsIn) ((driver.setUepRxCtrl 0 0#32).usb30Request bsp reply).1
  have answered := congrArg stored changes
  have config := congrArg Prod.fst answered
  have memory := congrArg Prod.snd answered
  exact handled.trans (.of_memory config memory)

theorem writesInside_usb30Ep0In :
    WritesInside limit driver.toUsb2Driver driver.usb30Ep0In.toUsb2Driver := by
  have loaded : WritesInside limit driver.toUsb2Driver driver.ep0InHandler.2.toUsb2Driver := by
    unfold ep0InHandler
    split
    · exact driver.writesInside_loadPacket room
    · exact .refl _
  unfold usb30Ep0In
  dsimp only
  split
  · exact ⟨loaded.config, loaded.kept⟩
  · exact ⟨loaded.config, loaded.kept⟩

end

/-! ### The other endpoints -/

section

variable {reply : UserReply} (fit : CallsFit limit driver.toUsb2Driver reply.calls)
include fit

theorem writesInside_usb30EpInHandler (endpNum : Fin 16) :
    WritesInside limit driver.toUsb2Driver
      (driver.toUsb2Driver.usb30EpInHandler bsp endpNum reply) := by
  have called (sent after : Usb30Endpoints) : WritesInside limit driver.toUsb2Driver
      (((driver.toUsb2Driver.setUsb30 sent).invoke bsp (.txComplete endpNum) reply).setUsb30
        after) := by
    have inside := writesInside_invoke bsp (driver.toUsb2Driver.setUsb30 sent)
      (.txComplete endpNum) fit
    exact ⟨inside.config, inside.kept⟩
  unfold usb30EpInHandler
  split
  · exact .of_memory rfl rfl
  · dsimp only
    split
    · exact called _ _
    · exact .of_memory rfl rfl

theorem writesInside_reportOut (i : Fin 8) :
    WritesInside limit driver.toUsb2Driver (driver.reportOut bsp i reply).toUsb2Driver := by
  have called := driver.toUsb2Driver.writesInside_invoke bsp
    (.rxCallback (usb30EndpNum i) (driver.device.rx (usb30EndpNum i)).buffer
      (driver.rxTotalLength i)) fit
  exact ⟨called.config, called.kept⟩

theorem writesInside_usb30EpOutHandler (i : Fin 8) :
    WritesInside limit driver.toUsb2Driver (driver.usb30EpOutHandler bsp i reply).toUsb2Driver := by
  unfold usb30EpOutHandler
  dsimp only
  split
  · refine writesInside_reportOut bsp (driver.setRxTotalLength i _) ?_ i
    exact fit
  · exact .of_memory rfl rfl

end

end Usb30Driver

/-! ## Steps of both backends -/

/-- From one driver to the next, the user's configuration and all memory but the first bytes of the
buffer of endpoint 0 stay. -/
structure WritesEndp0 (limit : Nat) (driver next : Usb2Driver) : Prop where
  byUser : next.config.byUser = driver.config.byUser
  packetFits : driver.usb2Endp0MaxPacketSize ≤ limit → next.usb2Endp0MaxPacketSize ≤ limit
  kept : ∀ address, address < driver.endp0Buffer ∨ driver.endp0Buffer + limit ≤ address →
    next.memory address = driver.memory address

namespace WritesEndp0

variable {limit : Nat} {driver next last : Usb2Driver}

theorem buffer (writes : WritesEndp0 limit driver next) : next.endp0Buffer = driver.endp0Buffer :=
  congrArg (fun config : Config => config.rxBuffer 0) writes.byUser

theorem burst (writes : WritesEndp0 limit driver next) :
    next.config.txMaxPacketSizeWithBurst 0 = driver.config.txMaxPacketSizeWithBurst 0 := by
  have same := congrArg (fun config : Config => config.txMaxPacketSizeWithBurst 0) writes.byUser
  exact same

theorem refl (driver : Usb2Driver) : WritesEndp0 limit driver driver :=
  ⟨rfl, fun fits => fits, fun _ _ => rfl⟩

theorem trans (first : WritesEndp0 limit driver next) (second : WritesEndp0 limit next last) :
    WritesEndp0 limit driver last where
  byUser := second.byUser.trans first.byUser
  packetFits fits := second.packetFits (first.packetFits fits)
  kept address outside := by
    have later := second.kept address
    rw [first.buffer] at later
    exact (later outside).trans (first.kept address outside)

theorem of_inside (inside : Usb2Driver.WritesInside limit driver next) :
    WritesEndp0 limit driver next where
  byUser := congrArg Config.byUser inside.config
  packetFits fits := (congrArg Config.usb2Endp0MaxPacketSize inside.config).trans_le fits
  kept := inside.kept

end WritesEndp0

/-- The packet size of endpoint 0 is a byte of the device descriptor. -/
theorem writesEndp0_usb2DeviceInit {limit : Nat} (room : endp0MaxPacketSize ≤ limit)
    (driver : Usb2Driver) : WritesEndp0 limit driver driver.usb2DeviceInit := by
  let begun : Usb2Driver :=
    { driver with
      device := { driver.device with addr := 0#8, state := .powered }
      usb2Endp0MaxPacketSize :=
        (Usb2Driver.bMaxPacketSize0 driver.memory
          driver.device.usbDescriptors.usb2DeviceDescr).toNat }
  have config : driver.usb2DeviceInit.config = begun.config :=
    @config_usb2SetupEndpoints begun
  have memory : driver.usb2DeviceInit.memory = begun.memory := begun.memory_usb2SetupEndpoints
  have byUser := congrArg Config.byUser config
  refine ⟨byUser, fun _ => ?_, fun address _ => congrFun memory address⟩
  have size : driver.usb2DeviceInit.usb2Endp0MaxPacketSize = begun.usb2Endp0MaxPacketSize :=
    congrArg Config.usb2Endp0MaxPacketSize config
  have byte : begun.usb2Endp0MaxPacketSize < 256 := BitVec.isLt _
  unfold endp0MaxPacketSize at room
  omega

namespace Usb30Driver

open Usb2Driver

variable {limit : Nat} (driver : Usb30Driver)

theorem writesEndp0_of_stored {next : Usb30Driver} (same : next.stored = driver.stored) :
    WritesEndp0 limit driver.toUsb2Driver next.toUsb2Driver :=
  .of_inside (driver.writesInside_of_stored same)

/-! ### The link -/

theorem writesEndp0_whenFlag (flag : Bool) {branch : Usb30Driver → Usb30Driver}
    (writes : WritesEndp0 limit driver.toUsb2Driver (branch driver).toUsb2Driver) :
    WritesEndp0 limit driver.toUsb2Driver (driver.whenFlag flag branch).toUsb2Driver := by
  cases flag with
  | false => exact .refl _
  | true => exact writes

theorem writesEndp0_linkReady :
    WritesEndp0 limit driver.toUsb2Driver driver.linkReady.toUsb2Driver := by
  unfold linkReady
  split
  · exact ⟨rfl, fun fits => fits, fun _ _ => rfl⟩
  · exact .refl _

theorem writesEndp0_linkFallback (room : endp0MaxPacketSize ≤ limit) :
    WritesEndp0 limit driver.toUsb2Driver driver.linkFallback.toUsb2Driver := by
  by_cases isUsb2 : Backends.IsUsb2 driver.device.speed
  · rw [Backends.usb30_linkFallback_of_usb2 driver isUsb2]
    have init := writesEndp0_usb2DeviceInit room
      (driver.setState .detached).usb30DeviceDeinit.toUsb2Driver
    exact ⟨init.byUser, init.packetFits, init.kept⟩
  · rw [Backends.usb30_linkFallback_of_not_usb2 driver isUsb2]
    exact driver.writesEndp0_of_stored rfl

theorem stored_linkTermPresent (linkPresent : Bool) :
    (driver.linkTermPresent linkPresent).stored = driver.stored := by
  cases linkPresent with
  | false => exact driver.stored_usb30BusReset
  | true => rfl

theorem writesEndp0_linkChanges (interrupt : LinkInterrupt) :
    WritesEndp0 limit driver.toUsb2Driver (driver.linkChanges interrupt).toUsb2Driver := by
  unfold linkChanges
  refine ((WritesEndp0.trans ?_ (writesEndp0_whenFlag _ _ ?_)).trans
    (writesEndp0_whenFlag _ _ ?_)).trans (writesEndp0_whenFlag _ _ ?_)
  · exact driver.writesEndp0_whenFlag _
      (driver.writesEndp0_of_stored (driver.stored_linkTermPresent _))
  · exact .refl _
  · exact writesEndp0_of_stored _ (stored_usb30BusReset _)
  · exact writesEndp0_of_stored _ (stored_of_usb2Only _ (usb2Only_linkHotReset _))

theorem writesEndp0_linkIrqHandler (room : endp0MaxPacketSize ≤ limit) (interrupt : LinkInterrupt) :
    WritesEndp0 limit driver.toUsb2Driver (driver.linkIrqHandler interrupt).toUsb2Driver := by
  have ready : WritesEndp0 limit driver.toUsb2Driver
      (driver.whenFlag interrupt.ready linkReady).toUsb2Driver :=
    driver.writesEndp0_whenFlag _ driver.writesEndp0_linkReady
  unfold linkIrqHandler
  dsimp only
  generalize driver.whenFlag interrupt.ready linkReady = found at ready ⊢
  refine ready.trans ?_
  split
  · split
    · exact (found.writesEndp0_linkFallback room).trans (writesEndp0_linkChanges _ interrupt)
    · exact found.writesEndp0_of_stored (stored_usb30DeviceInit _ false)
  · exact found.writesEndp0_linkChanges interrupt

/-! ### The events -/

theorem writesEndp0_usb30Ep0Status :
    WritesEndp0 limit driver.toUsb2Driver driver.usb30Ep0Status.toUsb2Driver := by
  unfold usb30Ep0Status ep0StatusStageHandler
  split
  · exact ⟨rfl, fun fits => fits, fun _ _ => rfl⟩
  · exact driver.writesEndp0_of_stored rfl

theorem writesInside_setupPending30 (room : endp0MaxPacketSize ≤ limit) (packet : UsbSetup) :
    WritesInside limit driver.toUsb2Driver (driver.setupPending30 packet).toUsb2Driver := by
  have length : packet.bytes.length ≤ endp0MaxPacketSize := show 8 ≤ 512 by decide
  exact .of_store rfl (length.trans room) rfl

theorem writesEndp0_step (bsp : Usb2Bsp) (room : endp0MaxPacketSize ≤ limit)
    (bufferFits : driver.config.txMaxPacketSizeWithBurst 0 ≤ limit) (event : Usb30Event) :
    WritesEndp0 limit driver.toUsb2Driver (event.step bsp driver).toUsb2Driver := by
  have fit (calls : List ApiCall) : CallsFit limit driver.toUsb2Driver calls :=
    fun _ _ _ => bufferFits
  cases event with
  | setup packet reply =>
      rw [step_setup30]
      exact .of_inside ((driver.writesInside_setupPending30 room packet).trans
        ((driver.setupPending30 packet).writesInside_usb30SetupStage bsp room (fit reply.calls)))
  | ep0In =>
      rw [step_ep0In]
      exact .of_inside (driver.writesInside_usb30Ep0In room)
  | ep0Status =>
      rw [step_ep0Status]
      exact (driver.ep0Received false true).writesEndp0_usb30Ep0Status
  | ep0Out =>
      rw [step_ep0Out]
      exact driver.writesEndp0_of_stored rfl
  | epIn i notControl ctrl reply =>
      have handled : Usb30Event.step bsp driver (.epIn i notControl ctrl reply) =
          (driver.setUepTxCtrl i ctrl).usbssIrqHandler bsp (usbStatusFor i true) reply := rfl
      rw [handled, usbssIrqHandler_eq, if_pos notControl, if_neg (by decide)]
      have inside := (driver.setUepTxCtrl i ctrl).writesInside_usb30EpInHandler bsp
        (fit reply.calls) (usb30EndpNum i)
      exact .of_inside ⟨inside.config, inside.kept⟩
  | epOut i notControl ctrl reply =>
      have handled : Usb30Event.step bsp driver (.epOut i notControl ctrl reply) =
          (driver.setUepRxCtrl i ctrl).usbssIrqHandler bsp (usbStatusFor i false) reply := rfl
      rw [handled, usbssIrqHandler_eq, if_pos notControl, if_pos rfl]
      exact .of_inside ((driver.setUepRxCtrl i ctrl).writesInside_usb30EpOutHandler bsp
        (fit reply.calls) i)
  | link interrupt => exact driver.writesEndp0_linkIrqHandler room interrupt
  | call apiCall =>
      exact .of_inside (driver.toUsb2Driver.writesInside_call bsp fun _ => bufferFits)

end Usb30Driver

/-! ## Runs -/

/-- The user's configuration is what it was, and so is the memory but for the buffer of endpoint 0,
as far as a packet of it or the longest buffer that may be handed over for it reaches. -/
structure LeavesUserDevice (driver now : Usb2Driver) : Prop where
  byUser : now.config.byUser = driver.config.byUser
  kept : ∀ address, address < driver.endp0Buffer ∨ driver.endp0Buffer + max endp0MaxPacketSize
      (max driver.usb2Endp0MaxPacketSize (driver.device.tx 0).maxPacketSizeWithBurst) ≤ address →
    now.memory address = driver.memory address

namespace Backends

theorem writesEndp0_handle (bsp : Usb2Bsp) {limit : Nat} (room : endp0MaxPacketSize ≤ limit)
    {backends : Backends}
    (packetFits : backends.usb2Endp0MaxPacketSize ≤ limit)
    (bufferFits : backends.config.txMaxPacketSizeWithBurst 0 ≤ limit) (event : BackendsEvent) :
    WritesEndp0 limit backends.toUsb2Driver (backends.handle bsp event).toUsb2Driver := by
  cases event with
  | usb30 event =>
      rw [handle_usb30_driver]
      exact backends.toUsb30Driver.writesEndp0_step bsp room bufferFits event
  | usb2 event =>
      have setupFits : 8 ≤ limit := le_trans (by decide) room
      exact .of_inside (backends.toUsb2Driver.writesInside_step bsp setupFits packetFits
        fun _ _ _ => bufferFits)

/-- Whatever the link, the host and the user code do, and whichever backend serves the device,
both leave the user's device as it was set up and write to the buffer of endpoint 0 only. -/
theorem backends_leave_user_device (bsp : Usb2Bsp) (driver : Usb30Driver)
    (enableUsb2Fallback : Bool) (events : List BackendsEvent) :
    Always (step bsp)
      (fun backends => LeavesUserDevice driver.toUsb2Driver backends.toUsb2Driver)
      (start driver enableUsb2Fallback) events := by
  set limit := max endp0MaxPacketSize
    (max driver.usb2Endp0MaxPacketSize (driver.device.tx 0).maxPacketSizeWithBurst) with isLimit
  have room : endp0MaxPacketSize ≤ limit := le_max_left ..
  have packetFits : driver.usb2Endp0MaxPacketSize ≤ limit :=
    (le_max_left ..).trans (le_max_right ..)
  have bufferFits : driver.config.txMaxPacketSizeWithBurst 0 ≤ limit :=
    (le_max_right ..).trans (le_max_right ..)
  have started : WritesEndp0 limit driver.toUsb2Driver
      (start driver enableUsb2Fallback).toUsb2Driver :=
    driver.writesEndp0_of_stored (driver.stored_usb30DeviceInit enableUsb2Fallback)
  have always : Always (step bsp)
      (fun backends => WritesEndp0 limit driver.toUsb2Driver backends.toUsb2Driver)
      (start driver enableUsb2Fallback) events := by
    refine @always_of_keeps _ _ (step bsp)
      (fun backends => WritesEndp0 limit driver.toUsb2Driver backends.toUsb2Driver)
      (fun backends event writes => ⟨_, rfl, ?_⟩) _ started events
    by_cases enters : backends.Enters event
    · rw [if_pos enters]
      exact writes.trans (writesEndp0_handle bsp room (writes.packetFits packetFits)
        (writes.burst.trans_le bufferFits) event)
    · rw [if_neg enters]
      exact writes
  exact always.imp fun backends writes => ⟨writes.byUser, writes.kept⟩

end Backends

end WchCh56x.Usb
