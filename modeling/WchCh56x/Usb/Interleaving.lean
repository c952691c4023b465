import WchCh56x.Usb.Endp0View

/-!
# A control transfer among the traffic of other endpoints

In passthrough mode the handlers of all endpoints share the byte count of the control
transfer.  Every IN completion adds to it.
-/

namespace WchCh56x.Usb.Interleaving

open Usb2Driver Usb2Event

/-! ## Runs -/

/-- A completion on another endpoint whose callback makes no call for endpoint 0. -/
def Elsewhere : Usb2Event → Prop
  | .inDone endpNum reply => endpNum ≠ 0 ∧ reply.LeavesEndp0
  | .outDone endpNum _ _ reply => endpNum ≠ 0 ∧ reply.LeavesEndp0
  | _ => False

instance : (event : Usb2Event) → Decidable (Elsewhere event)
  | .inDone _ _ => inferInstanceAs (Decidable (_ ∧ _))
  | .outDone _ _ _ _ => inferInstanceAs (Decidable (_ ∧ _))
  | .setup _ _ | .nak _ _ | .busReset _ | .call _ => inferInstanceAs (Decidable False)

/-- One control transfer, interleaved with completions on other endpoints. -/
structure ControlTransfer where
  before : List Usb2Event
  packet : UsbSetup
  reply : UserReply
  completions : List Usb2Event
  beforeElsewhere : ∀ event ∈ before, Elsewhere event
  completionsOnly : ∀ event ∈ completions, Elsewhere event ∨ OnEndp0 event

/-- What is visible of the control transfer after an event on endpoint 0. -/
structure Observation where
  rxCtrl : U8
  txCtrl : U8
  tLen : Nat
  usbSetupReq : UsbSetup
  usbSetupReqDataSize : Nat
  deriving DecidableEq

def observation (driver : Usb2Driver) : Observation where
  rxCtrl := driver.rxCtrl 0
  txCtrl := driver.txCtrl 0
  tLen := driver.tLen 0
  usbSetupReq := driver.usbSetupReq
  usbSetupReqDataSize := driver.usbSetupReqDataSize

section

variable (bsp : Usb2Bsp)

def observations : Usb2Driver → List Usb2Event → List Observation
  | _, [] => []
  | driver, event :: rest =>
      let after := Usb2Event.step bsp driver event
      if OnEndp0 event then observation after :: observations after rest
      else observations after rest

theorem observations_cons_onEndp0 {event : Usb2Event} (onEndp0 : OnEndp0 event)
    (driver : Usb2Driver) (rest : List Usb2Event) :
    observations bsp driver (event :: rest) =
      observation (Usb2Event.step bsp driver event) ::
        observations bsp (Usb2Event.step bsp driver event) rest := if_pos onEndp0

theorem observations_cons_elsewhere {event : Usb2Event} (notOnEndp0 : ¬OnEndp0 event)
    (driver : Usb2Driver) (rest : List Usb2Event) :
    observations bsp driver (event :: rest) =
      observations bsp (Usb2Event.step bsp driver event) rest := if_neg notOnEndp0

/-- The observations of a control transfer, beginning with the SETUP packet. -/
def observationsFrom (driver : Usb2Driver) (packet : UsbSetup) (reply : UserReply)
    (completions : List Usb2Event) : List Observation :=
  let after := Usb2Event.step bsp driver (.setup packet reply)
  observation after :: observations bsp after completions

namespace ControlTransfer

variable (transfer : ControlTransfer) (driver : Usb2Driver)

def atSetup : Usb2Driver := Usb2Event.run bsp driver transfer.before

/-- The observations are those of the run without the other endpoints' events. -/
def NotDisturbed : Prop :=
  observationsFrom bsp (transfer.atSetup bsp driver) transfer.packet transfer.reply
      transfer.completions =
    observationsFrom bsp driver transfer.packet transfer.reply
      (transfer.completions.filter (OnEndp0 ·))

instance : Decidable (transfer.NotDisturbed bsp driver) := inferInstanceAs (Decidable (_ = _))

end ControlTransfer

/-- The bytes that an event adds to `usb_setup_req_data_size`. -/
def bytesCounted (driver : Usb2Driver) : Usb2Event → Nat
  | .inDone endpNum _ =>
      if driver.dma (usb2TxEndpointAddrReg endpNum) ≠ 0 then driver.inPacketLen endpNum else 0
  | .outDone endpNum numBytesReceived togok _ =>
      if togok ∧ endpNum = 0 ∧ (driver.device.rx 0).buffer ≠ 0 then numBytesReceived else 0
  | _ => 0

/-- The bytes that an event adds to the count from another endpoint. -/
def sentElsewhere (driver : Usb2Driver) (event : Usb2Event) : Nat :=
  if OnEndp0 event then 0 else bytesCounted driver event

/-- At every completion on endpoint 0, the bytes that other endpoints have sent since the SETUP
packet do not show in a 16-bit count. -/
def CountsNothing : Usb2Driver → Nat → List Usb2Event → Prop
  | _, _, [] => True
  | driver, counted, event :: rest =>
      (OnEndp0 event → counted % 2 ^ 16 = 0) ∧
        CountsNothing (Usb2Event.step bsp driver event) (counted + sentElsewhere driver event) rest

instance CountsNothing.decidable :
    (driver : Usb2Driver) → (counted : Nat) → (events : List Usb2Event) →
      Decidable (CountsNothing bsp driver counted events)
  | _, _, [] => inferInstanceAs (Decidable True)
  | driver, counted, event :: rest =>
      @instDecidableAnd _ _ _ (CountsNothing.decidable (Usb2Event.step bsp driver event)
        (counted + sentElsewhere driver event) rest)

end

/-! ## The byte count and the device state -/

variable (bsp : Usb2Bsp) {driver : Usb2Driver} {endpNum : Fin 16} {reply : UserReply}

theorem apart_state : ApartFromTransfers fun driver => driver.device.state where
  registers _ _ _ _ _ _ _ := rfl
  rxState _ _ _ := rfl

theorem state_usb2InTransferHandler :
    (driver.usb2InTransferHandler bsp endpNum reply).device.state = driver.device.state :=
  apart_state.usb2InTransferHandler bsp (congrArg Fixed.state (fixed_invoke ..))

theorem usbSetupReqDataSize_usb2InTransferHandler (small : driver.usbSetupReqDataSize < 65536) :
    (driver.usb2InTransferHandler bsp endpNum reply).usbSetupReqDataSize =
      u16 (driver.usbSetupReqDataSize + bytesCounted driver (.inDone endpNum reply)) := by
  by_cases armed : driver.dma (usb2TxEndpointAddrReg endpNum) ≠ 0
  · have completed := congrArg Fixed.usbSetupReqDataSize (fixed_invoke bsp
      (driver.beforeTxComplete bsp endpNum) (.txComplete endpNum) reply)
    rw [show bytesCounted driver (.inDone endpNum reply) = driver.inPacketLen endpNum from
      if_pos armed]
    unfold usb2InTransferHandler
    simp only []
    rw [if_pos armed]
    split
    · split
      · exact completed
      · exact completed
    · rfl
  · rw [show bytesCounted driver (.inDone endpNum reply) = 0 from if_neg armed, Nat.add_zero,
      u16_of_lt small]
    unfold usb2InTransferHandler
    simp only []
    rw [if_neg armed]
    rfl

theorem state_usb2OutTransferHandler (numBytesReceived : Nat) :
    (driver.usb2OutTransferHandler bsp endpNum numBytesReceived reply).device.state =
      driver.device.state :=
  apart_state.usb2OutTransferHandler bsp fun _ => congrArg Fixed.state (fixed_invoke ..)

theorem usbSetupReqDataSize_usb2OutTransferHandler (numBytesReceived : Nat)
    (small : driver.usbSetupReqDataSize < 65536) :
    (driver.usb2OutTransferHandler bsp endpNum numBytesReceived reply).usbSetupReqDataSize =
      u16 (driver.usbSetupReqDataSize +
        bytesCounted driver (.outDone endpNum numBytesReceived true reply)) := by
  by_cases counts : endpNum = 0 ∧ (driver.device.rx 0).buffer ≠ 0
  · rw [show bytesCounted driver (.outDone endpNum numBytesReceived true reply) = numBytesReceived
      from if_pos ⟨rfl, counts⟩]
    obtain ⟨rfl, armed⟩ := counts
    rw [driver.usb2OutTransferHandler_endp0 bsp armed,
      ← driver.usbSetupReqDataSize_rxCallbackDone bsp numBytesReceived reply]
    simp only []
    split
    · rfl
    · split
      · rfl
      · rfl
  · rw [show bytesCounted driver (.outDone endpNum numBytesReceived true reply) = 0 from
      if_neg fun isIt => counts isIt.2, Nat.add_zero, u16_of_lt small]
    by_cases armed : (driver.device.rx endpNum).buffer ≠ 0
    · have notControl : endpNum ≠ 0 := by
        rintro rfl
        exact counts ⟨rfl, armed⟩
      have before : driver.beforeRxCallback endpNum numBytesReceived = driver := if_neg notControl
      have received := congrArg Fixed.usbSetupReqDataSize (fixed_invoke bsp driver
        (.rxCallback endpNum (driver.device.rx endpNum).buffer numBytesReceived) reply)
      unfold usb2OutTransferHandler
      simp only []
      rw [if_pos armed, if_neg (fun isIt => notControl isIt.1),
        if_neg (fun isIt => notControl isIt.1), before]
      exact received
    · unfold usb2OutTransferHandler
      simp only []
      rw [if_neg armed]
      rfl

/-! ## One event -/

/-- The driver handles transfers and leaves endpoint 0 to the user. -/
structure Passthrough (driver : Usb2Driver) : Prop where
  enabled : driver.ep0PassthroughEnabled = true
  running : driver.device.state ≠ .powered

/-- What a completion does in passthrough mode. -/
theorem step_completion {event : Usb2Event} (passthrough : Passthrough driver)
    (completion : Elsewhere event ∨ OnEndp0 event) :
    (∃ endpNum reply, event = .inDone endpNum reply ∧
      Usb2Event.step bsp driver event =
        (driver.transferPending.usb2InTransferHandler bsp endpNum reply).clearFlags) ∨
    (∃ endpNum numBytesReceived reply, event = .outDone endpNum numBytesReceived true reply ∧
      Usb2Event.step bsp driver event =
        (driver.transferPending.usb2OutTransferHandler bsp endpNum numBytesReceived
          reply).clearFlags) ∨
    (∃ endpNum numBytesReceived reply, event = .outDone endpNum numBytesReceived false reply ∧
      Usb2Event.step bsp driver event = driver.clearFlags) := by
  obtain ⟨enabled, running⟩ := passthrough
  cases event with
  | inDone endpNum reply =>
      left
      refine ⟨endpNum, reply, rfl, ?_⟩
      rw [step_inDone bsp running, if_pos (Or.inr enabled)]
  | outDone endpNum numBytesReceived togok reply =>
      right
      cases togok with
      | true =>
          left
          refine ⟨endpNum, numBytesReceived, reply, rfl, ?_⟩
          rw [step_outDone bsp running, if_pos (Or.inr enabled)]
      | false =>
          right
          exact ⟨endpNum, numBytesReceived, reply, rfl, step_outDone_wrongToggle bsp running ..⟩
  | setup packet reply => exact completion.elim False.elim False.elim
  | nak endpNum reply => exact completion.elim False.elim False.elim
  | busReset reply => exact completion.elim False.elim False.elim
  | call apiCall => exact completion.elim False.elim False.elim

section

variable {event : Usb2Event} (passthrough : Passthrough driver)

include passthrough

theorem Passthrough.step (completion : Elsewhere event ∨ OnEndp0 event) :
    Passthrough (Usb2Event.step bsp driver event) := by
  have state : (Usb2Event.step bsp driver event).device.state = driver.device.state := by
    obtain ⟨endpNum, reply, -, after⟩ | ⟨endpNum, numBytesReceived, reply, -, after⟩ |
      ⟨endpNum, numBytesReceived, reply, -, after⟩ := step_completion bsp passthrough completion
    · rw [after]
      exact state_usb2InTransferHandler bsp
    · rw [after]
      exact state_usb2OutTransferHandler bsp numBytesReceived
    · rw [after]
      rfl
  constructor
  · exact (congrArg Config.ep0PassthroughEnabled (config_step bsp driver event)).trans
      passthrough.enabled
  · rw [state]
    exact passthrough.running

theorem usbSetupReqDataSize_step (completion : Elsewhere event ∨ OnEndp0 event)
    (small : driver.usbSetupReqDataSize < 65536) :
    (Usb2Event.step bsp driver event).usbSetupReqDataSize =
      u16 (driver.usbSetupReqDataSize + bytesCounted driver event) := by
  obtain ⟨endpNum, reply, rfl, after⟩ | ⟨endpNum, numBytesReceived, reply, rfl, after⟩ |
    ⟨endpNum, numBytesReceived, reply, rfl, after⟩ := step_completion bsp passthrough completion
  · rw [after]
    exact @usbSetupReqDataSize_usb2InTransferHandler bsp driver.transferPending endpNum reply small
  · rw [after]
    exact @usbSetupReqDataSize_usb2OutTransferHandler bsp driver.transferPending endpNum reply
      numBytesReceived small
  · rw [after, bytesCounted, if_neg (fun isIt => Bool.false_ne_true isIt.1), Nat.add_zero,
      u16_of_lt small]
    rfl

/-- A completion on another endpoint keeps the view of endpoint 0. -/
theorem endp0_step_elsewhere (elsewhere : Elsewhere event) :
    (Usb2Event.step bsp driver event).endp0 = driver.endp0 := by
  obtain ⟨endpNum, reply, rfl, after⟩ | ⟨endpNum, numBytesReceived, reply, rfl, after⟩ |
    ⟨endpNum, numBytesReceived, reply, rfl, after⟩ :=
      step_completion bsp passthrough (Or.inl elsewhere)
  · rw [after]
    exact endp0_usb2InTransferHandler_of_ne bsp elsewhere.1 elsewhere.2
  · rw [after]
    exact endp0_usb2OutTransferHandler_of_ne bsp elsewhere.1 elsewhere.2 numBytesReceived
  · rw [after]
    rfl

/-- A completion on endpoint 0 does the same to drivers with the same view. -/
theorem endp0_step {other : Usb2Driver} (same : driver.endp0 = other.endp0)
    (sizes : driver.usbSetupReqDataSize = other.usbSetupReqDataSize)
    (otherPassthrough : Passthrough other) (onEndp0 : OnEndp0 event) :
    (Usb2Event.step bsp driver event).endp0 = (Usb2Event.step bsp other event).endp0 := by
  cases event with
  | inDone endpNum reply =>
      obtain rfl : endpNum = 0 := onEndp0
      rw [step_inDone bsp passthrough.running, if_pos (Or.inr passthrough.enabled),
        step_inDone bsp otherPassthrough.running, if_pos (Or.inr otherPassthrough.enabled)]
      exact @endp0_usb2InTransferHandler bsp driver.transferPending other.transferPending same
        sizes reply
  | outDone endpNum numBytesReceived togok reply =>
      obtain rfl : endpNum = 0 := onEndp0
      cases togok with
      | true =>
          rw [step_outDone bsp passthrough.running, if_pos (Or.inr passthrough.enabled),
            step_outDone bsp otherPassthrough.running, if_pos (Or.inr otherPassthrough.enabled)]
          exact @endp0_usb2OutTransferHandler bsp driver.transferPending other.transferPending
            same sizes numBytesReceived reply
      | false =>
          rw [step_outDone_wrongToggle bsp passthrough.running,
            step_outDone_wrongToggle bsp otherPassthrough.running]
          exact same
  | setup packet reply => exact onEndp0.elim
  | nak endpNum reply => exact onEndp0.elim
  | busReset reply => exact onEndp0.elim
  | call apiCall => exact onEndp0.elim

end

/-- A completion on endpoint 0 counts the same bytes in drivers with the same view. -/
theorem bytesCounted_endp0 {other : Usb2Driver} {event : Usb2Event}
    (same : driver.endp0 = other.endp0) (onEndp0 : OnEndp0 event) :
    bytesCounted driver event = bytesCounted other event := by
  cases event with
  | inDone endpNum reply =>
      obtain rfl : endpNum = 0 := onEndp0
      have rtDma : driver.dma (usb2TxEndpointAddrReg 0) = other.dma (usb2TxEndpointAddrReg 0) :=
        congrArg Endp0.rtDma same
      rw [bytesCounted, bytesCounted, rtDma, inPacketLen_endp0 same]
  | outDone endpNum numBytesReceived togok reply =>
      have rx : driver.device.rx 0 = other.device.rx 0 := congrArg Endp0.rx same
      rw [bytesCounted, bytesCounted, rx]
  | setup packet reply => rfl
  | nak endpNum reply => rfl
  | busReset reply => rfl
  | call apiCall => rfl

/-! ## Two runs -/

/-- The drivers agree on endpoint 0, and the first has counted more bytes. -/
structure CountsMore (counted : Nat) (driver other : Usb2Driver) : Prop where
  passthrough : Passthrough driver
  same : driver.endp0 = other.endp0
  otherSmall : other.usbSetupReqDataSize < 65536
  sizes : driver.usbSetupReqDataSize = u16 (other.usbSetupReqDataSize + counted)

namespace CountsMore

variable {counted : Nat} {other : Usb2Driver} {event : Usb2Event}
  (more : CountsMore counted driver other)

include more

theorem small : driver.usbSetupReqDataSize < 65536 := by
  rw [more.sizes]
  exact Nat.mod_lt _ (by decide)

theorem otherPassthrough : Passthrough other where
  enabled := (congrArg (fun view => view.config.ep0PassthroughEnabled) more.same).symm.trans
    more.passthrough.enabled
  running powered := more.passthrough.running ((congrArg Endp0.state more.same).trans powered)

/-- Another endpoint's completion moves the byte counts further apart. -/
theorem step_elsewhere (elsewhere : Elsewhere event) :
    CountsMore (counted + bytesCounted driver event) (Usb2Event.step bsp driver event) other where
  passthrough := more.passthrough.step bsp (Or.inl elsewhere)
  same := (endp0_step_elsewhere bsp more.passthrough elsewhere).trans more.same
  otherSmall := more.otherSmall
  sizes := by
    rw [usbSetupReqDataSize_step bsp more.passthrough (Or.inl elsewhere) more.small, more.sizes]
    unfold u16
    omega

section

variable (onEndp0 : OnEndp0 event)

include onEndp0

theorem sizes_step : (Usb2Event.step bsp driver event).usbSetupReqDataSize =
    u16 ((Usb2Event.step bsp other event).usbSetupReqDataSize + counted) := by
  rw [usbSetupReqDataSize_step bsp more.passthrough (Or.inr onEndp0) more.small,
    usbSetupReqDataSize_step bsp more.otherPassthrough (Or.inr onEndp0) more.otherSmall,
    bytesCounted_endp0 more.same onEndp0, more.sizes]
  unfold u16
  omega

theorem otherSmall_step : (Usb2Event.step bsp other event).usbSetupReqDataSize < 65536 := by
  rw [usbSetupReqDataSize_step bsp more.otherPassthrough (Or.inr onEndp0) more.otherSmall]
  exact Nat.mod_lt _ (by decide)

theorem step_endp0 (nothing : counted % 2 ^ 16 = 0) :
    CountsMore counted (Usb2Event.step bsp driver event) (Usb2Event.step bsp other event) := by
  have sizes : driver.usbSetupReqDataSize = other.usbSetupReqDataSize := by
    have small := more.otherSmall
    rw [more.sizes, u16]
    omega
  exact {
    passthrough := more.passthrough.step bsp (Or.inr onEndp0)
    same := endp0_step bsp more.passthrough more.same sizes more.otherPassthrough onEndp0
    otherSmall := more.otherSmall_step bsp onEndp0
    sizes := more.sizes_step bsp onEndp0 }

/-- The surplus shows in the next observation unless it is a multiple of 2^16. -/
theorem observation_eq_iff :
    observation (Usb2Event.step bsp driver event) = observation (Usb2Event.step bsp other event) ↔
      counted % 2 ^ 16 = 0 := by
  have sizes := more.sizes_step bsp onEndp0
  have small := more.otherSmall_step bsp onEndp0
  constructor
  · intro equal
    have equalSizes := congrArg Observation.usbSetupReqDataSize equal
    change (Usb2Event.step bsp driver event).usbSetupReqDataSize =
      (Usb2Event.step bsp other event).usbSetupReqDataSize at equalSizes
    unfold u16 at sizes
    omega
  · intro nothing
    have same := (more.step_endp0 bsp onEndp0 nothing).same
    have equalSizes : (Usb2Event.step bsp driver event).usbSetupReqDataSize =
        (Usb2Event.step bsp other event).usbSetupReqDataSize := by
      unfold u16 at sizes
      omega
    exact congrArg₂ (fun view size =>
      Observation.mk view.rxCtrl view.txCtrl view.tLen view.usbSetupReq size) same equalSizes

end

end CountsMore

theorem observations_filter_iff {counted : Nat} {other : Usb2Driver} {events : List Usb2Event}
    (more : CountsMore counted driver other)
    (completions : ∀ event ∈ events, Elsewhere event ∨ OnEndp0 event) :
    observations bsp driver events = observations bsp other (events.filter (OnEndp0 ·)) ↔
      CountsNothing bsp driver counted events := by
  induction events generalizing driver other counted with
  | nil => exact iff_of_true rfl trivial
  | cons event rest ih =>
      have completion := completions event List.mem_cons_self
      have later := fun event member => completions event (List.mem_cons_of_mem _ member)
      unfold CountsNothing sentElsewhere
      by_cases onEndp0 : OnEndp0 event
      · rw [List.filter_cons_of_pos (by simpa using onEndp0), if_pos onEndp0, Nat.add_zero,
          imp_iff_right onEndp0, observations_cons_onEndp0 bsp onEndp0,
          observations_cons_onEndp0 bsp onEndp0, List.cons.injEq,
          more.observation_eq_iff bsp onEndp0]
        exact and_congr_right fun nothing => ih (more.step_endp0 bsp onEndp0 nothing) later
      · rw [List.filter_cons_of_neg (by simpa using onEndp0), if_neg onEndp0]
        have elsewhere := completion.resolve_right onEndp0
        rw [← ih (more.step_elsewhere bsp elsewhere) later,
          observations_cons_elsewhere bsp onEndp0]
        exact (and_iff_right fun isIt => absurd isIt onEndp0).symm

/-! ## The SETUP packet -/

theorem passthrough_run {events : List Usb2Event} (passthrough : Passthrough driver)
    (elsewhere : ∀ event ∈ events, Elsewhere event) :
    Passthrough (Usb2Event.run bsp driver events) ∧
      (Usb2Event.run bsp driver events).endp0 = driver.endp0 := by
  induction events generalizing driver with
  | nil => exact ⟨passthrough, rfl⟩
  | cons event rest ih =>
      have isElsewhere := elsewhere event List.mem_cons_self
      obtain ⟨kept, same⟩ := ih (passthrough.step bsp (Or.inl isElsewhere))
        fun event member => elsewhere event (List.mem_cons_of_mem _ member)
      exact ⟨kept, same.trans (endp0_step_elsewhere bsp passthrough isElsewhere)⟩

/-- Both runs count from zero after the SETUP packet. -/
theorem countsMore_setup {other : Usb2Driver} (passthrough : Passthrough driver)
    (otherPassthrough : Passthrough other) (same : driver.endp0 = other.endp0)
    (packet : UsbSetup) (reply : UserReply) :
    CountsMore 0 (Usb2Event.step bsp driver (.setup packet reply))
      (Usb2Event.step bsp other (.setup packet reply)) := by
  have setUp (driver : Usb2Driver) (passthrough : Passthrough driver) :
      Usb2Event.step bsp driver (.setup packet reply) =
        ((driver.setupRead packet).passthroughSetup bsp reply).clearFlags := by
    rw [step_setup bsp passthrough.running, if_pos passthrough.enabled]
  have fixed (driver : Usb2Driver) := fixed_invoke bsp (driver.setupRead packet)
    (.endp0PassthroughSetupCallback (driver.setupRead packet).endp0Buffer) reply
  have read : (driver.setupRead packet).endp0 = (other.setupRead packet).endp0 :=
    congrArg (fun view => { view with usbSetupReq := packet }) same
  have zero (driver : Usb2Driver) (passthrough : Passthrough driver) :
      (Usb2Event.step bsp driver (.setup packet reply)).usbSetupReqDataSize = 0 := by
    rw [setUp driver passthrough]
    exact congrArg Fixed.usbSetupReqDataSize (fixed driver)
  constructor
  · constructor
    · exact (congrArg Config.ep0PassthroughEnabled (config_step bsp driver _)).trans
        passthrough.enabled
    · rw [setUp driver passthrough]
      exact fun powered =>
        passthrough.running ((congrArg Fixed.state (fixed driver)).symm.trans powered)
  · rw [setUp driver passthrough, setUp other otherPassthrough]
    exact endp0_passthroughSetup bsp read reply
  · rw [zero other otherPassthrough]
    decide
  · rw [zero driver passthrough, zero other otherPassthrough]
    rfl

/-- The control transfer looks as if it were alone exactly if other endpoints have sent nothing
that a 16-bit count shows when endpoint 0 takes its next step. -/
theorem not_disturbed_iff (passthrough : Passthrough driver) (transfer : ControlTransfer) :
    transfer.NotDisturbed bsp driver ↔
      CountsNothing bsp
        (Usb2Event.step bsp (transfer.atSetup bsp driver) (.setup transfer.packet transfer.reply))
        0 transfer.completions := by
  obtain ⟨kept, same⟩ := passthrough_run bsp passthrough transfer.beforeElsewhere
  have setUp : CountsMore 0
      (Usb2Event.step bsp (transfer.atSetup bsp driver) (.setup transfer.packet transfer.reply))
      (Usb2Event.step bsp driver (.setup transfer.packet transfer.reply)) :=
    countsMore_setup bsp kept passthrough same transfer.packet transfer.reply
  rw [← observations_filter_iff bsp setUp transfer.completionsOnly]
  unfold ControlTransfer.NotDisturbed observationsFrom
  simp only []
  rw [List.cons.injEq]
  have first : observation (Usb2Event.step bsp (transfer.atSetup bsp driver)
        (.setup transfer.packet transfer.reply)) =
      observation (Usb2Event.step bsp driver (.setup transfer.packet transfer.reply)) := by
    have sizes := setUp.sizes
    have small := setUp.otherSmall
    rw [u16, Nat.add_zero, Nat.mod_eq_of_lt small] at sizes
    exact congrArg₂ (fun view size =>
      Observation.mk view.rxCtrl view.txCtrl view.tLen view.usbSetupReq size) setUp.same sizes
  exact and_iff_right first

/-! ## A bulk packet within a control transfer -/

/-- A configured device that is about to send 64 bytes on endpoint 1. -/
def sendingOnEndpoint1 : Usb2Driver :=
  { Usb2Driver.initial { usbDevice0 with
      state := .configured
      tx := fun _ => ⟨0x20020000, 1, 64, 64, endpStateNak⟩
      rx := fun _ => ⟨0x20020200, 1, 64, 64, endpStateAck⟩ } fun _ => 0#8
    with
    ep0PassthroughEnabled := true
    dma := fun _ => 0x20020000
    endpTxRemainingBytes := fun _ => 64 }

def vendorRead (completions : List Usb2Event)
    (completionsOnly : ∀ event ∈ completions, Elsewhere event ∨ OnEndp0 event) :
    ControlTransfer where
  before := []
  packet := ⟨0xc0#8, 1#8, ⟨0#8, 0#8⟩, ⟨0#8, 0#8⟩, 128#16⟩
  reply := ⟨[.endpTxSetNewBuffer 0 0x20020400 64], endpStateAck, 0, 0⟩
  completions := completions
  beforeElsewhere _ member := absurd member (by simp)
  completionsOnly := completionsOnly

/-- OUT packets on endpoint 1 do not show. -/
theorem out_packets_do_not_show :
    (vendorRead [.outDone 1 64 true noReply, .inDone 0 noReply]
      (by decide)).NotDisturbed ⟨3, by decide, by decide⟩ sendingOnEndpoint1 :=
  (not_disturbed_iff ⟨3, by decide, by decide⟩ ⟨rfl, by decide⟩ _).mpr (by decide)

/-- After an IN packet on endpoint 1, half of the answer counts as all of it. -/
theorem in_packet_ends_transfer :
    ¬(vendorRead [.inDone 1 noReply, .inDone 0 noReply]
      (by decide)).NotDisturbed ⟨3, by decide, by decide⟩ sendingOnEndpoint1 := by
  decide

end WchCh56x.Usb.Interleaving
