import WchCh56x.Usb.Leftovers
import WchCh56x.Usb.PacketCopies
import WchCh56x.Usb.SetupPointer

/-!
# A SETUP packet after an earlier control transfer

A request that sets the transfer up hides what the transfer before it has left.
Two drivers that differ in the leftovers then differ in `desc_head` at most, and
only where no later packet reads it.
-/

namespace WchCh56x.Usb

namespace Usb2Driver

variable (bsp : Usb2Bsp) (driver : Usb2Driver)

/-! ## Requests that set the transfer up -/

/-- The descriptor that the request names is there. -/
def HasDescriptor (packet : UsbSetup) : Prop :=
  if packet.wValue.bb0 = usbDescrTypDevice then
    driver.device.usbDescriptors.usb2DeviceDescr ≠ 0
  else if packet.wValue.bb0 = usbDescrTypConfig then
    driver.device.usbDescriptors.usb2ConfigDescr driver.memory ≠ 0
  else
    packet.wValue.bb0 = usbDescrTypString ∧ driver.device.usbDescriptors.usbStringDescrs.isSome

instance (packet : UsbSetup) : Decidable (driver.HasDescriptor packet) :=
  inferInstanceAs (Decidable (ite _ _ _))

/-- The handler of the request sets what the rest of the transfer reads.  SET_ADDRESS leaves
`desc_head` as it is, which packets of no bytes do not read. -/
def SetsTransfer (packet : UsbSetup) (reply : UserReply) : Prop :=
  if packet.TreatedAsStandard then
    packet.bRequest = usbGetDescriptor ∧ driver.HasDescriptor packet ∨
      packet.bRequest = usbSetAddress ∧
        (packet.IsIn → packet.wLength.toNat ≤ driver.usb2Endp0MaxPacketSize ∨
          driver.usb2Endp0MaxPacketSize = 0)
  else if packet.IsIn then
    0 < u16 reply.length ∧ reply.buffer ≠ 0
  else
    packet.wLength ≠ 0#16

instance (packet : UsbSetup) (reply : UserReply) : Decidable (driver.SetsTransfer packet reply) :=
  inferInstanceAs (Decidable (ite _ _ _))

/-! ## Drivers that differ in `desc_head` -/

def withHead (head : Nat) : Usb2Driver := { driver with descHead := head }

/-- No packet of the transfer is copied from `desc_head` any more. -/
def HeadUnread : Prop :=
  driver.usbSetupReq.IsIn → driver.endp0RemainingBytes ≤ driver.usb2Endp0MaxPacketSize ∨
    driver.usb2Endp0MaxPacketSize = 0

/-- The drivers are the same where the rest of the transfer reads them. -/
def SameTransfer (other : Usb2Driver) : Prop :=
  ∃ head, other = driver.withHead head ∧ (head = driver.descHead ∨ driver.HeadUnread)

variable {driver} {other : Usb2Driver}

theorem SameTransfer.refl : driver.SameTransfer driver := ⟨driver.descHead, rfl, Or.inl rfl⟩

/-- A step that reads `desc_head` only where the transfer still needs it. -/
theorem SameTransfer.step {next : Usb2Driver → Usb2Driver} (same : driver.SameTransfer other)
    (unread : ∀ head, driver.HeadUnread → (next driver).SameTransfer (next (driver.withHead head))) :
    (next driver).SameTransfer (next other) := by
  obtain ⟨head, rfl, isHead | notRead⟩ := same
  · rw [isHead]
    exact SameTransfer.refl
  · exact unread head notRead

theorem withHead_invoke (head : Nat) (userCall : UserCall) (reply : UserReply) :
    (driver.withHead head).invoke bsp userCall reply =
      (driver.invoke bsp userCall reply).withHead head := by
  have fixed := fixed_invoke bsp driver userCall reply
  have remaining : (driver.invoke bsp userCall reply).endp0RemainingBytes =
      driver.endp0RemainingBytes := congrArg Fixed.endp0RemainingBytes fixed
  have size : (driver.invoke bsp userCall reply).endp0CurrentTransferSize =
      driver.endp0CurrentTransferSize := congrArg Fixed.endp0CurrentTransferSize fixed
  refine (withLeftovers_invoke bsp driver
    ⟨head, driver.endp0RemainingBytes, driver.endp0CurrentTransferSize⟩ userCall reply).trans ?_
  exact congrArg₂ (fun remaining size => (driver.invoke bsp userCall reply).withLeftovers
    ⟨head, remaining, size⟩) remaining.symm size.symm

/-! ## The SETUP packet -/

variable (driver)

/-- Where the descriptor is there, its data stage starts whatever the leftovers are. -/
theorem getDescriptor_starts (has : driver.HasDescriptor driver.usbSetupReq) :
    ∃ head total, ∀ left, (driver.withLeftovers left).getDescriptor =
      (driver.withLeftovers left).startDataStage head total := by
  unfold HasDescriptor at has
  by_cases isDevice : driver.usbSetupReq.wValue.bb0 = usbDescrTypDevice
  · rw [if_pos isDevice] at has
    exact ⟨driver.device.usbDescriptors.usb2DeviceDescr,
      min (driver.memory driver.device.usbDescriptors.usb2DeviceDescr).toNat
        driver.usbSetupReq.wLength.toNat,
      fun left => (if_pos isDevice).trans (if_pos has)⟩
  rw [if_neg isDevice] at has
  by_cases isConfig : driver.usbSetupReq.wValue.bb0 = usbDescrTypConfig
  · rw [if_pos isConfig] at has
    exact ⟨driver.device.usbDescriptors.usb2ConfigDescr driver.memory,
      min (readU16 driver.memory
        (driver.device.usbDescriptors.usb2ConfigDescr driver.memory + 2)).toNat
          driver.usbSetupReq.wLength.toNat,
      fun left => ((if_neg isDevice).trans (if_pos isConfig)).trans (if_pos has)⟩
  rw [if_neg isConfig] at has
  obtain ⟨isString, hasTable⟩ := has
  obtain ⟨table, isTable⟩ := Option.isSome_iff_exists.mp hasTable
  refine ⟨table driver.usbSetupReq.wValue.bb1.toNat,
    (driver.memory (table driver.usbSetupReq.wValue.bb1.toNat)).toNat, fun left => ?_⟩
  refine ((if_neg isDevice).trans (if_neg isConfig)).trans ((if_pos isString).trans ?_)
  have sameTable : (driver.withLeftovers left).device.usbDescriptors.usbStringDescrs = some table :=
    isTable
  rw [sameTable]
  rfl

variable {driver} in
/-- A handled request that sets the transfer up leaves the same transfer from any leftovers. -/
theorem usb2Ep0RequestHandler_withLeftovers {reply : UserReply}
    (sets : driver.SetsTransfer driver.usbSetupReq reply) (left : Leftovers) :
    ∃ len next other, driver.usb2Ep0RequestHandler bsp reply = (len, next) ∧
      (driver.withLeftovers left).usb2Ep0RequestHandler bsp reply = (len, other) ∧
        next.SameTransfer other := by
  unfold SetsTransfer at sets
  by_cases standard : driver.usbSetupReq.TreatedAsStandard
  · rw [if_pos standard] at sets
    have otherStandard : (driver.withLeftovers left).usbSetupReq.TreatedAsStandard := standard
    rw [usb2Ep0RequestHandler_of_standard standard,
      usb2Ep0RequestHandler_of_standard otherStandard]
    obtain ⟨isGet, has⟩ | ⟨isSet, inOnePacket⟩ := sets
    · obtain ⟨head, total, starts⟩ := getDescriptor_starts driver has
      have own : driver.getDescriptor = driver.startDataStage head total :=
        starts ⟨driver.descHead, driver.endp0RemainingBytes, driver.endp0CurrentTransferSize⟩
      rw [standardRequest_of_getDescriptor isGet,
        @standardRequest_of_getDescriptor (driver.withLeftovers left) isGet, own, starts left]
      exact ⟨_, _, _, rfl, rfl, SameTransfer.refl⟩
    · rw [standardRequest_of_setAddress isSet,
        @standardRequest_of_setAddress (driver.withLeftovers left) isSet]
      exact ⟨_, _, _, rfl, rfl, left.descHead, rfl, Or.inr inOnePacket⟩
  rw [if_neg standard] at sets
  have otherUser : ¬(driver.withLeftovers left).usbSetupReq.TreatedAsStandard := standard
  by_cases isIn : driver.usbSetupReq.IsIn
  · rw [if_pos isIn] at sets
    obtain ⟨hasLength, hasBuffer⟩ := sets
    have otherIn : (driver.withLeftovers left).usbSetupReq.IsIn := isIn
    rw [usb2Ep0RequestHandler_of_userIn standard isIn hasLength hasBuffer,
      usb2Ep0RequestHandler_of_userIn otherUser otherIn hasLength hasBuffer,
      withLeftovers_invoke]
    exact ⟨_, _, _, rfl, rfl, SameTransfer.refl⟩
  · rw [if_neg isIn] at sets
    have otherOut : ¬(driver.withLeftovers left).usbSetupReq.IsIn := isIn
    have otherData : (driver.withLeftovers left).usbSetupReq.wLength ≠ 0#16 := sets
    rw [usb2Ep0RequestHandler_of_userOut standard isIn sets,
      usb2Ep0RequestHandler_of_userOut otherUser otherOut otherData]
    exact ⟨_, _, _, rfl, rfl, left.descHead, rfl, Or.inr fun inRequest => absurd inRequest isIn⟩

/-- The SETUP stage of a request that sets the transfer up. -/
theorem setupStage_sameTransfer {driver : Usb2Driver} {reply : UserReply}
    (sets : driver.SetsTransfer driver.usbSetupReq reply) (left : Leftovers) :
    (driver.usb2Ep0SetupStageHandler bsp reply).SameTransfer
      ((driver.withLeftovers left).usb2Ep0SetupStageHandler bsp reply) := by
  obtain ⟨len, next, _, handled, otherHandled, head, rfl, unread⟩ :=
    usb2Ep0RequestHandler_withLeftovers bsp sets left
  unfold usb2Ep0SetupStageHandler
  rw [handled, otherHandled]
  unfold withHead
  simp only []
  split
  · split
    · exact ⟨head, rfl, unread⟩
    · exact ⟨head, rfl, unread⟩
  · split
    · exact ⟨head, rfl, unread⟩
    · exact ⟨head, rfl, unread⟩

/-! ## Completions -/

theorem inHandler_sameTransfer {driver other : Usb2Driver} (same : driver.SameTransfer other) :
    (driver.usb2Ep0InHandler bsp).SameTransfer (other.usb2Ep0InHandler bsp) := by
  refine @SameTransfer.step driver other (usb2Ep0InHandler bsp) same fun head unread => ?_
  unfold withHead usb2Ep0InHandler
  simp only []
  split
  · next isIn =>
      unfold ep0DataInHandler usb2Ep0NextDataPacketSize
      simp only []
      rcases unread isIn with onePacket | noSize
      · have sent : driver.endp0RemainingBytes -
            min driver.endp0RemainingBytes driver.usb2Endp0MaxPacketSize = 0 := by
          rw [Nat.min_eq_left onePacket, Nat.sub_self]
        rw [if_pos sent, if_pos sent]
        split
        · exact ⟨_, rfl, Or.inr fun _ => Or.inl (sent.trans_le (Nat.zero_le _))⟩
        · exact SameTransfer.refl
      · have noByte (left : Nat) : min left driver.usb2Endp0MaxPacketSize = 0 := by
          rw [noSize, Nat.min_zero]
        simp only [noByte, memcpyBytes_zero]
        split
        · split
          · exact ⟨_, rfl, Or.inr fun _ => Or.inr noSize⟩
          · exact SameTransfer.refl
        · exact ⟨_, rfl, Or.inr fun _ => Or.inr noSize⟩
  · unfold ep0StatusInHandler usb2SetDeviceAddress
    simp only []
    split
    · split
      · exact ⟨head, rfl, Or.inr unread⟩
      · exact ⟨head, rfl, Or.inr unread⟩
    · exact ⟨head, rfl, Or.inr unread⟩

theorem outHandler_sameTransfer {driver other : Usb2Driver} (same : driver.SameTransfer other)
    (numBytesReceived : Nat) (reply : UserReply) :
    (driver.usb2Ep0OutHandler bsp numBytesReceived reply).SameTransfer
      (other.usb2Ep0OutHandler bsp numBytesReceived reply) := by
  refine @SameTransfer.step driver other
    (fun driver => driver.usb2Ep0OutHandler bsp numBytesReceived reply) same fun head unread => ?_
  by_cases isIn : driver.usbSetupReq.IsIn
  · unfold usb2Ep0OutHandler usb2Ep0NextDataPacketSize withHead
    simp only []
    rw [if_pos isIn, if_pos isIn]
    split
    · exact ⟨head, rfl, Or.inr unread⟩
    · exact ⟨head, rfl, Or.inr unread⟩
  · have isOut : ¬(driver.withHead head).usbSetupReq.IsIn := isIn
    by_cases last : (driver.countOutPacket numBytesReceived).endp0RemainingBytes = 0
    · have commutes := @withHead_invoke bsp (((driver.countOutPacket
        numBytesReceived).setDma .uep0Rt driver.endp0Buffer).setTLen 0 0) head
          (.endp0UserHandledControlRequest driver.usbSetupReq false) reply
      have request := congrArg Fixed.usbSetupReq (fixed_invoke bsp (((driver.countOutPacket
        numBytesReceived).setDma .uep0Rt driver.endp0Buffer).setTLen 0 0)
          (.endp0UserHandledControlRequest driver.usbSetupReq false) reply)
      rw [usb2Ep0OutHandler_of_last isIn last, usb2Ep0OutHandler_of_last isOut last]
      refine ⟨head, ?_, Or.inr fun inRequest => absurd ?_ isIn⟩
      · exact congrArg (fun driver : Usb2Driver => (driver.setTxCtrl 0 _).setRxCtrl 0 _) commutes
      · exact (congrArg (fun request : UsbSetup => request.IsIn) request).mp inRequest
    · rw [usb2Ep0OutHandler_of_more isIn last, usb2Ep0OutHandler_of_more isOut last]
      exact ⟨head, rfl, Or.inr fun inRequest => absurd inRequest isIn⟩

/-! ## What the host gets -/

def armedPacket : Option (List U8) :=
  if response (driver.txCtrl 0) = uepResAck then
    some ((List.range (driver.tLen 0)).map fun i => driver.memory (driver.dma .uep0Rt + i))
  else
    none

end Usb2Driver

def UserCall.IsControlRequest : UserCall → Bool
  | .endp0UserHandledControlRequest _ _ => true
  | _ => false

/-- What an event leaves on endpoint 0, and how often the user's handler has been called. -/
structure Endp0Output where
  txResponse : U8
  rxResponse : U8
  armed : Option (List U8)
  handlerCalls : Nat
  deriving DecidableEq

namespace NewSetup

open Usb2Driver

variable (bsp : Usb2Bsp)

def endp0Output (driver : Usb2Driver) : Endp0Output where
  txResponse := response (driver.txCtrl 0)
  rxResponse := response (driver.rxCtrl 0)
  armed := driver.armedPacket
  handlerCalls := driver.userCalls.countP UserCall.IsControlRequest

def outputs (driver : Usb2Driver) : List Usb2Event → List Endp0Output
  | [] => []
  | event :: rest =>
      endp0Output (Usb2Event.step bsp driver event) ::
        outputs (Usb2Event.step bsp driver event) rest

/-- The SETUP packet and the completions after it do not show what earlier transfers have left. -/
def DiscardsPrevious (driver : Usb2Driver) (packet : UsbSetup) (reply : UserReply) : Prop :=
  ∀ left completions, (∀ event ∈ completions, event.OnEndp0) →
    outputs bsp (driver.withLeftovers left) (.setup packet reply :: completions) =
      outputs bsp driver (.setup packet reply :: completions)

variable {bsp} {driver other : Usb2Driver}

theorem endp0Output_of_sameTransfer (same : driver.SameTransfer other) :
    endp0Output other = endp0Output driver := by
  obtain ⟨head, rfl, _⟩ := same
  rfl

/-- A completion on endpoint 0 takes drivers with the same transfer to such drivers. -/
theorem step_sameTransfer (noPassthrough : driver.ep0PassthroughEnabled = false)
    (same : driver.SameTransfer other) {event : Usb2Event} (onEndp0 : event.OnEndp0) :
    (Usb2Event.step bsp driver event).SameTransfer (Usb2Event.step bsp other event) := by
  obtain ⟨head, rfl, unread⟩ := same
  have otherPassthrough : (driver.withHead head).ep0PassthroughEnabled = false := noPassthrough
  have pending : driver.transferPending.SameTransfer (driver.withHead head).transferPending :=
    ⟨head, rfl, unread⟩
  have clear {driver other : Usb2Driver} (same : driver.SameTransfer other) :
      driver.clearFlags.SameTransfer other.clearFlags := by
    obtain ⟨head, rfl, unread⟩ := same
    exact ⟨head, rfl, unread⟩
  cases event with
  | inDone endpNum reply =>
      obtain rfl : endpNum = 0 := onEndp0
      by_cases powered : driver.device.state = .powered
      · rw [step_inDone_powered bsp powered,
          @step_inDone_powered bsp (driver.withHead head) powered]
        exact pending
      · rw [step_inDone bsp powered, @step_inDone bsp (driver.withHead head) powered,
          if_neg (by simp [noPassthrough]), if_neg (by simp [otherPassthrough])]
        exact clear (inHandler_sameTransfer bsp pending)
  | outDone endpNum numBytesReceived togok reply =>
      obtain rfl : endpNum = 0 := onEndp0
      by_cases powered : driver.device.state = .powered
      · rw [step_outDone_powered bsp powered,
          @step_outDone_powered bsp (driver.withHead head) powered]
        exact pending
      · cases togok with
        | false =>
            rw [step_outDone_wrongToggle bsp powered,
              @step_outDone_wrongToggle bsp (driver.withHead head) powered]
            exact ⟨head, rfl, unread⟩
        | true =>
            rw [step_outDone bsp powered, @step_outDone bsp (driver.withHead head) powered,
              if_neg (by simp [noPassthrough]), if_neg (by simp [otherPassthrough])]
            exact clear (outHandler_sameTransfer bsp pending numBytesReceived reply)
  | setup packet reply => exact onEndp0.elim
  | nak endpNum reply => exact onEndp0.elim
  | busReset reply => exact onEndp0.elim
  | call apiCall => exact onEndp0.elim

theorem outputs_sameTransfer (noPassthrough : driver.ep0PassthroughEnabled = false)
    (same : driver.SameTransfer other) {completions : List Usb2Event}
    (onEndp0 : ∀ event ∈ completions, event.OnEndp0) :
    outputs bsp other completions = outputs bsp driver completions := by
  induction completions generalizing driver other with
  | nil => rfl
  | cons event rest ih =>
      have next := @step_sameTransfer bsp _ _ noPassthrough same event
        (onEndp0 event List.mem_cons_self)
      have passthrough := congrArg Config.ep0PassthroughEnabled (config_step bsp driver event)
      have others := ih (passthrough.trans noPassthrough) next fun later member =>
        onEndp0 later (List.mem_cons_of_mem event member)
      exact congrArg₂ List.cons (endp0Output_of_sameTransfer next) others

/-- Before the first bus reset endpoint 0 does not answer. -/
theorem outputs_powered (powered : driver.device.state = .powered) (left : Leftovers)
    {completions : List Usb2Event} (onEndp0 : ∀ event ∈ completions, event.OnEndp0) :
    outputs bsp (driver.withLeftovers left) completions = outputs bsp driver completions := by
  induction completions generalizing driver with
  | nil => rfl
  | cons event rest ih =>
      have stays (driver : Usb2Driver) (powered : driver.device.state = .powered) :
          Usb2Event.step bsp driver event = driver.transferPending := by
        have onThis := onEndp0 event List.mem_cons_self
        cases event with
        | inDone endpNum reply => exact step_inDone_powered bsp powered endpNum reply
        | outDone endpNum numBytesReceived togok reply =>
            exact step_outDone_powered bsp powered endpNum numBytesReceived togok reply
        | setup packet reply => exact onThis.elim
        | nak endpNum reply => exact onThis.elim
        | busReset reply => exact onThis.elim
        | call apiCall => exact onThis.elim
      have others := @ih driver.transferPending powered fun later member =>
        onEndp0 later (List.mem_cons_of_mem event member)
      unfold outputs
      rw [stays driver powered, stays (driver.withLeftovers left) powered]
      exact congrArg (List.cons (endp0Output driver.transferPending)) others

/-- An endpoint that does not answer shows nothing. -/
theorem discardsPrevious_of_powered (powered : driver.device.state = .powered)
    (packet : UsbSetup) (reply : UserReply) : DiscardsPrevious bsp driver packet reply := by
  intro left completions onEndp0
  unfold outputs
  rw [step_setup_powered bsp powered,
    @step_setup_powered bsp (driver.withLeftovers left) powered]
  exact congrArg (List.cons (endp0Output (driver.setupPending packet)))
    (@outputs_powered bsp (driver.setupPending packet) powered left completions onEndp0)

/-- A SETUP packet whose request sets the transfer up discards the transfer before it. -/
theorem discardsPrevious_of_sets (running : driver.device.state ≠ .powered)
    (noPassthrough : driver.ep0PassthroughEnabled = false) {packet : UsbSetup}
    {reply : UserReply} (sets : (driver.setupRead packet).SetsTransfer packet reply) :
    DiscardsPrevious bsp driver packet reply := by
  intro left completions onEndp0
  unfold outputs
  have otherPassthrough : (driver.withLeftovers left).ep0PassthroughEnabled = false :=
    noPassthrough
  have same := @setupStage_sameTransfer bsp (driver.setupRead packet) reply sets left
  have next : (Usb2Event.step bsp driver (.setup packet reply)).SameTransfer
      (Usb2Event.step bsp (driver.withLeftovers left) (.setup packet reply)) := by
    rw [step_setup bsp running, @step_setup bsp (driver.withLeftovers left) running,
      if_neg (by simp [noPassthrough]), if_neg (by simp [otherPassthrough])]
    obtain ⟨head, isOther, unread⟩ := same
    exact ⟨head, congrArg clearFlags isOther, unread⟩
  have passthrough := congrArg Config.ep0PassthroughEnabled
    (config_step bsp driver (.setup packet reply))
  exact congrArg₂ List.cons (endp0Output_of_sameTransfer next)
    (outputs_sameTransfer (passthrough.trans noPassthrough) next onEndp0)

end NewSetup

end WchCh56x.Usb
