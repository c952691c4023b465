import WchCh56x.Usb.ControlIn30

/-!
# The SETUP stage of a control-IN transfer on a USB3 link

Descriptors are cut to `wLength`.  The other requests leave a length behind that
the completions load from where an earlier answer has ended.
-/

namespace WchCh56x.Usb.Usb30Driver

open Support.Packets

variable (bsp : Usb2Bsp) (driver : Usb30Driver) (packet : UsbSetup) (reply : UserReply)

def setupRead30 : Usb30Driver := (driver.setupPending30 packet).setUepRxCtrl 0 0#32

/-- The requests with an answer of fixed length have room for it, and those that leave a value in
the place of the length have room for that, or find no pointer. -/
def KeepsLength : Prop :=
  if packet.IsStandard then
    (packet.bRequest = usbGetStatus → 2 ≤ packet.wLength.toNat) ∧
      (packet.bRequest = usbGetConfiguration → driver.pDescr = 0 ∨ 1 ≤ packet.wLength.toNat) ∧
      (packet.bRequest = usbSetAddress ∨ packet.bRequest = 0x31#8 →
        driver.pDescr = 0 ∨ packet.wValue.bb1.toNat ≤ packet.wLength.toNat)
  else
    u16 reply.length = usbDescrUnsupported ∨ reply.buffer = 0 ∨
      u16 reply.length ≤ packet.wLength.toNat

instance : Decidable (driver.KeepsLength packet reply) := inferInstanceAs (Decidable (ite _ _ _))

/-! ## The answer to the SETUP packet -/

section

variable {driver}

theorem usbSetupBuf_setupRead30 : (driver.setupRead30 packet).usbSetupBuf = packet :=
  driver.usbSetupBuf_setupPending30 packet

theorem answerSetup_eq {reqLen : Nat} (fits : reqLen ≤ endp0MaxPacketSize) :
    driver.answerSetup true reqLen =
      (driver.setUsbFcCtrl 0x41#32).setUepTxCtrl 0 (BitVec.ofNat 32 reqLen ||| 0x14010000#32) := by
  unfold endp0MaxPacketSize at fits
  have notRefused : reqLen ≠ usbDescrUnsupported := by
    unfold usbDescrUnsupported
    omega
  have notLonger : ¬0x200 < reqLen := Nat.not_lt.mpr fits
  unfold answerSetup
  rw [if_pos rfl, if_neg notRefused, if_neg notLonger]

theorem answerSetup_of_packet {reqLen : Nat} (fits : reqLen ≤ endp0MaxPacketSize) :
    let after := driver.answerSetup true reqLen
    after.Streaming ∧ after.endp0Length = reqLen ∧ after.setupLen = driver.setupLen ∧
      after.pDescr = driver.pDescr ∧ after.memory = driver.memory ∧
        after.endp0Buffer = driver.endp0Buffer := by
  have length := usb30InTxLen_first fits
  have ctrl : ((driver.setUsbFcCtrl 0x41#32).setUepTxCtrl 0
      (BitVec.ofNat 32 reqLen ||| 0x14010000#32)).usb30.uepTxCtrl 0 =
        BitVec.ofNat 32 reqLen ||| 0x14010000#32 := setUepTxCtrl_self ..
  dsimp only
  rw [answerSetup_eq fits]
  have packetLength := (congrArg usb30InTxLen ctrl).trans length
  refine ⟨⟨?_, packetLength.trans_le fits⟩, packetLength, rfl, rfl, rfl, rfl⟩
  exact (congrArg Endp0Ready ctrl).mpr (endp0Ready_or _)

theorem answerSetup_of_refusal :
    (driver.answerSetup true usbDescrUnsupported).endp0Armed30 = none := by
  have ctrl : ((driver.setUsbFcCtrl 0x41#32).setUepTxCtrl 0 0x8010000#32).usb30.uepTxCtrl 0 =
      0x8010000#32 := setUepTxCtrl_self ..
  refine if_neg fun ready => ?_
  have stalled : Endp0Ready 0x8010000#32 := (congrArg Endp0Ready ctrl).mp ready
  exact absurd stalled (by decide)

variable {packet} (isIn : packet.IsIn)
include isIn

theorem step_setup30_in :
    Usb30Event.step bsp driver (.setup packet reply) =
      ((driver.setupRead30 packet).usb30Request bsp reply).2.answerSetup true
        ((driver.setupRead30 packet).usb30Request bsp reply).1 := by
  have isSetup := driver.usbSetupBuf_setupPending30 packet
  have direction : decide (driver.setupPending30 packet).usbSetupBuf.IsIn = true := by
    rw [isSetup]
    exact decide_eq_true isIn
  rw [step_setup30]
  unfold usb30SetupStage
  rw [direction]
  rfl

/-- A refused request has no data stage. -/
theorem stage30_of_refusal
    (refused : ((driver.setupRead30 packet).usb30Request bsp reply).1 = usbDescrUnsupported)
    (bound : Nat) : SendsWithin (driver.endp0Stage30 bsp packet reply) bound := by
  refine sendsWithin_of_none ?_ bound
  unfold endp0Stage30 afterIn30
  rw [step_setup30_in bsp reply isIn, refused]
  exact answerSetup_of_refusal

/-- An answered request starts a data stage. -/
theorem stage30_of_packet {reqLen : Nat} {requested : Usb30Driver}
    (isRequest : (driver.setupRead30 packet).usb30Request bsp reply = (reqLen, requested))
    (fits : reqLen ≤ endp0MaxPacketSize) :
    let start := Usb30Event.step bsp driver (.setup packet reply)
    start.Streaming ∧ start.endp0Length = reqLen ∧ start.setupLen = requested.setupLen ∧
      start.pDescr = requested.pDescr ∧ start.memory = requested.memory ∧
        start.endp0Buffer = requested.endp0Buffer := by
  dsimp only
  rw [step_setup30_in bsp reply isIn, isRequest]
  exact answerSetup_of_packet fits

/-- All that a request leaves stays within its own length. -/
theorem stage30_within {reqLen bound : Nat} {requested : Usb30Driver}
    (isRequest : (driver.setupRead30 packet).usb30Request bsp reply = (reqLen, requested))
    (fits : reqLen ≤ endp0MaxPacketSize) (within : reqLen + requested.setupLen ≤ bound) :
    SendsWithin (driver.endp0Stage30 bsp packet reply) bound := by
  obtain ⟨streaming, length, left, _⟩ := stage30_of_packet bsp reply isIn isRequest fits
  refine (streaming.sendsWithin_iff bsp).mpr fun packets => ?_
  refine (streaming.received_le bsp packets).trans ?_
  rw [length, left]
  exact within

/-- A request that leaves a length which it has not loaded itself. -/
theorem stage30_within_iff_of_short {reqLen bound : Nat} {requested : Usb30Driver}
    (isRequest : (driver.setupRead30 packet).usb30Request bsp reply = (reqLen, requested))
    (fits : reqLen ≤ endp0MaxPacketSize) (short : requested.setupLen ≤ endp0MaxPacketSize) :
    SendsWithin (driver.endp0Stage30 bsp packet reply) bound ↔
      reqLen ≤ bound ∧ (requested.pDescr = 0 ∨ reqLen + requested.setupLen ≤ bound) := by
  obtain ⟨streaming, length, left, pointer, _⟩ := stage30_of_packet bsp reply isIn isRequest fits
  refine (streaming.sendsWithin_iff bsp).trans ?_
  rw [streaming.within_iff_of_short bsp (left.trans_le short), length, left, pointer]

/-- A request that loads the first packet of its answer. -/
theorem sends30_of_load {head total : Nat} {pointed : Usb30Driver}
    (isRequest : (driver.setupRead30 packet).usb30Request bsp reply = pointed.loadPacket)
    (atHead : pointed.pDescr = head) (whole : pointed.setupLen = total)
    (addressable : head + total ≤ 2 ^ 32) :
    (Usb30Event.step bsp driver (.setup packet reply)).Sends30 head total 0 ∧
      (Usb30Event.step bsp driver (.setup packet reply)).memory =
        memcpyBytes pointed.memory pointed.endp0Buffer head (packetLength endp0MaxPacketSize total 0) ∧
      (Usb30Event.step bsp driver (.setup packet reply)).endp0Buffer = pointed.endp0Buffer := by
  obtain ⟨size, answering, copied⟩ := answering_loadPacket addressable atHead whole
  have fits : pointed.loadPacket.1 ≤ endp0MaxPacketSize := by
    rw [size]
    exact Nat.min_le_left _ _
  obtain ⟨streaming, length, left, pointer, memory, buffer⟩ :=
    stage30_of_packet bsp reply isIn (isRequest.trans (Prod.eta _).symm) fits
  refine ⟨⟨streaming, length.trans size, left.trans answering.left, fun some => ?_⟩,
    memory.trans copied, buffer⟩
  exact pointer.trans (answering.pointer fun none => some (left.trans none))

end

/-! ## The requests -/

/-- The driver that has read the request and its length. -/
def requested30 : Usb30Driver :=
  { driver.setupRead30 packet with
    setupReqCode := packet.bRequest
    setupLen := packet.wLength.toNat }

section

variable {driver packet}

theorem usb30Request_of_standard (standard : packet.IsStandard) :
    (driver.setupRead30 packet).usb30Request bsp reply =
      (driver.setupRead30 packet).usb30StandardReqHandler := by
  have isSetup := @usbSetupBuf_setupRead30 driver packet
  unfold usb30Request
  rw [isSetup, if_pos standard]

/-- A known descriptor is loaded from the answer or, if there is none, from where the last one has
ended, but never more than the host asks for. -/
theorem usb30GetDescriptor_loads (setup : UsbSetup) :
    (driver.usb30GetDescriptor setup).1 = usbDescrUnsupported ∨
      ∃ pointed : Usb30Driver, driver.usb30GetDescriptor setup = pointed.loadPacket ∧
        pointed.setupLen ≤ driver.setupLen := by
  rcases driver.usb30GetDescriptor_cases setup with same | same | ⟨descr, size, same⟩
  · exact .inl (congrArg Prod.fst same)
  · exact .inr ⟨driver, same, le_rfl⟩
  · exact .inr ⟨driver.pointAt descr size, same, Nat.min_le_left _ _⟩

theorem loadPacket_conserves :
    driver.loadPacket.1 + driver.loadPacket.2.setupLen = driver.setupLen := by
  have loaded := @loadPacket_length driver
  change driver.loadPacket.1 + (driver.setupLen - driver.loadPacket.1) = driver.setupLen
  omega

theorem loadPacket_fits : driver.loadPacket.1 ≤ endp0MaxPacketSize := by
  rw [loadPacket_length]
  exact Nat.min_le_left _ _

variable (driver) in
theorem usb30StandardReqHandler_eq (packet : UsbSetup) :
    (driver.setupRead30 packet).usb30StandardReqHandler =
      let requested := driver.requested30 packet
      if packet.bRequest = usbGetDescriptor then
        requested.usb30GetDescriptor packet
      else if packet.bRequest = usbSetAddress then
        (0, { requested with setupLen := packet.wValue.bb1.toNat })
      else if packet.bRequest = usbGetConfiguration then
        (0, { requested.writeEndp0 [requested.device.currentConfig] with setupLen := 1 })
      else if packet.bRequest = usbSetConfiguration then
        (0, requested.usb30SetConfiguration packet)
      else if packet.bRequest = usbClearFeature ∨ packet.bRequest = usbSetFeature ∨
          packet.bRequest = usbGetInterface ∨ packet.bRequest = usbSetInterface then
        (0, requested)
      else if packet.bRequest = usbGetStatus then
        (2, { requested.writeEndp0 [0x01#8, 0x00#8] with setupLen := 0 })
      else if packet.bRequest = 0x30#8 then
        (0, requested)
      else if packet.bRequest = 0x31#8 then
        (0, { requested with setupLen := packet.wValue.bb1.toNat })
      else
        (usbDescrUnsupported, { requested with setupReqCode := invalidReqCode }) := by
  have isSetup := @usbSetupBuf_setupRead30 driver packet
  unfold usb30StandardReqHandler
  rw [isSetup]
  rfl

/-! ## The length of the data stage -/

/-- The number of a request that has a rule of its own in `KeepsLength`. -/
def HasOwnRule (number : U8) : Prop :=
  number = usbGetStatus ∨ number = usbGetConfiguration ∨ number = usbSetAddress ∨ number = 0x31#8

instance (number : U8) : Decidable (HasOwnRule number) :=
  inferInstanceAs (Decidable (_ ∨ _ ∨ _ ∨ _))

theorem keepsLength_of_standard (standard : packet.IsStandard) :
    driver.KeepsLength packet reply ↔
      (packet.bRequest = usbGetStatus → 2 ≤ packet.wLength.toNat) ∧
        (packet.bRequest = usbGetConfiguration → driver.pDescr = 0 ∨ 1 ≤ packet.wLength.toNat) ∧
        (packet.bRequest = usbSetAddress ∨ packet.bRequest = 0x31#8 →
          driver.pDescr = 0 ∨ packet.wValue.bb1.toNat ≤ packet.wLength.toNat) := by
  unfold KeepsLength
  rw [if_pos standard]

theorem keepsLength_of_other (standard : packet.IsStandard)
    (other : ¬HasOwnRule packet.bRequest) : driver.KeepsLength packet reply := by
  obtain ⟨notStatus, others⟩ := not_or.mp other
  obtain ⟨notGetConfig, noValue⟩ := not_or.mp others
  refine (keepsLength_of_standard reply standard).mpr ⟨?_, ?_, ?_⟩
  · exact fun is => absurd is notStatus
  · exact fun is => absurd is notGetConfig
  · exact fun is => absurd is noValue

section

variable (isIn : packet.IsIn)
include isIn

/-- A value that waits in the place of the length is loaded as one. -/
theorem within_iff_of_value (standard : packet.IsStandard)
    (isValue : packet.bRequest = usbSetAddress ∨ packet.bRequest = 0x31#8)
    (handled : (driver.setupRead30 packet).usb30StandardReqHandler =
      (0, { driver.requested30 packet with setupLen := packet.wValue.bb1.toNat })) :
    SendsWithin (driver.endp0Stage30 bsp packet reply) packet.wLength.toNat ↔
      driver.KeepsLength packet reply := by
  have small : packet.wValue.bb1.toNat ≤ endp0MaxPacketSize :=
    (BitVec.isLt packet.wValue.bb1).le.trans (by decide)
  have request := (usb30Request_of_standard bsp reply standard).trans handled
  rw [stage30_within_iff_of_short bsp reply isIn request (Nat.zero_le _) small,
    keepsLength_of_standard reply standard, Nat.zero_add, and_iff_right (Nat.zero_le _)]
  constructor
  · intro fits
    refine ⟨fun isStatus => ?_, fun isGetConfig => ?_, fun _ => fits⟩
    · rw [isStatus] at isValue
      exact absurd isValue (by decide)
    · rw [isGetConfig] at isValue
      exact absurd isValue (by decide)
  · exact fun keeps => keeps.2.2 isValue

theorem within_iff_of_getConfiguration (standard : packet.IsStandard)
    (isGetConfig : packet.bRequest = usbGetConfiguration)
    (handled : (driver.setupRead30 packet).usb30StandardReqHandler =
      (0, { (driver.requested30 packet).writeEndp0
        [(driver.requested30 packet).device.currentConfig] with setupLen := 1 })) :
    SendsWithin (driver.endp0Stage30 bsp packet reply) packet.wLength.toNat ↔
      driver.KeepsLength packet reply := by
  have request := (usb30Request_of_standard bsp reply standard).trans handled
  have oneByte : 1 ≤ endp0MaxPacketSize := by decide
  rw [stage30_within_iff_of_short bsp reply isIn request (Nat.zero_le _) oneByte,
    keepsLength_of_standard reply standard, Nat.zero_add, and_iff_right (Nat.zero_le _), isGetConfig]
  constructor
  · intro fits
    refine ⟨fun isStatus => ?_, fun _ => fits, fun isValue => ?_⟩
    · exact absurd isStatus (by decide)
    · exact absurd isValue (by decide)
  · exact fun keeps => keeps.2.1 rfl

theorem within_iff_of_getStatus (standard : packet.IsStandard)
    (isStatus : packet.bRequest = usbGetStatus)
    (handled : (driver.setupRead30 packet).usb30StandardReqHandler =
      (2, { (driver.requested30 packet).writeEndp0 [0x01#8, 0x00#8] with setupLen := 0 })) :
    SendsWithin (driver.endp0Stage30 bsp packet reply) packet.wLength.toNat ↔
      driver.KeepsLength packet reply := by
  have request := (usb30Request_of_standard bsp reply standard).trans handled
  have twoBytes : 2 ≤ endp0MaxPacketSize := by decide
  rw [stage30_within_iff_of_short bsp reply isIn request twoBytes (Nat.zero_le _),
    keepsLength_of_standard reply standard, Nat.add_zero, isStatus]
  constructor
  · rintro ⟨fits, _⟩
    refine ⟨fun _ => fits, fun isGetConfig => ?_, fun isValue => ?_⟩
    · exact absurd isGetConfig (by decide)
    · exact absurd isValue (by decide)
  · exact fun keeps => ⟨keeps.1 rfl, .inr (keeps.1 rfl)⟩

/-- The requests that leave `wLength` load no more than that. -/
theorem within_of_other (standard : packet.IsStandard) (other : ¬HasOwnRule packet.bRequest) :
    SendsWithin (driver.endp0Stage30 bsp packet reply) packet.wLength.toNat := by
  obtain ⟨notStatus, others⟩ := not_or.mp other
  obtain ⟨notGetConfig, noValue⟩ := not_or.mp others
  obtain ⟨notAddress, notNumber⟩ := not_or.mp noValue
  have request := @usb30Request_of_standard bsp driver packet reply standard
  rw [usb30StandardReqHandler_eq] at request
  dsimp only at request
  rw [if_neg notAddress, if_neg notGetConfig, if_neg notStatus, if_neg notNumber] at request
  have wLength : (driver.requested30 packet).setupLen = packet.wLength.toNat := rfl
  have leavesAll {requested : Usb30Driver}
      (isRequest : (driver.setupRead30 packet).usb30Request bsp reply = (0, requested))
      (left : requested.setupLen = packet.wLength.toNat) :=
    stage30_within bsp reply isIn isRequest (Nat.zero_le _)
      ((Nat.zero_add _).trans left).le
  split at request
  · rcases @usb30GetDescriptor_loads (driver.requested30 packet) packet with
      refused | ⟨pointed, loads, cut⟩
    · exact stage30_of_refusal bsp reply isIn ((congrArg Prod.fst request).trans refused) _
    · exact stage30_within bsp reply isIn ((request.trans loads).trans (Prod.eta _).symm)
        loadPacket_fits (loadPacket_conserves.trans_le cut)
  · split at request
    · have kept := congrArg Usb30View.setupLen
        (view_usb30ReinitEndpoints (driver.requested30 packet))
      refine leavesAll request ?_
      unfold usb30SetConfiguration
      dsimp only
      split
      · exact kept
      · exact kept
    · split at request
      · exact leavesAll request wLength
      · split at request
        · exact leavesAll request wLength
        · exact stage30_of_refusal bsp reply isIn (congrArg Prod.fst request) _

end

variable (driver) in
def answered30 (packet : UsbSetup) (reply : UserReply) : Usb30Driver :=
  { (driver.requested30 packet).invokeUser bsp (.endp0UserHandledControlRequest packet true)
      reply with
    setupLen := u16 reply.length }

section

variable (user : ¬packet.IsStandard) (isIn : packet.IsIn)
include user isIn

theorem usb30Request_of_user :
    (driver.setupRead30 packet).usb30Request bsp reply =
      if u16 reply.length = usbDescrUnsupported then
        (u16 reply.length, driver.answered30 bsp packet reply)
      else if reply.buffer = 0 then
        (usbDescrUnsupported, driver.answered30 bsp packet reply)
      else
        { driver.answered30 bsp packet reply with pDescr := reply.buffer }.loadPacket := by
  have isSetup := @usbSetupBuf_setupRead30 driver packet
  unfold usb30Request
  rw [isSetup, if_neg user]
  unfold usb30UserRequest
  rw [isSetup]
  by_cases refused : u16 reply.length = usbDescrUnsupported
  · rw [if_pos refused]
    exact (if_neg fun both => both.1 refused).trans (if_neg (not_not.mpr refused))
  · rw [if_neg refused]
    exact if_pos ⟨refused, isIn⟩

theorem within_iff_of_user (addressable : reply.buffer + u16 reply.length ≤ 2 ^ 32) :
    SendsWithin (driver.endp0Stage30 bsp packet reply) packet.wLength.toNat ↔
      driver.KeepsLength packet reply := by
  have request := @usb30Request_of_user bsp driver packet reply user isIn
  unfold KeepsLength
  rw [if_neg user]
  by_cases refused : u16 reply.length = usbDescrUnsupported
  · rw [if_pos refused] at request
    exact iff_of_true (stage30_of_refusal bsp reply isIn
      ((congrArg Prod.fst request).trans refused) _) (.inl refused)
  by_cases noBuffer : reply.buffer = 0
  · rw [if_neg refused, if_pos noBuffer] at request
    exact iff_of_true (stage30_of_refusal bsp reply isIn (congrArg Prod.fst request) _)
      (.inr (.inl noBuffer))
  rw [if_neg refused, if_neg noBuffer] at request
  obtain ⟨sends, _⟩ := sends30_of_load bsp reply isIn request rfl rfl addressable
  rw [or_iff_right refused, or_iff_right noBuffer]
  exact (sends.streaming.sendsWithin_iff bsp).trans (sends.within_iff bsp addressable)

end

/-- The data stage keeps to `wLength` where the request does. -/
theorem endp0Stage30_within_iff (isIn : packet.IsIn)
    (addressable : reply.buffer + u16 reply.length ≤ 2 ^ 32) :
    SendsWithin (driver.endp0Stage30 bsp packet reply) packet.wLength.toNat ↔
      driver.KeepsLength packet reply := by
  by_cases standard : packet.IsStandard
  · have handled := driver.usb30StandardReqHandler_eq packet
    dsimp only at handled
    by_cases own : HasOwnRule packet.bRequest
    · rcases own with isStatus | isGetConfig | isAddress | isNumber
      · rw [isStatus] at handled
        exact within_iff_of_getStatus bsp reply isIn standard isStatus handled
      · rw [isGetConfig] at handled
        exact within_iff_of_getConfiguration bsp reply isIn standard isGetConfig handled
      · rw [isAddress] at handled
        exact within_iff_of_value bsp reply isIn standard (.inl isAddress) handled
      · rw [isNumber] at handled
        exact within_iff_of_value bsp reply isIn standard (.inr isNumber) handled
    · exact iff_of_true (within_of_other bsp reply isIn standard own)
        (keepsLength_of_other reply standard own)
  · exact within_iff_of_user bsp reply standard isIn addressable

end

end WchCh56x.Usb.Usb30Driver
