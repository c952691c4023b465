import WchCh56x.Usb.ControlIn
import WchCh56x.Usb.DeviceChart
import WchCh56x.Usb.NewSetup

/-!
# The SETUP stage of a control-IN transfer

A request points the data stage at some bytes, is refused, or leaves what an
earlier transfer has not sent.  Unless it is refused, the handler arms a packet.
-/

namespace WchCh56x.Usb

def UsbSetup.KnownDescriptor (setup : UsbSetup) : Prop :=
  setup.wValue.bb0 = usbDescrTypDevice ∨ setup.wValue.bb0 = usbDescrTypConfig ∨
    setup.wValue.bb0 = usbDescrTypString

instance (setup : UsbSetup) : Decidable setup.KnownDescriptor :=
  inferInstanceAs (Decidable (_ ∨ _ ∨ _))

namespace Usb2Driver

variable (bsp : Usb2Bsp) (driver : Usb2Driver) (reply : UserReply)

/-- Where the descriptor is that the request asks for, and how many bytes of it are sent. -/
def descriptorData : Option (Nat × Nat) :=
  let descriptors := driver.device.usbDescriptors
  let wLength := driver.usbSetupReq.wLength.toNat
  if driver.usbSetupReq.wValue.bb0 = usbDescrTypDevice then
    let descr := descriptors.usb2DeviceDescr
    if descr ≠ 0 then some (descr, min (driver.memory descr).toNat wLength) else none
  else if driver.usbSetupReq.wValue.bb0 = usbDescrTypConfig then
    let descr := descriptors.usb2ConfigDescr driver.memory
    if descr ≠ 0 then
      some (descr, min (readU16 driver.memory (descr + 2)).toNat wLength)
    else
      none
  else if driver.usbSetupReq.wValue.bb0 = usbDescrTypString then
    descriptors.usbStringDescrs.map fun table =>
      let descr := table driver.usbSetupReq.wValue.bb1.toNat
      (descr, (driver.memory descr).toNat)
  else
    none

/-- The bytes that a control-IN request sends: where they are and how many. -/
def requestData : Option (Nat × Nat) :=
  if driver.usbSetupReq.TreatedAsStandard then
    if driver.usbSetupReq.bRequest = usbGetDescriptor then driver.descriptorData else none
  else if 0 < u16 reply.length ∧ reply.buffer ≠ 0 then
    some (reply.buffer, u16 reply.length)
  else
    none

/-- The request handler returns no length. -/
def Refuses : Prop :=
  if driver.usbSetupReq.TreatedAsStandard then
    driver.usbSetupReq.bRequest = usbGetDescriptor ∧ ¬driver.usbSetupReq.KnownDescriptor
  else
    0 < u16 reply.length ∧ reply.buffer = 0

instance : Decidable (driver.Refuses reply) := inferInstanceAs (Decidable (ite _ _ _))

def firstLength : Nat :=
  match driver.requestData reply with
  | some data => min data.2 driver.usb2Endp0MaxPacketSize
  | none => 0

/-- The endpoint answers STALL.  A first packet of 65535 bytes has the length of a refusal. -/
def Stalls : Prop := driver.Refuses reply ∨ driver.firstLength reply = 0xffff

instance : Decidable (driver.Stalls reply) := inferInstanceAs (Decidable (_ ∨ _))

/-- What `endp0_remaining_bytes` holds after the request. -/
def bytesLeft : Nat :=
  match driver.requestData reply with
  | some data => data.2
  | none =>
      if driver.usbSetupReq.TreatedAsStandard ∧ driver.usbSetupReq.bRequest = usbSetAddress then
        driver.usbSetupReq.wLength.toNat
      else
        driver.endp0RemainingBytes

def requestBase : Usb2Driver :=
  if driver.usbSetupReq.TreatedAsStandard then
    driver
  else
    driver.invoke bsp (.endp0UserHandledControlRequest driver.usbSetupReq true) reply

theorem config_requestBase : (driver.requestBase bsp reply).config = driver.config := by
  unfold requestBase
  split
  · rfl
  · exact config_invoke ..

/-! ## The request handler -/

section

variable {driver reply}

theorem getDescriptor_of_data {data : Nat × Nat} (found : driver.descriptorData = some data) :
    driver.getDescriptor = driver.startDataStage data.1 data.2 := by
  unfold descriptorData at found
  unfold getDescriptor
  dsimp only at found ⊢
  split at found
  · next isDevice =>
      split at found
      · next present =>
          obtain rfl := Option.some.inj found
          rw [if_pos isDevice, if_pos present]
      · cases found
  · next notDevice =>
      rw [if_neg notDevice]
      split at found
      · next isConfig =>
          split at found
          · next present =>
              obtain rfl := Option.some.inj found
              rw [if_pos isConfig, if_pos present]
          · cases found
      · next notConfig =>
          rw [if_neg notConfig]
          split at found
          · next isString =>
              obtain ⟨table, isTable, rfl⟩ := Option.map_eq_some_iff.mp found
              rw [if_pos isString, isTable]
          · cases found

theorem getDescriptor_of_none (missing : driver.descriptorData = none) :
    driver.getDescriptor =
      (if driver.usbSetupReq.KnownDescriptor then 0 else 0xffff, driver) := by
  unfold descriptorData at missing
  unfold getDescriptor
  dsimp only at missing ⊢
  split at missing
  · next isDevice =>
      split at missing
      · cases missing
      · next absent =>
          have known : driver.usbSetupReq.KnownDescriptor := .inl isDevice
          rw [if_pos isDevice, if_neg absent, if_pos known]
  · next notDevice =>
      rw [if_neg notDevice]
      split at missing
      · next isConfig =>
          split at missing
          · cases missing
          · next absent =>
              have known : driver.usbSetupReq.KnownDescriptor := .inr (.inl isConfig)
              rw [if_pos isConfig, if_neg absent, if_pos known]
      · next notConfig =>
          rw [if_neg notConfig]
          split at missing
          · next isString =>
              have known : driver.usbSetupReq.KnownDescriptor := .inr (.inr isString)
              have noTable := Option.map_eq_none_iff.mp missing
              rw [if_pos isString, noTable, if_pos known]
          · next notString =>
              have unknown : ¬driver.usbSetupReq.KnownDescriptor :=
                not_or.mpr ⟨notDevice, not_or.mpr ⟨notConfig, notString⟩⟩
              rw [if_neg notString, if_neg unknown]

theorem standardRequest_of_other (notGet : driver.usbSetupReq.bRequest ≠ usbGetDescriptor)
    (notAddress : driver.usbSetupReq.bRequest ≠ usbSetAddress) :
    driver.standardRequest.1 = 0 ∧
      driver.standardRequest.2.endp0RemainingBytes = driver.endp0RemainingBytes := by
  have setUp (driver : Usb2Driver) :
      driver.usb2SetupEndpoints.endp0RemainingBytes = driver.endp0RemainingBytes :=
    (congrArg endp0RemainingBytes (usb2SetupEndpoints_changes driver)).trans rfl
  unfold standardRequest usb2ResetEndpoints
  dsimp only
  rw [if_neg notGet, if_neg notAddress]
  split
  · split
    · exact ⟨rfl, setUp _⟩
    · exact ⟨rfl, setUp _⟩
  · split
    · exact ⟨rfl, setUp driver⟩
    · exact ⟨rfl, rfl⟩

/-- A request without data sends what is left of an earlier transfer. -/
theorem usb2Ep0RequestHandler_of_noData (isIn : driver.usbSetupReq.IsIn)
    (missing : driver.requestData reply = none) (accepts : ¬driver.Refuses reply) :
    (driver.usb2Ep0RequestHandler bsp reply).1 = 0 ∧
      (driver.usb2Ep0RequestHandler bsp reply).2.endp0CurrentTransferSize =
        driver.bytesLeft reply ∧
      (driver.usb2Ep0RequestHandler bsp reply).2.endp0RemainingBytes = driver.bytesLeft reply := by
  unfold bytesLeft
  rw [missing]
  dsimp only
  unfold requestData at missing
  unfold Refuses at accepts
  by_cases standard : driver.usbSetupReq.TreatedAsStandard
  · rw [if_pos standard] at missing accepts
    rw [usb2Ep0RequestHandler_of_standard standard]
    by_cases isGet : driver.usbSetupReq.bRequest = usbGetDescriptor
    · rw [if_pos isGet] at missing
      have known : driver.usbSetupReq.KnownDescriptor := not_not.mp fun unknown =>
        accepts ⟨isGet, unknown⟩
      have notAddress : ¬(driver.usbSetupReq.TreatedAsStandard ∧
          driver.usbSetupReq.bRequest = usbSetAddress) := fun isSet =>
        absurd (isGet.symm.trans isSet.2) (by decide)
      rw [standardRequest_of_getDescriptor isGet, getDescriptor_of_none missing, if_pos known,
        if_neg notAddress]
      exact ⟨rfl, rfl, rfl⟩
    by_cases isAddress : driver.usbSetupReq.bRequest = usbSetAddress
    · rw [standardRequest_of_setAddress isAddress, if_pos ⟨standard, isAddress⟩]
      exact ⟨rfl, rfl, rfl⟩
    · obtain ⟨none, kept⟩ := standardRequest_of_other isGet isAddress
      rw [if_neg fun isSet => isAddress isSet.2]
      exact ⟨none, kept, kept⟩
  · rw [if_neg standard] at missing accepts
    have noLength : ¬0 < u16 reply.length := by
      intro some
      by_cases noBuffer : reply.buffer = 0
      · exact accepts ⟨some, noBuffer⟩
      · rw [if_pos ⟨some, noBuffer⟩] at missing
        cases missing
    have handled : driver.usb2Ep0RequestHandler bsp reply =
        (u16 reply.length, (driver.invoke bsp
          (.endp0UserHandledControlRequest driver.usbSetupReq true) reply).setTransferSize) :=
      (if_neg standard).trans ((if_pos isIn).trans (if_neg noLength))
    have kept := congrArg Fixed.endp0RemainingBytes (fixed_invoke bsp driver
      (.endp0UserHandledControlRequest driver.usbSetupReq true) reply)
    rw [handled, if_neg fun isSet => standard isSet.1]
    exact ⟨Nat.eq_zero_of_not_pos noLength, kept, kept⟩

/-- A request that finds data is not refused. -/
theorem not_refuses_of_data {data : Nat × Nat} (found : driver.requestData reply = some data) :
    ¬driver.Refuses reply := by
  intro refuses
  unfold Refuses at refuses
  unfold requestData at found
  split at refuses
  · next standard =>
      rw [if_pos standard, if_pos refuses.1] at found
      unfold descriptorData at found
      dsimp only at found
      obtain ⟨notDevice, others⟩ := not_or.mp refuses.2
      obtain ⟨notConfig, notString⟩ := not_or.mp others
      rw [if_neg notDevice, if_neg notConfig, if_neg notString] at found
      cases found
  · next user =>
      rw [if_neg user, if_neg fun both => both.2 refuses.2] at found
      cases found

variable (isIn : driver.usbSetupReq.IsIn)
include isIn

/-- The request starts a data stage. -/
theorem usb2Ep0RequestHandler_of_data {data : Nat × Nat}
    (found : driver.requestData reply = some data) :
    driver.usb2Ep0RequestHandler bsp reply =
      (((driver.requestBase bsp reply).startDataStage data.1 data.2).1,
        ((driver.requestBase bsp reply).startDataStage data.1 data.2).2.setTransferSize) := by
  unfold requestData at found
  unfold requestBase
  split at found
  · next standard =>
      split at found
      · next isGet =>
          rw [usb2Ep0RequestHandler_of_standard standard,
            standardRequest_of_getDescriptor isGet, getDescriptor_of_data found, if_pos standard]
      · cases found
  · next user =>
      split at found
      · next answers =>
          obtain rfl := Option.some.inj found
          rw [usb2Ep0RequestHandler_of_userIn user isIn answers.1 answers.2, if_neg user]
      · cases found

theorem usb2Ep0RequestHandler_of_refuses (refuses : driver.Refuses reply) :
    (driver.usb2Ep0RequestHandler bsp reply).1 = 0xffff := by
  unfold Refuses at refuses
  by_cases standard : driver.usbSetupReq.TreatedAsStandard
  · rw [if_pos standard] at refuses
    have missing : driver.descriptorData = none := by
      unfold descriptorData
      dsimp only
      obtain ⟨notDevice, others⟩ := not_or.mp refuses.2
      obtain ⟨notConfig, notString⟩ := not_or.mp others
      rw [if_neg notDevice, if_neg notConfig, if_neg notString]
    rw [usb2Ep0RequestHandler_of_standard standard, standardRequest_of_getDescriptor refuses.1,
      getDescriptor_of_none missing, if_neg refuses.2]
  · rw [if_neg standard] at refuses
    unfold usb2Ep0RequestHandler
    dsimp only
    rw [if_neg standard, if_pos isIn, if_pos refuses.1, if_pos refuses.2]

/-- The first length is what the request handler returns. -/
theorem usb2Ep0RequestHandler_length (accepts : ¬driver.Refuses reply) :
    (driver.usb2Ep0RequestHandler bsp reply).1 = driver.firstLength reply := by
  unfold firstLength
  cases found : driver.requestData reply with
  | none => exact (usb2Ep0RequestHandler_of_noData bsp isIn found accepts).1
  | some data =>
      have size : (driver.requestBase bsp reply).usb2Endp0MaxPacketSize =
          driver.usb2Endp0MaxPacketSize :=
        congrArg Config.usb2Endp0MaxPacketSize (driver.config_requestBase bsp reply)
      rw [usb2Ep0RequestHandler_of_data bsp isIn found]
      exact congrArg (min data.2) size

theorem usb2Ep0RequestHandler_transfer (accepts : ¬driver.Refuses reply) :
    (driver.usb2Ep0RequestHandler bsp reply).2.endp0CurrentTransferSize =
        driver.bytesLeft reply ∧
      (driver.usb2Ep0RequestHandler bsp reply).2.endp0RemainingBytes = driver.bytesLeft reply := by
  cases found : driver.requestData reply with
  | none => exact (usb2Ep0RequestHandler_of_noData bsp isIn found accepts).2
  | some data =>
      rw [usb2Ep0RequestHandler_of_data bsp isIn found, bytesLeft, found]
      exact ⟨rfl, rfl⟩

end

/-! ## The packet -/

section

variable {driver} (running : driver.device.state ≠ .powered)
  (noPassthrough : driver.ep0PassthroughEnabled = false) {packet : UsbSetup} (isIn : packet.IsIn)
include running noPassthrough isIn

theorem step_setup_in :
    Usb2Event.step bsp driver (.setup packet reply) =
      (let handled := (driver.setupRead packet).usb2Ep0RequestHandler bsp reply
      if handled.1 ≠ 0xffff then
        ((handled.2.setTLen 0 handled.1).setTxCtrl 0 (uepResAck ||| bsp.rbUepTog1)).setRxCtrl 0
          (handled.2.rxCtrl 0)
      else
        ((handled.2.setTLen 0 0).setTxCtrl 0 uepResStall).setRxCtrl 0
          (uepResAck ||| bsp.rbUepTog1)).clearFlags := by
  have handledIn : ((driver.setupRead packet).usb2Ep0RequestHandler bsp reply).2.usbSetupReq.IsIn := by
    rw [request_usb2Ep0RequestHandler]
    exact isIn
  rw [step_setup_of_noPassthrough bsp running noPassthrough]
  exact congrArg clearFlags (if_pos handledIn)

/-- A refused request leaves nothing for the host to take. -/
theorem setup_stalls (stalls : (driver.setupRead packet).Stalls reply) :
    response ((Usb2Event.step bsp driver (.setup packet reply)).txCtrl 0) = uepResStall := by
  have readIn : (driver.setupRead packet).usbSetupReq.IsIn := isIn
  have refused : ((driver.setupRead packet).usb2Ep0RequestHandler bsp reply).1 = 0xffff := by
    by_cases refuses : (driver.setupRead packet).Refuses reply
    · exact usb2Ep0RequestHandler_of_refuses bsp readIn refuses
    · rw [usb2Ep0RequestHandler_length bsp readIn refuses]
      exact stalls.resolve_left refuses
  rw [step_setup_in bsp reply running noPassthrough isIn]
  dsimp only
  rw [if_neg (not_not.mpr refused)]
  have ctrl := @Function.update_self (Fin 8) (fun _ => U8) _ 0 uepResStall
    ((driver.setupRead packet).usb2Ep0RequestHandler bsp reply).2.txCtrl
  exact congrArg response ctrl

variable (accepted : ¬(driver.setupRead packet).Stalls reply)
include accepted

theorem step_setup_accepted :
    Usb2Event.step bsp driver (.setup packet reply) =
      (let handled := (driver.setupRead packet).usb2Ep0RequestHandler bsp reply
      ((handled.2.setTLen 0 handled.1).setTxCtrl 0 (uepResAck ||| bsp.rbUepTog1)).setRxCtrl 0
        (handled.2.rxCtrl 0)).clearFlags := by
  have readIn : (driver.setupRead packet).usbSetupReq.IsIn := isIn
  obtain ⟨accepts, notLonger⟩ := not_or.mp accepted
  have length := usb2Ep0RequestHandler_length bsp readIn accepts
  rw [step_setup_in bsp reply running noPassthrough isIn]
  dsimp only
  rw [if_pos fun refused => notLonger (length.symm.trans refused)]

/-- An accepted request arms its first packet. -/
theorem setup_started :
    (Usb2Event.step bsp driver (.setup packet reply)).Started bsp ∧
      (Usb2Event.step bsp driver (.setup packet reply)).tLen 0 =
        (driver.setupRead packet).firstLength reply ∧
      (Usb2Event.step bsp driver (.setup packet reply)).endp0RemainingBytes =
        (driver.setupRead packet).bytesLeft reply := by
  have readIn : (driver.setupRead packet).usbSetupReq.IsIn := isIn
  have accepts := (not_or.mp accepted).1
  have length := usb2Ep0RequestHandler_length bsp readIn accepts
  obtain ⟨transfer, left⟩ := usb2Ep0RequestHandler_transfer bsp readIn accepts
  have config := config_step bsp driver (.setup packet reply)
  have request := (request_step_setup bsp running packet reply).1
  have isStep := step_setup_accepted bsp reply running noPassthrough isIn accepted
  refine ⟨⟨running_step bsp running _, ?_, ?_, ?_, ?_⟩, ?_, ?_⟩
  · exact (congrArg Config.ep0PassthroughEnabled config).trans noPassthrough
  · rw [request]
    exact isIn
  · rw [isStep]
    exact transfer.trans left.symm
  · rw [isStep]
    exact @Function.update_self (Fin 8) (fun _ => U8) _ 0 _
      ((driver.setupRead packet).usb2Ep0RequestHandler bsp reply).2.txCtrl
  · rw [isStep, ← length]
    exact @Function.update_self (Fin 8) (fun _ => Nat) _ 0 _
      ((driver.setupRead packet).usb2Ep0RequestHandler bsp reply).2.tLen
  · rw [isStep]
    exact left

/-- The SETUP stage copies the first packet of the data. -/
theorem setup_copies {data : Nat × Nat}
    (found : (driver.setupRead packet).requestData reply = some data) :
    (Usb2Event.step bsp driver (.setup packet reply)).descHead = data.1 ∧
      (Usb2Event.step bsp driver (.setup packet reply)).memory =
        memcpyBytes ((driver.setupRead packet).requestBase bsp reply).memory driver.endp0Buffer
          data.1 (min data.2 driver.usb2Endp0MaxPacketSize) ∧
      (Usb2Event.step bsp driver (.setup packet reply)).dma .uep0Rt = driver.dma .uep0Rt := by
  have readIn : (driver.setupRead packet).usbSetupReq.IsIn := isIn
  have handled := usb2Ep0RequestHandler_of_data bsp readIn found
  have isStep := step_setup_accepted bsp reply running noPassthrough isIn accepted
  rw [handled] at isStep
  have config := (driver.setupRead packet).config_requestBase bsp reply
  have size : ((driver.setupRead packet).requestBase bsp reply).usb2Endp0MaxPacketSize =
      driver.usb2Endp0MaxPacketSize := congrArg Config.usb2Endp0MaxPacketSize config
  have buffer : ((driver.setupRead packet).requestBase bsp reply).endp0Buffer =
      driver.endp0Buffer := congrArg (fun config : Config => config.rxBuffer 0) config
  have rtDma : ((driver.setupRead packet).requestBase bsp reply).dma .uep0Rt =
      driver.dma .uep0Rt := by
    unfold requestBase
    split
    · rfl
    · exact rtDma_invoke ..
  rw [isStep, ← size, ← buffer, ← rtDma]
  exact ⟨rfl, rfl, rfl⟩

end

end Usb2Driver

/-! ## A low-speed device -/

namespace ControlIn

open Usb2Driver NewSetup

def bsp0 : Usb2Bsp := .bit3

/-- A device descriptor of 18 bytes that gives 8 bytes as the packet size of endpoint 0. -/
def lowSpeedDescr : Nat → U8 := fun address =>
  if address = 0x20021000 then 18#8 else if address = 0x20021007 then 8#8 else 0#8

def lowSpeed : UsbDevice :=
  { controlOnly with
    usbDescriptors := { controlOnly.usbDescriptors with usb2DeviceDescr := 0x20021000 } }

def lowSpeedDriver : Usb2Driver :=
  Usb2Event.run bsp0 (initial lowSpeed lowSpeedDescr).usb2DeviceInit [.busReset noReply]

def getDeviceDescriptor (wLength : U16) : UsbSetup :=
  ⟨0x80#8, usbGetDescriptor, ⟨0#8, usbDescrTypDevice⟩, ⟨0#8, 0#8⟩, wLength⟩

end ControlIn

end WchCh56x.Usb
