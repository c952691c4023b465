import WchCh56x.Usb.CallEffects

/-!
# Control transfers on endpoint 0

Without passthrough the driver handles the standard requests itself and sends the
data stage packet by packet from `desc_head`.
-/

namespace WchCh56x.Usb.Usb2Driver

variable (bsp : Usb2Bsp) (driver : Usb2Driver)

/-! ## The SETUP stage -/

def usb2Ep0NextDataPacketSize : Nat :=
  min driver.endp0RemainingBytes driver.usb2Endp0MaxPacketSize

/-- Points the data stage at `total` bytes from `head` and copies the first packet. -/
def startDataStage (head total : Nat) : Nat × Usb2Driver :=
  let driver := { driver with descHead := head, endp0RemainingBytes := total }
  let len := driver.usb2Ep0NextDataPacketSize
  (len, { driver with memory := memcpyBytes driver.memory driver.endp0Buffer head len })

/-- The branch of `usb2_ep0_request_handler` for `USB_GET_DESCRIPTOR`. -/
def getDescriptor : Nat × Usb2Driver :=
  let descriptors := driver.device.usbDescriptors
  let wLength := driver.usbSetupReq.wLength.toNat
  if driver.usbSetupReq.wValue.bb0 = usbDescrTypDevice then
    let descr := descriptors.usb2DeviceDescr
    if descr ≠ 0 then
      driver.startDataStage descr (min (driver.memory descr).toNat wLength)
    else
      (0, driver)
  else if driver.usbSetupReq.wValue.bb0 = usbDescrTypConfig then
    let descr := descriptors.usb2ConfigDescr driver.memory
    if descr ≠ 0 then
      driver.startDataStage descr (min (readU16 driver.memory (descr + 2)).toNat wLength)
    else
      (0, driver)
  else if driver.usbSetupReq.wValue.bb0 = usbDescrTypString then
    match descriptors.usbStringDescrs with
    | some table =>
        let descr := table driver.usbSetupReq.wValue.bb1.toNat
        driver.startDataStage descr (driver.memory descr).toNat
    | none => (0, driver)
  else
    (0xffff, driver)

/-- The branch of `usb2_ep0_request_handler` for standard requests. -/
def standardRequest : Nat × Usb2Driver :=
  let request := driver.usbSetupReq
  if request.bRequest = usbGetDescriptor then
    driver.getDescriptor
  else if request.bRequest = usbSetAddress then
    (0, { driver with
      device := { driver.device with addr := request.wValue.bb1 }
      endp0RemainingBytes := request.wLength.toNat })
  else if request.bRequest = usbSetConfiguration then
    let driver :=
      { driver with device := { driver.device with currentConfig := request.wValue.bb1 } }
    let driver := driver.usb2ResetEndpoints
    if request.wValue.bb1 ≠ 0#8 then
      (0, { driver with device := { driver.device with state := .configured } })
    else
      (0, driver)
  else if request.bRequest = usbSetFeature ∧ request.wValue.w = endpointHalt then
    (0, driver.usb2ResetEndpoints)
  else
    (0, driver)

/-- The assignment at the end of `usb2_ep0_request_handler`. -/
def setTransferSize : Usb2Driver :=
  { driver with endp0CurrentTransferSize := driver.endp0RemainingBytes }

def usb2Ep0RequestHandler (reply : UserReply) : Nat × Usb2Driver :=
  let request := driver.usbSetupReq
  if request.TreatedAsStandard then
    let (len, driver) := driver.standardRequest
    (len, driver.setTransferSize)
  else if request.IsIn then
    let len := u16 reply.length
    let driver := driver.invoke bsp (.endp0UserHandledControlRequest request true) reply
    if 0 < len then
      if reply.buffer = 0 then
        (0xffff, driver)
      else
        let (len, driver) := driver.startDataStage reply.buffer len
        (len, driver.setTransferSize)
    else
      (len, driver.setTransferSize)
  else if request.wLength = 0#16 then
    (0, driver.invoke bsp (.endp0UserHandledControlRequest request false) reply)
  else
    let driver := { driver with endp0RemainingBytes := request.wLength.toNat }
    (request.wLength.toNat, driver.setTransferSize)

def usb2Ep0SetupStageHandler (reply : UserReply) : Usb2Driver :=
  let (len, driver) := driver.usb2Ep0RequestHandler bsp reply
  let rxCtrl := driver.rxCtrl 0
  let txCtrl := driver.txCtrl 0
  if driver.usbSetupReq.IsIn then
    if len ≠ 0xffff then
      ((driver.setTLen 0 len).setTxCtrl 0 (uepResAck ||| bsp.rbUepTog1)).setRxCtrl 0 rxCtrl
    else
      ((driver.setTLen 0 0).setTxCtrl 0 uepResStall).setRxCtrl 0 (uepResAck ||| bsp.rbUepTog1)
  else if driver.usbSetupReq.wLength = 0#16 then
    ((driver.setTLen 0 0).setTxCtrl 0 (uepResAck ||| bsp.rbUepTog1)).setRxCtrl 0 rxCtrl
  else
    (driver.setTxCtrl 0 txCtrl).setRxCtrl 0 (uepResAck ||| bsp.rbUepTog1)

/-! ## IN and OUT on endpoint 0 -/

def usb2SetDeviceAddress (address : U8) : Bool × Usb2Driver :=
  if address ≤ 0x7f#8 then (true, { driver with devAd := address }) else (false, driver)

/-- The data stage of a control-IN transfer after a packet has been sent. -/
def ep0DataInHandler : Usb2Driver :=
  let rxCtrl := driver.rxCtrl 0
  let txCtrl := driver.txCtrl 0
  let len := driver.usb2Ep0NextDataPacketSize
  let driver :=
    { driver with
      endp0RemainingBytes := driver.endp0RemainingBytes - len
      descHead := u32 (driver.descHead + len) }
  if driver.endp0RemainingBytes = 0 then
    if driver.endp0CurrentTransferSize % driver.usb2Endp0MaxPacketSize = 0 ∧ len ≠ 0 then
      -- a full last packet is followed by an empty one
      ((driver.setTLen 0 0).setTxCtrl 0
        (setResponse txCtrl uepResAck ^^^ bsp.rbUepTog1)).setRxCtrl 0 rxCtrl
    else
      ({ driver with descHead := 0 }.setTxCtrl 0 (setResponse txCtrl uepResNak)).setRxCtrl 0
        (uepResAck ||| bsp.rbUepTog1)
  else
    let len := driver.usb2Ep0NextDataPacketSize
    let driver :=
      { driver with
        memory := memcpyBytes driver.memory driver.endp0Buffer driver.descHead len }
    ((driver.setTLen 0 len).setTxCtrl 0
      (setResponse txCtrl uepResAck ^^^ bsp.rbUepTog1)).setRxCtrl 0 rxCtrl

/-- The status stage of a control-OUT transfer. -/
def ep0StatusInHandler : Usb2Driver :=
  let txCtrl := driver.txCtrl 0
  let driver :=
    if driver.usbSetupReq.bRequest = usbSetAddress then
      let (set, driver) := driver.usb2SetDeviceAddress driver.device.addr
      if set then { driver with device := { driver.device with state := .address } } else driver
    else
      driver
  ((driver.setTLen 0 0).setTxCtrl 0 (setResponse txCtrl uepResNak)).setRxCtrl 0
    (uepResAck ||| bsp.rbUepTog1)

def usb2Ep0InHandler : Usb2Driver :=
  if driver.usbSetupReq.IsIn then driver.ep0DataInHandler bsp else driver.ep0StatusInHandler bsp

def usb2Ep0OutHandler (numBytesReceived : Nat) (reply : UserReply) : Usb2Driver :=
  let rxCtrl := driver.rxCtrl 0
  let txCtrl := driver.txCtrl 0
  if driver.usbSetupReq.IsIn then
    if 0 < driver.usb2Ep0NextDataPacketSize then
      (driver.setTxCtrl 0 txCtrl).setRxCtrl 0 (setResponse rxCtrl uepResNak)
    else
      ((driver.setTLen 0 0).setTxCtrl 0 (setResponse txCtrl uepResNak)).setRxCtrl 0 uepResAck
  else
    let driver :=
      { driver with
        endp0RemainingBytes := u16 (driver.endp0RemainingBytes + (65536 - u16 numBytesReceived)) }
    if driver.endp0RemainingBytes = 0 then
      let driver := (driver.setDma .uep0Rt driver.endp0Buffer).setTLen 0 0
      let driver := driver.invoke bsp
        (.endp0UserHandledControlRequest driver.usbSetupReq false) reply
      (driver.setTxCtrl 0 (uepResAck ||| bsp.rbUepTog1)).setRxCtrl 0 rxCtrl
    else
      let driver := driver.setDma .uep0Rt (u32 (driver.dma .uep0Rt + u16 numBytesReceived))
      (driver.setTxCtrl 0 txCtrl).setRxCtrl 0
        (setResponse rxCtrl uepResAck ^^^ bsp.rbUepTog1)

/-! ## The branches of the request handler -/

section

variable {bsp} {driver} {reply : UserReply}

theorem usb2Ep0RequestHandler_of_standard (standard : driver.usbSetupReq.TreatedAsStandard) :
    driver.usb2Ep0RequestHandler bsp reply =
      (driver.standardRequest.1, driver.standardRequest.2.setTransferSize) := if_pos standard

theorem standardRequest_of_getDescriptor (isGet : driver.usbSetupReq.bRequest = usbGetDescriptor) :
    driver.standardRequest = driver.getDescriptor := if_pos isGet

theorem standardRequest_of_setAddress (isSet : driver.usbSetupReq.bRequest = usbSetAddress) :
    driver.standardRequest = (0, { driver with
      device := { driver.device with addr := driver.usbSetupReq.wValue.bb1 }
      endp0RemainingBytes := driver.usbSetupReq.wLength.toNat }) := by
  have notGet : driver.usbSetupReq.bRequest ≠ usbGetDescriptor := by
    rw [isSet]
    decide
  exact (if_neg notGet).trans (if_pos isSet)

/-- The user hands out a buffer for the data stage of a control-IN request. -/
theorem usb2Ep0RequestHandler_of_userIn (user : ¬driver.usbSetupReq.TreatedAsStandard)
    (isIn : driver.usbSetupReq.IsIn) (hasLength : 0 < u16 reply.length)
    (hasBuffer : reply.buffer ≠ 0) :
    driver.usb2Ep0RequestHandler bsp reply =
      let started := (driver.invoke bsp
        (.endp0UserHandledControlRequest driver.usbSetupReq true) reply).startDataStage
          reply.buffer (u16 reply.length)
      (started.1, started.2.setTransferSize) :=
  (if_neg user).trans ((if_pos isIn).trans ((if_pos hasLength).trans (if_neg hasBuffer)))

theorem usb2Ep0RequestHandler_of_userOut (user : ¬driver.usbSetupReq.TreatedAsStandard)
    (isOut : ¬driver.usbSetupReq.IsIn) (hasData : driver.usbSetupReq.wLength ≠ 0#16) :
    driver.usb2Ep0RequestHandler bsp reply =
      (driver.usbSetupReq.wLength.toNat,
        { driver with
          endp0RemainingBytes := driver.usbSetupReq.wLength.toNat }.setTransferSize) :=
  (if_neg user).trans ((if_neg isOut).trans (if_neg hasData))

/-! ## The branches of the OUT handler -/

variable (driver) in
def countOutPacket (numBytesReceived : Nat) : Usb2Driver :=
  { driver with
    endp0RemainingBytes := u16 (driver.endp0RemainingBytes + (65536 - u16 numBytesReceived)) }

variable {numBytesReceived : Nat}

/-- The last packet of a data stage puts the pointer back and calls the user's handler. -/
theorem usb2Ep0OutHandler_of_last (isOut : ¬driver.usbSetupReq.IsIn)
    (last : (driver.countOutPacket numBytesReceived).endp0RemainingBytes = 0) :
    driver.usb2Ep0OutHandler bsp numBytesReceived reply =
      (((((driver.countOutPacket numBytesReceived).setDma .uep0Rt driver.endp0Buffer).setTLen 0
        0).invoke bsp (.endp0UserHandledControlRequest driver.usbSetupReq false) reply).setTxCtrl 0
          (uepResAck ||| bsp.rbUepTog1)).setRxCtrl 0 (driver.rxCtrl 0) :=
  (if_neg isOut).trans (if_pos last)

/-- Every other packet of a data stage moves the pointer. -/
theorem usb2Ep0OutHandler_of_more (isOut : ¬driver.usbSetupReq.IsIn)
    (more : (driver.countOutPacket numBytesReceived).endp0RemainingBytes ≠ 0) :
    driver.usb2Ep0OutHandler bsp numBytesReceived reply =
      (((driver.countOutPacket numBytesReceived).setDma .uep0Rt
        (u32 (driver.dma .uep0Rt + u16 numBytesReceived))).setTxCtrl 0 (driver.txCtrl 0)).setRxCtrl 0
          (setResponse (driver.rxCtrl 0) uepResAck ^^^ bsp.rbUepTog1) :=
  (if_neg isOut).trans (if_neg more)

end

end WchCh56x.Usb.Usb2Driver
