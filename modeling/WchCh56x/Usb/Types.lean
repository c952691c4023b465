import WchCh56x.CTypes

/-!
# USB types and the abstract device

Pointers are addresses and `NULL` is `0`.  The request codes, descriptor types
and endpoint responses are those of the USB specification and of the headers.
-/

namespace WchCh56x.Usb

/-! ## Constants -/

def endpStateAck : U8 := 0x00#8
def endpStateNak : U8 := 0x02#8
def endpStateStall : U8 := 0x03#8

def usbReqTypIn : U8 := 0x80#8
def usbReqTypMask : U8 := 0x60#8
def usbReqTypStandard : U8 := 0x00#8

def usbGetStatus : U8 := 0x00#8
def usbClearFeature : U8 := 0x01#8
def usbSetFeature : U8 := 0x03#8
def usbSetAddress : U8 := 0x05#8
def usbGetDescriptor : U8 := 0x06#8
def usbGetConfiguration : U8 := 0x08#8
def usbSetConfiguration : U8 := 0x09#8
def usbGetInterface : U8 := 0x0a#8
def usbSetInterface : U8 := 0x0b#8

def usbDescrTypDevice : U8 := 0x01#8
def usbDescrTypConfig : U8 := 0x02#8
def usbDescrTypString : U8 := 0x03#8
def usbDescrTypBos : U8 := 0x0f#8

def endpointHalt : U16 := 0#16

/-- What a control request handler returns for a request it does not handle. -/
def usbDescrUnsupported : Nat := 0xffff

/-! ## Requests -/

/-- `UINT16_UINT8`, with the low byte first. -/
structure Uint16Uint8 where
  bb1 : U8
  bb0 : U8
  deriving DecidableEq, Repr

def Uint16Uint8.w (value : Uint16Uint8) : U16 := value.bb0 ++ value.bb1

structure UsbSetup where
  bRequestType : U8
  bRequest : U8
  wValue : Uint16Uint8
  wIndex : Uint16Uint8
  wLength : U16
  deriving DecidableEq, Repr

namespace UsbSetup

/-- `bRequestType & USB_REQ_TYP_IN` -/
def IsIn (setup : UsbSetup) : Prop := setup.bRequestType &&& usbReqTypIn ≠ 0#8

instance (setup : UsbSetup) : Decidable setup.IsIn :=
  inferInstanceAs (Decidable (_ ≠ _))

/-- The test of `usb2_ep0_request_handler` for a standard request. -/
def TreatedAsStandard (setup : UsbSetup) : Prop :=
  (setup.bRequestType &&& usbReqTypMask) >>> 6 = usbReqTypStandard

instance (setup : UsbSetup) : Decidable setup.TreatedAsStandard :=
  inferInstanceAs (Decidable (_ = _))

/-- The type bits of the request are those of a standard request. -/
def IsStandard (setup : UsbSetup) : Prop := setup.bRequestType &&& usbReqTypMask = 0#8

instance (setup : UsbSetup) : Decidable setup.IsStandard :=
  inferInstanceAs (Decidable (_ = _))

theorem IsStandard.treatedAsStandard {setup : UsbSetup} (standard : setup.IsStandard) :
    setup.TreatedAsStandard := by
  unfold TreatedAsStandard
  rw [show setup.bRequestType &&& usbReqTypMask = 0#8 from standard]
  rfl

end UsbSetup

/-- The packet as the packed structure lays it out. -/
def UsbSetup.bytes (setup : UsbSetup) : List U8 :=
  [setup.bRequestType, setup.bRequest, setup.wValue.bb1, setup.wValue.bb0,
    setup.wIndex.bb1, setup.wIndex.bb0,
    setup.wLength.extractLsb' 0 8, setup.wLength.extractLsb' 8 8]

/-- `*(USB_SETUP*)ptr` -/
def readUsbSetup (memory : Nat → U8) (ptr : Nat) : UsbSetup where
  bRequestType := memory ptr
  bRequest := memory (ptr + 1)
  wValue := ⟨memory (ptr + 2), memory (ptr + 3)⟩
  wIndex := ⟨memory (ptr + 4), memory (ptr + 5)⟩
  wLength := readU16 memory (ptr + 6)

theorem extractLsb'_append_extractLsb' (value : U16) :
    value.extractLsb' 8 8 ++ value.extractLsb' 0 8 = value := by
  ext i inRange
  simp only [BitVec.getElem_append, BitVec.getElem_extractLsb']
  split
  · simp [BitVec.getLsbD_eq_getElem, inRange]
  · rw [show 8 + (i - 8) = i by omega]
    simp [BitVec.getLsbD_eq_getElem, inRange]

theorem readUsbSetup_storeBytes (memory : Nat → U8) (ptr : Nat) (setup : UsbSetup) :
    readUsbSetup (storeBytes memory ptr setup.bytes) ptr = setup := by
  have bytes (i : Nat) (inRange : i < 8) :
      storeBytes memory ptr setup.bytes (ptr + i) = setup.bytes.getD i 0 := by
    simp [storeBytes, UsbSetup.bytes, inRange]
  have first := bytes 0 (by decide)
  rw [Nat.add_zero] at first
  simp only [readUsbSetup, readU16, Nat.add_assoc, first, bytes 1 (by decide),
    bytes 2 (by decide), bytes 3 (by decide), bytes 4 (by decide), bytes 5 (by decide),
    bytes 6 (by decide), bytes 7 (by decide), Nat.reduceAdd]
  simp [UsbSetup.bytes, extractLsb'_append_extractLsb']

/-! ## The device -/

-- Each literal of the two index types rests on one of these, by name.
instance (priority := 1100) neZeroRegisters : NeZero 8 := ⟨by decide⟩
instance (priority := 1100) neZeroEndpoints : NeZero 16 := ⟨by decide⟩

theorem endpoint1_notControl : (1 : Fin 16) ≠ 0 := by
  decide

theorem endpoint1_inFile : (1 : Fin 16).val < 8 := by
  decide

structure UsbEndpoint where
  buffer : Nat
  maxBurst : Nat
  maxPacketSize : Nat
  maxPacketSizeWithBurst : Nat
  state : U8
  deriving DecidableEq, Repr

inductive UsbDeviceState where
  | detached | attached | powered | default | address | configured | suspended
  deriving DecidableEq, Repr

inductive UsbDeviceSpeed where
  | none | usb2Highspeed | usb2Fullspeed | usb2Lowspeed | usb30Superspeed
  deriving DecidableEq, Repr

/-- The pointers of `USB23_DEVICE_DESCRIPTORS`.  A table of pointers is a function of the index, and
`none` if the pointer to it is `NULL`. -/
structure UsbDeviceDescriptors where
  usb2DeviceDescr : Nat
  usb2DeviceConfigDescrs : Option (Nat → Nat)
  usb3DeviceDescr : Nat
  usb3DeviceConfigDescrs : Option (Nat → Nat)
  usbBosDescr : Nat
  usbStringDescrs : Option (Nat → Nat)

/-- `usb2_device_config_descrs[0]`, which the USB2 backend reads from address 0 if the table is
`NULL`. -/
def UsbDeviceDescriptors.usb2ConfigDescr (descriptors : UsbDeviceDescriptors)
    (memory : Nat → U8) : Nat :=
  match descriptors.usb2DeviceConfigDescrs with
  | some table => table 0
  | none => readPtr memory 0

/-- A table that is there does not depend on memory. -/
theorem UsbDeviceDescriptors.usb2ConfigDescr_of_isSome {descriptors : UsbDeviceDescriptors}
    (isSome : descriptors.usb2DeviceConfigDescrs.isSome) (memory other : Nat → U8) :
    descriptors.usb2ConfigDescr other = descriptors.usb2ConfigDescr memory := by
  obtain ⟨table, isTable⟩ := Option.isSome_iff_exists.mp isSome
  unfold usb2ConfigDescr
  rw [isTable]

structure UsbDevice where
  addr : U8
  usbDescriptors : UsbDeviceDescriptors
  currentConfig : U8
  state : UsbDeviceState
  speed : UsbDeviceSpeed
  endpointMask : U32
  tx : Fin 16 → UsbEndpoint
  rx : Fin 16 → UsbEndpoint

def usbDevice0 : UsbDevice where
  addr := 0#8
  usbDescriptors := ⟨0, none, 0, none, 0, none⟩
  currentConfig := 0#8
  state := .detached
  speed := .usb2Highspeed
  endpointMask := 0#32
  tx _ := ⟨0, 0, 0, 0, 0#8⟩
  rx _ := ⟨0, 0, 0, 0, 0#8⟩

/-- The directions of an endpoint as the device sees them. -/
inductive EndpDir where
  | tx | rx
  deriving DecidableEq, Repr

/-- `ENDPOINT_n_TX` and `ENDPOINT_n_RX`. -/
def endpointBit : EndpDir → Fin 16 → U32
  | .tx, n => 1#32 <<< (2 * (n.val - 1))
  | .rx, n => 1#32 <<< (2 * (n.val - 1) + 1)

/-- The calls of the library into user code. -/
inductive UserCall where
  | txComplete (endpNum : Fin 16)
  | rxCallback (endpNum : Fin 16) (ptr size : Nat)
  | nakCallback (endpNum : Fin 16)
  | endp0UserHandledControlRequest (request : UsbSetup) (withBuffer : Bool)
  | endp0PassthroughSetupCallback (ptr : Nat)
  | usb2DeviceHandleBusReset
  deriving DecidableEq, Repr

end WchCh56x.Usb
