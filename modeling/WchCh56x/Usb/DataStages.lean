import WchCh56x.Usb.ControlInLength
import WchCh56x.Usb.ControlInSetup30

/-!
# The data stages of both backends

A host that asks for `wLength` bytes gets no more of a descriptor of the device or
of the configuration.  For a string only the USB3 backend sees to that, and for the
other requests it depends on what they leave.
-/

namespace WchCh56x.Usb

open Support.Packets

/-! ## Descriptors -/

/-- Where the USB2 backend has the descriptor that is asked for, and how long it is. -/
def Usb2Driver.descriptor (driver : Usb2Driver) (setup : UsbSetup) : Option (Nat × Nat) :=
  let descriptors := driver.device.usbDescriptors
  if setup.wValue.bb0 = usbDescrTypDevice then
    let descr := descriptors.usb2DeviceDescr
    if descr ≠ 0 then some (descr, (driver.memory descr).toNat) else none
  else if setup.wValue.bb0 = usbDescrTypConfig then
    let descr := descriptors.usb2ConfigDescr driver.memory
    if descr ≠ 0 then some (descr, (readU16 driver.memory (descr + 2)).toNat) else none
  else if setup.wValue.bb0 = usbDescrTypString then
    descriptors.usbStringDescrs.map fun table =>
      (table setup.wValue.bb1.toNat, (driver.memory (table setup.wValue.bb1.toNat)).toNat)
  else
    none

/-- Where the USB3 backend has it. -/
def Usb30Driver.descriptor30 (driver : Usb30Driver) (setup : UsbSetup) : Option (Nat × Nat) :=
  let descriptors := driver.device.usbDescriptors
  if setup.wValue.bb0 = usbDescrTypDevice then
    let descr := descriptors.usb3DeviceDescr
    if descr ≠ 0 then some (descr, usbDevDescrSize) else none
  else if setup.wValue.bb0 = usbDescrTypConfig then
    descriptors.usb3DeviceConfigDescrs.map fun table =>
      (table 0, (readU16 driver.memory (table 0 + 2)).toNat)
  else if setup.wValue.bb0 = usbDescrTypString then
    descriptors.usbStringDescrs.map fun table =>
      (table setup.wValue.bb1.toNat, (driver.memory (table setup.wValue.bb1.toNat)).toNat)
  else
    none

/-- The USB2 backend starts with the whole descriptor or with what the host asks for. -/
theorem Usb2Driver.descriptorData_of_descriptor {driver : Usb2Driver} {head size : Nat}
    (held : driver.descriptor driver.usbSetupReq = some (head, size)) :
    ∃ total, driver.descriptorData = some (head, total) ∧ total ≤ size ∧
      min size driver.usbSetupReq.wLength.toNat ≤ total := by
  unfold descriptor at held
  unfold descriptorData
  dsimp only at held ⊢
  split at held
  · next isDevice =>
      rw [if_pos isDevice]
      split at held
      · next present =>
          obtain ⟨rfl, rfl⟩ := Prod.mk.inj (Option.some.inj held)
          rw [if_pos present]
          exact ⟨_, rfl, Nat.min_le_left _ _, le_rfl⟩
      · cases held
  · next notDevice =>
      rw [if_neg notDevice]
      split at held
      · next isConfig =>
          rw [if_pos isConfig]
          split at held
          · next present =>
              obtain ⟨rfl, rfl⟩ := Prod.mk.inj (Option.some.inj held)
              rw [if_pos present]
              exact ⟨_, rfl, Nat.min_le_left _ _, le_rfl⟩
          · cases held
      · next notConfig =>
          rw [if_neg notConfig]
          split at held
          · next isString =>
              obtain ⟨table, isTable, here⟩ := Option.map_eq_some_iff.mp held
              obtain ⟨rfl, rfl⟩ := Prod.mk.inj here
              rw [if_pos isString, isTable]
              exact ⟨_, rfl, le_rfl, Nat.min_le_left _ _⟩
          · cases held

/-- The USB3 backend cuts every descriptor. -/
theorem Usb30Driver.usb30GetDescriptor_of_descriptor {driver : Usb30Driver} {setup : UsbSetup}
    {head size : Nat} (held : driver.descriptor30 setup = some (head, size)) :
    driver.usb30GetDescriptor setup = (driver.pointAt head size).loadPacket := by
  unfold descriptor30 at held
  unfold usb30GetDescriptor
  dsimp only at held ⊢
  split at held
  · next isDevice =>
      rw [if_pos isDevice]
      split at held
      · next present =>
          obtain ⟨rfl, rfl⟩ := Prod.mk.inj (Option.some.inj held)
          rw [if_neg present]
      · cases held
  · next notDevice =>
      rw [if_neg notDevice]
      split at held
      · next isConfig =>
          obtain ⟨table, isTable, here⟩ := Option.map_eq_some_iff.mp held
          obtain ⟨rfl, rfl⟩ := Prod.mk.inj here
          rw [if_pos isConfig, isTable]
      · next notConfig =>
          rw [if_neg notConfig]
          split at held
          · next isString =>
              obtain ⟨table, isTable, here⟩ := Option.map_eq_some_iff.mp held
              obtain ⟨rfl, rfl⟩ := Prod.mk.inj here
              have notBos : setup.wValue.bb0 ≠ usbDescrTypBos := by
                rw [isString]
                decide
              rw [if_neg notBos, if_pos isString, isTable]
          · cases held

namespace DataStages

variable (bsp : Usb2Bsp) (usb2 : Usb2Driver) (usb30 : Usb30Driver) (packet : UsbSetup)
  (reply : UserReply)

/-- Both backends have the descriptor that a GET_DESCRIPTOR request asks for. -/
structure SameDescriptor where
  head2 : Nat
  head30 : Nat
  size : Nat
  standard : packet.IsStandard
  isGet : packet.bRequest = usbGetDescriptor
  held2 : (usb2.setupRead packet).descriptor packet = some (head2, size)
  held30 : (usb30.setupRead30 packet).descriptor30 packet = some (head30, size)
  same : ∀ offset < size, (usb2.setupRead packet).memory (head2 + offset) =
    (usb30.setupRead30 packet).memory (head30 + offset)
  addressable2 : head2 + size ≤ 2 ^ 32
  addressable30 : head30 + size ≤ 2 ^ 32
  /-- The descriptors are apart from the buffers of endpoint 0, or the packets only move down. -/
  apart2 : head2 + size ≤ usb2.endp0Buffer ∨ usb2.endp0Buffer ≤ head2
  apart30 : head30 + size ≤ usb30.endp0Buffer ∨ usb30.endp0Buffer ≤ head30
  /-- `usb2_endp0_max_packet_size` comes from the byte `bMaxPacketSize0`. -/
  positive : 0 < usb2.usb2Endp0MaxPacketSize
  isByte : usb2.usb2Endp0MaxPacketSize ≤ 255

/-- No data stage is longer than the host asks for, and both are the same for a descriptor. -/
structure KeepToLength : Prop where
  within2 : SendsWithin (usb2.endp0Stage bsp packet reply) packet.wLength.toNat
  within30 : SendsWithin (usb30.endp0Stage30 bsp packet reply) packet.wLength.toNat
  sameBytes : SameDescriptor usb2 usb30 packet → ∃ bytes,
    Delivers (usb2.endp0Stage bsp packet reply) bytes ∧
      Delivers (usb30.endp0Stage30 bsp packet reply) bytes

section

variable {usb2 usb30 packet} (isIn : packet.IsIn)
include isIn

/-- The USB3 backend sends the part of a descriptor that the host asks for. -/
theorem delivers30 (descriptor : SameDescriptor usb2 usb30 packet) :
    Delivers (usb30.endp0Stage30 bsp packet reply)
      ((List.range (min packet.wLength.toNat descriptor.size)).map fun offset =>
        (usb30.setupRead30 packet).memory (descriptor.head30 + offset)) := by
  have cut : min packet.wLength.toNat descriptor.size ≤ descriptor.size := Nat.min_le_right _ _
  have addressable : descriptor.head30 + min packet.wLength.toNat descriptor.size ≤ 2 ^ 32 :=
    (Nat.add_le_add_left cut _).trans descriptor.addressable30
  have held : (usb30.requested30 packet).descriptor30 packet =
      some (descriptor.head30, descriptor.size) := descriptor.held30
  have request := @Usb30Driver.usb30Request_of_standard bsp usb30 packet reply descriptor.standard
  rw [usb30.usb30StandardReqHandler_eq packet] at request
  dsimp only at request
  rw [if_pos descriptor.isGet, Usb30Driver.usb30GetDescriptor_of_descriptor held] at request
  obtain ⟨sends, copied, buffer⟩ := @Usb30Driver.sends30_of_load bsp usb30 packet reply isIn
    descriptor.head30 (min packet.wLength.toNat descriptor.size) _ request rfl rfl addressable
  have kept : (Usb30Event.step bsp usb30 (.setup packet reply)).endp0Buffer =
      usb30.endp0Buffer := buffer
  refine sends.delivers bsp addressable (copied.trans ?_) ?_
  · rw [kept]
    rfl
  · rw [kept]
    have apart := descriptor.apart30
    omega

variable (running : usb2.device.state ≠ .powered)
  (noPassthrough : usb2.ep0PassthroughEnabled = false)
include running noPassthrough

/-- So does the USB2 backend, unless the descriptor is a string that is longer. -/
theorem delivers2 (descriptor : SameDescriptor usb2 usb30 packet)
    (fits : (usb2.setupRead packet).Stalls reply ∨ (usb2.setupRead packet).AsksForAll reply) :
    Delivers (usb2.endp0Stage bsp packet reply)
      ((List.range (min packet.wLength.toNat descriptor.size)).map fun offset =>
        (usb2.setupRead packet).memory (descriptor.head2 + offset)) := by
  have standard : (usb2.setupRead packet).usbSetupReq.TreatedAsStandard :=
    descriptor.standard.treatedAsStandard
  have isGet : (usb2.setupRead packet).usbSetupReq.bRequest = usbGetDescriptor := descriptor.isGet
  obtain ⟨total, data, notLonger, whole⟩ :=
    Usb2Driver.descriptorData_of_descriptor descriptor.held2
  have found : (usb2.setupRead packet).requestData reply = some (descriptor.head2, total) := by
    unfold Usb2Driver.requestData
    rw [if_pos standard, if_pos isGet]
    exact data
  have accepted : ¬(usb2.setupRead packet).Stalls reply := by
    rintro (refuses | longest)
    · exact Usb2Driver.not_refuses_of_data found refuses
    · unfold Usb2Driver.firstLength at longest
      rw [found] at longest
      have size : (usb2.setupRead packet).usb2Endp0MaxPacketSize ≤ 255 := descriptor.isByte
      dsimp only at longest
      omega
  have asked : total ≤ packet.wLength.toNat :=
    (Usb2Driver.asksForAll_of_data found).mp (fits.resolve_left accepted)
  have isTotal : min packet.wLength.toNat descriptor.size = total := by
    have least : min descriptor.size packet.wLength.toNat ≤ total := whole
    omega
  have addressable : descriptor.head2 + total ≤ 2 ^ 32 :=
    (Nat.add_le_add_left notLonger _).trans descriptor.addressable2
  have base : (usb2.setupRead packet).requestBase bsp reply = usb2.setupRead packet :=
    if_pos standard
  have delivers := Usb2Driver.endp0Stage_delivers bsp running noPassthrough isIn
    descriptor.positive accepted found addressable (by
      have apart := descriptor.apart2
      omega)
  rw [base] at delivers
  rw [isTotal]
  exact delivers

end

open ControlIn NewSetup

def stringDescr : Nat → U8 := fun address =>
  if address = 0x20021020 then 4#8 else lowSpeedDescr address

def withString : UsbDevice :=
  { lowSpeed with
    usbDescriptors := { lowSpeed.usbDescriptors with usbStringDescrs := some fun _ => 0x20021020 } }

def stringDriver : Usb2Driver :=
  Usb2Event.run bsp0 (Usb2Driver.initial withString stringDescr).usb2DeviceInit [.busReset noReply]

def getStringDescriptor (wLength : U16) : UsbSetup :=
  ⟨0x80#8, usbGetDescriptor, ⟨0#8, usbDescrTypString⟩, ⟨0#8, 0#8⟩, wLength⟩

end DataStages

end WchCh56x.Usb
