import WchCh56x.Usb.DataStages

/-!
# Descriptors on a USB3 link

`usb30_standard_req_handler` copies the first part of a descriptor to the buffer of
endpoint 0, and each call of `ep0_in_handler` the next one.
-/

namespace WchCh56x.Usb

open Support.Packets

namespace Usb30Driver

variable (driver : Usb30Driver)

/-! ## The calls -/

/-- Where the driver has the descriptor that is asked for, and how long it is. -/
def heldDescriptor (setup : UsbSetup) : Option (Nat × Nat) :=
  if setup.wValue.bb0 = usbDescrTypBos then
    let descr := driver.device.usbDescriptors.usbBosDescr
    if descr ≠ 0 then some (descr, (readU16 driver.memory (descr + 2)).toNat) else none
  else
    driver.descriptor30 setup

/-- What `usb30_standard_req_handler` and then each call of `ep0_in_handler` return and leave. -/
def chunk : Nat → Nat × Usb30Driver
  | 0 => driver.usb30StandardReqHandler
  | call + 1 => (chunk call).2.ep0InHandler

def memoryBefore : Nat → Nat → U8
  | 0 => driver.memory
  | call + 1 => (driver.chunk call).2.memory

/-- What a call has copied to the buffer of endpoint 0. -/
def chunkBytes (call : Nat) : List U8 :=
  (List.range (driver.chunk call).1).map fun offset =>
    (driver.chunk call).2.memory (driver.endp0Buffer + offset)

/-- The calls copy the first `total` bytes at `head`, in full packets up to the last. -/
structure CopiesWhole (head total : Nat) : Prop where
  /-- All that is copied until `ep0_in_handler` returns 0. -/
  whole : ((List.range (packetCount endp0MaxPacketSize total + 1)).map driver.chunkBytes).flatten =
    (List.range total).map fun offset => driver.memory (head + offset)
  bounded : ∀ call, (driver.chunk call).1 ≤ endp0MaxPacketSize
  full : ∀ call, (driver.chunk (call + 1)).1 ≠ 0 → (driver.chunk call).1 = endp0MaxPacketSize
  /-- A call reads its own part and nothing else. -/
  copied : ∀ call, (driver.chunk call).2.memory =
    memcpyBytes (driver.memoryBefore call) driver.endp0Buffer (head + call * endp0MaxPacketSize)
      (driver.chunk call).1
  inside : ∀ call, (driver.chunk call).1 ≠ 0 →
    call * endp0MaxPacketSize + (driver.chunk call).1 ≤ total
  /-- The calls of `ep0_in_handler` that return 0. -/
  ends : ∀ call, call ≠ 0 →
    ((driver.chunk call).1 = 0 ↔ packetCount endp0MaxPacketSize total ≤ call)

variable {driver}

/-! ## The first call -/

/-- The BOS descriptor is cut as well. -/
theorem usb30GetDescriptor_of_held {setup : UsbSetup} {head size : Nat}
    (held : driver.heldDescriptor setup = some (head, size)) :
    driver.usb30GetDescriptor setup = (driver.pointAt head size).loadPacket := by
  unfold heldDescriptor at held
  split at held
  · next isBos =>
      have notDevice : setup.wValue.bb0 ≠ usbDescrTypDevice := by
        rw [isBos]
        decide
      have notConfig : setup.wValue.bb0 ≠ usbDescrTypConfig := by
        rw [isBos]
        decide
      unfold usb30GetDescriptor
      dsimp only at held ⊢
      rw [if_neg notDevice, if_neg notConfig, if_pos isBos]
      split at held
      · next present =>
          obtain ⟨rfl, rfl⟩ := Prod.mk.inj (Option.some.inj held)
          rw [if_neg present]
      · cases held
  · exact usb30GetDescriptor_of_descriptor held

variable {head total : Nat}

/-- The driver that has looked up the descriptor. -/
theorem usb30StandardReqHandler_of_held {size : Nat}
    (asks : driver.usbSetupBuf.bRequest = usbGetDescriptor)
    (held : driver.heldDescriptor driver.usbSetupBuf = some (head, size)) :
    ∃ pointed : Usb30Driver, driver.usb30StandardReqHandler = pointed.loadPacket ∧
      pointed.pDescr = head ∧
      pointed.setupLen = min driver.usbSetupBuf.wLength.toNat size ∧
      pointed.memory = driver.memory ∧ pointed.endp0Buffer = driver.endp0Buffer := by
  have read : Usb30Driver.heldDescriptor
      { driver with
        setupReqCode := driver.usbSetupBuf.bRequest
        setupLen := driver.usbSetupBuf.wLength.toNat } driver.usbSetupBuf = some (head, size) :=
    held
  have loads := usb30GetDescriptor_of_held read
  refine ⟨_, (if_pos asks).trans loads, rfl, rfl, rfl, rfl⟩

/-! ## All calls -/

/-- The calls after a request whose answer is the `total` bytes at `head`. -/
structure Loads (driver : Usb30Driver) (head total : Nat) : Prop where
  answering : ∀ call, (driver.chunk call).2.Answering head total call
  length : ∀ call, (driver.chunk call).1 = packetLength endp0MaxPacketSize total call
  copied : ∀ call, (driver.chunk call).2.memory =
    memcpyBytes (driver.memoryBefore call) driver.endp0Buffer (head + call * endp0MaxPacketSize)
      (packetLength endp0MaxPacketSize total call)

variable (addressable : head + total ≤ 2 ^ 32)
include addressable

theorem loads_of_request {pointed : Usb30Driver}
    (request : driver.usb30StandardReqHandler = pointed.loadPacket)
    (atHead : pointed.pDescr = head) (whole : pointed.setupLen = total)
    (memory : pointed.memory = driver.memory)
    (buffer : pointed.endp0Buffer = driver.endp0Buffer) : Loads driver head total := by
  have first : driver.chunk 0 = pointed.loadPacket := request
  have loaded := answering_loadPacket addressable atHead whole
  rw [← first, memory, buffer] at loaded
  have kept (call : Nat) : (driver.chunk call).2.endp0Buffer = driver.endp0Buffer := by
    induction call with
    | zero =>
        rw [first]
        exact buffer
    | succ call ih => exact (@ep0InHandler_keeps (driver.chunk call).2).2.trans ih
  have answering (call : Nat) : (driver.chunk call).2.Answering head total call := by
    induction call with
    | zero => exact loaded.2.1
    | succ call ih => exact (ih.ep0InHandler addressable).2.1
  refine ⟨answering, fun call => ?_, fun call => ?_⟩
  · cases call with
    | zero => exact loaded.1
    | succ call => exact ((answering call).ep0InHandler addressable).1
  · cases call with
    | zero =>
        rw [Nat.zero_mul]
        exact loaded.2.2
    | succ call =>
        have next := ((answering call).ep0InHandler addressable).2.2
        rw [kept call] at next
        exact next

omit addressable in
/-- What the calls copy is what was there when the request came. -/
theorem Loads.chunkBytes_eq (loads : Loads driver head total)
    (apart : head + total ≤ driver.endp0Buffer ∨ driver.endp0Buffer ≤ head) (call : Nat) :
    driver.chunkBytes call =
      (List.range (packetLength endp0MaxPacketSize total call)).map fun offset =>
        driver.memory (head + (call * endp0MaxPacketSize + offset)) := by
  have copies : CopiesPackets (fun call => (driver.chunk call).2.memory) driver.memory
      driver.endp0Buffer head endp0MaxPacketSize total call := by
    refine ⟨?_, fun index _ => loads.copied (index + 1), apart⟩
    have first := loads.copied 0
    rw [Nat.zero_mul] at first
    exact first
  unfold chunkBytes
  rw [loads.length call]
  refine List.map_congr_left fun offset part => ?_
  exact copies.packet_eq le_rfl (List.mem_range.mp part)

omit addressable in
theorem Loads.copiesWhole (loads : Loads driver head total)
    (apart : head + total ≤ driver.endp0Buffer ∨ driver.endp0Buffer ≤ head) :
    driver.CopiesWhole head total := by
  have inPacket : 0 < endp0MaxPacketSize := by decide
  constructor
  · have bytes : driver.chunkBytes = fun call =>
        (List.range (packetLength endp0MaxPacketSize total call)).map fun offset =>
          driver.memory (head + (call * endp0MaxPacketSize + offset)) :=
      funext (loads.chunkBytes_eq apart)
    have room := size_le_packetCount_mul total inPacket
    have every : total ≤ (packetCount endp0MaxPacketSize total + 1) * endp0MaxPacketSize :=
      room.trans (Nat.mul_le_mul_right _ (Nat.le_succ _))
    rw [bytes]
    refine (flatten_packets endp0MaxPacketSize total (fun offset => driver.memory (head + offset))
      _).trans ?_
    rw [Nat.min_eq_left every]
  · intro call
    rw [loads.length]
    exact Nat.min_le_left _ _
  · intro call more
    rw [loads.length] at more ⊢
    unfold packetLength at more ⊢
    rw [Nat.succ_mul] at more
    omega
  · intro call
    rw [loads.length]
    exact loads.copied call
  · intro call some
    rw [loads.length] at some ⊢
    unfold packetLength at some ⊢
    omega
  · intro call later
    rw [loads.length, ← Nat.not_lt, lt_packetCount_iff inPacket later]
    unfold packetLength
    omega

end Usb30Driver

namespace DescriptorChunks

open Usb30Driver

/-- GET_DESCRIPTOR for a descriptor that is set copies the part of it that the host asks for, from
whatever an earlier transfer has left. -/
theorem usb3_descriptor_copied (driver : Usb30Driver) (head size : Nat)
    (asks : driver.usbSetupBuf.bRequest = usbGetDescriptor)
    (held : driver.heldDescriptor driver.usbSetupBuf = some (head, size))
    (addressable : head + min driver.usbSetupBuf.wLength.toNat size ≤ 2 ^ 32)
    (apart : head + min driver.usbSetupBuf.wLength.toNat size ≤ driver.endp0Buffer ∨
      driver.endp0Buffer ≤ head) :
    driver.CopiesWhole head (min driver.usbSetupBuf.wLength.toNat size) := by
  obtain ⟨pointed, request, atHead, whole, memory, buffer⟩ :=
    usb30StandardReqHandler_of_held asks held
  exact (loads_of_request addressable request atHead whole memory buffer).copiesWhole apart

/-! ## A device with a BOS descriptor -/

def bosDescr : Nat → U8 := fun address =>
  if address = 0x20022002 then 0x58#8 else if address = 0x20022003 then 0x02#8 else 0#8

def withBos : UsbDevice :=
  { ControlIn.lowSpeed with
    usbDescriptors := { ControlIn.lowSpeed.usbDescriptors with usbBosDescr := 0x20022000 } }

/-- The host asks for 4096 bytes of it. -/
def getBosDescriptor : UsbSetup :=
  ⟨0x80#8, usbGetDescriptor, ⟨0#8, usbDescrTypBos⟩, ⟨0#8, 0#8⟩, 4096#16⟩

def bosDriver : Usb30Driver :=
  (Usb30Driver.initial (Usb2Driver.initial withBos bosDescr)).setupRead30 getBosDescriptor

theorem bos_descriptor_copied :
    bosDriver.heldDescriptor bosDriver.usbSetupBuf = some (0x20022000, 600) ∧
      bosDriver.CopiesWhole 0x20022000 (min bosDriver.usbSetupBuf.wLength.toNat 600) :=
  ⟨by decide, usb3_descriptor_copied bosDriver 0x20022000 600 (by decide) (by decide) (by decide)
    (by decide)⟩

end DescriptorChunks

end WchCh56x.Usb
