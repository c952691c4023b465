import WchCh56x.Usb.Driver

/-!
# Setting up the USB2 endpoints

The setup walks over its blocks in the order of the source and stops at the first
enabled OUT endpoint whose packets are too large.
-/

namespace WchCh56x.Usb

def usb2EpMaxPacketSize : Nat := 1024

def usb2IncompatiblesEndpoints : List (EndpDir × Fin 16 × Fin 16) :=
  [(.tx, 1, 9), (.tx, 2, 10), (.tx, 3, 11), (.tx, 4, 12), (.tx, 5, 13), (.tx, 6, 14), (.tx, 7, 15),
    (.rx, 1, 9), (.rx, 2, 10), (.rx, 3, 11), (.rx, 4, 12), (.rx, 5, 13), (.rx, 6, 14), (.rx, 7, 15),
    (.rx, 8, 4), (.tx, 8, 4), (.rx, 8, 12), (.tx, 8, 12)]

/-- The blocks of `usb2_setup_endpoints_in_mask` in the order of the source. -/
def usb2SetupBlocks : List (EndpDir × Fin 16) :=
  [(.tx, 1), (.tx, 9), (.rx, 1), (.rx, 9), (.tx, 2), (.tx, 10), (.rx, 2), (.rx, 10),
    (.tx, 3), (.tx, 11), (.rx, 3), (.rx, 11),
    (.tx, 4), (.tx, 8), (.tx, 12), (.rx, 4), (.rx, 8), (.rx, 12),
    (.tx, 5), (.tx, 13), (.rx, 5), (.rx, 13), (.tx, 6), (.tx, 14), (.rx, 6), (.rx, 14),
    (.tx, 7), (.tx, 15), (.rx, 7), (.rx, 15)]

/-- The bits of two endpoints of one direction. -/
def pairMask (pair : EndpDir × Fin 16 × Fin 16) : U32 :=
  endpointBit pair.1 pair.2.1 ||| endpointBit pair.1 pair.2.2

def EnabledIn (mask : U32) (dir : EndpDir) (endpNum : Fin 16) : Prop :=
  mask &&& endpointBit dir endpNum ≠ 0

instance (mask : U32) (dir : EndpDir) (endpNum : Fin 16) : Decidable (EnabledIn mask dir endpNum) :=
  inferInstanceAs (Decidable (_ ≠ _))

/-- The mask has no incompatible pair. -/
def Compatible (mask : U32) : Prop :=
  ∀ pair ∈ usb2IncompatiblesEndpoints, mask &&& pairMask pair ≠ pairMask pair

instance (mask : U32) : Decidable (Compatible mask) :=
  inferInstanceAs (Decidable (∀ pair ∈ _, _ ≠ _))

namespace Usb2Driver

def setupTx (driver : Usb2Driver) (endpNum : Fin 16) : Usb2Driver :=
  let endp := driver.device.tx endpNum
  let reg := usb2EndpointReg endpNum
  let driver := { driver with txEn := Function.update driver.txEn reg true }
  let driver := driver.setDma (.tx reg) endp.buffer
  let driver := driver.setTLen reg 0
  driver.setTxCtrl reg (endp.state ||| rbUepTog0)

def setupRx (driver : Usb2Driver) (endpNum : Fin 16) : Usb2Driver :=
  let endp := driver.device.rx endpNum
  let reg := usb2EndpointReg endpNum
  let driver := { driver with rxEn := Function.update driver.rxEn reg true }
  let driver := driver.setDma (.rx reg) endp.buffer
  let driver := { driver with maxLen := Function.update driver.maxLen reg endp.maxPacketSize }
  driver.setRxCtrl reg (endp.state ||| rbUepTog0)

def setupBlocks (mask : U32) (driver : Usb2Driver) : List (EndpDir × Fin 16) → Usb2Driver
  | [] => driver
  | (.tx, endpNum) :: rest =>
      if EnabledIn mask .tx endpNum then
        setupBlocks mask (driver.setupTx endpNum) rest
      else
        setupBlocks mask driver rest
  | (.rx, endpNum) :: rest =>
      if EnabledIn mask .rx endpNum then
        if usb2EpMaxPacketSize < (driver.device.rx endpNum).maxPacketSize then
          driver
        else
          setupBlocks mask (driver.setupRx endpNum) rest
      else
        setupBlocks mask driver rest

def usb2SetupEndpointsInMask (driver : Usb2Driver) (mask : U32) : Usb2Driver :=
  if Compatible mask then driver.setupBlocks mask usb2SetupBlocks else driver

/-- The part of `usb2_setup_endpoints` about endpoint 0. -/
def setupEndp0 (driver : Usb2Driver) : Usb2Driver :=
  let driver := driver.setDma .uep0Rt driver.endp0Buffer
  let driver := { driver with maxLen := Function.update driver.maxLen 0 64 }
  let driver := driver.setTLen 0 0
  let driver := driver.setTxCtrl 0 (uepResNak ||| rbUepTog0)
  driver.setRxCtrl 0 (uepResNak ||| rbUepTog0)

def usb2SetupEndpoints (driver : Usb2Driver) : Usb2Driver :=
  driver.setupEndp0.usb2SetupEndpointsInMask driver.device.endpointMask

def usb2ResetEndpoints (driver : Usb2Driver) : Usb2Driver := driver.usb2SetupEndpoints

def bMaxPacketSize0 (memory : Nat → U8) (descr : Nat) : U8 := memory (descr + 7)

/-- The part of `usb2_device_init` for the speeds of USB2. -/
def usb2DeviceInit (driver : Usb2Driver) : Usb2Driver :=
  let descr := driver.device.usbDescriptors.usb2DeviceDescr
  let driver := { driver with device := { driver.device with addr := 0#8, state := .powered } }
  let driver :=
    { driver with usb2Endp0MaxPacketSize := (bMaxPacketSize0 driver.memory descr).toNat }
  driver.usb2SetupEndpoints

end Usb2Driver

/-! ## What the setup leaves -/

/-- Two endpoints of one direction that share their registers are an incompatible pair. -/
theorem incompatible_of_shared_reg : ∀ (dir : EndpDir) (left right : Fin 16), left ≠ right →
    usb2EndpointReg left = usb2EndpointReg right → ∃ pair ∈ usb2IncompatiblesEndpoints,
      pairMask pair = endpointBit dir left ||| endpointBit dir right := by
  intro dir
  cases dir <;> decide

theorem EnabledIn.and_eq {mask : U32} {dir : EndpDir} {endpNum : Fin 16}
    (enabled : EnabledIn mask dir endpNum) :
    mask &&& endpointBit dir endpNum = endpointBit dir endpNum := by
  obtain ⟨position, bit⟩ : ∃ position, endpointBit dir endpNum = BitVec.twoPow 32 position := by
    cases dir with
    | tx => exact ⟨_, (BitVec.twoPow_eq 32 _).symm⟩
    | rx => exact ⟨_, (BitVec.twoPow_eq 32 _).symm⟩
  rw [EnabledIn, bit, BitVec.and_twoPow] at enabled
  rw [bit, BitVec.and_twoPow]
  split at enabled
  · next isSet => rw [if_pos isSet]
  · exact absurd rfl enabled

/-- An accepted mask enables at most one endpoint of a direction for each register. -/
theorem Compatible.eq_of_shared_reg {mask : U32} (compatible : Compatible mask) {dir : EndpDir}
    {left right : Fin 16} (leftEnabled : EnabledIn mask dir left)
    (rightEnabled : EnabledIn mask dir right)
    (shared : usb2EndpointReg left = usb2EndpointReg right) : left = right := by
  by_contra distinct
  obtain ⟨pair, member, both⟩ := incompatible_of_shared_reg dir left right distinct shared
  refine compatible pair member ?_
  rw [both, BitVec.and_or_distrib_left, leftEnabled.and_eq, rightEnabled.and_eq]

namespace Usb2Driver

/-- What the setup of each endpoint keeps, the setup of the endpoints in a mask keeps. -/
theorem setupBlocks_keeps {holds : Usb2Driver → Prop} (mask : U32)
    (tx : ∀ driver endpNum, holds driver → holds (driver.setupTx endpNum))
    (rx : ∀ driver endpNum, holds driver → holds (driver.setupRx endpNum))
    (driver : Usb2Driver) (start : holds driver) (blocks : List (EndpDir × Fin 16)) :
    holds (driver.setupBlocks mask blocks) := by
  induction blocks generalizing driver with
  | nil => exact start
  | cons block rest ih =>
      obtain ⟨dir, endpNum⟩ := block
      cases dir with
      | tx =>
          unfold setupBlocks
          split
          · exact ih _ (tx driver endpNum start)
          · exact ih driver start
      | rx =>
          unfold setupBlocks
          split
          · split
            · exact start
            · exact ih _ (rx driver endpNum start)
          · exact ih driver start

theorem setupBlocks_device (mask : U32) (driver : Usb2Driver) (blocks : List (EndpDir × Fin 16)) :
    (driver.setupBlocks mask blocks).device = driver.device :=
  @setupBlocks_keeps (fun other => other.device = driver.device) mask (fun _ _ same => same)
    (fun _ _ same => same) driver rfl blocks

/-- The control registers and the endpoints of a direction. -/
def ctrl (driver : Usb2Driver) : EndpDir → Fin 8 → U8
  | .tx => driver.txCtrl
  | .rx => driver.rxCtrl

def endps (driver : Usb2Driver) : EndpDir → Fin 16 → UsbEndpoint
  | .tx => driver.device.tx
  | .rx => driver.device.rx

def setupOne (driver : Usb2Driver) : EndpDir → Fin 16 → Usb2Driver
  | .tx, endpNum => driver.setupTx endpNum
  | .rx, endpNum => driver.setupRx endpNum

theorem setupOne_ctrl_self (driver : Usb2Driver) (dir : EndpDir) (endpNum : Fin 16) :
    (driver.setupOne dir endpNum).ctrl dir (usb2EndpointReg endpNum) =
      (driver.endps dir endpNum).state ||| rbUepTog0 := by
  cases dir with
  | tx => exact Function.update_self ..
  | rx => exact Function.update_self ..

theorem setupOne_ctrl (driver : Usb2Driver) {dir blockDir : EndpDir} {endpNum other : Fin 16}
    (apart : blockDir = dir → usb2EndpointReg endpNum ≠ usb2EndpointReg other) :
    (driver.setupOne blockDir other).ctrl dir (usb2EndpointReg endpNum) =
      driver.ctrl dir (usb2EndpointReg endpNum) := by
  cases dir with
  | tx =>
      cases blockDir with
      | tx => exact Function.update_of_ne (apart rfl) ..
      | rx => rfl
  | rx =>
      cases blockDir with
      | tx => rfl
      | rx => exact Function.update_of_ne (apart rfl) ..

theorem setupOne_endps (driver : Usb2Driver) (dir blockDir : EndpDir) (other : Fin 16) :
    (driver.setupOne blockDir other).endps dir = driver.endps dir := by
  cases blockDir with
  | tx => rfl
  | rx => rfl

/-- A block that no OUT endpoint stops. -/
theorem setupBlocks_cons (mask : U32) (driver : Usb2Driver) (dir : EndpDir) (endpNum : Fin 16)
    (rest : List (EndpDir × Fin 16))
    (small : EnabledIn mask .rx endpNum →
      (driver.device.rx endpNum).maxPacketSize ≤ usb2EpMaxPacketSize) :
    driver.setupBlocks mask ((dir, endpNum) :: rest) =
      (if EnabledIn mask dir endpNum then driver.setupOne dir endpNum else driver).setupBlocks mask
        rest := by
  cases dir with
  | tx =>
      rw [setupBlocks]
      split
      · rfl
      · rfl
  | rx =>
      rw [setupBlocks]
      split
      · next enabled =>
          rw [if_neg (Nat.not_lt.mpr (small enabled))]
          rfl
      · rfl

/-- The control register of an enabled endpoint after the blocks, if none of them stops. -/
theorem setupBlocks_ctrl {mask : U32} (compatible : Compatible mask) {dir : EndpDir}
    {endpNum : Fin 16} (enabled : EnabledIn mask dir endpNum) (driver : Usb2Driver)
    (small : ∀ other, EnabledIn mask .rx other →
      (driver.device.rx other).maxPacketSize ≤ usb2EpMaxPacketSize)
    (blocks : List (EndpDir × Fin 16))
    (pending : (dir, endpNum) ∈ blocks ∨
      driver.ctrl dir (usb2EndpointReg endpNum) = (driver.endps dir endpNum).state ||| rbUepTog0) :
    (driver.setupBlocks mask blocks).ctrl dir (usb2EndpointReg endpNum) =
      (driver.endps dir endpNum).state ||| rbUepTog0 := by
  induction blocks generalizing driver with
  | nil => exact pending.resolve_left List.not_mem_nil
  | cons block rest ih =>
      obtain ⟨blockDir, other⟩ := block
      rw [setupBlocks_cons mask driver blockDir other rest (small other)]
      split
      · next otherEnabled =>
          have kept := driver.setupOne_endps dir blockDir other
          rw [← kept]
          have smallKept : ∀ other', EnabledIn mask .rx other' →
              ((driver.setupOne blockDir other).device.rx other').maxPacketSize ≤
                usb2EpMaxPacketSize := by
            cases blockDir with
            | tx => exact small
            | rx => exact small
          refine ih (driver.setupOne blockDir other) smallKept ?_
          by_cases isIt : (blockDir, other) = (dir, endpNum)
          · obtain ⟨rfl, rfl⟩ := Prod.mk.inj isIt
            right
            rw [driver.setupOne_ctrl_self, kept]
          · have apart : blockDir = dir → usb2EndpointReg endpNum ≠ usb2EndpointReg other := by
              rintro rfl shared
              exact isIt (congrArg (Prod.mk blockDir)
                (compatible.eq_of_shared_reg enabled otherEnabled shared).symm)
            rw [driver.setupOne_ctrl apart, kept]
            exact pending.imp_left fun member =>
              (List.mem_cons.mp member).resolve_left fun same => isIt same.symm
      · next disabled =>
          refine ih driver small (pending.imp_left fun member => ?_)
          refine (List.mem_cons.mp member).resolve_left fun same => disabled ?_
          obtain ⟨rfl, rfl⟩ := Prod.mk.inj same
          exact enabled

@[simp] theorem setupEndp0_device (driver : Usb2Driver) : driver.setupEndp0.device = driver.device :=
  rfl

@[simp] theorem usb2SetupEndpoints_device (driver : Usb2Driver) :
    driver.usb2SetupEndpoints.device = driver.device := by
  unfold usb2SetupEndpoints usb2SetupEndpointsInMask
  split
  · exact setupBlocks_device ..
  · rfl

/-- After the setup an enabled endpoint answers with its configured state and DATA0. -/
theorem usb2SetupEndpoints_ctrl (driver : Usb2Driver)
    (compatible : Compatible driver.device.endpointMask)
    (small : ∀ other, EnabledIn driver.device.endpointMask .rx other →
      (driver.device.rx other).maxPacketSize ≤ usb2EpMaxPacketSize)
    {dir : EndpDir} {endpNum : Fin 16} (enabled : EnabledIn driver.device.endpointMask dir endpNum)
    (notControl : endpNum ≠ 0) :
    driver.usb2SetupEndpoints.ctrl dir (usb2EndpointReg endpNum) =
      (driver.endps dir endpNum).state ||| rbUepTog0 := by
  have left := setupBlocks_ctrl compatible enabled driver.setupEndp0 small usb2SetupBlocks
  have listed : ∀ (dir : EndpDir) (endpNum : Fin 16), endpNum ≠ 0 →
      (dir, endpNum) ∈ usb2SetupBlocks := by
    intro dir
    cases dir <;> decide
  have kept : driver.setupEndp0.endps dir = driver.endps dir := by
    cases dir with
    | tx => rfl
    | rx => rfl
  rw [usb2SetupEndpoints, usb2SetupEndpointsInMask, if_pos compatible, ← kept]
  exact left (Or.inl (listed dir endpNum notControl))

end Usb2Driver

end WchCh56x.Usb
