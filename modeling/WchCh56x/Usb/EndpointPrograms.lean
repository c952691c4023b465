import WchCh56x.Usb.SetupWrites

/-!
# Which registers an endpoint is programmed with

The pairs that the setup refuses are those that share their registers in the
register maps.  So the blocks of an accepted mask write to different registers,
each to those of its own endpoint.
-/

namespace WchCh56x.Usb

open Support

/-! ## Refused masks -/

/-- Two enabled endpoints of one direction have one control register. -/
def SharesCtrlReg (mask : U32) : Prop :=
  ∃ (dir : EndpDir) (left right : Fin 16), left ≠ 0 ∧ right ≠ 0 ∧ left ≠ right ∧
    EnabledIn mask dir left ∧ EnabledIn mask dir right ∧
    usb2GetEndpointCtrlReg dir left = usb2GetEndpointCtrlReg dir right

theorem shared_of_incompatible : ∀ pair ∈ usb2IncompatiblesEndpoints,
    pair.2.1 ≠ 0 ∧ pair.2.2 ≠ 0 ∧ pair.2.1 ≠ pair.2.2 ∧
      usb2EndpointReg pair.2.1 = usb2EndpointReg pair.2.2 := by
  decide

theorem endpointBit_ne_zero : ∀ (dir : EndpDir) (endpNum : Fin 16), endpointBit dir endpNum ≠ 0 := by
  intro dir
  cases dir <;> decide

theorem or_and_self (left right : U32) : (left ||| right) &&& left = left := by
  ext i inRange
  rw [BitVec.getElem_and, BitVec.getElem_or]
  cases left[i] with
  | true => rfl
  | false => exact Bool.and_false _

theorem enabledIn_of_and_or {mask other : U32} {dir : EndpDir} {endpNum : Fin 16}
    (both : mask &&& (endpointBit dir endpNum ||| other) = endpointBit dir endpNum ||| other) :
    EnabledIn mask dir endpNum := by
  intro disabled
  apply endpointBit_ne_zero dir endpNum
  calc endpointBit dir endpNum
    _ = (endpointBit dir endpNum ||| other) &&& endpointBit dir endpNum := (or_and_self ..).symm
    _ = (mask &&& endpointBit dir endpNum) &&& (endpointBit dir endpNum ||| other) := by
      rw [← both]
      ac_rfl
    _ = 0 := by
      rw [disabled]
      exact BitVec.zero_and

/-- The table of pairs has exactly the endpoints that the register maps put together. -/
theorem not_compatible_iff (mask : U32) : ¬Compatible mask ↔ SharesCtrlReg mask := by
  constructor
  · intro incompatible
    obtain ⟨⟨dir, left, right⟩, member, both⟩ : ∃ pair ∈ usb2IncompatiblesEndpoints,
        mask &&& pairMask pair = pairMask pair := by
      by_contra noPair
      exact incompatible fun pair member both => noPair ⟨pair, member, both⟩
    obtain ⟨leftNumber, rightNumber, distinct, shared⟩ := shared_of_incompatible _ member
    refine ⟨dir, left, right, leftNumber, rightNumber, distinct, enabledIn_of_and_or both, ?_,
      (usb2GetEndpointCtrlReg_eq_iff dir left right).mpr shared⟩
    refine @enabledIn_of_and_or mask (endpointBit dir left) dir right ?_
    rw [BitVec.or_comm]
    exact both
  · rintro ⟨dir, left, right, _, _, distinct, leftEnabled, rightEnabled, shared⟩ compatible
    exact distinct (compatible.eq_of_shared_reg leftEnabled rightEnabled
      ((usb2GetEndpointCtrlReg_eq_iff dir left right).mp shared))

/-! ## The endpoints that are programmed -/

section Endpoints

variable (device : UsbDevice) (mask : U32)

def enabledEndpoints : List (EndpDir × Fin 16) :=
  usb2SetupBlocks.filter fun block => EnabledIn mask block.1 block.2

def endpointsRun : List (EndpDir × Fin 16) :=
  (enabledEndpoints mask).takeWhile fun block => ¬(blockOf block.1 block.2).TooLarge device

theorem blocksRun_table :
    blocksRun device mask usb2SetupTable =
      (endpointsRun device mask).map fun block => blockOf block.1 block.2 := by
  rw [blocksRun, usb2SetupTable_eq, List.filter_map, List.takeWhile_map]
  rfl

variable {mask}

theorem mem_enabledEndpoints {dir : EndpDir} {endpNum : Fin 16} :
    (dir, endpNum) ∈ enabledEndpoints mask ↔ endpNum ≠ 0 ∧ EnabledIn mask dir endpNum := by
  rw [enabledEndpoints, List.mem_filter, mem_usb2SetupBlocks]
  simp

theorem nodup_enabledEndpoints : (enabledEndpoints mask).Nodup :=
  List.Nodup.filter _ (by decide)

/-- The endpoints of an accepted mask have different registers. -/
theorem pairwise_enabledEndpoints (compatible : Compatible mask) :
    (enabledEndpoints mask).Pairwise fun first second =>
      (first.1, usb2EndpointReg first.2) ≠ (second.1, usb2EndpointReg second.2) := by
  refine List.Pairwise.imp_of_mem ?_ nodup_enabledEndpoints
  rintro ⟨dir, left⟩ ⟨otherDir, right⟩ leftMember rightMember distinct same
  obtain ⟨sameDir, shared⟩ := Prod.mk.inj same
  have leftEnabled := (mem_enabledEndpoints.mp leftMember).2
  have rightEnabled := (mem_enabledEndpoints.mp rightMember).2
  dsimp only at sameDir shared
  subst sameDir
  exact distinct (congrArg (Prod.mk dir) (compatible.eq_of_shared_reg leftEnabled rightEnabled shared))

variable {device}

theorem endpointsRun_sublist : (endpointsRun device mask).Sublist (enabledEndpoints mask) :=
  List.takeWhile_sublist _

/-- Where no enabled OUT endpoint is too large, every endpoint of the mask is programmed. -/
theorem endpointsRun_of_small
    (small : ∀ endpNum ≠ 0, EnabledIn mask .rx endpNum →
      (device.rx endpNum).maxPacketSize ≤ usb2EpMaxPacketSize) :
    endpointsRun device mask = enabledEndpoints mask := by
  refine List.takeWhile_eq_self_iff.mpr fun block member => ?_
  obtain ⟨dir, endpNum⟩ := block
  obtain ⟨notControl, enabled⟩ := mem_enabledEndpoints.mp member
  refine decide_eq_true fun tooLarge => ?_
  have isRx : dir = .rx := tooLarge.1
  subst isRx
  exact Nat.not_lt.mpr (small endpNum notControl enabled) tooLarge.2

end Endpoints

/-! ## Writes to different registers -/

/-- The direction and the set that a register belongs to. -/
def Usb2Reg.owner : Usb2Reg → Option (EndpDir × Fin 8)
  | .enable _ dir reg => some (dir, reg)
  | .dma .uep0Rt => none
  | .dma (.tx reg) => some (.tx, reg)
  | .dma (.rx reg) => some (.rx, reg)
  | .tLen reg => some (.tx, reg)
  | .maxLen reg => some (.rx, reg)
  | .ctrl dir reg => some (dir, reg)

theorem owner_of_mem_keys {device : UsbDevice} {dir : EndpDir} {endpNum : Fin 16} {reg : Usb2Reg}
    (member : reg ∈ ((blockOf dir endpNum).writes device).keys) :
    reg.owner = some (dir, usb2EndpointReg endpNum) := by
  obtain ⟨write, listed, rfl⟩ := List.mem_map.mp member
  cases dir with
  | tx =>
      rcases List.mem_cons.mp listed with rfl | listed
      · rfl
      rcases List.mem_cons.mp listed with rfl | listed
      · rfl
      rcases List.mem_cons.mp listed with rfl | listed
      · rfl
      rw [List.mem_singleton.mp listed]
      rfl
  | rx =>
      rcases List.mem_cons.mp listed with rfl | listed
      · rfl
      rcases List.mem_cons.mp listed with rfl | listed
      · rfl
      rcases List.mem_cons.mp listed with rfl | listed
      · rfl
      rw [List.mem_singleton.mp listed]
      rfl

theorem nodupKeys_writes (device : UsbDevice) (block : SetupBlock) :
    (block.writes device).NodupKeys := by
  cases dir : block.dir with
  | tx => simp [SetupBlock.writes, lenWrite, dir, List.NodupKeys]
  | rx => simp [SetupBlock.writes, lenWrite, dir, List.NodupKeys]

theorem usb2SetupWrites_eq (device : UsbDevice) {mask : U32} (compatible : Compatible mask) :
    (usb2SetupWrites device mask).2 =
      ((endpointsRun device mask).map fun block =>
        (blockOf block.1 block.2).writes device).flatten := by
  rw [usb2SetupWrites_of_compatible device compatible, runSetupBlocks_writes, blocksRun_table,
    List.flatMap_map, List.flatMap_def]

theorem mem_usb2SetupWrites {device : UsbDevice} {mask : U32} (compatible : Compatible mask)
    {write : Usb2Write} :
    write ∈ (usb2SetupWrites device mask).2 ↔
      ∃ dir endpNum, (dir, endpNum) ∈ endpointsRun device mask ∧
        write ∈ (blockOf dir endpNum).writes device := by
  rw [usb2SetupWrites_eq device compatible, ← List.flatMap_def, List.mem_flatMap]
  constructor
  · rintro ⟨⟨dir, endpNum⟩, member, listed⟩
    exact ⟨dir, endpNum, member, listed⟩
  · rintro ⟨dir, endpNum, member, listed⟩
    exact ⟨(dir, endpNum), member, listed⟩

/-- The setup writes to no register twice. -/
theorem nodupKeys_usb2SetupWrites (device : UsbDevice) (mask : U32) :
    (usb2SetupWrites device mask).2.NodupKeys := by
  by_cases compatible : Compatible mask
  · rw [usb2SetupWrites_eq device compatible, List.nodupKeys_flatten]
    constructor
    · intro writes member
      obtain ⟨block, _, rfl⟩ := List.mem_map.mp member
      exact nodupKeys_writes device _
    · rw [List.map_map, List.pairwise_map]
      refine ((pairwise_enabledEndpoints compatible).sublist endpointsRun_sublist).imp ?_
      intro first second distinct reg inFirst inSecond
      exact distinct (Option.some.inj
        ((owner_of_mem_keys inFirst).symm.trans (owner_of_mem_keys inSecond)))
  · rw [(usb2SetupWrites_of_incompatible device compatible).2]
    exact List.nodupKeys_nil

/-! ## The programs -/

/-- One block of the run is for the endpoint.  It writes the data of the endpoint to the registers
of the getters, and no other write of the run goes to them. -/
def ProgrammedOnce (device : UsbDevice) (mask : U32) (dir : EndpDir) (endpNum : Fin 16) : Prop :=
  let endp := device.endps dir endpNum
  ∃ (block : SetupBlock) (reg : Fin 8),
    (blocksRun device mask usb2SetupTable).filter
        (fun other => other.dir = dir ∧ other.endp = endpNum) = [block] ∧
      usb2GetEndpointCtrlReg dir endpNum = some (.ctrl dir reg) ∧
      usb2GetEndpointAddrReg dir endpNum = some (.dma (dmaRegOf dir reg)) ∧
      (dir = .tx → usb2GetTxEndpointLenReg endpNum = some (.tLen reg)) ∧
      block.writes device =
        [⟨.enable block.modReg dir reg, true⟩, ⟨.dma (dmaRegOf dir reg), endp.buffer⟩,
          lenWrite endp dir reg, ⟨.ctrl dir reg, endp.state ||| rbUepTog0⟩] ∧
      ∀ write ∈ block.writes device,
        (usb2SetupWrites device mask).2.lookupAll write.1 = [write.2]

theorem getters_eq (dir : EndpDir) {endpNum : Fin 16} (notControl : endpNum ≠ 0) :
    usb2GetEndpointCtrlReg dir endpNum = some (.ctrl dir (usb2EndpointReg endpNum)) ∧
      usb2GetEndpointAddrReg dir endpNum = some (.dma (dmaRegOf dir (usb2EndpointReg endpNum))) ∧
      usb2GetTxEndpointLenReg endpNum = some (.tLen (usb2EndpointReg endpNum)) := by
  have notFirst := usb2EndpointReg_ne_zero notControl
  have lenReg : usb2GetTxEndpointLenReg endpNum = some (.tLen (usb2EndpointReg endpNum)) := by
    rw [usb2GetTxEndpointLenReg, usb2EndpointSwitch_val]
    rfl
  cases dir with
  | tx =>
      refine ⟨?_, ?_, lenReg⟩
      · rw [usb2GetEndpointCtrlReg, usb2GetTxEndpointCtrlReg, usb2EndpointSwitch_val]
        rfl
      · rw [usb2GetEndpointAddrReg, usb2GetTxEndpointAddrReg, usb2EndpointSwitch_val,
          Option.map_some, if_neg notFirst]
        rfl
  | rx =>
      refine ⟨?_, ?_, lenReg⟩
      · rw [usb2GetEndpointCtrlReg, usb2GetRxEndpointCtrlReg, usb2EndpointSwitch_val]
        rfl
      · rw [usb2GetEndpointAddrReg, usb2GetRxEndpointAddrReg, usb2EndpointSwitch_val,
          Option.map_some, if_neg notFirst]
        rfl

/-- An endpoint whose block runs is programmed once. -/
theorem programmedOnce_of_mem {device : UsbDevice} {mask : U32} (compatible : Compatible mask)
    {dir : EndpDir} {endpNum : Fin 16} (member : (dir, endpNum) ∈ endpointsRun device mask) :
    ProgrammedOnce device mask dir endpNum := by
  have notControl := (mem_enabledEndpoints.mp (endpointsRun_sublist.subset member)).1
  obtain ⟨ctrlReg, addrReg, lenReg⟩ := getters_eq dir notControl
  have once : (endpointsRun device mask).count (dir, endpNum) = 1 :=
    List.count_eq_one_of_mem (nodup_enabledEndpoints.sublist endpointsRun_sublist) member
  refine ⟨blockOf dir endpNum, usb2EndpointReg endpNum, ?_, ctrlReg, addrReg, fun _ => lenReg, rfl,
    fun write listed => ?_⟩
  · have same : ((fun other : SetupBlock => decide (other.dir = dir ∧ other.endp = endpNum)) ∘
        fun block : EndpDir × Fin 16 => blockOf block.1 block.2) =
        fun block => decide (block = (dir, endpNum)) := by
      funext block
      simp [blockOf, Prod.ext_iff]
    rw [blocksRun_table, List.filter_map, same, List.filter_eq, once]
    rfl
  · have written : write ∈ (usb2SetupWrites device mask).2 :=
      (mem_usb2SetupWrites compatible).mpr ⟨dir, endpNum, member, listed⟩
    have distinct := nodupKeys_usb2SetupWrites device mask
    rw [List.lookupAll_eq_dlookup _ distinct, List.mem_dlookup distinct written]
    rfl

theorem usb2SetupWrites_done_iff {device : UsbDevice} {mask : U32}
    (small : ∀ endpNum ≠ 0, EnabledIn mask .rx endpNum →
      (device.rx endpNum).maxPacketSize ≤ usb2EpMaxPacketSize) :
    (usb2SetupWrites device mask).1 = .done ↔ Compatible mask := by
  constructor
  · intro done
    by_contra incompatible
    exact (usb2SetupWrites_of_incompatible device incompatible).1 done
  · intro compatible
    rw [usb2SetupWrites_of_compatible device compatible, runSetupBlocks_done_iff]
    intro block listed enabled tooLarge
    obtain ⟨dir, endpNum, notControl, rfl⟩ := mem_usb2SetupTable.mp listed
    have isRx : dir = .rx := tooLarge.1
    subst isRx
    exact Nat.not_lt.mpr (small endpNum notControl enabled) tooLarge.2

namespace Usb2Driver

/-- The setup refuses a mask exactly where the register maps put two of its endpoints together, and
programs every endpoint of an accepted mask once, in the registers of the maps. -/
theorem setup_agrees_with_register_maps (driver : Usb2Driver) (mask : U32)
    (small : ∀ endpNum ≠ 0, EnabledIn mask .rx endpNum →
      (driver.device.rx endpNum).maxPacketSize ≤ usb2EpMaxPacketSize) :
    ((usb2SetupWrites driver.device mask).1 ≠ .done ↔ SharesCtrlReg mask) ∧
      ((usb2SetupWrites driver.device mask).1 = .done →
        ∀ (dir : EndpDir) (endpNum : Fin 16), endpNum ≠ 0 → EnabledIn mask dir endpNum →
          ProgrammedOnce driver.device mask dir endpNum) ∧
      ∀ write ∈ (usb2SetupWrites driver.device mask).2,
        (driver.usb2SetupEndpointsInMask mask).registers write.1 = write.2 := by
  have accepts : (usb2SetupWrites driver.device mask).1 = .done ↔ Compatible mask :=
    usb2SetupWrites_done_iff small
  refine ⟨?_, ?_, fun write listed => ?_⟩
  · rw [← not_compatible_iff, ne_eq, accepts]
  · intro done dir endpNum notControl enabled
    refine programmedOnce_of_mem (accepts.mp done) ?_
    rw [endpointsRun_of_small small]
    exact mem_enabledEndpoints.mpr ⟨notControl, enabled⟩
  · rw [driver.registers_usb2SetupEndpointsInMask]
    exact RegisterFile.run_of_mem (nodupKeys_usb2SetupWrites driver.device mask) listed

/-- The endpoints 1 and 8 of both directions are accepted together. -/
theorem setup_agrees_for_endpoints_one_and_eight :
    (usb2SetupWrites usbDevice0 0xc003#32).1 = .done ∧
      ProgrammedOnce usbDevice0 0xc003#32 .rx 8 := by
  have small : ∀ endpNum ≠ 0, EnabledIn 0xc003#32 .rx endpNum →
      (usbDevice0.rx endpNum).maxPacketSize ≤ usb2EpMaxPacketSize := fun _ _ _ => Nat.zero_le _
  have agrees := (initial usbDevice0 fun _ => 0#8).setup_agrees_with_register_maps 0xc003#32 small
  have done : (usb2SetupWrites usbDevice0 0xc003#32).1 = .done := by decide
  exact ⟨done, agrees.2.1 done .rx 8 (by decide) (by decide)⟩

end Usb2Driver

end WchCh56x.Usb
