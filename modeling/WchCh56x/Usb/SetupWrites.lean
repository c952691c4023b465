import Mathlib.Data.List.TakeWhile
import WchCh56x.Support.RegisterFile
import WchCh56x.Usb.RegisterMaps

/-!
# The register writes of the USB2 endpoint setup

Every block of the setup tests one bit of the mask, reads one endpoint and writes
four registers; the numbers in a block are those of the source.  The run of the
blocks is a list of writes with the way it ended.
-/

namespace WchCh56x.Usb

open Support

abbrev Usb2Write : Type := Sigma Usb2Reg.Value

/-- A block of `usb2_setup_endpoints_in_mask`. -/
structure SetupBlock where
  dir : EndpDir
  /-- `ENDPOINT_n_TX` or `ENDPOINT_n_RX` -/
  bit : Fin 16
  /-- The index into `endpoints.tx` or `endpoints.rx`. -/
  endp : Fin 16
  /-- The enable register and its bit. -/
  modReg : ModReg
  enable : Fin 8
  /-- The numbers of the DMA, length and control register. -/
  dma : Fin 8
  len : Fin 8
  ctrl : Fin 8
  deriving DecidableEq, Repr

/-- The blocks in the order of the source. -/
def usb2SetupTable : List SetupBlock :=
  [⟨.tx, 1, 1, .uep41, 1, 1, 1, 1⟩,
    ⟨.tx, 9, 9, .uep41, 1, 1, 1, 1⟩,
    ⟨.rx, 1, 1, .uep41, 1, 1, 1, 1⟩,
    ⟨.rx, 9, 9, .uep41, 1, 1, 1, 1⟩,
    ⟨.tx, 2, 2, .uep23, 2, 2, 2, 2⟩,
    ⟨.tx, 10, 10, .uep23, 2, 2, 2, 2⟩,
    ⟨.rx, 2, 2, .uep23, 2, 2, 2, 2⟩,
    ⟨.rx, 10, 10, .uep23, 2, 2, 2, 2⟩,
    ⟨.tx, 3, 3, .uep23, 3, 3, 3, 3⟩,
    ⟨.tx, 11, 11, .uep23, 3, 3, 3, 3⟩,
    ⟨.rx, 3, 3, .uep23, 3, 3, 3, 3⟩,
    ⟨.rx, 11, 11, .uep23, 3, 3, 3, 3⟩,
    ⟨.tx, 4, 4, .uep41, 4, 4, 4, 4⟩,
    ⟨.tx, 8, 8, .uep41, 4, 4, 4, 4⟩,
    ⟨.tx, 12, 12, .uep41, 4, 4, 4, 4⟩,
    ⟨.rx, 4, 4, .uep41, 4, 4, 4, 4⟩,
    ⟨.rx, 8, 8, .uep41, 4, 4, 4, 4⟩,
    ⟨.rx, 12, 12, .uep41, 4, 4, 4, 4⟩,
    ⟨.tx, 5, 5, .uep56, 5, 5, 5, 5⟩,
    ⟨.tx, 13, 13, .uep56, 5, 5, 5, 5⟩,
    ⟨.rx, 5, 5, .uep56, 5, 5, 5, 5⟩,
    ⟨.rx, 13, 13, .uep56, 5, 5, 5, 5⟩,
    ⟨.tx, 6, 6, .uep56, 6, 6, 6, 6⟩,
    ⟨.tx, 14, 14, .uep56, 6, 6, 6, 6⟩,
    ⟨.rx, 6, 6, .uep56, 6, 6, 6, 6⟩,
    ⟨.rx, 14, 14, .uep56, 6, 6, 6, 6⟩,
    ⟨.tx, 7, 7, .uep7, 7, 7, 7, 7⟩,
    ⟨.tx, 15, 15, .uep7, 7, 7, 7, 7⟩,
    ⟨.rx, 7, 7, .uep7, 7, 7, 7, 7⟩,
    ⟨.rx, 15, 15, .uep7, 7, 7, 7, 7⟩]

/-- How the setup ends; a refusal carries what it logs. -/
inductive SetupOutcome where
  | done
  | incompatible (endpoints : U32)
  | tooLarge (endpNum : Fin 16)
  deriving DecidableEq, Repr

def UsbDevice.endps (device : UsbDevice) : EndpDir → Fin 16 → UsbEndpoint
  | .tx => device.tx
  | .rx => device.rx

/-- The length that is written for an endpoint, to `T_LEN` or to `MAX_LEN`. -/
def lenWrite (endp : UsbEndpoint) : EndpDir → Fin 8 → Usb2Write
  | .tx, reg => ⟨.tLen reg, (0 : Nat)⟩
  | .rx, reg => ⟨.maxLen reg, endp.maxPacketSize⟩

def dmaRegOf : EndpDir → Fin 8 → DmaReg
  | .tx => .tx
  | .rx => .rx

namespace SetupBlock

def writes (device : UsbDevice) (block : SetupBlock) : List Usb2Write :=
  let endp := device.endps block.dir block.endp
  [⟨.enable block.modReg block.dir block.enable, true⟩,
    ⟨.dma (dmaRegOf block.dir block.dma), endp.buffer⟩,
    lenWrite endp block.dir block.len,
    ⟨.ctrl block.dir block.ctrl, endp.state ||| rbUepTog0⟩]

def Enabled (mask : U32) (block : SetupBlock) : Prop := EnabledIn mask block.dir block.bit

instance (mask : U32) : DecidablePred (Enabled mask) := fun _ => inferInstanceAs (Decidable (_ ≠ _))

/-- Only the OUT blocks check the packet size. -/
def TooLarge (device : UsbDevice) (block : SetupBlock) : Prop :=
  block.dir = .rx ∧ usb2EpMaxPacketSize < (device.rx block.endp).maxPacketSize

instance (device : UsbDevice) : DecidablePred (TooLarge device) := fun _ =>
  inferInstanceAs (Decidable (_ ∧ _))

end SetupBlock

def runSetupBlocks (device : UsbDevice) (mask : U32) : List SetupBlock → SetupOutcome × List Usb2Write
  | [] => (.done, [])
  | block :: rest =>
      if block.Enabled mask then
        if block.TooLarge device then
          (.tooLarge block.endp, [])
        else
          let later := runSetupBlocks device mask rest
          (later.1, block.writes device ++ later.2)
      else
        runSetupBlocks device mask rest

/-- `usb2_setup_endpoints_in_mask` -/
def usb2SetupWrites (device : UsbDevice) (mask : U32) : SetupOutcome × List Usb2Write :=
  match usb2IncompatiblesEndpoints.find? fun pair => mask &&& pairMask pair = pairMask pair with
  | some pair => (.incompatible (pairMask pair), [])
  | none => runSetupBlocks device mask usb2SetupTable

/-! ## The blocks that run -/

def blockOf (dir : EndpDir) (endpNum : Fin 16) : SetupBlock :=
  let reg := usb2EndpointReg endpNum
  ⟨dir, endpNum, endpNum, (modRegOf reg).getD .uep7, reg, reg, reg, reg⟩

/-- No block names a register of another set. -/
theorem usb2SetupTable_eq : usb2SetupTable = usb2SetupBlocks.map fun block => blockOf block.1 block.2 := by
  decide

theorem mem_usb2SetupBlocks : ∀ {dir : EndpDir} {endpNum : Fin 16},
    (dir, endpNum) ∈ usb2SetupBlocks ↔ endpNum ≠ 0 := by
  intro dir
  cases dir <;> decide

theorem mem_usb2SetupTable {block : SetupBlock} :
    block ∈ usb2SetupTable ↔ ∃ dir endpNum, endpNum ≠ 0 ∧ blockOf dir endpNum = block := by
  rw [usb2SetupTable_eq, List.mem_map]
  constructor
  · rintro ⟨⟨dir, endpNum⟩, member, rfl⟩
    exact ⟨dir, endpNum, mem_usb2SetupBlocks.mp member, rfl⟩
  · rintro ⟨dir, endpNum, notControl, rfl⟩
    exact ⟨(dir, endpNum), mem_usb2SetupBlocks.mpr notControl, rfl⟩

/-- The enabled blocks before the first one that finds its packets too large. -/
def blocksRun (device : UsbDevice) (mask : U32) (blocks : List SetupBlock) : List SetupBlock :=
  (blocks.filter fun block => block.Enabled mask).takeWhile fun block => ¬block.TooLarge device

section Blocks

variable {device : UsbDevice} {mask : U32} (block : SetupBlock) (rest : List SetupBlock)

theorem runSetupBlocks_skip (disabled : ¬block.Enabled mask) :
    runSetupBlocks device mask (block :: rest) = runSetupBlocks device mask rest := if_neg disabled

theorem runSetupBlocks_stop (enabled : block.Enabled mask) (tooLarge : block.TooLarge device) :
    runSetupBlocks device mask (block :: rest) = (.tooLarge block.endp, []) :=
  (if_pos enabled).trans (if_pos tooLarge)

theorem runSetupBlocks_go (enabled : block.Enabled mask) (fits : ¬block.TooLarge device) :
    runSetupBlocks device mask (block :: rest) =
      ((runSetupBlocks device mask rest).1,
        block.writes device ++ (runSetupBlocks device mask rest).2) :=
  (if_pos enabled).trans (if_neg fits)

end Blocks

theorem runSetupBlocks_writes (device : UsbDevice) (mask : U32) (blocks : List SetupBlock) :
    (runSetupBlocks device mask blocks).2 =
      (blocksRun device mask blocks).flatMap fun block => block.writes device := by
  induction blocks with
  | nil => rfl
  | cons block rest ih =>
      by_cases enabled : block.Enabled mask
      · rw [blocksRun, List.filter_cons_of_pos (by simpa using enabled)]
        by_cases tooLarge : block.TooLarge device
        · rw [runSetupBlocks_stop block rest enabled tooLarge,
            List.takeWhile_cons_of_neg (by simpa using tooLarge), List.flatMap_nil]
        · rw [runSetupBlocks_go block rest enabled tooLarge,
            List.takeWhile_cons_of_pos (by simpa using tooLarge), List.flatMap_cons]
          exact congrArg (block.writes device ++ ·) ih
      · rw [runSetupBlocks_skip block rest enabled, blocksRun,
          List.filter_cons_of_neg (by simpa using enabled)]
        exact ih

/-- The blocks end well if no enabled one finds its packets too large. -/
theorem runSetupBlocks_done_iff (device : UsbDevice) (mask : U32) (blocks : List SetupBlock) :
    (runSetupBlocks device mask blocks).1 = .done ↔
      ∀ block ∈ blocks, block.Enabled mask → ¬block.TooLarge device := by
  induction blocks with
  | nil => simp [runSetupBlocks]
  | cons block rest ih =>
      rw [List.forall_mem_cons]
      by_cases enabled : block.Enabled mask
      · by_cases tooLarge : block.TooLarge device
        · simp [runSetupBlocks_stop block rest enabled tooLarge, enabled, tooLarge]
        · simpa [runSetupBlocks_go block rest enabled tooLarge, tooLarge] using ih
      · simpa [runSetupBlocks_skip block rest enabled, enabled] using ih

theorem find_incompatible_eq_none_iff (mask : U32) :
    (usb2IncompatiblesEndpoints.find? fun pair => mask &&& pairMask pair = pairMask pair) = none ↔
      Compatible mask := by
  rw [List.find?_eq_none]
  simp [Compatible]

theorem usb2SetupWrites_of_compatible (device : UsbDevice) {mask : U32}
    (compatible : Compatible mask) :
    usb2SetupWrites device mask = runSetupBlocks device mask usb2SetupTable := by
  unfold usb2SetupWrites
  rw [(find_incompatible_eq_none_iff mask).mpr compatible]

theorem usb2SetupWrites_of_incompatible (device : UsbDevice) {mask : U32}
    (incompatible : ¬Compatible mask) :
    (usb2SetupWrites device mask).1 ≠ .done ∧ (usb2SetupWrites device mask).2 = [] := by
  unfold usb2SetupWrites
  split
  · exact ⟨nofun, rfl⟩
  · next noPair => exact absurd ((find_incompatible_eq_none_iff mask).mp noPair) incompatible

/-! ## The registers of the driver -/

namespace Usb2Driver

variable (driver : Usb2Driver)

def enable : EndpDir → Fin 8 → Bool
  | .tx => driver.txEn
  | .rx => driver.rxEn

def registers : (reg : Usb2Reg) → reg.Value
  | .enable modReg dir reg => decide (modRegOf reg = some modReg) && driver.enable dir reg
  | .dma reg => driver.dma reg
  | .tLen reg => driver.tLen reg
  | .maxLen reg => driver.maxLen reg
  | .ctrl dir reg => driver.ctrl dir reg

theorem registers_setDma (reg : DmaReg) (value : Nat) :
    (driver.setDma reg value).registers = Function.update driver.registers (.dma reg) value := by
  refine Function.eq_update_iff.mpr ⟨driver.setDma_self reg value, fun other apart => ?_⟩
  cases other with
  | dma dmaReg => exact Function.update_of_ne (fun same => apart (congrArg Usb2Reg.dma same)) ..
  | enable modReg dir reg => rfl
  | tLen reg => rfl
  | maxLen reg => rfl
  | ctrl dir reg => rfl

theorem registers_setTLen (reg : Fin 8) (value : Nat) :
    (driver.setTLen reg value).registers = Function.update driver.registers (.tLen reg) value := by
  refine Function.eq_update_iff.mpr ⟨driver.setTLen_self reg value, fun other apart => ?_⟩
  cases other with
  | tLen lenReg => exact Function.update_of_ne (fun same => apart (congrArg Usb2Reg.tLen same)) ..
  | enable modReg dir reg => rfl
  | dma reg => rfl
  | maxLen reg => rfl
  | ctrl dir reg => rfl

theorem registers_setMaxLen (reg : Fin 8) (value : Nat) :
    { driver with maxLen := Function.update driver.maxLen reg value }.registers =
      Function.update driver.registers (.maxLen reg) value := by
  refine Function.eq_update_iff.mpr ⟨Function.update_self .., fun other apart => ?_⟩
  cases other with
  | maxLen lenReg => exact Function.update_of_ne (fun same => apart (congrArg Usb2Reg.maxLen same)) ..
  | enable modReg dir reg => rfl
  | dma reg => rfl
  | tLen reg => rfl
  | ctrl dir reg => rfl

def setCtrl : EndpDir → Fin 8 → U8 → Usb2Driver
  | .tx => driver.setTxCtrl
  | .rx => driver.setRxCtrl

theorem registers_setCtrl (dir : EndpDir) (reg : Fin 8) (value : U8) :
    (driver.setCtrl dir reg value).registers =
      Function.update driver.registers (.ctrl dir reg) value := by
  refine Function.eq_update_iff.mpr ⟨?_, fun other apart => ?_⟩
  · cases dir with
    | tx => exact driver.setTxCtrl_self reg value
    | rx => exact driver.setRxCtrl_self reg value
  · cases other with
    | ctrl otherDir ctrlReg =>
        cases dir with
        | tx =>
            cases otherDir with
            | tx => exact Function.update_of_ne (fun same => apart (congrArg _ same)) ..
            | rx => rfl
        | rx =>
            cases otherDir with
            | tx => rfl
            | rx => exact Function.update_of_ne (fun same => apart (congrArg _ same)) ..
    | enable modReg otherDir reg => cases dir <;> rfl
    | dma reg => cases dir <;> rfl
    | tLen reg => cases dir <;> rfl
    | maxLen reg => cases dir <;> rfl

def setEnable : EndpDir → Fin 8 → Usb2Driver
  | .tx, reg => { driver with txEn := Function.update driver.txEn reg true }
  | .rx, reg => { driver with rxEn := Function.update driver.rxEn reg true }

theorem setEnable_self (dir : EndpDir) (reg : Fin 8) :
    (driver.setEnable dir reg).enable dir reg = true := by
  cases dir with
  | tx => exact Function.update_self ..
  | rx => exact Function.update_self ..

theorem setEnable_of_ne {dir otherDir : EndpDir} {reg other : Fin 8}
    (apart : otherDir = dir → other ≠ reg) :
    (driver.setEnable dir reg).enable otherDir other = driver.enable otherDir other := by
  cases dir with
  | tx =>
      cases otherDir with
      | tx => exact Function.update_of_ne (apart rfl) ..
      | rx => rfl
  | rx =>
      cases otherDir with
      | tx => rfl
      | rx => exact Function.update_of_ne (apart rfl) ..

theorem registers_setEnable (dir : EndpDir) {reg : Fin 8} {modReg : ModReg}
    (home : modRegOf reg = some modReg) :
    (driver.setEnable dir reg).registers =
      Function.update driver.registers (.enable modReg dir reg) true := by
  refine Function.eq_update_iff.mpr ⟨?_, fun other apart => ?_⟩
  · simp only [registers, home, driver.setEnable_self, decide_true, Bool.and_true]
    rfl
  · cases other with
    | enable otherMod otherDir otherReg =>
        by_cases here : modRegOf otherReg = some otherMod
        · simp only [registers, here, decide_true, Bool.true_and]
          refine driver.setEnable_of_ne ?_
          rintro rfl rfl
          exact apart (congrArg (Usb2Reg.enable · otherDir otherReg)
            (Option.some.inj (here.symm.trans home)))
        · simp only [registers, here, decide_false, Bool.false_and]
          rfl
    | dma reg => cases dir <;> rfl
    | tLen reg => cases dir <;> rfl
    | maxLen reg => cases dir <;> rfl
    | ctrl otherDir reg => cases dir <;> cases otherDir <;> rfl

theorem modReg_blockOf (dir : EndpDir) : ∀ {endpNum : Fin 16}, endpNum ≠ 0 →
    modRegOf (usb2EndpointReg endpNum) = some (blockOf dir endpNum).modReg := by
  cases dir <;> decide

theorem registers_setupOne (dir : EndpDir) {endpNum : Fin 16} (notControl : endpNum ≠ 0) :
    (driver.setupOne dir endpNum).registers =
      RegisterFile.run driver.registers ((blockOf dir endpNum).writes driver.device) := by
  have home := modReg_blockOf dir notControl
  cases dir with
  | tx =>
      let enabled := driver.setEnable .tx (usb2EndpointReg endpNum)
      let pointed := enabled.setDma (.tx (usb2EndpointReg endpNum)) (driver.device.tx endpNum).buffer
      calc (driver.setupOne .tx endpNum).registers
        _ = ((pointed.setTLen (usb2EndpointReg endpNum) 0).setCtrl .tx (usb2EndpointReg endpNum)
              ((driver.device.tx endpNum).state ||| rbUepTog0)).registers := rfl
        _ = _ := by
          rw [registers_setCtrl, registers_setTLen, registers_setDma, driver.registers_setEnable .tx home]
          rfl
  | rx =>
      let endp := driver.device.rx endpNum
      let enabled := driver.setEnable .rx (usb2EndpointReg endpNum)
      let pointed := enabled.setDma (.rx (usb2EndpointReg endpNum)) endp.buffer
      let sized :=
        { pointed with
          maxLen := Function.update pointed.maxLen (usb2EndpointReg endpNum) endp.maxPacketSize }
      calc (driver.setupOne .rx endpNum).registers
        _ = (sized.setCtrl .rx (usb2EndpointReg endpNum) (endp.state ||| rbUepTog0)).registers := rfl
        _ = _ := by
          rw [registers_setCtrl, pointed.registers_setMaxLen, registers_setDma,
            driver.registers_setEnable .rx home]
          rfl

/-- The blocks of the driver write the registers that the table names. -/
theorem registers_setupBlocks (mask : U32) (blocks : List (EndpDir × Fin 16))
    (listed : ∀ block ∈ blocks, block.2 ≠ 0) :
    (driver.setupBlocks mask blocks).registers =
      RegisterFile.run driver.registers
        (runSetupBlocks driver.device mask (blocks.map fun block => blockOf block.1 block.2)).2 := by
  induction blocks generalizing driver with
  | nil => rfl
  | cons block rest ih =>
      obtain ⟨dir, endpNum⟩ := block
      obtain ⟨notControl, listedRest⟩ := List.forall_mem_cons.mp listed
      rw [List.map_cons]
      cases dir with
      | tx =>
          rw [setupBlocks]
          have fits : ¬(blockOf .tx endpNum).TooLarge driver.device := by
            rintro ⟨receives, _⟩
            cases receives
          by_cases enabled : EnabledIn mask .tx endpNum
          · rw [if_pos enabled, runSetupBlocks_go (blockOf .tx endpNum) _ enabled fits,
              RegisterFile.run_append, ← driver.registers_setupOne .tx notControl]
            exact ih (driver.setupTx endpNum) listedRest
          · rw [if_neg enabled, runSetupBlocks_skip (blockOf .tx endpNum) _ enabled]
            exact ih driver listedRest
      | rx =>
          rw [setupBlocks]
          by_cases enabled : EnabledIn mask .rx endpNum
          · rw [if_pos enabled]
            by_cases large : usb2EpMaxPacketSize < (driver.device.rx endpNum).maxPacketSize
            · rw [if_pos large, runSetupBlocks_stop (blockOf .rx endpNum) _ enabled ⟨rfl, large⟩,
                RegisterFile.run_nil]
            · rw [if_neg large, runSetupBlocks_go (blockOf .rx endpNum) _ enabled
                (fun tooLarge => large tooLarge.2), RegisterFile.run_append, ← driver.registers_setupOne .rx notControl]
              exact ih (driver.setupRx endpNum) listedRest
          · rw [if_neg enabled, runSetupBlocks_skip (blockOf .rx endpNum) _ enabled]
            exact ih driver listedRest

/-- The setup of the driver is the run of its writes. -/
theorem registers_usb2SetupEndpointsInMask (mask : U32) :
    (driver.usb2SetupEndpointsInMask mask).registers =
      RegisterFile.run driver.registers (usb2SetupWrites driver.device mask).2 := by
  unfold usb2SetupEndpointsInMask
  split
  · next compatible =>
      have notControl : ∀ block ∈ usb2SetupBlocks, block.2 ≠ 0 := fun _ member =>
        mem_usb2SetupBlocks.mp member
      rw [usb2SetupWrites_of_compatible _ compatible, usb2SetupTable_eq,
        driver.registers_setupBlocks mask usb2SetupBlocks notControl]
  · next incompatible =>
      rw [(usb2SetupWrites_of_incompatible driver.device incompatible).2, RegisterFile.run_nil]

end Usb2Driver

end WchCh56x.Usb
