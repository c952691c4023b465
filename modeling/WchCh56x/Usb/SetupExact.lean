import WchCh56x.Usb.EndpointPrograms
import WchCh56x.Usb.Usb30Control

/-!
# When the endpoint setup is exact

The pairs are checked before the first write, the packet sizes in between, and
the enable bits are only ever set.  So a refusal for a size may come late, and a
bit of an earlier mask stays.  USB3 sets its enable register anew each time.
-/

namespace WchCh56x.Usb

open Support

/-! ## Refusals -/

def HasTooLarge (device : UsbDevice) (mask : U32) : Prop :=
  ∃ endpNum ≠ 0, EnabledIn mask .rx endpNum ∧
    usb2EpMaxPacketSize < (device.rx endpNum).maxPacketSize

def Refused (device : UsbDevice) (mask : U32) : Prop := ¬Compatible mask ∨ HasTooLarge device mask

theorem small_of_not_hasTooLarge {device : UsbDevice} {mask : U32}
    (noTooLarge : ¬HasTooLarge device mask) : ∀ endpNum ≠ 0, EnabledIn mask .rx endpNum →
      (device.rx endpNum).maxPacketSize ≤ usb2EpMaxPacketSize :=
  fun endpNum notControl enabled => Nat.not_lt.mp fun tooLarge =>
    noTooLarge ⟨endpNum, notControl, enabled, tooLarge⟩

theorem refused_iff (device : UsbDevice) (mask : U32) :
    Refused device mask ↔ (usb2SetupWrites device mask).1 ≠ .done := by
  by_cases compatible : Compatible mask
  · by_cases hasTooLarge : HasTooLarge device mask
    · refine ⟨fun _ => ?_, fun _ => Or.inr hasTooLarge⟩
      obtain ⟨endpNum, notControl, enabled, tooLarge⟩ := hasTooLarge
      rw [usb2SetupWrites_of_compatible device compatible, ne_eq, runSetupBlocks_done_iff]
      intro fits
      exact fits (blockOf .rx endpNum) (mem_usb2SetupTable.mpr ⟨.rx, endpNum, notControl, rfl⟩)
        enabled ⟨rfl, tooLarge⟩
    · have done := (usb2SetupWrites_done_iff (small_of_not_hasTooLarge hasTooLarge)).mpr compatible
      refine ⟨fun refused => ?_, fun refused => absurd done refused⟩
      rcases refused with incompatible | large
      · exact absurd compatible incompatible
      · exact absurd large hasTooLarge
  · exact ⟨fun _ => (usb2SetupWrites_of_incompatible device compatible).1, fun _ => Or.inl compatible⟩

theorem runSetupBlocks_ne_incompatible (device : UsbDevice) (mask : U32) (blocks : List SetupBlock)
    (endpoints : U32) : (runSetupBlocks device mask blocks).1 ≠ .incompatible endpoints := by
  induction blocks with
  | nil => exact nofun
  | cons block rest ih =>
      by_cases enabled : block.Enabled mask
      · by_cases tooLarge : block.TooLarge device
        · rw [runSetupBlocks_stop block rest enabled tooLarge]
          exact nofun
        · rw [runSetupBlocks_go block rest enabled tooLarge]
          exact ih
      · rw [runSetupBlocks_skip block rest enabled]
        exact ih

theorem tooLarge_of_runSetupBlocks {device : UsbDevice} {mask : U32} {endpNum : Fin 16}
    {blocks : List SetupBlock} (reads : ∀ block ∈ blocks, block.endp = block.bit)
    (ended : (runSetupBlocks device mask blocks).1 = .tooLarge endpNum) :
    EnabledIn mask .rx endpNum ∧ usb2EpMaxPacketSize < (device.rx endpNum).maxPacketSize := by
  induction blocks with
  | nil => nomatch ended
  | cons block rest ih =>
      obtain ⟨same, readsRest⟩ := List.forall_mem_cons.mp reads
      by_cases enabled : block.Enabled mask
      · by_cases tooLarge : block.TooLarge device
        · rw [runSetupBlocks_stop block rest enabled tooLarge] at ended
          obtain ⟨isRx, large⟩ := tooLarge
          rw [← SetupOutcome.tooLarge.inj ended]
          refine ⟨?_, large⟩
          rw [same, ← isRx]
          exact enabled
        · rw [runSetupBlocks_go block rest enabled tooLarge] at ended
          exact ih readsRest ended
      · rw [runSetupBlocks_skip block rest enabled] at ended
        exact ih readsRest ended

/-- What a refusal logs is what it found in the mask. -/
theorem refusal_names (device : UsbDevice) (mask : U32) :
    (∀ endpoints, (usb2SetupWrites device mask).1 = .incompatible endpoints →
        mask &&& endpoints = endpoints ∧ ∃ pair ∈ usb2IncompatiblesEndpoints, pairMask pair = endpoints) ∧
      ∀ endpNum, (usb2SetupWrites device mask).1 = .tooLarge endpNum →
        EnabledIn mask .rx endpNum ∧ usb2EpMaxPacketSize < (device.rx endpNum).maxPacketSize := by
  by_cases compatible : Compatible mask
  · rw [usb2SetupWrites_of_compatible device compatible]
    refine ⟨fun endpoints ended => ?_, fun endpNum => tooLarge_of_runSetupBlocks (by decide)⟩
    exact absurd ended (runSetupBlocks_ne_incompatible device mask usb2SetupTable endpoints)
  · unfold usb2SetupWrites
    split
    · next pair found =>
        refine ⟨fun endpoints ended => ?_, nofun⟩
        rw [← SetupOutcome.incompatible.inj ended]
        exact ⟨by simpa using List.find?_some found, pair, List.mem_of_find?_eq_some found, rfl⟩
    · next noPair => exact absurd ((find_incompatible_eq_none_iff mask).mp noPair) compatible

namespace Usb2Driver

variable (driver : Usb2Driver) (mask : U32)

/-! ## The enable bits -/

/-- An endpoint of the mask uses the enable bit. -/
def UsedBy (dir : EndpDir) (reg : Fin 8) : Prop :=
  ∃ endpNum ≠ 0, EnabledIn mask dir endpNum ∧ usb2EndpointReg endpNum = reg

/-- The endpoints of the mask are enabled, and no others. -/
def EnablesExactly : Prop :=
  ∀ (dir : EndpDir) (reg : Fin 8), reg ≠ 0 → (driver.enable dir reg = true ↔ UsedBy mask dir reg)

theorem registers_enable {dir : EndpDir} {reg : Fin 8} {modReg : ModReg}
    (home : modRegOf reg = some modReg) :
    driver.registers (.enable modReg dir reg) = driver.enable dir reg := by
  simp only [registers, home, decide_true, Bool.true_and]
  rfl

theorem modRegOf_isSome : ∀ {reg : Fin 8}, reg ≠ 0 → ∃ modReg, modRegOf reg = some modReg := by
  intro reg notFirst
  exact Option.isSome_iff_exists.mp (by revert reg; decide)

/-- The blocks write nothing to an enable bit but that it is set. -/
theorem enable_written {device : UsbDevice} {block : SetupBlock} {modReg : ModReg} {dir : EndpDir}
    {reg : Fin 8} {value : Bool}
    (member : (⟨.enable modReg dir reg, value⟩ : Usb2Write) ∈ block.writes device) : value = true := by
  rcases List.mem_cons.mp member with first | later
  · cases first
    rfl
  rcases List.mem_cons.mp later with second | later
  · cases second
  rcases List.mem_cons.mp later with third | later
  · revert third
    cases block.dir with
    | tx => exact nofun
    | rx => exact nofun
  · nomatch List.mem_singleton.mp later

variable {driver mask}

/-- The enable bits that the setup of an accepted mask writes. -/
theorem enable_mem_keys_iff (compatible : Compatible mask)
    (noTooLarge : ¬HasTooLarge driver.device mask) {dir : EndpDir} {reg : Fin 8} {modReg : ModReg}
    (home : modRegOf reg = some modReg) :
    Usb2Reg.enable modReg dir reg ∈ (usb2SetupWrites driver.device mask).2.keys ↔
      UsedBy mask dir reg := by
  have all := endpointsRun_of_small (small_of_not_hasTooLarge noTooLarge)
  constructor
  · intro written
    obtain ⟨value, member⟩ := List.exists_of_mem_keys written
    obtain ⟨blockDir, endpNum, runs, listed⟩ := (mem_usb2SetupWrites compatible).mp member
    rw [all] at runs
    obtain ⟨notControl, enabled⟩ := mem_enabledEndpoints.mp runs
    have owner := owner_of_mem_keys (List.mem_keys_of_mem listed)
    obtain ⟨rfl, rfl⟩ := Prod.mk.inj (Option.some.inj owner)
    exact ⟨endpNum, notControl, enabled, rfl⟩
  · rintro ⟨endpNum, notControl, enabled, rfl⟩
    have sameMod := Option.some.inj (home.symm.trans (modReg_blockOf dir notControl))
    have listed : (⟨.enable modReg dir (usb2EndpointReg endpNum), true⟩ : Usb2Write) ∈
        (blockOf dir endpNum).writes driver.device := by
      rw [sameMod]
      exact List.mem_cons_self
    refine List.mem_keys_of_mem ((mem_usb2SetupWrites compatible).mpr ⟨dir, endpNum, ?_, listed⟩)
    rw [all]
    exact mem_enabledEndpoints.mpr ⟨notControl, enabled⟩

/-- An accepted setup sets the bits of the mask and keeps those that were set. -/
theorem enable_usb2SetupEndpointsInMask (compatible : Compatible mask)
    (noTooLarge : ¬HasTooLarge driver.device mask) (dir : EndpDir) {reg : Fin 8}
    (notFirst : reg ≠ 0) :
    (driver.usb2SetupEndpointsInMask mask).enable dir reg = true ↔
      driver.enable dir reg = true ∨ UsedBy mask dir reg := by
  obtain ⟨modReg, home⟩ := modRegOf_isSome notFirst
  rw [← registers_enable _ home, ← registers_enable driver home,
    registers_usb2SetupEndpointsInMask, ← enable_mem_keys_iff compatible noTooLarge home]
  refine RegisterFile.run_eq_iff fun other member => ?_
  obtain ⟨_, _, _, listed⟩ := (mem_usb2SetupWrites compatible).mp member
  exact enable_written listed

/-! ## All or nothing -/

variable (driver mask)

/-- A refusal changes no register, and otherwise exactly the endpoints of the mask are enabled. -/
def AllOrNothing : Prop :=
  (Refused driver.device mask →
      (driver.usb2SetupEndpointsInMask mask).registers = driver.registers) ∧
    (¬Refused driver.device mask → (driver.usb2SetupEndpointsInMask mask).EnablesExactly mask)

/-- The registers of an endpoint hold what its block would write. -/
def HoldsProgram (dir : EndpDir) (endpNum : Fin 16) : Prop :=
  ∀ write ∈ (blockOf dir endpNum).writes driver.device, driver.registers write.1 = write.2

/-- Every endpoint before the first one that is too large holds its program already. -/
def HoldsPrograms : Prop :=
  ∀ dir endpNum, (dir, endpNum) ∈ endpointsRun driver.device mask → driver.HoldsProgram dir endpNum

/-- No enable bit is set that the mask does not use. -/
def NoForeignEnable : Prop :=
  ∀ (dir : EndpDir) (reg : Fin 8), reg ≠ 0 → driver.enable dir reg = true → UsedBy mask dir reg

/-- The setup with a too large endpoint in the mask changes nothing where all is in place. -/
theorem registers_unchanged_iff (compatible : Compatible mask) :
    (driver.usb2SetupEndpointsInMask mask).registers = driver.registers ↔
      driver.HoldsPrograms mask := by
  rw [registers_usb2SetupEndpointsInMask,
    RegisterFile.run_eq_self_iff (nodupKeys_usb2SetupWrites driver.device mask)]
  constructor
  · intro same dir endpNum runs write listed
    exact same write ((mem_usb2SetupWrites compatible).mpr ⟨dir, endpNum, runs, listed⟩)
  · intro holds write written
    obtain ⟨dir, endpNum, runs, listed⟩ := (mem_usb2SetupWrites compatible).mp written
    exact holds dir endpNum runs write listed

theorem enablesExactly_iff (compatible : Compatible mask)
    (noTooLarge : ¬HasTooLarge driver.device mask) :
    (driver.usb2SetupEndpointsInMask mask).EnablesExactly mask ↔ driver.NoForeignEnable mask := by
  constructor
  · intro exact dir reg notFirst before
    exact (exact dir reg notFirst).mp
      ((enable_usb2SetupEndpointsInMask compatible noTooLarge dir notFirst).mpr (Or.inl before))
  · intro noForeign dir reg notFirst
    rw [enable_usb2SetupEndpointsInMask compatible noTooLarge dir notFirst]
    exact ⟨fun set => set.elim (noForeign dir reg notFirst) id, Or.inr⟩

/-- The setup is all or nothing for an incompatible mask, for one with a too large endpoint if all
before it is in place, and for any other if no bit of an earlier mask is left. -/
theorem allOrNothing_iff :
    driver.AllOrNothing mask ↔
      (Compatible mask →
        (HasTooLarge driver.device mask → driver.HoldsPrograms mask) ∧
          (¬HasTooLarge driver.device mask → driver.NoForeignEnable mask)) := by
  unfold AllOrNothing Refused
  by_cases compatible : Compatible mask
  · by_cases hasTooLarge : HasTooLarge driver.device mask
    · simp only [compatible, hasTooLarge, driver.registers_unchanged_iff mask compatible,
        not_true_eq_false, or_true, true_imp_iff, false_imp_iff, and_true]
    · simp only [compatible, hasTooLarge, driver.enablesExactly_iff mask compatible hasTooLarge,
        not_true_eq_false, not_false_eq_true, or_false, true_imp_iff, false_imp_iff, true_and]
  · have kept : driver.usb2SetupEndpointsInMask mask = driver := if_neg compatible
    simp only [compatible, kept, not_false_eq_true, not_true_eq_false, true_or, true_imp_iff,
      false_imp_iff, and_true]

def largeEndpoint2 : Usb2Driver :=
  initial { usbDevice0 with rx := Function.update usbDevice0.rx 2 ⟨0, 0, 2048, 2048, 0#8⟩ } fun _ => 0#8

/-- The driver after the endpoints of an earlier mask have been set up. -/
def afterEndpoint2 : Usb2Driver := (initial usbDevice0 fun _ => 0#8).usb2SetupEndpointsInMask 4#32

/-- IN endpoint 1 is set up before OUT endpoint 2 is refused, and IN endpoint 2 stays enabled. -/
theorem setup_not_allOrNothing :
    ¬largeEndpoint2.AllOrNothing 9#32 ∧ ¬afterEndpoint2.AllOrNothing 1#32 := by
  constructor
  · intro setsUp
    have refused : Refused largeEndpoint2.device 9#32 := Or.inr ⟨2, by decide, by decide, by decide⟩
    have same := congrFun (setsUp.1 refused) (.enable .uep41 .tx 1)
    rw [registers_enable _ rfl, registers_enable _ rfl] at same
    have set : (largeEndpoint2.usb2SetupEndpointsInMask 9#32).enable .tx 1 = true := by decide
    have clear : largeEndpoint2.enable .tx 1 = false := by decide
    exact Bool.false_ne_true (clear.symm.trans (same.symm.trans set))
  · intro setsUp
    have accepted : ¬Refused afterEndpoint2.device 1#32 := by
      have noOut : ∀ endpNum : Fin 16, endpNum ≠ 0 → ¬EnabledIn 1#32 .rx endpNum := by decide
      rintro (incompatible | ⟨endpNum, notControl, enabled, _⟩)
      · exact incompatible (by decide)
      · exact noOut endpNum notControl enabled
    have unused : ¬UsedBy 1#32 .tx 2 := by
      unfold UsedBy
      decide
    exact unused ((setsUp.2 accepted .tx 2 (by decide)).mp (by decide))

end Usb2Driver

/-! ## The enable register of USB3 -/

/-- The position of `EPn_T_EN` and `EPn_R_EN` in `UEP_CFG`. -/
def cfgBit : EndpDir → Fin 8 → Nat
  | .tx, i => 8 + i.val
  | .rx, i => i.val

theorem getLsbD_or_cfgBit (cfg : U32) (dir other : EndpDir) (i j : Fin 8) :
    (cfg ||| 1#32 <<< cfgBit other j).getLsbD (cfgBit dir i) =
      (cfg.getLsbD (cfgBit dir i) || decide (other = dir ∧ j = i)) := by
  have position : (1#32 <<< cfgBit other j).getLsbD (cfgBit dir i) = decide (other = dir ∧ j = i) := by
    revert i j
    cases dir <;> cases other <;> decide
  rw [BitVec.getLsbD_or, position]

namespace Usb30Driver

variable (driver : Usb30Driver)

theorem uepCfg_initIn_if (mask : U32) (dir : EndpDir) (i j : Fin 8) :
    (if EnabledIn mask .tx (usb30EndpNum j) then driver.initIn j else driver).uepCfg.getLsbD
        (cfgBit dir i) =
      (driver.uepCfg.getLsbD (cfgBit dir i) ||
        decide (EnabledIn mask .tx (usb30EndpNum j) ∧ .tx = dir ∧ j = i)) := by
  split
  · next enabled =>
      rw [show (driver.initIn j).uepCfg = driver.uepCfg ||| 1#32 <<< cfgBit .tx j from rfl,
        getLsbD_or_cfgBit]
      simp [enabled]
  · next disabled => simp [disabled]

theorem uepCfg_initOut_if (mask : U32) (dir : EndpDir) (i j : Fin 8) :
    (if EnabledIn mask .rx (usb30EndpNum j) then driver.initOut j else driver).uepCfg.getLsbD
        (cfgBit dir i) =
      (driver.uepCfg.getLsbD (cfgBit dir i) ||
        decide (EnabledIn mask .rx (usb30EndpNum j) ∧ .rx = dir ∧ j = i)) := by
  split
  · next enabled =>
      rw [show (driver.initOut j).uepCfg = driver.uepCfg ||| 1#32 <<< cfgBit .rx j from rfl,
        getLsbD_or_cfgBit]
      simp [enabled]
  · next disabled => simp [disabled]

theorem uepCfg_initEndpoint (dir : EndpDir) (i j : Fin 8) :
    (driver.initEndpoint j).uepCfg.getLsbD (cfgBit dir i) =
      (driver.uepCfg.getLsbD (cfgBit dir i) ||
        decide (EnabledIn driver.device.endpointMask dir (usb30EndpNum j) ∧ j = i)) := by
  unfold initEndpoint
  dsimp only
  rw [uepCfg_initOut_if, uepCfg_initIn_if]
  cases dir with
  | tx => simp
  | rx => simp

theorem endpointMask_initEndpoint (j : Fin 8) :
    (driver.initEndpoint j).device.endpointMask = driver.device.endpointMask := by
  unfold initEndpoint
  dsimp only
  split
  · split
    · rfl
    · rfl
  · split
    · rfl
    · rfl

theorem uepCfg_foldl (endpoints : List (Fin 8)) (dir : EndpDir) (i : Fin 8) :
    (endpoints.foldl initEndpoint driver).uepCfg.getLsbD (cfgBit dir i) = true ↔
      driver.uepCfg.getLsbD (cfgBit dir i) = true ∨
        i ∈ endpoints ∧ EnabledIn driver.device.endpointMask dir (usb30EndpNum i) := by
  induction endpoints generalizing driver with
  | nil => simp
  | cons j rest ih =>
      rw [List.foldl_cons, ih (driver.initEndpoint j), uepCfg_initEndpoint,
        endpointMask_initEndpoint, List.mem_cons, Bool.or_eq_true, decide_eq_true_iff]
      constructor
      · rintro ((before | ⟨enabled, rfl⟩) | ⟨later, enabled⟩)
        · exact Or.inl before
        · exact Or.inr ⟨Or.inl rfl, enabled⟩
        · exact Or.inr ⟨Or.inr later, enabled⟩
      · rintro (before | ⟨rfl | later, enabled⟩)
        · exact Or.inl (Or.inl before)
        · exact Or.inl (Or.inr ⟨enabled, rfl⟩)
        · exact Or.inr ⟨later, enabled⟩

/-- The setup of USB3 enables exactly the endpoints of the mask, whatever was enabled before. -/
theorem usb30InitEndpoints_exact (dir : EndpDir) {i : Fin 8} (notFirst : i ≠ 0) :
    driver.usb30InitEndpoints.uepCfg.getLsbD (cfgBit dir i) = true ↔
      EnabledIn driver.device.endpointMask dir (usb30EndpNum i) := by
  have listed : i ∈ usb30Endpoints := by
    revert i
    decide
  have clear : (epREn 0 ||| epTEn 0).getLsbD (cfgBit dir i) = false := by
    revert i
    cases dir <;> decide
  rw [usb30InitEndpoints, uepCfg_foldl]
  simp [listed, clear]

end Usb30Driver

end WchCh56x.Usb
