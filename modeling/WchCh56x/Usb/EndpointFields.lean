import WchCh56x.Support.BitFields
import WchCh56x.Usb.OutBursts

/-!
# What the USB3 endpoint settings leave in the control registers

`usb30_out_set` and `usb30_in_set` combine their arguments into the register without
clearing the fields first.  A setting holds exactly if the bits it found are among
the bits it sets.
-/

namespace WchCh56x.Usb

open Support.BitFields Support.Runs

/-! ## The fields -/

/-- The status, 0 for NRDY, 1 for ACK and 2 for STALL. -/
def ctrlStatus (ctrl : U32) : BitVec 2 := ctrl.extractLsb' 26 2

def ctrlNump (ctrl : U32) : BitVec 5 := ctrl.extractLsb' 16 5

/-- The sequence number, which the clearing functions keep. -/
def ctrlSequence (ctrl : U32) : BitVec 5 := ctrl.extractLsb' 21 5

/-- The length of the last packet of an IN endpoint. -/
def ctrlTxLen (ctrl : U32) : BitVec 11 := ctrl.extractLsb' 0 11

/-- The end-of-burst bit of an IN endpoint. -/
def ctrlLpf (ctrl : U32) : BitVec 1 := ctrl.extractLsb' 28 1

namespace EndpointFields

section

variable (ctrl : U32) (status : BitVec 2) (nump : BitVec 5) (lpf : BitVec 1) (txLen : U16)

/-! ## `usb30_out_set` -/

/-- The register of an OUT endpoint after `usb30_out_set`. -/
def outSet : U32 := usb30OutSet ctrl (status.setWidth 32) (nump.setWidth 32)

theorem ctrlStatus_outSet : ctrlStatus (outSet ctrl status nump) = ctrlStatus ctrl ||| status := by
  unfold ctrlStatus outSet usb30OutSet
  rw [BitVec.extractLsb'_or, BitVec.extractLsb'_or, extract_placed status (by decide),
    extract_placed_above nump (by decide) (by decide), BitVec.or_zero]

theorem ctrlNump_outSet : ctrlNump (outSet ctrl status nump) = ctrlNump ctrl ||| nump := by
  unfold ctrlNump outSet usb30OutSet
  rw [BitVec.extractLsb'_or, BitVec.extractLsb'_or, extract_placed nump (by decide),
    extract_shiftLeft_below _ (by decide), BitVec.or_zero]

/-- The register shows the status and the number of packets that were asked for. -/
def OutTakesEffect : Prop :=
  ctrlStatus (outSet ctrl status nump) = status ∧ ctrlNump (outSet ctrl status nump) = nump

/-- The bits that are set in both fields are among the bits of the new values. -/
def OutBitsAmong : Prop := ctrlStatus ctrl ||| status = status ∧ ctrlNump ctrl ||| nump = nump

theorem outTakesEffect_iff : OutTakesEffect ctrl status nump ↔ OutBitsAmong ctrl status nump := by
  rw [OutTakesEffect, ctrlStatus_outSet, ctrlNump_outSet, OutBitsAmong]

/-! ## `usb30_in_set` -/

/-- The register of an IN endpoint after `usb30_in_set`. -/
def inSet : U32 :=
  usb30InSet ctrl (lpf.setWidth 32) (status.setWidth 32) (nump.setWidth 32) (txLen.setWidth 32)

/-- The masked length is below every other field. -/
theorem extract_txLen_above (length : U32) {start len : Nat}
    (above : (0x7ff#32).extractLsb' start len = BitVec.ofNat len 0) :
    (length &&& 0x7ff#32).extractLsb' start len = BitVec.ofNat len 0 := by
  rw [BitVec.extractLsb'_and, above, BitVec.and_zero]

theorem ctrlStatus_inSet :
    ctrlStatus (inSet ctrl status nump lpf txLen) = ctrlStatus ctrl ||| status := by
  unfold ctrlStatus inSet usb30InSet
  rw [BitVec.extractLsb'_or, BitVec.extractLsb'_or, BitVec.extractLsb'_or, BitVec.extractLsb'_or,
    extract_placed status (by decide), extract_placed_above nump (by decide) (by decide),
    extract_txLen_above _ (by decide), extract_shiftLeft_below _ (by decide), BitVec.or_zero,
    BitVec.or_zero, BitVec.or_zero]

/-- A number of packets that fits its field is combined with the one in the register. -/
theorem ctrlNump_usb30InSet (enable state length : U32) :
    ctrlNump (usb30InSet ctrl enable state (nump.setWidth 32) length) = ctrlNump ctrl ||| nump := by
  unfold ctrlNump usb30InSet
  rw [BitVec.extractLsb'_or, BitVec.extractLsb'_or, BitVec.extractLsb'_or, BitVec.extractLsb'_or,
    extract_placed nump (by decide), extract_shiftLeft_below state (by decide),
    extract_txLen_above _ (by decide), extract_shiftLeft_below enable (by decide), BitVec.or_zero,
    BitVec.or_zero, BitVec.or_zero]

/-- A number of packets that fits its field leaves the sequence number alone. -/
theorem ctrlSequence_usb30InSet (enable state length : U32) :
    ctrlSequence (usb30InSet ctrl enable state (nump.setWidth 32) length) = ctrlSequence ctrl := by
  unfold ctrlSequence usb30InSet
  rw [BitVec.extractLsb'_or, BitVec.extractLsb'_or, BitVec.extractLsb'_or, BitVec.extractLsb'_or,
    extract_placed_above nump (by decide) (by decide), extract_shiftLeft_below state (by decide),
    extract_txLen_above _ (by decide), extract_shiftLeft_below enable (by decide), BitVec.or_zero,
    BitVec.or_zero, BitVec.or_zero, BitVec.or_zero]

theorem ctrlSequence_inClearInterrupt :
    ctrlSequence (usb30InClearInterrupt ctrl) = ctrlSequence ctrl := by
  have kept : (0x03e00000#32).extractLsb' 21 5 = BitVec.allOnes 5 := by decide
  unfold ctrlSequence usb30InClearInterrupt
  rw [BitVec.extractLsb'_and, kept, BitVec.and_allOnes]

theorem ctrlNump_inSet : ctrlNump (inSet ctrl status nump lpf txLen) = ctrlNump ctrl ||| nump :=
  ctrlNump_usb30InSet ..

theorem ctrlLpf_inSet : ctrlLpf (inSet ctrl status nump lpf txLen) = ctrlLpf ctrl ||| lpf := by
  unfold ctrlLpf inSet usb30InSet
  rw [BitVec.extractLsb'_or, BitVec.extractLsb'_or, BitVec.extractLsb'_or, BitVec.extractLsb'_or,
    extract_placed lpf (by decide), extract_placed_above nump (by decide) (by decide),
    extract_placed_above status (by decide) (by decide), extract_txLen_above _ (by decide),
    BitVec.or_zero, BitVec.or_zero, BitVec.or_zero]

theorem ctrlTxLen_inSet :
    ctrlTxLen (inSet ctrl status nump lpf txLen) = ctrlTxLen ctrl ||| txLen.extractLsb' 0 11 := by
  have low : (0x7ff#32).extractLsb' 0 11 = BitVec.allOnes 11 := by decide
  unfold ctrlTxLen inSet usb30InSet
  rw [BitVec.extractLsb'_or, BitVec.extractLsb'_or, BitVec.extractLsb'_or, BitVec.extractLsb'_or,
    extract_shiftLeft_below (nump.setWidth 32) (by decide),
    extract_shiftLeft_below (status.setWidth 32) (by decide),
    extract_shiftLeft_below (lpf.setWidth 32) (by decide), BitVec.extractLsb'_and, low,
    BitVec.and_allOnes, BitVec.extractLsb'_setWidth_of_le (by decide), BitVec.or_zero,
    BitVec.or_zero, BitVec.or_zero]

/-- The register shows what was asked for; of the length, the low 11 bits. -/
def InTakesEffect : Prop :=
  let after := inSet ctrl status nump lpf txLen
  ctrlStatus after = status ∧ ctrlNump after = nump ∧ ctrlLpf after = lpf ∧
    ctrlTxLen after = txLen.extractLsb' 0 11

/-- The bits that are set in the four fields are among the bits of the new values. -/
def InBitsAmong : Prop :=
  ctrlStatus ctrl ||| status = status ∧ ctrlNump ctrl ||| nump = nump ∧ ctrlLpf ctrl ||| lpf = lpf ∧
    ctrlTxLen ctrl ||| txLen.extractLsb' 0 11 = txLen.extractLsb' 0 11

theorem inTakesEffect_iff :
    InTakesEffect ctrl status nump lpf txLen ↔ InBitsAmong ctrl status nump lpf txLen := by
  simp only [InTakesEffect, ctrlStatus_inSet, ctrlNump_inSet, ctrlLpf_inSet, ctrlTxLen_inSet,
    InBitsAmong]

/-- NRDY without packets has no bit to set. -/
theorem usb30OutSet_nrdy : usb30OutSet ctrl usb30Nrdy 0#32 = ctrl := by
  rw [usb30OutSet, usb30Nrdy, BitVec.zero_shiftLeft, BitVec.zero_shiftLeft, BitVec.or_zero,
    BitVec.or_zero]

theorem usb30InSet_nrdy : usb30InSet ctrl usb30Disable usb30Nrdy 0#32 0#32 = ctrl := by
  rw [usb30InSet, usb30Disable, usb30Nrdy, BitVec.zero_and, BitVec.zero_shiftLeft,
    BitVec.zero_shiftLeft, BitVec.zero_shiftLeft, BitVec.or_zero, BitVec.or_zero, BitVec.or_zero,
    BitVec.or_zero]

end

end EndpointFields

/-! ## The callback of an OUT endpoint -/

namespace Usb30Driver

variable (bsp : Usb2Bsp) (driver : Usb30Driver)

/-- The driver as `rx_callback` finds it. -/
def outNotReady (i : Fin 8) : Usb30Driver :=
  driver.setUepRxCtrl i (usb30OutSet (driver.uepRxCtrl i) usb30Nrdy 0#32)

/-- The driver when `rx_callback` has made its first calls. -/
def inRxCallback (i : Fin 8) (reply : UserReply) (done : Nat) : Usb30Driver :=
  (driver.outNotReady i).invokeUser bsp
    (.rxCallback (usb30EndpNum i) (driver.device.rx (usb30EndpNum i)).buffer (driver.rxTotalLength i))
    { reply with calls := reply.calls.take done }

/-- The end of the handler for a burst that was received. -/
def afterRxCallback30 (i : Fin 8) : Usb30Driver :=
  let endp := driver.device.rx (usb30EndpNum i)
  let driver := driver.outClearInterrupt i
  let driver := { driver with uepRxDma := Function.update driver.uepRxDma i endp.buffer }
  ((driver.setRxBurst i endp.maxBurst).setRxTotalLength i 0).acceptOut i endp.maxBurst

theorem reportOut_eq (i : Fin 8) (reply : UserReply) :
    driver.reportOut bsp i reply =
      (driver.inRxCallback bsp i reply reply.calls.length).afterRxCallback30 i := by
  unfold inRxCallback
  rw [List.take_length]
  rfl

/-- The endpoint is NRDY at every point of `rx_callback`. -/
def NotReadyInCallback (i : Fin 8) (reply : UserReply) : Prop :=
  ∀ done, ctrlStatus ((driver.inRxCallback bsp i reply done).uepRxCtrl i) = 0

theorem notReadyInCallback_iff (i : Fin 8) (reply : UserReply) :
    driver.NotReadyInCallback bsp i reply ↔ ctrlStatus (driver.uepRxCtrl i) = 0 := by
  have found (done : Nat) : (driver.inRxCallback bsp i reply done).uepRxCtrl i =
      driver.uepRxCtrl i :=
    (driver.setUepRxCtrl_self i _).trans (EndpointFields.usb30OutSet_nrdy _)
  constructor
  · intro notReady
    rw [← found 0]
    exact notReady 0
  · intro clear done
    rw [found]
    exact clear

/-! ## The hot reset -/

/-- The driver when the branches before the one for `HOT_RESET_FLAG` have been taken. -/
def beforeHotReset (interrupt : LinkInterrupt) : Usb30Driver :=
  ((driver.whenFlag interrupt.termPresent (linkTermPresent · interrupt.linkPresent)).whenFlag
    interrupt.txeq linkTxeq).whenFlag interrupt.warmReset linkWarmReset

/-- The driver that enters the branch for `HOT_RESET_FLAG`, if the handler comes to it. -/
def atHotReset (interrupt : LinkInterrupt) : Option Usb30Driver :=
  let driver := driver.whenFlag interrupt.ready linkReady
  if interrupt.hotReset = false then
    none
  else if interrupt.disable = false then
    some (driver.beforeHotReset interrupt)
  else if driver.usb2FallbackEnabled then
    some (driver.linkFallback.beforeHotReset interrupt)
  else
    none

theorem linkIrqHandler_of_hotReset {interrupt : LinkInterrupt} {found : Usb30Driver}
    (entered : driver.atHotReset interrupt = some found) :
    driver.linkIrqHandler interrupt = found.linkHotReset := by
  obtain ⟨ready, disable, termPresent, txeq, warmReset, hotReset, linkPresent⟩ := interrupt
  unfold atHotReset at entered
  unfold linkIrqHandler
  dsimp only at entered ⊢
  cases hotReset with
  | false =>
      rw [if_pos rfl] at entered
      exact nomatch entered
  | true =>
      rw [if_neg (Bool.noConfusion : ¬true = false)] at entered
      cases disable with
      | false =>
          rw [if_pos rfl] at entered
          obtain rfl := Option.some.inj entered
          rfl
      | true =>
          rw [if_neg (Bool.noConfusion : ¬true = false)] at entered
          rw [if_pos rfl]
          split at entered
          · next fallback =>
              obtain rfl := Option.some.inj entered
              rw [if_pos fallback]
              rfl
          · exact nomatch entered

/-- Every enabled endpoint but 0 is NRDY and has no packets announced. -/
def EndpointsNotReady : Prop :=
  ∀ i ≠ 0,
    (EnabledIn driver.device.endpointMask .tx (usb30EndpNum i) →
      ctrlStatus (driver.usb30.uepTxCtrl i) = 0 ∧ ctrlNump (driver.usb30.uepTxCtrl i) = 0) ∧
    (EnabledIn driver.device.endpointMask .rx (usb30EndpNum i) →
      ctrlStatus (driver.uepRxCtrl i) = 0 ∧ ctrlNump (driver.uepRxCtrl i) = 0)

theorem notReady_eq (i : Fin 8) : driver.notReady i = driver := by
  have tx : driver.setUepTxCtrl i
      (usb30InSet (driver.usb30.uepTxCtrl i) usb30Disable usb30Nrdy 0#32 0#32) = driver := by
    rw [EndpointFields.usb30InSet_nrdy, setUepTxCtrl, Function.update_eq_self]
  have rx : driver.setUepRxCtrl i (usb30OutSet (driver.uepRxCtrl i) usb30Nrdy 0#32) = driver := by
    rw [EndpointFields.usb30OutSet_nrdy, setUepRxCtrl, Function.update_eq_self]
  unfold notReady
  dsimp only
  rw [tx, ite_self, rx, ite_self]

/-- The block for each endpoint leaves it as it was. -/
theorem foldl_notReady (endpoints : List (Fin 8)) : endpoints.foldl notReady driver = driver := by
  induction endpoints with
  | nil => rfl
  | cons i rest ih => rw [List.foldl_cons, notReady_eq, ih]

theorem endpointsNotReady_linkHotReset :
    driver.linkHotReset.EndpointsNotReady ↔ driver.EndpointsNotReady := by
  have others {i : Fin 8} (notControl : i ≠ 0) :
      driver.linkHotReset.usb30.uepTxCtrl i = driver.usb30.uepTxCtrl i := by
    unfold linkHotReset
    dsimp only
    rw [foldl_notReady]
    exact Function.update_of_ne notControl ..
  have received : driver.linkHotReset.uepRxCtrl = driver.uepRxCtrl := by
    unfold linkHotReset
    dsimp only
    rw [foldl_notReady]
    rfl
  have mask : driver.linkHotReset.device.endpointMask = driver.device.endpointMask := by
    unfold linkHotReset
    dsimp only
    rw [foldl_notReady]
    rfl
  unfold EndpointsNotReady
  rw [received, mask]
  refine forall_congr' fun i => forall_congr' fun notControl => ?_
  rw [others notControl]

end Usb30Driver

namespace EndpointFields

open Usb30Driver

variable (bsp : Usb2Bsp)

/-! ## Runs -/

/-- The endpoint is NRDY during `rx_callback`, and all endpoints after a hot reset. -/
def Settles (driver : Usb30Driver) : Usb30Event → Prop
  | .epOut i _ ctrl reply =>
      ((driver.setUepRxCtrl i ctrl).countOut i).NotReadyInCallback bsp i reply
  | .link interrupt =>
      driver.atHotReset interrupt ≠ none →
        (Usb30Event.step bsp driver (.link interrupt)).EndpointsNotReady
  | _ => True

/-- The fields that are to be cleared are clear before. -/
def FoundClear (driver : Usb30Driver) : Usb30Event → Prop
  | .epOut _ _ ctrl _ => ctrlStatus ctrl = 0
  | .link interrupt => ∀ found ∈ driver.atHotReset interrupt, found.EndpointsNotReady
  | _ => True

theorem settles_iff (driver : Usb30Driver) (event : Usb30Event) :
    Settles bsp driver event ↔ FoundClear driver event := by
  cases event with
  | epOut i notControl ctrl reply =>
      have reading : ((driver.setUepRxCtrl i ctrl).countOut i).uepRxCtrl i = ctrl :=
        driver.setUepRxCtrl_self i ctrl
      refine (notReadyInCallback_iff bsp _ i reply).trans ?_
      rw [reading]
      rfl
  | link interrupt =>
      have handled (found : Usb30Driver) (entered : driver.atHotReset interrupt = some found) :
          (Usb30Event.step bsp driver (.link interrupt)).EndpointsNotReady ↔
            found.EndpointsNotReady := by
        change (driver.linkIrqHandler interrupt).EndpointsNotReady ↔ _
        rw [driver.linkIrqHandler_of_hotReset entered]
        exact found.endpointsNotReady_linkHotReset
      constructor
      · intro settles found entered
        exact (handled found entered).mp (settles (Option.ne_none_iff_exists'.mpr ⟨found, entered⟩))
      · intro clear reached
        obtain ⟨found, entered⟩ := Option.ne_none_iff_exists'.mp reached
        exact (handled found entered).mpr (clear found entered)
  | setup packet reply => exact Iff.rfl
  | ep0In => exact Iff.rfl
  | ep0Status => exact Iff.rfl
  | ep0Out => exact Iff.rfl
  | epIn i notControl ctrl reply => exact Iff.rfl
  | call apiCall => exact Iff.rfl

/-- A setting takes effect exactly if the bits it finds in its fields are among those it sets.  In
every run, an endpoint is NRDY during `rx_callback` and after a hot reset exactly if it already
was before. -/
theorem settings_take_effect_iff :
    (∀ ctrl status nump, OutTakesEffect ctrl status nump ↔ OutBitsAmong ctrl status nump) ∧
      (∀ ctrl status nump lpf txLen,
        InTakesEffect ctrl status nump lpf txLen ↔ InBitsAmong ctrl status nump lpf txLen) ∧
      ∀ driver events,
        EveryStep (OutBursts.take bsp) (Settles bsp) driver events ↔
          EveryStep (OutBursts.take bsp) FoundClear driver events := by
  refine ⟨outTakesEffect_iff, inTakesEffect_iff, fun driver events => ?_⟩
  have every : EveryStep (OutBursts.take bsp) (fun _ _ => True) driver events :=
    everyStep_of_forall (fun _ _ _ => trivial) driver
  exact @everyStep_iff _ _ (OutBursts.take bsp) (fun _ => True) (fun _ _ => True) (Settles bsp)
    FoundClear (fun driver event _ _ => settles_iff bsp driver event)
    (fun _ _ _ _ _ _ _ => trivial) driver events trivial every

/-! ## Bits that stay -/

def hotReset : LinkInterrupt where
  ready := false
  disable := false
  termPresent := false
  txeq := false
  warmReset := false
  hotReset := true
  linkPresent := true

open OutBursts in
/-- ACK and four packets stay when NRDY and none are set, after a burst and in a hot reset; a full
packet's length stays when a shorter one is armed. -/
theorem settings_add_bits :
    ¬OutTakesEffect 0x04040000#32 0#2 0#5 ∧ ¬InTakesEffect 0x14010400#32 1#2 1#5 1#1 100#16 ∧
      ¬EveryStep (take bulkOutBsp) (Settles bulkOutBsp) bulkOutStart
        [.epOut 1 (by decide) 0x04000400#32 noReply] ∧
      ¬EveryStep (take bulkOutBsp) (Settles bulkOutBsp) bulkOutStart [.link hotReset] := by
  refine ⟨fun effect => absurd effect.1 (by decide), fun effect => absurd effect.2.2.2 (by decide),
    fun settles => absurd (settles.1 0) (by decide), fun settles => ?_⟩
  have notReady : bulkOutStart.EndpointsNotReady :=
    (settles_iff bulkOutBsp bulkOutStart (.link hotReset)).mp settles.1 bulkOutStart rfl
  exact absurd ((notReady 1 (by decide)).2 (by decide)).1 (by decide)

end EndpointFields

end WchCh56x.Usb
