import WchCh56x.Usb.ControlInSetup

/-!
# The status stage of a control-IN transfer

The host starts it when it has what it asked for or has got a short packet.  The
driver expects one more packet after every full one.
-/

namespace WchCh56x.Usb.StatusStage

open Usb2Driver NewSetup ControlIn Support.Packets

variable (bsp : Usb2Bsp)

/-- With this packet the host has `wLength` bytes, or a packet that is not full. -/
def HostDone (start : Usb2Driver) (wLength last : Nat) : Prop :=
  wLength ≤ start.received bsp (last + 1) ∨
    (start.afterIn bsp last).tLen 0 < start.usb2Endp0MaxPacketSize

instance (start : Usb2Driver) (wLength last : Nat) : Decidable (HostDone bsp start wLength last) :=
  inferInstanceAs (Decidable (_ ∨ _))

/-- The endpoint is ready for the status stage when the host has taken its last packet. -/
def ReadyInTime (driver : Usb2Driver) (packet : UsbSetup) (reply : UserReply) : Prop :=
  let start := Usb2Event.step bsp driver (.setup packet reply)
  ∀ last, start.Takes bsp (last + 1) → HostDone bsp start packet.wLength.toNat last →
    (∀ earlier < last, ¬HostDone bsp start packet.wLength.toNat earlier) →
      (start.afterIn bsp (last + 1)).StatusReady bsp

/-- The full packets of an answer do not make up `wLength`, and no full packet of an earlier
answer is left where the request has none of its own. -/
def LastPacketNeeded (driver : Usb2Driver) (reply : UserReply) : Prop :=
  match driver.requestData reply with
  | some data =>
      data.2 / driver.usb2Endp0MaxPacketSize * driver.usb2Endp0MaxPacketSize <
        driver.usbSetupReq.wLength.toNat
  | none => driver.bytesLeft reply < driver.usb2Endp0MaxPacketSize

instance (driver : Usb2Driver) (reply : UserReply) : Decidable (LastPacketNeeded driver reply) := by
  unfold LastPacketNeeded
  cases driver.requestData reply with
  | some data => exact inferInstance
  | none => exact inferInstance

section

variable {bsp} {start : Usb2Driver} (started : start.Started bsp)
  (positive : 0 < start.usb2Endp0MaxPacketSize) {wLength : Nat}
include started positive

theorem not_statusReady {completions : Nat}
    (within : completions ≤ start.endp0RemainingBytes / start.usb2Endp0MaxPacketSize) :
    ¬(start.afterIn bsp completions).StatusReady bsp := by
  intro ready
  have acks := (started.sending_afterIn bsp positive within).acks
  rw [ready.1] at acks
  exact absurd acks (by decide)

/-- An answer ends in time if its full packets are not all the host wants. -/
theorem ready_of_data (wants : 0 < wLength)
    (whole : start.tLen 0 = min start.endp0RemainingBytes start.usb2Endp0MaxPacketSize) :
    (∀ last, start.Takes bsp (last + 1) → HostDone bsp start wLength last →
      (∀ earlier < last, ¬HostDone bsp start wLength earlier) →
        (start.afterIn bsp (last + 1)).StatusReady bsp) ↔
      start.endp0RemainingBytes / start.usb2Endp0MaxPacketSize * start.usb2Endp0MaxPacketSize <
        wLength := by
  have isFull {index : Nat}
      (within : index < start.endp0RemainingBytes / start.usb2Endp0MaxPacketSize) :
      (start.afterIn bsp index).tLen 0 = start.usb2Endp0MaxPacketSize ∧
        start.received bsp (index + 1) = (index + 1) * start.usb2Endp0MaxPacketSize := by
    have fits := (Nat.le_div_iff_mul_le positive).mp within
    constructor
    · rw [started.packetLength_afterIn bsp positive whole within.le, packetLength]
      rw [Nat.succ_mul] at fits
      omega
    · rw [started.received_eq bsp positive whole within.le]
      exact Nat.min_eq_right fits
  constructor
  · intro inTime
    apply Nat.lt_of_not_le
    intro filled
    obtain ⟨fulls, isSucc⟩ : ∃ fulls,
        start.endp0RemainingBytes / start.usb2Endp0MaxPacketSize = fulls + 1 := by
      refine Nat.exists_eq_succ_of_ne_zero fun none => ?_
      rw [none, Nat.zero_mul] at filled
      exact absurd wants (Nat.not_lt.mpr filled)
    rw [isSucc] at filled
    -- the packet that brings the host's last byte is a full one
    have isLast : ∃ last, wLength ≤ (last + 1) * start.usb2Endp0MaxPacketSize := ⟨fulls, filled⟩
    have within : Nat.find isLast < start.endp0RemainingBytes / start.usb2Endp0MaxPacketSize := by
      rw [isSucc]
      exact Nat.lt_succ_of_le (Nat.find_min' isLast filled)
    refine not_statusReady started positive within (inTime (Nat.find isLast) ?_ ?_ ?_)
    · exact (started.takes_iff bsp positive).mpr (by omega)
    · left
      rw [(isFull within).2]
      exact Nat.find_spec isLast
    · intro earlier before done
      obtain ⟨length, sum⟩ := isFull (before.trans within)
      rcases done with enough | short
      · rw [sum] at enough
        exact Nat.find_min isLast before enough
      · exact absurd length short.ne
  · intro needed last takes done _
    have within := (started.takes_iff bsp positive).mp takes
    have isLast : last = start.endp0RemainingBytes / start.usb2Endp0MaxPacketSize := by
      apply le_antisymm (Nat.le_of_succ_le_succ within)
      apply Nat.le_of_not_lt
      intro more
      obtain ⟨length, sum⟩ := isFull more
      have inside := Nat.mul_le_mul_right start.usb2Endp0MaxPacketSize more
      rcases done with enough | short
      · rw [sum] at enough
        exact absurd (enough.trans inside) (Nat.not_le.mpr needed)
      · exact absurd length short.ne
    rw [isLast]
    exact started.statusReady_afterIn bsp positive

/-- A transfer without data is over after its empty packet. -/
theorem ready_of_noData (empty : start.tLen 0 = 0) :
    (∀ last, start.Takes bsp (last + 1) → HostDone bsp start wLength last →
      (∀ earlier < last, ¬HostDone bsp start wLength earlier) →
        (start.afterIn bsp (last + 1)).StatusReady bsp) ↔
      start.endp0RemainingBytes < start.usb2Endp0MaxPacketSize := by
  have done : HostDone bsp start wLength 0 := .inr (empty.trans_lt positive)
  constructor
  · intro inTime
    apply Nat.lt_of_not_le
    intro more
    have within : 1 ≤ start.endp0RemainingBytes / start.usb2Endp0MaxPacketSize :=
      (Nat.one_le_div_iff positive).mpr more
    refine not_statusReady started positive within (inTime 0 ?_ done ?_)
    · exact (started.takes_iff bsp positive).mpr (by omega)
    · intro earlier before
      exact absurd before (Nat.not_lt_zero earlier)
  · intro short last takes _ _
    have within := (started.takes_iff bsp positive).mp takes
    have one := started.statusReady_afterIn bsp positive
    rw [Nat.div_eq_of_lt short] at within one
    obtain rfl : last = 0 := by omega
    exact one

end

/-- The host finds the status stage ready exactly where the data stage does not end with a full
packet that it takes for the last one. -/
theorem status_stage_ready_iff (bsp : Usb2Bsp) (driver : Usb2Driver) (packet : UsbSetup)
    (reply : UserReply) (running : driver.device.state ≠ .powered)
    (noPassthrough : driver.ep0PassthroughEnabled = false) (isIn : packet.IsIn)
    (positive : 0 < driver.usb2Endp0MaxPacketSize) (wants : 0 < packet.wLength.toNat) :
    ReadyInTime bsp driver packet reply ↔
      ((driver.setupRead packet).Stalls reply ∨
        LastPacketNeeded (driver.setupRead packet) reply) := by
  by_cases stalls : (driver.setupRead packet).Stalls reply
  · have stalled := setup_stalls bsp reply running noPassthrough isIn stalls
    refine iff_of_true (fun last takes _ _ => ?_) (.inl stalls)
    have acks := takes 0 (Nat.succ_pos last)
    exact absurd (stalled.symm.trans acks) (by decide)
  obtain ⟨started, first, left⟩ := setup_started bsp reply running noPassthrough isIn stalls
  have size : (Usb2Event.step bsp driver (.setup packet reply)).usb2Endp0MaxPacketSize =
      driver.usb2Endp0MaxPacketSize :=
    congrArg Config.usb2Endp0MaxPacketSize (config_step bsp driver (.setup packet reply))
  have startPositive := positive.trans_eq size.symm
  rw [or_iff_right stalls]
  unfold firstLength at first
  unfold bytesLeft at left
  unfold LastPacketNeeded
  cases found : (driver.setupRead packet).requestData reply with
  | some data =>
      rw [found] at first left
      have ready := ready_of_data started startPositive wants (by rw [first, left, size]; rfl)
      rw [left, size] at ready
      exact ready
  | none =>
      rw [found] at first left
      have ready := @ready_of_noData bsp _ started startPositive packet.wLength.toNat first
      rw [left, size] at ready
      unfold bytesLeft
      rw [found]
      exact ready

/-! ## The first request of a low-speed device -/

/-- With 64 bytes asked for, the descriptor ends with a packet of two bytes. -/
theorem descriptor_ends_in_time :
    ReadyInTime bsp0 lowSpeedDriver (getDeviceDescriptor 64#16) noReply :=
  (status_stage_ready_iff bsp0 lowSpeedDriver (getDeviceDescriptor 64#16) noReply (by decide) rfl
    (by decide) (by decide) (by decide)).mpr (.inr (by decide))

/-- A host that asks for the first 8 bytes has them in one packet, after which an empty one is
armed. -/
theorem empty_packet_delays_status :
    ¬∀ driver packet reply, driver.Reachable bsp0 lowSpeed lowSpeedDescr →
      driver.device.state ≠ .powered → driver.ep0PassthroughEnabled = false → packet.IsIn →
        0 < driver.usb2Endp0MaxPacketSize → 0 < packet.wLength.toNat →
          ReadyInTime bsp0 driver packet reply := by
  intro inTime
  have ready := inTime lowSpeedDriver (getDeviceDescriptor 8#16) noReply ⟨_, rfl⟩ (by decide) rfl
    (by decide) (by decide) (by decide) 0 (by decide) (by decide)
    fun earlier before => absurd before (Nat.not_lt_zero earlier)
  exact absurd ready (by decide)

end WchCh56x.Usb.StatusStage
