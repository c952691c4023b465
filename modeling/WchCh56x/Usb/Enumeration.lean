import WchCh56x.Usb.ControlInData
import WchCh56x.Usb.HostSession

/-!
# The device serves the host

Between a SETUP packet and the status stage the driver is as far as the tokens that
the host has sent.  Traffic of other endpoints changes nothing about it, and a new
request takes the place of one that the host gives up.
-/

namespace WchCh56x.Usb

open Usb2Driver Support.Packets Support.Runs

variable (bsp : Usb2Bsp) (device : UsbDevice) (memory : Nat → U8)

/-! ## What stays -/

/-- What an attached device keeps, whatever the host asks for. -/
structure Usb2Driver.Attached (driver : Usb2Driver) : Prop where
  config : driver.config =
    { (Usb2Driver.initial device memory).config with
      usb2Endp0MaxPacketSize := device.endp0PacketSize memory }
  running : driver.device.state ≠ .powered
  readsWhereWritten : driver.ReadsWhereWritten
  kept : ∀ address, address < (device.rx 0).buffer ∨
    (device.rx 0).buffer + max 8 (device.endp0PacketSize memory) ≤ address →
      driver.memory address = memory address

namespace Usb2Driver.Attached

variable {device memory} {driver next : Usb2Driver}

section

variable (attached : driver.Attached device memory)
include attached

theorem size : driver.usb2Endp0MaxPacketSize = device.endp0PacketSize memory :=
  congrArg Config.usb2Endp0MaxPacketSize attached.config

theorem buffer : driver.endp0Buffer = (device.rx 0).buffer :=
  congrArg (fun config : Config => config.rxBuffer 0) attached.config

theorem noPassthrough : driver.ep0PassthroughEnabled = false :=
  congrArg Config.ep0PassthroughEnabled attached.config

theorem descriptors : driver.device.usbDescriptors = device.usbDescriptors :=
  congrArg Config.usbDescriptors attached.config

theorem of_step (running : next.device.state ≠ .powered)
    (readsWhereWritten : next.ReadsWhereWritten)
    (inside : WritesInside (max 8 (device.endp0PacketSize memory)) driver next) :
    next.Attached device memory where
  config := inside.config.trans attached.config
  running := running
  readsWhereWritten := readsWhereWritten
  kept address outside := by
    have same := inside.kept address
    rw [attached.buffer] at same
    exact (same outside).trans (attached.kept address outside)

theorem of_control (same : next.control = driver.control) : next.Attached device memory where
  config := (congrArg (fun view : ControlView => view.endp0.config) same).trans attached.config
  running := by
    have state : next.device.state = driver.device.state :=
      congrArg (fun view : ControlView => view.endp0.state) same
    rw [state]
    exact attached.running
  readsWhereWritten := by
    have rtDma : next.dma .uep0Rt = driver.dma .uep0Rt :=
      congrArg (fun view : ControlView => view.endp0.rtDma) same
    have buffer : next.endp0Buffer = driver.endp0Buffer :=
      congrArg (fun view : ControlView => view.endp0.config.rxBuffer 0) same
    exact (rtDma.trans attached.readsWhereWritten).trans buffer.symm
  kept address outside := by
    have memory : next.memory = driver.memory := congrArg ControlView.memory same
    rw [memory]
    exact attached.kept address outside

theorem writesInside (event : Usb2Event) (leaves : ∀ apiCall ∈ event.calls, apiCall.endpNum ≠ 0) :
    WritesInside (max 8 (device.endp0PacketSize memory)) driver (event.step bsp driver) := by
  refine driver.writesInside_step bsp (le_max_left ..) ?_ fun apiCall member isControl => ?_
  · rw [attached.size]
    exact le_max_right ..
  · exact absurd isControl (leaves apiCall member)

/-- A SETUP packet, whatever it asks for. -/
theorem setup (packet : UsbSetup) {reply : UserReply} (leaves : reply.LeavesEndp0) :
    (Usb2Event.step bsp driver (.setup packet reply)).Attached device memory := by
  refine attached.of_step (running_step bsp attached.running _) ?_
    (attached.writesInside bsp (.setup packet reply) leaves)
  have pointer := @rtDma_usb2Ep0SetupStageHandler bsp (driver.setupRead packet) reply
  have config := config_step bsp driver (.setup packet reply)
  have buffer : (Usb2Event.step bsp driver (.setup packet reply)).endp0Buffer =
      driver.endp0Buffer := congrArg (fun config : Config => config.rxBuffer 0) config
  unfold ReadsWhereWritten
  rw [buffer, step_setup_of_noPassthrough bsp attached.running attached.noPassthrough]
  refine pointer.trans ?_
  split
  · rfl
  · exact attached.readsWhereWritten

theorem endp0In : (Usb2Event.endp0In.step bsp driver).Attached device memory := by
  refine attached.of_step (running_step bsp attached.running _) ?_
    (attached.writesInside bsp _ fun _ member => absurd member List.not_mem_nil)
  have pointer := @rtDma_usb2Ep0InHandler bsp driver.transferPending
  have config := config_step bsp driver Usb2Event.endp0In
  have buffer : (Usb2Event.endp0In.step bsp driver).endp0Buffer = driver.endp0Buffer :=
    congrArg (fun config : Config => config.rxBuffer 0) config
  have control : ¬((0 : Fin 16) ≠ 0 ∨ driver.ep0PassthroughEnabled = true) := by
    rw [attached.noPassthrough]
    decide
  unfold ReadsWhereWritten
  rw [buffer, Usb2Event.endp0In, step_inDone bsp attached.running, if_neg control]
  exact pointer.trans attached.readsWhereWritten

/-- The status stage of a control-IN transfer. -/
theorem endp0Out (isIn : driver.usbSetupReq.IsIn) :
    (Usb2Event.endp0Out.step bsp driver).Attached device memory := by
  refine attached.of_step (running_step bsp attached.running _) ?_
    (attached.writesInside bsp _ fun _ member => absurd member List.not_mem_nil)
  have pointer := @rtDma_usb2Ep0OutHandler bsp driver.transferPending 0 noReply
  have config := config_step bsp driver Usb2Event.endp0Out
  have buffer : (Usb2Event.endp0Out.step bsp driver).endp0Buffer = driver.endp0Buffer :=
    congrArg (fun config : Config => config.rxBuffer 0) config
  have control : ¬((0 : Fin 16) ≠ 0 ∨ driver.ep0PassthroughEnabled = true) := by
    rw [attached.noPassthrough]
    decide
  have read : driver.transferPending.usbSetupReq.IsIn := isIn
  rw [if_pos read] at pointer
  unfold ReadsWhereWritten
  rw [buffer, Usb2Event.endp0Out, step_outDone bsp attached.running, if_neg control]
  exact pointer.trans attached.readsWhereWritten

end

/-- A bus reset, from any state. -/
theorem busReset (config : driver.config =
      { (Usb2Driver.initial device memory).config with
        usb2Endp0MaxPacketSize := device.endp0PacketSize memory })
    (kept : ∀ address, address < (device.rx 0).buffer ∨
      (device.rx 0).buffer + max 8 (device.endp0PacketSize memory) ≤ address →
        driver.memory address = memory address)
    {reply : UserReply} (leaves : reply.LeavesEndp0) :
    (Usb2Event.step bsp driver (.busReset reply)).Attached device memory := by
  have stepConfig := config_step bsp driver (.busReset reply)
  have size : driver.usb2Endp0MaxPacketSize = device.endp0PacketSize memory :=
    congrArg Config.usb2Endp0MaxPacketSize config
  have buffer : driver.endp0Buffer = (device.rx 0).buffer :=
    congrArg (fun config : Config => config.rxBuffer 0) config
  have inside : WritesInside (max 8 (device.endp0PacketSize memory)) driver
      (Usb2Event.step bsp driver (.busReset reply)) := by
    refine driver.writesInside_step bsp (le_max_left ..) ?_ fun apiCall member isControl => ?_
    · rw [size]
      exact le_max_right ..
    · exact absurd isControl (leaves apiCall member)
  refine ⟨stepConfig.trans config, ?_, ?_, fun address outside => ?_⟩
  · have chart := chart_step bsp driver (.busReset reply)
    have state : (Usb2Event.step bsp driver (.busReset reply)).device.state = .default :=
      congrArg Chart.state chart
    rw [state]
    exact UsbDeviceState.noConfusion
  · have sameBuffer : (Usb2Event.step bsp driver (.busReset reply)).endp0Buffer =
        driver.endp0Buffer := congrArg (fun config : Config => config.rxBuffer 0) stepConfig
    unfold ReadsWhereWritten
    rw [sameBuffer, step_busReset]
    exact rtDma_busReset bsp reply
  · have same := inside.kept address
    rw [buffer] at same
    exact (same outside).trans (kept address outside)

theorem busReset_next (attached : driver.Attached device memory) {reply : UserReply}
    (leaves : reply.LeavesEndp0) :
    (Usb2Event.step bsp driver (.busReset reply)).Attached device memory :=
  busReset bsp attached.config attached.kept leaves

end Usb2Driver.Attached

/-! ## The data stage -/

/-- A request finds its answer in the same place if the length in the header is the same. -/
theorem Usb2Driver.requestData_of_same {driver other : Usb2Driver} {reply : UserReply}
    {data : Nat × Nat} (request : other.usbSetupReq = driver.usbSetupReq)
    (descriptors : other.device.usbDescriptors = driver.device.usbDescriptors)
    (found : driver.requestData reply = some data)
    (inTable : driver.usbSetupReq.wValue.bb0 = usbDescrTypConfig →
      driver.device.usbDescriptors.usb2DeviceConfigDescrs.isSome)
    (header : ∀ offset < 4, other.memory (data.1 + offset) = driver.memory (data.1 + offset)) :
    other.requestData reply = some data := by
  unfold requestData at found ⊢
  rw [request]
  split at found
  · next standard =>
      rw [if_pos standard]
      split at found
      · next isGet =>
          rw [if_pos isGet]
          unfold descriptorData at found ⊢
          dsimp only at found ⊢
          rw [request, descriptors]
          split at found
          · next isDevice =>
              rw [if_pos isDevice]
              split at found
              · next present =>
                  obtain rfl := Option.some.inj found
                  have length := header 0 (by decide)
                  rw [Nat.add_zero] at length
                  rw [if_pos present, length]
              · cases found
          · next notDevice =>
              rw [if_neg notDevice]
              split at found
              · next isConfig =>
                  rw [if_pos isConfig, UsbDeviceDescriptors.usb2ConfigDescr_of_isSome
                    (inTable isConfig) driver.memory other.memory]
                  split at found
                  · next present =>
                      obtain rfl := Option.some.inj found
                      have length : readU16 other.memory
                          (driver.device.usbDescriptors.usb2ConfigDescr driver.memory + 2) =
                            readU16 driver.memory
                              (driver.device.usbDescriptors.usb2ConfigDescr driver.memory + 2) := by
                        unfold readU16
                        rw [header 2 (by decide), Nat.add_assoc, header 3 (by decide)]
                      rw [if_pos present, length]
                  · cases found
              · next notConfig =>
                  rw [if_neg notConfig]
                  split at found
                  · next isString =>
                      obtain ⟨table, isTable, rfl⟩ := Option.map_eq_some_iff.mp found
                      have length := header 0 (by decide)
                      rw [Nat.add_zero] at length
                      rw [if_pos isString, isTable, Option.map_some, length]
                  · cases found
      · cases found
  · next user =>
      rw [if_neg user]
      exact found

structure Usb2Driver.Streams (driver : Usb2Driver) (head total index : Nat) : Prop where
  sending : ∃ setup : Usb2Driver, driver.Sending bsp setup index ∧
    setup.endp0RemainingBytes = total ∧ setup.descHead = head
  within : index ≤ total / driver.usb2Endp0MaxPacketSize
  length : driver.tLen 0 = packetLength driver.usb2Endp0MaxPacketSize total index
  packet : bytesAt driver.memory driver.endp0Buffer (driver.tLen 0) =
    bytesAt memory (head + index * driver.usb2Endp0MaxPacketSize) (driver.tLen 0)

namespace Usb2Driver.Streams

variable {bsp device memory} {driver next : Usb2Driver} {head total index : Nat}

theorem of_control (streams : driver.Streams bsp memory head total index)
    (same : next.control = driver.control) : next.Streams bsp memory head total index := by
  have size : next.usb2Endp0MaxPacketSize = driver.usb2Endp0MaxPacketSize :=
    congrArg (fun view : ControlView => view.endp0.config.usb2Endp0MaxPacketSize) same
  have buffer : next.endp0Buffer = driver.endp0Buffer :=
    congrArg (fun view : ControlView => view.endp0.config.rxBuffer 0) same
  have memory : next.memory = driver.memory := congrArg ControlView.memory same
  have tLen : next.tLen 0 = driver.tLen 0 :=
    congrArg (fun view : ControlView => view.endp0.tLen) same
  have txCtrl : next.txCtrl 0 = driver.txCtrl 0 :=
    congrArg (fun view : ControlView => view.endp0.txCtrl) same
  have request : next.usbSetupReq = driver.usbSetupReq :=
    congrArg (fun view : ControlView => view.endp0.usbSetupReq) same
  have state : next.device.state = driver.device.state :=
    congrArg (fun view : ControlView => view.endp0.state) same
  obtain ⟨setup, sending, all, from_⟩ := streams.sending
  refine ⟨⟨setup, ⟨?_, ?_, ?_, ?_, ?_, ?_, ?_, ?_, ?_⟩, all, from_⟩, ?_, ?_, ?_⟩
  · exact (congrArg (fun view : ControlView => view.endp0.config) same).trans sending.config
  · rw [state]
    exact sending.running
  · rw [request]
    exact sending.isIn
  · exact (congrArg ControlView.endp0CurrentTransferSize same).trans sending.transfer
  · exact (congrArg ControlView.endp0RemainingBytes same).trans sending.left
  · have descHead : next.descHead = driver.descHead := congrArg ControlView.descHead same
    rw [descHead]
    exact sending.head
  · exact (congrArg (fun view : ControlView => view.endp0.rtDma) same).trans sending.rtDma
  · rw [txCtrl]
    exact sending.acks
  · rw [txCtrl]
    exact sending.alternates
  · rw [size]
    exact streams.within
  · rw [tLen, size]
    exact streams.length
  · rw [memory, buffer, tLen, size]
    exact streams.packet

end Usb2Driver.Streams

namespace Usb2Driver.Attached

variable {device memory} {driver : Usb2Driver} (attached : driver.Attached device memory)
include attached

/-- The answer and its header are where the device was given them. -/
theorem answer_kept {asked : Asked} {head total : Nat}
    (sendable : asked.Sendable device memory head total) {offset : Nat}
    (inside : offset < max total 4) : driver.memory (head + offset) = memory (head + offset) := by
  apply attached.kept
  rcases sendable.apart with below | above
  · left
    omega
  · right
    omega

theorem setupRead_kept {asked : Asked} {head total : Nat}
    (sendable : asked.Sendable device memory head total) {offset : Nat}
    (inside : offset < max total 4) :
    (driver.setupRead asked.packet).memory (head + offset) = memory (head + offset) := by
  refine Eq.trans (if_neg fun stored => ?_) (attached.answer_kept sendable inside)
  have length : asked.packet.bytes.length = 8 := rfl
  have apart := sendable.apart
  have buffer := attached.buffer
  unfold Asked.Apart at apart
  rw [length] at stored
  omega

/-- What the SETUP stage of a supported request answers. -/
def answer (positive : 0 < device.endp0PacketSize memory) {asked : Asked}
    (isIn : asked.packet.IsIn) {data : Nat × Nat} (found : asked.source device memory = some data)
    (sendable : asked.Sendable device memory data.1 data.2) : ControlInData.Answer driver where
  packet := asked.packet
  reply := asked.reply
  head := data.1
  total := data.2
  running := attached.running
  noPassthrough := attached.noPassthrough
  isIn := isIn
  positive := attached.size ▸ positive
  loads := @requestData_of_same { Usb2Driver.initial device memory with usbSetupReq := asked.packet }
    (driver.setupRead asked.packet) asked.reply data rfl attached.descriptors found
      sendable.inTable fun _ inside => attached.setupRead_kept sendable (inside.trans_le (le_max_right ..))
  notEmpty := sendable.notEmpty
  notStall := sendable.notStall
  addressable := sendable.addressable

theorem setup_streams (positive : 0 < device.endp0PacketSize memory) {asked : Asked}
    (isIn : asked.packet.IsIn) (leaves : asked.reply.LeavesEndp0) {data : Nat × Nat}
    (found : asked.source device memory = some data)
    (sendable : asked.Sendable device memory data.1 data.2) :
    (Usb2Event.step bsp driver (.setup asked.packet asked.reply)).Streams bsp memory data.1 data.2
      0 := by
  let answer := attached.answer positive isIn found sendable
  obtain ⟨started, first, left⟩ := answer.started bsp
  obtain ⟨head, copied, _⟩ := answer.start_eq bsp
  have size := answer.size_start bsp
  have buffer := answer.buffer_start bsp
  have base {offset : Nat} (inside : offset < data.2) :
      (answer.base bsp).memory (data.1 + offset) = memory (data.1 + offset) := by
    refine Eq.trans ?_ (attached.setupRead_kept sendable (inside.trans_le (le_max_left ..)))
    unfold ControlInData.Answer.base requestBase
    split
    · rfl
    · have kept := (driver.setupRead asked.packet).progress_invoke bsp
        (.endp0UserHandledControlRequest asked.packet true) leaves
      exact congrFun (congrArg (fun progress => progress.2.2.2) kept) _
  refine ⟨⟨_, started.sending, left, head⟩, Nat.zero_le _, ?_, ?_⟩
  · change (answer.start bsp).tLen 0 =
      packetLength (answer.start bsp).usb2Endp0MaxPacketSize data.2 0
    rw [packetLength, Nat.zero_mul, Nat.sub_zero, size, Nat.min_comm]
    exact first
  · change bytesAt (answer.start bsp).memory (answer.start bsp).endp0Buffer
        ((answer.start bsp).tLen 0) = bytesAt memory (data.1 + 0 * _) ((answer.start bsp).tLen 0)
    rw [copied, buffer, first, bytesAt_memcpyBytes, Nat.zero_mul, Nat.add_zero]
    exact bytesAt_congr fun offset inside => base (inside.trans_le (Nat.min_le_left ..))

omit attached

/-- The packet is the next part of the answer. -/
theorem append_packet (attached : driver.Attached device memory)
    (positive : 0 < device.endp0PacketSize memory) {head total index : Nat}
    (streams : driver.Streams bsp memory head total index) :
    (bytesAt memory head total).take (index * device.endp0PacketSize memory) ++
        bytesAt driver.memory (driver.dma .uep0Rt) (driver.tLen 0) =
      (bytesAt memory head total).take
        (min total ((index + 1) * device.endp0PacketSize memory)) := by
  have within := streams.within
  have length := streams.length
  have packet := streams.packet
  rw [attached.size] at within length packet
  have fits := (Nat.le_div_iff_mul_le positive).mp within
  have all : index * device.endp0PacketSize memory + driver.tLen 0 =
      min total ((index + 1) * device.endp0PacketSize memory) := by
    rw [length, packetLength, Nat.succ_mul]
    omega
  rw [attached.readsWhereWritten, packet, ← all]
  exact take_append_bytesAt (all.trans_le (Nat.min_le_left ..))

/-- A packet that is not the last one is followed by the next one. -/
theorem next_streams (attached : driver.Attached device memory)
    (positive : 0 < device.endp0PacketSize memory) {asked : Asked} {head total index : Nat}
    (sendable : asked.Sendable device memory head total)
    (streams : driver.Streams bsp memory head total index)
    (more : index < total / driver.usb2Endp0MaxPacketSize) :
    (Usb2Event.endp0In.step bsp driver).Streams bsp memory head total (index + 1) := by
  obtain ⟨setup, sending, rfl, rfl⟩ := streams.sending
  have size : setup.usb2Endp0MaxPacketSize = driver.usb2Endp0MaxPacketSize :=
    (congrArg Config.usb2Endp0MaxPacketSize sending.config).symm
  have noPassthrough : setup.ep0PassthroughEnabled = false :=
    (congrArg Config.ep0PassthroughEnabled sending.config).symm.trans attached.noPassthrough
  have positiveSize : 0 < setup.usb2Endp0MaxPacketSize := by
    rw [size, attached.size]
    exact positive
  have fits : (index + 1) * setup.usb2Endp0MaxPacketSize ≤ setup.endp0RemainingBytes := by
    rw [← size] at more
    exact (Nat.le_div_iff_mul_le positiveSize).mp more
  have left := sending.left
  have addressable := sendable.addressable
  rw [sending.step_of_full bsp noPassthrough positiveSize fits]
  rw [size] at fits
  have length : (driver.sentFull bsp).tLen 0 = packetLength driver.usb2Endp0MaxPacketSize
      setup.endp0RemainingBytes (index + 1) := by
    rw [tLen_sentFull, packetLength, left, size, Nat.succ_mul, Nat.sub_sub, Nat.min_comm]
  refine ⟨⟨setup, sending.sentFull bsp, rfl, rfl⟩, more, length, ?_⟩
  have next : u32 (driver.descHead + driver.usb2Endp0MaxPacketSize) =
      u32 (setup.descHead + (index + 1) * driver.usb2Endp0MaxPacketSize) := by
    have moved := sending.head
    rw [size] at moved
    rw [Nat.succ_mul]
    unfold u32 at moved ⊢
    omega
  have inAnswer : (driver.sentFull bsp).tLen 0 ≤
      setup.endp0RemainingBytes - (index + 1) * driver.usb2Endp0MaxPacketSize := by
    rw [length]
    exact Nat.min_le_right ..
  have copied : (driver.sentFull bsp).memory = memcpyBytes driver.memory driver.endp0Buffer
      (setup.descHead + (index + 1) * driver.usb2Endp0MaxPacketSize)
        ((driver.sentFull bsp).tLen 0) := by
    rw [← memcpyBytes_u32 driver.memory driver.endp0Buffer _ (by omega), ← next, tLen_sentFull]
    rfl
  rw [copied]
  refine (bytesAt_memcpyBytes _).trans (bytesAt_congr fun offset inside => ?_)
  rw [Nat.add_assoc]
  exact attached.answer_kept sendable (lt_max_of_lt_left (by omega))

/-- The last packet is followed by the status stage. -/
theorem last_streams (attached : driver.Attached device memory)
    (positive : 0 < device.endp0PacketSize memory) {head total : Nat}
    (streams : driver.Streams bsp memory head total (total / driver.usb2Endp0MaxPacketSize)) :
    (Usb2Event.endp0In.step bsp driver).StatusReady bsp := by
  obtain ⟨setup, sending, rfl, rfl⟩ := streams.sending
  have size : setup.usb2Endp0MaxPacketSize = driver.usb2Endp0MaxPacketSize :=
    (congrArg Config.usb2Endp0MaxPacketSize sending.config).symm
  have noPassthrough : setup.ep0PassthroughEnabled = false :=
    (congrArg Config.ep0PassthroughEnabled sending.config).symm.trans attached.noPassthrough
  have positiveSize : 0 < setup.usb2Endp0MaxPacketSize := by
    rw [size, attached.size]
    exact positive
  exact sending.step_of_short bsp noPassthrough positiveSize (by rw [size])

end Usb2Driver.Attached

/-! ## Requests without a data stage -/

/-- SET_CONFIGURATION takes the device where the host takes it to be, unless it deselects. -/
theorem Chart.Follows.afterSetup {chart host : Chart} (follows : chart.Follows host)
    {packet : UsbSetup} (standard : packet.TreatedAsStandard → packet.IsStandard)
    (selects : packet.IsSetConfiguration → packet.wValue.bb1 = 0#8 → host.state ≠ .configured) :
    ((requestMove packet).apply chart).Follows (host.afterSetup packet) := by
  unfold requestMove Chart.afterSetup
  by_cases isSet : packet.IsSetConfiguration
  · rw [if_pos ⟨isSet.1.treatedAsStandard, isSet.2⟩, if_pos isSet, Chart.selects]
    by_cases none : packet.wValue.bb1 = 0#8
    · have idle := selects isSet none
      rw [Move.apply_configure_of_eq _ (not_not.mpr none), if_neg (not_not.mpr none), if_neg idle]
      exact ⟨follows.state, follows.address, fun configured => absurd configured idle⟩
    · rw [Move.apply_configure_of_ne _ none, if_pos none]
      exact ⟨rfl, follows.address, fun _ => rfl⟩
  · rw [if_neg fun both => isSet ⟨standard both.1, both.2⟩, if_neg isSet]
    exact follows

structure Usb2Driver.Confirms (driver : Usb2Driver) (asked : Asked) : Prop where
  request : driver.usbSetupReq = asked.packet
  isOut : ¬asked.packet.IsIn
  armed : driver.txCtrl 0 = (uepResAck ||| bsp.rbUepTog1)
  empty : driver.tLen 0 = 0
  address : asked.packet.bRequest = usbSetAddress →
    driver.device.addr = asked.packet.wValue.bb1 ∧ asked.packet.AssignsAddress

namespace Usb2Driver.Confirms

variable {bsp} {driver next : Usb2Driver} {asked : Asked} (confirms : driver.Confirms bsp asked)
include confirms

theorem of_control (same : next.control = driver.control) : next.Confirms bsp asked where
  request := (congrArg (fun view : ControlView => view.endp0.usbSetupReq) same).trans
    confirms.request
  isOut := confirms.isOut
  armed := (congrArg (fun view : ControlView => view.endp0.txCtrl) same).trans confirms.armed
  empty := (congrArg (fun view : ControlView => view.endp0.tLen) same).trans confirms.empty
  address isAddress := by
    have addr : next.device.addr = driver.device.addr :=
      congrArg (fun view : ControlView => view.view.addr) same
    rw [addr]
    exact confirms.address isAddress

/-- The address is the one that the host has assigned. -/
theorem follows {host : Chart} (follows : driver.chart.Follows host) :
    (driver.statusMove.apply driver.chart).Follows (host.afterStatus asked.packet) := by
  unfold Usb2Driver.statusMove Chart.afterStatus
  rw [confirms.request]
  by_cases isAddress : asked.packet.bRequest = usbSetAddress
  · obtain ⟨addr, isSet, notZero, small⟩ := confirms.address isAddress
    rw [addr, if_pos ⟨confirms.isOut, isAddress, small⟩, if_pos isSet, Chart.assigns,
      if_neg notZero]
    exact ⟨rfl, rfl, UsbDeviceState.noConfusion⟩
  · rw [if_neg fun all => isAddress all.2.1, if_neg fun isSet => isAddress isSet.2]
    exact follows

end Usb2Driver.Confirms

namespace Usb2Driver.Attached

variable {device memory} {driver : Usb2Driver} (attached : driver.Attached device memory)
include attached

theorem setup_confirms {asked : Asked} (isOut : ¬asked.packet.IsIn)
    (noData : asked.packet.wLength = 0#16)
    (address : asked.packet.bRequest = usbSetAddress → asked.packet.AssignsAddress) :
    (Usb2Event.step bsp driver (.setup asked.packet asked.reply)).Confirms bsp asked := by
  obtain ⟨request, addr⟩ := request_step_setup bsp attached.running asked.packet asked.reply
  have handled : ((driver.setupRead asked.packet).usb2Ep0RequestHandler bsp
      asked.reply).2.usbSetupReq = asked.packet :=
    (driver.setupRead asked.packet).request_usb2Ep0RequestHandler bsp asked.reply
  have isStep : Usb2Event.step bsp driver (.setup asked.packet asked.reply) =
      (((((driver.setupRead asked.packet).usb2Ep0RequestHandler bsp asked.reply).2.setTLen 0
        0).setTxCtrl 0 (uepResAck ||| bsp.rbUepTog1)).setRxCtrl 0
          (((driver.setupRead asked.packet).usb2Ep0RequestHandler bsp
            asked.reply).2.rxCtrl 0)).clearFlags := by
    rw [step_setup_of_noPassthrough bsp attached.running attached.noPassthrough]
    unfold usb2Ep0SetupStageHandler
    dsimp only
    rw [handled, if_neg isOut, if_pos noData]
  refine ⟨request, isOut, ?_, ?_, fun isAddress => ⟨?_, address isAddress⟩⟩
  · rw [isStep]
    exact @Function.update_self (Fin 8) (fun _ => U8) _ 0 _
      ((driver.setupRead asked.packet).usb2Ep0RequestHandler bsp asked.reply).2.txCtrl
  · rw [isStep]
    exact @Function.update_self (Fin 8) (fun _ => Nat) _ 0 _
      ((driver.setupRead asked.packet).usb2Ep0RequestHandler bsp asked.reply).2.tLen
  · rw [addr attached.noPassthrough, requestAddr, if_pos ⟨(address isAddress).1.1.treatedAsStandard, isAddress⟩]

/-! ## The chart along a session -/

theorem chart_setup (packet : UsbSetup) (reply : UserReply) :
    (Usb2Event.step bsp driver (.setup packet reply)).chart =
      (requestMove packet).apply driver.chart := by
  have control : ¬(driver.device.state = .powered ∨ driver.ep0PassthroughEnabled = true) := by
    rw [attached.noPassthrough]
    exact not_or.mpr ⟨attached.running, Bool.false_ne_true⟩
  rw [chart_step, move, if_neg control]

theorem chart_endp0In :
    (Usb2Event.endp0In.step bsp driver).chart = driver.statusMove.apply driver.chart := by
  have control : ¬(driver.device.state = .powered ∨ (0 : Fin 16) ≠ 0 ∨
      driver.ep0PassthroughEnabled = true) := by
    rw [attached.noPassthrough]
    exact not_or.mpr ⟨attached.running, by decide⟩
  rw [chart_step, Usb2Event.endp0In, move, if_neg control]

theorem chart_endp0In_of_in (isIn : driver.usbSetupReq.IsIn) :
    (Usb2Event.endp0In.step bsp driver).chart = driver.chart := by
  rw [attached.chart_endp0In, statusMove, if_neg fun all => all.1 isIn]
  rfl

end Usb2Driver.Attached

/-! ## The session -/

/-- What the driver holds for the request under way. -/
def HostPhase.Stage (driver : Usb2Driver) (tokens : Nat) : HostPhase → Prop
  | .idle => True
  | .dataIn asked _ toggle => asked.packet.IsIn ∧ toggle = !tokens.bodd ∧
      ∃ data, asked.source device memory = some data ∧
        asked.Sendable device memory data.1 data.2 ∧
          driver.Streams bsp memory data.1 data.2 tokens
  | .statusOut _ _ => driver.StatusReady bsp ∧ driver.usbSetupReq.IsIn
  | .statusIn asked => driver.Confirms bsp asked

theorem HostPhase.Stage.of_control {bsp} {device memory} {driver next : Usb2Driver} {tokens : Nat}
    {phase : HostPhase} (stage : phase.Stage bsp device memory driver tokens)
    (same : next.control = driver.control) : phase.Stage bsp device memory next tokens := by
  cases phase with
  | idle => trivial
  | dataIn asked received toggle =>
      obtain ⟨isIn, alternates, data, found, sendable, streams⟩ := stage
      exact ⟨isIn, alternates, data, found, sendable, streams.of_control same⟩
  | statusOut asked received =>
      obtain ⟨⟨naks, acks⟩, isIn⟩ := stage
      have request : next.usbSetupReq = driver.usbSetupReq :=
        congrArg (fun view : ControlView => view.endp0.usbSetupReq) same
      have txCtrl : next.txCtrl 0 = driver.txCtrl 0 :=
        congrArg (fun view : ControlView => view.endp0.txCtrl) same
      have rxCtrl : next.rxCtrl 0 = driver.rxCtrl 0 :=
        congrArg (fun view : ControlView => view.endp0.rxCtrl) same
      refine ⟨⟨?_, rxCtrl.trans acks⟩, ?_⟩
      · rw [txCtrl]
        exact naks
      · rw [request]
        exact isIn
  | statusIn asked => exact Usb2Driver.Confirms.of_control stage same

structure HostSession.Attends (session : HostSession) : Prop where
  attached : session.driver.Attached device memory
  serves : session.Serves device memory
  stage : session.host.phase.Stage bsp device memory session.driver session.host.tokens

namespace HostSession.Attends

variable {bsp} {device memory} {session : HostSession}
  (attends : session.Attends bsp device memory)
include attends

theorem background {event : Usb2Event} (beside : event.Beside) :
    ({ session with driver := event.step bsp session.driver } : HostSession).Attends bsp device
      memory := by
  have same := control_step bsp attends.attached.running beside
  have chart : (event.step bsp session.driver).chart = session.driver.chart :=
    congrArg (fun view : ControlView => view.view.chart) same
  exact ⟨attends.attached.of_control same,
    ⟨attends.serves.completed, attends.serves.underway, chart ▸ attends.serves.chart⟩,
    attends.stage.of_control same⟩

theorem reset {reply : UserReply} (leaves : reply.LeavesEndp0) :
    ∃ next, session.step bsp (device.endp0PacketSize memory) (.reset reply) = some next ∧
      next.Attends bsp device memory := by
  refine ⟨_, rfl, attends.attached.busReset_next bsp leaves,
    ⟨attends.serves.completed, trivial, ?_⟩, trivial⟩
  rw [chart_step]
  exact ⟨rfl, rfl, UsbDeviceState.noConfusion⟩

theorem addressed : session.Addressed := attends.serves.chart.address

theorem request {asked : Asked} (positive : 0 < device.endp0PacketSize memory)
    (supported : asked.Supported device memory)
    (selects : asked.packet.IsSetConfiguration → asked.packet.wValue.bb1 = 0#8 →
      session.host.chart.state ≠ .configured) :
    ∃ next, session.step bsp (device.endp0PacketSize memory) (.request asked) = some next ∧
      next.Attends bsp device memory := by
  obtain ⟨leaves, standard, kind⟩ := supported
  have chart : (Usb2Event.step bsp session.driver
      (.setup asked.packet asked.reply)).chart.Follows
        (session.host.chart.afterSetup asked.packet) := by
    rw [attends.attached.chart_setup]
    exact attends.serves.chart.afterSetup standard selects
  have attached := attends.attached.setup bsp asked.packet leaves
  refine ⟨_, if_pos attends.addressed, ?_⟩
  by_cases isIn : asked.packet.IsIn
  · rw [if_pos isIn] at kind
    cases found : asked.source device memory with
    | none =>
        rw [found] at kind
        exact kind.elim
    | some data =>
        rw [found] at kind
        have phase : (session.host.asks asked).phase = .dataIn asked [] true := if_pos isIn
        refine ⟨attached, ⟨attends.serves.completed, ?_, chart⟩, ?_⟩
        · rw [phase]
          refine ⟨?_, ?_⟩
          · change [] = (asked.answer device memory).take (0 * device.endp0PacketSize memory)
            rw [Nat.zero_mul, List.take_zero]
          · rw [Asked.tokensNeeded_of_in isIn found]
            exact Nat.le_add_left ..
        · rw [phase]
          have first : true = !Nat.bodd 0 := by rw [Nat.bodd_zero, Bool.not_false]
          exact ⟨isIn, first, data, found, kind,
            attends.attached.setup_streams bsp positive isIn leaves found kind⟩
  · rw [if_neg isIn] at kind
    have phase : (session.host.asks asked).phase = .statusIn asked := if_neg isIn
    refine ⟨attached, ⟨attends.serves.completed, ?_, chart⟩, ?_⟩
    · rw [phase]
      exact (if_neg isIn).symm
    · rw [phase]
      exact attends.attached.setup_confirms bsp isIn kind.1 kind.2

omit attends in
/-- The host takes the packet that is armed. -/
theorem token_of_streams (attached : session.driver.Attached device memory)
    (positive : 0 < device.endp0PacketSize memory) {asked : Asked} {received : List U8}
    (phase : session.host.phase = .dataIn asked received !session.host.tokens.bodd)
    {head total : Nat} (sendable : asked.Sendable device memory head total)
    (streams : session.driver.Streams bsp memory head total session.host.tokens)
    (soFar : received = (bytesAt memory head total).take
      (session.host.tokens * device.endp0PacketSize memory)) :
    session.token bsp (device.endp0PacketSize memory) =
        some ⟨session.host.counts.takes (device.endp0PacketSize memory) asked received
          session.packet !session.host.tokens.bodd, Usb2Event.endp0In.step bsp session.driver⟩ ∧
      received ++ session.packet = (bytesAt memory head total).take
        (min total ((session.host.tokens + 1) * device.endp0PacketSize memory)) := by
  obtain ⟨setup, sending, _, _⟩ := streams.sending
  have more : received ++ session.packet = _ :=
    soFar ▸ attached.append_packet bsp positive streams
  refine ⟨?_, more⟩
  unfold HostSession.token
  dsimp only [Host.counts]
  rw [phase]
  refine (if_pos sending.acks).trans (if_pos ⟨sending.alternates, ?_, ?_⟩)
  · refine bytesAt_length.trans_le ?_
    rw [streams.length, packetLength, attached.size]
    exact Nat.min_le_left ..
  · have length := congrArg List.length more
    rw [List.length_take, bytesAt_length, Nat.min_eq_left (Nat.min_le_left ..)] at length
    exact length.trans_le ((Nat.min_le_left ..).trans sendable.wanted)

theorem token_dataIn (positive : 0 < device.endp0PacketSize memory) {asked : Asked}
    {received : List U8} {toggle : Bool}
    (phase : session.host.phase = .dataIn asked received toggle) :
    ∃ next, session.token bsp (device.endp0PacketSize memory) = some next ∧
      next.Attends bsp device memory := by
  have attached := attends.attached
  obtain ⟨isIn, rfl, data, found, sendable, streams⟩ :
      HostPhase.Stage bsp device memory session.driver session.host.tokens
        (.dataIn asked received toggle) := phase ▸ attends.stage
  obtain ⟨soFar, _⟩ : HostPhase.Underway device memory session.host.tokens
      (.dataIn asked received _) := phase ▸ attends.serves.underway
  have answer := Asked.answer_of_in isIn found
  rw [answer] at soFar
  obtain ⟨isToken, more⟩ := token_of_streams attached positive phase sendable streams soFar
  obtain ⟨setup, sending, _, _⟩ := streams.sending
  have within := streams.within
  have length : session.packet.length = packetLength (device.endp0PacketSize memory) data.2
      session.host.tokens := by
    rw [← attached.size]
    exact bytesAt_length.trans streams.length
  rw [attached.size] at within
  have chart : (Usb2Event.endp0In.step bsp session.driver).chart.Follows session.host.chart :=
    attached.chart_endp0In_of_in bsp sending.isIn ▸ attends.serves.chart
  have division := Nat.div_add_mod' data.2 (device.endp0PacketSize memory)
  refine ⟨_, isToken, ?_⟩
  rcases within.lt_or_eq with isFull | isLast
  · have full := (Nat.le_div_iff_mul_le positive).mp isFull
    have beforeEnd := Nat.mul_le_mul_right (device.endp0PacketSize memory) isFull
    rw [Nat.min_eq_right full] at more
    have goesOn : (session.host.counts.takes (device.endp0PacketSize memory) asked received
        session.packet !session.host.tokens.bodd).phase =
          .dataIn asked (received ++ session.packet) (!!session.host.tokens.bodd) := by
      refine if_neg (not_or.mpr ⟨?_, ?_⟩)
      · rw [Nat.succ_mul] at full
        rw [length, packetLength]
        omega
      · rw [more, List.length_take, bytesAt_length, Nat.min_eq_left full]
        exact Nat.not_le.mpr (beforeEnd.trans_lt sendable.ends)
    refine ⟨attached.endp0In bsp, ⟨attends.serves.completed, ?_, chart⟩, ?_⟩
    · rw [goesOn]
      refine ⟨more.trans (by rw [answer]; rfl), ?_⟩
      rw [Asked.tokensNeeded_of_in isIn found]
      exact Nat.add_le_add_right isFull 2
    · rw [goesOn]
      refine ⟨isIn, ?_, data, found, sendable,
        attached.next_streams bsp positive sendable streams (by rwa [attached.size])⟩
      exact congrArg not (Nat.bodd_succ session.host.tokens).symm
  · have short := Nat.mod_lt data.2 positive
    have endsHere : (session.host.counts.takes (device.endp0PacketSize memory) asked received
        session.packet !session.host.tokens.bodd).phase =
          .statusOut asked (received ++ session.packet) := by
      refine if_pos (.inl ?_)
      rw [length, packetLength, isLast]
      omega
    have rest := Nat.lt_mul_div_succ data.2 positive
    rw [isLast, Nat.mul_comm _ (device.endp0PacketSize memory), Nat.min_eq_left rest.le] at more
    rw [isLast, ← attached.size] at streams
    refine ⟨attached.endp0In bsp, ⟨attends.serves.completed, ?_, chart⟩, ?_⟩
    · rw [endsHere]
      refine ⟨?_, ?_⟩
      · rw [more, answer]
        exact List.take_of_length_le bytesAt_length.le
      · rw [Asked.tokensNeeded_of_in isIn found]
        exact congrArg (· + 2) isLast
    · rw [endsHere]
      refine ⟨attached.last_streams bsp positive streams, ?_⟩
      have request := @request_step bsp session.driver Usb2Event.endp0In
        fun _ _ => Usb2Event.noConfusion
      rw [request]
      exact sending.isIn

/-- A request that is over joins the others. -/
theorem completed_snoc {done : Completed} (bytes : done.bytes = done.asked.answer device memory)
    (tokens : done.tokens = done.asked.tokensNeeded device memory) :
    ∀ other ∈ session.host.completed ++ [done], other.bytes = other.asked.answer device memory ∧
      other.tokens = other.asked.tokensNeeded device memory := by
  intro other member
  rcases List.mem_append.mp member with before | new
  · exact attends.serves.completed other before
  · obtain rfl := List.mem_singleton.mp new
    exact ⟨bytes, tokens⟩

theorem token_statusOut {packetSize : Nat} {asked : Asked} {received : List U8}
    (phase : session.host.phase = .statusOut asked received) :
    ∃ next, session.token bsp packetSize = some next ∧ next.Attends bsp device memory := by
  have attached := attends.attached
  obtain ⟨⟨_, armed⟩, isIn⟩ : HostPhase.Stage bsp device memory session.driver
      session.host.tokens (.statusOut asked received) := phase ▸ attends.stage
  obtain ⟨isAnswer, tokens⟩ : HostPhase.Underway device memory session.host.tokens
      (.statusOut asked received) := phase ▸ attends.serves.underway
  have acks : response (session.driver.rxCtrl 0) = uepResAck := by
    rw [armed]
    exact response_ackTog1 bsp
  have data1 : toggle bsp (session.driver.rxCtrl 0) = true := by
    rw [armed]
    exact toggle_ackTog1 bsp
  have isToken : session.token bsp packetSize = some
      ⟨session.host.counts.completes asked received session.host.chart,
        Usb2Event.endp0Out.step bsp session.driver⟩ := by
    unfold HostSession.token
    dsimp only [Host.counts]
    rw [phase]
    exact (if_pos acks).trans (if_pos data1)
  refine ⟨_, isToken, attached.endp0Out bsp isIn, ⟨?_, trivial, ?_⟩, trivial⟩
  · exact attends.completed_snoc isAnswer tokens
  · exact chart_step bsp session.driver Usb2Event.endp0Out ▸ attends.serves.chart

theorem token_statusIn {packetSize : Nat} {asked : Asked}
    (phase : session.host.phase = .statusIn asked) :
    ∃ next, session.token bsp packetSize = some next ∧ next.Attends bsp device memory := by
  have attached := attends.attached
  have confirms : session.driver.Confirms bsp asked :=
    (phase ▸ attends.stage : HostPhase.Stage bsp device memory session.driver session.host.tokens
      (.statusIn asked))
  have tokens : HostPhase.Underway device memory session.host.tokens (.statusIn asked) :=
    phase ▸ attends.serves.underway
  have acks : response (session.driver.txCtrl 0) = uepResAck := by
    rw [confirms.armed]
    exact response_ackTog1 bsp
  have data1 : toggle bsp (session.driver.txCtrl 0) = true := by
    rw [confirms.armed]
    exact toggle_ackTog1 bsp
  have isToken : session.token bsp packetSize = some
      ⟨session.host.counts.completes asked [] (session.host.chart.afterStatus asked.packet),
        Usb2Event.endp0In.step bsp session.driver⟩ := by
    unfold HostSession.token
    dsimp only [Host.counts]
    rw [phase]
    exact (if_pos acks).trans (if_pos ⟨data1, confirms.empty⟩)
  refine ⟨_, isToken, attached.endp0In bsp, ⟨?_, trivial, ?_⟩, trivial⟩
  · exact attends.completed_snoc (if_neg confirms.isOut).symm tokens
  · rw [attached.chart_endp0In]
    exact confirms.follows attends.serves.chart

theorem token (positive : 0 < device.endp0PacketSize memory) :
    ∃ next, session.step bsp (device.endp0PacketSize memory) .token = some next ∧
      next.Attends bsp device memory := by
  have isToken : session.step bsp (device.endp0PacketSize memory) .token =
      session.token bsp (device.endp0PacketSize memory) := if_pos attends.addressed
  rw [isToken]
  cases phase : session.host.phase with
  | idle =>
      have waits : session.token bsp (device.endp0PacketSize memory) = some
          { session with host := session.host.counts } := by
        unfold HostSession.token
        dsimp only [Host.counts]
        rw [phase]
      refine ⟨_, waits, attends.attached, ⟨attends.serves.completed, ?_, attends.serves.chart⟩, ?_⟩
      · change session.host.phase.Underway device memory _
        rw [phase]
        trivial
      · change session.host.phase.Stage bsp device memory _ _
        rw [phase]
        trivial
  | dataIn asked received toggle => exact attends.token_dataIn positive phase
  | statusOut asked received => exact attends.token_statusOut phase
  | statusIn asked => exact attends.token_statusIn phase

theorem step (positive : 0 < device.endp0PacketSize memory) (act : HostAct)
    (admissible : act.Admissible device memory session) :
    ∃ next, session.step bsp (device.endp0PacketSize memory) act = some next ∧
      next.Attends bsp device memory := by
  cases act with
  | request asked => exact attends.request positive admissible.1 admissible.2
  | token => exact attends.token positive
  | background event => exact ⟨_, rfl, attends.background admissible⟩
  | reset reply => exact attends.reset admissible

end HostSession.Attends

theorem HostSession.attends_start {reply : UserReply} (leaves : reply.LeavesEndp0) :
    (HostSession.start bsp device memory reply).Attends bsp device memory := by
  have init := Usb2Driver.view_usb2DeviceInit (Usb2Driver.initial device memory)
  have config : (Usb2Driver.initial device memory).usb2DeviceInit.config =
      { (Usb2Driver.initial device memory).config with
        usb2Endp0MaxPacketSize := device.endp0PacketSize memory } :=
    @config_usb2SetupEndpoints _
  have kept : (Usb2Driver.initial device memory).usb2DeviceInit.memory = memory :=
    memory_usb2SetupEndpoints _
  refine ⟨Usb2Driver.Attached.busReset bsp config (fun address _ => congrFun kept address) leaves,
    ⟨?_, trivial, ?_⟩, trivial⟩
  · exact fun done member => absurd member List.not_mem_nil
  · exact chart_step bsp (Usb2Driver.initial device memory).usb2DeviceInit (.busReset reply) ▸
      ⟨rfl, rfl, UsbDeviceState.noConfusion⟩

end WchCh56x.Usb
