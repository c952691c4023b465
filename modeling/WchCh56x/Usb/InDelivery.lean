import WchCh56x.Usb.InPipe
import WchCh56x.Usb.InToggle

/-!
# A bulk IN pipe delivers

The driver flips the toggle once for each acknowledgement and keeps the packet
armed until then.  Hence the host, which flips its own toggle for each packet that
it takes, is at most the packet under way ahead.
-/

namespace WchCh56x.Usb.InPipe

open Support Support.Packets Support.AlternatingBit Support.Runs Usb2Driver

variable (bsp : Usb2Bsp) (config : Config) (endpNum : Fin 16)

/-! ## Calls -/

section

variable {config} {endpNum} {other : Fin 16} {sending : Option Sending} {memory : Nat → U8}
  {ptr size : Nat}

theorem callFits_own : CallFits config other sending (.endpTxSetNewBuffer other ptr size) ↔
    sending.isNone ∧ Sendable config other ptr size := iff_of_eq (if_pos rfl)

theorem callFits_apart (isOther : other ≠ endpNum) :
    CallFits config endpNum sending (.endpTxSetNewBuffer other ptr size) ↔
      usb2EndpointReg other ≠ usb2EndpointReg endpNum := iff_of_eq (if_neg isOther)

theorem callFits_ownState {state : U8} :
    CallFits config other sending (.endpTxSetState other state) ↔
      EndpState state ∧ (state = endpStateAck → sending.isSome) := iff_of_eq (if_pos rfl)

theorem callFits_apartState {state : U8} (isOther : other ≠ endpNum) :
    CallFits config endpNum sending (.endpTxSetState other state) ↔
      usb2EndpointReg other ≠ usb2EndpointReg endpNum := iff_of_eq (if_neg isOther)

theorem note_own : note other memory sending (.endpTxSetNewBuffer other ptr size) =
    some ⟨ptr, size, 0, bytesAt memory ptr size⟩ := if_pos rfl

theorem note_apart (isOther : other ≠ endpNum) :
    note endpNum memory sending (.endpTxSetNewBuffer other ptr size) = sending := if_neg isOther

/-- Only what the buffer holds matters. -/
theorem note_congr {first second : Nat → U8} {apiCall : ApiCall}
    (same : ∀ ptr size, ApartFromEndp0 config ptr size →
      bytesAt first ptr size = bytesAt second ptr size)
    (fits : CallFits config endpNum sending apiCall) :
    note endpNum first sending apiCall = note endpNum second sending apiCall := by
  cases apiCall with
  | endpTxSetNewBuffer other ptr size =>
      by_cases isIt : other = endpNum
      · subst isIt
        rw [note_own, note_own, same _ _ (callFits_own.mp fits).2.apart]
      · rw [note_apart isIt, note_apart isIt]
  | endpRxSetState other state => rfl
  | endpTxSetState other state => rfl

/-- While a buffer is sent, the calls keep it. -/
theorem note_of_some {current : Sending} {apiCall : ApiCall}
    (fits : CallFits config endpNum (some current) apiCall) :
    note endpNum memory (some current) apiCall = some current := by
  cases apiCall with
  | endpTxSetNewBuffer other ptr size =>
      by_cases isIt : other = endpNum
      · subst isIt
        cases (callFits_own.mp fits).1
      · exact note_apart isIt
  | endpRxSetState other state => rfl
  | endpTxSetState other state => rfl

theorem note_index (first : ∀ current, sending = some current → current.index = 0) (apiCall : ApiCall) :
    ∀ current, note endpNum memory sending apiCall = some current → current.index = 0 := by
  cases apiCall with
  | endpTxSetNewBuffer other ptr size =>
      by_cases isIt : other = endpNum
      · subst isIt
        rw [note_own]
        rintro _ ⟨rfl⟩
        rfl
      · rw [note_apart isIt]
        exact first
  | endpRxSetState other state => exact first
  | endpTxSetState other state => exact first

/-- A callback leaves a buffer of which nothing has been sent, if it leaves any. -/
theorem notes_index {calls : List ApiCall} (first : ∀ current, sending = some current → current.index = 0) :
    ∀ current, calls.foldl (note endpNum memory) sending = some current → current.index = 0 := by
  induction calls generalizing sending with
  | nil => exact first
  | cons apiCall rest ih => exact ih (note_index first apiCall)

end

/-! ## The invariant -/

/-- The packet after those that have been acknowledged is armed. -/
structure Sending.Armed (sending : Sending) (driver : Usb2Driver) : Prop where
  sendable : Sendable config endpNum sending.ptr sending.size
  inside : sending.index < packetCount (config.txMaxPacketSize endpNum) sending.size
  address : driver.dma (.tx (usb2EndpointReg endpNum)) =
    sending.ptr + sending.index * config.txMaxPacketSize endpNum
  remaining : driver.endpTxRemainingBytes endpNum =
    sending.size - sending.index * config.txMaxPacketSize endpNum
  length : driver.tLen (usb2EndpointReg endpNum) = min sending.size (config.txMaxPacketSize endpNum)
  buffer : (driver.device.tx endpNum).buffer = sending.ptr
  bytes : bytesAt driver.memory sending.ptr sending.size = sending.bytes

/-- The endpoint sends what it is to send, or nothing. -/
structure Ready (bit : Bool) (completions : Nat) (driver : Usb2Driver)
    (sending : Option Sending) : Prop where
  config_eq : driver.config = config
  running : driver.device.state ≠ .powered
  toggle_eq : toggle bsp (driver.txCtrl (usb2EndpointReg endpNum)) = bit
  called : driver.called (.txComplete endpNum) = completions
  idle : sending = none → response (driver.txCtrl (usb2EndpointReg endpNum)) ≠ uepResAck
  armed : ∀ current, sending = some current → current.Armed config endpNum driver

namespace Ready

variable {bsp} {config} {endpNum} {bit : Bool} {completions : Nat} {driver next : Usb2Driver}
  {sending : Option Sending}

/-! ## Other traffic and calls -/

/-- A step that leaves the transmitting side alone, and the memory of the application. -/
theorem of_txBank (ready : Ready bsp config endpNum bit completions driver sending)
    (config_eq : next.config = driver.config) (running : next.device.state ≠ .powered)
    (bank : next.txBank (usb2EndpointReg endpNum) = driver.txBank (usb2EndpointReg endpNum))
    (called : next.called (.txComplete endpNum) = driver.called (.txComplete endpNum))
    (kept : ∀ ptr size, ApartFromEndp0 config ptr size →
      bytesAt next.memory ptr size = bytesAt driver.memory ptr size) :
    Ready bsp config endpNum bit completions next sending := by
  have ctrl : next.txCtrl (usb2EndpointReg endpNum) = driver.txCtrl (usb2EndpointReg endpNum) :=
    congrArg TxBank.txCtrl bank
  refine ⟨config_eq.trans ready.config_eq, running, ?_, called.trans ready.called, ?_, ?_⟩
  · rw [ctrl]
    exact ready.toggle_eq
  · rw [ctrl]
    exact ready.idle
  · intro current isCurrent
    have armed := ready.armed current isCurrent
    have buffer := congrFun (congrFun (congrArg TxBank.tx bank) endpNum) rfl
    refine ⟨armed.sendable, armed.inside, (congrArg TxBank.txDma bank).trans armed.address, ?_,
      (congrArg TxBank.tLen bank).trans armed.length,
      (congrArg UsbEndpoint.buffer buffer).trans armed.buffer,
      (kept _ _ armed.sendable.apart).trans armed.bytes⟩
    exact (congrFun (congrFun (congrArg TxBank.remaining bank) endpNum) rfl).trans armed.remaining

/-- What the driver writes is not in a buffer of the application. -/
theorem bytesAt_of_writesInside (same : driver.config = config)
    (inside : WritesInside (max 8 (max config.usb2Endp0MaxPacketSize
      (config.txMaxPacketSizeWithBurst 0))) driver next) {ptr size : Nat}
    (apart : ApartFromEndp0 config ptr size) :
    bytesAt next.memory ptr size = bytesAt driver.memory ptr size := by
  refine bytesAt_congr fun offset inRange => inside.kept _ ?_
  have buffer : driver.endp0Buffer = config.rxBuffer 0 :=
    congrArg (fun config : Config => config.rxBuffer 0) same
  rw [buffer]
  rcases apart with below | above
  · left
    omega
  · right
    omega

theorem writesInside_call (same : driver.config = config) (apiCall : ApiCall) :
    WritesInside (max 8 (max config.usb2Endp0MaxPacketSize (config.txMaxPacketSizeWithBurst 0)))
      driver (driver.call bsp apiCall) := by
  refine driver.writesInside_call bsp fun _ => ?_
  rw [same]
  exact (le_max_right ..).trans (le_max_right ..)

theorem traffic (ready : Ready bsp config endpNum bit completions driver sending)
    (notControl : endpNum ≠ 0) {event : Usb2Event}
    (apart : event.TxApart (usb2EndpointReg endpNum)) :
    Ready bsp config endpNum bit completions (event.step bsp driver) sending := by
  have inside : WritesInside (max 8 (max config.usb2Endp0MaxPacketSize
      (config.txMaxPacketSizeWithBurst 0))) driver (event.step bsp driver) := by
    refine driver.writesInside_step bsp (le_max_left ..) ?_ fun _ _ _ => ?_
    · rw [show driver.usb2Endp0MaxPacketSize = config.usb2Endp0MaxPacketSize from
        congrArg Config.usb2Endp0MaxPacketSize ready.config_eq]
      exact (le_max_left ..).trans (le_max_right ..)
    · rw [ready.config_eq]
      exact (le_max_right ..).trans (le_max_right ..)
  refine ready.of_txBank (config_step bsp driver event) (running_step bsp ready.running event)
    (txBank_step bsp (usb2EndpointReg_ne_zero notControl).symm apart)
    (called_txComplete_step bsp apart) fun ptr size apartFromEndp0 => ?_
  exact bytesAt_of_writesInside ready.config_eq inside apartFromEndp0

/-- A call for another endpoint. -/
theorem call_apart (ready : Ready bsp config endpNum bit completions driver sending)
    {apiCall : ApiCall} (apart : apiCall.TxApart (usb2EndpointReg endpNum)) :
    Ready bsp config endpNum bit completions (driver.call bsp apiCall) sending := by
  have fixed := driver.fixed_call bsp apiCall
  have state : (driver.call bsp apiCall).device.state = driver.device.state :=
    congrArg Fixed.state fixed
  refine ready.of_txBank (congrArg Fixed.config fixed) (state ▸ ready.running)
    (txBank_call bsp apart) (congrArg (List.count _) (congrArg Fixed.userCalls fixed))
      fun ptr size apartFromEndp0 => ?_
  exact bytesAt_of_writesInside ready.config_eq (writesInside_call ready.config_eq apiCall)
    apartFromEndp0

section

variable (notControl : endpNum ≠ 0) (usb2 : config.speed ≠ .usb30Superspeed)
include notControl usb2

/-- A buffer is handed over. -/
theorem handOver (ready : Ready bsp config endpNum bit completions driver none) {ptr size : Nat}
    (sendable : Sendable config endpNum ptr size) :
    Ready bsp config endpNum bit completions (driver.call bsp (.endpTxSetNewBuffer endpNum ptr size))
      (some ⟨ptr, size, 0, bytesAt driver.memory ptr size⟩) := by
  have accepts : driver.config.Accepts endpNum ptr size := by
    rw [ready.config_eq]
    exact ⟨sendable.fits, sendable.notNull, fun control => absurd control notControl⟩
  have speed : driver.device.speed ≠ .usb30Superspeed := by
    rw [show driver.device.speed = config.speed from congrArg Config.speed ready.config_eq]
    exact usb2
  have filled : (driver.bufferSet endpNum ptr size).device.speed ≠ .usb30Superspeed :=
    (driver.bufferSet_speed ..).symm ▸ speed
  have fixed := driver.fixed_call bsp (.endpTxSetNewBuffer endpNum ptr size)
  have state : (driver.call bsp (.endpTxSetNewBuffer endpNum ptr size)).device.state =
      driver.device.state := congrArg Fixed.state fixed
  have ctrl : (driver.call bsp (.endpTxSetNewBuffer endpNum ptr size)).txCtrl
        (usb2EndpointReg endpNum) =
      setResponse (driver.txCtrl (usb2EndpointReg endpNum)) uepResAck :=
    driver.endpTxSetNewBuffer_txCtrl accepts speed
  have isCall : driver.call bsp (.endpTxSetNewBuffer endpNum ptr size) =
      ((driver.bufferSet endpNum ptr size).usb2EndpTxReady endpNum size).exitCritical := by
    change (driver.endpTxSetNewBuffer endpNum ptr size).2 = _
    rw [driver.endpTxSetNewBuffer_of_accepts accepts, endpTxReady_of_usb2 _ filled]
  have packetSize : ((driver.bufferSet endpNum ptr size).device.tx endpNum).maxPacketSize =
      config.txMaxPacketSize endpNum := by
    rw [driver.bufferSet_tx size ptr]
    exact congrArg (fun config : Config => config.txMaxPacketSize endpNum) ready.config_eq
  refine ⟨(congrArg Fixed.config fixed).trans ready.config_eq, state ▸ ready.running, ?_,
    (congrArg (List.count _) (congrArg Fixed.userCalls fixed)).trans ready.called,
    fun isNone => ?_, ?_⟩
  · rw [ctrl]
    exact (@toggle_setResponse bsp _ uepResAck (.inl rfl)).trans ready.toggle_eq
  · cases isNone
  · rintro _ ⟨rfl⟩
    refine ⟨sendable, packetCount_pos _ _, ?_, ?_, ?_, ?_, ?_⟩
    · rw [isCall, Nat.zero_mul, Nat.add_zero]
      exact (usb2EndpTxReady_dma _ _ notControl).trans
        (congrArg UsbEndpoint.buffer (driver.bufferSet_tx size ptr))
    · rw [isCall, Nat.zero_mul, Nat.sub_zero]
      exact usb2EndpTxReady_remaining ..
    · rw [isCall, ← packetSize]
      exact usb2EndpTxReady_tLen ..
    · rw [isCall]
      have device := device_endpTxReady (driver.bufferSet endpNum ptr size) endpNum size
      rw [endpTxReady_of_usb2 _ filled] at device
      refine (congrArg (fun device : UsbDevice => (device.tx endpNum).buffer) device).trans ?_
      exact congrArg UsbEndpoint.buffer (driver.bufferSet_tx size ptr)
    · exact bytesAt_of_writesInside ready.config_eq (writesInside_call ready.config_eq _)
        sendable.apart

omit notControl in
/-- The response of the endpoint is set. -/
theorem setState (ready : Ready bsp config endpNum bit completions driver sending) {state : U8}
    (valid : EndpState state) (answers : state = endpStateAck → sending.isSome) :
    Ready bsp config endpNum bit completions (driver.call bsp (.endpTxSetState endpNum state))
      sending := by
  have speed : driver.device.speed ≠ .usb30Superspeed := by
    rw [show driver.device.speed = config.speed from congrArg Config.speed ready.config_eq]
    exact usb2
  have fixed := driver.fixed_call bsp (.endpTxSetState endpNum state)
  have running : (driver.call bsp (.endpTxSetState endpNum state)).device.state =
      driver.device.state := congrArg Fixed.state fixed
  have ctrl : (driver.call bsp (.endpTxSetState endpNum state)).txCtrl (usb2EndpointReg endpNum) =
      setResponse (driver.txCtrl (usb2EndpointReg endpNum)) state :=
    driver.txCtrl_endpTxSetState speed state
  have isCall : driver.call bsp (.endpTxSetState endpNum state) = _ :=
    driver.endpTxSetState_of_usb2 speed endpNum state
  refine ⟨(congrArg Fixed.config fixed).trans ready.config_eq, running ▸ ready.running, ?_,
    (congrArg (List.count _) (congrArg Fixed.userCalls fixed)).trans ready.called, ?_, ?_⟩
  · rw [ctrl, toggle_setResponse bsp _ valid]
    exact ready.toggle_eq
  · intro isIdle
    rw [ctrl, response_setResponse _ valid]
    intro isAck
    have some := answers isAck
    rw [isIdle] at some
    cases some
  · intro current isCurrent
    have armed := ready.armed current isCurrent
    have kept := congrArg UsbEndpoint.buffer (@Function.update_self (Fin 16) (fun _ => UsbEndpoint) _
      endpNum { driver.device.tx endpNum with state := state } driver.device.tx)
    rw [isCall]
    exact ⟨armed.sendable, armed.inside, armed.address, armed.remaining, armed.length,
      kept.trans armed.buffer, armed.bytes⟩

/-- Any call that fits. -/
theorem call (ready : Ready bsp config endpNum bit completions driver sending) {apiCall : ApiCall}
    (fits : CallFits config endpNum sending apiCall) :
    Ready bsp config endpNum bit completions (driver.call bsp apiCall)
      (note endpNum driver.memory sending apiCall) := by
  cases apiCall with
  | endpTxSetNewBuffer other ptr size =>
      by_cases isIt : other = endpNum
      · subst isIt
        obtain ⟨isNone, sendable⟩ := callFits_own.mp fits
        obtain rfl := Option.isNone_iff_eq_none.mp isNone
        rw [note_own]
        exact ready.handOver notControl usb2 sendable
      · rw [note_apart isIt]
        exact ready.call_apart ((callFits_apart isIt).mp fits)
  | endpRxSetState other state => exact ready.call_apart trivial
  | endpTxSetState other state =>
      by_cases isIt : other = endpNum
      · subst isIt
        obtain ⟨valid, answers⟩ := callFits_ownState.mp fits
        exact ready.setState usb2 valid answers
      · exact ready.call_apart ((callFits_apartState isIt).mp fits)

/-- The calls of a callback, which hand over what memory held when it was entered. -/
theorem runCalls {memory : Nat → U8} {calls : List ApiCall}
    (ready : Ready bsp config endpNum bit completions driver sending)
    (same : ∀ ptr size, ApartFromEndp0 config ptr size →
      bytesAt driver.memory ptr size = bytesAt memory ptr size)
    (fits : CallsFit config endpNum memory sending calls) :
    Ready bsp config endpNum bit completions (driver.runCalls bsp calls)
      (calls.foldl (note endpNum memory) sending) := by
  induction calls generalizing driver sending with
  | nil => exact ready
  | cons apiCall rest ih =>
      obtain ⟨first, others⟩ := fits
      have called := ready.call notControl usb2 first
      rw [note_congr same first] at called
      refine ih called (fun ptr size apart => ?_) others
      have kept := bytesAt_of_writesInside ready.config_eq
        (@writesInside_call bsp _ _ ready.config_eq apiCall) apart
      exact kept.trans (same ptr size apart)

end

/-! ## Completions -/

section

variable {current : Sending} {reply : UserReply}

theorem addrReg_eq (notControl : endpNum ≠ 0) :
    usb2TxEndpointAddrReg endpNum = .tx (usb2EndpointReg endpNum) := if_neg notControl

theorem packetSize_eq (ready : Ready bsp config endpNum bit completions driver sending) :
    (driver.device.tx endpNum).maxPacketSize = config.txMaxPacketSize endpNum :=
  congrArg (fun config : Config => config.txMaxPacketSize endpNum) ready.config_eq

/-- A completion ends the transfer with the last packet. -/
theorem endsIn_iff (ready : Ready bsp config endpNum bit completions driver (some current))
    (notControl : endpNum ≠ 0) (positive : 0 < config.txMaxPacketSize endpNum) :
    driver.transferPending.EndsIn endpNum ↔
      ¬current.index + 1 < packetCount (config.txMaxPacketSize endpNum) current.size := by
  have armed := ready.armed current rfl
  have notNull := armed.sendable.notNull
  have remaining : driver.transferPending.endpTxRemainingBytes endpNum =
      current.size - current.index * config.txMaxPacketSize endpNum := armed.remaining
  have address : driver.transferPending.dma (usb2TxEndpointAddrReg endpNum) ≠ 0 := by
    rw [addrReg_eq notControl]
    change driver.dma (.tx (usb2EndpointReg endpNum)) ≠ 0
    rw [armed.address]
    omega
  rw [EndsIn, remaining, lt_packetCount_iff positive (Nat.succ_ne_zero _), Nat.succ_mul]
  change _ ∧ _ ≤ (driver.device.tx endpNum).maxPacketSize ↔ _
  rw [ready.packetSize_eq]
  constructor
  · rintro ⟨_, short⟩
    omega
  · intro isLast
    exact ⟨address, by omega⟩

/-- The next packet is armed with the other toggle. -/
theorem advance (ready : Ready bsp config endpNum bit completions driver (some current))
    (notControl : endpNum ≠ 0) (positive : 0 < config.txMaxPacketSize endpNum)
    (more : current.index + 1 < packetCount (config.txMaxPacketSize endpNum) current.size) :
    Ready bsp config endpNum (!bit) completions
      (Usb2Event.step bsp driver (.inDone endpNum reply))
      (some { current with index := current.index + 1 }) := by
  have armed := ready.armed current rfl
  have continues := fun ends => (ready.endsIn_iff notControl positive).mp ends more
  have address : driver.transferPending.dma (usb2TxEndpointAddrReg endpNum) =
      current.ptr + current.index * config.txMaxPacketSize endpNum := by
    rw [addrReg_eq notControl]
    exact armed.address
  have notNull := armed.sendable.notNull
  have isSet : driver.transferPending.dma (usb2TxEndpointAddrReg endpNum) ≠ 0 := by
    rw [address]
    omega
  have within := (lt_packetCount_iff positive (Nat.succ_ne_zero _)).mp more
  rw [Nat.succ_mul] at within
  have full : driver.transferPending.inPacketLen endpNum = config.txMaxPacketSize endpNum := by
    change min (driver.endpTxRemainingBytes endpNum) (driver.device.tx endpNum).maxPacketSize = _
    rw [ready.packetSize_eq, armed.remaining]
    omega
  have moved : u32 (current.ptr + current.index * config.txMaxPacketSize endpNum +
      config.txMaxPacketSize endpNum) =
        current.ptr + (current.index + 1) * config.txMaxPacketSize endpNum := by
    have addressable := armed.sendable.addressable
    rw [u32, Nat.add_assoc, ← Nat.succ_mul]
    refine Nat.mod_eq_of_lt ?_
    rw [Nat.succ_mul]
    omega
  have config_eq := (config_step bsp driver (.inDone endpNum reply)).trans ready.config_eq
  have running := running_step bsp ready.running (.inDone endpNum reply)
  have isStep : Usb2Event.step bsp driver (.inDone endpNum reply) = _ := step_inDone bsp ready.running ..
  rw [if_pos (.inl notControl), usb2InTransferHandler_of_more bsp reply isSet continues, address, full,
    moved, addrReg_eq notControl] at isStep
  rw [isStep] at config_eq running ⊢
  refine ⟨config_eq, running, ?_, ready.called, fun isNone => ?_, ?_⟩
  · change toggle bsp ((Usb2Driver.setTxCtrl _ (usb2EndpointReg endpNum) _).txCtrl
      (usb2EndpointReg endpNum)) = _
    rw [setTxCtrl_self, toggle_xor_tog]
    refine congrArg (!·) ?_
    exact (@toggle_setResponse bsp _ uepResAck (.inl rfl)).trans ready.toggle_eq
  · cases isNone
  · rintro _ ⟨rfl⟩
    refine ⟨armed.sendable, more, Function.update_self .., ?_, armed.length, armed.buffer, armed.bytes⟩
    refine (Function.update_self ..).trans ?_
    change driver.endpTxRemainingBytes endpNum - driver.transferPending.inPacketLen endpNum = _
    rw [full, armed.remaining, Nat.succ_mul, Nat.sub_sub]

/-- What `tx_complete` finds. -/
theorem beforeTxComplete (ready : Ready bsp config endpNum bit completions driver (some current))
    (notControl : endpNum ≠ 0) :
    Ready bsp config endpNum (!bit) (completions + 1)
      { driver.transferPending.beforeTxComplete bsp endpNum with
        userCalls := driver.userCalls ++ [.txComplete endpNum] } none := by
  have ctrl : (driver.transferPending.beforeTxComplete bsp endpNum).txCtrl
        (usb2EndpointReg endpNum) =
      setResponse (driver.txCtrl (usb2EndpointReg endpNum) ^^^ bsp.rbUepTog1) uepResNak := by
    unfold Usb2Driver.beforeTxComplete
    rw [inTransferStored_eq bsp notControl]
    exact setTxCtrl_self ..
  refine ⟨ready.config_eq, ready.running, ?_, ?_, fun _ => ?_, fun current isCurrent => ?_⟩
  · refine (congrArg (toggle bsp) ctrl).trans ?_
    rw [@toggle_setResponse bsp _ uepResNak (.inr (.inl rfl)), toggle_xor_tog, ready.toggle_eq]
  · have counted := @List.count_append UserCall _ (.txComplete endpNum) driver.userCalls
      [.txComplete endpNum]
    rw [List.count_singleton_self] at counted
    exact counted.trans (congrArg (· + 1) ready.called)
  · change response ((driver.transferPending.beforeTxComplete bsp endpNum).txCtrl
      (usb2EndpointReg endpNum)) ≠ _
    rw [ctrl, @response_setResponse _ uepResNak (.inr (.inl rfl))]
    decide
  · cases isCurrent

/-- The address is set again when `tx_complete` has returned. -/
theorem rearm (ready : Ready bsp config endpNum bit completions driver sending)
    (first : ∀ current, sending = some current → current.index = 0) :
    Ready bsp config endpNum bit completions
      (driver.setDma (.tx (usb2EndpointReg endpNum)) (driver.device.tx endpNum).buffer) sending := by
  refine ⟨ready.config_eq, ready.running, ready.toggle_eq, ready.called, ready.idle, ?_⟩
  intro current isCurrent
  have armed := ready.armed current isCurrent
  refine ⟨armed.sendable, armed.inside, ?_, armed.remaining, armed.length, armed.buffer, armed.bytes⟩
  refine (Function.update_self ..).trans ?_
  rw [armed.buffer, first current isCurrent, Nat.zero_mul, Nat.add_zero]

/-- The last completion reports the end, and `tx_complete` may hand over the next buffer. -/
theorem finish (ready : Ready bsp config endpNum bit completions driver (some current))
    (notControl : endpNum ≠ 0) (usb2 : config.speed ≠ .usb30Superspeed)
    (positive : 0 < config.txMaxPacketSize endpNum)
    (isLast : ¬current.index + 1 < packetCount (config.txMaxPacketSize endpNum) current.size)
    (fits : CallsFit config endpNum driver.memory none reply.calls) :
    Ready bsp config endpNum (!bit) (completions + 1)
      (Usb2Event.step bsp driver (.inDone endpNum reply))
      (reply.calls.foldl (note endpNum driver.memory) none) := by
  have called := (ready.beforeTxComplete notControl).runCalls notControl usb2 (fun _ _ _ => rfl) fits
  have rearmed := called.rearm (notes_index fun _ isSome => by cases isSome)
  have ends := (ready.endsIn_iff notControl positive).mpr isLast
  have isStep : Usb2Event.step bsp driver (.inDone endpNum reply) = _ := step_inDone bsp ready.running ..
  rw [if_pos (.inl notControl), usb2InTransferHandler_of_ends bsp reply ends, if_pos notControl,
    addrReg_eq notControl] at isStep
  rw [isStep]
  exact ⟨rearmed.config_eq, rearmed.running, rearmed.toggle_eq, rearmed.called, rearmed.idle,
    fun current isCurrent => by
      have armed := rearmed.armed current isCurrent
      exact ⟨armed.sendable, armed.inside, armed.address, armed.remaining, armed.length, armed.buffer,
        armed.bytes⟩⟩

end

end Ready

/-! ## The pipe -/

/-- The bytes of the packets that have been acknowledged. -/
def Sending.front (packetSize : Nat) (sending : Sending) : List U8 :=
  sending.bytes.take (sending.index * packetSize)

def Sending.next (packetSize : Nat) (sending : Sending) : List U8 :=
  (sending.bytes.drop (sending.index * packetSize)).take (min sending.size packetSize)

def fronts (packetSize : Nat) : Option Sending → List U8
  | none => []
  | some sending => sending.front packetSize

/-- The driver is ready for the next packet, of which the host is at most one ahead. -/
structure Tracks (completions : Nat) (pipe : InPipe) : Prop where
  ready : Ready bsp config endpNum pipe.confirmed.length.bodd (completions + pipe.reported.length)
    pipe.driver pipe.sending
  inStep : InStep pipe.confirmed (pipe.sending.map (Sending.next (config.txMaxPacketSize endpNum)))
    pipe.taken
  delivered : pipe.confirmed.flatten =
    pipe.reported.flatten ++ fronts (config.txMaxPacketSize endpNum) pipe.sending

variable {bsp config endpNum} {completions : Nat} {pipe : InPipe} {current : Sending}

theorem Sending.Armed.length_bytes {driver : Usb2Driver}
    (armed : current.Armed config endpNum driver) : current.bytes.length = current.size := by
  rw [← armed.bytes, bytesAt_length]

/-- All packets are as long as the first one. -/
theorem Sending.Armed.whole {driver : Usb2Driver} (armed : current.Armed config endpNum driver)
    (positive : 0 < config.txMaxPacketSize endpNum) :
    current.index * config.txMaxPacketSize endpNum +
        min current.size (config.txMaxPacketSize endpNum) ≤ current.size := by
  have isLength := packetLength_of_even positive armed.sendable.even armed.inside
  by_cases first : current.index = 0
  · rw [first, Nat.zero_mul, Nat.zero_add]
    exact min_le_left ..
  · have within := (lt_packetCount_iff positive first).mp armed.inside
    unfold packetLength at isLength
    omega

theorem packet_eq {sending : Sending} (armed : sending.Armed config endpNum pipe.driver)
    (positive : 0 < config.txMaxPacketSize endpNum) :
    pipe.packet endpNum = sending.next (config.txMaxPacketSize endpNum) := by
  unfold packet Sending.next
  rw [armed.address, armed.length, ← armed.bytes]
  exact (take_drop_bytesAt (armed.whole positive)).symm

/-- The front grows by the packet that is acknowledged. -/
theorem Sending.front_advance (positive : 0 < config.txMaxPacketSize endpNum)
    (more : current.index + 1 < packetCount (config.txMaxPacketSize endpNum) current.size) :
    ({ current with index := current.index + 1 } : Sending).front (config.txMaxPacketSize endpNum) =
      current.front (config.txMaxPacketSize endpNum) ++
        current.next (config.txMaxPacketSize endpNum) := by
  have within := (lt_packetCount_iff positive (Nat.succ_ne_zero _)).mp more
  have full : min current.size (config.txMaxPacketSize endpNum) = config.txMaxPacketSize endpNum := by
    rw [Nat.succ_mul] at within
    omega
  unfold Sending.front Sending.next
  rw [full, Nat.succ_mul, List.take_add]

/-- The last packet completes the buffer. -/
theorem Sending.Armed.front_finish {driver : Usb2Driver}
    (armed : current.Armed config endpNum driver) (positive : 0 < config.txMaxPacketSize endpNum)
    (isLast : ¬current.index + 1 < packetCount (config.txMaxPacketSize endpNum) current.size) :
    current.front (config.txMaxPacketSize endpNum) ++
      current.next (config.txMaxPacketSize endpNum) = current.bytes := by
  rw [lt_packetCount_iff positive (Nat.succ_ne_zero _), Nat.succ_mul] at isLast
  have isLength := packetLength_of_even positive armed.sendable.even armed.inside
  unfold packetLength at isLength
  unfold Sending.front Sending.next
  rw [← List.take_add]
  refine List.take_of_length_le ?_
  rw [armed.length_bytes]
  omega

theorem fronts_eq_nil {sending : Option Sending}
    (first : ∀ current, sending = some current → current.index = 0) (packetSize : Nat) :
    fronts packetSize sending = [] := by
  cases sending with
  | none => rfl
  | some current =>
      change current.bytes.take (current.index * packetSize) = []
      rw [first current rfl, Nat.zero_mul, List.take_zero]

namespace Tracks

/-- Nothing is acknowledged, reported or taken. -/
theorem of_ready (tracks : Tracks bsp config endpNum completions pipe) {next : Usb2Driver}
    (ready : Ready bsp config endpNum pipe.confirmed.length.bodd (completions + pipe.reported.length)
      next pipe.sending) :
    Tracks bsp config endpNum completions { pipe with driver := next } :=
  ⟨ready, tracks.inStep, tracks.delivered⟩

theorem call (tracks : Tracks bsp config endpNum completions pipe) (notControl : endpNum ≠ 0)
    (usb2 : config.speed ≠ .usb30Superspeed) {apiCall : ApiCall}
    (fits : CallFits config endpNum pipe.sending apiCall) :
    Tracks bsp config endpNum completions
      { pipe with
        driver := pipe.driver.call bsp apiCall
        sending := note endpNum pipe.driver.memory pipe.sending apiCall } := by
  have ready := tracks.ready.call notControl usb2 fits
  have inStep := tracks.inStep
  have delivered := tracks.delivered
  refine ⟨ready, ?_, ?_⟩
  · change InStep pipe.confirmed (Option.map _ (note endpNum pipe.driver.memory pipe.sending apiCall))
      pipe.taken
    cases isSending : pipe.sending with
    | none =>
        rw [isSending] at inStep
        exact inStep.put _
    | some current =>
        rw [isSending] at inStep fits
        rw [note_of_some fits]
        exact inStep
  · change pipe.confirmed.flatten = pipe.reported.flatten ++
      fronts _ (note endpNum pipe.driver.memory pipe.sending apiCall)
    cases isSending : pipe.sending with
    | none =>
        rw [isSending] at delivered
        rw [fronts_eq_nil (note_index (fun _ isSome => by cases isSome) apiCall)]
        exact delivered
    | some current =>
        rw [isSending] at delivered fits
        rw [note_of_some fits]
        exact delivered

theorem store (tracks : Tracks bsp config endpNum completions pipe) {address : Nat} {bytes : List U8}
    (fits : StoreFits address bytes.length pipe.sending) :
    Tracks bsp config endpNum completions
      { pipe with
        driver := { pipe.driver with memory := storeBytes pipe.driver.memory address bytes } } := by
  have ready := tracks.ready
  refine tracks.of_ready ⟨ready.config_eq, ready.running, ready.toggle_eq, ready.called, ready.idle, ?_⟩
  intro current isCurrent
  have armed := ready.armed current isCurrent
  rw [isCurrent] at fits
  have apart : current.ptr + current.size ≤ address ∨ address + bytes.length ≤ current.ptr := fits
  refine ⟨armed.sendable, armed.inside, armed.address, armed.remaining, armed.length, armed.buffer, ?_⟩
  refine (bytesAt_congr fun offset inRange => storeBytes_outside ?_).trans armed.bytes
  rcases apart with below | above
  · left
    omega
  · right
    omega

/-- The endpoint answers with the packet that is next. -/
theorem answers (tracks : Tracks bsp config endpNum completions pipe)
    (answers : response (pipe.driver.txCtrl (usb2EndpointReg endpNum)) = uepResAck) :
    ∃ current, pipe.sending = some current := by
  cases isSending : pipe.sending with
  | none => exact absurd answers (tracks.ready.idle isSending)
  | some current => exact ⟨current, rfl⟩

/-- The host may take the packet, and the device hears nothing of it. -/
theorem asked (tracks : Tracks bsp config endpNum completions pipe)
    (positive : 0 < config.txMaxPacketSize endpNum) (isSending : pipe.sending = some current)
    (outcome : Outcome) :
    Tracks bsp config endpNum completions
      { pipe with
        taken := attempt outcome pipe.taken
          (toggle bsp (pipe.driver.txCtrl (usb2EndpointReg endpNum))) (pipe.packet endpNum) } := by
  refine ⟨tracks.ready, ?_, tracks.delivered⟩
  have inStep := tracks.inStep
  rw [isSending] at inStep
  rw [tracks.ready.toggle_eq, packet_eq (tracks.ready.armed current isSending) positive]
  change InStep pipe.confirmed (pipe.sending.map _) _
  rw [isSending]
  exact inStep.attempt outcome

/-- The packet is acknowledged. -/
theorem acknowledged (tracks : Tracks bsp config endpNum completions pipe) (notControl : endpNum ≠ 0)
    (usb2 : config.speed ≠ .usb30Superspeed) (positive : 0 < config.txMaxPacketSize endpNum)
    (isSending : pipe.sending = some current) {reply : UserReply}
    (fits : CallsFit config endpNum pipe.driver.memory none reply.calls) :
    Tracks bsp config endpNum completions
      (acknowledge bsp endpNum
        { pipe with
          taken := attempt .acknowledged pipe.taken
            (toggle bsp (pipe.driver.txCtrl (usb2EndpointReg endpNum))) (pipe.packet endpNum) }
        reply) := by
  have ready := tracks.ready
  have inStep := tracks.inStep
  have delivered := tracks.delivered
  rw [isSending] at ready inStep delivered
  have armed := ready.armed current rfl
  have isPacket := packet_eq armed positive
  have flips : (pipe.confirmed ++ [pipe.packet endpNum]).length.bodd = !pipe.confirmed.length.bodd := by
    rw [List.length_append, List.length_singleton, Nat.bodd_succ]
  have hears (next : Option (List U8)) : InStep (pipe.confirmed ++ [pipe.packet endpNum]) next
      (attempt .acknowledged pipe.taken (toggle bsp (pipe.driver.txCtrl (usb2EndpointReg endpNum)))
        (pipe.packet endpNum)) := by
    rw [ready.toggle_eq, isPacket]
    exact inStep.confirm next
  have grown : (pipe.confirmed ++ [pipe.packet endpNum]).flatten = pipe.reported.flatten ++
      (current.front (config.txMaxPacketSize endpNum) ++
        current.next (config.txMaxPacketSize endpNum)) := by
    rw [List.flatten_append, delivered, isPacket, List.flatten_singleton, List.append_assoc]
    rfl
  unfold acknowledge
  dsimp only
  rw [isSending]
  dsimp only
  rw [ready.packetSize_eq]
  by_cases more : current.index + 1 < packetCount (config.txMaxPacketSize endpNum) current.size
  · rw [if_pos more]
    refine ⟨?_, hears _, ?_⟩
    · change Ready bsp config endpNum (pipe.confirmed ++ [pipe.packet endpNum]).length.bodd _ _ _
      rw [flips]
      exact ready.advance notControl positive more
    · refine grown.trans (congrArg _ ?_)
      exact (Sending.front_advance positive more).symm
  · rw [if_neg more]
    refine ⟨?_, hears _, ?_⟩
    · change Ready bsp config endpNum (pipe.confirmed ++ [pipe.packet endpNum]).length.bodd
        (completions + (pipe.reported ++ [current.bytes]).length) _ _
      rw [flips, List.length_append, List.length_singleton, ← Nat.add_assoc]
      exact ready.finish notControl usb2 positive more fits
    · refine grown.trans ?_
      rw [armed.front_finish positive more, fronts_eq_nil (notes_index fun _ isSome => by cases isSome),
        List.append_nil, List.flatten_append, List.flatten_singleton]

/-- One act. -/
theorem step (tracks : Tracks bsp config endpNum completions pipe) (notControl : endpNum ≠ 0)
    (usb2 : config.speed ≠ .usb30Superspeed) (positive : 0 < config.txMaxPacketSize endpNum)
    {act : InPipeAct} (admissible : pipe.Admissible endpNum act) :
    ∃ next, InPipe.step bsp endpNum pipe act = some next ∧
      Tracks bsp config endpNum completions next := by
  have config_eq := tracks.ready.config_eq
  cases act with
  | call apiCall =>
      change CallFits pipe.driver.config endpNum pipe.sending apiCall at admissible
      rw [config_eq] at admissible
      exact ⟨_, rfl, tracks.call notControl usb2 admissible⟩
  | store address bytes => exact ⟨_, rfl, tracks.store admissible⟩
  | traffic event => exact ⟨_, rfl, tracks.of_ready (tracks.ready.traffic notControl admissible)⟩
  | transaction outcome reply =>
      change CallsFit pipe.driver.config endpNum pipe.driver.memory none reply.calls at admissible
      rw [config_eq] at admissible
      refine ⟨_, rfl, ?_⟩
      unfold transaction
      by_cases answers : response (pipe.driver.txCtrl (usb2EndpointReg endpNum)) = uepResAck
      · rw [if_pos answers]
        obtain ⟨current, isSending⟩ := tracks.answers answers
        by_cases heard : outcome = .acknowledged
        · subst heard
          exact tracks.acknowledged notControl usb2 positive isSending admissible
        · dsimp only
          rw [if_neg heard]
          exact tracks.asked positive isSending outcome
      · rw [if_neg answers]
        exact tracks

/-- What the invariant says to the host and to the application. -/
theorem delivers (tracks : Tracks bsp config endpNum completions pipe) :
    pipe.Delivers endpNum completions := by
  have known := tracks.inStep.confirmed_prefix.flatten
  have ahead := tracks.inStep.received_prefix.flatten
  have delivered := tracks.delivered
  refine ⟨?_, ?_, tracks.ready.called⟩
  · rw [delivered] at known
    exact (List.prefix_append _ _).trans known
  · refine ahead.trans ?_
    rw [List.flatten_append, delivered, unfinished]
    cases isSending : pipe.sending with
    | none => simp [fronts]
    | some current =>
        have front : current.front (config.txMaxPacketSize endpNum) ++
            current.next (config.txMaxPacketSize endpNum) <+: current.bytes := by
          unfold Sending.front Sending.next
          rw [← List.take_add]
          exact List.take_prefix ..
        rw [List.append_assoc]
        exact (List.prefix_append_right_inj _).mpr (by simpa [fronts] using front)

end Tracks

/-! ## From the setup on -/

/-- The setup has enabled the endpoint, and it does not answer yet. -/
structure Opened (driver : Usb2Driver) (endpNum : Fin 16) : Prop where
  setUp : InToggle.SetUp driver endpNum
  running : driver.device.state ≠ .powered
  usb2 : driver.device.speed ≠ .usb30Superspeed
  positive : 0 < (driver.device.tx endpNum).maxPacketSize
  silent : (driver.device.tx endpNum).state ≠ endpStateAck

theorem Opened.ready (bsp : Usb2Bsp) {driver : Usb2Driver} (opened : Opened driver endpNum) :
    Ready bsp driver.config endpNum (Nat.bodd 0) (driver.called (.txComplete endpNum))
      driver.usb2SetupEndpoints none := by
  have setUp := opened.setUp
  have ctrl : driver.usb2SetupEndpoints.txCtrl (usb2EndpointReg endpNum) =
      (driver.device.tx endpNum).state :=
    (@usb2SetupEndpoints_ctrl driver setUp.compatible setUp.small .tx endpNum setUp.enabled
      setUp.notControl).trans BitVec.or_zero
  have device := driver.usb2SetupEndpoints_device
  refine ⟨config_usb2SetupEndpoints, ?_, ?_, ?_, fun _ => ?_, fun current isCurrent => ?_⟩
  · rw [device]
    exact opened.running
  · exact setUp.inStep bsp
  · rw [usb2SetupEndpoints_changes]
    rfl
  · rw [ctrl, response, setUp.state.inMask]
    exact opened.silent
  · cases isCurrent

/-- Whatever packets and acknowledgements the bus loses, and whatever else happens on the device, the
host gets the application's buffers whole, once and in order, and each end is reported once. -/
theorem in_pipe_delivers (bsp : Usb2Bsp) {driver : Usb2Driver} {endpNum : Fin 16}
    (opened : Opened driver endpNum) {acts : List InPipeAct}
    (every : EveryStep (InPipe.step bsp endpNum) (Admissible endpNum)
      (start driver.usb2SetupEndpoints) acts) :
    Always (InPipe.step bsp endpNum)
      (fun pipe => pipe.Delivers endpNum (driver.called (.txComplete endpNum)))
      (start driver.usb2SetupEndpoints) acts := by
  have started : Tracks bsp driver.config endpNum (driver.called (.txComplete endpNum))
      (start driver.usb2SetupEndpoints) :=
    ⟨opened.ready bsp, .refl [] none, rfl⟩
  have tracked := always_of_everyStep (fun pipe act (tracks : Tracks bsp driver.config endpNum
    (driver.called (.txComplete endpNum)) pipe) admissible =>
      tracks.step opened.setUp.notControl opened.usb2 opened.positive admissible) started every
  exact tracked.imp fun pipe tracks => tracks.delivers

def smallPackets : Usb2Driver :=
  .initial { usbDevice0 with
    endpointMask := endpointBit .tx 1
    tx := Function.update usbDevice0.tx 1 ⟨0x20020000, 2, 8, 16, endpStateNak⟩ } fun _ => 0#8

theorem smallPackets_opened : Opened smallPackets 1 where
  setUp := ⟨by decide, by decide, by decide, by decide, .inr (.inl rfl)⟩
  running := by decide
  usb2 := by decide
  positive := by decide
  silent := by decide

/-- A buffer of two packets of which the first is repeated, and one that `tx_complete` hands over. -/
theorem repeated_packet_taken_once :
    Always (InPipe.step .bit3 1) (fun pipe => pipe.Delivers 1 0) (start smallPackets.usb2SetupEndpoints)
      [.store 0x20020000 (List.replicate 21 7#8), .call (.endpTxSetNewBuffer 1 0x20020000 16),
        .transaction .lost noReply,
        .transaction .unacknowledged noReply,
        .transaction .acknowledged noReply,
        .traffic (.nak 1 noReply),
        .transaction .acknowledged ⟨[.endpTxSetNewBuffer 1 0x20020010 5], endpStateAck, 0, 0⟩,
        .transaction .acknowledged noReply] :=
  in_pipe_delivers .bit3 smallPackets_opened (by decide)

end WchCh56x.Usb.InPipe
