import WchCh56x.Support.AlternatingBit
import WchCh56x.Support.ByteMemory
import WchCh56x.Usb.DeviceChart
import WchCh56x.Usb.EndpointPrograms
import WchCh56x.Usb.OutToggle
import WchCh56x.Usb.ReceivingSide

/-!
# A bulk OUT pipe

A host sends packets to an OUT endpoint over a bus that loses packets and
acknowledgements, and repeats a packet until it hears of it.  The application
answers in `rx_callback`, at once or later.
-/

namespace WchCh56x.Usb

open Support.AlternatingBit Support.Runs

structure OutPipe where
  driver : Usb2Driver
  /-- `rx_callback` did not answer the last packet with ACK, and ACK has not been set since. -/
  deferred : Bool
  /-- The packets whose acknowledgement the host has got. -/
  given : List (List U8)
  underWay : Option (List U8)
  /-- The packets that `rx_callback` has been shown. -/
  shown : List (List U8)

inductive OutPipeAct where
  /-- The host has another packet to send. -/
  | offer (packet : List U8)
  /-- The host sends the packet; `rx_callback` does what the reply says. -/
  | transaction (outcome : Outcome) (reply : UserReply)
  /-- `endp_rx_set_state` outside of callbacks of the endpoint. -/
  | setState (state : U8)
  /-- Something else on the device. -/
  | traffic (event : Usb2Event)

namespace OutPipe

section

variable (bsp : Usb2Bsp) (endpNum : Fin 16) (pipe : OutPipe)

def endpoint : OutToggle.OutEndpoint where
  driver := pipe.driver
  accepted := pipe.shown.length
  deferred := pipe.deferred

def filled (packet : List U8) : Usb2Driver :=
  { pipe.driver with
    memory := storeBytes pipe.driver.memory (pipe.driver.dma (.rx (usb2EndpointReg endpNum))) packet }

/-- The driver finds a packet, with the toggle that the endpoint expects or the other one. -/
def arrive (packet : List U8) (togok : Bool) (reply : UserReply) : OutPipe :=
  let filled := pipe.filled endpNum packet
  let next := Usb2Event.step bsp filled (.outDone endpNum packet.length togok reply)
  let calls := (next.rxCalls endpNum).drop (pipe.driver.rxCalls endpNum).length
  { pipe with
    driver := next
    deferred := if togok then reply.state ≠ endpStateAck else pipe.deferred
    shown := pipe.shown ++ calls.map fun call => bytesAt filled.memory call.1 call.2 }

/-- The endpoint expects the toggle with which the host sends. -/
def togok : Bool :=
  pipe.given.length.bodd == toggle bsp (pipe.driver.rxCtrl (usb2EndpointReg endpNum))

def transaction (outcome : Outcome) (reply : UserReply) : OutPipe :=
  match pipe.underWay with
  | none => pipe
  | some packet =>
      if response (pipe.driver.rxCtrl (usb2EndpointReg endpNum)) = uepResAck ∧ outcome ≠ .lost then
        let arrived := pipe.arrive bsp endpNum packet (pipe.togok bsp endpNum) reply
        if outcome = .acknowledged then
          { arrived with given := pipe.given ++ [packet], underWay := none }
        else
          arrived
      else
        pipe

def step : OutPipeAct → Option OutPipe
  | .offer packet => some { pipe with underWay := some packet }
  | .transaction outcome reply => some (pipe.transaction bsp endpNum outcome reply)
  | .setState state =>
      some
        { pipe with
          driver := pipe.driver.endpRxSetState bsp endpNum state
          deferred := pipe.deferred && state ≠ endpStateAck }
  | .traffic event => some { pipe with driver := event.step bsp pipe.driver }

/-- The host sends one packet after the other, and the application sets ACK to finish a packet. -/
def Admissible : OutPipeAct → Prop
  | .offer packet =>
      pipe.underWay = none ∧ packet.length ≤ (pipe.driver.device.rx endpNum).maxPacketSize
  | .transaction _ reply => EndpState reply.state
  | .setState state =>
      EndpState state ∧ OutToggle.AcksAPacket endpNum pipe.endpoint (.setState state)
  | .traffic event => event.RxApart (usb2EndpointReg endpNum)

instance : (act : OutPipeAct) → Decidable (pipe.Admissible endpNum act)
  | .offer _ => inferInstanceAs (Decidable (_ ∧ _))
  | .transaction _ reply => inferInstanceAs (Decidable (EndpState reply.state))
  | .setState _ => inferInstanceAs (Decidable (_ ∧ _))
  | .traffic event => inferInstanceAs (Decidable (event.RxApart _))

/-- `rx_callback` has been called once for each packet that the host has given, in order, and perhaps
for the one under way. -/
structure Delivers (calls : Nat) : Prop where
  known : pipe.given <+: pipe.shown
  ahead : pipe.shown <+: pipe.given ++ pipe.underWay.toList
  called : (pipe.driver.rxCalls endpNum).length = calls + pipe.shown.length

def start (driver : Usb2Driver) : OutPipe where
  driver := driver
  deferred := false
  given := []
  underWay := none
  shown := []

end

/-! ## The invariant -/

/-- The address is that of the buffer, and the toggle that of the next packet. -/
structure Receives (bsp : Usb2Bsp) (config : Config) (endpNum : Fin 16) (calls : Nat)
    (pipe : OutPipe) : Prop where
  config_eq : pipe.driver.config = config
  running : pipe.driver.device.state ≠ .powered
  address : pipe.driver.dma (.rx (usb2EndpointReg endpNum)) = config.rxBuffer endpNum
  tracked : OutToggle.Tracked bsp endpNum pipe.endpoint
  called : (pipe.driver.rxCalls endpNum).length = calls + pipe.shown.length

namespace Receives

variable {bsp : Usb2Bsp} {config : Config} {endpNum : Fin 16} {calls : Nat} {pipe : OutPipe}
  {packet : List U8} {reply : UserReply}

/-- Nothing arrives. -/
theorem of_rxSide (receives : Receives bsp config endpNum calls pipe) {next : Usb2Driver}
    (config_eq : next.config = pipe.driver.config) (running : next.device.state ≠ .powered)
    (side : next.rxSide (usb2EndpointReg endpNum) = pipe.driver.rxSide (usb2EndpointReg endpNum))
    (called : next.rxCalls endpNum = pipe.driver.rxCalls endpNum) :
    Receives bsp config endpNum calls { pipe with driver := next } := by
  have ctrl : next.rxCtrl (usb2EndpointReg endpNum) = pipe.driver.rxCtrl (usb2EndpointReg endpNum) :=
    congrArg RxSide.rxCtrl side
  refine ⟨config_eq.trans receives.config_eq, running,
    (congrArg RxSide.rxDma side).trans receives.address,
    ⟨(congrArg (toggle bsp) ctrl).trans receives.tracked.toggle_eq, fun acks => ?_⟩,
    (congrArg List.length called).trans receives.called⟩
  exact receives.tracked.not_deferred ((congrArg response ctrl).symm.trans acks)

theorem buffer_eq (receives : Receives bsp config endpNum calls pipe) :
    (pipe.driver.device.rx endpNum).buffer = config.rxBuffer endpNum :=
  congrArg (fun config : Config => config.rxBuffer endpNum) receives.config_eq

theorem traffic (receives : Receives bsp config endpNum calls pipe) (notControl : endpNum ≠ 0)
    {event : Usb2Event} (apart : event.RxApart (usb2EndpointReg endpNum)) :
    Receives bsp config endpNum calls { pipe with driver := event.step bsp pipe.driver } :=
  receives.of_rxSide (config_step bsp pipe.driver event)
    (Usb2Driver.running_step bsp receives.running event)
    (Usb2Driver.rxSide_step bsp (usb2EndpointReg_ne_zero notControl).symm apart)
    (Usb2Driver.rxCalls_step bsp apart)

/-- A packet with the other toggle is thrown away. -/
theorem arrive_wrongToggle (receives : Receives bsp config endpNum calls pipe) :
    (pipe.arrive bsp endpNum packet false reply).shown = pipe.shown ∧
      Receives bsp config endpNum calls (pipe.arrive bsp endpNum packet false reply) := by
  have running : (pipe.filled endpNum packet).device.state ≠ .powered := receives.running
  have isStep := @step_outDone_wrongToggle bsp _ running endpNum packet.length reply
  have kept := @of_rxSide bsp config endpNum calls pipe receives
    (Usb2Event.step bsp (pipe.filled endpNum packet) (.outDone endpNum packet.length false reply))
    (by rw [isStep]; rfl) (by rw [isStep]; exact running) (by rw [isStep]; rfl) (by rw [isStep]; rfl)
  have none : ((Usb2Event.step bsp (pipe.filled endpNum packet)
      (.outDone endpNum packet.length false reply)).rxCalls endpNum).drop
        (pipe.driver.rxCalls endpNum).length = [] := by
    rw [isStep]
    exact List.drop_length
  unfold arrive
  dsimp only
  rw [none, List.map_nil, List.append_nil]
  exact ⟨rfl, kept⟩

section

variable (usb2 : config.speed ≠ .usb30Superspeed) (buffer : config.rxBuffer endpNum ≠ 0)
include usb2 buffer

theorem usable (receives : Receives bsp config endpNum calls pipe) :
    OutToggle.Usable endpNum pipe.driver := by
  constructor
  · rw [show pipe.driver.device.speed = config.speed from congrArg Config.speed receives.config_eq]
    exact usb2
  · rw [receives.buffer_eq]
    exact buffer

theorem setState (receives : Receives bsp config endpNum calls pipe) {state : U8}
    (valid : EndpState state) (acks : OutToggle.AcksAPacket endpNum pipe.endpoint (.setState state)) :
    Receives bsp config endpNum calls
      { pipe with
        driver := pipe.driver.endpRxSetState bsp endpNum state
        deferred := pipe.deferred && state ≠ endpStateAck } := by
  have fixed := pipe.driver.fixed_endpRxSetState bsp endpNum state
  have running : (pipe.driver.endpRxSetState bsp endpNum state).device.state =
      pipe.driver.device.state := congrArg Fixed.state fixed
  have tracked :=
    (OutToggle.tracked_setState_iff (receives.usable usb2 buffer) receives.tracked valid).2 acks
  refine ⟨(congrArg Fixed.config fixed).trans receives.config_eq, running ▸ receives.running, ?_,
    ⟨tracked.toggle_eq, tracked.not_deferred⟩, ?_⟩
  · exact (congrFun (congrArg Fixed.rxDma fixed) (usb2EndpointReg endpNum)).trans receives.address
  · have same := congrArg (List.filterMap (UserCall.received endpNum)) (congrArg Fixed.userCalls fixed)
    exact (congrArg List.length same).trans receives.called

section Arrival

variable (receives : Receives bsp config endpNum calls pipe) (notControl : endpNum ≠ 0)
include receives notControl

omit usb2 buffer in
/-- The handler is entered for a packet with the expected toggle. -/
theorem step_expected :
    Usb2Event.step bsp (pipe.filled endpNum packet) (.outDone endpNum packet.length true reply) =
      ((pipe.filled endpNum packet).transferPending.usb2OutTransferHandler bsp endpNum
        packet.length reply).clearFlags :=
  (step_outDone bsp (show (pipe.filled endpNum packet).device.state ≠ .powered from receives.running)
    endpNum packet.length reply).trans
      (congrArg Usb2Driver.clearFlags (if_pos (.inl notControl)))

omit usb2 in
theorem handler_expected :
    (pipe.filled endpNum packet).transferPending.usb2OutTransferHandler bsp endpNum packet.length
        reply =
      (((pipe.filled endpNum packet).transferPending.invoke bsp
        (.rxCallback endpNum (config.rxBuffer endpNum) packet.length) reply).afterRxCallback endpNum
          reply.state).setRxCtrl (usb2EndpointReg endpNum)
            (Usb2Driver.outPacketCtrl bsp (pipe.driver.rxCtrl (usb2EndpointReg endpNum))
              reply.state) := by
  have isBuffer : ((pipe.filled endpNum packet).transferPending.device.rx endpNum).buffer =
      config.rxBuffer endpNum := receives.buffer_eq
  rw [@Usb2Driver.usb2OutTransferHandler_of_buffer bsp (pipe.filled endpNum packet).transferPending
    endpNum packet.length reply notControl (isBuffer.trans_ne buffer), isBuffer]
  rfl

omit usb2 in
theorem rxCalls_expected :
    (Usb2Event.step bsp (pipe.filled endpNum packet)
        (.outDone endpNum packet.length true reply)).rxCalls endpNum =
      pipe.driver.rxCalls endpNum ++ [(config.rxBuffer endpNum, packet.length)] := by
  rw [receives.step_expected notControl, receives.handler_expected buffer notControl]
  have called := @userCalls_invoke bsp (pipe.filled endpNum packet).transferPending reply
    (.rxCallback endpNum (config.rxBuffer endpNum) packet.length)
  have found : UserCall.received endpNum
      (.rxCallback endpNum (config.rxBuffer endpNum) packet.length) =
        some (config.rxBuffer endpNum, packet.length) := if_pos rfl
  refine (congrArg (List.filterMap (UserCall.received endpNum)) called).trans ?_
  rw [List.filterMap_append, List.filterMap_cons_some found]
  rfl

omit usb2 in
theorem shown_expected :
    (pipe.arrive bsp endpNum packet true reply).shown = pipe.shown ++ [packet] := by
  have read : bytesAt (pipe.filled endpNum packet).memory (config.rxBuffer endpNum)
      packet.length = packet := by
    unfold filled
    dsimp only
    rw [receives.address, bytesAt_storeBytes le_rfl, List.take_length]
  unfold arrive
  dsimp only
  rw [receives.rxCalls_expected buffer notControl, List.drop_left, List.map_singleton, read]

omit usb2 in
/-- The endpoint receives into the same buffer again. -/
theorem address_expected :
    (Usb2Event.step bsp (pipe.filled endpNum packet)
        (.outDone endpNum packet.length true reply)).dma (.rx (usb2EndpointReg endpNum)) =
      config.rxBuffer endpNum := by
  rw [receives.step_expected notControl, receives.handler_expected buffer notControl]
  have isAddress : usb2RxEndpointAddrReg endpNum = .rx (usb2EndpointReg endpNum) := if_neg notControl
  have same := congrArg (fun config : Config => config.rxBuffer endpNum)
    (Usb2Driver.config_invoke bsp (pipe.filled endpNum packet).transferPending
      (.rxCallback endpNum (config.rxBuffer endpNum) packet.length) reply)
  generalize (pipe.filled endpNum packet).transferPending.invoke bsp
    (.rxCallback endpNum (config.rxBuffer endpNum) packet.length) reply = called at same ⊢
  have armed := congrArg (fun config : Config => config.rxBuffer endpNum)
    (Usb2Driver.config_afterRxCallback called endpNum reply.state)
  change (called.afterRxCallback endpNum reply.state).dma (.rx (usb2EndpointReg endpNum)) = _
  unfold Usb2Driver.afterRxCallback at armed ⊢
  dsimp only
  rw [isAddress]
  exact (Function.update_self ..).trans (armed.trans (same.trans receives.buffer_eq))

theorem tracked_expected
    (answers : response (pipe.driver.rxCtrl (usb2EndpointReg endpNum)) = uepResAck)
    (valid : EndpState reply.state) :
    OutToggle.Tracked bsp endpNum (pipe.arrive bsp endpNum packet true reply).endpoint := by
  have isUsable := receives.usable usb2 buffer
  have usable : OutToggle.Usable endpNum (pipe.filled endpNum packet).transferPending :=
    isUsable.of_config rfl
  have tracked : OutToggle.Tracked bsp endpNum
      ⟨(pipe.filled endpNum packet).transferPending, pipe.shown.length, pipe.deferred⟩ :=
    ⟨receives.tracked.toggle_eq, receives.tracked.not_deferred⟩
  have after := OutToggle.tracked_packet notControl usable tracked answers packet.length valid
  have isStep := @step_expected bsp config endpNum calls pipe packet reply receives notControl
  have count := congrArg List.length
    (@shown_expected bsp config endpNum calls pipe packet reply buffer receives notControl)
  rw [List.length_append, List.length_singleton] at count
  refine ⟨?_, ?_⟩
  · change toggle bsp ((Usb2Event.step bsp (pipe.filled endpNum packet)
      (.outDone endpNum packet.length true reply)).rxCtrl (usb2EndpointReg endpNum)) =
        ((pipe.arrive bsp endpNum packet true reply).shown.length.bodd ^^ _)
    rw [isStep, count]
    exact after.toggle_eq
  · change response ((Usb2Event.step bsp (pipe.filled endpNum packet)
      (.outDone endpNum packet.length true reply)).rxCtrl (usb2EndpointReg endpNum)) = uepResAck → _
    rw [isStep]
    exact after.not_deferred

end Arrival

/-- A packet with the expected toggle is shown once. -/
theorem arrive_expected (receives : Receives bsp config endpNum calls pipe) (notControl : endpNum ≠ 0)
    (answers : response (pipe.driver.rxCtrl (usb2EndpointReg endpNum)) = uepResAck)
    (valid : EndpState reply.state) :
    (pipe.arrive bsp endpNum packet true reply).shown = pipe.shown ++ [packet] ∧
      Receives bsp config endpNum calls (pipe.arrive bsp endpNum packet true reply) := by
  have shown := @shown_expected bsp config endpNum calls pipe packet reply buffer receives notControl
  refine ⟨shown, (config_step bsp (pipe.filled endpNum packet) _).trans receives.config_eq,
    Usb2Driver.running_step bsp
      (show (pipe.filled endpNum packet).device.state ≠ .powered from receives.running) _,
    receives.address_expected buffer notControl,
    receives.tracked_expected usb2 buffer notControl answers valid, ?_⟩
  change ((Usb2Event.step bsp (pipe.filled endpNum packet)
    (.outDone endpNum packet.length true reply)).rxCalls endpNum).length = _
  rw [receives.rxCalls_expected buffer notControl, shown, List.length_append, List.length_append,
    receives.called]
  rfl

end

end Receives

/-- The host is at most the packet under way behind. -/
structure Tracks (bsp : Usb2Bsp) (config : Config) (endpNum : Fin 16) (calls : Nat) (pipe : OutPipe) :
    Prop extends Receives bsp config endpNum calls pipe where
  inStep : InStep pipe.given pipe.underWay pipe.shown

namespace Tracks

variable {bsp : Usb2Bsp} {config : Config} {endpNum : Fin 16} {calls : Nat} {pipe : OutPipe}

/-- The packet under way arrives and is shown unless it has been. -/
theorem arrive (tracks : Tracks bsp config endpNum calls pipe) (notControl : endpNum ≠ 0)
    (usb2 : config.speed ≠ .usb30Superspeed) (buffer : config.rxBuffer endpNum ≠ 0)
    (answers : response (pipe.driver.rxCtrl (usb2EndpointReg endpNum)) = uepResAck)
    {reply : UserReply}
    (valid : EndpState reply.state) (packet : List U8) :
    let arrived := pipe.arrive bsp endpNum packet (pipe.togok bsp endpNum) reply
    arrived.shown = receive pipe.shown pipe.given.length.bodd packet ∧
      Receives bsp config endpNum calls arrived := by
  have receives := tracks.toReceives
  have expected : toggle bsp (pipe.driver.rxCtrl (usb2EndpointReg endpNum)) =
      pipe.shown.length.bodd :=
    receives.tracked.inStep answers
  intro arrived
  unfold receive
  by_cases isNext : pipe.given.length.bodd = pipe.shown.length.bodd
  · have togok : pipe.togok bsp endpNum = true := by
      rw [togok, expected, isNext, beq_self_eq_true]
    rw [if_pos isNext]
    change (pipe.arrive bsp endpNum packet (pipe.togok bsp endpNum) reply).shown = _ ∧
      Receives bsp config endpNum calls (pipe.arrive bsp endpNum packet (pipe.togok bsp endpNum) reply)
    rw [togok]
    exact receives.arrive_expected usb2 buffer notControl answers valid
  · have togok : pipe.togok bsp endpNum = false := by
      rw [togok, expected]
      exact beq_false_of_ne isNext
    rw [if_neg isNext]
    change (pipe.arrive bsp endpNum packet (pipe.togok bsp endpNum) reply).shown = _ ∧
      Receives bsp config endpNum calls (pipe.arrive bsp endpNum packet (pipe.togok bsp endpNum) reply)
    rw [togok]
    exact receives.arrive_wrongToggle

theorem transaction (tracks : Tracks bsp config endpNum calls pipe) (notControl : endpNum ≠ 0)
    (usb2 : config.speed ≠ .usb30Superspeed) (buffer : config.rxBuffer endpNum ≠ 0)
    (outcome : Outcome) {reply : UserReply} (valid : EndpState reply.state) :
    Tracks bsp config endpNum calls (pipe.transaction bsp endpNum outcome reply) := by
  have inStep := tracks.inStep
  unfold OutPipe.transaction
  cases isUnderWay : pipe.underWay with
  | none => exact tracks
  | some packet =>
      rw [isUnderWay] at inStep
      dsimp only
      by_cases arrives : response (pipe.driver.rxCtrl (usb2EndpointReg endpNum)) = uepResAck ∧
          outcome ≠ .lost
      · rw [if_pos arrives]
        obtain ⟨shown, receives⟩ := tracks.arrive notControl usb2 buffer arrives.1 valid packet
        by_cases heard : outcome = .acknowledged
        · rw [if_pos heard]
          refine ⟨⟨receives.config_eq, receives.running, receives.address, receives.tracked,
            receives.called⟩, ?_⟩
          change InStep (pipe.given ++ [packet]) none (OutPipe.arrive ..).shown
          rw [shown]
          exact inStep.confirm none
        · rw [if_neg heard]
          refine ⟨receives, ?_⟩
          change InStep pipe.given pipe.underWay (OutPipe.arrive ..).shown
          rw [shown, isUnderWay]
          exact inStep.attempt .unacknowledged
      · rw [if_neg arrives]
        exact tracks

theorem step (tracks : Tracks bsp config endpNum calls pipe) (notControl : endpNum ≠ 0)
    (usb2 : config.speed ≠ .usb30Superspeed) (buffer : config.rxBuffer endpNum ≠ 0) {act : OutPipeAct}
    (admissible : pipe.Admissible endpNum act) :
    ∃ next, OutPipe.step bsp endpNum pipe act = some next ∧
      Tracks bsp config endpNum calls next := by
  have receives := tracks.toReceives
  cases act with
  | offer packet =>
      have inStep := tracks.inStep
      rw [admissible.1] at inStep
      exact ⟨_, rfl, ⟨receives.config_eq, receives.running, receives.address, receives.tracked,
        receives.called⟩, inStep.put (some packet)⟩
  | transaction outcome reply =>
      exact ⟨_, rfl, tracks.transaction notControl usb2 buffer outcome admissible⟩
  | setState state =>
      exact ⟨_, rfl, receives.setState usb2 buffer admissible.1 admissible.2, tracks.inStep⟩
  | traffic event => exact ⟨_, rfl, receives.traffic notControl admissible, tracks.inStep⟩

theorem delivers (tracks : Tracks bsp config endpNum calls pipe) : pipe.Delivers endpNum calls where
  known := tracks.inStep.confirmed_prefix
  ahead := tracks.inStep.received_prefix
  called := tracks.called

end Tracks

/-! ## From the setup on -/

/-- The setup has enabled the endpoint with the address of its buffer. -/
structure Opened (driver : Usb2Driver) (endpNum : Fin 16) : Prop where
  setUp : OutToggle.SetUp driver endpNum
  running : driver.device.state ≠ .powered

variable {driver : Usb2Driver} {endpNum : Fin 16}

/-- The setup stores the address of the buffer. -/
theorem Opened.address (opened : Opened driver endpNum) :
    driver.usb2SetupEndpoints.dma (.rx (usb2EndpointReg endpNum)) =
      (driver.device.rx endpNum).buffer := by
  have setUp := opened.setUp
  have member : (EndpDir.rx, endpNum) ∈ endpointsRun driver.device driver.device.endpointMask := by
    rw [endpointsRun_of_small fun other _ => setUp.small other]
    exact mem_enabledEndpoints.mpr ⟨setUp.notControl, setUp.enabled⟩
  have written : (⟨.dma (.rx (usb2EndpointReg endpNum)), (driver.device.rx endpNum).buffer⟩ :
      (reg : Usb2Reg) × reg.Value) ∈ (usb2SetupWrites driver.device driver.device.endpointMask).2 := by
    refine (mem_usb2SetupWrites setUp.compatible).mpr ⟨.rx, endpNum, member, ?_⟩
    exact List.mem_cons_of_mem _ List.mem_cons_self
  have stored := @Support.RegisterFile.run_of_mem _ _ _ driver.setupEndp0.registers _
    (nodupKeys_usb2SetupWrites driver.device driver.device.endpointMask) _ _ written
  have isRun := congrFun (driver.setupEndp0.registers_usb2SetupEndpointsInMask driver.device.endpointMask)
    (.dma (.rx (usb2EndpointReg endpNum)))
  exact isRun.trans stored

theorem Opened.tracks (bsp : Usb2Bsp) (opened : Opened driver endpNum) :
    Tracks bsp driver.config endpNum (driver.rxCalls endpNum).length
      (start driver.usb2SetupEndpoints) := by
  refine ⟨⟨config_usb2SetupEndpoints, ?_, opened.address, opened.setUp.tracked, ?_⟩, .refl [] none⟩
  · change driver.usb2SetupEndpoints.device.state ≠ .powered
    rw [driver.usb2SetupEndpoints_device]
    exact opened.running
  · change (driver.usb2SetupEndpoints.rxCalls endpNum).length = _
    rw [usb2SetupEndpoints_changes]
    rfl

/-- Whatever packets and acknowledgements the bus loses, and whatever `rx_callback` answers, it is
called with the host's packets, each once and in order.  The other traffic of the device does not
set the endpoints up again and does not set the state of this one. -/
theorem out_pipe_delivers (bsp : Usb2Bsp) (opened : Opened driver endpNum) {acts : List OutPipeAct}
    (every : EveryStep (OutPipe.step bsp endpNum) (Admissible endpNum)
      (start driver.usb2SetupEndpoints) acts) :
    Always (OutPipe.step bsp endpNum)
      (fun pipe => pipe.Delivers endpNum (driver.rxCalls endpNum).length)
      (start driver.usb2SetupEndpoints) acts := by
  have setUp := opened.setUp
  have tracked := always_of_everyStep (fun pipe act (tracks : Tracks bsp driver.config endpNum
    (driver.rxCalls endpNum).length pipe) admissible =>
      tracks.step setUp.notControl setUp.speed setUp.buffer admissible) (opened.tracks bsp) every
  exact tracked.imp fun pipe tracks => tracks.delivers

/-- A packet that is repeated, and one that is answered with NAK first. -/
theorem packet_shown_once :
    Always (OutPipe.step .bit3 1)
      (fun pipe => pipe.Delivers 1 (OutToggle.bulkOut.rxCalls 1).length)
      (start OutToggle.bulkOut.usb2SetupEndpoints)
      [.offer [1#8, 2#8, 3#8], .transaction .lost noReply,
        .transaction .unacknowledged noReply,
        .transaction .acknowledged noReply, .offer [4#8],
        .transaction .unacknowledged ⟨[], endpStateNak, 0, 0⟩,
        .transaction .acknowledged noReply, .setState endpStateAck,
        .transaction .acknowledged noReply] :=
  out_pipe_delivers .bit3 ⟨OutToggle.setUp_bulkOut, by decide⟩ (by decide)

end OutPipe

end WchCh56x.Usb
