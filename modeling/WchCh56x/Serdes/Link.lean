import WchCh56x.Hspi.PacketHeaders
import WchCh56x.Support.ByteMemory
import WchCh56x.Support.PingPong
import WchCh56x.Support.Runs

/-!
# Two boards on a SerDes line

One board sends and the other one receives.  The hardware of the receiver fills
`RX_DMA_0` and `RX_DMA_1` in turn from `serdes_init` on, and sets the flag of the
interrupt for each packet.  The handler calls the user once and clears the flag at
its end, however many packets came.
-/

namespace WchCh56x.Serdes

open Support Support.PingPong

def dmaSize : Nat := 4096

/-- What a sender hands to `serdes_send` and a receiver's callback gets. -/
structure Message where
  bytes : List U8
  customRegister : U16
  deriving DecidableEq, Repr

/-- A call of the receive callback: the message that it finds and the packets missed before. -/
structure HandedOver where
  message : Message
  missed : Nat
  deriving DecidableEq, Repr

/-- `SERDES_IRQHandler` between its first and its last line, entered after `before` packets. -/
structure Handler where
  call : Option RxCallback
  before : Nat
  deriving DecidableEq, Repr

/-- Both boards, with what has happened since the receiver was initialised. -/
structure Link where
  sender : SerdesDriver
  receiver : SerdesDriver
  /-- The array that the hardware fills next. -/
  next : RxDma
  array : RxDma → List U8
  /-- `SDS_RX_LEN0` and `SDS_RX_LEN1` -/
  rxLen : RxDma → U32
  /-- `SDS_DATA0` and `SDS_DATA1` -/
  data : RxDma → U32
  /-- `SDS_RX_INT_FLG` -/
  rxInt : Bool
  handler : Option Handler
  sent : List Message
  callbacks : List HandedOver
  /-- The packets that came while the flag was set or the handler ran. -/
  missed : Nat

inductive LinkAct where
  | send (memory : Nat → U8) (buffer : Nat) (size customRegister : U16)
  /-- `SERDES_IRQHandler` up to the callback; errors of the line raise the interrupt too. -/
  | enter
  /-- The handler clears all flags and returns. -/
  | leave
  | initSender (maxPacketSize : U16)
  | initReceiver (maxPacketSize : U16)

/-- `serdes_init` as far as the variables of the driver go. -/
def serdesInit (driver : SerdesDriver) (maxPacketSize : U16) : SerdesDriver :=
  { driver with currentRxDma := .rxDma0, serdesMaxPacketSize := maxPacketSize }

/-- The driver as the program starts with it. -/
def SerdesDriver.initial : SerdesDriver := ⟨.rxDma0, 0, 0, 0⟩

namespace Link

def start (sendSize receiveSize : U16) : Link where
  sender := serdesInit .initial sendSize
  receiver := serdesInit .initial receiveSize
  next := .rxDma0
  array _ := List.replicate dmaSize 0
  rxLen _ := 0
  data _ := 0
  rxInt := false
  handler := none
  sent := []
  callbacks := []
  missed := 0

variable (link : Link)

def other : RxDma → RxDma
  | .rxDma0 => .rxDma1
  | .rxDma1 => .rxDma0

/-- The flag is set for a packet that nobody has looked at. -/
def pending : Nat := if link.rxInt = true ∧ link.handler = none then 1 else 0

def registers : SdsRegisters :=
  ⟨link.rxInt, link.rxLen .rxDma0, link.rxLen .rxDma1, link.data .rxDma0, link.data .rxDma1⟩

/-- What a callback finds in its array. -/
def found (call : RxCallback) : Message :=
  ⟨(link.array call.buffer).take call.size.toNat, call.customRegister⟩

def receive (tx : TxConfig) (memory : Nat → U8) (message : Message) : Link :=
  let bytes := bytesAt memory tx.buffer tx.size.toNat
  { link with
    next := other link.next
    array := Function.update link.array link.next
      (bytes ++ (link.array link.next).drop bytes.length)
    rxLen := Function.update link.rxLen link.next (tx.size.setWidth 32)
    data := Function.update link.data link.next tx.custom
    rxInt := true
    sent := link.sent ++ [message]
    missed :=
      if link.rxInt = true ∨ link.handler.isSome = true then link.missed + 1 else link.missed }

def enter : Link :=
  let (receiver, call) := serdesIrqHandler link.receiver link.registers
  { link with
    receiver := receiver
    handler := some ⟨call, link.sent.length⟩
    callbacks := link.callbacks ++ (call.map fun call => ⟨link.found call, link.missed⟩).toList }

/-- The handler is not entered twice. -/
def step : LinkAct → Option Link
  | .send memory buffer size customRegister =>
      let tx := serdesSend link.sender buffer size customRegister
      some (link.receive tx memory ⟨bytesAt memory buffer size.toNat, customRegister⟩)
  | .enter => some (if link.handler = none then link.enter else link)
  | .leave => some (if link.handler = none then link else { link with rxInt := false, handler := none })
  | .initSender maxPacketSize => some { link with sender := serdesInit link.sender maxPacketSize }
  | .initReceiver maxPacketSize =>
      some { link with
        receiver := serdesInit link.receiver maxPacketSize
        next := .rxDma0
        rxInt := false
        sent := []
        callbacks := []
        missed := 0 }

/-- The message fits into a packet of the sender, the packet into an array of the receiver, and the
custom value into the 15 bits that the header allows.  The receiver is not initialised from its own
handler. -/
def Fits : LinkAct → Prop
  | .send _ _ size customRegister =>
      size ≤ link.sender.serdesMaxPacketSize ∧ link.sender.serdesMaxPacketSize.toNat ≤ dmaSize ∧
        customRegister.toNat < 2 ^ 15
  | .initReceiver _ => link.handler = none
  | .enter | .leave | .initSender _ => True

instance : (act : LinkAct) → Decidable (link.Fits act)
  | .send _ _ _ _ => inferInstanceAs (Decidable (_ ∧ _ ∧ _))
  | .initReceiver _ => inferInstanceAs (Decidable (_ = _))
  | .enter | .leave | .initSender _ => inferInstanceAs (Decidable True)

/-! ## Whose turn it is -/

def turn (count : Nat) : RxDma := if count % 2 = 0 then .rxDma0 else .rxDma1

theorem alternates_turn : Alternates turn := by
  intro left right
  unfold turn
  by_cases leftEven : left % 2 = 0
  · by_cases rightEven : right % 2 = 0
    · simp [leftEven, rightEven]
    · simp [leftEven, rightEven]
      omega
  · by_cases rightEven : right % 2 = 0
    · simp [leftEven, rightEven]
    · simp [leftEven, rightEven]
      omega

theorem turn_succ (count : Nat) : turn (count + 1) = other (turn count) := by
  unfold turn
  by_cases even : count % 2 = 0
  · rw [if_pos even, if_neg (by omega)]
    rfl
  · rw [if_neg even, if_pos (by omega)]
    rfl

/-- What a callback would find in an array with the header that lies beside it. -/
def callOf (slot : RxDma) : RxCallback :=
  ⟨slot, (link.data slot &&& hspiSerdesTxSizeMask).setWidth 16,
    (link.data slot >>> 13).setWidth 16⟩

def stored (slot : RxDma) : Message := link.found (link.callOf slot)

/-- The callback under way is the last one, and its array is left alone by the next packet, unless
an odd number of packets was missed before. -/
def Intact (handler : Handler) (call : RxCallback) : Prop :=
  handler.before ≤ link.sent.length ∧ call.buffer = turn (link.callbacks.length - 1) ∧
    ∃ entry, link.callbacks.getLast? = some entry ∧
      handler.before = link.callbacks.length + entry.missed ∧
      (link.sent.length + entry.missed % 2 ≤ handler.before + 1 → link.found call = entry.message)

/-- The hardware counts the packets and the driver its callbacks. -/
structure Tracks : Prop where
  hardware : link.next = turn link.sent.length
  copy : link.receiver.currentRxDma = turn link.callbacks.length
  slots : Holds turn link.sent link.stored
  counted : link.sent.length = link.callbacks.length + link.missed + link.pending
  handedOver : ∀ index entry, link.callbacks[index]? = some entry →
    link.sent[index + 2 * (entry.missed / 2)]? = some entry.message
  earlier : ∀ entry ∈ link.callbacks, entry.missed ≤ link.missed
  ordered : link.callbacks.Pairwise fun before after => before.missed ≤ after.missed
  intact : ∀ handler call, link.handler = some handler → handler.call = some call →
    link.Intact handler call

theorem tracks_start (sendSize receiveSize : U16) : (start sendSize receiveSize).Tracks where
  hardware := rfl
  copy := rfl
  slots := holds_nil turn _
  counted := rfl
  handedOver := nofun
  earlier := nofun
  ordered := .nil
  intact := nofun

variable {link}

/-! ## A packet -/

theorem word_toNat (driver : SerdesDriver) (buffer : Nat) {size customRegister : U16}
    (small : size.toNat ≤ dmaSize) (documented : customRegister.toNat < 2 ^ 15) :
    let word := (serdesSend driver buffer size customRegister).custom
    (word &&& hspiSerdesTxSizeMask).setWidth 16 = size ∧
      (word >>> 13).setWidth 16 = customRegister := by
  have packed := Hspi.PacketHeaders.toNat_serdesCustom driver buffer size customRegister
  have header := (@Hspi.PacketHeaders.unpacked_eq_iff ⟨size, customRegister⟩
    (customRegister.toNat % 32768) small (by omega)).mpr (Nat.mod_eq_of_lt documented)
  dsimp only at header ⊢
  rw [Hspi.PacketHeaders.serdesTxSizeMask_eq, Hspi.PacketHeaders.size_and_mask,
    Hspi.PacketHeaders.custom_shift, packed]
  exact Hspi.PacketHeaders.Header.mk.inj header

/-- The array of a packet holds its message. -/
theorem stored_receive {memory : Nat → U8} {buffer : Nat} {size customRegister : U16}
    (fits : link.Fits (.send memory buffer size customRegister)) (message : Message) :
    (link.receive (serdesSend link.sender buffer size customRegister) memory message).stored
        link.next = ⟨bytesAt memory buffer size.toNat, customRegister⟩ := by
  obtain ⟨inPacket, inArray, documented⟩ := fits
  have small : size.toNat ≤ link.sender.serdesMaxPacketSize.toNat := inPacket
  obtain ⟨sizeWord, customWord⟩ := word_toNat link.sender buffer (small.trans inArray)
    documented
  unfold stored found callOf receive
  dsimp only
  rw [Function.update_self, Function.update_self, sizeWord, customWord]
  congr 1
  rw [List.take_append_of_le_length (by rw [bytesAt_length]; exact small)]
  exact take_bytesAt small

theorem stored_receive_other (tx : TxConfig) (memory : Nat → U8) (message : Message) {slot : RxDma}
    (elsewhere : slot ≠ link.next) : (link.receive tx memory message).stored slot = link.stored slot := by
  unfold stored found callOf receive
  dsimp only
  rw [Function.update_of_ne elsewhere, Function.update_of_ne elsewhere]

theorem found_receive_other (tx : TxConfig) (memory : Nat → U8) (message : Message)
    {call : RxCallback} (elsewhere : call.buffer ≠ link.next) :
    (link.receive tx memory message).found call = link.found call := by
  unfold found receive
  dsimp only
  rw [Function.update_of_ne elsewhere]

theorem Tracks.send (tracks : link.Tracks) {memory : Nat → U8} {buffer : Nat}
    {size customRegister : U16} (fits : link.Fits (.send memory buffer size customRegister)) :
    (link.receive (serdesSend link.sender buffer size customRegister) memory
      ⟨bytesAt memory buffer size.toNat, customRegister⟩).Tracks where
  hardware := by
    change other link.next = turn (link.sent ++ [_]).length
    rw [tracks.hardware, List.length_append, List.length_singleton, turn_succ]
  copy := tracks.copy
  slots := by
    refine tracks.slots.push alternates_turn ?_ ?_
    · rw [← tracks.hardware]
      exact stored_receive fits _
    · rw [← tracks.hardware]
      exact fun slot elsewhere => stored_receive_other _ _ _ elsewhere
  counted := by
    have counted := tracks.counted
    unfold pending at counted ⊢
    unfold receive
    dsimp only
    rw [List.length_append, List.length_singleton, counted]
    cases flag : link.rxInt with
    | true =>
        cases handler : link.handler with
        | none => simp [Nat.add_assoc]
        | some handler => simp [Nat.add_assoc]
    | false =>
        cases handler : link.handler with
        | none => simp
        | some handler => simp [Nat.add_assoc]
  handedOver := by
    intro index entry called
    have older := tracks.handedOver index entry called
    have inside := (List.getElem?_eq_some_iff.mp older).1
    exact (List.getElem?_append_left inside).trans older
  earlier := by
    intro entry member
    have before := tracks.earlier entry member
    unfold receive
    dsimp only
    split
    · exact Nat.le_succ_of_le before
    · exact before
  ordered := tracks.ordered
  intact := by
    intro handler call inHandler called
    obtain ⟨le, ofTurn, entry, last, before, intact⟩ := tracks.intact handler call inHandler called
    have length : (link.sent ++ [(⟨bytesAt memory buffer size.toNat, customRegister⟩ : Message)]).length =
        link.sent.length + 1 := by rw [List.length_append, List.length_singleton]
    refine ⟨?_, ofTurn, entry, last, before, fun few => ?_⟩
    · exact length ▸ Nat.le_succ_of_le le
    · change (link.sent ++ [_]).length + _ ≤ _ at few
      rw [length] at few
      have called : 0 < link.callbacks.length :=
        List.length_pos_of_mem (List.mem_of_getLast? last)
      rw [found_receive_other _ _ _ ?_]
      · exact intact (by omega)
      · rw [ofTurn, tracks.hardware]
        intro same
        have parity := (alternates_turn _ _).mp same
        omega

/-! ## The handler -/

/-- The handler hands over the array of its turn, if the flag is set. -/
theorem serdesIrqHandler_registers :
    (serdesIrqHandler link.receiver link.registers).2 =
        (if link.rxInt then some (link.callOf link.receiver.currentRxDma) else none) ∧
      (serdesIrqHandler link.receiver link.registers).1.currentRxDma =
        if link.rxInt then other link.receiver.currentRxDma else link.receiver.currentRxDma := by
  unfold serdesIrqHandler registers
  cases flag : link.rxInt with
  | false => exact ⟨rfl, rfl⟩
  | true =>
      cases current : link.receiver.currentRxDma with
      | rxDma0 => exact ⟨rfl, rfl⟩
      | rxDma1 => exact ⟨rfl, rfl⟩

theorem enter_eq :
    link.enter =
      { link with
        receiver := (serdesIrqHandler link.receiver link.registers).1
        handler := some ⟨if link.rxInt then some (link.callOf link.receiver.currentRxDma) else none,
          link.sent.length⟩
        callbacks := link.callbacks ++
          if link.rxInt then [⟨link.stored link.receiver.currentRxDma, link.missed⟩] else [] } := by
  unfold enter
  dsimp only
  rw [serdesIrqHandler_registers.1]
  cases link.rxInt with
  | true => rfl
  | false => rfl

/-- An error of the line calls nobody. -/
theorem Tracks.enter_idle (tracks : link.Tracks) (flag : link.rxInt = false) :
    link.enter.Tracks := by
  have turned := (@serdesIrqHandler_registers link).2
  have counted := tracks.counted
  unfold pending at counted
  rw [enter_eq]
  simp only [flag, Bool.false_eq_true, if_false, false_and] at turned counted ⊢
  rw [List.append_nil]
  refine ⟨tracks.hardware, turned.trans tracks.copy, tracks.slots, ?_, tracks.handedOver,
    tracks.earlier, tracks.ordered, ?_⟩
  · simp [pending, counted]
  · intro handler call inHandler called
    obtain rfl := Option.some.inj inHandler
    nomatch called

theorem Tracks.enter_served (tracks : link.Tracks) (outside : link.handler = none)
    (flag : link.rxInt = true) : link.enter.Tracks := by
  have turned := (@serdesIrqHandler_registers link).2
  have counted := tracks.counted
  unfold pending at counted
  rw [enter_eq]
  simp only [flag, outside, and_self, if_true] at turned counted ⊢
  have count : link.sent.length = link.callbacks.length + 1 + link.missed := by omega
  -- the array of the turn holds the youngest packet of its parity
  have shown := tracks.slots link.callbacks.length (by omega)
  rw [count, youngest_add, ← tracks.copy] at shown
  refine ⟨tracks.hardware, ?_, tracks.slots, ?_, ?_, ?_, ?_, ?_⟩
  · dsimp only
    rw [turned, tracks.copy, List.length_append, List.length_singleton, turn_succ]
  · simp [pending, count]
  · intro index entry called
    rcases Nat.lt_or_ge index link.callbacks.length with older | last
    · exact tracks.handedOver index entry ((List.getElem?_append_left older).symm.trans called)
    · obtain ⟨rfl, rfl⟩ : index = link.callbacks.length ∧
          entry = ⟨link.stored link.receiver.currentRxDma, link.missed⟩ := by
        have inside := (List.getElem?_eq_some_iff.mp called).1
        simp only [List.length_append, List.length_singleton] at inside
        obtain rfl : index = link.callbacks.length := by omega
        exact ⟨rfl, (Option.some.inj (List.getElem?_concat_length.symm.trans called)).symm⟩
      exact shown
  · intro entry member
    rcases List.mem_append.mp member with older | new
    · exact tracks.earlier entry older
    · rw [List.mem_singleton.mp new]
  · refine List.pairwise_append.mpr ⟨tracks.ordered, List.pairwise_singleton _ _, ?_⟩
    intro before member after last
    rw [List.mem_singleton.mp last]
    exact tracks.earlier before member
  · intro handler call inHandler called
    obtain rfl := Option.some.inj inHandler
    obtain rfl := Option.some.inj called
    refine ⟨Nat.le_refl _, ?_, _, List.getLast?_concat, ?_, fun _ => rfl⟩
    · change link.receiver.currentRxDma = turn ((link.callbacks ++ [_]).length - 1)
      rw [tracks.copy, List.length_append, List.length_singleton, Nat.add_sub_cancel]
    · dsimp only
      rw [count, List.length_append, List.length_singleton]

theorem Tracks.leave (tracks : link.Tracks) (inside : link.handler ≠ none) :
    Tracks { link with rxInt := false, handler := none } := by
  have counted := tracks.counted
  unfold pending at counted
  rw [if_neg fun pending => inside pending.2] at counted
  refine ⟨tracks.hardware, tracks.copy, tracks.slots, ?_, tracks.handedOver, tracks.earlier,
    tracks.ordered, nofun⟩
  simp [pending, counted]

theorem tracks_initReceiver (outside : link.handler = none)
    (maxPacketSize : U16) :
    Tracks { link with
      receiver := serdesInit link.receiver maxPacketSize
      next := .rxDma0
      rxInt := false
      sent := []
      callbacks := []
      missed := 0 } := by
  refine ⟨rfl, rfl, holds_nil turn _, ?_, nofun, nofun, .nil, ?_⟩
  · simp [pending]
  · intro handler call inHandler
    nomatch outside.symm.trans inHandler

theorem Tracks.step (tracks : link.Tracks) (act : LinkAct) (fits : link.Fits act) :
    ∃ next, link.step act = some next ∧ next.Tracks := by
  cases act with
  | send memory buffer size customRegister => exact ⟨_, rfl, tracks.send fits⟩
  | initSender maxPacketSize => exact ⟨_, rfl, ⟨tracks.hardware, tracks.copy, tracks.slots,
      tracks.counted, tracks.handedOver, tracks.earlier, tracks.ordered, tracks.intact⟩⟩
  | enter =>
      refine ⟨_, rfl, ?_⟩
      split
      · next outside =>
          cases flag : link.rxInt with
          | false => exact tracks.enter_idle flag
          | true => exact tracks.enter_served outside flag
      · exact tracks
  | leave =>
      refine ⟨_, rfl, ?_⟩
      split
      · exact tracks
      · next inside => exact tracks.leave inside
  | initReceiver maxPacketSize => exact ⟨_, rfl, tracks_initReceiver fits maxPacketSize⟩

/-! ## What the callbacks get -/

/-- Later callbacks get later messages. -/
theorem Tracks.sublist (tracks : link.Tracks) :
    (link.callbacks.map HandedOver.message).Sublist link.sent := by
  refine List.sublist_iff_exists_fin_orderEmbedding_get_eq.mpr ?_
  have called (index : Fin (link.callbacks.map HandedOver.message).length) :
      index.val < link.callbacks.length := index.isLt.trans_eq (List.length_map _)
  have own (index : Fin (link.callbacks.map HandedOver.message).length) :=
    tracks.handedOver index _ (List.getElem?_eq_getElem (called index))
  refine ⟨OrderEmbedding.ofStrictMono
    (fun index => ⟨_, (List.getElem?_eq_some_iff.mp (own index)).1⟩) ?_, ?_⟩
  · intro left right before
    have missed := List.pairwise_iff_getElem.mp tracks.ordered left right (called left)
      (called right) before
    have position : left.val < right.val := before
    have rounds := Nat.div_le_div_right (c := 2) missed
    exact Fin.mk_lt_mk.mpr (by omega)
  · intro index
    have same := (List.getElem?_eq_some_iff.mp (own index)).2
    rw [List.get_eq_getElem, List.getElem_map]
    exact same.symm

variable (link) in
/-- Every packet since `serdes_init` has a callback, waits for one or was missed.  The callbacks
get messages that were sent, each at most once and in order: their own, or one that came later by
as many rounds as packets were missed. -/
structure HandsOver : Prop where
  counted : link.sent.length = link.callbacks.length + link.missed + link.pending
  subsequence : (link.callbacks.map HandedOver.message).Sublist link.sent
  handedOver : ∀ index entry, link.callbacks[index]? = some entry →
    link.sent[index + 2 * (entry.missed / 2)]? = some entry.message
  inOrder : link.missed ≤ 1 →
    link.callbacks.map HandedOver.message = link.sent.take link.callbacks.length
  intact : ∀ handler call, link.handler = some handler → handler.call = some call →
    ∃ entry, link.callbacks.getLast? = some entry ∧
      (link.sent.length + entry.missed % 2 ≤ handler.before + 1 → link.found call = entry.message)

theorem Tracks.handsOver (tracks : link.Tracks) : link.HandsOver where
  counted := tracks.counted
  subsequence := tracks.sublist
  handedOver := tracks.handedOver
  inOrder := by
    intro few
    apply List.ext_getElem?
    intro index
    rcases Nat.lt_or_ge index link.callbacks.length with inside | outside
    · have called := List.getElem?_eq_getElem inside
      have noRound : link.callbacks[index].missed / 2 = 0 :=
        Nat.div_eq_of_lt (Nat.lt_succ_of_le
          ((tracks.earlier _ (List.getElem_mem inside)).trans few))
      have own := tracks.handedOver index _ called
      rw [noRound, Nat.mul_zero, Nat.add_zero] at own
      rw [List.getElem?_map, called, List.getElem?_take_of_lt inside, own]
      rfl
    · rw [List.getElem?_eq_none (by rwa [List.length_map]), List.getElem?_take_eq_none outside]
  intact := by
    intro handler call inHandler called
    obtain ⟨_, _, entry, last, _, intact⟩ := tracks.intact handler call inHandler called
    exact ⟨entry, last, intact⟩

/-- Between two boards on a SerDes line, wherever the packets, the interrupts and the calls of
`serdes_init` come, no message is handed over twice, and all are handed over unchanged and in order
as long as at most one packet came before the handler of an earlier one had returned.  The array of
a callback survives the next packet, unless an odd number of packets was missed before. -/
theorem serdes_hands_over (sendSize receiveSize : U16) {acts : List LinkAct}
    (every : Runs.EveryStep Link.step Link.Fits (Link.start sendSize receiveSize) acts) :
    Runs.Always Link.step Link.HandsOver (Link.start sendSize receiveSize) acts :=
  (Runs.always_of_everyStep (fun _ act tracks fits => Tracks.step tracks act fits)
    (tracks_start sendSize receiveSize) every).imp fun _ tracks => tracks.handsOver

/-- A packet comes while the callback for another one runs, and the next one is handed over in
time. -/
theorem one_packet_during_a_callback :
    Runs.Always Link.step Link.HandsOver (Link.start 64 64)
      [.send (fun _ => 7) 4096 8 1, .enter, .send (fun _ => 8) 4096 8 2, .leave,
        .send (fun _ => 9) 4096 8 3, .enter, .leave] :=
  serdes_hands_over 64 64 (by decide)

end Link

end WchCh56x.Serdes
