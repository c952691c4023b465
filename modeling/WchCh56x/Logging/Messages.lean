import WchCh56x.Logging.Filter

/-!
# The log functions

Each of them formats a timestamp and then the message behind it into a buffer of 512 bytes, and
hands the buffer on.  `none` is an overflow of an `int`.  The lengths are those that nanoprintf
returns, of the text without truncation.
-/

namespace WchCh56x.Logging

/-- The size of `temp_buffer`, `log_printf_buff` and `serdes_buffer`. -/
def bufferSize : Nat := 512

def logPrintfBuffSize : Nat := 511

def debugLogBufSize : Nat := 512

/-- A sum of two values of type `int`. -/
def intAdd (left right : Nat) : Option Nat :=
  if left + right < 2147483648 then some (left + right) else none

/-- A difference that is passed as a `size_t`. -/
def sizeDifference (left right : Nat) : Nat :=
  u32 (left + 4294967296 - u32 right)

/-- A call of nanoprintf: where in the buffer it starts, the size it is given and the length of
its text. -/
structure NpfCall where
  offset : Nat
  size : Nat
  length : Nat
  deriving DecidableEq, Repr

/-- A function that a buffer is handed to, and the number of bytes. -/
inductive Output where
  | write (size : Nat)
  | lwrbWrite (size : Nat)
  | memcpy (size : Nat)
  | uart1SendString (size : Nat)
  | serdesSend (size : Nat)
  deriving DecidableEq, Repr

def Output.bytes : Output → Nat
  | write size | lwrbWrite size | memcpy size | uart1SendString size | serdesSend size => size

/-- What a log function does with its buffer. -/
structure Logged where
  npfCalls : List NpfCall
  outputs : List Output
  deriving DecidableEq, Repr

/-- The timestamp, and the message where it ends. -/
def formatted (space : Nat → Nat) (printSize1 messageSize : Nat) : List NpfCall :=
  [⟨0, bufferSize, printSize1⟩, ⟨printSize1, space printSize1, messageSize⟩]

/-- A message that is formatted and handed on unless both texts are empty. -/
def logTo (space : Nat → Nat) (output : Nat → Output) (printSize1 messageSize : Nat) :
    Option Logged := do
  let printSize2 ← intAdd messageSize printSize1
  let npfCalls := formatted space printSize1 messageSize
  if printSize2 = 0 then
    return ⟨npfCalls, []⟩
  else
    return ⟨npfCalls, [output printSize2]⟩

def log (printSize1 messageSize : Nat) : Option Logged :=
  logTo (sizeDifference bufferSize) .write printSize1 messageSize

def logIf (options : LogOptions) (logPrio logId : U8) (printSize1 messageSize : Nat) :
    Option Logged :=
  if options.returnsEarly logPrio logId then
    some ⟨[], []⟩
  else
    logTo (sizeDifference bufferSize) .write printSize1 messageSize

def vlogToBuffer (printSize1 messageSize : Nat) : Option Logged :=
  logTo (sizeDifference logPrintfBuffSize) .lwrbWrite printSize1 messageSize

/-- A message that is kept in the `debug_log_buf_t` if it still has room and is sent in any case;
also the next `idx`. -/
def logAndSave (output : Nat → Output) (idx : U16) (printSize1 messageSize : Nat) :
    Option (Logged × U16) := do
  let printSize2 ← intAdd messageSize printSize1
  let npfCalls := formatted (fun _ => logPrintfBuffSize) printSize1 messageSize
  if printSize2 = 0 then
    return (⟨npfCalls, []⟩, idx)
  else
    let last ← intAdd idx.toNat printSize2
    if last < debugLogBufSize then
      return (⟨npfCalls, [.memcpy printSize2, output printSize2]⟩, BitVec.ofNat 16 last)
    else
      return (⟨npfCalls, [output printSize2]⟩, idx)

def vlogPrintf (idx : U16) (printSize1 messageSize : Nat) : Option (Logged × U16) :=
  logAndSave .uart1SendString idx printSize1 messageSize

/-- `vlog_serdes`; the size is a `uint16_t` parameter of `serdes_send`. -/
def vlogSerdes (idx : U16) (printSize1 messageSize : Nat) : Option (Logged × U16) :=
  logAndSave (fun size => .serdesSend (u16 size)) idx printSize1 messageSize

/-! ## The buffer -/

/-- nanoprintf: the offsets it writes for a size and the length of a text. -/
structure Nanoprintf where
  writes : Nat → Nat → List Nat
  within : ∀ size length, ∀ offset ∈ writes size length, offset < size

/-- It writes what fits and ends the whole buffer with a zero. -/
def terminating : Nanoprintf where
  writes size length :=
    if size = 0 then [] else List.range (min (length + 1) size) ++ [size - 1]
  within size length offset written := by
    split at written
    · exact absurd written List.not_mem_nil
    · rcases List.mem_append.mp written with inText | atEnd
      · have := List.mem_range.mp inText
        omega
      · have := List.mem_singleton.mp atEnd
        omega

theorem terminating_last {size : Nat} (positive : 0 < size) (length : Nat) :
    size - 1 ∈ terminating.writes size length := by
  dsimp only [terminating]
  rw [if_neg positive.ne']
  exact List.mem_append_right _ (List.mem_singleton.mpr rfl)

def WritesInside (npf : Nanoprintf) (calls : List NpfCall) : Prop :=
  ∀ call ∈ calls, ∀ offset ∈ npf.writes call.size call.length, call.offset + offset < bufferSize

def OutputsInside (outputs : List Output) : Prop :=
  ∀ output ∈ outputs, output.bytes ≤ bufferSize

/-- Whatever nanoprintf writes of the bytes it may write, the message stays in its buffer. -/
def StaysInside (logged : Option Logged) : Prop :=
  ∃ effects, logged = some effects ∧ (∀ npf, WritesInside npf effects.npfCalls) ∧
    OutputsInside effects.outputs

/-- The last byte of the given size has to lie in the buffer. -/
theorem writesInside_formatted_iff (space : Nat → Nat) (printSize1 messageSize : Nat) :
    (∀ npf, WritesInside npf (formatted space printSize1 messageSize)) ↔
      space printSize1 = 0 ∨ printSize1 + space printSize1 ≤ bufferSize := by
  constructor
  · intro inside
    rcases Nat.eq_zero_or_pos (space printSize1) with none | some
    · exact .inl none
    · have written := inside terminating ⟨printSize1, space printSize1, messageSize⟩
        (List.mem_cons_of_mem _ List.mem_cons_self) _ (terminating_last some messageSize)
      dsimp only at written
      exact .inr (by omega)
  · intro room npf call isCall offset written
    have bound := npf.within _ _ offset written
    rcases List.mem_pair.mp isCall with rfl | rfl
    · dsimp only at bound ⊢
      omega
    · dsimp only at bound ⊢
      omega

variable {printSize1 messageSize : Nat}

/-- A message that is formatted without an overflow. -/
theorem staysInside_ite_iff {fits : Prop} [Decidable fits] (space : Nat → Nat)
    (outputs : List Output) :
    StaysInside (if fits then some ⟨formatted space printSize1 messageSize, outputs⟩ else none) ↔
      fits ∧ (space printSize1 = 0 ∨ printSize1 + space printSize1 ≤ bufferSize) ∧
        OutputsInside outputs := by
  rw [← writesInside_formatted_iff space printSize1 messageSize]
  constructor
  · rintro ⟨effects, ran, inside⟩
    obtain ⟨isFit, same⟩ := Option.ite_none_right_eq_some.mp ran
    obtain rfl := Option.some.inj same
    exact ⟨isFit, inside⟩
  · rintro ⟨isFit, inside⟩
    exact ⟨_, if_pos isFit, inside⟩

/-! ## The five functions -/

def handedOn (output : Nat → Output) (size : Nat) : List Output :=
  if size = 0 then [] else [output size]

theorem logTo_eq (space : Nat → Nat) (output : Nat → Output) :
    logTo space output printSize1 messageSize =
      if printSize1 + messageSize < 2147483648 then
        some ⟨formatted space printSize1 messageSize, handedOn output (printSize1 + messageSize)⟩
      else none := by
  unfold logTo intAdd handedOn
  rw [Nat.add_comm messageSize printSize1]
  by_cases fits : printSize1 + messageSize < 2147483648
  · rw [if_pos fits, if_pos fits]
    dsimp only [Option.bind_eq_bind, Option.bind_some]
    split
    · rfl
    · rfl
  · rw [if_neg fits, if_neg fits]
    rfl

theorem outputsInside_handedOn_iff {output : Nat → Output} (same : ∀ size, (output size).bytes = size)
    (size : Nat) : OutputsInside (handedOn output size) ↔ size ≤ bufferSize := by
  unfold OutputsInside handedOn
  split
  · rename_i empty
    exact iff_of_true nofun (by omega)
  · rw [List.forall_mem_singleton, same]

/-- Two texts that both fit, with room for what the second call may write. -/
theorem staysInside_logTo_iff (space : Nat → Nat) {output : Nat → Output}
    (same : ∀ size, (output size).bytes = size) :
    StaysInside (logTo space output printSize1 messageSize) ↔
      (space printSize1 = 0 ∨ printSize1 + space printSize1 ≤ bufferSize) ∧
        printSize1 + messageSize ≤ bufferSize := by
  rw [logTo_eq, staysInside_ite_iff, outputsInside_handedOn_iff same]
  constructor
  · exact And.right
  · intro both
    have bound : bufferSize = 512 := rfl
    exact ⟨by omega, both⟩

def savedOutputs (output : Nat → Output) (idx : U16) (size : Nat) : List Output :=
  if size = 0 then []
  else if idx.toNat + size < debugLogBufSize then [.memcpy size, output size]
  else [output size]

theorem logAndSave_eq (output : Nat → Output) (idx : U16) :
    (logAndSave output idx printSize1 messageSize).map Prod.fst =
      if idx.toNat + (printSize1 + messageSize) < 2147483648 then
        some ⟨formatted (fun _ => logPrintfBuffSize) printSize1 messageSize,
          savedOutputs output idx (printSize1 + messageSize)⟩
      else none := by
  have narrow := idx.isLt
  unfold logAndSave intAdd savedOutputs
  rw [Nat.add_comm messageSize printSize1]
  by_cases fits : idx.toNat + (printSize1 + messageSize) < 2147483648
  · rw [if_pos fits, if_pos (by omega)]
    dsimp only [Option.bind_eq_bind, Option.bind_some]
    rw [if_pos fits]
    dsimp only [Option.bind_some]
    split
    · rfl
    · split
      · rfl
      · rfl
  · rw [if_neg fits]
    by_cases sum : printSize1 + messageSize < 2147483648
    · rw [if_pos sum]
      dsimp only [Option.bind_eq_bind, Option.bind_some]
      rw [if_neg (show ¬printSize1 + messageSize = 0 by omega), if_neg fits]
      rfl
    · rw [if_neg sum]
      rfl

theorem outputsInside_savedOutputs_iff {output : Nat → Output} {narrow : Nat → Nat}
    (handed : ∀ size, (output size).bytes = narrow size) (narrow_zero : narrow 0 = 0) (idx : U16)
    (size : Nat) : OutputsInside (savedOutputs output idx size) ↔ narrow size ≤ bufferSize := by
  have bound : debugLogBufSize = bufferSize := rfl
  unfold OutputsInside savedOutputs
  split
  · rename_i empty
    rw [empty, narrow_zero]
    exact iff_of_true nofun (Nat.zero_le _)
  split
  · rename_i room
    have copied : (Output.memcpy size).bytes ≤ bufferSize := by
      change size ≤ bufferSize
      omega
    rw [List.forall_mem_cons, List.forall_mem_singleton, handed]
    exact and_iff_right copied
  · rw [List.forall_mem_singleton, handed]

/-- The second call may write 511 bytes wherever the timestamp ends. -/
theorem staysInside_logAndSave_iff {output : Nat → Output} {narrow : Nat → Nat}
    (handed : ∀ size, (output size).bytes = narrow size) (narrow_zero : narrow 0 = 0) (idx : U16) :
    StaysInside ((logAndSave output idx printSize1 messageSize).map Prod.fst) ↔
      printSize1 ≤ 1 ∧ narrow (printSize1 + messageSize) ≤ bufferSize ∧
        idx.toNat + (printSize1 + messageSize) < 2147483648 := by
  have bound : bufferSize = 512 := rfl
  have given : logPrintfBuffSize = 511 := rfl
  rw [logAndSave_eq, staysInside_ite_iff, outputsInside_savedOutputs_iff handed narrow_zero]
  constructor
  · rintro ⟨fits, room, short⟩
    exact ⟨by omega, short, fits⟩
  · rintro ⟨early, short, fits⟩
    exact ⟨fits, by omega, short⟩

/-- A second call that is given the rest of the buffer has room unless there is no rest. -/
theorem room_in_rest_iff (limit : Nat) (small : limit ≤ bufferSize) :
    ((sizeDifference limit printSize1 = 0 ∨
          printSize1 + sizeDifference limit printSize1 ≤ bufferSize) ∧
        printSize1 + messageSize ≤ bufferSize) ↔
      printSize1 ≤ limit ∧ printSize1 + messageSize ≤ bufferSize := by
  have bound : bufferSize = 512 := rfl
  unfold sizeDifference u32
  constructor
  · rintro ⟨room, short⟩
    exact ⟨by omega, short⟩
  · rintro ⟨early, short⟩
    exact ⟨by omega, short⟩

/-- Where a timestamp and a message fit together, `_log` and `log_if` format and hand on both. -/
theorem staysInside_logTo_rest_iff :
    StaysInside (logTo (sizeDifference bufferSize) .write printSize1 messageSize) ↔
      printSize1 + messageSize ≤ 512 := by
  have bound : bufferSize = 512 := rfl
  rw [staysInside_logTo_iff _ (fun _ => rfl), room_in_rest_iff _ le_rfl]
  omega

/-- In each of the log functions, for which lengths of the timestamp and of the message all bytes
are written inside the buffer and at most as many handed on as it has. -/
theorem log_functions_stay_inside_iff (options : LogOptions) (logPrio logId : U8) (idx : U16)
    (printSize1 messageSize : Nat) :
    (StaysInside (log printSize1 messageSize) ↔ printSize1 + messageSize ≤ 512) ∧
      (StaysInside (logIf options logPrio logId printSize1 messageSize) ↔
        options.returnsEarly logPrio logId = true ∨ printSize1 + messageSize ≤ 512) ∧
      (StaysInside (vlogToBuffer printSize1 messageSize) ↔
        printSize1 ≠ 512 ∧ printSize1 + messageSize ≤ 512) ∧
      (StaysInside ((vlogPrintf idx printSize1 messageSize).map Prod.fst) ↔
        printSize1 ≤ 1 ∧ printSize1 + messageSize ≤ 512) ∧
      (StaysInside ((vlogSerdes idx printSize1 messageSize).map Prod.fst) ↔
        printSize1 ≤ 1 ∧ u16 (printSize1 + messageSize) ≤ 512 ∧
          idx.toNat + (printSize1 + messageSize) < 2147483648) := by
  have narrow := idx.isLt
  have bound : bufferSize = 512 := rfl
  have limit : logPrintfBuffSize = 511 := rfl
  refine ⟨staysInside_logTo_rest_iff, ?_, ?_, ?_, ?_⟩
  · unfold logIf
    split
    · rename_i early
      refine iff_of_true ⟨_, rfl, fun npf call isCall => ?_, nofun⟩ (.inl early)
      exact absurd isCall List.not_mem_nil
    · rename_i passes
      exact staysInside_logTo_rest_iff.trans (or_iff_right passes).symm
  · rw [vlogToBuffer, staysInside_logTo_iff _ (fun _ => rfl), room_in_rest_iff _ (by omega)]
    omega
  · have printed := @staysInside_logAndSave_iff printSize1 messageSize .uart1SendString id
      (fun _ => rfl) rfl idx
    refine printed.trans ?_
    dsimp only [id]
    omega
  · exact staysInside_logAndSave_iff (fun _ => rfl) rfl idx

/-- A long message is handed on with the length it would have had, and a short one is written
behind the buffer that keeps no room for the timestamp. -/
theorem messages_leave_the_buffer :
    (log 16 500 = some ⟨[⟨0, 512, 16⟩, ⟨16, 496, 500⟩], [.write 516]⟩ ∧
        ¬ StaysInside (log 16 500)) ∧
      ((vlogPrintf 0 16 5).map Prod.fst =
          some ⟨[⟨0, 512, 16⟩, ⟨16, 511, 5⟩], [.memcpy 21, .uart1SendString 21]⟩ ∧
        ¬ StaysInside ((vlogPrintf 0 16 5).map Prod.fst)) := by
  refine ⟨⟨rfl, ?_⟩, ⟨rfl, ?_⟩⟩
  · exact staysInside_logTo_rest_iff.not.mpr (by decide)
  · have printed := @staysInside_logAndSave_iff 16 5 .uart1SendString id (fun _ => rfl) rfl 0
    exact printed.not.mpr fun stays => absurd stays.1 (by decide)

/-! ## The messages that pass the filter -/

def PassedOn (logged : Option Logged) : Prop :=
  ∃ effects size, logged = some effects ∧ Output.write size ∈ effects.outputs

theorem passedOn_logIf_iff {options : LogOptions} {logPrio logId : U8} {printSize2 : Nat}
    (added : intAdd messageSize printSize1 = some printSize2) (nonzero : printSize2 ≠ 0) :
    PassedOn (logIf options logPrio logId printSize1 messageSize) ↔
      options.returnsEarly logPrio logId = false := by
  unfold logIf
  split
  · rename_i early
    refine iff_of_false ?_ (by rw [early]; decide)
    rintro ⟨effects, size, same, listed⟩
    obtain rfl := Option.some.inj same
    exact absurd listed List.not_mem_nil
  · rename_i passes
    refine iff_of_true ?_ (Bool.eq_false_of_not_eq_true passes)
    unfold logTo
    rw [added]
    dsimp only [Option.bind_eq_bind, Option.bind_some]
    rw [if_neg nonzero]
    exact ⟨_, printSize2, rfl, List.mem_singleton.mpr rfl⟩

/-- With a list of identifiers `log_if` decides as the options ask exactly if the message is not
asked for or the list has no other identifier. -/
theorem log_if_selects_iff {logIds : List U8} (nonEmpty : logIds ≠ []) (logLevel : Option Nat)
    (logPrio logId : U8) {printSize2 : Nat}
    (added : intAdd messageSize printSize1 = some printSize2) (nonzero : printSize2 ≠ 0) :
    (PassedOn (logIf (logOptions (some logIds) logLevel) logPrio logId printSize1 messageSize) ↔
        Requested logIds logLevel logPrio logId) ↔
      (Requested logIds logLevel logPrio logId → ∀ entry ∈ logIds, entry = logId) := by
  rw [passedOn_logIf_iff added nonzero]
  have decision := @returnsEarly_eq_false_iff logLevel logPrio logId logIds nonEmpty
  constructor
  · intro exactly requested
    exact (decision.mp (exactly.mpr requested)).2
  · intro alone
    refine decision.trans ⟨And.left, fun requested => ⟨requested, alone requested⟩⟩

theorem log_if_selects_a_single_id :
    PassedOn (logIf (logOptions (some [4]) (some 5)) 3 4 16 10) ↔ Requested [4] (some 5) 3 4 :=
  (@log_if_selects_iff 16 10 [4] (by decide) (some 5) 3 4 26 rfl (by decide)).mpr
    fun _ => by decide

/-- With two identifiers no message of either is passed on. -/
theorem listed_message_dropped :
    Requested [1, 2] none 1 1 ∧ logIf (logOptions (some [1, 2]) none) 1 1 16 10 = some ⟨[], []⟩ ∧
      ¬ PassedOn (logIf (logOptions (some [1, 2]) none) 1 1 16 10) := by
  refine ⟨⟨by decide, nofun⟩, rfl, ?_⟩
  rw [passedOn_logIf_iff (show intAdd 10 16 = some 26 from rfl) (by decide)]
  decide

end WchCh56x.Logging
