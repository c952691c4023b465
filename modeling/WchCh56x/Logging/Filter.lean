import WchCh56x.CTypes

/-!
# The filter of `log_if`, `logging/logging.c`

`LOG_FILTER_IDS` and `LOG_LEVEL` are build options, and either may be undefined.
-/

namespace WchCh56x.Logging

/-- The options that `logging.c` is compiled with; `log_ids` is `LOG_FILTER_IDS`. -/
structure LogOptions where
  logIds : Option (List U8)
  logLevel : Option Nat
  deriving DecidableEq, Repr

def logOptions (logFilterIds : Option (List U8)) (logLevel : Option Nat) : LogOptions :=
  match logFilterIds, logLevel with
  | none, none => ⟨none, some 1⟩
  | _, _ => ⟨logFilterIds, logLevel⟩

/-- The loop over `log_ids`: whether it returns from `log_if`. -/
def filterReturns (logLevel : Option Nat) (logPrio logId : U8) : List U8 → Bool
  | [] => false
  | entry :: rest =>
      match logLevel with
      | some level =>
          if logId ≠ entry ∨ logPrio.toNat > level then true
          else filterReturns logLevel logPrio logId rest
      | none =>
          if logId ≠ entry then true else filterReturns logLevel logPrio logId rest

/-- Whether `log_if` returns before it formats the message. -/
def LogOptions.returnsEarly (options : LogOptions) (logPrio logId : U8) : Bool :=
  match options.logIds, options.logLevel with
  | some logIds, logLevel => filterReturns logLevel logPrio logId logIds
  | none, some level => decide (logPrio.toNat > level)
  | none, none => false

def LevelAllows (logLevel : Option Nat) (logPrio : U8) : Prop :=
  ∀ level, logLevel = some level → logPrio.toNat ≤ level

/-- The messages that the options ask for. -/
def Requested (logIds : List U8) (logLevel : Option Nat) (logPrio logId : U8) : Prop :=
  logId ∈ logIds ∧ LevelAllows logLevel logPrio

variable {logLevel : Option Nat} {logPrio logId : U8}

/-- One turn of the loop goes on if the entry is the identifier and the level allows it. -/
theorem filterReturns_cons (entry : U8) (rest : List U8) :
    filterReturns logLevel logPrio logId (entry :: rest) = false ↔
      (logId = entry ∧ LevelAllows logLevel logPrio) ∧
        filterReturns logLevel logPrio logId rest = false := by
  unfold LevelAllows
  cases logLevel with
  | none => simp [filterReturns]
  | some level =>
      rw [filterReturns]
      simp [and_assoc]

/-- The loop lets a message pass if every entry is its identifier. -/
theorem filterReturns_eq_false_iff (logIds : List U8) :
    filterReturns logLevel logPrio logId logIds = false ↔
      ∀ entry ∈ logIds, logId = entry ∧ LevelAllows logLevel logPrio := by
  induction logIds with
  | nil => exact iff_of_true rfl nofun
  | cons entry rest ih => rw [filterReturns_cons, ih, List.forall_mem_cons]

/-- With a list of identifiers a message passes if the list repeats its identifier only. -/
theorem returnsEarly_eq_false_iff {logIds : List U8} (nonEmpty : logIds ≠ []) :
    LogOptions.returnsEarly ⟨some logIds, logLevel⟩ logPrio logId = false ↔
      Requested logIds logLevel logPrio logId ∧ ∀ entry ∈ logIds, entry = logId := by
  refine (filterReturns_eq_false_iff logIds).trans ⟨fun passes => ?_, fun passes entry listed => ?_⟩
  · obtain ⟨first, listed⟩ := List.exists_mem_of_ne_nil logIds nonEmpty
    obtain ⟨rfl, allowed⟩ := passes first listed
    exact ⟨⟨listed, allowed⟩, fun entry other => (passes entry other).1.symm⟩
  · obtain ⟨⟨_, allowed⟩, same⟩ := passes
    exact ⟨(same entry listed).symm, allowed⟩

end WchCh56x.Logging
