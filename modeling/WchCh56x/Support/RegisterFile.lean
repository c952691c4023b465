import Mathlib.Data.List.Sigma
import Mathlib.Tactic

/-!
# Register files

A register file gives every register a value of its own type.  A list of writes
is run in order; where no register is written twice the order does not matter,
and the run is the identity only if every write repeats what is there.
-/

namespace WchCh56x.Support.RegisterFile

universe u v

variable {Reg : Type u} [DecidableEq Reg] {Value : Reg → Type v}

def run (file : (reg : Reg) → Value reg) (writes : List (Sigma Value)) : (reg : Reg) → Value reg :=
  writes.foldl (fun file write => Function.update file write.1 write.2) file

@[simp] theorem run_nil (file : (reg : Reg) → Value reg) : run file [] = file := rfl

@[simp] theorem run_cons (file : (reg : Reg) → Value reg) (write : Sigma Value)
    (rest : List (Sigma Value)) :
    run file (write :: rest) = run (Function.update file write.1 write.2) rest := rfl

theorem run_append (file : (reg : Reg) → Value reg) (first second : List (Sigma Value)) :
    run file (first ++ second) = run (run file first) second := List.foldl_append

variable {file : (reg : Reg) → Value reg} {writes : List (Sigma Value)}

/-- A register that no write names keeps its value. -/
theorem run_of_notMem {reg : Reg} (untouched : reg ∉ writes.keys) : run file writes reg = file reg := by
  induction writes generalizing file with
  | nil => rfl
  | cons write rest ih =>
      rw [List.keys_cons, List.mem_cons, not_or] at untouched
      rw [run_cons, ih untouched.2, Function.update_of_ne untouched.1]

/-- A register that is written once holds the value of that write. -/
theorem run_of_mem (once : writes.NodupKeys) {reg : Reg} {value : Value reg}
    (member : ⟨reg, value⟩ ∈ writes) : run file writes reg = value := by
  induction writes generalizing file with
  | nil => exact absurd member List.not_mem_nil
  | cons write rest ih =>
      obtain ⟨fresh, onceRest⟩ := List.nodupKeys_cons.mp once
      rw [run_cons]
      rcases List.mem_cons.mp member with rfl | later
      · rw [run_of_notMem fresh, Function.update_self]
      · exact ih onceRest later

/-- Writes to different registers change nothing only where each repeats what is there. -/
theorem run_eq_self_iff (once : writes.NodupKeys) :
    run file writes = file ↔ ∀ write ∈ writes, file write.1 = write.2 := by
  constructor
  · intro unchanged write member
    have held : run file writes write.1 = write.2 := run_of_mem once member
    rw [← held, unchanged]
  · intro repeated
    funext reg
    by_cases touched : reg ∈ writes.keys
    · obtain ⟨value, member⟩ := List.exists_of_mem_keys touched
      rw [run_of_mem once member, repeated _ member]
    · exact run_of_notMem touched

/-- A register to which only one value is ever written. -/
theorem run_eq_iff {reg : Reg} {value : Value reg}
    (only : ∀ other, ⟨reg, other⟩ ∈ writes → other = value) :
    run file writes reg = value ↔ file reg = value ∨ reg ∈ writes.keys := by
  induction writes generalizing file with
  | nil => simp
  | cons write rest ih =>
      obtain ⟨name, written⟩ := write
      have onlyRest : ∀ other, ⟨reg, other⟩ ∈ rest → other = value := fun other member =>
        only other (List.mem_cons_of_mem _ member)
      rw [run_cons, ih onlyRest, List.keys_cons, List.mem_cons]
      by_cases same : reg = name
      · subst same
        have isValue : written = value := only written List.mem_cons_self
        rw [Function.update_self]
        simp [isValue]
      · rw [Function.update_of_ne same]
        simp [same]

end WchCh56x.Support.RegisterFile
