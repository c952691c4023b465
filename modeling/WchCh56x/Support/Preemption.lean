import WchCh56x.Support.CriticalSection
import WchCh56x.Support.Runs

/-!
# Calls in critical sections

One core with interrupts that nest to any depth.  A call enters a critical section,
goes on in steps and leaves the section with its last step.  Wherever the interrupts
come, the calls are those of a sequential run, in the order in which they return.
-/

namespace WchCh56x.Support.Preemption

universe u v w z

/-- The steps of a call inside its critical section; the last one gives the result. -/
structure Machine (State : Type u) (Call : Type v) (Frame : Type w) (Result : Type z) where
  start : Call → Frame
  advance : State → Frame → Option (State × (Frame ⊕ Result))

section Calls

variable {State : Type u} {Call : Type v} {Frame : Type w} {Result : Type z}
  (machine : Machine State Call Frame Result)

/-- A call that began in the first state is at this frame in the other one. -/
inductive Within (before : State) (call : Call) : State → Frame → Prop where
  | start : Within before call before (machine.start call)
  | step {state after : State} {frame next : Frame} : Within before call state frame →
      machine.advance state frame = some (after, .inl next) → Within before call after next

def Returns (before : State) (call : Call) (after : State) (result : Result) : Prop :=
  ∃ state frame, Within machine before call state frame ∧
    machine.advance state frame = some (after, .inr result)

/-- `rest` says what a call still does from a frame on. -/
def Computes (rest : State → Frame → Option (Result × State)) : Prop :=
  ∀ state frame, rest state frame = (machine.advance state frame).bind fun outcome =>
    outcome.2.elim (rest outcome.1) fun result => some (result, outcome.1)

section Computes

variable {machine} {rest : State → Frame → Option (Result × State)} {before : State} {call : Call}

theorem Computes.within (computes : Computes machine rest) {state : State} {frame : Frame}
    (within : Within machine before call state frame) :
    rest before (machine.start call) = rest state frame := by
  induction within with
  | start => rfl
  | step _ advanced ih =>
      refine ih.trans ((computes _ _).trans ?_)
      rw [advanced]
      rfl

/-- A call that nothing interrupts does what `rest` says of its first frame. -/
theorem Computes.returns (computes : Computes machine rest) {after : State} {result : Result}
    (returns : Returns machine before call after result) :
    rest before (machine.start call) = some (result, after) := by
  obtain ⟨state, frame, within, advanced⟩ := returns
  rw [computes.within within, computes state frame, advanced]
  rfl

/-- No step of such a call fails if the whole does not. -/
theorem Computes.advances (computes : Computes machine rest) {state : State} {frame : Frame}
    {outcome : Result × State} (whole : rest before (machine.start call) = some outcome)
    (within : Within machine before call state frame) :
    ∃ next, machine.advance state frame = some next := by
  cases advanced : machine.advance state frame with
  | some next => exact ⟨next, rfl⟩
  | none =>
      rw [computes.within within, computes state frame, advanced] at whole
      nomatch whole

end Computes

/-- What one call after the other keeps, where a call is allowed by those before it. -/
structure Keeps (allowed : List (Call × Result) → Call → Prop)
    (invariant : List (Call × Result) → State → Prop) : Prop where
  advances : ∀ calls before call state frame, invariant calls before → allowed calls call →
    Within machine before call state frame → ∃ outcome, machine.advance state frame = some outcome
  returns : ∀ calls before call after result, invariant calls before → allowed calls call →
    Returns machine before call after result → invariant (calls ++ [(call, result)]) after

end Calls

/-! ## The core -/

/-- The main program or an interrupt handler, between its calls or inside of one. -/
inductive Context (Call : Type v) (Frame : Type w) where
  | idle
  | inside (call : Call) (frame : Frame)

structure Core (State : Type u) (Call : Type v) (Frame : Type w) (Result : Type z) where
  shared : State
  critical : Critical
  /-- The innermost handler first, the main program last. -/
  contexts : List (Context Call Frame)
  /-- The calls that have returned, with their results. -/
  returned : List (Call × Result)

inductive Act (Call : Type v) where
  /-- An interrupt comes; it is handled if interrupts are enabled. -/
  | interrupt
  /-- The innermost handler returns. -/
  | leave
  | call (call : Call)
  /-- The innermost context takes the next step of its call. -/
  | advance

section Core

variable {State : Type u} {Call : Type v} {Frame : Type w} {Result : Type z}
  (machine : Machine State Call Frame Result)

/-- Interrupts are enabled, and the main program runs. -/
def Core.initial (shared : State) : Core State Call Frame Result :=
  ⟨shared, ⟨0, true, 0⟩, [.idle], []⟩

def Core.advance (core : Core State Call Frame Result) (call : Call) (frame : Frame)
    (below : List (Context Call Frame)) : Option (Core State Call Frame Result) :=
  match machine.advance core.shared frame with
  | none => none
  | some (shared, .inl next) =>
      some { core with shared := shared, contexts := .inside call next :: below }
  | some (shared, .inr result) =>
      some {
        shared := shared
        critical := core.critical.exit
        contexts := .idle :: below
        returned := core.returned ++ [(call, result)] }

/-- An act at the wrong time does not happen. -/
def Core.step (core : Core State Call Frame Result) :
    Act Call → Option (Core State Call Frame Result)
  | .interrupt =>
      if core.critical.interruptsEnabled then
        some { core with contexts := .idle :: core.contexts }
      else
        some core
  | .leave =>
      match core.contexts with
      | .idle :: below :: rest => some { core with contexts := below :: rest }
      | _ => some core
  | .call call =>
      match core.contexts with
      | .idle :: below =>
          some { core with
            critical := core.critical.enter
            contexts := .inside call (machine.start call) :: below }
      | _ => some core
  | .advance =>
      match core.contexts with
      | .inside call frame :: below => core.advance machine call frame below
      | _ => some core

/-- Nobody is inside a call. -/
def Core.Outside (core : Core State Call Frame Result) : Prop :=
  ∀ context ∈ core.contexts, context = .idle

variable (allowed : List (Call × Result) → Call → Prop)
  (invariant : List (Call × Result) → State → Prop)

/-- A context enters only calls that are allowed. -/
def Core.Admits (core : Core State Call Frame Result) : Act Call → Prop
  | .call call => allowed core.returned call
  | _ => True

instance [∀ calls call, Decidable (allowed calls call)] (core : Core State Call Frame Result) :
    (act : Act Call) → Decidable (core.Admits allowed act)
  | .call call => inferInstanceAs (Decidable (allowed core.returned call))
  | .interrupt | .leave | .advance => inferInstanceAs (Decidable True)

/-- What the contexts are up to, where the calls that have returned lead to `before`. -/
inductive Core.Stands (core : Core State Call Frame Result) (before : State) : Prop where
  | outside : core.Outside → core.shared = before → core.critical.nesting = 0 →
      core.critical.interruptsEnabled = true → Core.Stands core before
  | inside (call : Call) (frame : Frame) (below : List (Context Call Frame)) :
      core.contexts = .inside call frame :: below → (∀ context ∈ below, context = .idle) →
      allowed core.returned call → Within machine before call core.shared frame →
      core.critical.nesting = 1 → core.critical.interruptsEnabled = false →
      Core.Stands core before

/-- The calls that have returned ran one after the other, and at most the innermost context is
inside a further one. -/
def Core.Atomic (core : Core State Call Frame Result) : Prop :=
  ∃ before, invariant core.returned before ∧ core.Stands machine allowed before

variable {machine} {allowed} {invariant} {core : Core State Call Frame Result} {before : State}

theorem Core.atomic_initial {initial : State} (holds : invariant [] initial) :
    (Core.initial initial : Core State Call Frame Result).Atomic machine allowed invariant :=
  ⟨initial, holds, .outside (fun _ member => List.mem_singleton.mp member) rfl rfl rfl⟩

/-- Where the critical section is left, everything is in the state after the calls. -/
theorem Core.Stands.shared_eq (stands : core.Stands machine allowed before) (outside : core.Outside) :
    core.shared = before := by
  cases stands with
  | outside _ same => exact same
  | inside call frame below contexts =>
      have idle := outside (.inside call frame) (contexts ▸ List.mem_cons_self ..)
      nomatch idle

/-- Interrupts are disabled exactly while somebody is inside a call. -/
theorem Core.Stands.enabled_iff (stands : core.Stands machine allowed before) :
    core.critical.interruptsEnabled = true ↔ core.Outside := by
  cases stands with
  | outside outside _ _ enabled => exact iff_of_true enabled outside
  | inside call frame below contexts _ _ _ _ disabled =>
      refine iff_of_false (by rw [disabled]; exact Bool.false_ne_true) fun outside => ?_
      have idle := outside (.inside call frame) (contexts ▸ List.mem_cons_self ..)
      nomatch idle

/-- A step inside a call is one of the uninterrupted call. -/
theorem Core.advance_atomic (keeps : Keeps machine allowed invariant)
    (holds : invariant core.returned before) {call : Call} {frame : Frame}
    {below : List (Context Call Frame)} (idle : ∀ context ∈ below, context = .idle)
    (admitted : allowed core.returned call) (within : Within machine before call core.shared frame)
    (nesting : core.critical.nesting = 1) (disabled : core.critical.interruptsEnabled = false) :
    ∃ next, core.advance machine call frame below = some next ∧
      next.Atomic machine allowed invariant := by
  obtain ⟨⟨shared, outcome⟩, advanced⟩ :=
    keeps.advances core.returned before call core.shared frame holds admitted within
  unfold Core.advance
  rw [advanced]
  cases outcome with
  | inl next =>
      exact ⟨_, rfl, before, holds,
        .inside call next below rfl idle admitted (within.step advanced) nesting disabled⟩
  | inr result =>
      refine ⟨_, rfl, shared, keeps.returns _ before call shared result holds admitted
        ⟨core.shared, frame, within, advanced⟩, .outside ?_ rfl ?_ ?_⟩
      · intro context member
        rcases List.mem_cons.mp member with rfl | inBelow
        · rfl
        · exact idle context inBelow
      · simp [Critical.exit, nesting]
      · simp [Critical.exit, nesting]

/-- Every step keeps the calls atomic. -/
theorem Core.step_atomic (keeps : Keeps machine allowed invariant)
    (atomic : core.Atomic machine allowed invariant) {act : Act Call}
    (admits : core.Admits allowed act) :
    ∃ next, core.step machine act = some next ∧ next.Atomic machine allowed invariant := by
  obtain ⟨before, holds, stands⟩ := atomic
  have unchanged : core.Atomic machine allowed invariant := ⟨before, holds, stands⟩
  cases stands with
  | inside call frame below contexts idle admitted within nesting disabled =>
      cases act with
      | interrupt => exact ⟨core, by rw [step, if_neg (by rw [disabled]; decide)], unchanged⟩
      | leave => exact ⟨core, by rw [step, contexts], unchanged⟩
      | call other => exact ⟨core, by rw [step, contexts], unchanged⟩
      | advance =>
          rw [step, contexts]
          exact advance_atomic keeps holds idle admitted within nesting disabled
  | outside outside same nesting enabled =>
      cases act with
      | interrupt =>
          refine ⟨{ core with contexts := .idle :: core.contexts }, by rw [step, if_pos enabled],
            before, holds, .outside ?_ same nesting enabled⟩
          intro context member
          rcases List.mem_cons.mp member with rfl | inContexts
          · rfl
          · exact outside context inContexts
      | leave =>
          cases contexts : core.contexts with
          | nil => exact ⟨core, by rw [step, contexts], unchanged⟩
          | cons first rest =>
              obtain rfl := outside first (contexts ▸ List.mem_cons_self ..)
              cases rest with
              | nil => exact ⟨core, by rw [step, contexts], unchanged⟩
              | cons below rest =>
                  refine ⟨{ core with contexts := below :: rest }, by rw [step, contexts], before,
                    holds, .outside ?_ same nesting enabled⟩
                  intro context member
                  exact outside context (contexts ▸ List.mem_cons_of_mem _ member)
      | call call =>
          cases contexts : core.contexts with
          | nil => exact ⟨core, by rw [step, contexts], unchanged⟩
          | cons first below =>
              obtain rfl := outside first (contexts ▸ List.mem_cons_self ..)
              refine ⟨{ core with
                  critical := core.critical.enter
                  contexts := .inside call (machine.start call) :: below },
                by rw [step, contexts], before, holds,
                .inside call (machine.start call) below rfl ?_ admits ?_ ?_ rfl⟩
              · intro context member
                exact outside context (contexts ▸ List.mem_cons_of_mem _ member)
              · rw [same]
                exact .start
              · simp [Critical.enter, nesting]
      | advance =>
          cases contexts : core.contexts with
          | nil => exact ⟨core, by rw [step, contexts], unchanged⟩
          | cons first below =>
              obtain rfl := outside first (contexts ▸ List.mem_cons_self ..)
              exact ⟨core, by rw [step, contexts], unchanged⟩

/-- Wherever interrupts come, the calls run one after the other, in the order of their returns. -/
theorem always_atomic (keeps : Keeps machine allowed invariant) {initial : State}
    (holds : invariant [] initial) {acts : List (Act Call)}
    (every : Runs.EveryStep (Core.step machine) (Core.Admits allowed) (Core.initial initial) acts) :
    Runs.Always (Core.step machine) (Core.Atomic machine allowed invariant) (Core.initial initial)
      acts :=
  Runs.always_of_everyStep (fun _ _ atomic admits => Core.step_atomic keeps atomic admits)
    (Core.atomic_initial holds) every

end Core

end WchCh56x.Support.Preemption
