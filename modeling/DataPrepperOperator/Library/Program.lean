import Mathlib.Logic.Relation
import Mathlib.Tactic.Cases

/-!
# Client programs of a server

A client computes locally and calls a server; the server answers each operation
and may change its state.  A `Program` is the client's half: what it calls next
as a function of the replies so far.  `Runs` joins it with a server, given as a
relation so that the server may fail or answer in several ways.

Clients that can fail are `Fallible` programs, the exception monad over
programs, with `runs_bind_ok` as the rule for peeling one statement off a
successful run.
-/

namespace ServerProgram

/-- A client: either finished, or waiting for the reply to one operation. -/
inductive Program (Op : Type) (Reply : Op → Type) (Result : Type) where
  | done (result : Result)
  | call (op : Op) (next : Reply op → Program Op Reply Result)

variable {Op : Type} {Reply : Op → Type} {State Result Other : Type}

namespace Program

protected def bind : Program Op Reply Result → (Result → Program Op Reply Other) →
    Program Op Reply Other
  | .done result, rest => rest result
  | .call op next, rest => .call op fun reply => (next reply).bind rest

instance : Monad (Program Op Reply) where
  pure := .done
  bind := Program.bind

/-- Call the server once and return its reply. -/
def request (op : Op) : Program Op Reply (Reply op) := .call op .done

@[simp]
theorem call_bind (op : Op) (next : Reply op → Program Op Reply Result)
    (rest : Result → Program Op Reply Other) :
    (Program.call op next >>= rest) = .call op fun reply => next reply >>= rest := rfl

instance : LawfulMonad (Program Op Reply) := LawfulMonad.mk' (Program Op Reply)
  (by
    intro Result program
    induction program with
    | done result => rfl
    | call op next ih =>
        exact congrArg (Program.call op) (funext ih))
  (fun _ _ => rfl)
  (by
    intro First Second Third program rest last
    induction program with
    | done result => rfl
    | call op next ih =>
        exact congrArg (Program.call op) (funext ih))

end Program

/-- One served operation with the states around it. -/
structure Event (State Op : Type) (Reply : Op → Type) where
  before : State
  op : Op
  reply : Reply op
  after : State

/-- What a server may answer, and the state it is in afterwards. -/
abbrev Server (State Op : Type) (Reply : Op → Type) :=
  State → (op : Op) → Reply op → State → Prop

/-- A complete run of a program against a server, with everything it called. -/
inductive Runs (server : Server State Op Reply) :
    Program Op Reply Result → State → List (Event State Op Reply) → Result → State → Prop where
  | done {result state} : Runs server (.done result) state [] result state
  | call {op next reply before after trace result final} :
      server before op reply after →
      Runs server (next reply) after trace result final →
      Runs server (.call op next) before (⟨before, op, reply, after⟩ :: trace) result final

variable {server : Server State Op Reply}

theorem runs_done_iff {result value : Result} {state final : State}
    {trace : List (Event State Op Reply)} :
    Runs server (.done result) state trace value final ↔
      trace = [] ∧ value = result ∧ final = state := by
  constructor
  · intro run
    cases run
    exact ⟨rfl, rfl, rfl⟩
  · rintro ⟨rfl, rfl, rfl⟩
    exact .done

theorem runs_call_iff {op : Op} {next : Reply op → Program Op Reply Result} {value : Result}
    {state final : State} {trace : List (Event State Op Reply)} :
    Runs server (.call op next) state trace value final ↔
      ∃ reply middle rest, server state op reply middle ∧
        trace = ⟨state, op, reply, middle⟩ :: rest ∧
        Runs server (next reply) middle rest value final := by
  constructor
  · intro run
    cases run with
    | call served rest => exact ⟨_, _, _, served, rfl, rest⟩
  · rintro ⟨reply, middle, rest, served, rfl, run⟩
    exact .call served run

theorem runs_request_iff {op : Op} {reply : Reply op} {state final : State}
    {trace : List (Event State Op Reply)} :
    Runs server (Program.request op) state trace reply final ↔
      server state op reply final ∧ trace = [⟨state, op, reply, final⟩] := by
  unfold Program.request
  rw [runs_call_iff]
  constructor
  · rintro ⟨answer, middle, rest, served, rfl, run⟩
    obtain ⟨rfl, rfl, rfl⟩ := runs_done_iff.mp run
    exact ⟨served, rfl⟩
  · rintro ⟨served, rfl⟩
    exact ⟨reply, final, [], served, rfl, .done⟩

/-- A sequence runs by running its parts; the traces are joined. -/
theorem runs_bind_iff {program : Program Op Reply Result}
    {rest : Result → Program Op Reply Other} {state final : State} {value : Other}
    {trace : List (Event State Op Reply)} :
    Runs server (program >>= rest) state trace value final ↔
      ∃ first middle result second, trace = first ++ second ∧
        Runs server program state first result middle ∧
        Runs server (rest result) middle second value final := by
  induction program generalizing state trace with
  | done result =>
      constructor
      · intro run
        exact ⟨[], state, result, trace, rfl, .done, run⟩
      · rintro ⟨first, middle, result', second, rfl, ran, run⟩
        obtain ⟨rfl, rfl, rfl⟩ := runs_done_iff.mp ran
        exact run
  | call op next ih =>
      rw [Program.call_bind, runs_call_iff]
      constructor
      · rintro ⟨reply, middle, tail, served, rfl, run⟩
        obtain ⟨first, between, result, second, rfl, ran, ranRest⟩ :=
          (ih reply).mp run
        exact ⟨_, between, result, second, rfl, .call served ran, ranRest⟩
      · rintro ⟨first, between, result, second, rfl, ran, ranRest⟩
        obtain ⟨reply, middle, tail, served, rfl, ranTail⟩ := runs_call_iff.mp ran
        exact ⟨reply, middle, tail ++ second, served, rfl,
          (ih reply).mpr
            ⟨tail, between, result, second, rfl, ranTail, ranRest⟩⟩

/-- Run a program against one particular choice of answers. -/
def Program.execute (answer : State → (op : Op) → Reply op × State) :
    Program Op Reply Result → State → Result × State
  | .done result, state => (result, state)
  | .call op next, state => (next (answer state op).1).execute answer (answer state op).2

/-- What is called on the way. -/
def Program.trace (answer : State → (op : Op) → Reply op × State) :
    Program Op Reply Result → State → List (Event State Op Reply)
  | .done _, _ => []
  | .call op next, state =>
      ⟨state, op, (answer state op).1, (answer state op).2⟩ ::
        (next (answer state op).1).trace answer (answer state op).2

theorem Program.runs_trace {answer : State → (op : Op) → Reply op × State}
    (served : ∀ state op, server state op (answer state op).1 (answer state op).2)
    (program : Program Op Reply Result) (state : State) :
    Runs server program state (program.trace answer state) (program.execute answer state).1
      (program.execute answer state).2 := by
  induction program generalizing state with
  | done result => exact .done
  | call op next ih =>
      exact .call (served state op) (ih (answer state op).1 (answer state op).2)

theorem Program.execute_runs {answer : State → (op : Op) → Reply op × State}
    (served : ∀ state op, server state op (answer state op).1 (answer state op).2)
    (program : Program Op Reply Result) (state : State) :
    ∃ trace, Runs server program state trace (program.execute answer state).1
      (program.execute answer state).2 :=
  ⟨_, program.runs_trace served state⟩

/-- Every event of a run was served. -/
theorem served_of_runs {program : Program Op Reply Result} {state final : State}
    {trace : List (Event State Op Reply)} {result : Result}
    (run : Runs server program state trace result final) :
    ∀ event ∈ trace, server event.before event.op event.reply event.after := by
  induction run with
  | done => simp
  | call served _ ih =>
      exact List.forall_mem_cons.mpr ⟨served, ih⟩

/-- What every step keeps, the run keeps. -/
theorem runs_chain (related : State → State → Prop) (refl : ∀ state, related state state)
    (trans : ∀ {first second third}, related first second → related second third →
      related first third)
    {program : Program Op Reply Result} {state final : State}
    {trace : List (Event State Op Reply)} {result : Result}
    (run : Runs server program state trace result final)
    (step : ∀ event ∈ trace, related event.before event.after) : related state final := by
  induction run with
  | done => exact refl _
  | call _ _ ih =>
      obtain ⟨now, later⟩ := List.forall_mem_cons.mp step
      exact trans now (ih later)

/-- A run is a run on every server that can answer the same way. -/
theorem runs_mono {other : Server State Op Reply}
    (answers : ∀ before op reply after, server before op reply after → other before op reply after)
    {program : Program Op Reply Result} {state final : State}
    {trace : List (Event State Op Reply)} {result : Result}
    (run : Runs server program state trace result final) :
    Runs other program state trace result final := by
  induction run with
  | done => exact .done
  | call served _ ih => exact .call (answers _ _ _ _ served) ih

/-- What holds after some step and is kept by every step holds in the end. -/
theorem holds_of_reached (holds : State → Prop) {program : Program Op Reply Result}
    {state final : State} {trace : List (Event State Op Reply)} {result : Result}
    (run : Runs server program state trace result final)
    (kept : ∀ event ∈ trace, holds event.before → holds event.after)
    {event : Event State Op Reply} (member : event ∈ trace) (reached : holds event.after) :
    holds final := by
  induction run with
  | done => cases member
  | @call op next reply before after rest result final _ later ih =>
      obtain ⟨_, keptLater⟩ := List.forall_mem_cons.mp kept
      obtain rfl | elsewhere := List.mem_cons.mp member
      · exact runs_chain (fun first second => holds first → holds second) (fun _ => id)
          (fun first second => second ∘ first) later keptLater reached
      · exact ih keptLater elsewhere

/-- Restricting the replies of a server restricts the replies in its traces. -/
theorem runs_restricted {allowed : (op : Op) → Reply op → Prop} {program : Program Op Reply Result}
    {state final : State} {trace : List (Event State Op Reply)} {result : Result}
    (run : Runs (fun before op reply after => server before op reply after ∧ allowed op reply)
      program state trace result final) :
    Runs server program state trace result final ∧
      ∀ event ∈ trace, allowed event.op event.reply := by
  induction run with
  | done => exact ⟨.done, by simp⟩
  | call served _ ih =>
      obtain ⟨ran, replies⟩ := ih
      exact ⟨.call served.1 ran, List.forall_mem_cons.mpr ⟨served.2, replies⟩⟩

/-- If every call may be answered without effect, any program may come to nothing. -/
theorem runs_stalled (stalls : ∀ state op, ∃ reply, server state op reply state)
    (program : Program Op Reply Result) (state : State) :
    ∃ trace result, Runs server program state trace result state := by
  induction program with
  | done result => exact ⟨[], result, .done⟩
  | call op next ih =>
      obtain ⟨reply, served⟩ := stalls state op
      obtain ⟨trace, result, run⟩ := ih reply
      exact ⟨_, result, .call served run⟩

/-- Then each state that a run passes through is also the last state of some run. -/
theorem runs_until (stalls : ∀ state op, ∃ reply, server state op reply state)
    {program : Program Op Reply Result} {state final : State} {result : Result}
    {trace : List (Event State Op Reply)} (run : Runs server program state trace result final)
    {event : Event State Op Reply} (member : event ∈ trace) :
    ∃ trace result, Runs server program state trace result event.after := by
  induction run with
  | done => cases member
  | @call op next reply before after rest result final served _ ih =>
      obtain rfl | later := List.mem_cons.mp member
      · obtain ⟨trace, result, stalled⟩ := runs_stalled stalls (next reply) after
        exact ⟨_, result, .call served stalled⟩
      · obtain ⟨trace, result, continued⟩ := ih later
        exact ⟨_, result, .call served continued⟩

/-- A program that stops at its first failure. -/
abbrev Fallible (Failure Op : Type) (Reply : Op → Type) := ExceptT Failure (Program Op Reply)

variable {Failure : Type}

namespace Fallible

/-- Run a program that cannot fail. -/
def lift (program : Program Op Reply Result) : Fallible Failure Op Reply Result :=
  ExceptT.lift program

/-- Fail with the error of a pure computation. -/
def ofExcept (outcome : Except Failure Result) : Fallible Failure Op Reply Result :=
  ExceptT.mk (.done outcome)

end Fallible

theorem runs_pure_iff {value : Result} {state final : State}
    {trace : List (Event State Op Reply)} {outcome : Except Failure Result} :
    Runs server (pure value : Fallible Failure Op Reply Result).run state trace outcome final ↔
      trace = [] ∧ outcome = .ok value ∧ final = state :=
  runs_done_iff

theorem runs_throw_iff {failure : Failure} {state final : State}
    {trace : List (Event State Op Reply)} {outcome : Except Failure Result} :
    Runs server (throw failure : Fallible Failure Op Reply Result).run state trace outcome
        final ↔
      trace = [] ∧ outcome = .error failure ∧ final = state :=
  runs_done_iff

theorem runs_ofExcept_iff {computed : Except Failure Result} {state final : State}
    {trace : List (Event State Op Reply)} {outcome : Except Failure Result} :
    Runs server (Fallible.ofExcept computed : Fallible Failure Op Reply Result).run state trace
        outcome final ↔
      trace = [] ∧ outcome = computed ∧ final = state :=
  runs_done_iff

theorem runs_lift_iff {program : Program Op Reply Result} {state final : State}
    {trace : List (Event State Op Reply)} {outcome : Except Failure Result} :
    Runs server (Fallible.lift program : Fallible Failure Op Reply Result).run state trace
        outcome final ↔
      ∃ value, outcome = .ok value ∧ Runs server program state trace value final := by
  change Runs server (Except.ok <$> program) state trace outcome final ↔ _
  rw [map_eq_pure_bind, runs_bind_iff]
  constructor
  · rintro ⟨first, middle, result, second, rfl, ran, finished⟩
    obtain ⟨rfl, rfl, rfl⟩ := runs_done_iff.mp finished
    exact ⟨result, rfl, by simpa using ran⟩
  · rintro ⟨value, rfl, ran⟩
    exact ⟨trace, final, value, [], by simp, ran, .done⟩

/-- Either the first statement fails and the rest is skipped, or both run. -/
theorem runs_fallible_bind_iff {program : Fallible Failure Op Reply Result}
    {rest : Result → Fallible Failure Op Reply Other} {state final : State}
    {outcome : Except Failure Other} {trace : List (Event State Op Reply)} :
    Runs server (program >>= rest).run state trace outcome final ↔
      (∃ failure, outcome = .error failure ∧
        Runs server program.run state trace (.error failure) final) ∨
      ∃ first middle result second, trace = first ++ second ∧
        Runs server program.run state first (.ok result) middle ∧
        Runs server (rest result).run middle second outcome final := by
  rw [ExceptT.run_bind, runs_bind_iff]
  constructor
  · rintro ⟨first, middle, result, second, rfl, ran, ranRest⟩
    cases result with
    | error failure =>
        obtain ⟨rfl, rfl, rfl⟩ := runs_done_iff.mp ranRest
        exact .inl ⟨failure, rfl, by simpa using ran⟩
    | ok result => exact .inr ⟨first, middle, result, second, rfl, ran, ranRest⟩
  · rintro (⟨failure, rfl, ran⟩ | ⟨first, middle, result, second, rfl, ran, ranRest⟩)
    · exact ⟨trace, final, .error failure, [], by simp, ran, .done⟩
    · exact ⟨first, middle, .ok result, second, rfl, ran, ranRest⟩

/-- A sequence that starts with a call. -/
theorem runs_ask_bind {op : Op} {rest : Reply op → Fallible Failure Op Reply Other}
    {state final : State} {outcome : Except Failure Other} {trace : List (Event State Op Reply)}
    (run : Runs server (Fallible.lift (Program.request op) >>= rest).run state trace outcome
      final) :
    ∃ reply middle later, server state op reply middle ∧
      trace = ⟨state, op, reply, middle⟩ :: later ∧
      Runs server (rest reply).run middle later outcome final :=
  runs_call_iff.mp run

/-- A program that cannot fail, and then the rest. -/
theorem runs_lift_then {program : Program Op Reply Result}
    {rest : Result → Fallible Failure Op Reply Other} {state middle final : State}
    {result : Result} {outcome : Except Failure Other} {first second : List (Event State Op Reply)}
    (ran : Runs server program state first result middle)
    (ranRest : Runs server (rest result).run middle second outcome final) :
    Runs server (Fallible.lift program >>= rest).run state (first ++ second) outcome final :=
  runs_fallible_bind_iff.mpr
    (.inr ⟨first, middle, result, second, rfl, runs_lift_iff.mpr ⟨result, rfl, ran⟩, ranRest⟩)

/-- A sequence that starts with a program that cannot fail. -/
theorem runs_lift_bind {program : Program Op Reply Result}
    {rest : Result → Fallible Failure Op Reply Other} {state final : State}
    {outcome : Except Failure Other} {trace : List (Event State Op Reply)}
    (run : Runs server (Fallible.lift program >>= rest).run state trace outcome final) :
    ∃ first middle result second, trace = first ++ second ∧
      Runs server program state first result middle ∧
      Runs server (rest result).run middle second outcome final := by
  rcases runs_fallible_bind_iff.mp run with
    ⟨_, _, failed⟩ | ⟨first, middle, result, second, joined, ran, ranRest⟩
  · obtain ⟨_, impossible, _⟩ := runs_lift_iff.mp failed
    cases impossible
  · obtain ⟨_, lifted, ran⟩ := runs_lift_iff.mp ran
    cases lifted
    exact ⟨first, middle, result, second, joined, ran, ranRest⟩

/-- A sequence that starts with a pure computation. -/
theorem runs_ofExcept_bind {computed : Except Failure Result}
    {rest : Result → Fallible Failure Op Reply Other} {state final : State}
    {outcome : Except Failure Other} {trace : List (Event State Op Reply)}
    (run : Runs server (Fallible.ofExcept computed >>= rest).run state trace outcome final) :
    (∃ failure, computed = .error failure ∧ outcome = .error failure ∧ final = state) ∨
      ∃ result, computed = .ok result ∧
        Runs server (rest result).run state trace outcome final := by
  cases computed with
  | error failure =>
      obtain ⟨_, rfl, rfl⟩ := runs_done_iff.mp run
      exact .inl ⟨failure, rfl, rfl, rfl⟩
  | ok result => exact .inr ⟨result, rfl, run⟩

/-- A sequence that succeeds has run both parts to success. -/
theorem runs_bind_ok {program : Fallible Failure Op Reply Result}
    {rest : Result → Fallible Failure Op Reply Other} {state final : State} {value : Other}
    {trace : List (Event State Op Reply)}
    (run : Runs server (program >>= rest).run state trace (.ok value) final) :
    ∃ first middle result second, trace = first ++ second ∧
      Runs server program.run state first (.ok result) middle ∧
      Runs server (rest result).run middle second (.ok value) final := by
  rcases runs_fallible_bind_iff.mp run with ⟨failure, impossible, _⟩ | parts
  · cases impossible
  · exact parts

/-- The program leaves the state alone, makes only calls of the given kind, and
returns a function of the state; where failures are excused, it may fail instead. -/
def Computes (server : Server State Op Reply) (reads : Op → Prop) (excused : Prop)
    (program : Fallible Failure Op Reply Result) (compute : State → Except Failure Result) :
    Prop :=
  ∀ state trace outcome final, Runs server program.run state trace outcome final →
    final = state ∧ (∀ event ∈ trace, reads event.op) ∧
      (outcome = compute state ∨ excused ∧ ∃ failure, outcome = .error failure)

section Computes

variable {reads : Op → Prop} {excused : Prop}

theorem Computes.congr {program : Fallible Failure Op Reply Result}
    {first second : State → Except Failure Result}
    (computed : Computes server reads excused program first)
    (same : ∀ state, first state = second state) :
    Computes server reads excused program second := by
  obtain rfl := funext same
  exact computed

theorem Computes.pure (value : Result) :
    Computes server reads excused (pure value : Fallible Failure Op Reply Result)
      fun _ => .ok value := by
  intro state trace outcome final run
  obtain ⟨rfl, rfl, rfl⟩ := runs_pure_iff.mp run
  exact ⟨rfl, by simp, .inl rfl⟩

theorem Computes.throw (failure : Failure) :
    Computes server reads excused (throw failure : Fallible Failure Op Reply Result)
      fun _ => .error failure := by
  intro state trace outcome final run
  obtain ⟨rfl, rfl, rfl⟩ := runs_throw_iff.mp run
  exact ⟨rfl, by simp, .inl rfl⟩

theorem Computes.ofExcept (computed : Except Failure Result) :
    Computes server reads excused (Fallible.ofExcept computed) fun _ => computed := by
  intro state trace outcome final run
  obtain ⟨rfl, rfl, rfl⟩ := runs_ofExcept_iff.mp run
  exact ⟨rfl, by simp, .inl rfl⟩

theorem Computes.bind {program : Fallible Failure Op Reply Result}
    {rest : Result → Fallible Failure Op Reply Other}
    {compute : State → Except Failure Result} {continued : Result → State → Except Failure Other}
    (first : Computes server reads excused program compute)
    (second : ∀ value, Computes server reads excused (rest value) (continued value)) :
    Computes server reads excused (program >>= rest)
      fun state => (compute state).bind fun value => continued value state := by
  intro state trace outcome final run
  rcases runs_fallible_bind_iff.mp run with
    ⟨failure, rfl, failed⟩ | ⟨_, middle, value, _, rfl, ran, ranRest⟩
  · obtain ⟨rfl, quiet, computed | ⟨excuse, _⟩⟩ := first _ _ _ _ failed
    · refine ⟨rfl, quiet, .inl ?_⟩
      simp only [← computed, Except.bind]
    · exact ⟨rfl, quiet, .inr ⟨excuse, failure, rfl⟩⟩
  · obtain ⟨rfl, quiet, computed | ⟨_, _, impossible⟩⟩ := first _ _ _ _ ran
    · obtain ⟨rfl, quietRest, result⟩ := second value _ _ _ _ ranRest
      refine ⟨rfl, List.forall_mem_append.mpr ⟨quiet, quietRest⟩, ?_⟩
      simp only [← computed, Except.bind]
      exact result
    · cases impossible

/-- A program that cannot fail, whose answer the rest does not depend on. -/
theorem Computes.bind_lift {program : Program Op Reply Result}
    {rest : Result → Fallible Failure Op Reply Other}
    {compute : State → Except Failure Other}
    (first : ∀ state trace value final, Runs server program state trace value final →
      final = state ∧ ∀ event ∈ trace, reads event.op)
    (second : ∀ value, Computes server reads excused (rest value) compute) :
    Computes server reads excused (Fallible.lift program >>= rest) compute := by
  intro state trace outcome final run
  obtain ⟨_, _, value, _, rfl, ran, ranRest⟩ := runs_lift_bind run
  obtain ⟨rfl, quiet⟩ := first _ _ _ _ ran
  obtain ⟨rfl, quietRest, result⟩ := second value _ _ _ _ ranRest
  exact ⟨rfl, List.forall_mem_append.mpr ⟨quiet, quietRest⟩, result⟩

end Computes

/-- Started under the precondition, the program makes only allowed calls and ends
under the postcondition. -/
def Hoare (server : Server State Op Reply) (allowed : Op → Prop) (pre : State → Prop)
    (program : Program Op Reply Result) (post : Result → State → Prop) : Prop :=
  ∀ state trace result final, pre state → Runs server program state trace result final →
    (∀ event ∈ trace, allowed event.op) ∧ post result final

section Hoare

variable {allowed : Op → Prop} {pre : State → Prop}

theorem Hoare.pure {value : Result} {post : Result → State → Prop}
    (holds : ∀ state, pre state → post value state) :
    Hoare server allowed pre (pure value) post := by
  intro state trace result final initially run
  obtain ⟨rfl, rfl, rfl⟩ := runs_done_iff.mp run
  exact ⟨by simp, holds _ initially⟩

theorem Hoare.request {op : Op} {post : Reply op → State → Prop} (permitted : allowed op)
    (served : ∀ before reply after, pre before → server before op reply after →
      post reply after) :
    Hoare server allowed pre (Program.request op) post := by
  intro state trace reply final initially run
  obtain ⟨answered, rfl⟩ := runs_request_iff.mp run
  exact ⟨by simpa using permitted, served _ _ _ initially answered⟩

theorem Hoare.bind {program : Program Op Reply Result} {rest : Result → Program Op Reply Other}
    {middle : Result → State → Prop} {post : Other → State → Prop}
    (first : Hoare server allowed pre program middle)
    (second : ∀ result, Hoare server allowed (middle result) (rest result) post) :
    Hoare server allowed pre (program >>= rest) post := by
  intro state trace value final initially run
  obtain ⟨_, _, result, _, rfl, ran, ranRest⟩ := runs_bind_iff.mp run
  obtain ⟨permitted, reached⟩ := first _ _ _ _ initially ran
  obtain ⟨permittedLater, holds⟩ := second result _ _ _ _ reached ranRest
  exact ⟨List.forall_mem_append.mpr ⟨permitted, permittedLater⟩, holds⟩

end Hoare

/-- A loop has run the steps of these items in turn, the last of which may have
failed.  In between it made calls that do not count. -/
inductive RunsEach {Item : Type} (server : Server State Op Reply) (idle : Op → Prop)
    (step : Item → Fallible Failure Op Reply Unit) :
    List Item → State → List (Event State Op Reply) → Bool → State → Prop where
  | stop {state} (completed : Bool) : RunsEach server idle step [] state [] completed state
  | idle {items op reply before after trace completed final} : idle op →
      server before op reply after →
      RunsEach server idle step items after trace completed final →
      RunsEach server idle step items before (⟨before, op, reply, after⟩ :: trace) completed final
  | fail {item state trace failure final} :
      Runs server (step item).run state trace (.error failure) final →
      RunsEach server idle step [item] state trace false final
  | step {item items state first middle second completed final} :
      Runs server (step item).run state first (.ok ()) middle →
      RunsEach server idle step items middle second completed final →
      RunsEach server idle step (item :: items) state (first ++ second) completed final

namespace RunsEach

variable {Item : Type} {idle : Op → Prop} {step : Item → Fallible Failure Op Reply Unit}
  {items : List Item} {state final : State} {trace : List (Event State Op Reply)}
  {completed : Bool}

theorem append {others : List Item} {last : State} {later : List (Event State Op Reply)}
    (first : RunsEach server idle step items state trace true final)
    (second : RunsEach server idle step others final later completed last) :
    RunsEach server idle step (items ++ others) state (trace ++ later) completed last := by
  generalize done : true = finished at first
  induction first with
  | stop _ => exact second
  | idle permitted served _ ih =>
      exact .idle permitted served (ih second done)
  | fail _ => cases done
  | step ran _ ih =>
      rw [List.append_assoc]
      exact .step ran (ih second done)

/-- Every event of the loop is good, if every idle call and every step is.  A step
may rely on what holds for its item until a step for the same item is run. -/
theorem events (pending : Item → State → Prop) (apart : Item → Item → Prop)
    (good : Event State Op Reply → Prop)
    (idled : ∀ before op reply after, idle op → server before op reply after →
      good ⟨before, op, reply, after⟩ ∧ ∀ item, pending item before → pending item after)
    (stepped : ∀ item before trace outcome after, item ∈ items → pending item before →
      (completed = true → outcome = .ok ()) →
      Runs server (step item).run before trace outcome after →
      (∀ event ∈ trace, good event) ∧
        ∀ other, apart item other → pending other before → pending other after)
    (distinct : items.Pairwise apart) (initially : ∀ item ∈ items, pending item state)
    (run : RunsEach server idle step items state trace completed final) :
    ∀ event ∈ trace, good event := by
  induction run with
  | stop _ => simp
  | idle permitted served _ ih =>
      obtain ⟨now, kept⟩ := idled _ _ _ _ permitted served
      have later := ih stepped distinct
        fun item member => kept item (initially item member)
      intro event member
      obtain rfl | listed := List.mem_cons.mp member
      · exact now
      · exact later event listed
  | fail ran =>
      have holds := initially _ List.mem_cons_self
      exact (stepped _ _ _ _ _ List.mem_cons_self holds (by simp) ran).1
  | step ran _ ih =>
      have holds := initially _ List.mem_cons_self
      obtain ⟨now, kept⟩ := stepped _ _ _ _ _ List.mem_cons_self holds (fun _ => rfl) ran
      obtain ⟨apartFromRest, distinctRest⟩ := List.pairwise_cons.mp distinct
      have later := ih
        (fun item before trace outcome after member =>
          stepped item before trace outcome after (List.mem_cons_of_mem _ member))
        distinctRest
        (fun item member => kept item (apartFromRest item member)
          (initially item (List.mem_cons_of_mem _ member)))
      intro event member
      obtain listed | listed := List.mem_append.mp member
      · exact now event listed
      · exact later event listed

theorem all_events (good : Event State Op Reply → Prop)
    (idled : ∀ before op reply after, idle op → server before op reply after →
      good ⟨before, op, reply, after⟩)
    (stepped : ∀ item before trace outcome after, item ∈ items →
      (completed = true → outcome = .ok ()) →
      Runs server (step item).run before trace outcome after → ∀ event ∈ trace, good event)
    (run : RunsEach server idle step items state trace completed final) :
    ∀ event ∈ trace, good event := by
  refine run.events (fun _ _ => True) (fun _ _ => True) good ?_ ?_ ?_ ?_
  · exact fun before op reply after permitted served =>
      ⟨idled before op reply after permitted served, fun _ _ => trivial⟩
  · exact fun item before trace outcome after member _ succeeded ran =>
      ⟨stepped item before trace outcome after member succeeded ran, fun _ _ _ => trivial⟩
  · exact List.pairwise_of_forall fun _ _ => trivial
  · exact fun _ _ => trivial

/-- What idle calls and steps preserve, the loop preserves. -/
theorem invariant (holds : State → Prop)
    (idled : ∀ before op reply after, idle op → server before op reply after →
      holds before → holds after)
    (stepped : ∀ item before trace outcome after, item ∈ items →
      (completed = true → outcome = .ok ()) →
      Runs server (step item).run before trace outcome after → holds before → holds after)
    (run : RunsEach server idle step items state trace completed final) (initially : holds state) :
    holds final := by
  induction run with
  | stop _ => exact initially
  | idle permitted served _ ih =>
      exact ih stepped (idled _ _ _ _ permitted served initially)
  | fail ran => exact stepped _ _ _ _ _ List.mem_cons_self (by simp) ran initially
  | step ran _ ih =>
      apply ih
      · intro item before trace outcome after member
        exact stepped item before trace outcome after (List.mem_cons_of_mem _ member)
      · exact stepped _ _ _ _ _ List.mem_cons_self (fun _ => rfl) ran initially

/-- A completed loop leaves behind what each step establishes, unless a later step
destroys it. -/
theorem establishes (reached : Item → State → Prop) (apart : Item → Item → Prop)
    (idled : ∀ item before op reply after, idle op → server before op reply after →
      reached item before → reached item after)
    (stepped : ∀ item before trace after, item ∈ items →
      Runs server (step item).run before trace (.ok ()) after →
      reached item after ∧
        ∀ other, apart other item → reached other before → reached other after)
    (distinct : items.Pairwise apart)
    (run : RunsEach server idle step items state trace true final) :
    ∀ item ∈ items, reached item final := by
  generalize done : true = finished at run
  induction run with
  | stop _ => simp
  | idle permitted served _ ih =>
      exact ih stepped distinct done
  | fail _ => cases done
  | @step item rest state _ middle second _ last ran remaining ih =>
      subst done
      obtain ⟨apartFromRest, distinctRest⟩ := List.pairwise_cons.mp distinct
      have keptByRest : reached item last := by
        apply remaining.invariant (reached item) (idled item) _
          (stepped _ _ _ _ List.mem_cons_self ran).1
        intro other before trace outcome after member succeeded otherRan holds
        rw [succeeded rfl] at otherRan
        exact (stepped other before trace after (List.mem_cons_of_mem _ member) otherRan).2 item
          (apartFromRest other member) holds
      intro other member
      obtain rfl | listed := List.mem_cons.mp member
      · exact keptByRest
      · apply ih _ distinctRest rfl other listed
        intro item before trace after member
        exact stepped item before trace after (List.mem_cons_of_mem _ member)

end RunsEach

end ServerProgram
