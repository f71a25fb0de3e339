import Mathlib.Logic.Function.Basic
import DataPrepperOperator.Library.Program

/-!
# Interleaved clients

Several clients share one server.  Between any two calls of a client the others,
and an environment, may change the state.  `Ensures` is a rely-guarantee
judgement on a single program; `Pool` interleaves programs call by call, and
`Pool.guaranteed` transfers the judgements to every step of every run.
-/

namespace ServerProgram

open Relation

variable {Op : Type} {Reply : Op → Type} {State Result Other Failure : Type}

/-- Started in a given state, under interference that follows `rely`, every call
of the program satisfies `guarantee` and the final result satisfies `post`. -/
def Ensures (server : Server State Op Reply) (rely guarantee : State → State → Prop)
    (post : Result → State → Prop) : Program Op Reply Result → State → Prop
  | .done result, state => post result state
  | .call op next, state =>
      ∀ before, ReflTransGen rely state before →
        ∀ reply after, server before op reply after →
          guarantee before after ∧ Ensures server rely guarantee post (next reply) after

variable {server : Server State Op Reply} {rely guarantee : State → State → Prop}

theorem Ensures.weaken {strong weak : Result → State → Prop}
    (implies : ∀ result state, strong result state → weak result state)
    {program : Program Op Reply Result} {state : State}
    (ensured : Ensures server rely guarantee strong program state) :
    Ensures server rely guarantee weak program state := by
  induction program generalizing state with
  | done result => exact implies result state ensured
  | call op next ih =>
      intro before interference reply after served
      obtain ⟨kept, rest⟩ := ensured before interference reply after served
      exact ⟨kept, ih reply rest⟩

theorem Ensures.bind {middle : Result → State → Prop} {post : Other → State → Prop}
    {program : Program Op Reply Result} {rest : Result → Program Op Reply Other} {state : State}
    (first : Ensures server rely guarantee middle program state)
    (second : ∀ result after, middle result after →
      Ensures server rely guarantee post (rest result) after) :
    Ensures server rely guarantee post (program >>= rest) state := by
  induction program generalizing state with
  | done result => exact second result state first
  | call op next ih =>
      intro before interference reply after served
      obtain ⟨kept, later⟩ := first before interference reply after served
      exact ⟨kept, ih reply later⟩

/-- The rule for one statement of a program that can fail. -/
theorem Ensures.bind_fallible (middle : Result → State → Prop)
    {post : Except Failure Other → State → Prop}
    {program : Fallible Failure Op Reply Result}
    {rest : Result → Fallible Failure Op Reply Other} {state : State}
    (first : Ensures server rely guarantee
      (fun outcome after => match outcome with
        | .ok result => middle result after
        | .error failure => post (.error failure) after) program.run state)
    (second : ∀ result after, middle result after →
      Ensures server rely guarantee post (rest result).run after) :
    Ensures server rely guarantee post (program >>= rest).run state := by
  rw [ExceptT.run_bind]
  apply first.bind
  intro outcome after holds
  cases outcome with
  | ok result => exact second result after holds
  | error failure => exact holds

theorem Ensures.bind_ofExcept {post : Except Failure Other → State → Prop}
    {computed : Except Failure Result} {rest : Result → Fallible Failure Op Reply Other}
    {state : State}
    (failed : ∀ failure, computed = .error failure → post (.error failure) state)
    (succeeded : ∀ result, computed = .ok result →
      Ensures server rely guarantee post (rest result).run state) :
    Ensures server rely guarantee post (Fallible.ofExcept computed >>= rest).run state := by
  cases computed with
  | error failure => exact failed failure rfl
  | ok result => exact succeeded result rfl

/-- A fact that one step of interference keeps survives any amount of it. -/
theorem stable_of_interference {fact : State → Prop}
    (stable : ∀ before after, rely before after → fact before → fact after)
    {state before : State} (interference : ReflTransGen rely state before) (holds : fact state) :
    fact before := by
  induction interference with
  | refl => exact holds
  | tail _ step earlier => exact stable _ _ step earlier

/-- The rule for a single call made with a stable fact in hand. -/
theorem Ensures.request {op : Op} {post : Reply op → State → Prop} {fact : State → Prop}
    (stable : ∀ before after, rely before after → fact before → fact after)
    {state : State} (holds : fact state)
    (served : ∀ before reply after, fact before → server before op reply after →
      guarantee before after ∧ post reply after) :
    Ensures server rely guarantee post (Program.request op) state := by
  intro before interference reply after step
  exact served before reply after (stable_of_interference stable interference holds) step

theorem Ensures.lift {post : Result → State → Prop} {program : Program Op Reply Result}
    {state : State} (ensured : Ensures server rely guarantee post program state) :
    Ensures server rely guarantee
      (fun outcome final => ∃ result, outcome = .ok result ∧ post result final)
      (Fallible.lift program : Fallible Failure Op Reply Result).run state := by
  change Ensures server rely guarantee _ (Except.ok <$> program) state
  rw [map_eq_pure_bind]
  apply ensured.bind
  intro result final holds
  exact ⟨result, rfl, holds⟩

/-- As long as the replies are possible ones, the program issues only allowed
operations and returns only good results. -/
def Issues (allowed : Op → Prop) (possible : (op : Op) → Reply op → Prop)
    (good : Result → Prop) : Program Op Reply Result → Prop
  | .done result => good result
  | .call op next =>
      allowed op ∧ ∀ reply, possible op reply → Issues allowed possible good (next reply)

section Issues

variable {allowed : Op → Prop} {possible : (op : Op) → Reply op → Prop}

theorem Issues.weaken {strong weak : Result → Prop}
    (implies : ∀ result, strong result → weak result) {program : Program Op Reply Result}
    (issued : Issues allowed possible strong program) :
    Issues allowed possible weak program := by
  induction program with
  | done result => exact implies result issued
  | call op next ih =>
      exact ⟨issued.1, fun reply expected => ih reply (issued.2 reply expected)⟩

theorem Issues.bind {middle : Result → Prop} {good : Other → Prop}
    {program : Program Op Reply Result} {rest : Result → Program Op Reply Other}
    (first : Issues allowed possible middle program)
    (second : ∀ result, middle result → Issues allowed possible good (rest result)) :
    Issues allowed possible good (program >>= rest) := by
  induction program with
  | done result => exact second result first
  | call op next ih =>
      exact ⟨first.1, fun reply expected => ih reply (first.2 reply expected)⟩

theorem Issues.request (op : Op) {good : Reply op → Prop} (permitted : allowed op)
    (implies : ∀ reply, possible op reply → good reply) :
    Issues allowed possible good (Program.request op) :=
  ⟨permitted, implies⟩

/-- What a fallible program returns when it succeeds. -/
abbrev OnSuccess (good : Result → Prop) : Except Failure Result → Prop
  | .ok result => good result
  | .error _ => True

theorem onSuccess_true (outcome : Except Failure Result) :
    OnSuccess (fun _ => True) outcome := by
  cases outcome <;> trivial

theorem Issues.bind_fallible (middle : Result → Prop) {good : Other → Prop}
    {program : Fallible Failure Op Reply Result}
    {rest : Result → Fallible Failure Op Reply Other}
    (first : Issues allowed possible (OnSuccess middle) program.run)
    (second : ∀ result, middle result →
      Issues allowed possible (OnSuccess good) (rest result).run) :
    Issues allowed possible (OnSuccess good) (program >>= rest).run := by
  rw [ExceptT.run_bind]
  apply first.bind
  intro outcome holds
  cases outcome with
  | ok result => exact second result holds
  | error failure => trivial

theorem Issues.lift {good : Result → Prop} {program : Program Op Reply Result}
    (issued : Issues allowed possible good program) :
    Issues allowed possible (OnSuccess good)
      (Fallible.lift program : Fallible Failure Op Reply Result).run := by
  change Issues allowed possible _ (Except.ok <$> program)
  rw [map_eq_pure_bind]
  exact issued.bind fun _ holds => holds

theorem Issues.ofExcept {good : Result → Prop} {computed : Except Failure Result}
    (holds : ∀ result, computed = .ok result → good result) :
    Issues allowed possible (OnSuccess good)
      (Fallible.ofExcept computed : Fallible Failure Op Reply Result).run := by
  cases computed with
  | ok result => exact holds result rfl
  | error failure => trivial

/-- A program whose operations all keep the guarantee, with a fact that survives
both the operations and the interference. -/
theorem Issues.ensures {fact : State → Prop} {good : Result → Prop}
    (expected : ∀ before op reply after, fact before → server before op reply after →
      possible op reply)
    (kept : ∀ op, allowed op → ∀ before reply after, fact before →
      server before op reply after → guarantee before after ∧ fact after)
    (stable : ∀ before after, rely before after → fact before → fact after)
    {program : Program Op Reply Result} (issued : Issues allowed possible good program)
    {state : State} (holds : fact state) :
    Ensures server rely guarantee (fun result final => fact final ∧ good result)
      program state := by
  induction program generalizing state with
  | done result => exact ⟨holds, issued⟩
  | call op next ih =>
      intro before interference reply after served
      have stillHolds := stable_of_interference stable interference holds
      obtain ⟨guaranteed, factAfter⟩ := kept op issued.1 before reply after stillHolds served
      have possibleReply := expected before op reply after stillHolds served
      exact ⟨guaranteed, ih reply (issued.2 reply possibleReply) factAfter⟩

theorem Issues.weaken_success {first second : Result → Prop}
    {program : Program Op Reply (Except Failure Result)}
    (issued : Issues allowed possible (OnSuccess first) program)
    (implies : ∀ result, first result → second result) :
    Issues allowed possible (OnSuccess second) program := by
  apply issued.weaken
  intro outcome holds
  cases outcome with
  | error failure => trivial
  | ok result => exact implies result holds

/-- Whatever is replied, the program returns only good results. -/
abbrev Returns (good : Result → Prop) : Program Op Reply Result → Prop :=
  Issues (fun _ => True) (fun _ _ => True) good

theorem returns_true (program : Program Op Reply Result) : Returns (fun _ => True) program := by
  induction program with
  | done result => trivial
  | call op next ih => exact ⟨trivial, fun reply _ => ih reply⟩

theorem returns_fallible (program : Fallible Failure Op Reply Result) :
    Returns (OnSuccess fun _ => True) program.run :=
  (returns_true program.run).weaken fun outcome _ => onSuccess_true outcome

theorem Issues.and_returns {first second : Result → Prop}
    {program : Program Op Reply (Except Failure Result)}
    (issued : Issues allowed possible (OnSuccess first) program)
    (returned : Returns (OnSuccess second) program) :
    Issues allowed possible (OnSuccess fun result => first result ∧ second result) program := by
  induction program with
  | done outcome =>
      cases outcome with
      | ok result => exact ⟨issued, returned⟩
      | error failure => trivial
  | call op next ih =>
      exact ⟨issued.1, fun reply expected =>
        ih reply (issued.2 reply expected) (returned.2 reply trivial)⟩

/-- In a run without interference every served operation was an allowed one. -/
theorem Issues.runs {good : Result → Prop}
    (expected : ∀ before op reply after, server before op reply after → possible op reply)
    {program : Program Op Reply Result} (issued : Issues allowed possible good program)
    {state final : State} {result : Result} {trace : List (Event State Op Reply)}
    (run : Runs server program state trace result final) :
    good result ∧ ∀ event ∈ trace, allowed event.op := by
  induction run with
  | done => exact ⟨issued, by simp⟩
  | call served _ ih =>
      obtain ⟨returned, allowedLater⟩ :=
        ih (issued.2 _ (expected _ _ _ _ served))
      refine ⟨returned, ?_⟩
      intro event membership
      obtain rfl | later := List.mem_cons.mp membership
      · exact issued.1
      · exact allowedLater event later

end Issues

/-- From every state with the first fact, a program that can fail keeps the guarantee
and, if it succeeds, ends with the second. -/
def Upholds (server : Server State Op Reply) (rely guarantee : State → State → Prop)
    (before : State → Prop) (after : Result → State → Prop)
    (action : Fallible Failure Op Reply Result) : Prop :=
  ∀ state, before state → Ensures server rely guarantee
    (fun outcome final => OnSuccess (fun result => after result final) outcome) action.run state

section Upholds

variable {fact : State → Prop} {holds : Result → State → Prop} {later : Other → State → Prop}
  {action : Fallible Failure Op Reply Result}

theorem Upholds.pure {result : Result} (implies : ∀ state, fact state → holds result state) :
    Upholds server rely guarantee fact holds
      (Pure.pure result : Fallible Failure Op Reply Result) :=
  fun state initially => implies state initially

theorem Upholds.throw (failure : Failure) :
    Upholds server rely guarantee fact holds
      (MonadExcept.throw failure : Fallible Failure Op Reply Result) :=
  fun _ _ => trivial

theorem Upholds.bind {rest : Result → Fallible Failure Op Reply Other}
    (first : Upholds server rely guarantee fact holds action)
    (second : ∀ result, Upholds server rely guarantee (holds result) later (rest result)) :
    Upholds server rely guarantee fact later (action >>= rest) := by
  intro state initially
  apply Ensures.bind_fallible holds
  · apply (first state initially).weaken
    intro outcome final ended
    cases outcome with
    | ok result => exact ended
    | error failure => trivial
  · exact fun result middle reached => second result middle reached

/-- What the first program ensures of its result alone is a premise of the rest. -/
theorem Upholds.bind_and {good : Result → Prop}
    {rest : Result → Fallible Failure Op Reply Other}
    (first : Upholds server rely guarantee fact
      (fun result final => holds result final ∧ good result) action)
    (second : ∀ result, good result →
      Upholds server rely guarantee (holds result) later (rest result)) :
    Upholds server rely guarantee fact later (action >>= rest) :=
  first.bind fun result state ended => second result ended.2 state ended.1

theorem Upholds.weaken {weak : Result → State → Prop}
    (upholds : Upholds server rely guarantee fact holds action)
    (implies : ∀ result state, holds result state → weak result state) :
    Upholds server rely guarantee fact weak action := by
  intro state initially
  apply (upholds state initially).weaken
  intro outcome final ended
  cases outcome with
  | ok result => exact implies result final ended
  | error failure => trivial

theorem Upholds.of_imp {strong : State → Prop} (implies : ∀ state, strong state → fact state)
    (upholds : Upholds server rely guarantee fact holds action) :
    Upholds server rely guarantee strong holds action :=
  fun state initially => upholds state (implies state initially)

theorem Upholds.bind_ofExcept {computed : Except Failure Result}
    {rest : Result → Fallible Failure Op Reply Other}
    (succeeded : ∀ result, computed = .ok result →
      Upholds server rely guarantee fact later (rest result)) :
    Upholds server rely guarantee fact later (Fallible.ofExcept computed >>= rest) := by
  intro state initially
  apply Ensures.bind_ofExcept
  · exact fun _ _ => trivial
  · exact fun result success => succeeded result success state initially

/-- The program's result is given back, whatever it is. -/
theorem Upholds.lift {program : Program Op Reply Result}
    (ensured : ∀ state, fact state → Ensures server rely guarantee holds program state) :
    Upholds server rely guarantee fact holds
      (Fallible.lift program : Fallible Failure Op Reply Result) := by
  intro state initially
  apply (ensured state initially).lift.weaken
  rintro outcome final ⟨result, rfl, ended⟩
  exact ended

/-- A program with allowed operations only, all of which keep the guarantee and the fact. -/
theorem Upholds.of_issues {allowed : Op → Prop} {possible : (op : Op) → Reply op → Prop}
    {good : Result → Prop}
    (expected : ∀ before op reply after, fact before → server before op reply after →
      possible op reply)
    (kept : ∀ op, allowed op → ∀ before reply after, fact before →
      server before op reply after → guarantee before after ∧ fact after)
    (stable : ∀ before after, rely before after → fact before → fact after)
    (issued : Issues allowed possible (OnSuccess good) action.run) :
    Upholds server rely guarantee fact (fun result final => fact final ∧ good result) action := by
  intro state initially
  apply (issued.ensures expected kept stable initially).weaken
  intro outcome final ended
  cases outcome with
  | ok result => exact ended
  | error failure => trivial

end Upholds

/-- A server after each of whose answers others take any number of steps. -/
def Interfered (others : State → State → Prop) (server : Server State Op Reply) :
    Server State Op Reply :=
  fun before op reply after => ∃ served, server before op reply served ∧
    ReflTransGen others served after

/-- The shared state and the unfinished program of each client. -/
structure Pool (Client State Op : Type) (Reply : Op → Type) (Result : Type) where
  state : State
  running : Client → Option (Program Op Reply Result)

inductive Actor (Client : Type) where
  | client (client : Client)
  | environment

namespace Pool

variable {Client : Type} [DecidableEq Client]

/-- One step of a pool: an idle client starts a program, a running client has
one call served or finishes, or the environment moves. -/
inductive Step (server : Server State Op Reply)
    (entry : Client → Program Op Reply Result → Prop) (environment : State → State → Prop) :
    Actor Client → Pool Client State Op Reply Result → Pool Client State Op Reply Result →
      Prop where
  | start {client program pool} :
      pool.running client = none → entry client program →
      Step server entry environment (.client client) pool
        { pool with running := Function.update pool.running client (some program) }
  | call {client op next reply after pool} :
      pool.running client = some (.call op next) →
      server pool.state op reply after →
      Step server entry environment (.client client) pool
        ⟨after, Function.update pool.running client (some (next reply))⟩
  | finish {client result pool} :
      pool.running client = some (.done result) →
      Step server entry environment (.client client) pool
        { pool with running := Function.update pool.running client none }
  | environment {after pool} :
      environment pool.state after →
      Step server entry environment .environment pool { pool with state := after }

/-- Any number of steps by anyone. -/
def Run (server : Server State Op Reply)
    (entry : Client → Program Op Reply Result → Prop) (environment : State → State → Prop) :
    Pool Client State Op Reply Result → Pool Client State Op Reply Result → Prop :=
  ReflTransGen fun pool next => ∃ actor, Step server entry environment actor pool next

/-- No client is running. -/
def Idle (pool : Pool Client State Op Reply Result) : Prop :=
  ∀ client, pool.running client = none

/-- The obligations under which judgements about single programs hold of whole
runs. -/
structure Protocol (server : Server State Op Reply)
    (entry : Client → Program Op Reply Result → Prop) (environment : State → State → Prop)
    (invariant : State → Prop) (rely guarantee : Client → State → State → Prop) : Prop where
  idle : ∀ client state, guarantee client state state
  keeps : ∀ client before after, invariant before → guarantee client before after →
    invariant after
  environmentKeeps : ∀ before after, invariant before → environment before after →
    invariant after
  others : ∀ client other before after, other ≠ client → invariant before →
    guarantee other before after → rely client before after
  environmentRelies : ∀ client before after, invariant before → environment before after →
    rely client before after
  starts : ∀ client program, entry client program → ∀ state, invariant state →
    Ensures server (rely client) (guarantee client) (fun _ _ => True) program state

variable {entry : Client → Program Op Reply Result → Prop} {environment : State → State → Prop}
  {invariant : State → Prop} {rely guarantee : Client → State → State → Prop}

/-- The invariant of a run: each unfinished program still has its judgement, up
to interference since its last call. -/
def Obeys (server : Server State Op Reply) (invariant : State → Prop)
    (rely guarantee : Client → State → State → Prop)
    (pool : Pool Client State Op Reply Result) : Prop :=
  invariant pool.state ∧
    ∀ client program, pool.running client = some program →
      ∃ since, ReflTransGen (rely client) since pool.state ∧
        Ensures server (rely client) (guarantee client) (fun _ _ => True) program since

theorem Step.guaranteed
    (protocol : Protocol server entry environment invariant rely guarantee)
    {pool next : Pool Client State Op Reply Result} {client : Client}
    (obeys : Obeys server invariant rely guarantee pool)
    (step : Step server entry environment (.client client) pool next) :
    guarantee client pool.state next.state := by
  cases step with
  | start | finish => exact protocol.idle client _
  | call running served =>
      obtain ⟨since, interference, ensured⟩ := obeys.2 client _ running
      exact (ensured _ interference _ _ served).1

/-- A client's own judgement after one of its calls, the others' after its
interference. -/
theorem Step.obeys
    (protocol : Protocol server entry environment invariant rely guarantee)
    {pool next : Pool Client State Op Reply Result} {actor : Actor Client}
    (obeys : Obeys server invariant rely guarantee pool)
    (step : Step server entry environment actor pool next) :
    Obeys server invariant rely guarantee next := by
  cases step with
  | @start client program _ idle enters =>
      refine ⟨obeys.1, ?_⟩
      intro other running held
      by_cases same : other = client
      · subst other
        simp only [Function.update_self, Option.some.injEq] at held
        subst running
        exact ⟨pool.state, .refl, protocol.starts client program enters _ obeys.1⟩
      · simp only [Function.update_of_ne same] at held
        exact obeys.2 other running held
  | @finish client result _ finished =>
      refine ⟨obeys.1, ?_⟩
      intro other running held
      by_cases same : other = client
      · subst other
        simp at held
      · simp only [Function.update_of_ne same] at held
        exact obeys.2 other running held
  | @call client op rest reply after _ held served =>
      obtain ⟨since, interference, ensured⟩ := obeys.2 client _ held
      obtain ⟨kept, later⟩ := ensured _ interference _ _ served
      refine ⟨protocol.keeps client _ _ obeys.1 kept, ?_⟩
      intro other running heldAfter
      by_cases same : other = client
      · subst other
        simp only [Function.update_self, Option.some.injEq] at heldAfter
        subst running
        exact ⟨after, .refl, later⟩
      · simp only [Function.update_of_ne same] at heldAfter
        obtain ⟨origin, path, judgement⟩ := obeys.2 other running heldAfter
        exact ⟨origin, path.tail (protocol.others other client _ _ (Ne.symm same) obeys.1 kept),
          judgement⟩
  | @environment after _ moved =>
      refine ⟨protocol.environmentKeeps _ _ obeys.1 moved, ?_⟩
      intro other running held
      obtain ⟨origin, path, judgement⟩ := obeys.2 other running held
      exact ⟨origin, path.tail (protocol.environmentRelies other _ _ obeys.1 moved), judgement⟩

theorem Run.obeys
    (protocol : Protocol server entry environment invariant rely guarantee)
    {start pool : Pool Client State Op Reply Result}
    (initially : Obeys server invariant rely guarantee start)
    (run : Run server entry environment start pool) :
    Obeys server invariant rely guarantee pool := by
  induction run with
  | refl => exact initially
  | tail _ step ih =>
      obtain ⟨actor, step⟩ := step
      exact step.obeys protocol ih

omit [DecidableEq Client] in
theorem Idle.obeys {pool : Pool Client State Op Reply Result} (idle : pool.Idle)
    (initially : invariant pool.state) : Obeys server invariant rely guarantee pool := by
  refine ⟨initially, ?_⟩
  intro client program held
  simp [idle client] at held

/-- Every step that a client takes in a run from an idle pool satisfies its
guarantee, and the invariant holds throughout. -/
theorem guaranteed
    (protocol : Protocol server entry environment invariant rely guarantee)
    {start pool next : Pool Client State Op Reply Result} {client : Client}
    (idle : start.Idle) (initially : invariant start.state)
    (run : Run server entry environment start pool)
    (step : Step server entry environment (.client client) pool next) :
    guarantee client pool.state next.state :=
  step.guaranteed protocol (run.obeys protocol (idle.obeys initially))

/-- An invariant of the server that every allowed operation keeps holds in all
interleavings of clients that issue no others. -/
theorem Run.preserves {allowed : Op → Prop} {possible : (op : Op) → Reply op → Prop}
    (expected : ∀ before op reply after, invariant before → server before op reply after →
      possible op reply)
    (kept : ∀ op, allowed op → ∀ before reply after, invariant before →
      server before op reply after → invariant after)
    (environmentKeeps : ∀ before after, invariant before → environment before after →
      invariant after)
    (issues : ∀ client program, entry client program →
      Issues allowed possible (fun _ => True) program)
    {start pool : Pool Client State Op Reply Result} (idle : start.Idle)
    (initially : invariant start.state) (run : Run server entry environment start pool) :
    invariant pool.state := by
  have protocol : Protocol server entry environment invariant (fun _ _ after => invariant after)
      (fun _ before after => invariant before → invariant after) :=
    { idle := fun _ _ holds => holds
      keeps := fun _ _ _ holds keeps => keeps holds
      environmentKeeps := environmentKeeps
      others := fun _ _ _ _ _ holds keeps => keeps holds
      environmentRelies := fun _ before after => environmentKeeps before after
      starts := by
        intro client program enters state holds
        have ensured : Ensures server (fun _ after => invariant after)
            (fun before after => invariant before → invariant after)
            (fun _ final => invariant final ∧ True) program state := by
          apply (issues client program enters).ensures expected _ (fun _ _ relied _ => relied) holds
          intro op permitted before reply after held served
          have later := kept op permitted before reply after held served
          exact ⟨fun _ => later, later⟩
        exact ensured.weaken fun _ _ _ => trivial }
  exact (run.obeys protocol (idle.obeys initially)).1

/-- A client that is scheduled without interruption plays its whole run. -/
theorem Run.of_runs {program : Program Op Reply Result} {state final : State} {result : Result}
    {trace : List (Event State Op Reply)}
    (runs : Runs server program state trace result final) (client : Client)
    {pool : Pool Client State Op Reply Result} (held : pool.running client = some program)
    (current : pool.state = state) :
    Run server entry environment pool
      ⟨final, Function.update pool.running client (some (.done result))⟩ := by
  induction runs generalizing pool with
  | @done result state =>
      have unchanged : Function.update pool.running client (some (.done result)) =
          pool.running := by
        rw [← held]
        exact Function.update_eq_self client pool.running
      obtain ⟨poolState, running⟩ := pool
      simp only at current unchanged
      subst current
      rw [unchanged]
      exact .refl
  | @call op next reply before after trace result final served _ ih =>
      subst current
      have step : Step server entry environment (.client client) pool
          ⟨after, Function.update pool.running client (some (next reply))⟩ :=
        .call held served
      have rest := @ih
        ⟨after, Function.update pool.running client (some (next reply))⟩ (by simp) rfl
      simp only [Function.update_idem] at rest
      exact ReflTransGen.head ⟨_, step⟩ rest

/-- An idle client that is not interrupted starts a program, plays it and finishes. -/
theorem Run.complete {program : Program Op Reply Result} {final : State} {result : Result}
    {trace : List (Event State Op Reply)} {pool : Pool Client State Op Reply Result}
    (runs : Runs server program pool.state trace result final) {client : Client}
    (resting : pool.running client = none) (enters : entry client program) :
    Run server entry environment pool ⟨final, pool.running⟩ := by
  have begun : Step server entry environment (.client client) pool
      ⟨pool.state, Function.update pool.running client (some program)⟩ :=
    .start resting enters
  have played : Run server entry environment
      ⟨pool.state, Function.update pool.running client (some program)⟩
      ⟨final, Function.update pool.running client (some (.done result))⟩ := by
    have run : Run server entry environment
        ⟨pool.state, Function.update pool.running client (some program)⟩ _ :=
      Run.of_runs runs client (by simp) rfl
    simpa only [Function.update_idem] using run
  have finished : Step server entry environment (.client client)
      ⟨final, Function.update pool.running client (some (.done result))⟩
      ⟨final, pool.running⟩ := by
    have step : Step server entry environment (.client client)
        ⟨final, Function.update pool.running client (some (.done result))⟩ _ :=
      .finish (Function.update_self _ _ _)
    rw [← resting] at step
    simpa only [Function.update_idem, Function.update_eq_self] using step
  exact (ReflTransGen.head ⟨_, begun⟩ played).tail ⟨_, finished⟩

/-- Every call of a run is a step that an uninterrupted client gets to. -/
theorem Run.of_event {program : Program Op Reply Result} {state final : State} {result : Result}
    {trace : List (Event State Op Reply)}
    (runs : Runs server program state trace result final) {event : Event State Op Reply}
    (member : event ∈ trace) (client : Client) {pool : Pool Client State Op Reply Result}
    (held : pool.running client = some program) (current : pool.state = state) :
    ∃ reached next, Run server entry environment pool reached ∧
      Step server entry environment (.client client) reached next ∧
      reached.state = event.before ∧ next.state = event.after := by
  induction runs generalizing pool with
  | done => cases member
  | @call op next reply before after trace result final served _ ih =>
      subst current
      have step : Step server entry environment (.client client) pool
          ⟨after, Function.update pool.running client (some (next reply))⟩ :=
        .call held served
      obtain rfl | later := List.mem_cons.mp member
      · exact ⟨pool, _, .refl, step, rfl, rfl⟩
      · obtain ⟨reached, last, run, lastStep, states⟩ := @ih later
          ⟨after, Function.update pool.running client (some (next reply))⟩ (by simp) rfl
        exact ⟨reached, last, ReflTransGen.head ⟨_, step⟩ run, lastStep, states⟩

/-- A running client has its next call answered. -/
def advance (answer : State → (op : Op) → Reply op × State) (client : Client)
    (pool : Pool Client State Op Reply Result) : Pool Client State Op Reply Result :=
  match pool.running client with
  | some (.call op next) =>
      ⟨(answer pool.state op).2,
        Function.update pool.running client (some (next (answer pool.state op).1))⟩
  | _ => pool

theorem step_advance {answer : State → (op : Op) → Reply op × State}
    (served : ∀ state op, server state op (answer state op).1 (answer state op).2)
    (client : Client) (pool : Pool Client State Op Reply Result) :
    pool.advance answer client = pool ∨
      Step server entry environment (.client client) pool (pool.advance answer client) := by
  unfold advance
  split
  next op next running => exact .inr (.call running (served pool.state op))
  next => exact .inl rfl

end Pool

end ServerProgram
