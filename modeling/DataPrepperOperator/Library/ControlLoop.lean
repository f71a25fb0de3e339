import DataPrepperOperator.Library.Interleaving

/-!
# Level-triggered control loops

A control loop keeps a queue of requests.  A pending request is taken from the queue and
worked on by a client program, and pends again if the result asks for it.  Every change
of the state, by a worker or by anyone else, is delivered to some requests, which then pend
too, also while they are worked on.  All workers may be stopped at any time; after the
restart every known request pends.

A request looks at a part of the state only.  Suppose that every change of this part is
delivered to the request, and that a program to which this part looked the same from the
first call to the last leaves it settled.  Then a request that neither pends nor is worked
on is settled, in whatever order the workers and the environment have moved.
-/

namespace ServerProgram

open Relation (ReflTransGen)

variable {Op : Type} {Reply : Op → Type} {State Result Request : Type}

/-- The reply could have been given by a state that looks like this one, without a visible
change. -/
def Sees (server : Server State Op Reply) (same : State → State → Prop) (state : State) (op : Op)
    (reply : Reply op) : Prop :=
  ∃ before after, same state before ∧ same before after ∧ server before op reply after

section Issues

variable {allowed : Op → Prop} {possible seen : (op : Op) → Reply op → Prop}
  {good : Result → Prop} {program : Program Op Reply Result}

theorem Issues.of_fewer_replies (fewer : ∀ op reply, seen op reply → possible op reply)
    (issued : Issues allowed possible good program) : Issues allowed seen good program := by
  induction program with
  | done result => exact issued
  | call op next ih =>
      exact ⟨issued.1, fun reply given =>
        ih reply (issued.2 reply (fewer op reply given))⟩

/-- If all replies could have been given in one unchanging state, the program returns what
a run in that state returns. -/
theorem Issues.of_unchanging {server : Server State Op Reply} {state : State}
    (unchanging : ∀ op reply, allowed op → possible op reply → server state op reply state)
    (issued : Issues allowed possible (fun _ => True) program)
    (returned : ∀ trace result, Runs server program state trace result state → good result) :
    Issues (fun _ => True) possible good program := by
  induction program with
  | done result => exact returned [] result .done
  | call op next ih =>
      refine ⟨trivial, fun reply given => ?_⟩
      apply ih reply (issued.2 reply given)
      intro trace result run
      exact returned _ result (.call (unchanging op reply issued.1 given) run)

end Issues

/-- A pool of workers, with the requests that wait for one. -/
structure Queue (Request State Op : Type) (Reply : Op → Type) (Result : Type) extends
    Pool Request State Op Reply Result where
  pending : Set Request

structure ControlLoop (Request State Op : Type) (Reply : Op → Type) (Result : Type) where
  server : Server State Op Reply
  work : Request → Program Op Reply Result
  requests : Set Request
  /-- Whether a result asks for another round. -/
  again : Result → Prop
  /-- To whom a change of the state is delivered. -/
  delivers : State → State → Set Request → Prop
  /-- What others may do to the state. -/
  environment : State → State → Prop
  /-- What is requested after a restart. -/
  known : State → Set Request

namespace ControlLoop

variable (loop : ControlLoop Request State Op Reply Result)

inductive Step [DecidableEq Request] : Queue Request State Op Reply Result →
    Queue Request State Op Reply Result → Prop where
  | start {queue request} :
      request ∈ loop.requests → request ∈ queue.pending → queue.running request = none →
      Step queue
        { state := queue.state
          running := Function.update queue.running request (some (loop.work request))
          pending := queue.pending \ {request} }
  | call {queue request op next reply after woken} :
      queue.running request = some (.call op next) →
      loop.server queue.state op reply after → loop.delivers queue.state after woken →
      Step queue
        { state := after
          running := Function.update queue.running request (some (next reply))
          pending := queue.pending ∪ woken }
  | finish {queue request result} :
      queue.running request = some (.done result) →
      Step queue
        { state := queue.state
          running := Function.update queue.running request none
          pending := { other | other ∈ queue.pending ∨ other = request ∧ loop.again result } }
  | change {queue after woken} :
      loop.environment queue.state after → loop.delivers queue.state after woken →
      Step queue { queue with state := after, pending := queue.pending ∪ woken }
  | restart {queue pending} :
      loop.known queue.state ⊆ pending →
      Step queue { state := queue.state, running := fun _ => none, pending := pending }

/-- Any number of steps by anyone. -/
def Run [DecidableEq Request] : Queue Request State Op Reply Result →
    Queue Request State Op Reply Result → Prop :=
  ReflTransGen loop.Step

/-- Nobody works yet, and all that is known is requested. -/
structure Fresh (queue : Queue Request State Op Reply Result) : Prop where
  idle : queue.Idle
  requested : loop.known queue.state ⊆ queue.pending

/-- A change of the state, by the operation of a worker or by the environment. -/
def Moves (allowed : Request → Op → Prop) (before after : State) : Prop :=
  (∃ request ∈ loop.requests, ∃ op reply, allowed request op ∧
    loop.server before op reply after) ∨ loop.environment before after

/-- What makes a control loop level-triggered. -/
structure LevelTriggered (allowed : Request → Op → Prop)
    (possible : (op : Op) → Reply op → Prop) (invariant : State → Prop)
    (same : Request → State → State → Prop) (settled : Request → State → Prop) : Prop where
  equivalence : ∀ request, Equivalence (same request)
  respects : ∀ request before after, same request before after → settled request before →
    settled request after
  issues : ∀ request ∈ loop.requests,
    Issues (allowed request) possible (fun _ => True) (loop.work request)
  replies : ∀ before op reply after, loop.server before op reply after → possible op reply
  keeps : ∀ before after, loop.Moves allowed before after → invariant before → invariant after
  delivered : ∀ request ∈ loop.requests, ∀ before after woken, loop.Moves allowed before after →
    invariant before → invariant after → loop.delivers before after woken → request ∉ woken →
    same request before after
  concludes : ∀ request ∈ loop.requests, ∀ state, invariant state →
    Issues (fun _ => True) (Sees loop.server (same request) state)
      (fun result => ¬loop.again result → settled request state) (loop.work request)
  unknown : ∀ request state, request ∉ loop.known state → settled request state

variable {loop} {allowed : Request → Op → Prop} {possible : (op : Op) → Reply op → Prop}
  {invariant : State → Prop} {same : Request → State → State → Prop}
  {settled : Request → State → Prop}

/-- How far a request has come that does not pend: nothing is left to do, or the rest of
its program will find that nothing is left to do. -/
def Advanced (loop : ControlLoop Request State Op Reply Result)
    (same : Request → State → State → Prop) (settled : Request → State → Prop)
    (request : Request) (state : State) : Option (Program Op Reply Result) → Prop
  | none => settled request state
  | some program => Issues (fun _ => True) (Sees loop.server (same request) state)
      (fun result => ¬loop.again result → settled request state) program

/-- The invariant of a run. -/
structure Sound (loop : ControlLoop Request State Op Reply Result)
    (allowed : Request → Op → Prop) (possible : (op : Op) → Reply op → Prop)
    (invariant : State → Prop) (same : Request → State → State → Prop)
    (settled : Request → State → Prop) (queue : Queue Request State Op Reply Result) : Prop where
  holds : invariant queue.state
  works : ∀ request program, queue.running request = some program →
    request ∈ loop.requests ∧ Issues (allowed request) possible (fun _ => True) program
  advanced : ∀ request ∈ loop.requests, request ∉ queue.pending →
    Advanced loop same settled request queue.state (queue.running request)

section Steps

variable (triggered : loop.LevelTriggered allowed possible invariant same settled)

include triggered

/-- A change that the request does not see leaves it as far as it was. -/
theorem Advanced.of_same {request : Request} {before after : State}
    {program : Option (Program Op Reply Result)} (unseen : same request before after)
    (advanced : Advanced loop same settled request before program) :
    Advanced loop same settled request after program := by
  have equivalence := triggered.equivalence request
  cases program with
  | none => exact triggered.respects request before after unseen advanced
  | some program =>
      have fewer : ∀ op reply, Sees loop.server (same request) after op reply →
          Sees loop.server (same request) before op reply := by
        rintro op reply ⟨given, served, looks, kept, answered⟩
        exact ⟨given, served, equivalence.trans unseen looks, kept, answered⟩
      apply (Issues.of_fewer_replies fewer advanced).weaken
      intro result verdict done
      exact triggered.respects request before after unseen (verdict done)

theorem Sound.fresh {queue : Queue Request State Op Reply Result} (holds : invariant queue.state)
    (fresh : loop.Fresh queue) : Sound loop allowed possible invariant same settled queue where
  holds := holds
  works := by
    intro request program running
    rw [fresh.idle request] at running
    cases running
  advanced := by
    intro request _ quiet
    rw [fresh.idle request]
    exact triggered.unknown request queue.state fun known => quiet (fresh.requested known)

variable [DecidableEq Request]

omit triggered in
/-- A step that concerns the worker of one request. -/
theorem Sound.update {queue : Queue Request State Op Reply Result} {request : Request}
    {slot : Option (Program Op Reply Result)} {after : State} {pending : Set Request}
    (sound : Sound loop allowed possible invariant same settled queue) (holds : invariant after)
    (works : ∀ program, slot = some program →
      request ∈ loop.requests ∧ Issues (allowed request) possible (fun _ => True) program)
    (own : request ∈ loop.requests → request ∉ pending →
      Advanced loop same settled request after slot)
    (others : ∀ other ∈ loop.requests, other ≠ request → other ∉ pending →
      Advanced loop same settled other after (queue.running other)) :
    Sound loop allowed possible invariant same settled
      ⟨⟨after, Function.update queue.running request slot⟩, pending⟩ := by
  refine ⟨holds, ?_, ?_⟩
  · intro other program held
    by_cases same : other = request
    · subst same
      simp only [Function.update_self] at held
      exact works program held
    · simp only [Function.update_of_ne same] at held
      exact sound.works other program held
  · intro other wanted quiet
    by_cases same : other = request
    · subst same
      simp only [Function.update_self]
      exact own wanted quiet
    · simp only [Function.update_of_ne same]
      exact others other wanted same quiet

theorem Sound.step {queue next : Queue Request State Op Reply Result}
    (sound : Sound loop allowed possible invariant same settled queue)
    (step : loop.Step queue next) : Sound loop allowed possible invariant same settled next := by
  -- an unseen change leaves everyone as far as they were
  have kept : ∀ {after woken other}, loop.Moves allowed queue.state after →
      loop.delivers queue.state after woken → other ∈ loop.requests →
      other ∉ queue.pending ∪ woken → same other queue.state after ∧
        Advanced loop same settled other after (queue.running other) := by
    intro after woken other moves delivered wanted quiet
    have unseen := triggered.delivered other wanted _ _ woken moves sound.holds
      (triggered.keeps _ _ moves sound.holds) delivered fun woke => quiet (.inr woke)
    exact ⟨unseen, Advanced.of_same triggered unseen
      (sound.advanced other wanted fun pends => quiet (.inl pends))⟩
  cases step with
  | @start request member pends idle =>
      apply sound.update sound.holds
      · rintro _ ⟨⟩
        exact ⟨member, triggered.issues request member⟩
      · exact fun wanted _ => triggered.concludes request wanted queue.state sound.holds
      · exact fun other wanted own quiet =>
          sound.advanced other wanted fun pending => quiet ⟨pending, own⟩
  | @call request op next reply after woken running served delivered =>
      obtain ⟨member, issued⟩ := sound.works request _ running
      have moves : loop.Moves allowed queue.state after :=
        .inl ⟨request, member, op, reply, issued.1, served⟩
      apply sound.update (triggered.keeps _ _ moves sound.holds)
      · rintro _ ⟨⟩
        exact ⟨member, issued.2 reply (triggered.replies _ _ _ _ served)⟩
      · -- the worker's own call: its reply was given without a visible change
        intro wanted quiet
        have advanced := sound.advanced request wanted fun pends => quiet (.inl pends)
        have unseen := (kept moves delivered wanted quiet).1
        rw [running] at advanced
        exact Advanced.of_same triggered unseen (advanced.2 reply
          ⟨_, _, (triggered.equivalence request).refl _, unseen, served⟩)
      · exact fun other wanted _ quiet => (kept moves delivered wanted quiet).2
  | @finish request result running =>
      apply sound.update sound.holds
      · rintro _ ⟨⟩
      · intro wanted quiet
        have advanced := sound.advanced request wanted fun pends => quiet (.inl pends)
        rw [running] at advanced
        exact advanced fun again => quiet (.inr ⟨rfl, again⟩)
      · exact fun other wanted _ quiet =>
          sound.advanced other wanted fun pends => quiet (.inl pends)
  | change changed delivered =>
      exact ⟨triggered.keeps _ _ (.inr changed) sound.holds, sound.works,
        fun other wanted quiet => (kept (.inr changed) delivered wanted quiet).2⟩
  | restart known => exact Sound.fresh triggered sound.holds ⟨fun _ => rfl, known⟩

theorem Run.sound {start queue : Queue Request State Op Reply Result} (run : loop.Run start queue)
    (initially : Sound loop allowed possible invariant same settled start) :
    Sound loop allowed possible invariant same settled queue := by
  induction run with
  | refl => exact initially
  | tail _ step ih => exact Sound.step triggered ih step

/-- Whatever neither pends nor is worked on is settled. -/
theorem Run.settles {start queue : Queue Request State Op Reply Result}
    (run : loop.Run start queue) (fresh : loop.Fresh start) (holds : invariant start.state)
    {request : Request} (member : request ∈ loop.requests) (quiet : request ∉ queue.pending)
    (idle : queue.running request = none) : settled request queue.state := by
  have sound := Run.sound triggered run (Sound.fresh triggered holds fresh)
  have advanced := sound.advanced request member quiet
  rwa [idle] at advanced

end Steps

/-- A request that is worked on without interruption.  A change is delivered to everyone
here, so that the request pends only if there was one, or if the result asks for it. -/
theorem Run.of_runs [DecidableEq Request]
    (delivered : ∀ before after, loop.delivers before after { _request | after ≠ before })
    {program : Program Op Reply Result} {state final : State} {result : Result}
    {trace : List (Event State Op Reply)} (runs : Runs loop.server program state trace result final)
    {running : Request → Option (Program Op Reply Result)} {request : Request}
    (held : running request = some program) (pending : Set Request) :
    ∃ later, loop.Run ⟨⟨state, running⟩, pending⟩
        ⟨⟨final, Function.update running request none⟩, later⟩ ∧
      ∀ other ∈ later, other ∈ pending ∨ (∃ event ∈ trace, event.after ≠ event.before) ∨
        loop.again result := by
  induction runs generalizing running pending with
  | done =>
      refine ⟨_, .single (.finish held), ?_⟩
      rintro other (pends | ⟨_, again⟩)
      · exact .inl pends
      · exact .inr (.inr again)
  | @call op next reply before after trace result final served _ ih =>
      have next_held : Function.update running request (some (next reply)) request =
        some (next reply) := Function.update_self ..
      obtain ⟨later, run, bounded⟩ := ih next_held
        (pending ∪ { _request | after ≠ before })
      rw [Function.update_idem] at run
      refine ⟨later, .head (.call held served (delivered before after)) run, ?_⟩
      intro other pends
      obtain (early | changed) | ⟨event, member, changed⟩ | again := bounded other pends
      · exact .inl early
      · exact .inr (.inl ⟨_, List.mem_cons_self, changed⟩)
      · exact .inr (.inl ⟨event, List.mem_cons_of_mem _ member, changed⟩)
      · exact .inr (.inr again)

end ControlLoop

end ServerProgram
