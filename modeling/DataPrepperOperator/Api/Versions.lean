import DataPrepperOperator.Api.Effects
import DataPrepperOperator.Library.Interleaving

/-!
# Versions of an object

The generation of an object rises with every change of its spec.  So over a run a
generation has one spec, as long as nobody creates the object anew, and a client may
name a spec by its generation.
-/

namespace DataPrepperOperator.Api

open ServerProgram Relation

variable {kind : Kind} {name : String}

/-- The later version has a higher generation or the same spec, and what is gone stays
away. -/
def Succeeds (earlier later : Option (Object kind)) : Prop :=
  ∀ next, later = some next → ∃ previous, earlier = some previous ∧
    previous.metadata.generation ≤ next.metadata.generation ∧
    (previous.metadata.generation = next.metadata.generation → previous.spec = next.spec)

theorem Succeeds.refl (version : Option (Object kind)) : Succeeds version version :=
  fun next same => ⟨next, same, le_refl _, fun _ => rfl⟩

theorem Succeeds.of_eq {earlier later : Option (Object kind)} (same : later = earlier) :
    Succeeds earlier later :=
  same ▸ .refl later

theorem Succeeds.trans {first second third : Option (Object kind)}
    (earlier : Succeeds first second) (later : Succeeds second third) : Succeeds first third := by
  intro last present
  obtain ⟨middle, found, middleLe, middleSpec⟩ := later last present
  obtain ⟨previous, original, previousLe, previousSpec⟩ := earlier middle found
  refine ⟨previous, original, le_trans previousLe middleLe, ?_⟩
  intro same
  have between : previous.metadata.generation = middle.metadata.generation :=
    le_antisymm previousLe (same ▸ middleLe)
  rw [previousSpec between, middleSpec (between ▸ same)]

theorem Succeeds.spec {earlier later : Object kind}
    (succeeds : Succeeds (some earlier) (some later))
    (same : earlier.metadata.generation = later.metadata.generation) :
    earlier.spec = later.spec := by
  obtain ⟨previous, found, _, spec⟩ := succeeds later rfl
  cases found
  exact spec same

section Steps

variable {faulty : (op : Op) → Reply op → Prop} {before after : Cluster} {op : Op}
  {reply : Reply op}

theorem succeeds_updated (stored asked : Object kind) :
    Succeeds (some stored) (some (Cluster.updated stored asked)) := by
  rintro next ⟨⟩
  refine ⟨stored, rfl, ?_, ?_⟩
  · unfold Cluster.updated
    dsimp only
    split <;> omega
  · intro same
    unfold Cluster.updated at same ⊢
    dsimp only at same ⊢
    split at same
    next spec => exact spec.symm
    next => omega

theorem succeeds_stamped (cluster : Cluster) (candidate : Object kind) :
    Succeeds (some candidate) (some (cluster.stamped candidate)) := by
  rintro next ⟨⟩
  exact ⟨candidate, rfl, le_refl _, fun _ => rfl⟩

/-- Every operation but a creation makes a successor. -/
theorem Serves.succeeds (served : Serves faulty before op reply after)
    (noCreation : ∀ object : Object kind, op ≠ .create kind object) :
    Succeeds (before.find kind name) (after.find kind name) := by
  intro next present
  cases served.storedBy present with
  | kept found => exact ⟨next, found, le_refl _, fun _ => rfl⟩
  | created _ _ => exact absurd rfl (noCreation _)
  | @updated object stored _ found =>
      rw [found]
      exact (succeeds_updated stored object).trans (succeeds_stamped before _) _ rfl
  | @reported _ stored _ found => exact ⟨stored, found, le_refl _, fun _ => rfl⟩
  | @marked stored found => exact ⟨stored, found, Nat.le_succ _, fun _ => rfl⟩

/-- The event hands a version of an object to the program. -/
inductive Receives {kind : Kind} : Event Cluster Op Reply → Object kind → Prop where
  | read {before after : Cluster} {name : String} {object : Object kind} :
      Receives ⟨before, .get kind name, .ok object, after⟩ object
  | stored {before after : Cluster} {asked object : Object kind} :
      Receives ⟨before, .update kind asked, .ok object, after⟩ object

theorem Receives.unique {event : Event Cluster Op Reply} {first second : Object kind}
    (received : Receives event first) (again : Receives event second) : first = second := by
  cases received <;> cases again <;> rfl

/-- What is received follows the stored version and is followed by what is left. -/
theorem Receives.succeeds {event : Event Cluster Op Reply} {version : Object kind}
    (received : Receives event version)
    (served : Serves faulty event.before event.op event.reply after) :
    Succeeds (event.before.find kind version.name) (some version) ∧
      Succeeds (some version) (after.find kind version.name) := by
  cases received with
  | read =>
      obtain ⟨found, rfl⟩ := served.find_of_get
      rw [← Cluster.name_of_find found] at found
      exact ⟨.of_eq found.symm, .of_eq found⟩
  | @stored before _ asked =>
      have update : Serves faulty before (.update kind asked) (.ok version) after := served
      obtain ⟨stored, found, _, replaces⟩ := update.replaces_of_update
      have storedName : stored.name = asked.name := Cluster.name_of_find found
      have follows := succeeds_updated stored asked
      rw [← storedName] at found
      cases replaces with
      | removed =>
          refine ⟨found ▸ follows, ?_⟩
          intro next present
          have gone := Cluster.find_remove_same before kind stored.name
          exact absurd (gone.symm.trans present) (by simp)
      | kept => exact ⟨.of_eq found.symm, .of_eq found⟩
      | committed =>
          refine ⟨?_, .of_eq (Cluster.find_commit_same _ _)⟩
          exact found ▸ follows.trans (succeeds_stamped _ _)

end Steps

/-- The last version that a trace hands to its program. -/
def LastReceived (trace : List (Event Cluster Op Reply)) (version : Object kind) : Prop :=
  ∃ earlier event later, trace = earlier ++ event :: later ∧ Receives event version ∧
    ∀ other ∈ later, ∀ another : Object kind, ¬Receives other another

/-- The version of the named object was stored during the run. -/
def Shown (name : String) (trace : List (Event Cluster Op Reply)) (version : Object kind) : Prop :=
  ∃ event ∈ trace, event.before.find kind name = some version ∨
    version.name = name ∧ Receives event version

section Traces

variable {faulty : (op : Op) → Reply op → Prop} {others : Cluster → Cluster → Prop}
  {Result : Type} {program : Program Op Reply Result} {state final : Cluster}
  {trace later : List (Event Cluster Op Reply)} {result : Result} {version : Object kind}

theorem LastReceived.of_receives {event : Event Cluster Op Reply}
    (received : Receives event version) : LastReceived (trace ++ [event]) version :=
  ⟨trace, event, [], rfl, received, by simp⟩

theorem LastReceived.append (last : LastReceived trace version)
    (silent : ∀ event ∈ later, ∀ another : Object kind, ¬Receives event another) :
    LastReceived (trace ++ later) version := by
  obtain ⟨earlier, event, rest, rfl, received, silentRest⟩ := last
  refine ⟨earlier, event, rest ++ later, by simp, received, ?_⟩
  intro other member
  obtain inRest | inLater := List.mem_append.mp member
  · exact silentRest other inRest
  · exact silent other inLater

theorem LastReceived.shown (last : LastReceived trace version) :
    Shown version.name trace version := by
  obtain ⟨earlier, event, rest, rfl, received, _⟩ := last
  exact ⟨event, by simp, .inr ⟨rfl, received⟩⟩

theorem Shown.append_right (shown : Shown name trace version)
    (later : List (Event Cluster Op Reply)) : Shown name (trace ++ later) version := by
  obtain ⟨event, member, holds⟩ := shown
  exact ⟨event, List.mem_append_left _ member, holds⟩

/-- A run in which every step makes successors. -/
structure Orderly (kind : Kind) (name : String) (others : Cluster → Cluster → Prop)
    (trace : List (Event Cluster Op Reply)) : Prop where
  interference : ∀ before after, others before after →
    Succeeds (before.find kind name) (after.find kind name)
  noCreation : ∀ event ∈ trace, ∀ object : Object kind, event.op ≠ .create kind object

theorem succeeds_of_interference {before after : Cluster}
    (single : ∀ before after, others before after →
      Succeeds (before.find kind name) (after.find kind name))
    (interference : ReflTransGen others before after) :
    Succeeds (before.find kind name) (after.find kind name) := by
  induction interference with
  | refl => exact .refl _
  | tail _ step earlier => exact earlier.trans (single _ _ step)

/-- What one event shows lies between the states around it. -/
theorem succeeds_of_event {event : Event Cluster Op Reply}
    (orderly : Orderly kind name others [event])
    (served : Interfered others (Serves faulty) event.before event.op event.reply event.after) :
    Succeeds (event.before.find kind name) (event.after.find kind name) ∧
      ∀ version : Object kind, Shown name [event] version →
        Succeeds (event.before.find kind name) (some version) ∧
          Succeeds (some version) (event.after.find kind name) := by
  obtain ⟨between, served, interference⟩ := served
  have outside := succeeds_of_interference orderly.interference interference
  have step : Succeeds (event.before.find kind name) (between.find kind name) :=
    served.succeeds (orderly.noCreation event List.mem_cons_self)
  refine ⟨step.trans outside, ?_⟩
  rintro version ⟨_, member, shown⟩
  obtain rfl := List.mem_singleton.mp member
  obtain found | ⟨rfl, received⟩ := shown
  · rw [← found]
    exact ⟨.refl _, step.trans outside⟩
  · obtain ⟨first, second⟩ := received.succeeds served
    exact ⟨first, second.trans outside⟩

/-- Of two versions that one event shows, one follows the other. -/
theorem comparable_of_event {event : Event Cluster Op Reply}
    (orderly : Orderly kind name others [event])
    (served : Interfered others (Serves faulty) event.before event.op event.reply event.after)
    {first second : Object kind} (shown : Shown name [event] first)
    (again : Shown name [event] second) :
    Succeeds (some first) (some second) ∨ Succeeds (some second) (some first) := by
  obtain ⟨_, here⟩ := succeeds_of_event orderly served
  obtain ⟨firstLater, _⟩ := here first shown
  obtain ⟨secondLater, _⟩ := here second again
  obtain ⟨_, member, foundFirst | ⟨_, received⟩⟩ := shown
  · obtain rfl := List.mem_singleton.mp member
    exact .inl (foundFirst ▸ secondLater)
  · obtain rfl := List.mem_singleton.mp member
    obtain ⟨_, memberAgain, foundSecond | ⟨_, receivedAgain⟩⟩ := again
    · obtain rfl := List.mem_singleton.mp memberAgain
      exact .inr (foundSecond ▸ firstLater)
    · obtain rfl := List.mem_singleton.mp memberAgain
      exact .inl (.of_eq (by rw [received.unique receivedAgain]))

theorem Orderly.head {event : Event Cluster Op Reply}
    (orderly : Orderly kind name others (event :: later)) : Orderly kind name others [event] :=
  ⟨orderly.interference, List.forall_mem_singleton.mpr
    (orderly.noCreation event List.mem_cons_self)⟩

theorem Orderly.tail {event : Event Cluster Op Reply}
    (orderly : Orderly kind name others (event :: later)) : Orderly kind name others later :=
  ⟨orderly.interference, (List.forall_mem_cons.mp orderly.noCreation).2⟩

theorem Shown.of_cons {event : Event Cluster Op Reply}
    (shown : Shown name (event :: later) version) :
    Shown name [event] version ∨ Shown name later version := by
  obtain ⟨shownBy, member, holds⟩ := shown
  obtain rfl | inLater := List.mem_cons.mp member
  · exact .inl ⟨shownBy, List.mem_cons_self, holds⟩
  · exact .inr ⟨shownBy, inLater, holds⟩

theorem succeeds_of_shown (orderly : Orderly kind name others trace)
    (run : Runs (Interfered others (Serves faulty)) program state trace result final)
    (shown : Shown name trace version) : Succeeds (state.find kind name) (some version) := by
  induction run with
  | done =>
      obtain ⟨_, impossible, _⟩ := shown
      cases impossible
  | call served _ ih =>
      obtain ⟨step, here⟩ := succeeds_of_event orderly.head served
      obtain first | later := shown.of_cons
      · exact (here version first).1
      · exact step.trans (ih orderly.tail later)

/-- Over a run, a generation of the object has one spec. -/
theorem spec_of_generation (orderly : Orderly kind name others trace)
    (run : Runs (Interfered others (Serves faulty)) program state trace result final)
    {first second : Object kind} (shown : Shown name trace first) (again : Shown name trace second)
    (same : first.metadata.generation = second.metadata.generation) :
    first.spec = second.spec := by
  induction run with
  | done =>
      obtain ⟨_, impossible, _⟩ := shown
      cases impossible
  | call served rest ih =>
      obtain ⟨_, here⟩ := succeeds_of_event orderly.head served
      obtain firstHere | firstLater := shown.of_cons
      · obtain secondHere | secondLater := again.of_cons
        · obtain follows | follows := comparable_of_event orderly.head served firstHere secondHere
          · exact follows.spec same
          · exact (follows.spec same.symm).symm
        · have follows := succeeds_of_shown orderly.tail rest secondLater
          exact ((here first firstHere).2.trans follows).spec same
      · obtain secondHere | secondLater := again.of_cons
        · have follows := succeeds_of_shown orderly.tail rest firstLater
          exact (((here second secondHere).2.trans follows).spec same.symm).symm
        · exact ih orderly.tail firstLater secondLater

end Traces

theorem expected_of_interfered {faulty : (op : Op) → Reply op → Prop}
    {others : Cluster → Cluster → Prop} (before : Cluster) (op : Op) (reply : Reply op)
    (after : Cluster) (served : Interfered others (Serves faulty) before op reply after) :
    Expected op reply := by
  obtain ⟨_, served, _⟩ := served
  exact served.expected

/-- Another client calls the server, but does not create objects of the kind. -/
def Calls (kind : Kind) (before after : Cluster) : Prop :=
  ∃ op reply, (∀ object : Object kind, op ≠ .create kind object) ∧ Honest before op reply after

theorem Calls.succeeds {before after : Cluster} (calls : Calls kind before after) :
    Succeeds (before.find kind name) (after.find kind name) := by
  obtain ⟨op, reply, noCreation, honest⟩ := calls
  have served : Reliable before op reply after := .honest honest
  exact served.succeeds noCreation

/-- The honest answer, after which others act. -/
def Cluster.answerAmid (act : Op → Cluster → Cluster) (cluster : Cluster) (op : Op) :
    Reply op × Cluster :=
  ((cluster.answer op).1, act op (cluster.answer op).2)

theorem runs_amid {Result : Type} {faulty : (op : Op) → Reply op → Prop}
    {others : Cluster → Cluster → Prop} {act : Op → Cluster → Cluster}
    (acts : ∀ op cluster, ReflTransGen others cluster (act op cluster))
    (program : Program Op Reply Result) (cluster : Cluster) :
    Runs (Interfered others (Serves faulty)) program cluster
      (program.trace (Cluster.answerAmid act) cluster)
      (program.execute (Cluster.answerAmid act) cluster).1
      (program.execute (Cluster.answerAmid act) cluster).2 :=
  program.runs_trace
    (fun state op => ⟨_, .honest (state.answer_honest op), acts op _⟩) cluster

end DataPrepperOperator.Api
