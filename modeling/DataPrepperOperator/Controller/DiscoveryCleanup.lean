import DataPrepperOperator.Controller.Rollout

/-!
# Cleanup only after everything else went well

A cycle deletes or orphans a child only after its discovery, every render and every
write succeeded, and never one that a discovered source keeps alive.  Any call may
fail on the way.
-/

namespace DataPrepperOperator.Controller.SourceDiscovery

open ServerProgram DataPrepperOperator.Api DataPrepperOperator.Discovery

/-- The part of the cycle that creates and updates children ran and succeeded, with
every single write accepted. -/
structure WroteChildren (reconciler : DiscoveryReconciler)
    (discovery : DataPrepperSourceDiscovery) (sources : List DiscoveredSource)
    (trace : List (Event Cluster Op Reply)) : Prop where
  ran : ∃ current rollout before part after, SameSource current discovery ∧ part <:+: trace ∧
    Runs Unreliable (reconcilePipelines reconciler current sources).run before part (.ok rollout)
      after
  accepted : ∀ event ∈ trace, ∀ child, Adopts discovery.name child event.op →
    ¬Fails event.op event.reply

section Cleanup

variable {faulty : (op : Op) → Reply op → Prop} {reconciler : DiscoveryReconciler}
  {discovery current : DataPrepperSourceDiscovery} {sources : List DiscoveredSource}
  {trace : List (Event Cluster Op Reply)}

theorem allRender_of_built {desired : GoMap Desired} (same : SameSource current discovery)
    (built : desiredPipelines reconciler.toolkit current sources ∅ = .ok desired) :
    AllRender reconciler.toolkit discovery sources := by
  rw [same.desiredPipelines] at built
  exact rendered_of_desiredPipelines built

theorem Phases.allRender {start between afterwards final : Cluster}
    {outcome : Except String ReconcileResult} {rollout : Except String Rollout}
    {rolled cleaned reported : List (Event Cluster Op Reply)} {items : List DataPrepperPipeline}
    {completed : Bool} (phases : Phases faulty reconciler current sources start outcome final
      rollout rolled cleaned reported between afterwards items completed)
    (same : SameSource current discovery)
    {event : Event Cluster Op Reply} (member : event ∈ rolled ++ (cleaned ++ reported))
    {child : String} (targeted : event.op.target = some (.pipeline, child)) :
    AllRender reconciler.toolkit discovery sources := by
  obtain ⟨_, _, rfl, rfl, _⟩ | ⟨desired, _, _, _, built, _⟩ :=
    runs_reconcilePipelines phases.rolling
  · obtain ⟨_, rfl⟩ := phases.ready rfl
    exact absurd targeted (noChildWrites_of_quiet phases.quiet event (by simpa using member) child)
  · exact allRender_of_built same built

/-- In every cycle of a discovery that is not being deleted, with any call failing or
not, and with `found` the outcome of its discovery: a child that is deleted or
orphaned carries the label, is not the child of a discovered source, and comes after
all renders and writes succeeded; without sources or with a failing render no child
is written; a configured cycle that succeeds without a failing call has found the
sources that are there; and then no other child is left labelled and alive. -/
theorem cleanup_safe {name : String} {state final : Cluster}
    {outcome : Except String ReconcileResult}
    (stored : state.find .sourceDiscovery name = some discovery)
    (live : discovery.metadata.deleting = false)
    (run : Runs Unreliable (reconcile reconciler name).run state trace outcome final) :
    ∃ found, Reaches (fun _ _ => True) reconciler discovery trace found ∧
      (∀ event ∈ trace, ∀ child, CleansUp child event.op →
        (∃ pipeline, event.before.find .pipeline child = some pipeline ∧
          Labelled name pipeline) ∧
        ∃ sources, found = some (.ok sources) ∧
          AllRender reconciler.toolkit discovery sources ∧
          WroteChildren reconciler discovery sources trace ∧
          child ∉ activeNames name sources) ∧
      ((¬∃ sources, found = some (.ok sources) ∧
          AllRender reconciler.toolkit discovery sources) → NoChildWrites trace) ∧
      (outcome.isOk = true → Configured reconciler discovery.spec →
        (∀ event ∈ trace, ¬Fails event.op event.reply) →
        ∃ sources, found = some (.ok sources) ∧
          sourcesIn reconciler discovery.spec state = .ok sources) ∧
      (outcome.isOk = true → ∀ sources, found = some (.ok sources) → ∀ child pipeline,
        final.find .pipeline child = some pipeline → Labelled name pipeline →
        pipeline.metadata.deleting = false → child ∈ activeNames name sources) := by
  have named : discovery.name = name := Cluster.name_of_find stored
  subst named
  cases course_of_runs stored live run with
  | @idle found reaches nothing excused quiet _ _ =>
      have noWrites := noChildWrites_of_quiet quiet
      refine ⟨found, reaches, ?_, fun _ => noWrites, ?_, ?_⟩
      · intro event member child cleans
        exact absurd cleans (not_cleansUp_of_untargeted (noWrites event member))
      · intro success configured unfailing
        obtain ⟨event, member, fails⟩ := excused.failing success configured
        exact absurd fails (unfailing event member)
      · exact fun _ sources same => absurd same (nothing sources)
  | @found sources current start earlier later reaches joined seen same quiet storedAs _ children =>
      subst joined
      obtain ⟨rollout, rolled, cleaned, reported, between, afterwards, items, completed, rfl,
        phases⟩ := (phases_of_runs same storedAs children).2
      rw [← same.name]
      refine ⟨_, reaches, ?_, ?_, fun _ _ _ => ⟨sources, rfl, seen⟩, ?_⟩
      · intro event member child cleans
        obtain inEarlier | inLater := List.mem_append.mp member
        · exact absurd cleans (not_cleansUp_of_untargeted
            (noChildWrites_of_quiet quiet event inEarlier))
        obtain ⟨pipeline, listed, found, rfl⟩ := phases.cleaned_of_cleansUp inLater cleans
        obtain ⟨_, labelled, inactive⟩ := phases.inactive pipeline listed
        have success : rollout.isOk = true := by
          by_contra failed
          rw [Bool.not_eq_true] at failed
          rw [(phases.ready failed).1] at listed
          cases listed
        refine ⟨⟨pipeline, found, labelled⟩, sources, rfl,
          phases.allRender same inLater cleans.target, ⟨?_, ?_⟩, inactive⟩
        · cases rollout with
          | error message => cases success
          | ok rollout =>
              refine ⟨current, rollout, start, rolled, between, same, ?_, phases.rolling⟩
              exact ⟨earlier, cleaned ++ reported, by simp⟩
        · rw [← same.name]
          intro other listedOther child adopts
          obtain inEarlier | inLater := List.mem_append.mp listedOther
          · exact absurd adopts.target (noChildWrites_of_quiet quiet other inEarlier child)
          · exact phases.accepted success other inLater child adopts
      · intro unrendered event member child targeted
        obtain inEarlier | inLater := List.mem_append.mp member
        · exact noChildWrites_of_quiet quiet event inEarlier child targeted
        · exact unrendered ⟨sources, rfl, phases.allRender same inLater targeted⟩
      · intro success found sameFound child pipeline present labelled alive
        cases sameFound
        exact phases.active_of_labelled success present labelled alive

end Cleanup

/-- Two topics were found, and then one of them is gone. -/
def vanishedTopic : Cluster :=
  withTopics ["logs-a"] (afterCycle (withTopics ["logs-a", "logs-b"]
    (Cluster.empty.create (topicDiscovery "v1" .delete)).2))

instance (child : String) (op : Op) : Decidable (CleansUp child op) := by
  unfold CleansUp
  split <;> infer_instance

/-- The cycle finds the topic that is left and deletes the child of the other. -/
theorem cleanup_safe_when_topic_vanishes :
    ∃ discovery trace sources,
      vanishedTopic.find .sourceDiscovery "topics" = some discovery ∧
      Reaches (fun _ _ => True) sampleDiscoveryReconciler discovery trace (some (.ok sources)) ∧
      (∃ event ∈ trace, CleansUp "topics-logs-b" event.op) ∧
      "topics-logs-b" ∉ activeNames "topics" sources ∧
      (afterCycle vanishedTopic).find .pipeline "topics-logs-b" = none ∧
      ∀ child pipeline, (afterCycle vanishedTopic).find .pipeline child = some pipeline →
        Labelled "topics" pipeline → pipeline.metadata.deleting = false →
        child ∈ activeNames "topics" sources := by
  have known : (vanishedTopic.find .sourceDiscovery "topics").map (fun discovery =>
      (discovery.metadata.deleting, discovery.spec.kafka.isSome)) = some (false, true) := by
    decide +kernel
  obtain ⟨discovery, stored, facts⟩ := Option.map_eq_some_iff.mp known
  obtain ⟨live, kafka⟩ := Prod.mk.inj facts
  have configured : Configured sampleDiscoveryReconciler discovery.spec := by
    obtain ⟨kafkaSpec, chosen⟩ := Option.isSome_iff_exists.mp kafka
    unfold Configured
    rw [chosen]
    rfl
  have served (state : Cluster) (op : Op) :
      Unreliable state op (state.answer op).1 (state.answer op).2 :=
    .honest (state.answer_honest op)
  let program := (reconcile sampleDiscoveryReconciler "topics").run
  have run := program.runs_trace served vanishedTopic
  have unfailing : ∀ event ∈ program.trace Cluster.answer vanishedTopic,
      ¬Fails event.op event.reply := by
    decide +kernel
  have deletes : ∃ event ∈ program.trace Cluster.answer vanishedTopic,
      CleansUp "topics-logs-b" event.op := by
    decide +kernel
  have success : (program.execute Cluster.answer vanishedTopic).1.isOk = true := by
    decide +kernel
  obtain ⟨found, reaches, cleaned, _, finds, finally_⟩ := cleanup_safe stored live run
  obtain ⟨sources, rfl, _⟩ := finds success configured unfailing
  obtain ⟨event, member, cleans⟩ := deletes
  obtain ⟨_, others, same, _, _, inactive⟩ := cleaned event member _ cleans
  cases same
  exact ⟨discovery, _, sources, stored, reaches, ⟨event, member, cleans⟩, inactive,
    by decide +kernel, finally_ success sources rfl⟩

end DataPrepperOperator.Controller.SourceDiscovery
