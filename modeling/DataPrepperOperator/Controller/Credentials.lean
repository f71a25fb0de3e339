import DataPrepperOperator.Controller.SecretHash
import DataPrepperOperator.Controller.SecretWatch
import DataPrepperOperator.Generator.Credentials

/-!
# Credentials from the document to the hash

A placeholder in `pipelines.yaml` is a variable of the pods, the variable comes from a
Secret, and the Secret is one of those whose data goes into the configuration hash.
-/

namespace DataPrepperOperator.Controller

open ServerProgram DataPrepperOperator.Api DataPrepperOperator.Generator

def NamesSecret (reference : Option SecretReference) (name : String) : Prop :=
  ∃ secret ∈ reference, secret.name = name

/-- A `credentialsSecretRef` of the definition has that name. -/
def ReferencesSecret (definition : PipelineDefinition) (name : String) : Prop :=
  NamesSecret (definition.source.kafka.bind (·.credentialsSecretRef)) name ∨
    NamesSecret (definition.source.s3.bind (·.credentialsSecretRef)) name ∨
    ∃ sink ∈ definition.sink,
      NamesSecret (sink.openSearch.bind (·.credentialsSecretRef)) name ∨
        NamesSecret (sink.s3.bind (·.credentialsSecretRef)) name ∨
        NamesSecret (sink.kafka.bind (·.credentialsSecretRef)) name

theorem referencesSecret_iff {definition : PipelineDefinition} {name : String} :
    ReferencesSecret definition name ↔
      ∃ reference ∈ definitionReferences definition, reference.name = name := by
  have append : ∀ first second : List SecretReference,
      (∃ reference ∈ first ++ second, reference.name = name) ↔
        (∃ reference ∈ first, reference.name = name) ∨
          ∃ reference ∈ second, reference.name = name := by
    intro first second
    simp only [List.mem_append, or_and_right, exists_or]
  have flatMap : (∃ reference ∈ definition.sink.flatMap sinkReferences, reference.name = name) ↔
      ∃ sink ∈ definition.sink, ∃ reference ∈ sinkReferences sink, reference.name = name := by
    simp only [List.mem_flatMap]
    constructor
    · rintro ⟨reference, ⟨sink, listed, member⟩, named⟩
      exact ⟨sink, listed, reference, member, named⟩
    · rintro ⟨sink, listed, reference, member, named⟩
      exact ⟨reference, ⟨sink, listed, member⟩, named⟩
  unfold ReferencesSecret NamesSecret definitionReferences sourceReferences
  rw [append, append, flatMap]
  unfold sinkReferences
  simp only [append, Option.mem_toList, Option.mem_def, or_assoc]

/-- What the Secret holds is hashed between other data. -/
theorem hashed_of_referenced {inputs : Inputs} {secret : String}
    (referenced : secret ∈ referencedSecrets inputs.mergedSpec) (toolkit : Toolkit) :
    ∃ before after, inputs.secretHash toolkit =
      toolkit.truncatedHash
        (before ++ Inputs.storedFields (inputs.secrets secret) ++ after).flatten := by
  obtain ⟨front, back, split⟩ := List.append_of_mem referenced
  refine ⟨front.flatMap fun name => Inputs.storedFields (inputs.secrets name),
    back.flatMap fun name => Inputs.storedFields (inputs.secrets name), ?_⟩
  unfold Inputs.secretHash Inputs.secretStream
  rw [split]
  cases front <;> simp

/-- The Secrets that go into the hash, as planning computes it. -/
theorem configHash_of_makePlan {reconciler : PipelineReconciler}
    {pipeline recorded : DataPrepperPipeline} {spec : DataPrepperPipelineSpec}
    {cluster final : Cluster} {trace : List (Event Cluster Op Reply)} {plan : Plan}
    (run : Runs Disturbed (makePlan reconciler pipeline spec).run cluster trace
      (.ok (plan, recorded)) final)
    {secret : String} (referenced : secret ∈ referencedSecrets spec) :
    ∃ front before after, plan.configHash = front ++ reconciler.toolkit.truncatedHash
      (before ++ Inputs.storedFields ((cluster.find .secret secret).map (·.spec)) ++
        after).flatten := by
  let inputs : Inputs :=
    { spec := spec
      uid := pipeline.metadata.uid
      nameSpace := pipeline.metadata.nameSpace
      defaults := none
      secrets := fun name => (cluster.find .secret name).map (·.spec)
      partitions := partitionAnswer cluster }
  have agree : inputs.AgreeWith cluster := ⟨fun _ _ => rfl, rfl⟩
  have planned : Except.ok plan = inputs.plan reconciler pipeline.name :=
    (runs_makePlan agree run rfl).1
  obtain ⟨_, _, _, _, _, hash⟩ := Inputs.plan_ok planned.symm
  have known : secret ∈ referencedSecrets inputs.mergedSpec := referenced
  obtain ⟨before, after, hashed⟩ := hashed_of_referenced known reconciler.toolkit
  exact ⟨_, before, after, by rw [hash, hashed]⟩

/-- Placeholders are variables of the pods, variables come from the first reference of their
family, and their Secrets are hashed. -/
theorem credentials_defined_and_hashed {pipelines : List PipelineDefinition} {topicWorkers : Int}
    {config : Value.Fields}
    (generated : generatePipelineConfig pipelines topicWorkers = .ok config) :
    (∃ base, generatePipelineConfig (pipelines.map withoutCredentials) topicWorkers = .ok base ∧
        Value.OnlyAdds (IsDefinedPlaceholder pipelines) (.object base) (.object config) ∧
        Value.AllTexts (fun text => ∃ definition ∈ pipelines, FromUser definition text)
          (.object base)) ∧
      ((credentialEnvVars pipelines).map EnvVar.name).Nodup ∧
      (∀ env, env ∈ credentialEnvVars pipelines ↔ ∃ family reference,
        firstReference family (scanOrder pipelines) = some reference ∧
          env ∈ family.envVars reference.name) ∧
      ∀ spec : DataPrepperPipelineSpec, spec.pipelines = pipelines →
        (referencedSecrets spec).Nodup ∧
        (∀ name, name ∈ referencedSecrets spec ↔
          ∃ definition ∈ pipelines, ReferencesSecret definition name) ∧
        ∀ env ∈ credentialEnvVars pipelines, env.secretName ∈ referencedSecrets spec ∧
          ∀ reconciler pipeline cluster trace plan recorded final,
            Runs Disturbed (makePlan reconciler pipeline spec).run cluster trace
              (.ok (plan, recorded)) final →
            ∃ front before after, plan.configHash = front ++ reconciler.toolkit.truncatedHash
              (before ++ Inputs.storedFields
                ((cluster.find .secret env.secretName).map (·.spec)) ++ after).flatten := by
  obtain ⟨base, generatedBase, added⟩ := onlyAdds_generatePipelineConfig generated
  refine ⟨⟨base, generatedBase, added, allTexts_withoutCredentials generatedBase⟩,
    nodup_credentialEnvVars pipelines, fun env => mem_credentialEnvVars, ?_⟩
  rintro spec rfl
  refine ⟨nodup_referencedSecrets spec, fun name => ?_, fun env member => ?_⟩
  · simp only [mem_referencedSecrets, referencesSecret_iff]
  · have referenced := secretName_mem_referencedSecrets member
    refine ⟨referenced, ?_⟩
    intro reconciler pipeline cluster trace plan recorded final run
    exact configHash_of_makePlan run referenced

/-- A Kafka source and sinks of each family, with a second Secret for Kafka. -/
def threeFamilies : DataPrepperPipelineSpec :=
  { image := "data-prepper"
    pipelines :=
      [{ name := "ingest"
         source := { kafka := some (kafkaSource (some { name := "kafka-in" })) }
         sink :=
          [{ openSearch := some
              { index := "logs", credentialsSecretRef := some { name := "search" } } },
           { s3 := some
              { bucket := "logs", region := "eu", credentialsSecretRef := some { name := "s3" } } },
           { kafka := some
              { topic := "copy", credentialsSecretRef := some { name := "kafka-out" } } }] }] }

/-- The first Secret of each family defines its variables, and all Secrets are hashed. -/
theorem credentials_of_three_families :
    credentialEnvVars threeFamilies.pipelines =
        CredentialFamily.kafka.envVars "kafka-in" ++
          CredentialFamily.openSearch.envVars "search" ++ CredentialFamily.s3.envVars "s3" ∧
      referencedSecrets threeFamilies = ["kafka-in", "search", "s3", "kafka-out"] ∧
      ((credentialEnvVars threeFamilies.pipelines).map EnvVar.name).Nodup ∧
      ∃ base config, generatePipelineConfig threeFamilies.pipelines 3 = .ok config ∧
        Value.OnlyAdds (IsDefinedPlaceholder threeFamilies.pipelines) (.object base)
          (.object config) := by
  have generated : generatePipelineConfig threeFamilies.pipelines 3 = .ok _ := rfl
  obtain ⟨⟨base, _, added, _⟩, distinct, _⟩ := credentials_defined_and_hashed generated
  exact ⟨rfl, by decide +kernel, distinct, base, _, generated, added⟩

end DataPrepperOperator.Controller
