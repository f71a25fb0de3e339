import DataPrepperOperator.Controller.Convergence

/-!
# What the configuration hash notices

The keys and values of the referenced Secrets go into the hash one after another
with nothing in between, and so do the two ConfigMaps.  The pod template therefore
changes exactly when the stream does: one rotated value always shows, a boundary
that moves between a key and its value never does.
-/

namespace DataPrepperOperator.Controller

open ServerProgram DataPrepperOperator.Api DataPrepperOperator.Generator
open Framing (SameUpToBoundaries)

/-- The configuration hash in the pod template of the Deployment. -/
def podHash (cluster : Cluster) (name : String) : Option String :=
  (cluster.find .deployment name).bind fun deployment =>
    deployment.spec.template.annotations.lookup configHashAnnotation

theorem dataFields_ofList_singleton (key value : String) :
    dataFields (GoMap.ofList [(key, value)]) = [utf8 key, utf8 value] := by
  unfold dataFields hashedFields
  rw [GoMap.sortedKeys_ofList_singleton]
  simp [GoMap.ofList]

/-- With a single known key no boundary can move. -/
theorem sameUpToBoundaries_singleton_iff {key first second : String} :
    SameUpToBoundaries (dataFields (GoMap.ofList [(key, first)]))
        (dataFields (GoMap.ofList [(key, second)])) ↔
      GoMap.ofList [(key, first)] = GoMap.ofList [(key, second)] := by
  rw [dataFields_ofList_singleton, dataFields_ofList_singleton,
    ← Framing.flatten_eq_iff_sameUpToBoundaries]
  constructor
  · intro equal
    simp only [List.flatten_cons, List.flatten_nil, List.append_nil,
      List.append_cancel_left_eq] at equal
    rw [utf8_injective equal]
  · intro equal
    have values := congrArg (Finmap.lookup key) equal
    simp only [GoMap.ofList, List.foldl_cons, List.foldl_nil, Finmap.lookup_insert,
      Option.some.injEq] at values
    rw [values]

theorem hashOfData_eq_iff {toolkit : Toolkit} {first second : GoMap String}
    {firstOrder secondOrder : List String}
    (firstPermuted : firstOrder.Perm (GoMap.sortedKeys first))
    (secondPermuted : secondOrder.Perm (GoMap.sortedKeys second))
    (distinguishes : toolkit.Distinguishes (dataFields first).flatten
      (dataFields second).flatten) :
    hashOfData toolkit firstOrder first = hashOfData toolkit secondOrder second ↔
      SameUpToBoundaries (dataFields first) (dataFields second) := by
  rw [hashOfData_eq toolkit firstPermuted, hashOfData_eq toolkit secondPermuted]
  exact Toolkit.truncatedHash_flatten_eq_iff distinguishes

section Hashes

variable {toolkit : Toolkit} {reconciler : PipelineReconciler} {name : String}
  {first second : Inputs} {firstPlan secondPlan : Plan}

theorem secretHash_eq_iff (sameSpec : first.mergedSpec = second.mergedSpec)
    (distinguishes : toolkit.Distinguishes first.secretStream.flatten
      second.secretStream.flatten) :
    first.secretHash toolkit = second.secretHash toolkit ↔
      SameUpToBoundaries first.secretStream second.secretStream := by
  unfold Inputs.secretHash
  rw [sameSpec]
  cases referenced : referencedSecrets second.mergedSpec with
  | nil =>
      have firstEmpty : first.secretStream = [] := by
        simp [Inputs.secretStream, sameSpec, referenced]
      have secondEmpty : second.secretStream = [] := by
        simp [Inputs.secretStream, referenced]
      rw [firstEmpty, secondEmpty]
      exact iff_of_true rfl (.refl _)
  | cons secret rest => exact Toolkit.truncatedHash_flatten_eq_iff distinguishes

theorem secretStream_congr (sameSpec : first.mergedSpec = second.mergedSpec)
    (sameData : ∀ secret ∈ referencedSecrets first.mergedSpec,
      first.secrets secret = second.secrets secret) :
    first.secretStream = second.secretStream := by
  unfold Inputs.secretStream
  rw [← sameSpec]
  exact List.flatMap_congr fun secret referenced => by rw [sameData secret referenced]

/-- None of the texts that the two plans hash is a collision. -/
structure HashesApart (toolkit : Toolkit) (first second : Inputs) (firstPlan secondPlan : Plan) :
    Prop where
  pipelines : toolkit.Distinguishes (dataFields firstPlan.pipelinesData).flatten
    (dataFields secondPlan.pipelinesData).flatten
  config : toolkit.Distinguishes (dataFields firstPlan.configData).flatten
    (dataFields secondPlan.configData).flatten
  secrets : toolkit.Distinguishes first.secretStream.flatten second.secretStream.flatten

/-- The parts of the hash have fixed lengths, so that none is mistaken for
another. -/
theorem configHash_eq_iff_parts (firstPlanned : first.plan reconciler name = .ok firstPlan)
    (secondPlanned : second.plan reconciler name = .ok secondPlan) :
    firstPlan.configHash = secondPlan.configHash ↔
      (reconciler.toolkit.truncatedHash (dataFields firstPlan.pipelinesData).flatten =
          reconciler.toolkit.truncatedHash (dataFields secondPlan.pipelinesData).flatten ∧
        reconciler.toolkit.truncatedHash (dataFields firstPlan.configData).flatten =
          reconciler.toolkit.truncatedHash (dataFields secondPlan.configData).flatten) ∧
      first.secretHash reconciler.toolkit = second.secretHash reconciler.toolkit := by
  obtain ⟨_, _, _, _, _, firstHash⟩ := Inputs.plan_ok firstPlanned
  obtain ⟨_, _, _, _, _, secondHash⟩ := Inputs.plan_ok secondPlanned
  rw [firstHash, secondHash, GoText.append_eq_append_iff, GoText.append_eq_append_iff]
  · simp only [Toolkit.length_truncatedHash]
  · simp only [String.length_append, Toolkit.length_truncatedHash]

theorem configHash_eq_iff (firstPlanned : first.plan reconciler name = .ok firstPlan)
    (secondPlanned : second.plan reconciler name = .ok secondPlan)
    (sameSpec : first.mergedSpec = second.mergedSpec)
    (apart : HashesApart reconciler.toolkit first second firstPlan secondPlan) :
    firstPlan.configHash = secondPlan.configHash ↔
      (firstPlan.pipelinesData = secondPlan.pipelinesData ∧
        firstPlan.configData = secondPlan.configData) ∧
      SameUpToBoundaries first.secretStream second.secretStream := by
  rw [configHash_eq_iff_parts firstPlanned secondPlanned, secretHash_eq_iff sameSpec apart.secrets,
    Toolkit.truncatedHash_flatten_eq_iff apart.pipelines,
    Toolkit.truncatedHash_flatten_eq_iff apart.config]
  obtain ⟨_, _, _, _, firstGenerated, _⟩ := Inputs.plan_ok firstPlanned
  obtain ⟨_, _, _, _, secondGenerated, _⟩ := Inputs.plan_ok secondPlanned
  obtain ⟨_, _, _, _, _, _, _, _, firstPipelines, firstConfig⟩ :=
    generateConfigs_ok firstGenerated
  obtain ⟨_, _, _, _, _, _, _, _, secondPipelines, secondConfig⟩ :=
    generateConfigs_ok secondGenerated
  simp only at firstPipelines firstConfig secondPipelines secondConfig
  rw [firstPipelines, secondPipelines, firstConfig, secondConfig,
    sameUpToBoundaries_singleton_iff, sameUpToBoundaries_singleton_iff]

theorem podHash_of_realizes {inputs : Inputs} {plan : Plan} {cluster : Cluster}
    (unannotated : inputs.mergedSpec.podAnnotations.lookup configHashAnnotation = none)
    (realizes : Realizes cluster name (inputs.content name plan)) :
    podHash cluster name = some plan.configHash := by
  obtain ⟨deployment, found, _, _, content⟩ := realizes.deployment
  have spec : deployment.spec = (generateDeployment (inputs.owner name) inputs.mergedSpec
    plan.scaling.replicas plan.needsPeerForwarder plan.configHash).spec := content
  unfold podHash
  rw [found, Option.bind_some, spec]
  simp only [generateDeployment, generated, GoMap.lookup_copy, unannotated, Option.none_or]
  simp [GoMap.ofList]

end Hashes

theorem nodup_foldl_addReference {references : List SecretReference} {names : List String}
    (nodup : names.Nodup) : (references.foldl addReference names).Nodup := by
  induction references generalizing names with
  | nil => exact nodup
  | cons reference rest ih =>
      rw [List.foldl_cons]
      apply ih
      unfold addReference
      split
      · exact nodup
      · rename_i fresh
        rw [List.nodup_append]
        refine ⟨nodup, List.nodup_singleton _, ?_⟩
        rintro name member _ listed rfl
        rw [List.mem_singleton.mp listed] at member
        exact fresh member

theorem nodup_referencedSecrets (spec : DataPrepperPipelineSpec) :
    (referencedSecrets spec).Nodup :=
  nodup_foldl_addReference List.nodup_nil

/-- A new value under an old key is written between the same fields. -/
theorem exists_around_storedFields {data : GoMap Bytes} {key : String} (value : Bytes)
    (present : key ∈ data) :
    ∃ before after,
      Inputs.storedFields (some data) =
        before ++ [utf8 key, (data.lookup key).getD []] ++ after ∧
      Inputs.storedFields (some (data.insert key value)) =
        before ++ [utf8 key, value] ++ after := by
  have sameKeys : GoMap.sortedKeys (data.insert key value) = GoMap.sortedKeys data :=
    GoMap.sortedKeys_insert_of_mem present
  obtain ⟨before, after, old, new⟩ := Framing.exists_around_flatMap
    (GoMap.nodup_sortedKeys data) (GoMap.mem_sortedKeys.mpr present)
    (fun other _ different => by
      rw [Finmap.lookup_insert_of_ne data different] :
      ∀ other ∈ GoMap.sortedKeys data, other ≠ key →
        [utf8 other, (data.lookup other).getD []] =
          [utf8 other, ((data.insert key value).lookup other).getD []])
  refine ⟨before, after, old, ?_⟩
  simp only [Inputs.storedFields, hashedFields, sameKeys]
  rw [new, Finmap.lookup_insert]
  rfl

/-- Replacing one value of one referenced Secret changes the stream. -/
theorem secretStream_changed_of_rotated {first second : Inputs} {secret key : String}
    {data : GoMap Bytes} {value : Bytes} (sameSpec : first.mergedSpec = second.mergedSpec)
    (referenced : secret ∈ referencedSecrets first.mergedSpec)
    (before : first.secrets secret = some data)
    (after : second.secrets secret = some (data.insert key value)) (present : key ∈ data)
    (rotated : data.lookup key ≠ some value)
    (others : ∀ other ≠ secret, first.secrets other = second.secrets other) :
    ¬SameUpToBoundaries first.secretStream second.secretStream := by
  obtain ⟨outerBefore, outerAfter, firstStream, secondStream⟩ := Framing.exists_around_flatMap
    (nodup_referencedSecrets first.mergedSpec) referenced
    (fun other _ different => by rw [others other different] :
      ∀ other ∈ referencedSecrets first.mergedSpec, other ≠ secret →
        Inputs.storedFields (first.secrets other) = Inputs.storedFields (second.secrets other))
  obtain ⟨innerBefore, innerAfter, old, new⟩ := exists_around_storedFields value present
  have changed : (data.lookup key).getD [] ≠ value := by
    obtain ⟨stored, found⟩ := Option.isSome_iff_exists.mp (Finmap.lookup_isSome.mpr present)
    rw [found] at rotated ⊢
    simpa using rotated
  have apart := Framing.not_sameUpToBoundaries_of_changed
    (outerBefore ++ innerBefore ++ [utf8 key]) (innerAfter ++ outerAfter) changed
  unfold Inputs.secretStream
  rw [← sameSpec, firstStream, secondStream, before, after, old, new]
  simpa using apart

/-- Two reconciles with the same merged spec write different hashes exactly when the
referenced Secrets write different streams, or the generated configuration differs;
equal contents give equal hashes in whatever order the maps are visited.  The hash
of a ConfigMap differs exactly when its stream does. -/
theorem config_hash_differs_iff {reconciler : PipelineReconciler} {name : String}
    {first second : Inputs} {firstState secondState firstFinal secondFinal : Cluster}
    {firstTrace secondTrace : List (Event Cluster Op Reply)}
    {firstResult secondResult : ReconcileResult}
    (firstKnown : inputsOf firstState name = some first)
    (secondKnown : inputsOf secondState name = some second)
    (sameSpec : first.mergedSpec = second.mergedSpec)
    (valid : Validation.validateGraph (graphDefs first.mergedSpec.pipelines) = .ok ())
    (unannotated : first.mergedSpec.podAnnotations.lookup configHashAnnotation = none)
    (firstRun : Runs Disturbed (reconcile reconciler name).run firstState firstTrace
      (.ok firstResult) firstFinal)
    (secondRun : Runs Disturbed (reconcile reconciler name).run secondState secondTrace
      (.ok secondResult) secondFinal) :
    (∀ data other order otherOrder, order.Perm (GoMap.sortedKeys data) →
      otherOrder.Perm (GoMap.sortedKeys other) →
      reconciler.toolkit.Distinguishes (dataFields data).flatten (dataFields other).flatten →
      (hashOfData reconciler.toolkit order data ≠
          hashOfData reconciler.toolkit otherOrder other ↔
        ¬SameUpToBoundaries (dataFields data) (dataFields other))) ∧
    ∃ firstPlan secondPlan, first.plan reconciler name = .ok firstPlan ∧
      second.plan reconciler name = .ok secondPlan ∧
      (HashesApart reconciler.toolkit first second firstPlan secondPlan →
        (podHash firstFinal name ≠ podHash secondFinal name ↔
          ¬((firstPlan.pipelinesData = secondPlan.pipelinesData ∧
              firstPlan.configData = secondPlan.configData) ∧
            SameUpToBoundaries first.secretStream second.secretStream))) ∧
      (firstPlan.pipelinesData = secondPlan.pipelinesData →
        firstPlan.configData = secondPlan.configData →
        (∀ secret ∈ referencedSecrets first.mergedSpec,
          first.secrets secret = second.secrets secret) →
        podHash firstFinal name = podHash secondFinal name) := by
  refine ⟨fun data other order otherOrder permuted otherPermuted distinguishes =>
    not_congr (hashOfData_eq_iff permuted otherPermuted distinguishes), ?_⟩
  obtain ⟨firstPlan, firstPlanned, firstRealized⟩ :=
    realized_of_reconcile firstKnown valid firstRun
  obtain ⟨secondPlan, secondPlanned, secondRealized⟩ :=
    realized_of_reconcile secondKnown (by rwa [← sameSpec]) secondRun
  have firstHash : podHash firstFinal name = some firstPlan.configHash :=
    podHash_of_realizes unannotated (realizes_of_children firstRealized)
  have secondHash : podHash secondFinal name = some secondPlan.configHash :=
    podHash_of_realizes (by rwa [← sameSpec]) (realizes_of_children secondRealized)
  rw [firstHash, secondHash]
  simp only [ne_eq, Option.some.injEq]
  refine ⟨firstPlan, secondPlan, firstPlanned, secondPlanned, fun apart =>
    not_congr (configHash_eq_iff firstPlanned secondPlanned sameSpec apart), ?_⟩
  intro samePipelines sameConfig sameData
  apply (configHash_eq_iff_parts firstPlanned secondPlanned).mpr
  have sameStream := secretStream_congr sameSpec sameData
  refine ⟨⟨by rw [samePipelines], by rw [sameConfig]⟩, ?_⟩
  unfold Inputs.secretHash
  rw [sameSpec, sameStream]

/-- Stand-ins whose hash keeps the first bytes of its input. -/
def paddingToolkit : Toolkit :=
  { sampleToolkit with
    sha256 := fun bytes => (bytes ++ List.replicate 32 0).take 32
    sha256_length := length_take_padded }

def paddingReconciler : PipelineReconciler :=
  { sampleReconciler with toolkit := paddingToolkit }

def secretNamed (name : String) (data : GoMap Bytes) : Object .secret where
  metadata := { name := name, nameSpace := "logs" }
  spec := data
  status := ()

/-- A pipeline and the Secret with its credentials. -/
def credentialed (key value : String) : Cluster :=
  ((Cluster.empty.create (kafkaPipeline (some { name := "own-kafka" }))).2.create
    (secretNamed "own-kafka" (GoMap.ofList [(key, utf8 value)]))).2

/-- What a reconcile of the sample pipeline hashes. -/
def hashedInputs (cluster : Cluster) : Option (DataPrepperPipelineSpec ×
    List Bytes × Except String (GoMap String × GoMap String)) :=
  (inputsOf cluster "ingest").map fun inputs =>
    (inputs.mergedSpec, inputs.secretStream, (inputs.plan paddingReconciler "ingest").map
      fun plan => (plan.pipelinesData, plan.configData))

theorem hashedInputs_eq_some {cluster : Cluster} {spec : DataPrepperPipelineSpec}
    {stream : List Bytes} {configs : GoMap String × GoMap String}
    (evaluated : hashedInputs cluster = some (spec, stream, .ok configs)) :
    ∃ inputs, inputsOf cluster "ingest" = some inputs ∧ inputs.mergedSpec = spec ∧
      inputs.secretStream = stream ∧
      ∀ plan, inputs.plan paddingReconciler "ingest" = .ok plan →
        plan.pipelinesData = configs.1 ∧ plan.configData = configs.2 := by
  obtain ⟨inputs, known, same⟩ := Option.map_eq_some_iff.mp evaluated
  simp only [Prod.mk.injEq] at same
  obtain ⟨sameSpec, sameStream, generated⟩ := same
  refine ⟨inputs, known, sameSpec, sameStream, ?_⟩
  intro plan planned
  rw [planned, Except.map, Except.ok.injEq] at generated
  rw [← generated]
  exact ⟨rfl, rfl⟩

def sampleConfigs : GoMap String × GoMap String :=
  (GoMap.ofList [("pipelines.yaml", "yaml")], GoMap.ofList [("data-prepper-config.yaml", "yaml")])

/-- A rotated value shows in the pod template. -/
theorem config_hash_differs_after_rotation :
    podHash ((reconcile paddingReconciler "ingest").run.execute Cluster.answer
        (credentialed "a" "bc")).2 "ingest" ≠
      podHash ((reconcile paddingReconciler "ingest").run.execute Cluster.answer
        (credentialed "a" "bd")).2 "ingest" := by
  have firstEvaluated : hashedInputs (credentialed "a" "bc") =
      some ((kafkaPipeline (some { name := "own-kafka" })).spec, [utf8 "a", utf8 "bc"],
        .ok sampleConfigs) := by decide +kernel
  have secondEvaluated : hashedInputs (credentialed "a" "bd") =
      some ((kafkaPipeline (some { name := "own-kafka" })).spec, [utf8 "a", utf8 "bd"],
        .ok sampleConfigs) := by decide +kernel
  obtain ⟨first, firstKnown, firstSpec, firstStream, firstConfigs⟩ :=
    hashedInputs_eq_some firstEvaluated
  obtain ⟨second, secondKnown, secondSpec, secondStream, secondConfigs⟩ :=
    hashedInputs_eq_some secondEvaluated
  obtain ⟨_, firstRun⟩ := runs_of_completes ChildFault
    (show Completes paddingReconciler "ingest" (credentialed "a" "bc") by decide +kernel)
  obtain ⟨_, secondRun⟩ := runs_of_completes ChildFault
    (show Completes paddingReconciler "ingest" (credentialed "a" "bd") by decide +kernel)
  obtain ⟨_, firstPlan, secondPlan, firstPlanned, secondPlanned, differs, _⟩ :=
    config_hash_differs_iff firstKnown secondKnown (firstSpec.trans secondSpec.symm)
      (by rw [firstSpec]; decide +kernel) (by rw [firstSpec]; decide +kernel) firstRun secondRun
  obtain ⟨firstPipelines, firstConfig⟩ := firstConfigs firstPlan firstPlanned
  obtain ⟨secondPipelines, secondConfig⟩ := secondConfigs secondPlan secondPlanned
  have apart : HashesApart paddingReconciler.toolkit first second firstPlan secondPlan := by
    refine ⟨?_, ?_, ?_⟩
    · rw [firstPipelines, secondPipelines]
      exact fun _ => rfl
    · rw [firstConfig, secondConfig]
      exact fun _ => rfl
    · rw [firstStream, secondStream]
      unfold Toolkit.Distinguishes
      decide +kernel
  apply (differs apart).mpr
  rintro ⟨_, same⟩
  rw [firstStream, secondStream, ← Framing.flatten_eq_iff_sameUpToBoundaries] at same
  revert same
  decide +kernel

/-- Moving a byte from the value to the key changes the Secret but no hash, whatever
the hash function. -/
theorem moved_boundary_keeps_hash :
    ∃ before after firstTrace secondTrace firstFinal secondFinal result,
      inputsOf (credentialed "a" "bc") "ingest" = some before ∧
      inputsOf (credentialed "ab" "c") "ingest" = some after ∧
      before.mergedSpec = after.mergedSpec ∧
      "own-kafka" ∈ referencedSecrets before.mergedSpec ∧
      before.secrets "own-kafka" ≠ after.secrets "own-kafka" ∧
      Runs Reliable (reconcile paddingReconciler "ingest").run (credentialed "a" "bc") firstTrace
        (.ok result) firstFinal ∧
      Runs Reliable (reconcile paddingReconciler "ingest").run (credentialed "ab" "c") secondTrace
        (.ok result) secondFinal ∧
      (podHash firstFinal "ingest").isSome ∧
      podHash firstFinal "ingest" = podHash secondFinal "ingest" ∧
      (∀ toolkit, before.secretHash toolkit = after.secretHash toolkit) ∧
      ∀ toolkit, hashOfData toolkit ["a"] (GoMap.ofList [("a", "bc")]) =
        hashOfData toolkit ["ab"] (GoMap.ofList [("ab", "c")]) := by
  obtain ⟨firstTrace, firstRun⟩ := runs_of_completes (fun _ _ => False)
    (show Completes paddingReconciler "ingest" (credentialed "a" "bc") by decide +kernel)
  obtain ⟨secondTrace, secondRun⟩ := runs_of_completes (fun _ _ => False)
    (show Completes paddingReconciler "ingest" (credentialed "ab" "c") by decide +kernel)
  have firstRead : (inputsOf (credentialed "a" "bc") "ingest").map (fun inputs =>
      (inputs.mergedSpec, inputs.secrets "own-kafka")) =
        some ((kafkaPipeline (some { name := "own-kafka" })).spec,
          some (GoMap.ofList [("a", utf8 "bc")])) := by decide +kernel
  have secondRead : (inputsOf (credentialed "ab" "c") "ingest").map (fun inputs =>
      (inputs.mergedSpec, inputs.secrets "own-kafka")) =
        some ((kafkaPipeline (some { name := "own-kafka" })).spec,
          some (GoMap.ofList [("ab", utf8 "c")])) := by decide +kernel
  obtain ⟨before, firstKnown, firstSame⟩ := Option.map_eq_some_iff.mp firstRead
  obtain ⟨after, secondKnown, secondSame⟩ := Option.map_eq_some_iff.mp secondRead
  simp only [Prod.mk.injEq] at firstSame secondSame
  obtain ⟨firstSpec, firstSecret⟩ := firstSame
  obtain ⟨secondSpec, secondSecret⟩ := secondSame
  have referenced : referencedSecrets (kafkaPipeline (some { name := "own-kafka" })).spec =
      ["own-kafka"] := by decide +kernel
  refine ⟨before, after, firstTrace, secondTrace, _, _, _, firstKnown, secondKnown,
    firstSpec.trans secondSpec.symm, ?_, ?_, firstRun, secondRun, by decide +kernel,
    by decide +kernel, ?_, ?_⟩
  · rw [firstSpec, referenced]
    exact List.mem_singleton_self _
  · rw [firstSecret, secondSecret]
    decide +kernel
  · intro toolkit
    unfold Inputs.secretHash Inputs.secretStream
    rw [firstSpec, secondSpec, referenced]
    simp only [List.flatMap_cons, List.flatMap_nil, firstSecret, secondSecret]
    apply congrArg
    decide +kernel
  · intro toolkit
    unfold hashOfData
    apply congrArg
    decide +kernel

end DataPrepperOperator.Controller
