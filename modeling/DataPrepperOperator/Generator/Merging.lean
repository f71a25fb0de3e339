import DataPrepperOperator.Defaults.Merge
import DataPrepperOperator.Generator.Documents

/-!
# Defaults in the generated document

Whatever the defaults add to a definition shows in its part of `pipelines.yaml`: the
servers and hosts are written out, and credentials bring a section of their own.
-/

namespace DataPrepperOperator.Generator

open DataPrepperOperator.Api DataPrepperOperator.Defaults
open Value (Fields)

theorem stringList_injective {first second : List String}
    (same : (stringList first).canonical = (stringList second).canonical) : first = second := by
  have strings : Function.Injective fun text => (Value.string text).canonical := by
    intro left right equal
    simpa [Value.canonical] using equal
  simp only [stringList, Value.canonical, Value.canonicalItems_eq_map, List.map_map,
    Value.list.injEq] at same
  exact strings.list_map same

/-- A section that is filled in is there afterwards. -/
theorem mergeSection_eq_of_isSome {Section : Type} {own fallback : Option Section}
    (same : own.isSome = (mergeSection own fallback).isSome) :
    mergeSection own fallback = own := by
  cases own with
  | some value => cases fallback <;> rfl
  | none =>
      cases fallback with
      | none => rfl
      | some value => cases same

/-- What a reader finds in the section of a Kafka source. -/
theorem buildKafkaSource_entries (kafka : KafkaSourceSpec) (topicWorkers : Int) :
    ∃ config, buildKafkaSource kafka topicWorkers = [("kafka", .object config)] ∧
      config.lookup "bootstrap_servers" = some (stringList kafka.bootstrapServers) ∧
      config.lookup "authentication" =
        kafka.credentialsSecretRef.map fun _ => kafkaAuthentication := by
  refine ⟨_, rfl, rfl, ?_⟩
  cases kafka.credentialsSecretRef with
  | some reference => rfl
  | none =>
      by_cases unencrypted : kafka.encryptionType = .unset <;>
        by_cases unconfigured : kafka.consumerConfig = ∅ <;>
        simp [kafkaAuthenticationFor, unencrypted, unconfigured, List.lookup_cons]

theorem buildOpenSearchSink_entries (sink : OpenSearchSinkSpec) :
    ∃ config, buildOpenSearchSink sink = [("opensearch", .object config)] ∧
      config.lookup "hosts" = some (stringList sink.hosts) ∧
      config.lookup "username" =
        sink.credentialsSecretRef.map fun _ => .string "$\x7bOPENSEARCH_USERNAME\x7d" := by
  refine ⟨_, rfl, rfl, ?_⟩
  have noIndex : (optionalText "index" sink.index).lookup "username" = none := by
    unfold optionalText
    split <;> rfl
  have noType : (optionalText "index_type" sink.indexType).lookup "username" = none := by
    unfold optionalText
    split <;> rfl
  have noRoutes : (if sink.routes = [] then []
      else [("routes", stringList sink.routes)] : Fields).lookup "username" = none := by
    split <;> rfl
  cases sink.credentialsSecretRef with
  | some reference => simp [List.lookup_append, List.lookup_cons, noIndex, noType]
  | none => simp [List.lookup_append, List.lookup_cons, noIndex, noType, noRoutes]

theorem mergeKafkaSource_eq_of_rendered {defaults : DefaultKafkaSpec} {kafka : KafkaSourceSpec}
    {topicWorkers mergedWorkers : Int}
    (same : (Value.object (buildKafkaSource kafka topicWorkers)).canonical =
      (Value.object (buildKafkaSource (mergeKafkaSource defaults kafka) mergedWorkers)).canonical) :
    mergeKafkaSource defaults kafka = kafka := by
  obtain ⟨config, built, servers, credentials⟩ := buildKafkaSource_entries kafka topicWorkers
  obtain ⟨other, otherBuilt, otherServers, otherCredentials⟩ :=
    buildKafkaSource_entries (mergeKafkaSource defaults kafka) mergedWorkers
  rw [built, otherBuilt] at same
  have sameConfig := Option.some.inj (Value.lookup_eq_of_canonical same "kafka")
  have atServers := Value.lookup_eq_of_canonical sameConfig "bootstrap_servers"
  rw [servers, otherServers] at atServers
  have sameServers := stringList_injective (Option.some.inj atServers)
  have atCredentials := congrArg Option.isSome
    (Value.lookup_eq_of_canonical sameConfig "authentication")
  rw [credentials, otherCredentials] at atCredentials
  simp only [Option.isSome_map] at atCredentials
  have sameCredentials := mergeSection_eq_of_isSome atCredentials
  simp only [mergeKafkaSource] at sameServers ⊢
  rw [sameCredentials, ← sameServers]

theorem mergeOpenSearchSink_eq_of_rendered {defaults sink : OpenSearchSinkSpec}
    (same : (Value.object (buildOpenSearchSink sink)).canonical =
      (Value.object (buildOpenSearchSink (mergeOpenSearchSink defaults sink))).canonical) :
    mergeOpenSearchSink defaults sink = sink := by
  obtain ⟨config, built, hosts, credentials⟩ := buildOpenSearchSink_entries sink
  obtain ⟨other, otherBuilt, otherHosts, otherCredentials⟩ :=
    buildOpenSearchSink_entries (mergeOpenSearchSink defaults sink)
  rw [built, otherBuilt] at same
  have sameConfig := Option.some.inj (Value.lookup_eq_of_canonical same "opensearch")
  have atHosts := Value.lookup_eq_of_canonical sameConfig "hosts"
  rw [hosts, otherHosts] at atHosts
  have sameHosts := stringList_injective (Option.some.inj atHosts)
  have atCredentials := congrArg Option.isSome (Value.lookup_eq_of_canonical sameConfig "username")
  rw [credentials, otherCredentials] at atCredentials
  simp only [Option.isSome_map] at atCredentials
  have sameCredentials := mergeSection_eq_of_isSome atCredentials
  simp only [mergeOpenSearchSink] at sameHosts ⊢
  rw [sameCredentials, ← sameHosts]

/-- Merging leaves the kind of a source and of a sink alone. -/
theorem mergeKafka_eq_of_rendered {defaults : DefaultKafkaSpec} {pipeline : PipelineDefinition}
    {topicWorkers mergedWorkers : Int} {fields others : Fields}
    (own : buildSource pipeline.source topicWorkers = .ok fields)
    (merged : buildSource (mergeKafka defaults pipeline).source mergedWorkers = .ok others)
    (same : (Value.object fields).canonical = (Value.object others).canonical) :
    mergeKafka defaults pipeline = pipeline := by
  cases kafka : pipeline.source.kafka with
  | none =>
      unfold mergeKafka
      rw [kafka, Option.map_none, ← kafka]
  | some source =>
      simp only [buildSource, mergeKafka, kafka, Option.map_some, Except.ok.injEq] at own merged
      rw [← own, ← merged] at same
      have unchanged := mergeKafkaSource_eq_of_rendered same
      unfold mergeKafka
      rw [kafka, Option.map_some, unchanged, ← kafka]

theorem mergeSink_eq_of_rendered {defaults : OpenSearchSinkSpec} {sink : SinkSpec}
    {value other : Value} (own : (buildSink sink).map Value.object = .ok value)
    (merged : (buildSink { sink with
      openSearch := sink.openSearch.map (mergeOpenSearchSink defaults) }).map Value.object =
        .ok other)
    (same : value.canonical = other.canonical) :
    { sink with openSearch := sink.openSearch.map (mergeOpenSearchSink defaults) } = sink := by
  cases openSearch : sink.openSearch with
  | none => rw [Option.map_none, ← openSearch]
  | some spec =>
      simp only [buildSink, openSearch, Option.map_some, Except.map, Except.ok.injEq]
        at own merged
      rw [← own, ← merged] at same
      rw [Option.map_some, mergeOpenSearchSink_eq_of_rendered same, ← openSearch]

theorem buildSinks_cons {sink : SinkSpec} {rest : List SinkSpec} {values : List Value}
    (built : buildSinks (sink :: rest) = .ok values) :
    ∃ value others, (buildSink sink).map Value.object = .ok value ∧
      buildSinks rest = .ok others ∧ values = value :: others := by
  unfold buildSinks at built ⊢
  rw [List.mapM_cons] at built
  cases first : (buildSink sink).map Value.object with
  | error message => simp [first, bind, Except.bind] at built
  | ok value =>
      cases later : rest.mapM fun sink => (buildSink sink).map Value.object with
      | error message => simp [first, later, bind, Except.bind] at built
      | ok others =>
          simp only [first, later, bind, Except.bind, pure, Except.pure, Except.ok.injEq] at built
          exact ⟨value, others, rfl, rfl, built.symm⟩

theorem mergeSinks_eq_of_rendered {defaults : OpenSearchSinkSpec} {sinks : List SinkSpec}
    {values others : List Value} (own : buildSinks sinks = .ok values)
    (merged : buildSinks (sinks.map fun sink =>
      { sink with openSearch := sink.openSearch.map (mergeOpenSearchSink defaults) }) =
        .ok others)
    (same : values.map Value.canonical = others.map Value.canonical) :
    (sinks.map fun sink =>
      { sink with openSearch := sink.openSearch.map (mergeOpenSearchSink defaults) }) = sinks := by
  induction sinks generalizing values others with
  | nil => rfl
  | cons sink rest ih =>
      obtain ⟨value, later, ownFirst, ownRest, rfl⟩ := buildSinks_cons own
      obtain ⟨other, otherLater, mergedFirst, mergedRest, rfl⟩ := buildSinks_cons merged
      obtain ⟨sameFirst, sameRest⟩ := List.cons.inj same
      rw [List.map_cons, mergeSink_eq_of_rendered ownFirst mergedFirst sameFirst,
        ih ownRest mergedRest sameRest]

theorem mergeOpenSearch_eq_of_rendered {defaults : OpenSearchSinkSpec}
    {pipeline : PipelineDefinition} {values others : List Value}
    (own : buildSinks pipeline.sink = .ok values)
    (merged : buildSinks (mergeOpenSearch defaults pipeline).sink = .ok others)
    (same : values.map Value.canonical = others.map Value.canonical) :
    mergeOpenSearch defaults pipeline = pipeline := by
  unfold mergeOpenSearch at merged ⊢
  rw [mergeSinks_eq_of_rendered own merged same]

/-- A definition that is rendered as before has not been filled in. -/
theorem mergeDefinition_eq_of_rendered {defaults : DataPrepperDefaultsSpec}
    {pipeline : PipelineDefinition} {topicWorkers mergedWorkers : Int} {fields others : Fields}
    (own : buildPipeline pipeline topicWorkers = .ok fields)
    (merged : buildPipeline (mergeDefinition defaults pipeline) mergedWorkers = .ok others)
    (same : (Value.object fields).canonical = (Value.object others).canonical) :
    mergeDefinition defaults pipeline = pipeline := by
  obtain ⟨source, sinks, ownSource, ownSinks, atSource, atSink⟩ := buildPipeline_parts own
  obtain ⟨otherSource, otherSinks, mergedSource, mergedSinks, atOtherSource, atOtherSink⟩ :=
    buildPipeline_parts merged
  have sameSource := Value.lookup_eq_of_canonical same "source"
  rw [atSource, atOtherSource, Option.map_some, Option.map_some, Option.some.injEq] at sameSource
  have sameSinks := Value.lookup_eq_of_canonical same "sink"
  rw [atSink, atOtherSink] at sameSinks
  simp only [Option.map_some, Value.canonical, Value.canonicalItems_eq_map, Option.some.injEq,
    Value.list.injEq] at sameSinks
  unfold mergeDefinition at mergedSource mergedSinks ⊢
  cases kafka : defaults.kafka with
  | none =>
      cases openSearch : defaults.sink.bind (·.openSearch) with
      | none => rfl
      | some sinkDefaults =>
          simp only [kafka, openSearch] at mergedSinks
          exact mergeOpenSearch_eq_of_rendered ownSinks mergedSinks sameSinks
  | some kafkaDefaults =>
      cases openSearch : defaults.sink.bind (·.openSearch) with
      | none =>
          simp only [kafka, openSearch] at mergedSource
          exact mergeKafka_eq_of_rendered ownSource mergedSource sameSource
      | some sinkDefaults =>
          simp only [kafka, openSearch] at mergedSource mergedSinks
          have unchanged := mergeKafka_eq_of_rendered ownSource mergedSource sameSource
          rw [unchanged] at mergedSinks
          simp only [unchanged]
          exact mergeOpenSearch_eq_of_rendered ownSinks mergedSinks sameSinks

/-- Definitions with distinct names that are rendered to the same document have not been
filled in. -/
theorem mergePipelines_eq_of_rendered {defaults : DataPrepperDefaultsSpec}
    {pipelines : List PipelineDefinition} {topicWorkers mergedWorkers : Int}
    {config other : Fields} (distinct : (pipelines.map PipelineDefinition.name).Nodup)
    (own : generatePipelineConfig pipelines topicWorkers = .ok config)
    (merged : generatePipelineConfig (mergePipelines defaults pipelines) mergedWorkers =
      .ok other)
    (same : (Value.object config).canonical = (Value.object other).canonical) :
    mergePipelines defaults pipelines = pipelines := by
  rw [mergePipelines_eq_map] at merged ⊢
  have sameNames : (pipelines.map (mergeDefinition defaults)).map PipelineDefinition.name =
      pipelines.map PipelineDefinition.name := by
    simp [Function.comp_def, mergeDefinition_name]
  have unchanged : ∀ pipeline ∈ pipelines, mergeDefinition defaults pipeline = pipeline := by
    intro pipeline member
    obtain ⟨fields, builtOwn, foundOwn⟩ := lookup_of_kept (kept_of_distinct distinct member) own
    obtain ⟨others, builtMerged, foundMerged⟩ := lookup_of_kept
      (kept_of_distinct (sameNames ▸ distinct) (List.mem_map_of_mem member)) merged
    have sameEntry := Value.lookup_eq_of_canonical same pipeline.name
    rw [mergeDefinition_name] at foundMerged
    rw [foundOwn, foundMerged, Option.map_some, Option.map_some, Option.some.injEq] at sameEntry
    exact mergeDefinition_eq_of_rendered builtOwn builtMerged sameEntry
  exact (List.map_congr_left unchanged).trans (List.map_id _)

end DataPrepperOperator.Generator
