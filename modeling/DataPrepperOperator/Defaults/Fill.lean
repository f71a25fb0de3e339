import DataPrepperOperator.Api.Settings
import DataPrepperOperator.Defaults.Merge

/-!
# Merging as a fill

The defaults can fill eight kinds of slots of a pipeline spec: four at the top, two in
each Kafka source and two in each OpenSearch sink.  A slot that is set stays as it is,
and everything outside the slots is untouched.
-/

namespace DataPrepperOperator.Defaults

open DataPrepperOperator.Api

/-- What defaults may supply; pipelines and sinks are counted from zero. -/
inductive Slot where
  | image
  | resources
  | dataPrepperConfig
  | serviceMonitor
  | bootstrapServers (pipeline : Nat)
  | kafkaCredentials (pipeline : Nat)
  | hosts (pipeline sink : Nat)
  | openSearchCredentials (pipeline sink : Nat)

def kafkaAt (spec : DataPrepperPipelineSpec) (pipeline : Nat) : Option KafkaSourceSpec :=
  spec.pipelines[pipeline]?.bind (·.source.kafka)

def openSearchAt (spec : DataPrepperPipelineSpec) (pipeline sink : Nat) :
    Option OpenSearchSinkSpec :=
  (spec.pipelines[pipeline]?.bind (·.sink[sink]?)).bind (·.openSearch)

namespace Slot

def Content : Slot → Type
  | image => String
  | resources => PerReplicaResources
  | dataPrepperConfig => DataPrepperConfigSpec
  | serviceMonitor => ServiceMonitorSpec
  | bootstrapServers _ | hosts _ _ => List String
  | kafkaCredentials _ | openSearchCredentials _ _ => SecretReference

/-- The value of a slot, if it is set. -/
def setting : (slot : Slot) → DataPrepperPipelineSpec → Option slot.Content
  | image, spec => textSetting spec.image
  | resources, spec => spec.resources
  | dataPrepperConfig, spec => spec.dataPrepperConfig
  | serviceMonitor, spec => spec.serviceMonitor
  | bootstrapServers pipeline, spec =>
      (kafkaAt spec pipeline).bind fun kafka => listSetting kafka.bootstrapServers
  | kafkaCredentials pipeline, spec => (kafkaAt spec pipeline).bind (·.credentialsSecretRef)
  | hosts pipeline sink, spec =>
      (openSearchAt spec pipeline sink).bind fun openSearch => listSetting openSearch.hosts
  | openSearchCredentials pipeline sink, spec =>
      (openSearchAt spec pipeline sink).bind (·.credentialsSecretRef)

/-- Whether the spec has such a slot: there is a Kafka source or an OpenSearch sink at its
place. -/
def Present : Slot → DataPrepperPipelineSpec → Prop
  | image, _ | resources, _ | dataPrepperConfig, _ | serviceMonitor, _ => True
  | bootstrapServers pipeline, spec | kafkaCredentials pipeline, spec =>
      (kafkaAt spec pipeline).isSome = true
  | hosts pipeline sink, spec | openSearchCredentials pipeline sink, spec =>
      (openSearchAt spec pipeline sink).isSome = true

/-- What the defaults have for a slot. -/
def fallback : (slot : Slot) → Option DataPrepperDefaultsSpec → Option slot.Content
  | image, defaults => defaults.bind fun defaults => textSetting defaults.image
  | resources, defaults => defaults.bind (·.resources)
  | dataPrepperConfig, defaults => defaults.bind (·.dataPrepperConfig)
  | serviceMonitor, defaults => defaults.bind (·.serviceMonitor)
  | bootstrapServers _, defaults =>
      (defaults.bind (·.kafka)).bind fun kafka => listSetting kafka.bootstrapServers
  | kafkaCredentials _, defaults => (defaults.bind (·.kafka)).bind (·.credentialsSecretRef)
  | hosts _ _, defaults => ((defaults.bind (·.sink)).bind (·.openSearch)).bind fun openSearch =>
      listSetting openSearch.hosts
  | openSearchCredentials _ _, defaults =>
      ((defaults.bind (·.sink)).bind (·.openSearch)).bind (·.credentialsSecretRef)

end Slot

def blankKafka (kafka : KafkaSourceSpec) : KafkaSourceSpec :=
  { kafka with bootstrapServers := [], credentialsSecretRef := none }

def blankOpenSearch (openSearch : OpenSearchSinkSpec) : OpenSearchSinkSpec :=
  { openSearch with hosts := [], credentialsSecretRef := none }

def blankSink (sink : SinkSpec) : SinkSpec :=
  { sink with openSearch := sink.openSearch.map blankOpenSearch }

def blankDefinition (definition : PipelineDefinition) : PipelineDefinition :=
  { definition with
    source := { definition.source with kafka := definition.source.kafka.map blankKafka }
    sink := definition.sink.map blankSink }

/-- The spec with all of its slots unset: its pipelines and sinks in their order, and every
field that defaults cannot supply. -/
def blank (spec : DataPrepperPipelineSpec) : DataPrepperPipelineSpec :=
  { spec with
    image := ""
    resources := none
    dataPrepperConfig := none
    serviceMonitor := none
    pipelines := spec.pipelines.map blankDefinition }

theorem kafka_ext {first second : Option KafkaSourceSpec}
    (sameRest : first.map blankKafka = second.map blankKafka)
    (sameServers : (first.bind fun kafka => listSetting kafka.bootstrapServers) =
      second.bind fun kafka => listSetting kafka.bootstrapServers)
    (sameCredentials : first.bind (·.credentialsSecretRef) =
      second.bind (·.credentialsSecretRef)) : first = second := by
  cases first with
  | none => cases second <;> simp_all
  | some own =>
      cases second with
      | none => simp at sameRest
      | some other =>
          have servers : own.bootstrapServers = other.bootstrapServers :=
            listSetting_inj sameServers
          have credentials : own.credentialsSecretRef = other.credentialsSecretRef :=
            sameCredentials
          cases own
          cases other
          simp_all [blankKafka]

theorem openSearch_ext {first second : Option OpenSearchSinkSpec}
    (sameRest : first.map blankOpenSearch = second.map blankOpenSearch)
    (sameHosts : (first.bind fun openSearch => listSetting openSearch.hosts) =
      second.bind fun openSearch => listSetting openSearch.hosts)
    (sameCredentials : first.bind (·.credentialsSecretRef) =
      second.bind (·.credentialsSecretRef)) : first = second := by
  cases first with
  | none => cases second <;> simp_all
  | some own =>
      cases second with
      | none => simp at sameRest
      | some other =>
          have hosts : own.hosts = other.hosts := listSetting_inj sameHosts
          have credentials : own.credentialsSecretRef = other.credentialsSecretRef :=
            sameCredentials
          cases own
          cases other
          simp_all [blankOpenSearch]

/-- Lists are equal if their entries are equal up to blanks and in their slots. -/
theorem list_ext_of_blank {Item : Type} {blankItem : Item → Item} {first second : List Item}
    (sameRest : first.map blankItem = second.map blankItem)
    (sameItem : ∀ (index : Nat) own other, first[index]? = some own →
      second[index]? = some other → blankItem own = blankItem other → own = other) :
    first = second := by
  apply List.ext_getElem?
  intro index
  have here := congrArg (·[index]?) sameRest
  simp only [List.getElem?_map] at here
  cases own : first[index]? with
  | none => cases other : second[index]? <;> simp_all
  | some item =>
      cases other : second[index]? with
      | none => simp [own, other] at here
      | some counterpart =>
          rw [own, other, Option.map_some, Option.map_some, Option.some.injEq] at here
          rw [sameItem index item counterpart own other here]

/-- A spec is determined by its slots and by the rest. -/
theorem spec_ext_of_slots {first second : DataPrepperPipelineSpec}
    (sameRest : blank first = blank second)
    (sameSlots : ∀ slot : Slot, slot.setting first = slot.setting second) : first = second := by
  have samePipelines : first.pipelines = second.pipelines := by
    refine list_ext_of_blank (congrArg (·.pipelines) sameRest :) ?_
    intro pipeline own other ownAt otherAt sameDefinition
    have sameKafka : own.source.kafka = other.source.kafka := by
      apply kafka_ext (congrArg (·.source.kafka) sameDefinition)
      · have servers := sameSlots (.bootstrapServers pipeline)
        simp only [Slot.setting, kafkaAt, ownAt, otherAt] at servers
        exact servers
      · have credentials := sameSlots (.kafkaCredentials pipeline)
        simp only [Slot.setting, kafkaAt, ownAt, otherAt] at credentials
        exact credentials
    have sameSinks : own.sink = other.sink := by
      refine list_ext_of_blank (congrArg (·.sink) sameDefinition :) ?_
      intro sink ownSink otherSink ownSinkAt otherSinkAt sameSink
      have sameOpenSearch : ownSink.openSearch = otherSink.openSearch := by
        apply openSearch_ext (congrArg (·.openSearch) sameSink)
        · have hosts := sameSlots (.hosts pipeline sink)
          simp only [Slot.setting, openSearchAt, ownAt, otherAt, Option.bind_some, ownSinkAt,
            otherSinkAt] at hosts
          exact hosts
        · have credentials := sameSlots (.openSearchCredentials pipeline sink)
          simp only [Slot.setting, openSearchAt, ownAt, otherAt, Option.bind_some, ownSinkAt,
            otherSinkAt] at credentials
          exact credentials
      cases ownSink
      cases otherSink
      simp_all [blankSink]
    have sameSource : own.source = other.source := by
      have sameOthers := congrArg PipelineDefinition.source sameDefinition
      cases ownSource : own.source
      cases otherSource : other.source
      simp_all [blankDefinition]
    cases own
    cases other
    simp_all [blankDefinition]
  have sameImage : first.image = second.image := textSetting_inj (sameSlots .image)
  have sameResources : first.resources = second.resources := sameSlots .resources
  have sameConfig : first.dataPrepperConfig = second.dataPrepperConfig :=
    sameSlots .dataPrepperConfig
  have sameMonitor : first.serviceMonitor = second.serviceMonitor := sameSlots .serviceMonitor
  cases first
  cases second
  simp_all [blank]

theorem mergeSection_eq_or {Section : Type} (own fallback : Option Section) :
    mergeSection own fallback = own.or fallback := by
  cases own <;> cases fallback <;> rfl

theorem listSetting_merge (own fallback : List String) :
    listSetting (if own.length = 0 ∧ 0 < fallback.length then fallback else own) =
      (listSetting own).or (listSetting fallback) := by
  cases own <;> cases fallback <;> rfl

theorem textSetting_merge (own fallback : String) :
    textSetting (if own = "" ∧ fallback ≠ "" then fallback else own) =
      (textSetting own).or (textSetting fallback) := by
  by_cases unset : own = "" <;> by_cases missing : fallback = "" <;>
    simp [textSetting, unset, missing]

theorem kafkaAt_mergeSpec (defaults : DataPrepperDefaultsSpec) (spec : DataPrepperPipelineSpec)
    (pipeline : Nat) :
    kafkaAt (mergeSpec (some defaults) spec) pipeline = match defaults.kafka with
      | none => kafkaAt spec pipeline
      | some kafka => (kafkaAt spec pipeline).map (mergeKafkaSource kafka) := by
  unfold kafkaAt
  simp only [mergeSpec, mergePipelines_eq_map, List.getElem?_map]
  cases spec.pipelines[pipeline]? with
  | none => cases defaults.kafka <;> rfl
  | some definition => exact mergeDefinition_kafka defaults definition

theorem openSearchAt_mergeSpec (defaults : DataPrepperDefaultsSpec)
    (spec : DataPrepperPipelineSpec) (pipeline sink : Nat) :
    openSearchAt (mergeSpec (some defaults) spec) pipeline sink =
      match defaults.sink.bind (·.openSearch) with
      | none => openSearchAt spec pipeline sink
      | some openSearch =>
          (openSearchAt spec pipeline sink).map (mergeOpenSearchSink openSearch) := by
  unfold openSearchAt
  simp only [mergeSpec, mergePipelines_eq_map, List.getElem?_map]
  cases spec.pipelines[pipeline]? with
  | none => cases defaults.sink.bind (·.openSearch) <;> rfl
  | some definition =>
      simp only [Option.map_some, Option.bind_some, mergeDefinition_sink]
      cases defaults.sink.bind (·.openSearch) with
      | none => rfl
      | some fallback =>
          simp only [List.getElem?_map]
          cases definition.sink[sink]? <;> rfl

/-- A present slot is filled from the defaults if it is unset. -/
theorem setting_mergeSpec (slot : Slot) (defaults : Option DataPrepperDefaultsSpec)
    (spec : DataPrepperPipelineSpec) (present : slot.Present spec) :
    slot.setting (mergeSpec defaults spec) =
      (slot.setting spec).or (slot.fallback defaults) := by
  cases defaults with
  | none => cases slot <;> exact Option.or_none.symm
  | some defaults =>
      cases slot with
      | image => exact textSetting_merge spec.image defaults.image
      | resources => exact mergeSection_eq_or spec.resources defaults.resources
      | dataPrepperConfig | serviceMonitor => exact mergeSection_eq_or _ _
      | bootstrapServers pipeline =>
          obtain ⟨kafka, found⟩ := Option.isSome_iff_exists.mp present
          simp only [Slot.setting, Slot.fallback, kafkaAt_mergeSpec, found, Option.bind_some]
          cases defaults.kafka with
          | none => exact Option.or_none.symm
          | some fallback =>
              exact listSetting_merge kafka.bootstrapServers fallback.bootstrapServers
      | kafkaCredentials pipeline =>
          obtain ⟨kafka, found⟩ := Option.isSome_iff_exists.mp present
          simp only [Slot.setting, Slot.fallback, kafkaAt_mergeSpec, found, Option.bind_some]
          cases defaults.kafka with
          | none => exact Option.or_none.symm
          | some fallback => exact mergeSection_eq_or _ _
      | hosts pipeline sink =>
          obtain ⟨openSearch, found⟩ := Option.isSome_iff_exists.mp present
          simp only [Slot.setting, Slot.fallback, openSearchAt_mergeSpec, found, Option.bind_some]
          cases defaults.sink.bind (·.openSearch) with
          | none => exact Option.or_none.symm
          | some fallback => exact listSetting_merge openSearch.hosts fallback.hosts
      | openSearchCredentials pipeline sink =>
          obtain ⟨openSearch, found⟩ := Option.isSome_iff_exists.mp present
          simp only [Slot.setting, Slot.fallback, openSearchAt_mergeSpec, found, Option.bind_some]
          cases defaults.sink.bind (·.openSearch) with
          | none => exact Option.or_none.symm
          | some fallback => exact mergeSection_eq_or _ _

theorem blankDefinition_mergeDefinition (defaults : DataPrepperDefaultsSpec)
    (definition : PipelineDefinition) :
    blankDefinition (mergeDefinition defaults definition) = blankDefinition definition := by
  have kafka : ∀ fallback : DefaultKafkaSpec,
      blankKafka ∘ mergeKafkaSource fallback = blankKafka := fun _ => rfl
  have sinks : ∀ fallback : OpenSearchSinkSpec, (blankSink ∘ fun sink : SinkSpec =>
      { sink with openSearch := sink.openSearch.map (mergeOpenSearchSink fallback) }) =
        blankSink := by
    intro fallback
    funext sink
    simp only [Function.comp_apply, blankSink, Option.map_map]
    rfl
  unfold mergeDefinition
  cases defaults.kafka <;> cases defaults.sink.bind (·.openSearch) <;>
    simp only [blankDefinition, mergeKafka, mergeOpenSearch, Option.map_map, List.map_map, kafka,
      sinks]

/-- Nothing outside the slots changes. -/
theorem blank_mergeSpec (defaults : Option DataPrepperDefaultsSpec)
    (spec : DataPrepperPipelineSpec) : blank (mergeSpec defaults spec) = blank spec := by
  cases defaults with
  | none => rfl
  | some defaults =>
      unfold blank mergeSpec
      simp only [mergePipelines_eq_map, List.map_map]
      congr 1
      exact List.map_congr_left fun definition _ =>
        blankDefinition_mergeDefinition defaults definition

theorem present_mergeSpec (slot : Slot) (defaults : Option DataPrepperDefaultsSpec)
    (spec : DataPrepperPipelineSpec) :
    slot.Present (mergeSpec defaults spec) ↔ slot.Present spec := by
  cases defaults with
  | none => rfl
  | some defaults =>
      cases slot with
      | bootstrapServers pipeline | kafkaCredentials pipeline =>
          simp only [Slot.Present, kafkaAt_mergeSpec]
          cases defaults.kafka <;> simp
      | hosts pipeline sink | openSearchCredentials pipeline sink =>
          simp only [Slot.Present, openSearchAt_mergeSpec]
          cases defaults.sink.bind (·.openSearch) <;> simp
      | _ => rfl

theorem setting_of_absent {slot : Slot} {spec : DataPrepperPipelineSpec}
    (absent : ¬slot.Present spec) : slot.setting spec = none := by
  cases slot with
  | bootstrapServers pipeline | kafkaCredentials pipeline =>
      simp only [Slot.Present, Option.not_isSome_iff_eq_none] at absent
      simp only [Slot.setting, absent]
      rfl
  | hosts pipeline sink | openSearchCredentials pipeline sink =>
      simp only [Slot.Present, Option.not_isSome_iff_eq_none] at absent
      simp only [Slot.setting, absent]
      rfl
  | _ => exact absurd trivial absent

/-- A slot that is set is never changed. -/
theorem setting_mergeSpec_of_set {slot : Slot} {spec : DataPrepperPipelineSpec}
    {value : slot.Content} (set : slot.setting spec = some value)
    (defaults : Option DataPrepperDefaultsSpec) :
    slot.setting (mergeSpec defaults spec) = some value := by
  by_cases present : slot.Present spec
  · rw [setting_mergeSpec slot defaults spec present, set, Option.some_or]
  · rw [setting_of_absent present] at set
    cases set

/-- Merging the same defaults again adds nothing. -/
theorem mergeSpec_mergeSpec_self (defaults : Option DataPrepperDefaultsSpec)
    (spec : DataPrepperPipelineSpec) :
    mergeSpec defaults (mergeSpec defaults spec) = mergeSpec defaults spec := by
  apply spec_ext_of_slots (blank_mergeSpec _ _)
  intro slot
  by_cases present : slot.Present spec
  · rw [setting_mergeSpec slot defaults _ ((present_mergeSpec slot defaults spec).mpr present),
      setting_mergeSpec slot defaults spec present]
    cases slot.setting spec <;> simp
  · have absent : ¬slot.Present (mergeSpec defaults spec) :=
      fun there => present ((present_mergeSpec slot defaults spec).mp there)
    have absentAgain : ¬slot.Present (mergeSpec defaults (mergeSpec defaults spec)) :=
      fun there => absent ((present_mergeSpec slot defaults _).mp there)
    rw [setting_of_absent absent, setting_of_absent absentAgain]

/-- Merging is a left-biased fill: the rest of the spec stays, unset slots take the value of
the defaults, the same defaults add nothing more and others change no slot that is set. -/
theorem mergeSpec_fills (defaults : Option DataPrepperDefaultsSpec)
    (spec : DataPrepperPipelineSpec) :
    blank (mergeSpec defaults spec) = blank spec ∧
      (∀ slot : Slot, slot.Present spec →
        slot.setting (mergeSpec defaults spec) =
          (slot.setting spec).or (slot.fallback defaults)) ∧
      mergeSpec defaults (mergeSpec defaults spec) = mergeSpec defaults spec ∧
      ∀ other, blank (mergeSpec other (mergeSpec defaults spec)) = blank spec ∧
        ∀ (slot : Slot) value, slot.setting (mergeSpec defaults spec) = some value →
          slot.setting (mergeSpec other (mergeSpec defaults spec)) = some value := by
  refine ⟨blank_mergeSpec _ _, fun slot => setting_mergeSpec slot defaults spec,
    mergeSpec_mergeSpec_self _ _, fun other => ⟨?_, fun slot value set => ?_⟩⟩
  · rw [blank_mergeSpec, blank_mergeSpec]
  · exact setting_mergeSpec_of_set set other

end DataPrepperOperator.Defaults
