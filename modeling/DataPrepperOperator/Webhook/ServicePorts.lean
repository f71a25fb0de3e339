import DataPrepperOperator.Controller.Pipeline
import DataPrepperOperator.Webhook.Pipeline

/-!
# The ports of the Service

`SourcePorts` collects the ports of the sources without repetition and in order.
`GenerateService` puts them behind the metrics port, which the sources may ask for
as well.
-/

namespace DataPrepperOperator.Webhook

open DataPrepperOperator.Api DataPrepperOperator.Controller DataPrepperOperator.Generator

/-- An HTTP or OTel source asks for the port. -/
def DeclaresPort (source : SourceSpec) (port : Int) : Prop :=
  (∃ http, source.http = some http ∧ http.port = port) ∨
    ∃ otel, source.otel = some otel ∧ otel.port = port

def declaredPorts (source : SourceSpec) : List Int :=
  (source.http.map HTTPSourceSpec.port).toList ++ (source.otel.map OTelSourceSpec.port).toList

theorem declaresPort_iff {source : SourceSpec} {port : Int} :
    DeclaresPort source port ↔ port ∈ declaredPorts source := by
  simp [DeclaresPort, declaredPorts]

/-- What the CRD schema allows for ports. -/
def PortsInRange (pipelines : List PipelineDefinition) : Prop :=
  ∀ definition ∈ pipelines, ∀ port, DeclaresPort definition.source port → 1 ≤ port ∧ port ≤ 65535

/-- Where at most one kind of source is given, its port is the one that is collected. -/
theorem sourcePort_eq_iff {definition : PipelineDefinition} {port : Int}
    (single : sourceCount definition.source = 1)
    (inRange : ∀ port, DeclaresPort definition.source port → 1 ≤ port ∧ port ≤ 65535) :
    sourcePort definition.source = port ∧ port ≠ 0 ↔ DeclaresPort definition.source port := by
  unfold sourcePort DeclaresPort at *
  unfold sourceCount at single
  cases http : definition.source.http with
  | none =>
      cases otel : definition.source.otel with
      | none => simp [eq_comm]
      | some spec =>
          obtain ⟨lower, upper⟩ := inRange spec.port (.inr ⟨spec, otel, rfl⟩)
          have kept : Scaling.toInt32 spec.port = spec.port :=
            Scaling.toInt32_eq_self_iff.mpr ⟨by omega, by omega⟩
          simp only [kept]
          constructor
          · rintro ⟨rfl, _⟩
            exact .inr ⟨spec, rfl, rfl⟩
          · rintro (⟨_, absent, _⟩ | ⟨_, same, rfl⟩)
            · cases absent
            · cases same
              exact ⟨rfl, by omega⟩
  | some spec =>
      have alone : definition.source.otel = none := by
        cases otel : definition.source.otel with
        | none => rfl
        | some other => simp [http, otel, List.count_cons] at single; omega
      obtain ⟨lower, upper⟩ := inRange spec.port (.inl ⟨spec, http, rfl⟩)
      have kept : Scaling.toInt32 spec.port = spec.port :=
        Scaling.toInt32_eq_self_iff.mpr ⟨by omega, by omega⟩
      simp only [kept, alone]
      constructor
      · rintro ⟨rfl, _⟩
        exact .inl ⟨spec, rfl, rfl⟩
      · rintro (⟨_, same, rfl⟩ | ⟨_, absent, _⟩)
        · cases same
          exact ⟨rfl, by omega⟩
        · cases absent

theorem mem_collected {pipelines : List PipelineDefinition} {ports : List Int} {port : Int} :
    port ∈ pipelines.foldl (fun ports pipeline =>
        let port := sourcePort pipeline.source
        if port ≠ 0 ∧ port ∉ ports then ports ++ [port] else ports) ports ↔
      port ∈ ports ∨ ∃ definition ∈ pipelines, sourcePort definition.source = port ∧ port ≠ 0 := by
  induction pipelines generalizing ports with
  | nil => simp
  | cons definition rest ih =>
      rw [List.foldl_cons, ih]
      dsimp only
      split
      · simp only [List.mem_append, List.mem_singleton, List.exists_mem_cons_iff]
        grind
      · simp only [List.exists_mem_cons_iff]
        grind

theorem nodup_collected {pipelines : List PipelineDefinition} {ports : List Int}
    (nodup : ports.Nodup) :
    (pipelines.foldl (fun ports pipeline =>
        let port := sourcePort pipeline.source
        if port ≠ 0 ∧ port ∉ ports then ports ++ [port] else ports) ports).Nodup := by
  induction pipelines generalizing ports with
  | nil => exact nodup
  | cons definition rest ih =>
      rw [List.foldl_cons]
      apply ih
      dsimp only
      split
      · rename_i fresh
        exact nodup.append (List.nodup_singleton _) (List.disjoint_singleton.mpr fresh.2)
      · exact nodup

theorem mem_sourcePorts {pipelines : List PipelineDefinition} {port : Int} :
    port ∈ sourcePorts pipelines ↔
      ∃ definition ∈ pipelines, sourcePort definition.source = port ∧ port ≠ 0 := by
  unfold sourcePorts
  rw [List.mem_insertionSort, mem_collected]
  simp

/-- `SourcePorts` is strictly increasing, whatever the ports are. -/
theorem sourcePorts_increasing (pipelines : List PipelineDefinition) :
    (sourcePorts pipelines).Pairwise (· < ·) := by
  have sorted : (sourcePorts pipelines).Pairwise (· ≤ ·) := List.pairwise_insertionSort _ _
  have nodup : (sourcePorts pipelines).Nodup :=
    (List.perm_insertionSort _ _).nodup_iff.mpr (nodup_collected List.nodup_nil)
  exact (sorted.and nodup).imp fun both => lt_of_le_of_ne both.1 both.2

theorem nodup_sourcePorts (pipelines : List PipelineDefinition) : (sourcePorts pipelines).Nodup :=
  (sourcePorts_increasing pipelines).imp ne_of_lt

/-- The defaults leave the ports alone. -/
theorem sourcePorts_mergeSpec (defaults : Option DataPrepperDefaultsSpec)
    (spec : DataPrepperPipelineSpec) :
    sourcePorts (Defaults.mergeSpec defaults spec).pipelines = sourcePorts spec.pipelines := by
  cases defaults with
  | none => rfl
  | some defaults =>
      have samePort : ∀ definition,
          sourcePort (Defaults.mergeDefinition defaults definition).source =
            sourcePort definition.source := by
        intro definition
        unfold Defaults.mergeDefinition
        cases defaults.kafka <;> cases defaults.sink.bind (·.openSearch) <;> rfl
      have merged : (Defaults.mergeSpec (some defaults) spec).pipelines =
          spec.pipelines.map (Defaults.mergeDefinition defaults) :=
        Defaults.mergePipelines_eq_map defaults spec.pipelines
      unfold sourcePorts
      rw [merged, List.foldl_map]
      simp only [samePort]

/-- What the API server asks of the ports of a Service, and that they are the metrics port
and the declared ports in order. -/
structure ValidPorts (pipelines : List PipelineDefinition) (ports : List ServicePort) : Prop where
  names : (ports.map ServicePort.name).Nodup
  numbers : (ports.map ServicePort.port).Nodup
  content : ∃ sources, ports = servicePort "metrics" 4900 :: sources ∧
    (sources.map ServicePort.port).Pairwise (· < ·) ∧
    ∀ port, port ∈ sources.map ServicePort.port ↔
      ∃ definition ∈ pipelines, DeclaresPort definition.source port

/-- The names of the ports never clash. -/
theorem nodup_portNames (pipelines : List PipelineDefinition) :
    ("metrics" :: (sourcePorts pipelines).map fun port => "source-" ++ toString port).Nodup := by
  refine List.nodup_cons.mpr ⟨?_, ?_⟩
  · intro clash
    obtain ⟨port, _, same⟩ := List.mem_map.mp clash
    have letters := congrArg String.toList same
    simp [String.toList_append] at letters
  · have readBack : ∀ port ∈ sourcePorts pipelines, GoText.atoi (toString port) = port := by
      intro port member
      obtain ⟨definition, _, rfl, _⟩ := mem_sourcePorts.mp member
      have bounds : -2 ^ 31 ≤ sourcePort definition.source ∧
          sourcePort definition.source < 2 ^ 31 := by
        unfold sourcePort
        split <;> first | exact Scaling.toInt32_bounds _ | decide
      exact GoText.atoi_toString (by omega) (by omega)
    refine (nodup_sourcePorts pipelines).map_on ?_
    intro first firstMember second secondMember same
    have texts := ((GoText.append_eq_append_iff rfl).mp same).2
    rw [← readBack first firstMember, texts, readBack second secondMember]

/-- The Service of an accepted pipeline has valid ports exactly if no source asks for the
metrics port. -/
theorem service_ports_valid_iff {webhookReader : Reader} {pipeline : DataPrepperPipeline}
    (accepted : validatePipeline webhookReader pipeline = .ok ())
    (inRange : PortsInRange pipeline.spec.pipelines) (defaults : Option DataPrepperDefaultsSpec) :
    ValidPorts pipeline.spec.pipelines
        (generateService pipeline (Defaults.mergeSpec defaults pipeline.spec)).spec.ports ↔
      ∀ definition ∈ pipeline.spec.pipelines, ¬DeclaresPort definition.source 4900 := by
  have declared : ∀ port, port ∈ sourcePorts pipeline.spec.pipelines ↔
      ∃ definition ∈ pipeline.spec.pipelines, DeclaresPort definition.source port := by
    intro port
    rw [mem_sourcePorts]
    refine exists_congr fun definition => and_congr_right fun member => ?_
    exact sourcePort_eq_iff ((validatePipeline_ok_iff.mp accepted).formed definition member).source
      (inRange definition member)
  have increasing := sourcePorts_increasing pipeline.spec.pipelines
  have nodup := nodup_sourcePorts pipeline.spec.pipelines
  have ports : (generateService pipeline (Defaults.mergeSpec defaults pipeline.spec)).spec.ports =
      servicePort "metrics" 4900 :: (sourcePorts pipeline.spec.pipelines).map fun port =>
        servicePort ("source-" ++ toString port) port := by
    rw [← sourcePorts_mergeSpec defaults pipeline.spec]
    rfl
  have numbers : ((sourcePorts pipeline.spec.pipelines).map fun port =>
      servicePort ("source-" ++ toString port) port).map ServicePort.port =
        sourcePorts pipeline.spec.pipelines := by
    rw [List.map_map]
    exact List.map_id _
  rw [ports]
  constructor
  · intro valid definition member clash
    have distinct := valid.numbers
    rw [List.map_cons, numbers, List.nodup_cons] at distinct
    exact distinct.1 ((declared 4900).mpr ⟨definition, member, clash⟩)
  · intro free
    refine ⟨?_, ?_, _, rfl, ?_, ?_⟩
    · rw [List.map_cons, List.map_map]
      exact nodup_portNames _
    · rw [List.map_cons, numbers, List.nodup_cons]
      refine ⟨fun clash => ?_, nodup⟩
      obtain ⟨definition, member, asks⟩ := (declared 4900).mp clash
      exact free definition member asks
    · rwa [numbers]
    · rwa [numbers]

/-- Sources of both protocols, two of them on one port. -/
def mixedSources : DataPrepperPipeline where
  metadata := (httpPipeline "ingest").metadata
  spec :=
    { image := "data-prepper"
      pipelines :=
        [{ name := "traces", source := { otel := some { port := 21890 } }
           sink := [{ stdout := some {} }] },
         { name := "ingest", source := { http := some { port := 2021 } }
           sink := [{ stdout := some {} }] },
         { name := "audit", source := { otel := some { port := 2021 } }
           sink := [{ stdout := some {} }] }] }
  status := {}

theorem service_ports_valid_for_mixed_sources :
    (generateService mixedSources mixedSources.spec).spec.ports.map ServicePort.port =
        [4900, 2021, 21890] ∧
      ValidPorts mixedSources.spec.pipelines
        (generateService mixedSources mixedSources.spec).spec.ports := by
  have declared : ∀ definition ∈ mixedSources.spec.pipelines,
      ∀ port ∈ declaredPorts definition.source, (1 ≤ port ∧ port ≤ 65535) ∧ port ≠ 4900 := by
    decide
  have accepted : validatePipeline none mixedSources = .ok () := by decide +kernel
  refine ⟨by decide +kernel, (service_ports_valid_iff accepted ?_ none).mpr ?_⟩
  · exact fun definition member port asks =>
      (declared definition member port (declaresPort_iff.mp asks)).1
  · exact fun definition member asks =>
      (declared definition member 4900 (declaresPort_iff.mp asks)).2 rfl

/-- An HTTP source on the metrics port. -/
def metricsClash : DataPrepperPipeline where
  metadata := (httpPipeline "ingest").metadata
  spec :=
    { image := "data-prepper"
      pipelines :=
        [{ name := "ingest"
           source := { http := some { port := 4900 } }
           sink := [{ stdout := some {} }] }] }
  status := {}

/-- The webhook accepts a source on the metrics port, and the Service gets that port twice. -/
theorem service_port_repeated :
    validatePipeline none metricsClash = .ok () ∧ PortsInRange metricsClash.spec.pipelines ∧
      ¬((generateService metricsClash metricsClash.spec).spec.ports.map
        ServicePort.port).Nodup := by
  refine ⟨by decide +kernel, ?_, by decide +kernel⟩
  have declared : ∀ definition ∈ metricsClash.spec.pipelines,
      ∀ port ∈ declaredPorts definition.source, 1 ≤ port ∧ port ≤ 65535 := by
    decide
  exact fun definition member port asks =>
    declared definition member port (declaresPort_iff.mp asks)

end DataPrepperOperator.Webhook
