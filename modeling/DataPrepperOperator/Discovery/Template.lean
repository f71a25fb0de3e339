import Mathlib.Data.List.DropRight
import DataPrepperOperator.Discovery.Sources

/-!
# From a discovered source to a pipeline

The name and the spec of the child pipeline of a source: the template is rendered
as text, decoded, overridden by pattern, and filled up from the Kafka section of
the discovery.
-/

namespace DataPrepperOperator.Discovery

open DataPrepperOperator.Api

def sanitizeChar (character : Char) : Char :=
  if 'a' ≤ character ∧ character ≤ 'z' ∨ '0' ≤ character ∧ character ≤ '9' ∨
      character = '-' then
    character
  else if 'A' ≤ character ∧ character ≤ 'Z' then Char.ofNat (character.toNat + 32)
  else '-'

/-- Every character becomes a single byte, so that bytes can be counted as
characters. -/
def sanitizeName (name : String) : String :=
  let mapped := name.toList.map sanitizeChar
  let trimmed := (mapped.dropWhile (· = '-')).rdropWhile (· = '-')
  let cut := if 253 < trimmed.length then (trimmed.take 253).rdropWhile (· = '-') else trimmed
  if cut = [] then "unnamed" else String.ofList cut

/-- The name of the child pipeline for a source. -/
def childName (discovery source : String) : String :=
  sanitizeName (discovery ++ "-" ++ source)

def renderJSON (toolkit : Toolkit) (templateJSON : String) (context : TemplateContext) :
    Except String String := do
  let template ← (toolkit.parseTemplate templateJSON).mapError ("parsing template: " ++ ·)
  let rendered ← (template context).mapError ("executing template: " ++ ·)
  (toolkit.checkJSON rendered).mapError ("invalid JSON after render: " ++ ·)
  pure rendered

def applyOverride (base override : DataPrepperPipelineSpec) : DataPrepperPipelineSpec :=
  { base with
    image := if override.image = "" then base.image else override.image
    imagePullPolicy :=
      if override.imagePullPolicy = "" then base.imagePullPolicy else override.imagePullPolicy
    scaling := override.scaling.or base.scaling
    resources := override.resources.or base.resources
    dataPrepperConfig := override.dataPrepperConfig.or base.dataPrepperConfig
    serviceMonitor := override.serviceMonitor.or base.serviceMonitor
    pipelines := if override.pipelines = [] then base.pipelines else override.pipelines
    podAnnotations := GoMap.copy base.podAnnotations override.podAnnotations
    podLabels := GoMap.copy base.podLabels override.podLabels
    nodeSelector := GoMap.copy base.nodeSelector override.nodeSelector }

/-- The overrides whose pattern matches, in order; an invalid pattern is skipped. -/
def applyOverrides (toolkit : Toolkit) (source : String) (overrides : List DiscoveryOverrideSpec)
    (spec : DataPrepperPipelineSpec) : DataPrepperPipelineSpec :=
  overrides.foldl (fun spec override =>
    match toolkit.matchPattern override.pattern source with
    | .ok true => applyOverride spec override.spec
    | .ok false | .error _ => spec) spec

def inheritKafkaSource (discovery : KafkaDiscoverySpec) (source : KafkaSourceSpec) :
    KafkaSourceSpec :=
  { source with
    bootstrapServers :=
      if source.bootstrapServers = [] then discovery.bootstrapServers
      else source.bootstrapServers
    credentialsSecretRef := source.credentialsSecretRef.or discovery.credentialsSecretRef
    encryptionType :=
      if source.encryptionType = .unset then discovery.encryptionType
      else source.encryptionType }

def inheritKafkaDiscoveryConfig (discovery : KafkaDiscoverySpec)
    (spec : DataPrepperPipelineSpec) : DataPrepperPipelineSpec :=
  { spec with
    pipelines := spec.pipelines.map fun pipeline =>
      { pipeline with
        source := { pipeline.source with
          kafka := pipeline.source.kafka.map (inheritKafkaSource discovery) } } }

def templateContext (discovery : DataPrepperSourceDiscovery) (source : DiscoveredSource) :
    TemplateContext where
  discoveredName := source.name
  metadata := source.metadata
  nameSpace := discovery.metadata.nameSpace
  discoveryName := discovery.name

def renderPipelineSpec (toolkit : Toolkit) (discovery : DataPrepperSourceDiscovery)
    (source : DiscoveredSource) : Except String DataPrepperPipelineSpec := do
  let templateJSON ← (toolkit.marshalSpec discovery.spec.pipelineTemplate.spec).mapError
    ("marshal template: " ++ ·)
  let rendered ← (renderJSON toolkit templateJSON (templateContext discovery source)).mapError
    ("render template: " ++ ·)
  let decoded ← (toolkit.unmarshalSpec rendered).mapError ("unmarshal rendered spec: " ++ ·)
  let spec := applyOverrides toolkit source.name discovery.spec.overrides decoded
  pure (match discovery.spec.kafka with
    | none => spec
    | some kafka => inheritKafkaDiscoveryConfig kafka spec)

/-- A spec that cannot be encoded has the empty hash. -/
def computeSpecHash (toolkit : Toolkit) (spec : DataPrepperPipelineSpec) : String :=
  match toolkit.marshalSpec spec with
  | .error _ => ""
  | .ok text => toolkit.truncatedHash (utf8 text)

structure Desired where
  spec : DataPrepperPipelineSpec
  hash : String
  deriving DecidableEq

/-- Render every source; of two sources with the same child name the later wins. -/
def desiredPipelines (toolkit : Toolkit) (discovery : DataPrepperSourceDiscovery) :
    List DiscoveredSource → GoMap Desired → Except String (GoMap Desired)
  | [], desired => .ok desired
  | source :: rest, desired => do
      let spec ← (renderPipelineSpec toolkit discovery source).mapError
        ("render pipeline for " ++ GoText.quote source.name ++ ": " ++ ·)
      desiredPipelines toolkit discovery rest
        (desired.insert (childName discovery.name source.name)
          { spec := spec, hash := computeSpecHash toolkit spec })

/-- Every source has a spec. -/
def AllRender (toolkit : Toolkit) (discovery : DataPrepperSourceDiscovery)
    (sources : List DiscoveredSource) : Prop :=
  ∀ source ∈ sources, ∃ spec, renderPipelineSpec toolkit discovery source = .ok spec

section Desired

variable {toolkit : Toolkit} {discovery : DataPrepperSourceDiscovery}
  {sources : List DiscoveredSource} {initial desired : GoMap Desired}

theorem desiredPipelines_cons {source : DiscoveredSource}
    (built : desiredPipelines toolkit discovery (source :: sources) initial = .ok desired) :
    ∃ spec, renderPipelineSpec toolkit discovery source = .ok spec ∧
      desiredPipelines toolkit discovery sources
        (initial.insert (childName discovery.name source.name)
          { spec := spec, hash := computeSpecHash toolkit spec }) = .ok desired := by
  unfold desiredPipelines at built
  cases rendered : renderPipelineSpec toolkit discovery source with
  | error message => simp [rendered, Except.mapError, bind, Except.bind] at built
  | ok spec =>
      simp only [rendered, Except.mapError, bind, Except.bind] at built
      exact ⟨spec, rfl, built⟩

/-- All renders succeed before anything is desired. -/
theorem rendered_of_desiredPipelines
    (built : desiredPipelines toolkit discovery sources initial = .ok desired) :
    AllRender toolkit discovery sources := by
  induction sources generalizing initial with
  | nil => simp [AllRender]
  | cons source rest ih =>
      obtain ⟨spec, rendered, later⟩ := desiredPipelines_cons built
      intro other member
      obtain rfl | listed := List.mem_cons.mp member
      · exact ⟨spec, rendered⟩
      · exact ih later other listed

/-- Exactly the child names of the sources are desired. -/
theorem mem_desiredPipelines
    (built : desiredPipelines toolkit discovery sources initial = .ok desired) {name : String} :
    name ∈ desired ↔
      name ∈ initial ∨ ∃ source ∈ sources, name = childName discovery.name source.name := by
  induction sources generalizing initial with
  | nil =>
      cases built
      simp
  | cons source rest ih =>
      obtain ⟨spec, _, later⟩ := desiredPipelines_cons built
      rw [ih later, Finmap.mem_insert, List.exists_mem_cons_iff, or_assoc,
        or_left_comm]

theorem desiredPipelines_of_rendered (rendered : AllRender toolkit discovery sources)
    (initial : GoMap Desired) :
    ∃ desired, desiredPipelines toolkit discovery sources initial = .ok desired := by
  induction sources generalizing initial with
  | nil => exact ⟨initial, rfl⟩
  | cons source rest ih =>
      obtain ⟨spec, success⟩ := rendered source List.mem_cons_self
      unfold desiredPipelines
      simp only [success, Except.mapError, bind, Except.bind]
      exact ih
        (fun other member => rendered other (List.mem_cons_of_mem _ member)) _

/-- What is desired was rendered for one of the sources, and carries its own hash. -/
theorem source_of_desiredPipelines
    (built : desiredPipelines toolkit discovery sources initial = .ok desired) {name : String}
    {wanted : Desired} (found : desired.lookup name = some wanted) :
    initial.lookup name = some wanted ∨ ∃ source ∈ sources,
      name = childName discovery.name source.name ∧
      renderPipelineSpec toolkit discovery source = .ok wanted.spec ∧
      wanted.hash = computeSpecHash toolkit wanted.spec := by
  induction sources generalizing initial with
  | nil =>
      cases built
      exact .inl found
  | cons source rest ih =>
      obtain ⟨spec, rendered, later⟩ := desiredPipelines_cons built
      obtain inserted | ⟨other, member, facts⟩ := ih later
      · by_cases same : name = childName discovery.name source.name
        · subst same
          rw [Finmap.lookup_insert, Option.some.injEq] at inserted
          subst inserted
          exact .inr ⟨source, List.mem_cons_self, rfl, rendered, rfl⟩
        · rw [Finmap.lookup_insert_of_ne _ same] at inserted
          exact .inl inserted
      · exact .inr ⟨other, List.mem_cons_of_mem _ member, facts⟩

end Desired

end DataPrepperOperator.Discovery
