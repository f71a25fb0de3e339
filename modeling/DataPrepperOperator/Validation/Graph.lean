import DataPrepperOperator.Library.DepthFirst
import DataPrepperOperator.Library.GoText

/-!
# Pipeline graph validation

`validateGraph` checks a list of pipeline definitions in three passes: unique
names, resolved references, and a three-colour depth-first search over the sink
references.  The search recurses through closures in the source, so the model
carries fuel and `validateGraph_terminates` discharges it.
-/

namespace DataPrepperOperator.Validation

open Relation

/-- A pipeline as the validator sees it; an empty source means no connector. -/
structure PipelineDef where
  name : String
  sourcePipeline : String := ""
  sinkPipelines : List String := []
  deriving DecidableEq, Repr

inductive GraphError where
  | duplicatePipeline (name : String)
  | unknownSource (pipeline source : String)
  | unknownSink (pipeline sink : String)
  | cycle (pipeline next : String)
  deriving DecidableEq, Repr

def GraphError.message : GraphError → String
  | .duplicatePipeline name => "duplicate pipeline: " ++ name
  | .unknownSource pipeline source =>
      GoText.quote pipeline ++ ": unknown source " ++ GoText.quote source
  | .unknownSink pipeline sink =>
      GoText.quote pipeline ++ ": unknown sink " ++ GoText.quote sink
  | .cycle pipeline next => "cycle: " ++ pipeline ++ " -> " ++ next

/-- First pass: collect the names, refusing a repeated one. -/
def collectNames : List PipelineDef → List String → Except GraphError (List String)
  | [], names => .ok names
  | pipeline :: rest, names =>
      if pipeline.name ∈ names then
        .error (.duplicatePipeline pipeline.name)
      else
        collectNames rest (names ++ [pipeline.name])

def resolveSinks (names : List String) (pipeline : String) :
    List String → Except GraphError Unit
  | [] => .ok ()
  | sink :: rest =>
      if sink ∉ names then
        .error (.unknownSink pipeline sink)
      else
        resolveSinks names pipeline rest

/-- Second pass: every reference names a known pipeline. -/
def resolveReferences (names : List String) : List PipelineDef → Except GraphError Unit
  | [] => .ok ()
  | pipeline :: rest =>
      if pipeline.sourcePipeline ≠ "" ∧ pipeline.sourcePipeline ∉ names then
        .error (.unknownSource pipeline.name pipeline.sourcePipeline)
      else
        match resolveSinks names pipeline.name pipeline.sinkPipelines with
        | .error unknown => .error unknown
        | .ok () => resolveReferences names rest

/-- The adjacency map; definitions with one name share an entry. -/
def adjacency (pipelines : List PipelineDef) : String → List String :=
  pipelines.foldl
    (fun adj pipeline =>
      Function.update adj pipeline.name (adj pipeline.name ++ pipeline.sinkPipelines))
    (fun _ => [])

/-- The validator with a bound on nested search calls; `none` means that the
bound was too small. -/
def validateGraphWithin (fuel : Nat) (pipelines : List PipelineDef) :
    Option (Except GraphError Unit) :=
  match collectNames pipelines [] with
  | .error duplicate => some (.error duplicate)
  | .ok names =>
      match resolveReferences names pipelines with
      | .error unknown => some (.error unknown)
      | .ok () =>
          match DepthFirst.search (adjacency pipelines) fuel
              (pipelines.map PipelineDef.name) DepthFirst.unvisited with
          | none => none
          | some (.error (pipeline, next)) => some (.error (.cycle pipeline next))
          | some (.ok _) => some (.ok ())

/-- The data-flow edges declared by sinks. -/
def SinkEdge (pipelines : List PipelineDef) (source target : String) : Prop :=
  ∃ pipeline ∈ pipelines, pipeline.name = source ∧ target ∈ pipeline.sinkPipelines

/-- Every non-empty reference is the name of a listed pipeline. -/
def ReferencesResolve (pipelines : List PipelineDef) : Prop :=
  ∀ pipeline ∈ pipelines,
    (pipeline.sourcePipeline ≠ "" →
      ∃ other ∈ pipelines, other.name = pipeline.sourcePipeline) ∧
    ∀ sink ∈ pipeline.sinkPipelines, ∃ other ∈ pipelines, other.name = sink

/-- No pipeline reaches itself through one or more sinks. -/
def SinksAcyclic (pipelines : List PipelineDef) : Prop :=
  ∀ name, ¬ TransGen (SinkEdge pipelines) name name

theorem collectNames_ok_iff (pipelines : List PipelineDef) (seen names : List String) :
    collectNames pipelines seen = .ok names ↔
      names = seen ++ pipelines.map PipelineDef.name ∧
        (pipelines.map PipelineDef.name).Nodup ∧
        ∀ pipeline ∈ pipelines, pipeline.name ∉ seen := by
  induction pipelines generalizing seen with
  | nil => simp [collectNames, eq_comm]
  | cons pipeline rest ih =>
      rw [collectNames]
      by_cases duplicate : pipeline.name ∈ seen
      · simp [duplicate]
      · simp only [duplicate, if_false, ih, List.map_cons, List.nodup_cons,
          List.mem_cons, List.append_assoc, List.singleton_append, List.mem_append,
          List.mem_map, forall_eq_or_imp, not_false_eq_true, true_and]
        constructor
        · rintro ⟨listed, distinct, fresh⟩
          refine ⟨listed, ⟨?_, distinct⟩, fun other membership inSeen =>
            fresh other membership (.inl inSeen)⟩
          rintro ⟨other, membership, equality⟩
          exact fresh other membership (.inr (.inl equality))
        · rintro ⟨listed, ⟨absent, distinct⟩, fresh⟩
          refine ⟨listed, distinct, ?_⟩
          rintro other membership (inSeen | equality | impossible)
          · exact fresh other membership inSeen
          · exact absent ⟨other, membership, equality⟩
          · simp at impossible

theorem resolveSinks_ok_iff (names : List String) (pipeline : String) (sinks : List String) :
    resolveSinks names pipeline sinks = .ok () ↔ ∀ sink ∈ sinks, sink ∈ names := by
  induction sinks with
  | nil => simp [resolveSinks]
  | cons sink rest ih =>
      by_cases known : sink ∈ names <;> simp [resolveSinks, known, ih]

theorem resolveReferences_ok_iff (names : List String) (pipelines : List PipelineDef) :
    resolveReferences names pipelines = .ok () ↔
      ∀ pipeline ∈ pipelines,
        (pipeline.sourcePipeline ≠ "" → pipeline.sourcePipeline ∈ names) ∧
        ∀ sink ∈ pipeline.sinkPipelines, sink ∈ names := by
  induction pipelines with
  | nil => simp [resolveReferences]
  | cons pipeline rest ih =>
      rw [resolveReferences]
      by_cases unknown : pipeline.sourcePipeline ≠ "" ∧ pipeline.sourcePipeline ∉ names
      · rw [if_pos unknown]
        simp only [reduceCtorEq, List.mem_cons, forall_eq_or_imp, false_iff]
        rintro ⟨⟨resolved, _⟩, _⟩
        exact unknown.2 (resolved unknown.1)
      · simp only [unknown, if_false, List.mem_cons, forall_eq_or_imp]
        have resolved : pipeline.sourcePipeline ≠ "" → pipeline.sourcePipeline ∈ names := by
          intro nonempty
          by_contra missing
          exact unknown ⟨nonempty, missing⟩
        cases sinks : resolveSinks names pipeline.name pipeline.sinkPipelines with
        | error problem =>
            have unresolved : ¬ ∀ sink ∈ pipeline.sinkPipelines, sink ∈ names := by
              rw [← resolveSinks_ok_iff names pipeline.name, sinks]
              simp
            simp [unresolved]
        | ok _ =>
            have known := (resolveSinks_ok_iff names pipeline.name _).mp sinks
            exact ih.trans
              ⟨fun others => ⟨⟨resolved, known⟩, others⟩, fun both => both.2⟩

theorem mem_foldl_adjacency (pipelines : List PipelineDef) (adj : String → List String)
    (source target : String) :
    target ∈ pipelines.foldl
        (fun adj pipeline =>
          Function.update adj pipeline.name (adj pipeline.name ++ pipeline.sinkPipelines))
        adj source ↔
      target ∈ adj source ∨ SinkEdge pipelines source target := by
  induction pipelines generalizing adj with
  | nil => simp [SinkEdge]
  | cons pipeline rest ih =>
      rw [List.foldl_cons, ih]
      by_cases same : source = pipeline.name
      · subst source
        simp [SinkEdge, or_assoc]
      · simp [SinkEdge, Function.update_of_ne same, Ne.symm same]

theorem edge_adjacency_iff (pipelines : List PipelineDef) (source target : String) :
    DepthFirst.Edge (adjacency pipelines) source target ↔
      SinkEdge pipelines source target := by
  simp [DepthFirst.Edge, adjacency, mem_foldl_adjacency]

theorem acyclic_adjacency_iff (pipelines : List PipelineDef) :
    DepthFirst.Acyclic (adjacency pipelines) ↔ SinksAcyclic pipelines := by
  have sameEdges : DepthFirst.Edge (adjacency pipelines) = SinkEdge pipelines := by
    funext source target
    exact propext (edge_adjacency_iff pipelines source target)
  simp only [DepthFirst.Acyclic, SinksAcyclic, sameEdges]

/-- Only listed pipelines have successors. -/
theorem adjacency_covered (pipelines : List PipelineDef) (name : String)
    (nonempty : adjacency pipelines name ≠ []) : name ∈ pipelines.map PipelineDef.name := by
  rcases List.exists_mem_of_ne_nil _ nonempty with ⟨target, membership⟩
  rcases (edge_adjacency_iff pipelines name target).mp membership with
    ⟨pipeline, listed, named, _⟩
  exact List.mem_map.mpr ⟨pipeline, listed, named⟩

/-- Resolved sinks keep the search inside the listed names. -/
theorem adjacency_closed {pipelines : List PipelineDef}
    (resolved : resolveReferences (pipelines.map PipelineDef.name) pipelines = .ok ()) :
    ∀ name ∈ pipelines.map PipelineDef.name, ∀ next ∈ adjacency pipelines name,
      next ∈ pipelines.map PipelineDef.name := by
  intro name _ next membership
  rcases (edge_adjacency_iff pipelines name next).mp membership with
    ⟨pipeline, listed, _, isSink⟩
  exact ((resolveReferences_ok_iff _ _).mp resolved pipeline listed).2 next isSink

theorem referencesResolve_iff (pipelines : List PipelineDef) :
    resolveReferences (pipelines.map PipelineDef.name) pipelines = .ok () ↔
      ReferencesResolve pipelines := by
  rw [resolveReferences_ok_iff]
  simp [ReferencesResolve, List.mem_map]

/-- As many nested calls as there are pipelines suffice, and more change
nothing. -/
theorem validateGraph_terminates (pipelines : List PipelineDef) :
    ∃ verdict, ∀ fuel, pipelines.length ≤ fuel →
      validateGraphWithin fuel pipelines = some verdict := by
  cases collected : collectNames pipelines [] with
  | error duplicate =>
      exact ⟨.error duplicate, fun fuel _ => by simp [validateGraphWithin, collected]⟩
  | ok names =>
      have listed : names = pipelines.map PipelineDef.name := by
        simpa using ((collectNames_ok_iff pipelines [] names).mp collected).1
      subst names
      cases resolved : resolveReferences (pipelines.map PipelineDef.name) pipelines with
      | error unknown =>
          exact ⟨.error unknown, fun fuel _ => by
            simp [validateGraphWithin, collected, resolved]⟩
      | ok _ =>
          rcases DepthFirst.search_terminates (adjacency_closed resolved)
            (Nat.le_of_eq (by simp) : _ ≤ pipelines.length) with ⟨outcome, searched⟩
          have searchedMore : ∀ fuel, pipelines.length ≤ fuel →
              DepthFirst.search (adjacency pipelines) fuel
                (pipelines.map PipelineDef.name) DepthFirst.unvisited = some outcome :=
            fun fuel enough => DepthFirst.search_mono _ enough _ searched
          cases outcome with
          | error edge =>
              exact ⟨.error (.cycle edge.1 edge.2), fun fuel enough => by
                simp [validateGraphWithin, collected, resolved, searchedMore fuel enough]⟩
          | ok colouring =>
              exact ⟨.ok (), fun fuel enough => by
                simp [validateGraphWithin, collected, resolved, searchedMore fuel enough]⟩

theorem validateGraphWithin_isSome (pipelines : List PipelineDef) :
    (validateGraphWithin pipelines.length pipelines).isSome = true := by
  rcases validateGraph_terminates pipelines with ⟨verdict, stable⟩
  simp [stable pipelines.length (Nat.le_refl _)]

/-- `ValidateGraph`, with the fuel it needs. -/
def validateGraph (pipelines : List PipelineDef) : Except GraphError Unit :=
  (validateGraphWithin pipelines.length pipelines).get (validateGraphWithin_isSome pipelines)

theorem validateGraphWithin_eq (pipelines : List PipelineDef) {fuel : Nat}
    (enough : pipelines.length ≤ fuel) :
    validateGraphWithin fuel pipelines = some (validateGraph pipelines) := by
  rcases validateGraph_terminates pipelines with ⟨verdict, stable⟩
  have chosen : validateGraph pipelines = verdict := by
    simp [validateGraph, stable pipelines.length (Nat.le_refl _)]
  rw [stable fuel enough, chosen]

theorem validateGraphWithin_ok_iff (pipelines : List PipelineDef) {fuel : Nat}
    (enough : pipelines.length ≤ fuel) :
    validateGraphWithin fuel pipelines = some (.ok ()) ↔
      (pipelines.map PipelineDef.name).Nodup ∧ ReferencesResolve pipelines ∧
        SinksAcyclic pipelines := by
  cases collected : collectNames pipelines [] with
  | error duplicate =>
      have repeated : ¬ (pipelines.map PipelineDef.name).Nodup := by
        intro distinct
        have success := (collectNames_ok_iff pipelines [] _).mpr ⟨rfl, distinct, by simp⟩
        simp [collected] at success
      simp [validateGraphWithin, collected, repeated]
  | ok names =>
      rcases (collectNames_ok_iff pipelines [] names).mp collected with
        ⟨listed, distinct, _⟩
      simp only [List.nil_append] at listed
      subst names
      cases resolved : resolveReferences (pipelines.map PipelineDef.name) pipelines with
      | error unknown =>
          have unresolved : ¬ ReferencesResolve pipelines := by
            rw [← referencesResolve_iff, resolved]
            simp
          simp [validateGraphWithin, collected, resolved, unresolved]
      | ok _ =>
          have references := (referencesResolve_iff pipelines).mp resolved
          rcases DepthFirst.search_terminates (adjacency_closed resolved)
            (by simpa using enough) with ⟨outcome, searched⟩
          have verdict := DepthFirst.search_ok_iff_acyclic (adjacency_covered pipelines) searched
          rw [acyclic_adjacency_iff] at verdict
          simp only [distinct, references, true_and, ← verdict]
          cases outcome with
          | error | ok => simp [validateGraphWithin, collected, resolved, searched]

theorem validateGraph_ok_iff (pipelines : List PipelineDef) :
    validateGraph pipelines = .ok () ↔
      (pipelines.map PipelineDef.name).Nodup ∧ ReferencesResolve pipelines ∧
        SinksAcyclic pipelines := by
  rw [← validateGraphWithin_ok_iff pipelines (Nat.le_refl _),
    validateGraphWithin_eq pipelines (Nat.le_refl _), Option.some.injEq]

/-- `ValidateGraph` always returns, and it accepts exactly the lists with
distinct names, resolved references and no cycle of sinks. -/
theorem validateGraph_correct (pipelines : List PipelineDef) :
    (∀ fuel, pipelines.length ≤ fuel →
      validateGraphWithin fuel pipelines = some (validateGraph pipelines)) ∧
    (validateGraph pipelines = .ok () ↔
      (pipelines.map PipelineDef.name).Nodup ∧ ReferencesResolve pipelines ∧
        SinksAcyclic pipelines) :=
  ⟨fun _ enough => validateGraphWithin_eq pipelines enough, validateGraph_ok_iff pipelines⟩

/-- The diamond of the unit tests is accepted. -/
example : validateGraph
    [{ name := "a", sinkPipelines := ["b", "c"] },
      { name := "b", sourcePipeline := "a", sinkPipelines := ["d"] },
      { name := "c", sourcePipeline := "a", sinkPipelines := ["d"] },
      { name := "d", sourcePipeline := "b" }] = .ok () := by
  decide

end DataPrepperOperator.Validation
