import Mathlib
import DataPrepperOperator.Discovery.Template
import DataPrepperOperator.Library.Trimming

/-!
# Which sources share a child pipeline

The name of a child pipeline forgets the case of letters, which separator stands
where, separators at the ends, and everything after its first 253 characters.  Two
sources get the same child exactly if they differ in nothing else.
-/

namespace DataPrepperOperator.Discovery

open DataPrepperOperator.Api

/-- Everything but ASCII letters and digits. -/
def isSeparator (character : Char) : Bool := !character.isAlphanum

/-- The same letter or digit up to case, or two separators. -/
def alike (first second : Char) : Bool :=
  first.toLower = second.toLower || isSeparator first && isSeparator second

/-- The texts agree as far as the limit, up to separators after the end of one. -/
def readsAlike : Nat → List Char → List Char → Bool
  | 0, _, _ => true
  | limit + 1, [], other => (other.take (limit + 1)).all isSeparator
  | limit + 1, text, [] => (text.take (limit + 1)).all isSeparator
  | limit + 1, first :: text, second :: other => alike first second && readsAlike limit text other

/-- Without separators in front; a text of separators only is called unnamed. -/
def spelled (text : List Char) : List Char :=
  if text.all isSeparator then "unnamed".toList else text.dropWhile isSeparator

/-- The texts cannot be told apart by an object name. -/
def Confusable (first second : String) : Prop :=
  readsAlike 253 (spelled first.toList) (spelled second.toList) = true

instance (first second : String) : Decidable (Confusable first second) :=
  inferInstanceAs (Decidable (_ = true))

theorem isUpper_iff {character : Char} :
    character.isUpper = true ↔ 'A' ≤ character ∧ character ≤ 'Z' := by
  simp [Char.isUpper, Char.le_def]

theorem isAlphanum_iff {character : Char} :
    character.isAlphanum = true ↔ character.isUpper = true ∨
      'a' ≤ character ∧ character ≤ 'z' ∨ '0' ≤ character ∧ character ≤ '9' := by
  simp [Char.isAlphanum, Char.isAlpha, Char.isLower, Char.isDigit, Char.le_def, or_assoc]

/-- Letters are lowered, digits kept, and separators unified. -/
theorem sanitizeChar_eq (character : Char) :
    sanitizeChar character = if isSeparator character then '-' else character.toLower := by
  unfold sanitizeChar isSeparator
  by_cases upper : character.isUpper = true
  · have range := isUpper_iff.mp upper
    have notKept : ¬('a' ≤ character ∧ character ≤ 'z' ∨ '0' ≤ character ∧ character ≤ '9' ∨
        character = '-') := by
      rintro (⟨low, _⟩ | ⟨_, high⟩ | rfl)
      · exact absurd (low.trans range.2) (by decide)
      · exact absurd (range.1.trans high) (by decide)
      · exact absurd range.1 (by decide)
    have kept : character.isAlphanum = true := isAlphanum_iff.mpr (.inl upper)
    simp [notKept, range, kept, Char.toLower_eq_of_isUpper upper]
  · have notRange : ¬('A' ≤ character ∧ character ≤ 'Z') := fun range =>
      upper (isUpper_iff.mpr range)
    rw [if_neg notRange, Char.toLower_eq_of_not_isUpper upper]
    by_cases dash : character = '-'
    · subst dash
      rfl
    · by_cases kept : character.isAlphanum = true
      · have inRange := (isAlphanum_iff.mp kept).resolve_left upper
        rw [if_pos (inRange.imp_right .inl), kept]
        rfl
      · have outside : ¬('a' ≤ character ∧ character ≤ 'z' ∨ '0' ≤ character ∧ character ≤ '9' ∨
            character = '-') := by
          rintro (lower | digit | isDash)
          · exact kept (isAlphanum_iff.mpr (.inr (.inl lower)))
          · exact kept (isAlphanum_iff.mpr (.inr (.inr digit)))
          · exact dash isDash
        rw [if_neg outside, Bool.eq_false_of_not_eq_true kept]
        rfl

theorem isSeparator_toLower (character : Char) :
    isSeparator character.toLower = isSeparator character := by
  unfold isSeparator
  by_cases upper : character.isUpper = true
  · simp [Char.isAlphanum, Char.isAlpha, upper]
  · rw [Char.toLower_eq_of_not_isUpper upper]

theorem sanitizeChar_eq_dash_iff (character : Char) :
    sanitizeChar character = '-' ↔ isSeparator character = true := by
  rw [sanitizeChar_eq]
  split
  · simpa
  · rename_i kept
    constructor
    · intro dash
      rw [← isSeparator_toLower, dash]
      rfl
    · exact fun separates => absurd separates kept

theorem sanitizeChar_eq_iff (first second : Char) :
    sanitizeChar first = sanitizeChar second ↔ alike first second = true := by
  have unlike : ∀ {first second : Char}, isSeparator first = true → ¬isSeparator second = true →
      first.toLower ≠ second.toLower := by
    intro first second separates kept same
    apply kept
    rw [← isSeparator_toLower, ← same, isSeparator_toLower, separates]
  unfold alike
  by_cases firstSeparates : isSeparator first = true
  · by_cases secondSeparates : isSeparator second = true
    · simp [sanitizeChar_eq, firstSeparates, secondSeparates]
    · have different : '-' ≠ second.toLower := by
        intro same
        have separates := isSeparator_toLower second
        rw [← same] at separates
        exact secondSeparates separates.symm
      simp [sanitizeChar_eq, firstSeparates, secondSeparates, different,
        unlike firstSeparates secondSeparates]
  · by_cases secondSeparates : isSeparator second = true
    · have different : first.toLower ≠ '-' := by
        intro same
        have separates := isSeparator_toLower first
        rw [same] at separates
        exact firstSeparates separates.symm
      simp [sanitizeChar_eq, firstSeparates, secondSeparates, different,
        (unlike secondSeparates firstSeparates).symm]
    · simp [sanitizeChar_eq, firstSeparates, secondSeparates]

/-- The dash of a name. -/
abbrev isDash (character : Char) : Bool := character = '-'

/-- Two texts read alike as far as the limit if their names agree so far. -/
theorem readsAlike_iff {limit : Nat} {text other : List Char} :
    readsAlike limit text other = true ↔
      ((text.map sanitizeChar).take limit).rdropWhile isDash =
        ((other.map sanitizeChar).take limit).rdropWhile isDash := by
  have blank : ∀ {rest : List Char} {limit : Nat},
      (rest.take limit).all isSeparator = true ↔
        ((rest.map sanitizeChar).take limit).rdropWhile isDash = [] := by
    intro rest limit
    rw [List.rdropWhile_eq_nil_iff, ← List.map_take, List.all_eq_true]
    simp only [List.forall_mem_map, decide_eq_true_iff, sanitizeChar_eq_dash_iff]
  fun_induction readsAlike limit text other with
  | case1 => simp
  | case2 limit other => rw [blank, List.map_nil, List.take_nil, List.rdropWhile_nil, eq_comm]
  | case3 limit text => rw [blank, List.map_nil, List.take_nil, List.rdropWhile_nil]
  | case4 limit first text second other ih =>
      rw [List.map_cons, List.map_cons, List.take_succ_cons, List.take_succ_cons,
        Trimming.rdropWhile_cons_eq_iff (by simp), Bool.and_eq_true, sanitizeChar_eq_iff]
      exact and_congr_right fun _ => ih

theorem dropWhile_sanitized (text : List Char) :
    (text.map sanitizeChar).dropWhile isDash = (text.dropWhile isSeparator).map sanitizeChar := by
  have dashes : isDash ∘ sanitizeChar = isSeparator := by
    funext character
    rw [Bool.eq_iff_iff, Function.comp_apply, decide_eq_true_iff, sanitizeChar_eq_dash_iff]
  rw [List.dropWhile_map, dashes]

/-- A name is its text without separators in front, cut and trimmed. -/
theorem sanitizeName_eq (name : String) :
    sanitizeName name = String.ofList
      ((((spelled name.toList).map sanitizeChar).take 253).rdropWhile isDash) := by
  unfold sanitizeName
  extract_lets mapped trimmed cut
  have cutEq : cut = (((name.toList.dropWhile isSeparator).map sanitizeChar).take 253).rdropWhile
      isDash := by
    have cutAnyway : cut = (trimmed.take 253).rdropWhile isDash := by
      unfold cut
      split
      · rfl
      · rename_i short
        rw [List.take_of_length_le (not_lt.mp short)]
        exact (List.rdropWhile_idempotent _ _).symm
    rw [cutAnyway, ← dropWhile_sanitized]
    exact Trimming.rdropWhile_take_rdropWhile 253 _
  rw [cutEq]
  unfold spelled
  by_cases unnamed : name.toList.all isSeparator = true
  · have nothing : name.toList.dropWhile isSeparator = [] :=
      List.dropWhile_eq_nil_iff.mpr (List.all_eq_true.mp unnamed)
    rw [if_pos unnamed, nothing]
    decide +kernel
  · rw [if_neg unnamed, if_neg]
    -- the first character that is left is no separator
    intro empty
    cases rest : name.toList.dropWhile isSeparator with
    | nil => exact unnamed (List.all_eq_true.mpr (List.dropWhile_eq_nil_iff.mp rest))
    | cons first others =>
        have kept := List.head_dropWhile_not isSeparator
          (show name.toList.dropWhile isSeparator ≠ [] by simp [rest])
        rw [rest, List.map_cons, List.take_succ_cons, List.rdropWhile_eq_nil_iff] at empty
        have dash := of_decide_eq_true (empty (sanitizeChar first) List.mem_cons_self)
        rw [sanitizeChar_eq_dash_iff] at dash
        simp [rest, dash] at kept

theorem sanitizeName_eq_iff (first second : String) :
    sanitizeName first = sanitizeName second ↔ Confusable first second := by
  rw [sanitizeName_eq, sanitizeName_eq, String.ofList_inj, ← readsAlike_iff]
  rfl

theorem sanitizeName_congr {first second : String}
    (same : first.toList.map sanitizeChar = second.toList.map sanitizeChar ∨
      first.toList.map sanitizeChar ++ ['-'] = second.toList.map sanitizeChar) :
    sanitizeName first = sanitizeName second := by
  have trimmed : ((first.toList.map sanitizeChar).dropWhile isDash).rdropWhile isDash =
      ((second.toList.map sanitizeChar).dropWhile isDash).rdropWhile isDash := by
    obtain same | extended := same
    · rw [same]
    · rw [← extended, List.dropWhile_append]
      split
      · rename_i empty
        rw [List.isEmpty_iff.mp empty]
        rfl
      · exact (Trimming.rdropWhile_append_of_all (by simp)).symm
  unfold sanitizeName
  simp only [trimmed]

/-- The slashes of a prefix are separators anyway. -/
theorem childName_prefixToName (discovery pathPrefix : String) :
    childName discovery (prefixToName pathPrefix) = childName discovery pathPrefix := by
  have slash : ∀ text : List Char,
      (text.map fun character => if character = '/' then '-' else character).map sanitizeChar =
        text.map sanitizeChar := by
    intro text
    rw [List.map_map]
    apply List.map_congr_left
    intro character _
    by_cases isSlash : character = '/'
    · subst isSlash
      rfl
    · simp [isSlash]
  apply sanitizeName_congr
  unfold prefixToName
  simp only [String.toList_append, String.toList_ofList, List.map_append, slash]
  by_cases ends : pathPrefix.toList.getLast? = some '/'
  · right
    obtain ⟨start, split⟩ := List.getLast?_eq_some_iff.mp ends
    rw [if_pos ends, split, List.dropLast_concat, List.map_append, List.append_assoc]
    rfl
  · left
    rw [if_neg ends]

/-- Kafka's rule for the names of topics. -/
def IsTopic (name : String) : Prop :=
  0 < name.toList.length ∧ name.toList.length ≤ 249 ∧
    (name.toList.all fun character =>
      character.isAlphanum || character = '.' || character = '_' || character = '-') = true

/-- The sources come from distinct topics or from distinct prefixes. -/
inductive DiscoveredFrom (origins : List String) (sources : List DiscoveredSource) : Prop where
  | topics : origins.Nodup → (∀ topic ∈ origins, IsTopic topic) →
      sources.map (·.name) = origins → DiscoveredFrom origins sources
  | prefixes : origins.Nodup → sources.map (·.name) = origins.map prefixToName →
      DiscoveredFrom origins sources

/-- No two sources share a child name, so that the desired children are as many as the
sources and each source has its own among them. -/
structure OwnPipelines (toolkit : Toolkit) (discovery : DataPrepperSourceDiscovery)
    (sources : List DiscoveredSource) : Prop where
  distinct : (sources.map fun source => childName discovery.name source.name).Nodup
  entries : ∀ desired, desiredPipelines toolkit discovery sources ∅ = .ok desired →
    desired.keys.card = sources.length ∧
      ∀ source ∈ sources, ∃ wanted,
        desired.lookup (childName discovery.name source.name) = some wanted ∧
        renderPipelineSpec toolkit discovery source = .ok wanted.spec

section Sources

variable {toolkit : Toolkit} {discovery : DataPrepperSourceDiscovery}
  {sources : List DiscoveredSource}

theorem ownPipelines_of_nodup
    (distinct : (sources.map fun source => childName discovery.name source.name).Nodup) :
    OwnPipelines toolkit discovery sources := by
  refine ⟨distinct, ?_⟩
  intro desired built
  have mem : ∀ name, name ∈ desired ↔
      ∃ source ∈ sources, name = childName discovery.name source.name := by
    intro name
    rw [mem_desiredPipelines built]
    simp [Finmap.notMem_empty]
  constructor
  · have keys : desired.keys =
        (sources.map fun source => childName discovery.name source.name).toFinset := by
      ext name
      rw [Finmap.mem_keys, mem, List.mem_toFinset, List.mem_map]
      simp [eq_comm]
    rw [keys, List.toFinset_card_of_nodup distinct, List.length_map]
  · intro source member
    obtain ⟨wanted, found⟩ := Finmap.mem_iff.mp ((mem _).mpr ⟨source, member, rfl⟩)
    obtain impossible | ⟨other, listed, sameName, rendered, _⟩ :=
      source_of_desiredPipelines built found
    · rw [Finmap.lookup_empty] at impossible
      cases impossible
    · rw [List.inj_on_of_nodup_map distinct member listed sameName]
      exact ⟨wanted, sameName ▸ found, rendered⟩

/-- Each source has its own pipeline exactly if no two of the topics or prefixes can be
confused behind the name of the discovery. -/
theorem sources_have_own_pipelines_iff {origins : List String}
    (discovered : DiscoveredFrom origins sources) :
    OwnPipelines toolkit discovery sources ↔
      origins.Pairwise fun first second =>
        ¬Confusable (discovery.name ++ "-" ++ first) (discovery.name ++ "-" ++ second) := by
  have names : (sources.map fun source => childName discovery.name source.name) =
      origins.map (childName discovery.name) := by
    cases discovered with
    | topics _ _ named => rw [← named, List.map_map, Function.comp_def]
    | prefixes _ named =>
        have mapped := congrArg (List.map (childName discovery.name)) named
        rw [List.map_map, List.map_map] at mapped
        rw [Function.comp_def] at mapped
        rw [mapped]
        apply List.map_congr_left
        intro pathPrefix _
        rw [Function.comp_apply, childName_prefixToName]
  have distinct : (origins.map (childName discovery.name)).Nodup ↔
      origins.Pairwise fun first second =>
        ¬Confusable (discovery.name ++ "-" ++ first) (discovery.name ++ "-" ++ second) := by
    rw [List.Nodup, List.pairwise_map]
    simp only [childName, ne_eq, sanitizeName_eq_iff]
  rw [← distinct, ← names]
  exact ⟨fun own => own.distinct, ownPipelines_of_nodup⟩

end Sources

/-- Two topics that differ in a separator end up in one pipeline. -/
theorem topics_share_pipeline :
    DiscoveredFrom ["logs.audit", "logs_audit"]
        [{ name := "logs.audit" }, { name := "logs_audit" }] ∧
      ¬OwnPipelines sampleToolkit (Object.named .sourceDiscovery "topics" "logs")
        [{ name := "logs.audit" }, { name := "logs_audit" }] := by
  constructor
  · exact .topics (by decide) (by simp only [IsTopic]; decide +kernel) rfl
  · intro own
    exact absurd own.distinct (by decide +kernel)

theorem sources_have_own_pipelines_of_two_prefixes :
    OwnPipelines sampleToolkit (Object.named .sourceDiscovery "buckets" "logs")
      [{ name := prefixToName "audit/eu/" }, { name := prefixToName "audit/us/" }] :=
  have discovered : DiscoveredFrom ["audit/eu/", "audit/us/"]
      [{ name := prefixToName "audit/eu/" }, { name := prefixToName "audit/us/" }] :=
    .prefixes (by decide) rfl
  (sources_have_own_pipelines_iff discovered).mpr (by decide +kernel)

end DataPrepperOperator.Discovery
