import DataPrepperOperator.Discovery.Names
import DataPrepperOperator.Webhook.Pipeline

/-!
# The names of discovered children

`sanitizeName` makes an object name out of any text, and leaves object names alone.
It cuts at 253 characters, where the webhook of pipelines admits only 244.
-/

namespace DataPrepperOperator.Discovery

/-- A lower-case letter or a digit. -/
def isNameChar (character : Char) : Bool := character.isLower || character.isDigit

/-- A label of at most 253 characters. -/
structure WellShaped (name : String) : Prop where
  nonempty : name ≠ ""
  short : name.length ≤ 253
  characters : ∀ character ∈ name.toList, isNameChar character = true ∨ character = '-'
  first : ∀ character ∈ name.toList.head?, isNameChar character = true
  last : ∀ character ∈ name.toList.getLast?, isNameChar character = true

theorem isNameChar_iff {character : Char} :
    isNameChar character = true ↔
      'a' ≤ character ∧ character ≤ 'z' ∨ '0' ≤ character ∧ character ≤ '9' := by
  simp [isNameChar, Char.isLower, Char.isDigit, Char.le_def]

theorem not_isSeparator_of_isNameChar {character : Char} (named : isNameChar character = true) :
    isSeparator character = false := by
  rw [isSeparator, isAlphanum_iff.mpr (.inr (isNameChar_iff.mp named))]
  rfl

theorem sanitizeChar_of_isNameChar {character : Char}
    (named : isNameChar character = true ∨ character = '-') :
    sanitizeChar character = character := by
  rw [isNameChar_iff, or_assoc] at named
  exact if_pos named

/-- A letter or a digit stays one. -/
theorem isNameChar_sanitizeChar {character : Char} (kept : isSeparator character = false) :
    isNameChar (sanitizeChar character) = true := by
  have lowered : isSeparator character.toLower = false := by rw [isSeparator_toLower, kept]
  rw [sanitizeChar_eq, kept, if_neg Bool.false_ne_true]
  rw [isSeparator, Bool.not_eq_false', isAlphanum_iff] at lowered
  apply isNameChar_iff.mpr
  apply lowered.resolve_left
  simp

theorem sanitizeChar_cases (character : Char) :
    isNameChar (sanitizeChar character) = true ∨ sanitizeChar character = '-' := by
  cases kept : isSeparator character with
  | false => exact .inl (isNameChar_sanitizeChar kept)
  | true => exact .inr ((sanitizeChar_eq_dash_iff character).mpr kept)

theorem exists_first_spelled (text : List Char) :
    ∃ first rest, spelled text = first :: rest ∧ isSeparator first = false := by
  unfold spelled
  split
  · exact ⟨'u', "nnamed".toList, by decide, by decide⟩
  · rename_i named
    have nonempty : text.dropWhile isSeparator ≠ [] := by
      intro nothing
      exact named (List.all_eq_true.mpr (List.dropWhile_eq_nil_iff.mp nothing))
    obtain ⟨first, rest, split⟩ := List.exists_cons_of_ne_nil nonempty
    have kept := List.head_dropWhile_not isSeparator nonempty
    simp only [split, List.head_cons] at kept
    exact ⟨first, rest, split, by simpa using kept⟩

/-- The letters of a name, with the first of them. -/
theorem exists_toList_sanitizeName (name : String) :
    ∃ first rest, isNameChar first = true ∧
      (sanitizeName name).toList = (first :: rest).rdropWhile isDash ∧ rest.length ≤ 252 ∧
      ∀ character ∈ first :: rest, isNameChar character = true ∨ character = '-' := by
  obtain ⟨first, rest, split, kept⟩ := exists_first_spelled name.toList
  refine ⟨sanitizeChar first, (rest.map sanitizeChar).take 252, isNameChar_sanitizeChar kept, ?_,
    List.length_take_le _ _, ?_⟩
  · rw [sanitizeName_eq, String.toList_ofList, split, List.map_cons, List.take_succ_cons]
  · intro character member
    obtain rfl | later := List.mem_cons.mp member
    · exact sanitizeChar_cases first
    · obtain ⟨origin, -, rfl⟩ := List.mem_map.mp (List.mem_of_mem_take later)
      exact sanitizeChar_cases origin

theorem wellShaped_sanitizeName (name : String) : WellShaped (sanitizeName name) := by
  obtain ⟨first, rest, named, letters, short, characters⟩ := exists_toList_sanitizeName name
  have noDash : isDash first = false := by
    apply decide_eq_false
    rintro rfl
    exact absurd named (by decide)
  -- the first letter is no dash, so that trimming stops there at the latest
  obtain ⟨others, split, initial⟩ : ∃ others, (first :: rest).rdropWhile isDash = first :: others ∧
      others <+: rest := by
    have kept : (first :: rest).rdropWhile isDash = _ := Trimming.rdropWhile_cons first rest
    rw [List.rdropWhile_singleton, noDash] at kept
    split at kept
    · exact ⟨[], kept, List.nil_prefix⟩
    · exact ⟨_, kept, List.rdropWhile_prefix _ _⟩
  rw [split] at letters
  refine ⟨?_, ?_, ?_, ?_, ?_⟩
  · intro empty
    rw [empty] at letters
    cases letters
  · rw [← String.length_toList, letters, List.length_cons]
    have shorter := initial.length_le
    omega
  · intro character member
    rw [letters] at member
    apply characters
    exact (List.cons_prefix_cons.mpr ⟨rfl, initial⟩).subset member
  · intro character found
    rw [letters, List.head?_cons] at found
    cases found
    exact named
  · intro character found
    have nonempty : (first :: rest).rdropWhile isDash ≠ [] := by
      rw [split]
      exact List.cons_ne_nil _ _
    have stays := List.rdropWhile_last_not isDash _ nonempty
    rw [letters, ← split, List.getLast?_eq_some_getLast nonempty] at found
    cases found
    refine (characters _ ?_).resolve_right ?_
    · exact (List.rdropWhile_prefix _ _).subset (List.getLast_mem nonempty)
    · simpa using stays

/-- Nothing is changed in a name of this shape. -/
theorem sanitizeName_of_wellShaped {name : String} (shaped : WellShaped name) :
    sanitizeName name = name := by
  have nonempty : name.toList ≠ [] := by
    intro empty
    exact shaped.nonempty (String.toList_eq_nil_iff.mp empty)
  obtain ⟨first, rest, split⟩ := List.exists_cons_of_ne_nil nonempty
  have kept : isSeparator first = false :=
    not_isSeparator_of_isNameChar (shaped.first first (by rw [split]; rfl))
  have untouched : spelled name.toList = name.toList := by
    rw [split]
    simp [spelled, kept]
  have same : name.toList.map sanitizeChar = name.toList := by
    conv => rhs; rw [← List.map_id name.toList]
    apply List.map_congr_left
    intro character member
    exact sanitizeChar_of_isNameChar (shaped.characters character member)
  have whole : name.toList.take 253 = name.toList :=
    List.take_of_length_le (by rw [String.length_toList]; exact shaped.short)
  have trimmed : name.toList.rdropWhile isDash = name.toList := by
    apply List.rdropWhile_eq_self_iff.mpr
    intro _ dash
    have named := shaped.last _ (List.getLast?_eq_some_getLast nonempty)
    rw [of_decide_eq_true dash] at named
    exact absurd named (by decide)
  rw [sanitizeName_eq, untouched, same, whole, trimmed, String.ofList_toList]

/-- Every text becomes an object name, and object names stay as they are. -/
theorem sanitizeName_shape (name : String) :
    WellShaped (sanitizeName name) ∧ sanitizeName (sanitizeName name) = sanitizeName name :=
  ⟨wellShaped_sanitizeName name, sanitizeName_of_wellShaped (wellShaped_sanitizeName name)⟩

end DataPrepperOperator.Discovery

namespace DataPrepperOperator.Webhook

open DataPrepperOperator.Api DataPrepperOperator.Discovery

/-- The message about a name that is too long. -/
def nameMessage (name : String) : String :=
  "metadata.name must be at most 244 characters (current: " ++ toString name.utf8ByteSize ++
    ") to allow headless service suffix"

/-- A check that fails in no such way. -/
def Never (refusal : String → Prop) (check : Except String Unit) : Prop :=
  ∀ message, check = .error message → ¬refusal message

section Never

variable {refusal : String → Prop}

theorem Never.ok : Never refusal (.ok ()) := by
  intro message failed
  cases failed

theorem Never.require {condition : Prop} [Decidable condition] {message : String}
    (other : ¬refusal message) : Never refusal (require condition message) := by
  unfold Webhook.require
  split
  · exact .ok
  · intro _ failed
    cases failed
    exact other

theorem Never.seq {first second : Except String Unit} (never : Never refusal first)
    (later : Never refusal second) : Never refusal (do first; second) := by
  cases first with
  | error message =>
      intro _ failed
      cases failed
      exact never message rfl
  | ok value => exact later

end Never

/-- Only the message about the name has this second letter. -/
def AboutName (message : String) : Prop := message.toList[1]? = some 'e'

theorem aboutName_append {start : String} (long : 1 < start.toList.length) (rest : String) :
    AboutName (start ++ rest) ↔ AboutName start := by
  rw [AboutName, String.toList_append, List.getElem?_append_left long, AboutName]

theorem aboutName_nameMessage (name : String) : AboutName (nameMessage name) := by
  delta nameMessage
  rw [String.append_assoc, aboutName_append (by simp)]
  simp [AboutName]

theorem validateImage_never (webhookReader : Reader) (pipeline : DataPrepperPipeline) :
    Never AboutName (validateImage webhookReader pipeline) := by
  unfold validateImage
  split
  · exact .ok
  · cases visibleDefaults webhookReader pipeline with
    | none =>
        intro _ failed
        cases failed
        simp [AboutName]
    | some defaults => exact .require (by simp [AboutName])

theorem validateSinks_never (name : String) (index : Nat) (sinks : List SinkSpec) :
    Never AboutName (validateSinks name index sinks) := by
  induction sinks generalizing index with
  | nil => exact .ok
  | cons sink rest ih =>
      apply Never.seq _ (ih _)
      exact .require (by simp [AboutName, String.toList_append])

theorem validateSourceCodec_never (definition : PipelineDefinition) :
    Never AboutName (validateSourceCodec definition) := by
  unfold validateSourceCodec
  cases sourceCodec definition.source with
  | none => exact .ok
  | some codec => exact .require (by simp [AboutName, String.toList_append])

theorem validateDefinitionsFrom_never (index : Nat) (names : List String)
    (pipelines : List PipelineDefinition) :
    Never AboutName (validateDefinitionsFrom index names pipelines) := by
  induction pipelines generalizing index names with
  | nil => exact .ok
  | cons definition rest ih =>
      apply Never.seq (.require (by simp [AboutName, String.toList_append]))
      apply Never.seq (.require (by simp [AboutName, String.toList_append]))
      apply Never.seq (.require (by simp [AboutName, String.toList_append]))
      apply Never.seq (.require (by simp [AboutName, String.toList_append]))
      apply Never.seq (validateSourceCodec_never definition)
      apply Never.seq (validateSinks_never _ _ _)
      exact ih _ _

theorem validatePipelineGraph_never (pipelines : List PipelineDefinition) :
    Never AboutName (validatePipelineGraph pipelines) := by
  unfold validatePipelineGraph
  cases Validation.validateGraph (Controller.graphDefs pipelines) with
  | ok value => exact .ok
  | error failure =>
      intro _ failed
      cases failed
      simp [AboutName, String.toList_append]

theorem validateScaling_never (scaling : Option ScalingSpec) :
    Never AboutName (validateScaling scaling) := by
  cases scaling with
  | none => exact .ok
  | some scaling => exact .seq (.require (by simp [AboutName])) (.require (by simp [AboutName]))

/-- A name is refused for its length and for nothing else. -/
theorem validatePipeline_nameMessage_iff {webhookReader : Reader}
    {pipeline : DataPrepperPipeline} :
    validatePipeline webhookReader pipeline = .error (nameMessage pipeline.name) ↔
      244 < pipeline.name.utf8ByteSize := by
  constructor
  · intro refused
    by_contra short
    unfold validatePipeline at refused
    rw [require, if_pos (not_lt.mp short)] at refused
    have others : Never AboutName (do
        validateImage webhookReader pipeline
        require (pipeline.spec.pipelines ≠ []) "spec.pipelines must not be empty"
        validatePipelineDefinitions pipeline.spec.pipelines
        validatePipelineGraph pipeline.spec.pipelines
        validateScaling pipeline.spec.scaling) := by
      apply Never.seq (validateImage_never _ _)
      apply Never.seq (.require (by simp [AboutName]))
      apply Never.seq (validateDefinitionsFrom_never _ _ _)
      apply Never.seq (validatePipelineGraph_never _)
      exact validateScaling_never _
    exact others _ refused (aboutName_nameMessage _)
  · intro long
    unfold validatePipeline
    rw [require, if_neg (not_le.mpr long)]
    rfl

/-- Counted from the first letter or digit on, the places 245 to 253 hold separators if
anything. -/
def EndsEarly (text : String) : Prop :=
  (((text.toList.dropWhile isSeparator).take 253).drop 244).all isSeparator = true

instance (text : String) : Decidable (EndsEarly text) :=
  inferInstanceAs (Decidable (_ = true))

/-- Names are ASCII. -/
theorem utf8ByteSize_of_wellShaped {name : String} (shaped : WellShaped name) :
    name.utf8ByteSize = name.length := by
  have counted : ∀ letters : List Char, (∀ character ∈ letters, character.utf8Size = 1) →
      String.utf8Len letters = letters.length := by
    intro letters single
    induction letters with
    | nil => rfl
    | cons character rest ih =>
        obtain ⟨here, later⟩ := List.forall_mem_cons.mp single
        rw [String.utf8Len_cons, ih later, here, List.length_cons]
  have single : ∀ character ∈ name.toList, character.utf8Size = 1 := by
    intro character member
    apply Char.utf8Size_eq_one_iff.mpr
    obtain letter | rfl := shaped.characters character member
    · obtain ⟨-, high⟩ | ⟨-, high⟩ := isNameChar_iff.mp letter
      · exact UInt32.le_trans (Char.le_def.mp high) (by decide)
      · exact UInt32.le_trans (Char.le_def.mp high) (by decide)
    · decide
  rw [← String.ofList_toList (s := name), String.utf8ByteSize_ofList, counted _ single,
    String.length_ofList]

theorem length_sanitizeName_le_iff (text : String) :
    (sanitizeName text).length ≤ 244 ↔ EndsEarly text := by
  have shortened : ((spelled text.toList).take 253).drop 244 =
      ((text.toList.dropWhile isSeparator).take 253).drop 244 := by
    unfold spelled
    split
    · rename_i blank
      rw [List.dropWhile_eq_nil_iff.mpr (List.all_eq_true.mp blank)]
      decide
    · rfl
  rw [sanitizeName_eq, ← String.length_toList, String.toList_ofList,
    Trimming.length_rdropWhile_le_iff, ← List.map_take, ← List.map_drop, shortened, EndsEarly,
    List.all_eq_true]
  simp only [List.forall_mem_map, decide_eq_true_iff, sanitizeChar_eq_dash_iff]

theorem child_name_refused_iff {webhookReader : Reader} {pipeline : DataPrepperPipeline}
    {discovery source : String} (named : pipeline.name = childName discovery source) :
    validatePipeline webhookReader pipeline = .error (nameMessage pipeline.name) ↔
      ¬EndsEarly (discovery ++ "-" ++ source) := by
  rw [validatePipeline_nameMessage_iff, named, childName,
    utf8ByteSize_of_wellShaped (wellShaped_sanitizeName _), ← length_sanitizeName_le_iff, not_le]

/-- The webhook takes a child's name exactly if nothing but separators stands where the
two limits differ. -/
theorem child_name_admitted_iff {webhookReader : Reader} {pipeline : DataPrepperPipeline}
    {discovery source : String} (named : pipeline.name = childName discovery source) :
    validatePipeline webhookReader pipeline ≠ .error (nameMessage pipeline.name) ↔
      EndsEarly (discovery ++ "-" ++ source) :=
  (child_name_refused_iff named).not_left

/-- The pipeline of the source in the discovery `topics`. -/
def topicPipeline (source : String) : DataPrepperPipeline :=
  Controller.httpPipeline (childName "topics" source)

theorem name_httpPipeline (name : String) : (Controller.httpPipeline name).name = name := rfl

theorem name_topicPipeline (source : String) :
    (topicPipeline source).name = childName "topics" source :=
  name_httpPipeline _

theorem short_child_admitted :
    validatePipeline none (topicPipeline "logs") ≠
      .error (nameMessage (topicPipeline "logs").name) :=
  (child_name_admitted_iff (name_topicPipeline "logs")).mpr (by decide)

/-- As long as Kafka allows. -/
def longTopic : String := String.ofList (List.replicate 249 'a')

theorem isTopic_longTopic : IsTopic longTopic := by
  unfold IsTopic longTopic
  rw [String.toList_ofList, List.length_replicate, List.all_replicate]
  decide

/-- The child of a legal topic is refused for its name only. -/
theorem long_topic_refused :
    IsTopic longTopic ∧ validatePipeline none (topicPipeline "logs") = .ok () ∧
      validatePipeline none (topicPipeline longTopic) =
        .error (nameMessage (topicPipeline longTopic).name) := by
  have late : ¬EndsEarly ("topics" ++ "-" ++ longTopic) := by
    unfold EndsEarly longTopic
    simp only [String.toList_append, String.toList_ofList]
    decide +kernel
  exact ⟨isTopic_longTopic, by decide +kernel,
    (child_name_refused_iff (name_topicPipeline longTopic)).mpr late⟩

end DataPrepperOperator.Webhook
