import DataPrepperOperator.Discovery.Sources
import DataPrepperOperator.Generator.Config

/-!
# Prefixes at a depth

A listing shows one level of a bucket.  Listing level by level reaches each prefix with
the wanted number of segments by one way only, since a segment ends at its first slash;
one failing call fails the whole discovery.
-/

namespace DataPrepperOperator.Discovery

open ServerProgram DataPrepperOperator.Api DataPrepperOperator.Controller

def IsSegment (segment : String) : Prop := '/' ∉ segment.toList

def joinSegments : List String → String
  | [] => ""
  | segment :: rest => segment ++ "/" ++ joinSegments rest

/-- Some key of the bucket begins with the text. -/
def BeginsKey (keys : Set String) (text : String) : Prop :=
  ∃ key ∈ keys, GoText.startsWith key text = true

/-- The prefix consists of the base and so many segments, and the bucket has a key there. -/
def AtDepth (keys : Set String) (base : String) (depth : Nat) (pathPrefix : String) : Prop :=
  ∃ segments : List String, segments.length = depth ∧ (∀ segment ∈ segments, IsSegment segment) ∧
    pathPrefix = base ++ joinSegments segments ∧ BeginsKey keys pathPrefix

/-- What listings of a bucket with these keys show: every prefix of the next level once. -/
def ListsLevels (keys : Set String) (list : String → Except String (List String)) : Prop :=
  ∀ pathPrefix listed, list pathPrefix = .ok listed → listed.Nodup ∧
    ∀ entry, entry ∈ listed ↔ ∃ segment, IsSegment segment ∧
      entry = pathPrefix ++ segment ++ "/" ∧ BeginsKey keys entry

theorem beginsKey_of_append {keys : Set String} {text rest : String}
    (begins : BeginsKey keys (text ++ rest)) : BeginsKey keys text := by
  obtain ⟨key, member, starts⟩ := begins
  refine ⟨key, member, ?_⟩
  unfold GoText.startsWith at *
  rw [List.isPrefixOf_iff_prefix] at *
  rw [String.toList_append] at starts
  exact (List.prefix_append _ _).trans starts

theorem takeWhile_slash {characters : List Char} (free : '/' ∉ characters) (rest : List Char) :
    (characters ++ '/' :: rest).takeWhile (· ≠ '/') = characters := by
  rw [List.takeWhile_append_of_pos]
  · simp
  · intro character member
    simp only [ne_eq, decide_eq_true_eq]
    rintro rfl
    exact free member

/-- The characters before the first slash determine the segment. -/
theorem segment_eq {first second : String} (firstSegment : IsSegment first)
    (secondSegment : IsSegment second) {firstRest secondRest : List Char}
    (same : first.toList ++ '/' :: firstRest = second.toList ++ '/' :: secondRest) :
    first = second := by
  have equal := congrArg (List.takeWhile (· ≠ '/')) same
  rw [takeWhile_slash firstSegment, takeWhile_slash secondSegment] at equal
  exact String.toList_inj.mp equal

/-- Different entries of one level have nothing below them in common. -/
theorem child_eq_of_below {base first second : String} {firstBelow secondBelow : String}
    (firstSegment : IsSegment first) (secondSegment : IsSegment second)
    (same : base ++ first ++ "/" ++ firstBelow = base ++ second ++ "/" ++ secondBelow) :
    first = second := by
  apply segment_eq firstSegment secondSegment
  have characters := congrArg String.toList same
  simp only [String.toList_append, List.append_assoc, List.append_cancel_left_eq] at characters
  exact characters

section Levels

variable {discoverer : S3Discoverer} {keys : Set String}
  {buckets : String → String → Except String (List String)}

theorem atDepth_one {base pathPrefix : String} :
    AtDepth keys base 1 pathPrefix ↔ ∃ segment, IsSegment segment ∧
      pathPrefix = base ++ segment ++ "/" ∧ BeginsKey keys pathPrefix := by
  constructor
  · rintro ⟨segments, one, areSegments, rfl, begins⟩
    obtain ⟨segment, rfl⟩ := List.length_eq_one_iff.mp one
    refine ⟨segment, areSegments segment List.mem_cons_self, ?_, begins⟩
    simp [joinSegments, String.append_assoc]
  · rintro ⟨segment, isSegment, rfl, begins⟩
    refine ⟨[segment], rfl, by simpa using isSegment, ?_, begins⟩
    simp [joinSegments, String.append_assoc]

theorem atDepth_succ {base pathPrefix : String} {depth : Nat} :
    AtDepth keys base (depth + 1) pathPrefix ↔ ∃ child,
      AtDepth keys base 1 child ∧ AtDepth keys child depth pathPrefix := by
  constructor
  · rintro ⟨segments, length, areSegments, rfl, begins⟩
    cases segments with
    | nil => cases length
    | cons segment rest =>
        obtain ⟨isSegment, others⟩ := List.forall_mem_cons.mp areSegments
        have split : base ++ joinSegments (segment :: rest) =
            base ++ segment ++ "/" ++ joinSegments rest := by
          simp [joinSegments, String.append_assoc]
        rw [split] at begins ⊢
        exact ⟨base ++ segment ++ "/",
          atDepth_one.mpr ⟨segment, isSegment, rfl, beginsKey_of_append begins⟩,
          rest, Nat.succ.inj length, others, rfl, begins⟩
  · rintro ⟨_, one, rest, rfl, others, rfl, begins⟩
    obtain ⟨segment, isSegment, rfl, _⟩ := atDepth_one.mp one
    refine ⟨segment :: rest, rfl, List.forall_mem_cons.mpr ⟨isSegment, others⟩, ?_, begins⟩
    simp [joinSegments, String.append_assoc]

/-- Lists below different items that share nothing have no entry twice. -/
theorem nodup_flatten_of_apart {Item Entry : Type} (under : Item → Entry → Prop)
    {items : List Item} {lists : List (List Entry)}
    (each : List.Forall₂ (fun item list => list.Nodup ∧ ∀ entry ∈ list, under item entry) items
      lists)
    (nodup : items.Nodup)
    (apart : ∀ first ∈ items, ∀ second ∈ items, ∀ entry, under first entry →
      under second entry → first = second) : lists.flatten.Nodup := by
  induction each with
  | nil => exact List.nodup_nil
  | @cons item list rest others head tail ih =>
      obtain ⟨fresh, nodupRest⟩ := List.nodup_cons.mp nodup
      rw [List.flatten_cons, List.nodup_append]
      refine ⟨head.1, ih nodupRest fun first firstIn second secondIn =>
        apart first (List.mem_cons_of_mem _ firstIn) second (List.mem_cons_of_mem _ secondIn), ?_⟩
      rintro entry own _ later rfl
      obtain ⟨other, listed, inside⟩ := List.mem_flatten.mp later
      obtain ⟨counterpart, present, _, below⟩ := Generator.exists_of_forall₂ tail listed
      have same := apart item List.mem_cons_self counterpart (List.mem_cons_of_mem _ present) entry
        (head.2 entry own) (below entry inside)
      exact fresh (same ▸ present)

/-- What is below two entries of a level is below one entry. -/
theorem atDepth_unique {base first second pathPrefix : String} {depth : Nat}
    (firstChild : AtDepth keys base 1 first) (secondChild : AtDepth keys base 1 second)
    (belowFirst : AtDepth keys first depth pathPrefix)
    (belowSecond : AtDepth keys second depth pathPrefix) : first = second := by
  obtain ⟨firstSegment, isFirst, rfl, _⟩ := atDepth_one.mp firstChild
  obtain ⟨secondSegment, isSecond, rfl, _⟩ := atDepth_one.mp secondChild
  obtain ⟨_, _, _, firstPath, _⟩ := belowFirst
  obtain ⟨_, _, _, secondPath, _⟩ := belowSecond
  rw [child_eq_of_below isFirst isSecond (firstPath.symm.trans secondPath)]

/-- A listing that succeeds at every level has each prefix once. -/
theorem prefixesAt_exact (lists : ListsLevels keys (buckets discoverer.bucket)) {further : Nat}
    {base : String} {prefixes : List String}
    (listed : discoverer.prefixesAt buckets further base = .ok prefixes) :
    prefixes.Nodup ∧
      ∀ pathPrefix, pathPrefix ∈ prefixes ↔ AtDepth keys base (further + 1) pathPrefix := by
  induction further generalizing base prefixes with
  | zero =>
      obtain ⟨nodup, members⟩ := lists base prefixes listed
      exact ⟨nodup, fun pathPrefix => (members pathPrefix).trans atDepth_one.symm⟩
  | succ further ih =>
      unfold S3Discoverer.prefixesAt at listed
      cases children : buckets discoverer.bucket base with
      | error message => simp [children, bind, Except.bind] at listed
      | ok level =>
          cases nesting : level.mapM (discoverer.prefixesAt buckets further) with
          | error message => simp [children, nesting, bind, Except.bind] at listed
          | ok nested =>
              simp only [children, nesting, bind, Except.bind, pure, Except.pure,
                Except.ok.injEq] at listed
              subst listed
              obtain ⟨nodup, members⟩ := lists base level children
              have each := Generator.mapM_ok_iff_forall₂.mp nesting
              constructor
              · refine nodup_flatten_of_apart (AtDepth keys · (further + 1))
                  (each.imp fun _ _ listedBelow => ?_) nodup ?_
                · obtain ⟨nodupBelow, membersBelow⟩ := ih listedBelow
                  exact ⟨nodupBelow, fun entry inside => (membersBelow entry).mp inside⟩
                · intro first firstIn second secondIn entry belowFirst belowSecond
                  exact atDepth_unique (atDepth_one.mpr ((members first).mp firstIn))
                    (atDepth_one.mpr ((members second).mp secondIn)) belowFirst belowSecond
              · intro pathPrefix
                rw [List.mem_flatten, atDepth_succ]
                constructor
                · rintro ⟨below, member, inside⟩
                  obtain ⟨child, listedChild, listedBelow⟩ :=
                    Generator.exists_of_forall₂ each member
                  exact ⟨child, atDepth_one.mpr ((members child).mp listedChild),
                    ((ih listedBelow).2 pathPrefix).mp inside⟩
                · rintro ⟨child, one, below⟩
                  have listedChild := (members child).mpr (atDepth_one.mp one)
                  obtain ⟨list, member, listedBelow⟩ :=
                    Generator.exists_of_forall₂ each.flip listedChild
                  exact ⟨list, member, ((ih listedBelow).2 pathPrefix).mpr below⟩

end Levels

/-- No valid exclude pattern matches the name. -/
def NotExcluded (toolkit : Toolkit) (patterns : List String) (name : String) : Prop :=
  ∀ pattern ∈ patterns, toolkit.matchPattern pattern name ≠ .ok true

theorem isExcluded_eq_false_iff {toolkit : Toolkit} {patterns : List String} {name : String} :
    isExcluded toolkit patterns name = false ↔ NotExcluded toolkit patterns name := by
  unfold isExcluded NotExcluded
  rw [List.any_eq_false]
  refine forall_congr' fun pattern => imp_congr_right fun _ => ?_
  cases toolkit.matchPattern pattern name <;> simp

/-- The prefix that a source carries in its metadata. -/
def sourcePrefix (source : DiscoveredSource) : Option String :=
  match source.metadata.lookup "prefix" with
  | some (.string pathPrefix) => some pathPrefix
  | _ => none

theorem sourcePrefixes_of_filterMap (discoverer : S3Discoverer) (toolkit : Toolkit)
    (prefixes : List String) :
    (prefixes.filterMap (discoverer.sourceOf toolkit)).map sourcePrefix =
      (prefixes.filter fun pathPrefix =>
        !isExcluded toolkit discoverer.excludePatterns (prefixToName pathPrefix)).map some := by
  induction prefixes with
  | nil => rfl
  | cons pathPrefix rest ih =>
      rw [List.filterMap_cons, List.filter_cons]
      by_cases excluded :
          isExcluded toolkit discoverer.excludePatterns (prefixToName pathPrefix) = true
      · simp [S3Discoverer.sourceOf, excluded, ih]
      · rw [Bool.not_eq_true] at excluded
        simp only [S3Discoverer.sourceOf, excluded, Bool.not_false, if_true, List.map_cons,
          ih, Bool.false_eq_true, if_false]
        rfl

theorem map_eq_map_some {Item Entry : Type} {f : Item → Option Entry} {items : List Item}
    (all : ∀ item ∈ items, (f item).isSome = true) :
    items.map f = (items.filterMap f).map some := by
  induction items with
  | nil => rfl
  | cons item rest ih =>
      obtain ⟨here, others⟩ := List.forall_mem_cons.mp all
      obtain ⟨entry, found⟩ := Option.isSome_iff_exists.mp here
      rw [List.map_cons, List.filterMap_cons_some found, List.map_cons, found,
        ih others]

/-- Sorting and selecting keep what the listing has. -/
theorem found_exact (discoverer : S3Discoverer) (toolkit : Toolkit) {prefixes : List String}
    (nodup : prefixes.Nodup) :
    ∃ selected : List String,
      (discoverer.found toolkit prefixes).map sourcePrefix = selected.map some ∧
      selected.Nodup ∧
      (∀ pathPrefix, pathPrefix ∈ selected ↔ pathPrefix ∈ prefixes ∧
        NotExcluded toolkit discoverer.excludePatterns (prefixToName pathPrefix)) ∧
      ((discoverer.found toolkit prefixes).map (·.name)).Pairwise (· ≤ ·) := by
  have permuted : (discoverer.found toolkit prefixes).Perm
      (prefixes.filterMap (discoverer.sourceOf toolkit)) := List.perm_insertionSort _ _
  have carried := sourcePrefixes_of_filterMap discoverer toolkit prefixes
  have all : ∀ source ∈ discoverer.found toolkit prefixes, (sourcePrefix source).isSome = true := by
    intro source member
    have listed := List.mem_map_of_mem (f := sourcePrefix) (permuted.mem_iff.mp member)
    rw [carried] at listed
    obtain ⟨pathPrefix, _, same⟩ := List.mem_map.mp listed
    rw [← same]
    rfl
  have kept : ((discoverer.found toolkit prefixes).filterMap sourcePrefix).Perm
      (prefixes.filter fun pathPrefix =>
        !isExcluded toolkit discoverer.excludePatterns (prefixToName pathPrefix)) := by
    refine (permuted.filterMap sourcePrefix).trans (List.Perm.of_eq ?_)
    have reduced := congrArg (List.filterMap id) carried
    rw [List.filterMap_map, List.filterMap_map] at reduced
    simpa using reduced
  refine ⟨_, map_eq_map_some all, kept.nodup_iff.mpr (nodup.filter _), ?_, ?_⟩
  · intro pathPrefix
    rw [kept.mem_iff, List.mem_filter, Bool.not_eq_true', isExcluded_eq_false_iff]
  · rw [List.pairwise_map]
    exact List.pairwise_insertionSort _ _

/-- Discovery returns the prefixes at the depth that no pattern excludes, each once and
ordered by name, or it fails because a call did. -/
theorem s3_prefixes_exact {faulty : (op : Op) → Reply op → Prop} {discoverer : S3Discoverer}
    {toolkit : Toolkit} {keys : Set String} {cluster final : Cluster}
    {trace : List (Event Cluster Op Reply)} {outcome : Except String (List DiscoveredSource)}
    (lists : ∀ buckets, cluster.s3 discoverer.client = .ok buckets →
      ListsLevels keys (buckets discoverer.bucket))
    (run : Runs (Serves faulty) (discoverer.discover toolkit).run cluster trace outcome final) :
    ((∀ event ∈ trace, ¬Fails event.op event.reply) →
        ∃ (sources : List DiscoveredSource) (prefixes : List String),
        outcome = .ok sources ∧ sources.map sourcePrefix = prefixes.map some ∧ prefixes.Nodup ∧
        (∀ pathPrefix, pathPrefix ∈ prefixes ↔
          AtDepth keys discoverer.pathPrefix (max discoverer.depth 1).toNat pathPrefix ∧
            NotExcluded toolkit discoverer.excludePatterns (prefixToName pathPrefix)) ∧
        (sources.map (·.name)).Pairwise (· ≤ ·)) ∧
      ((∃ event ∈ trace, Fails event.op event.reply) → ∃ message, outcome = .error message) := by
  have strict := S3Discoverer.strict_discover discoverer toolkit _ _ _ _ _ run
  refine ⟨fun quiet => ?_, strict.mp⟩
  obtain ⟨_, _, computed | ⟨_, failed⟩⟩ := S3Discoverer.observes_discover _ _ _ _ run
  · dsimp only at computed
    cases listed : discoverer.prefixesIn cluster discoverer.furtherLevels
        discoverer.pathPrefix with
    | error message =>
        rw [listed] at computed
        obtain ⟨event, member, fails⟩ := strict.mpr ⟨_, computed⟩
        exact absurd fails (quiet event member)
    | ok prefixes =>
        rw [listed] at computed
        unfold S3Discoverer.prefixesIn at listed
        cases connected : cluster.s3 discoverer.client with
        | error message => simp [connected, Except.bind] at listed
        | ok buckets =>
            rw [connected] at listed
            obtain ⟨nodup, members⟩ := prefixesAt_exact (lists buckets connected) listed
            obtain ⟨selected, carried, nodupSelected, membersSelected, ordered⟩ :=
              found_exact discoverer toolkit nodup
            have levels : discoverer.furtherLevels + 1 = (max discoverer.depth 1).toNat := by
              unfold S3Discoverer.furtherLevels
              omega
            refine ⟨_, selected, computed, carried, nodupSelected, ?_, ordered⟩
            intro pathPrefix
            rw [membersSelected, members, levels]
  · obtain ⟨event, member, fails⟩ := strict.mpr failed
    exact absurd fails (quiet event member)

/-- The entry under which a key shows in a listing below a prefix. -/
def levelOf (pathPrefix key : String) : Option String :=
  let rest := key.toList.drop pathPrefix.toList.length
  if GoText.startsWith key pathPrefix ∧ '/' ∈ rest then
    some (pathPrefix ++ String.ofList (rest.takeWhile (· ≠ '/')) ++ "/")
  else none

def listLevel (keys : List String) (pathPrefix : String) : List String :=
  (keys.filterMap (levelOf pathPrefix)).dedup

theorem levelOf_eq_some_iff {pathPrefix key entry : String} :
    levelOf pathPrefix key = some entry ↔ ∃ segment, IsSegment segment ∧
      entry = pathPrefix ++ segment ++ "/" ∧ GoText.startsWith key entry = true := by
  unfold levelOf GoText.startsWith
  simp only [List.isPrefixOf_iff_prefix]
  constructor
  · intro shown
    split at shown
    · rename_i below
      obtain ⟨⟨rest, split⟩, slash⟩ := below
      cases shown
      rw [← split, List.drop_left] at slash ⊢
      obtain ⟨before, after, rfl, first⟩ := List.eq_append_cons_of_mem slash
      rw [takeWhile_slash first]
      exact ⟨String.ofList before, by simpa [IsSegment] using first, rfl, after, by simp⟩
    · cases shown
  · rintro ⟨segment, isSegment, rfl, rest, split⟩
    have characters : key.toList =
        pathPrefix.toList ++ (segment.toList ++ '/' :: rest) := by
      rw [← split]
      simp
    rw [characters, List.drop_left, takeWhile_slash isSegment, if_pos]
    · simp
    · exact ⟨List.prefix_append _ _, by simp⟩

theorem listsLevels_listLevel (keys : List String) :
    ListsLevels {key | key ∈ keys} fun pathPrefix => .ok (listLevel keys pathPrefix) := by
  rintro pathPrefix _ ⟨⟩
  refine ⟨List.nodup_dedup _, fun entry => ?_⟩
  simp only [listLevel, List.mem_dedup, List.mem_filterMap, levelOf_eq_some_iff]
  constructor
  · rintro ⟨key, member, segment, isSegment, same, starts⟩
    exact ⟨segment, isSegment, same, key, member, starts⟩
  · rintro ⟨segment, isSegment, same, key, member, starts⟩
    exact ⟨key, member, segment, isSegment, same, starts⟩

/-- A level for tenants and one for kinds of data. -/
def tenantKeys : List String :=
  ["tenant-b/logs/1", "tenant-a/logs/1", "tenant-a/logs/2", "tenant-a/metrics/1", "readme"]

def tenantBucket : Cluster :=
  { Cluster.empty with
    s3 := fun _ => .ok fun _ pathPrefix => .ok (listLevel tenantKeys pathPrefix) }

def tenantDiscoverer : S3Discoverer where
  client := { region := "eu-west-1", endpoint := "", forcePathStyle := false }
  bucket := "multi-tenant"
  region := "eu-west-1"
  pathPrefix := ""
  depth := 2
  excludePatterns := ["tenant-a-metrics"]
  sqsMapping := none

theorem s3_prefixes_of_tenants :
    ∃ trace sources final, Runs Reliable (tenantDiscoverer.discover sampleToolkit).run
        tenantBucket trace (.ok sources) final ∧
      sources.map (·.name) = ["tenant-a-logs", "tenant-b-logs"] ∧
      ∃ prefixes : List String, sources.map sourcePrefix = prefixes.map some ∧ prefixes.Nodup ∧
        ∀ pathPrefix, pathPrefix ∈ prefixes ↔
          AtDepth {key | key ∈ tenantKeys} "" 2 pathPrefix ∧
            NotExcluded sampleToolkit ["tenant-a-metrics"] (prefixToName pathPrefix) := by
  have served : ∀ (cluster : Cluster) op,
      Reliable cluster op (cluster.answer op).1 (cluster.answer op).2 :=
    fun cluster op => .honest (cluster.answer_honest op)
  have run := Program.runs_trace served (tenantDiscoverer.discover sampleToolkit).run tenantBucket
  have names : ((tenantDiscoverer.discover sampleToolkit).run.execute Cluster.answer
      tenantBucket).1.map (List.map (·.name)) = .ok ["tenant-a-logs", "tenant-b-logs"] := by
    decide +kernel
  obtain ⟨sources, executed, named⟩ := Generator.ok_of_map names
  have strict := S3Discoverer.strict_discover tenantDiscoverer sampleToolkit _ _ _ _ _ run
  have quiet := strict.not.mpr (by
    rw [executed]
    rintro ⟨_, impossible⟩
    cases impossible)
  have lists : ∀ buckets, tenantBucket.s3 tenantDiscoverer.client = .ok buckets →
      ListsLevels {key | key ∈ tenantKeys} (buckets tenantDiscoverer.bucket) := by
    rintro _ ⟨⟩
    exact listsLevels_listLevel tenantKeys
  obtain ⟨found, _⟩ := s3_prefixes_exact lists run
  obtain ⟨_, prefixes, same, carried, nodup, members, _⟩ :=
    found fun event member fails => quiet ⟨event, member, fails⟩
  obtain rfl := Except.ok.inj (executed.symm.trans same)
  rw [executed] at run
  exact ⟨_, sources, _, run, named, prefixes, carried, nodup, members⟩

end DataPrepperOperator.Discovery
