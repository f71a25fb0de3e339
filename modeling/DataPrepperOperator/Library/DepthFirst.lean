import Mathlib.Data.List.Perm.Subperm
import Mathlib.Logic.Relation

/-!
# Three-colour depth-first search

A depth-first search that shares one mutable colouring between all of its
roots and stops at the first edge into a grey vertex.  The search is written
with explicit fuel; `search_terminates` shows that the number of vertices is
always enough, so the fuel never decides the answer.

Grey vertices are the current call stack.  Black vertices are finished: they
are closed under successors and lie on no cycle.
-/

namespace DepthFirst

open Relation

universe u

/-- White vertices are undiscovered, grey ones are on the call stack, black
ones are finished. -/
inductive Colour where
  | white
  | grey
  | black
  deriving DecidableEq, Repr

variable {Vertex : Type u} [DecidableEq Vertex]

/-- The shared colour map; unset entries are white. -/
abbrev Colouring (Vertex : Type u) := Vertex → Colour

def paint (colouring : Colouring Vertex) (vertex : Vertex) (colour : Colour) :
    Colouring Vertex :=
  Function.update colouring vertex colour

@[simp]
theorem paint_same (colouring : Colouring Vertex) (vertex : Vertex) (colour : Colour) :
    paint colouring vertex colour vertex = colour := by
  simp [paint]

@[simp]
theorem paint_of_ne (colouring : Colouring Vertex) {vertex other : Vertex}
    (colour : Colour) (different : other ≠ vertex) :
    paint colouring vertex colour other = colouring other := by
  simp [paint, different]

/-- `none` is exhausted fuel, an error is the offending edge, and a value is
the colouring after the call. -/
abbrev Outcome (Vertex : Type u) := Option (Except (Vertex × Vertex) (Colouring Vertex))

/-- The loop over the successors of one grey vertex. -/
def scan (visit : Vertex → Colouring Vertex → Outcome Vertex) (vertex : Vertex) :
    List Vertex → Colouring Vertex → Outcome Vertex
  | [], colouring => some (.ok colouring)
  | next :: rest, colouring =>
      match colouring next with
      | .grey => some (.error (vertex, next))
      | .black => scan visit vertex rest colouring
      | .white =>
          match visit next colouring with
          | none => none
          | some (.error edge) => some (.error edge)
          | some (.ok visited) => scan visit vertex rest visited

/-- Visit one white vertex and everything below it. -/
def visit (successors : Vertex → List Vertex) :
    Nat → Vertex → Colouring Vertex → Outcome Vertex
  | 0, _, _ => none
  | fuel + 1, vertex, colouring =>
      match scan (visit successors fuel) vertex (successors vertex)
          (paint colouring vertex .grey) with
      | none => none
      | some (.error edge) => some (.error edge)
      | some (.ok scanned) => some (.ok (paint scanned vertex .black))

/-- Start a visit from every root that is still white. -/
def search (successors : Vertex → List Vertex) (fuel : Nat) :
    List Vertex → Colouring Vertex → Outcome Vertex
  | [], colouring => some (.ok colouring)
  | root :: rest, colouring =>
      match colouring root with
      | .white =>
          match visit successors fuel root colouring with
          | none => none
          | some (.error edge) => some (.error edge)
          | some (.ok visited) => search successors fuel rest visited
      | _ => search successors fuel rest colouring

/-- The edge relation behind a successor function. -/
def Edge (successors : Vertex → List Vertex) (source target : Vertex) : Prop :=
  target ∈ successors source

/-- No vertex reaches itself along one or more edges. -/
def Acyclic (successors : Vertex → List Vertex) : Prop :=
  ∀ vertex, ¬ TransGen (Edge successors) vertex vertex

/-- What a finished call has done to the colouring: the stack is as before,
finished vertices stay finished, and white vertices only disappear. -/
structure Advances (before after : Colouring Vertex) : Prop where
  grey_iff : ∀ vertex, after vertex = .grey ↔ before vertex = .grey
  black_of_black : ∀ vertex, before vertex = .black → after vertex = .black

omit [DecidableEq Vertex] in
theorem Advances.refl (colouring : Colouring Vertex) : Advances colouring colouring :=
  ⟨fun _ => Iff.rfl, fun _ finished => finished⟩

omit [DecidableEq Vertex] in
theorem Advances.trans {first second third : Colouring Vertex}
    (early : Advances first second) (late : Advances second third) :
    Advances first third :=
  ⟨fun vertex => (late.grey_iff vertex).trans (early.grey_iff vertex),
    fun vertex finished => late.black_of_black vertex (early.black_of_black vertex finished)⟩

omit [DecidableEq Vertex] in
theorem Advances.white_of_white {before after : Colouring Vertex}
    (advances : Advances before after) {vertex : Vertex}
    (white : after vertex = .white) : before vertex = .white := by
  cases colour : before vertex with
  | white => rfl
  | grey => simp [(advances.grey_iff vertex).mpr colour] at white
  | black => simp [advances.black_of_black vertex colour] at white

/-- Finishing the vertex that a call painted grey restores the stack. -/
theorem Advances.finish {colouring scanned : Colouring Vertex} {vertex : Vertex}
    (white : colouring vertex = .white)
    (advances : Advances (paint colouring vertex .grey) scanned) :
    Advances colouring (paint scanned vertex .black) := by
  constructor
  · intro other
    by_cases same : other = vertex
    · subst other
      simp [white]
    · have unchanged := advances.grey_iff other
      simpa [same] using unchanged
  · intro other finished
    by_cases same : other = vertex
    · subst other
      simp
    · have kept := advances.black_of_black other
      simpa [same, finished] using kept

/-- The invariant of finished vertices: they are closed under successors and
none of them lies on a cycle. -/
structure Finished (successors : Vertex → List Vertex) (colouring : Colouring Vertex) :
    Prop where
  closed : ∀ vertex, colouring vertex = .black →
    ∀ next ∈ successors vertex, colouring next = .black
  acyclic : ∀ vertex, colouring vertex = .black →
    ¬ TransGen (Edge successors) vertex vertex

omit [DecidableEq Vertex] in
theorem Finished.black_of_reaches {successors : Vertex → List Vertex}
    {colouring : Colouring Vertex} (finished : Finished successors colouring)
    {source target : Vertex} (black : colouring source = .black)
    (reaches : ReflTransGen (Edge successors) source target) :
    colouring target = .black := by
  induction reaches with
  | refl => exact black
  | tail _ edge ih =>
      exact finished.closed _ ih _ edge

theorem Finished.paint_grey {successors : Vertex → List Vertex}
    {colouring : Colouring Vertex} (finished : Finished successors colouring)
    {vertex : Vertex} (white : colouring vertex = .white) :
    Finished successors (paint colouring vertex .grey) := by
  have black_iff : ∀ other, paint colouring vertex .grey other = .black ↔
      colouring other = .black := by
    intro other
    by_cases same : other = vertex
    · subst other
      simp [white]
    · simp [same]
  constructor
  · intro other black next edge
    exact (black_iff next).mpr (finished.closed other ((black_iff other).mp black) next edge)
  · intro other black
    exact finished.acyclic other ((black_iff other).mp black)

/-- A vertex all of whose successors are finished may be finished itself: a
cycle through it would make it black before its turn. -/
theorem Finished.paint_black {successors : Vertex → List Vertex}
    {scanned : Colouring Vertex} (finished : Finished successors scanned)
    {vertex : Vertex} (notBlack : scanned vertex ≠ .black)
    (children : ∀ next ∈ successors vertex, scanned next = .black) :
    Finished successors (paint scanned vertex .black) := by
  have black_of : ∀ other, scanned other = .black →
      paint scanned vertex .black other = .black := by
    intro other black
    by_cases same : other = vertex
    · subst other
      simp
    · simpa [same] using black
  constructor
  · intro other black next edge
    by_cases same : other = vertex
    · subst other
      exact black_of next (children next edge)
    · exact black_of next (finished.closed other (by simpa [same] using black) next edge)
  · intro other black cycle
    by_cases same : other = vertex
    · subst other
      rcases TransGen.head'_iff.mp cycle with ⟨next, edge, back⟩
      exact notBlack (finished.black_of_reaches (children next edge) back)
    · exact finished.acyclic other (by simpa [same] using black) cycle

/-- Soundness of a visiting function: a call that returns has advanced the
colouring, finished its vertex and kept the invariant. -/
def VisitSound (successors : Vertex → List Vertex)
    (visitor : Vertex → Colouring Vertex → Outcome Vertex) : Prop :=
  ∀ vertex colouring visited, colouring vertex = .white →
    Finished successors colouring →
    visitor vertex colouring = some (.ok visited) →
    Advances colouring visited ∧ Finished successors visited ∧ visited vertex = .black

omit [DecidableEq Vertex] in
theorem scan_sound {successors : Vertex → List Vertex}
    {visitor : Vertex → Colouring Vertex → Outcome Vertex}
    (sound : VisitSound successors visitor) (vertex : Vertex) (targets : List Vertex)
    {colouring scanned : Colouring Vertex} (finished : Finished successors colouring)
    (result : scan visitor vertex targets colouring = some (.ok scanned)) :
    Advances colouring scanned ∧ Finished successors scanned ∧
      ∀ next ∈ targets, scanned next = .black := by
  induction targets generalizing colouring with
  | nil =>
      simp only [scan, Option.some.injEq, Except.ok.injEq] at result
      subst scanned
      exact ⟨Advances.refl colouring, finished, by simp⟩
  | cons next rest ih =>
      rw [scan] at result
      cases colour : colouring next with
      | grey => simp [colour] at result
      | black =>
          rw [colour] at result
          rcases ih finished result with ⟨advances, kept, children⟩
          refine ⟨advances, kept, ?_⟩
          intro target membership
          rcases List.mem_cons.mp membership with equality | inRest
          · subst target
            exact advances.black_of_black next colour
          · exact children target inRest
      | white =>
          rw [colour] at result
          cases visitResult : visitor next colouring with
          | none => simp [visitResult] at result
          | some outcome =>
              cases outcome with
              | error edge => simp [visitResult] at result
              | ok visited =>
                  simp only [visitResult] at result
                  rcases sound next colouring visited colour finished visitResult with
                    ⟨visitAdvances, visitFinished, nextBlack⟩
                  rcases ih visitFinished result with
                    ⟨advances, kept, children⟩
                  refine ⟨visitAdvances.trans advances, kept, ?_⟩
                  intro target membership
                  rcases List.mem_cons.mp membership with equality | inRest
                  · subst target
                    exact advances.black_of_black next nextBlack
                  · exact children target inRest

theorem visit_sound (successors : Vertex → List Vertex) (fuel : Nat) :
    VisitSound successors (visit successors fuel) := by
  induction fuel with
  | zero =>
      intro vertex colouring visited _ _ result
      simp [visit] at result
  | succ fuel ih =>
      intro vertex colouring visited white finished result
      rw [visit] at result
      cases scanResult : scan (visit successors fuel) vertex (successors vertex)
          (paint colouring vertex .grey) with
      | none => simp [scanResult] at result
      | some outcome =>
          cases outcome with
          | error edge => simp [scanResult] at result
          | ok scanned =>
              simp only [scanResult, Option.some.injEq, Except.ok.injEq] at result
              subst visited
              rcases scan_sound ih vertex (successors vertex)
                (finished.paint_grey white) scanResult with ⟨advances, kept, children⟩
              have stillGrey : scanned vertex = .grey := by
                exact (advances.grey_iff vertex).mpr (by simp)
              refine ⟨advances.finish white, ?_, by simp⟩
              exact kept.paint_black (by simp [stillGrey]) children

theorem search_sound (successors : Vertex → List Vertex) (fuel : Nat) (roots : List Vertex)
    {colouring searched : Colouring Vertex} (finished : Finished successors colouring)
    (noStack : ∀ vertex, colouring vertex ≠ .grey)
    (result : search successors fuel roots colouring = some (.ok searched)) :
    Advances colouring searched ∧ Finished successors searched ∧
      ∀ root ∈ roots, searched root = .black := by
  induction roots generalizing colouring with
  | nil =>
      simp only [search, Option.some.injEq, Except.ok.injEq] at result
      subst searched
      exact ⟨Advances.refl colouring, finished, by simp⟩
  | cons root rest ih =>
      rw [search] at result
      cases colour : colouring root with
      | grey => exact absurd colour (noStack root)
      | black =>
          simp only [colour] at result
          rcases ih finished noStack result with ⟨advances, kept, children⟩
          refine ⟨advances, kept, ?_⟩
          intro target membership
          rcases List.mem_cons.mp membership with equality | inRest
          · subst target
            exact advances.black_of_black root colour
          · exact children target inRest
      | white =>
          simp only [colour] at result
          cases visitResult : visit successors fuel root colouring with
          | none => simp [visitResult] at result
          | some outcome =>
              cases outcome with
              | error edge => simp [visitResult] at result
              | ok visited =>
                  simp only [visitResult] at result
                  rcases visit_sound successors fuel root colouring visited colour finished
                    visitResult with ⟨visitAdvances, visitFinished, rootBlack⟩
                  have visitedNoStack : ∀ vertex, visited vertex ≠ .grey := by
                    intro vertex grey
                    exact noStack vertex ((visitAdvances.grey_iff vertex).mp grey)
                  rcases ih visitFinished visitedNoStack result with
                    ⟨advances, kept, children⟩
                  refine ⟨visitAdvances.trans advances, kept, ?_⟩
                  intro target membership
                  rcases List.mem_cons.mp membership with equality | inRest
                  · subst target
                    exact advances.black_of_black root rootBlack
                  · exact children target inRest

/-- A reported edge closes a cycle as long as everything on the stack reaches
the vertex being visited. -/
def VisitReports (successors : Vertex → List Vertex)
    (visitor : Vertex → Colouring Vertex → Outcome Vertex) : Prop :=
  ∀ vertex colouring edge, colouring vertex = .white →
    Finished successors colouring →
    (∀ stacked, colouring stacked = .grey → ReflTransGen (Edge successors) stacked vertex) →
    visitor vertex colouring = some (.error edge) →
    ∃ witness, TransGen (Edge successors) witness witness

omit [DecidableEq Vertex] in
/-- The stack is unchanged by the completed calls of the loop, so the same
reachability hypothesis serves every iteration. -/
theorem scan_reports {successors : Vertex → List Vertex}
    {visitor : Vertex → Colouring Vertex → Outcome Vertex}
    (sound : VisitSound successors visitor) (reports : VisitReports successors visitor)
    (vertex : Vertex) (targets : List Vertex)
    (subset : ∀ next ∈ targets, next ∈ successors vertex)
    {colouring : Colouring Vertex} {edge : Vertex × Vertex}
    (finished : Finished successors colouring)
    (stack : ∀ stacked, colouring stacked = .grey →
      ReflTransGen (Edge successors) stacked vertex)
    (result : scan visitor vertex targets colouring = some (.error edge)) :
    ∃ witness, TransGen (Edge successors) witness witness := by
  induction targets generalizing colouring with
  | nil => simp [scan] at result
  | cons next rest ih =>
      have isEdge : Edge successors vertex next := subset next (by simp)
      have restSubset : ∀ target ∈ rest, target ∈ successors vertex :=
        fun target membership => subset target (by simp [membership])
      rw [scan] at result
      cases colour : colouring next with
      | grey => exact ⟨vertex, TransGen.head' isEdge (stack next colour)⟩
      | black =>
          rw [colour] at result
          exact ih restSubset finished stack result
      | white =>
          rw [colour] at result
          cases visitResult : visitor next colouring with
          | none => simp [visitResult] at result
          | some outcome =>
              cases outcome with
              | error inner =>
                  refine reports next colouring inner colour finished ?_ visitResult
                  intro stacked grey
                  exact (stack stacked grey).tail isEdge
              | ok visited =>
                  simp only [visitResult] at result
                  rcases sound next colouring visited colour finished visitResult with
                    ⟨advances, visitFinished, _⟩
                  refine ih restSubset visitFinished ?_ result
                  intro stacked grey
                  exact stack stacked ((advances.grey_iff stacked).mp grey)

theorem visit_reports (successors : Vertex → List Vertex) (fuel : Nat) :
    VisitReports successors (visit successors fuel) := by
  induction fuel with
  | zero =>
      intro vertex colouring edge _ _ _ result
      simp [visit] at result
  | succ fuel ih =>
      intro vertex colouring edge white finished stack result
      rw [visit] at result
      cases scanResult : scan (visit successors fuel) vertex (successors vertex)
          (paint colouring vertex .grey) with
      | none => simp [scanResult] at result
      | some outcome =>
          cases outcome with
          | ok scanned => simp [scanResult] at result
          | error inner =>
              refine scan_reports (visit_sound successors fuel) ih vertex
                (successors vertex) (fun _ membership => membership)
                (finished.paint_grey white) ?_ scanResult
              intro stacked grey
              by_cases same : stacked = vertex
              · subst stacked
                exact ReflTransGen.refl
              · exact stack stacked (by simpa [same] using grey)

theorem search_reports (successors : Vertex → List Vertex) (fuel : Nat)
    (roots : List Vertex) {colouring : Colouring Vertex} {edge : Vertex × Vertex}
    (finished : Finished successors colouring)
    (noStack : ∀ vertex, colouring vertex ≠ .grey)
    (result : search successors fuel roots colouring = some (.error edge)) :
    ∃ witness, TransGen (Edge successors) witness witness := by
  induction roots generalizing colouring with
  | nil => simp [search] at result
  | cons root rest ih =>
      rw [search] at result
      cases colour : colouring root with
      | grey => exact absurd colour (noStack root)
      | black =>
          simp only [colour] at result
          exact ih finished noStack result
      | white =>
          simp only [colour] at result
          cases visitResult : visit successors fuel root colouring with
          | none => simp [visitResult] at result
          | some outcome =>
              cases outcome with
              | error inner =>
                  refine visit_reports successors fuel root colouring inner colour finished ?_
                    visitResult
                  intro stacked grey
                  exact absurd grey (noStack stacked)
              | ok visited =>
                  simp only [visitResult] at result
                  rcases visit_sound successors fuel root colouring visited colour finished
                    visitResult with ⟨advances, visitFinished, _⟩
                  refine ih visitFinished ?_ result
                  intro vertex grey
                  exact noStack vertex ((advances.grey_iff vertex).mp grey)

/-- The termination measure: listed vertices that are still white. -/
def whiteCount (vertices : List Vertex) (colouring : Colouring Vertex) : Nat :=
  vertices.countP fun vertex => colouring vertex = .white

omit [DecidableEq Vertex] in
theorem whiteCount_le_of_advances (vertices : List Vertex)
    {before after : Colouring Vertex} (advances : Advances before after) :
    whiteCount vertices after ≤ whiteCount vertices before := by
  apply List.countP_mono_left
  intro vertex _ white
  have afterWhite : after vertex = .white := of_decide_eq_true white
  exact decide_eq_true (advances.white_of_white afterWhite)

theorem whiteCount_paint_lt {vertices : List Vertex} {colouring : Colouring Vertex}
    {vertex : Vertex} (listed : vertex ∈ vertices) (white : colouring vertex = .white) :
    whiteCount vertices (paint colouring vertex .grey) < whiteCount vertices colouring := by
  induction vertices with
  | nil => simp at listed
  | cons head tail ih =>
      have weaker : whiteCount tail (paint colouring vertex .grey) ≤
          whiteCount tail colouring := by
        apply List.countP_mono_left
        intro other _ stillWhite
        by_cases same : other = vertex
        · simp [same, white]
        · simpa [same] using stillWhite
      by_cases same : head = vertex
      · subst head
        simp only [whiteCount, List.countP_cons, white, paint_same] at weaker ⊢
        simpa using Nat.lt_succ_of_le weaker
      · have inTail : vertex ∈ tail := by
          simpa [Ne.symm same] using listed
        have smaller := ih inTail
        simp only [whiteCount, List.countP_cons, paint_of_ne _ _ same] at smaller ⊢
        exact Nat.add_lt_add_right smaller _

/-- Enough fuel for every white vertex lets a visit return. -/
def VisitReturns (successors : Vertex → List Vertex) (vertices : List Vertex) (bound : Nat)
    (visitor : Vertex → Colouring Vertex → Outcome Vertex) : Prop :=
  ∀ vertex ∈ vertices, ∀ colouring, colouring vertex = .white →
    Finished successors colouring → whiteCount vertices colouring ≤ bound →
    ∃ outcome, visitor vertex colouring = some outcome

omit [DecidableEq Vertex] in
theorem scan_returns {successors : Vertex → List Vertex} {vertices : List Vertex}
    {bound : Nat} {visitor : Vertex → Colouring Vertex → Outcome Vertex}
    (sound : VisitSound successors visitor)
    (returns : VisitReturns successors vertices bound visitor)
    (vertex : Vertex) (targets : List Vertex) (listed : ∀ next ∈ targets, next ∈ vertices)
    {colouring : Colouring Vertex} (finished : Finished successors colouring)
    (enough : whiteCount vertices colouring ≤ bound) :
    ∃ outcome, scan visitor vertex targets colouring = some outcome := by
  induction targets generalizing colouring with
  | nil => exact ⟨.ok colouring, rfl⟩
  | cons next rest ih =>
      have restListed : ∀ target ∈ rest, target ∈ vertices :=
        fun target membership => listed target (by simp [membership])
      rw [scan]
      cases colour : colouring next with
      | grey => exact ⟨.error (vertex, next), rfl⟩
      | black => exact ih restListed finished enough
      | white =>
          rcases returns next (listed next (by simp)) colouring colour finished enough with
            ⟨outcome, visitResult⟩
          cases outcome with
          | error edge => exact ⟨.error edge, by simp [visitResult]⟩
          | ok visited =>
              rcases sound next colouring visited colour finished visitResult with
                ⟨advances, visitFinished, _⟩
              simp only [visitResult]
              exact ih restListed visitFinished
                (Nat.le_trans (whiteCount_le_of_advances vertices advances) enough)

theorem visit_returns {successors : Vertex → List Vertex} {vertices : List Vertex}
    (closed : ∀ vertex ∈ vertices, ∀ next ∈ successors vertex, next ∈ vertices)
    (fuel : Nat) : VisitReturns successors vertices fuel (visit successors fuel) := by
  induction fuel with
  | zero =>
      intro vertex listed colouring white _ enough
      have positive := whiteCount_paint_lt listed white
      omega
  | succ fuel ih =>
      intro vertex listed colouring white finished enough
      have smaller := whiteCount_paint_lt listed white
      rcases scan_returns (visit_sound successors fuel) ih vertex
        (successors vertex) (closed vertex listed) (finished.paint_grey white) (by omega) with
        ⟨outcome, scanResult⟩
      rw [visit, scanResult]
      cases outcome with
      | error edge => exact ⟨.error edge, rfl⟩
      | ok scanned => exact ⟨.ok (paint scanned vertex .black), rfl⟩

theorem search_returns {successors : Vertex → List Vertex} {vertices : List Vertex}
    (closed : ∀ vertex ∈ vertices, ∀ next ∈ successors vertex, next ∈ vertices)
    (fuel : Nat) (roots : List Vertex) (listed : ∀ root ∈ roots, root ∈ vertices)
    {colouring : Colouring Vertex} (finished : Finished successors colouring)
    (enough : whiteCount vertices colouring ≤ fuel) :
    ∃ outcome, search successors fuel roots colouring = some outcome := by
  induction roots generalizing colouring with
  | nil => exact ⟨.ok colouring, rfl⟩
  | cons root rest ih =>
      have restListed : ∀ target ∈ rest, target ∈ vertices :=
        fun target membership => listed target (by simp [membership])
      rw [search]
      cases colour : colouring root with
      | grey | black => exact ih restListed finished enough
      | white =>
          rcases visit_returns closed fuel root (listed root (by simp)) colouring colour
            finished enough with ⟨outcome, visitResult⟩
          cases outcome with
          | error edge => exact ⟨.error edge, by simp [visitResult]⟩
          | ok visited =>
              rcases visit_sound successors fuel root colouring visited colour finished
                visitResult with ⟨advances, visitFinished, _⟩
              simp only [visitResult]
              exact ih restListed visitFinished
                (Nat.le_trans (whiteCount_le_of_advances vertices advances) enough)

omit [DecidableEq Vertex] in
theorem scan_mono {first second : Vertex → Colouring Vertex → Outcome Vertex}
    (extends_ : ∀ vertex colouring outcome, first vertex colouring = some outcome →
      second vertex colouring = some outcome)
    (vertex : Vertex) (targets : List Vertex) {colouring : Colouring Vertex}
    {outcome : Except (Vertex × Vertex) (Colouring Vertex)}
    (result : scan first vertex targets colouring = some outcome) :
    scan second vertex targets colouring = some outcome := by
  induction targets generalizing colouring with
  | nil => exact result
  | cons next rest ih =>
      rw [scan] at result ⊢
      cases colour : colouring next with
      | grey => simpa [colour] using result
      | black =>
          rw [colour] at result
          exact ih result
      | white =>
          rw [colour] at result
          cases visitResult : first next colouring with
          | none => simp [visitResult] at result
          | some visitOutcome =>
              simp only [extends_ next colouring visitOutcome visitResult]
              rw [visitResult] at result
              cases visitOutcome with
              | error edge => exact result
              | ok visited => exact ih result

theorem visit_succ (successors : Vertex → List Vertex) (fuel : Nat) :
    ∀ vertex colouring outcome, visit successors fuel vertex colouring = some outcome →
      visit successors (fuel + 1) vertex colouring = some outcome := by
  induction fuel with
  | zero =>
      intro vertex colouring outcome result
      simp [visit] at result
  | succ fuel ih =>
      intro vertex colouring outcome result
      rw [visit] at result ⊢
      cases scanResult : scan (visit successors fuel) vertex (successors vertex)
          (paint colouring vertex .grey) with
      | none => simp [scanResult] at result
      | some scanOutcome =>
          rw [scan_mono ih vertex (successors vertex) scanResult]
          rw [scanResult] at result
          exact result

theorem search_succ (successors : Vertex → List Vertex) (fuel : Nat) (roots : List Vertex)
    {colouring : Colouring Vertex} {outcome : Except (Vertex × Vertex) (Colouring Vertex)}
    (result : search successors fuel roots colouring = some outcome) :
    search successors (fuel + 1) roots colouring = some outcome := by
  induction roots generalizing colouring with
  | nil => exact result
  | cons root rest ih =>
      rw [search] at result ⊢
      cases colour : colouring root with
      | grey | black =>
          simp only [colour] at result ⊢
          exact ih result
      | white =>
          simp only [colour] at result ⊢
          cases visitResult : visit successors fuel root colouring with
          | none => simp [visitResult] at result
          | some visitOutcome =>
              rw [visit_succ successors fuel root colouring visitOutcome visitResult]
              rw [visitResult] at result
              cases visitOutcome with
              | error edge => exact result
              | ok visited => exact ih result

/-- An answer does not depend on the fuel that was left. -/
theorem search_mono (successors : Vertex → List Vertex) {fuel more : Nat}
    (enough : fuel ≤ more) (roots : List Vertex) {colouring : Colouring Vertex}
    {outcome : Except (Vertex × Vertex) (Colouring Vertex)}
    (result : search successors fuel roots colouring = some outcome) :
    search successors more roots colouring = some outcome := by
  induction enough with
  | refl => exact result
  | step _ ih => exact search_succ successors _ roots ih

/-- The empty colour map. -/
def unvisited : Colouring Vertex := fun _ => .white

omit [DecidableEq Vertex] in
theorem unvisited_finished (successors : Vertex → List Vertex) :
    Finished successors unvisited :=
  ⟨fun _ black => by simp [unvisited] at black, fun _ black => by simp [unvisited] at black⟩

/-- As many calls as there are vertices always suffice. -/
theorem search_terminates {successors : Vertex → List Vertex} {vertices : List Vertex}
    (closed : ∀ vertex ∈ vertices, ∀ next ∈ successors vertex, next ∈ vertices)
    {fuel : Nat} (enough : vertices.length ≤ fuel) :
    ∃ outcome, search successors fuel vertices unvisited = some outcome := by
  apply search_returns closed fuel vertices (fun _ membership => membership)
    (unvisited_finished successors)
  exact Nat.le_trans List.countP_le_length enough

/-- A search that covers every vertex with a successor succeeds exactly on
acyclic graphs. -/
theorem search_ok_iff_acyclic {successors : Vertex → List Vertex} {vertices : List Vertex}
    (covered : ∀ vertex, successors vertex ≠ [] → vertex ∈ vertices) {fuel : Nat}
    {outcome : Except (Vertex × Vertex) (Colouring Vertex)}
    (result : search successors fuel vertices unvisited = some outcome) :
    (∃ searched, outcome = .ok searched) ↔ Acyclic successors := by
  have noStack : ∀ vertex : Vertex, unvisited vertex ≠ .grey := by simp [unvisited]
  constructor
  · rintro ⟨searched, rfl⟩ vertex cycle
    rcases search_sound successors fuel vertices (unvisited_finished successors) noStack
      result with ⟨_, finished, black⟩
    rcases TransGen.head'_iff.mp cycle with ⟨next, edge, _⟩
    have listed := covered vertex (List.ne_nil_of_mem edge)
    exact finished.acyclic vertex (black vertex listed) cycle
  · intro acyclic
    cases outcome with
    | ok searched => exact ⟨searched, rfl⟩
    | error edge =>
        rcases search_reports successors fuel vertices (unvisited_finished successors) noStack
          result with ⟨witness, cycle⟩
        exact False.elim (acyclic witness cycle)

end DepthFirst
