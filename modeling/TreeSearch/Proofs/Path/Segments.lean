import TreeSearch.Path

/-!
# Paths and their segments

A path keeps its segments with the last one first, and beside them their number. Every operation
keeps the two in step, so a path represents the segments that it was made from, in their order
(`Path.Represents`), and everything that is observed of the path can be told from them. Equal paths
are those that represent the same segments. Their renderings may be the same although the paths are
not, as a rendering forgets where a segment ends.

A rendering follows the segments, too: the rendering of a path that is extended is the one of the
path and the one of the further segments, with a separator between them where both have segments
(`Path.render_extend`), whether or not the segments are rendered as any text.
-/

namespace TreeSearch

namespace Path

/-- The path extended by segments. -/
def extend (p : Path) (segments : List Segment) : Path := segments.foldl append p

theorem extend_cons (p : Path) (s : Segment) (rest : List Segment) :
    p.extend (s :: rest) = (p.append s).extend rest :=
  rfl

theorem extend_append (p : Path) (first second : List Segment) :
    p.extend (first ++ second) = (p.extend first).extend second :=
  List.foldl_append

@[simp] theorem segments_extend (p : Path) (segments : List Segment) :
    (p.extend segments).segments = p.segments ++ segments := by
  induction segments generalizing p with
  | nil => simp [extend]
  | cons s rest ih =>
      rw [extend_cons, ih, segments_append, List.append_assoc, List.singleton_append]

@[simp] theorem segments_ofSegments (segments : List Segment) :
    (ofSegments segments).segments = segments :=
  segments_extend empty segments

theorem ofSegments_append (first second : List Segment) :
    ofSegments (first ++ second) = (ofSegments first).extend second :=
  extend_append empty first second

section Rendering

variable (separator : String)

/-- The rendering of an extended path joins two renderings. The separator depends on whether there
are segments on both sides, and not on their texts. -/
theorem render_extend (p : Path) (tail : List Segment) :
    (p.extend tail).render separator =
      p.render separator ++ (if p.segments = [] ∨ tail = [] then "" else separator) ++
        (ofSegments tail).render separator := by
  rw [render, render, render, segments_extend, segments_ofSegments, List.map_append]
  -- Lists without elements are told apart before the texts are joined: a list with one empty text
  -- is joined to the same text as the empty list.
  by_cases root : p.segments = []
  · simp [root]
  · by_cases same : tail = []
    · simp [same]
    · rw [if_neg (not_or.mpr ⟨root, same⟩), String.intercalate_append_of_ne_nil]
      · exact mt List.map_eq_nil_iff.mp root
      · exact mt List.map_eq_nil_iff.mp same

example : (ofSegments ([.field "", .field "a"] ++ [.field ""])).render "/" = "/a" ++ "/" ++ "" := by
  decide

theorem render_append (p : Path) (s : Segment) :
    (p.append s).render separator =
      p.render separator ++ (if p.segments = [] then "" else separator) ++ s.render := by
  have single : (ofSegments [s]).render separator = s.render := by
    simp [render]
  calc (p.append s).render separator
      _ = (p.extend [s]).render separator := rfl
      _ = p.render separator ++ (if p.segments = [] ∨ [s] = [] then "" else separator) ++
          (ofSegments [s]).render separator := p.render_extend separator [s]
      _ = p.render separator ++ (if p.segments = [] then "" else separator) ++ s.render := by
        simp [single]

/-- A position and a key that is written like it are rendered alike, though one stands for an
element of a list and the other one for an entry of a keyed map. -/
theorem render_appendIndexed_eq (p : Path) (name : String) (position : Nat) :
    (p.appendIndexed name position).render separator =
      (p.appendKeyed name position.repr).render separator := by
  rw [appendIndexed, appendKeyed, render_append, render_append]
  rfl

/-- A name that contains the separator is rendered like the two names around it. -/
theorem render_appendField_eq (p : Path) (first second : String) :
    (p.appendField (first ++ separator ++ second)).render separator =
      ((p.appendField first).appendField second).render separator := by
  have below : (p.append (.field first)).segments ≠ [] := by simp
  simp only [appendField, render_append, if_neg below, Segment.render, String.append_assoc]

end Rendering

/-- The path represents the segments: its links are the segments, the last one first, and it counts
as many. -/
structure Represents (p : Path) (segments : List Segment) : Prop where
  links : p.links = segments.reverse
  len : p.len = segments.length

namespace Represents

variable {p q : Path} {segments others : List Segment}

theorem segments_eq (represents : p.Represents segments) : p.segments = segments := by
  rw [Path.segments, represents.links, List.reverse_reverse]

theorem last?_eq (represents : p.Represents segments) : p.last? = segments.getLast? := by
  rw [last?, represents.links, List.head?_reverse]

theorem isEmpty_iff (represents : p.Represents segments) : p.isEmpty = true ↔ segments = [] := by
  rw [isEmpty, decide_eq_true_iff, represents.len, List.length_eq_zero_iff]

/-- Paths are equal if they represent the same segments. To compare their lengths first never
changes the answer, as the same segments have the same length. -/
theorem beq_iff (represents : p.Represents segments) (represents' : q.Represents others) :
    (p == q) = true ↔ segments = others := by
  change (p.len == q.len && p.segments == q.segments) = true ↔ segments = others
  rw [Bool.and_eq_true, beq_iff_eq, beq_iff_eq, represents.len, represents'.len,
    represents.segments_eq, represents'.segments_eq]
  exact and_iff_right_of_imp (congrArg List.length)

theorem beq_eq_false (represents : p.Represents segments) (represents' : q.Represents others)
    (differ : segments ≠ others) : (p == q) = false := by
  rw [Bool.eq_false_iff]
  exact mt (represents.beq_iff represents').mp differ

theorem append (represents : p.Represents segments) (s : Segment) :
    (p.append s).Represents (segments ++ [s]) where
  links := by rw [Path.append, represents.links, List.reverse_concat]
  len := by rw [Path.append, represents.len, List.length_append, List.length_singleton]

theorem extend (represents : p.Represents segments) (tail : List Segment) :
    (p.extend tail).Represents (segments ++ tail) := by
  induction tail generalizing p segments with
  | nil =>
      rw [List.append_nil]
      exact represents
  | cons s rest ih =>
      rw [extend_cons, List.append_cons]
      exact ih (represents.append s)

end Represents

theorem represents_empty : empty.Represents [] := ⟨rfl, rfl⟩

theorem represents_ofSegments (segments : List Segment) :
    (ofSegments segments).Represents segments :=
  represents_empty.extend segments

/-- A way to make a path. -/
inductive Construction where
  | empty
  | append (base : Construction) (s : Segment)
  | appendField (base : Construction) (name : String)
  | appendIndexed (base : Construction) (name : String) (position : Nat)
  | appendKeyed (base : Construction) (name key : String)
  | appendKind (base : Construction) (typeName : String)
  | clone (base : Construction)
  | collect (segments : List Segment)

namespace Construction

/-- The path that is made. -/
def path : Construction → Path
  | .empty => Path.empty
  | .append base s => base.path.append s
  | .appendField base name => base.path.appendField name
  | .appendIndexed base name position => base.path.appendIndexed name position
  | .appendKeyed base name key => base.path.appendKeyed name key
  | .appendKind base typeName => base.path.appendKind typeName
  | .clone base => base.path
  | .collect segments => ofSegments segments

/-- The segments that are appended, in the order in which they are. -/
def appended : Construction → List Segment
  | .empty => []
  | .append base s => base.appended ++ [s]
  | .appendField base name => base.appended ++ [.field name]
  | .appendIndexed base name position => base.appended ++ [.index name position]
  | .appendKeyed base name key => base.appended ++ [.key name key]
  | .appendKind base typeName => base.appended ++ [.kind typeName]
  | .clone base => base.appended
  | .collect segments => segments

/-- Every operation keeps the links and their number in step with the appended segments. -/
theorem represents (c : Construction) : c.path.Represents c.appended := by
  induction c with
  | empty => exact represents_empty
  | append base s ih => exact ih.append s
  | appendField base name ih => exact ih.append (.field name)
  | appendIndexed base name position ih => exact ih.append (.index name position)
  | appendKeyed base name key ih => exact ih.append (.key name key)
  | appendKind base typeName ih => exact ih.append (.kind typeName)
  | clone base ih => exact ih
  | collect segments => exact represents_ofSegments segments

/-- A path represents the segments that were appended when it was made. It counts its links and its
segments, lists the segments in the order in which they were appended, tells the last one and
whether there is one, and is collected again from its segments. Paths are equal exactly if their
segments are: an element of a list and an entry of a keyed map are never equal, nor are a name with
the separator in it and two names, although they are rendered alike. -/
theorem path_represents_appended (c : Construction) :
    c.path.len = c.path.links.length ∧ c.path.len = c.path.segments.length ∧
    c.path.segments = c.appended ∧
    c.path.last? = c.appended.getLast? ∧
    (c.path.isEmpty = true ↔ c.appended = []) ∧
    (ofSegments c.path.segments == c.path) = true ∧
    (∀ d : Construction, (c.path == d.path) = true ↔ c.path.segments = d.path.segments) ∧
    ∀ separator : String,
      (∀ name position,
        (c.appendIndexed name position).path.render separator =
            (c.appendKeyed name position.repr).path.render separator ∧
          ((c.appendIndexed name position).path == (c.appendKeyed name position.repr).path) =
            false) ∧
      ∀ first second,
        (c.appendField (first ++ separator ++ second)).path.render separator =
            ((c.appendField first).appendField second).path.render separator ∧
          ((c.appendField (first ++ separator ++ second)).path ==
              ((c.appendField first).appendField second).path) =
            false := by
  have here := c.represents
  have listed := here.segments_eq
  refine ⟨?_, ?_, listed, here.last?_eq, here.isEmpty_iff, ?_, ?_, ?_⟩
  · rw [here.len, here.links, List.length_reverse]
  · rw [here.len, listed]
  · exact ((represents_ofSegments c.path.segments).beq_iff here).mpr listed
  · intro d
    rw [here.beq_iff d.represents, listed, d.represents.segments_eq]
  · intro separator
    constructor
    · intro name position
      refine ⟨c.path.render_appendIndexed_eq separator name position, ?_⟩
      -- Both have as many segments, so here the comparison of the segments decides.
      apply (represents _).beq_eq_false (represents _)
      simp [appended]
    · intro first second
      refine ⟨c.path.render_appendField_eq separator first second, ?_⟩
      -- One segment against two: the lengths decide.
      apply (represents _).beq_eq_false (represents _)
      intro same
      have lengths := congrArg List.length same
      simp [appended] at lengths

end Construction

end Path

end TreeSearch
